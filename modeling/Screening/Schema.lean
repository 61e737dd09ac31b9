import Screening.Catalog
import Screening.Condition.Normal
import Screening.Condition.Reader
import Screening.Diagnostic

/-!
# Checking conditions

A `Schema` says what a condition may be: the fields it may name and how long its text may be.
`Schema.compile` reads the text of a condition and accepts it if its length without the blanks
around it is within the limits, if it uses nothing that the language does without, and if every
comparison asks of a field something that its kind can answer. Otherwise it reports the first
thing that is wrong, in this order; `Schema.validate` gives the same verdict together with the
normal spelling of an accepted text.
-/

namespace Screening

/-- Bounds on the length of a condition, in characters, without the blanks around it. -/
structure Limits where
  minLength : Nat
  maxLength : Nat
  deriving DecidableEq

/-- The bounds where none are set. -/
def Limits.standard : Limits := ⟨3, 2000⟩

/-- What a condition may be. -/
structure Schema where
  catalog : Catalog
  limits : Limits

namespace Schema

/-- The standard fields and bounds. -/
def standard : Schema := ⟨Catalog.standard, Limits.standard⟩

/-! ## Tokens -/

/-- The signs of arithmetic. -/
def arithmeticSigns : List String := ["+", "-", "*", "/", "%"]

/-- The first token that begins something the language does without: an arithmetic sign, or a
name with an opening parenthesis behind it. -/
def firstUnsupported : List Token → Option (Finding × Nat)
  | [] => none
  | t :: rest =>
      if t.kind = .unknown ∧ t.text ∈ arithmeticSigns then some (.arithmetic t.text, t.position)
      else if t.kind = .identifier ∧ (rest.head?.map Token.kind) = some .leftParen then
        some (.call t.text, t.position)
      else firstUnsupported rest

/-! ## Comparisons -/

/-- What is wrong with a comparison, and at which place. -/
def findingIn (catalog : Catalog) (c : Comparison) : Option (Finding × Nat) :=
  match c.left with
  | .literal _ position => some (.leftNotField, position)
  | .field name position =>
      match catalog.find? name with
      | none => some (.unknownField name, position)
      | some field =>
          match c.right with
          | .field other otherPosition => some (.rightIsField other, otherPosition)
          | .literal .. =>
              if field.kind = .text ∧ c.relation.isOrdering then
                some (.orderedText c.relation name, c.position)
              else none

/-- Accepts a condition in which no comparison is wrong, or reports the first that is. -/
def checkComparisons (catalog : Catalog) (source : String) (c : Condition) :
    Except Diagnostic Unit :=
  match c.comparisons.findSome? (findingIn catalog) with
  | some (finding, position) => .error (Diagnostic.ofFinding finding source position)
  | none => .ok ()

/-! ## The whole text -/

/-- What is wrong with the length of a text, and at which place. -/
def findingInLength (limits : Limits) (source : String) : Option (Finding × Nat) :=
  let length := (Text.trim source.toList).length
  if length < limits.minLength then some (.tooShort, 0)
  else if limits.maxLength < length then
    let leading := (source.toList.takeWhile Text.isBlank).length
    some (.tooLong limits.maxLength, leading + limits.maxLength)
  else none

/-- The condition that a text is, if it may be one. -/
def compile (schema : Schema) (source : String) : Except Diagnostic Condition := do
  if let some (finding, position) := findingInLength schema.limits source then
    throw (Diagnostic.ofFinding finding source position)
  if let some (finding, position) := firstUnsupported (tokens source) then
    throw (Diagnostic.ofFinding finding source position)
  let c ← (Condition.read source).mapError Diagnostic.ofReadError
  checkComparisons schema.catalog source c
  return c

/-- The normal spelling of a text that may be a condition, or the report about one that may not. -/
def validate (schema : Schema) (source : String) : Except Diagnostic String :=
  (schema.compile source).map fun _ => normalize source

end Schema

end Screening
