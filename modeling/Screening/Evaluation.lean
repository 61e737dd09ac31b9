import Screening.Event
import Screening.Facts
import Screening.Schema

/-!
# Applying conditions

`Comparison.outcome` says whether a comparison holds of the facts, or why it has no answer, and
`Condition.holds` whether a condition does. The literal decides how the field's value is read: as
a number against a number, as a text against a text. A comparison without an answer does not
hold, and so its negation does.

Conjunctions and disjunctions look at their right side only if the left side leaves the answer
open. `Condition.events` tells which comparisons are evaluated in this way, in their order.

An `Engine` checks conditions by a `Schema` and applies them with an `Evaluator`, which also reads
conditions that have not been checked. The two have bounds of their own on the length of a text, and
`Engine.withLimits` sets both.
-/

namespace Screening

/-- Whether a comparison holds of the facts, or why it has no answer. -/
def Comparison.outcome (catalog : Catalog) (facts : Facts) (c : Comparison) :
    Except Obstacle Bool :=
  match c.left, c.right with
  | .field name _, .literal literal _ =>
      if !catalog.contains name then .error (.unknownField name)
      else
        match facts.resolve name with
        | none => .error (.absent name)
        | some value =>
            match literal with
            | .number expected =>
                match value.asNumber? with
                | some actual => .ok (c.relation.holds actual (.finite expected))
                | none => .error (.unreadable name value.typeName .numeric)
            | .text expected =>
                match value.asText? with
                | some actual =>
                    match c.relation.holdsText actual expected with
                    | some holds => .ok holds
                    | none => .error (.orderedText c.relation)
                | none => .error (.unreadable name value.typeName .text)
  | _, _ => .error .shape

/-- Whether a comparison holds of the facts; without an answer it does not. -/
def Comparison.holds (catalog : Catalog) (facts : Facts) (c : Comparison) : Bool :=
  match c.outcome catalog facts with
  | .ok holds => holds
  | .error _ => false

namespace Condition

/-- Whether a condition holds of the facts. -/
def holds (catalog : Catalog) (facts : Facts) : Condition → Bool
  | .compare comparison => comparison.holds catalog facts
  | .not operand _ => !operand.holds catalog facts
  | .and left right _ => left.holds catalog facts && right.holds catalog facts
  | .or left right _ => left.holds catalog facts || right.holds catalog facts

/-- What is told while a condition is evaluated. -/
def events (catalog : Catalog) (facts : Facts) : Condition → List Event
  | .compare comparison =>
      match comparison.outcome catalog facts with
      | .ok holds => [.comparisonEvaluated comparison.position holds]
      | .error obstacle => [.comparisonObstructed comparison.position obstacle]
  | .not operand _ => operand.events catalog facts
  | .and left right _ =>
      left.events catalog facts ++
        if left.holds catalog facts then right.events catalog facts else []
  | .or left right _ =>
      left.events catalog facts ++
        if left.holds catalog facts then [] else right.events catalog facts

end Condition

/-! ## Texts -/

/-- What conditions are applied with: the fields that may be looked up, and how long the text of a
condition may be. -/
structure Evaluator where
  catalog : Catalog
  maxLength : Nat

namespace Evaluator

/-- Whether a condition holds of the facts. -/
def holds (e : Evaluator) (facts : Facts) (c : Condition) : Bool := c.holds e.catalog facts

/-- Whether the text of a condition is longer than the evaluator reads. -/
def tooLong (e : Evaluator) (source : String) : Bool :=
  e.maxLength < (Text.trim source.toList).length

/-- Whether the condition that a text is holds of the facts. A text that is too long or cannot be
read holds of nothing. -/
def holdsText (e : Evaluator) (facts : Facts) (source : String) : Bool :=
  if e.tooLong source then false
  else
    match Condition.read source with
    | .ok c => e.holds facts c
    | .error _ => false

/-- What is told while the condition that a text is is evaluated. -/
def textEvents (e : Evaluator) (facts : Facts) (source : String) : List Event :=
  if e.tooLong source then [.textTooLong (Text.trim source.toList).length e.maxLength]
  else
    match Condition.read source with
    | .ok c => c.events e.catalog facts
    | .error error => [.textUnreadable error]

end Evaluator

/-! ## Engines -/

/-- What conditions are checked with, and what they are applied with. -/
structure Engine where
  schema : Schema
  evaluator : Evaluator

namespace Engine

/-- The engine of a catalog, with the bounds where none are set. -/
def ofCatalog (catalog : Catalog) : Engine :=
  ⟨⟨catalog, Limits.standard⟩, ⟨catalog, Limits.standard.maxLength⟩⟩

/-- Sets the bounds on the length of conditions. -/
def withLimits (engine : Engine) (limits : Limits) : Engine :=
  let schema := { engine.schema with limits }
  ⟨schema, { engine.evaluator with maxLength := schema.limits.maxLength }⟩

end Engine

namespace Schema

/-- The engine that checks conditions by a schema. -/
def engine (schema : Schema) : Engine :=
  (Engine.ofCatalog schema.catalog).withLimits schema.limits

/-- Whether the condition that a text is holds of the facts, for the engine of a schema. -/
def holdsText (schema : Schema) (facts : Facts) (source : String) : Bool :=
  schema.engine.evaluator.holdsText facts source

/-- What is told while the engine of a schema evaluates the condition that a text is. -/
def textEvents (schema : Schema) (facts : Facts) (source : String) : List Event :=
  schema.engine.evaluator.textEvents facts source

/-- What is told while a text is validated. -/
def validationEvents (schema : Schema) (source : String) : List Event :=
  match schema.compile source with
  | .ok _ => []
  | .error d => [.conditionRejected d]

end Schema

end Screening
