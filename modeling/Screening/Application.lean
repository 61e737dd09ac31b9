import Screening.Json.Reader
import Screening.Record
import Screening.Rule.Book
import Screening.Transaction

/-!
# Applying conditions and rules to JSON texts

A transaction and its user come as JSON texts. `Application.evaluate` applies one condition to
them, after checking it, and `Application.score` a list of rules, which comes as a JSON text as
well. The user may be left out, and then has no attributes.

A condition is checked and applied with the engine of a schema. Rules are put into a book of their
own, which takes over the fields and the bounds of the schema; the engine applies them.
-/

namespace Screening

/-- Why a condition or rules are not applied. -/
inductive Refusal where
  /-- The condition is not accepted. -/
  | condition (diagnostic : Diagnostic)
  /-- A JSON text cannot be read. -/
  | unreadable
  | noTransaction
  deriving DecidableEq

/-- What is said about a refusal. -/
def Refusal.message : Refusal → String
  | .condition d => "Invalid expression: " ++ d.display
  | .unreadable => "Invalid JSON: the text cannot be read"
  | .noTransaction => "No transaction provided. Use --tx or pipe JSON to stdin."

/-- A condition that has been applied: its canonical form, and whether it holds. -/
structure Application where
  expression : String
  matched : Bool
  deriving DecidableEq

/-- An applied condition as JSON. -/
def Application.toJson (a : Application) : Json :=
  .object [("expression", .text a.expression), ("matched", .boolean a.matched)]

namespace Application

/-- The JSON value that a text writes. -/
def jsonOf (text : String) : Except Refusal Json :=
  match (Json.document? text).bind Json.ofDocument? with
  | some j => .ok j
  | none => .error .unreadable

/-- The facts that the texts of a transaction and of a user state. -/
def facts (transaction user : Option String) : Except Refusal Facts := do
  let transaction ←
    match transaction with
    | some text => jsonOf text
    | none => throw .noTransaction
  let user ←
    match user with
    | some text => jsonOf text
    | none => pure (.object [])
  return Facts.ofJson transaction user

/-! ## One condition -/

/-- Checks a condition, and then reads the facts it is applied to. -/
def prepare (schema : Schema) (source : String) (transaction user : Option String) :
    Except Refusal (Condition × Facts) := do
  let c ← (schema.compile source).mapError .condition
  return (c, ← facts transaction user)

/-- Applies a condition to a transaction and a user. -/
def evaluate (schema : Schema) (source : String) (transaction user : Option String) :
    Except Refusal Application :=
  (prepare schema source transaction user).map fun (c, facts) =>
    ⟨c.print, schema.engine.evaluator.holds facts c⟩

/-- What is told while a condition is applied. -/
def evaluateEvents (schema : Schema) (source : String) (transaction user : Option String) :
    List Event :=
  match prepare schema source transaction user with
  | .ok (c, facts) => c.events schema.catalog facts
  | .error _ => []

/-! ## Rules -/

/-- The rules that a JSON text lists. -/
def rulesOf (text : String) : Except Refusal (List Rule) :=
  match (Json.document? text).bind (Document.listOf? (Rule.read? .json)) with
  | some rules => .ok rules
  | none => .error .unreadable

/-- A book with rules, which is given the bounds of a schema once the rules are in it. -/
def bookOf (schema : Schema) (rules : List Rule) : RuleBook :=
  (RuleBook.ofRules ⟨schema.catalog, Limits.standard⟩ rules).withLimits schema.limits

/-- Reads rules, and then the facts they are applied to. -/
def book (schema : Schema) (rules : String) (transaction user : Option String) :
    Except Refusal (RuleBook × Facts) := do
  let rules ← rulesOf rules
  return (bookOf schema rules, ← facts transaction user)

/-- Applies rules to a transaction and a user. -/
def score (schema : Schema) (rules : String) (transaction user : Option String) :
    Except Refusal Decision :=
  (book schema rules transaction user).map fun (book, facts) =>
    (book.score schema.engine.evaluator.catalog facts).1

/-- What is told while rules are applied. -/
def scoreEvents (schema : Schema) (rules : String) (transaction user : Option String) :
    List Event :=
  match book schema rules transaction user with
  | .ok (book, facts) => book.scoreEvents schema.catalog facts
  | .error _ => []

end Application

end Screening
