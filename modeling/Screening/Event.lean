import Screening.Catalog
import Screening.Diagnostic
import Screening.Obstacle

/-!
# Events

What can be told about the work while it is done: which comparisons were evaluated and why one had
no answer, which texts were refused, what happened to the stored rules and how a transaction was
decided. An `Event` holds what happened; its level, message and fields are what is told.
-/

namespace Screening

/-- Something that happened. -/
inductive Event where
  | engineReady (fields : Nat)
  | catalogRejected (error : CatalogError)
  | conditionRejected (diagnostic : Diagnostic)
  | comparisonEvaluated (position : Nat) (holds : Bool)
  | comparisonObstructed (position : Nat) (obstacle : Obstacle)
  | textTooLong (length limit : Nat)
  | textUnreadable (error : ReadError)
  | ruleUnusable (id : String) (diagnostic : Diagnostic)
  | ruleStored (id : String)
  | rulesPrepared (rules unusable : Nat)
  | ruleJudged (id : String) (priority : Int) (holds : Bool)
  | transactionDecided (rules matched : Nat) (fraud : Bool)

namespace Event

/-- How much an event matters. -/
def level : Event → String
  | .engineReady _ | .transactionDecided .. => "INFO"
  | .catalogRejected _ | .ruleUnusable .. => "WARN"
  | .comparisonEvaluated .. => "TRACE"
  | .conditionRejected _ | .comparisonObstructed .. | .textTooLong .. | .textUnreadable _
  | .ruleStored _ | .rulesPrepared .. | .ruleJudged .. => "DEBUG"

/-- What is told about every event of its kind. -/
def message : Event → String
  | .engineReady _ => "rule engine initialised"
  | .catalogRejected _ => "field catalog rejected"
  | .conditionRejected _ => "expression rejected"
  | .comparisonEvaluated .. => "comparison evaluated"
  | .comparisonObstructed .. => "comparison resolved to non-match"
  | .textTooLong .. => "expression too long, treating as non-match"
  | .textUnreadable _ => "expression does not parse, treating as non-match"
  | .ruleUnusable .. => "stored rule does not compile and will never match"
  | .ruleStored _ => "rule upserted"
  | .rulesPrepared .. => "enabled rule snapshot rebuilt"
  | .ruleJudged .. => "rule evaluated"
  | .transactionDecided .. => "transaction scored"

/-- What is told about this event: names and values. -/
def fields : Event → List (String × String)
  | .engineReady count => [("fields", toString count)]
  | .catalogRejected error => [("error", error.message)]
  | .conditionRejected d =>
      [("code", d.code.label), ("position", toString d.position), ("message", d.message)]
  | .comparisonEvaluated position holds =>
      [("position", toString position), ("matched", toString holds)]
  | .comparisonObstructed position obstacle =>
      [("position", toString position), ("reason", obstacle.message)]
  | .textTooLong length limit => [("length", toString length), ("max", toString limit)]
  | .textUnreadable error => [("error", error.message)]
  | .ruleUnusable id d => [("rule_id", id), ("code", d.code.label), ("message", d.message)]
  | .ruleStored id => [("rule_id", id)]
  | .rulesPrepared rules unusable =>
      [("rules", toString rules), ("uncompiled", toString unusable)]
  | .ruleJudged id priority holds =>
      [("rule_id", id), ("priority", toString priority), ("matched", toString holds)]
  | .transactionDecided rules matched fraud =>
      [("rules", toString rules), ("matched", toString matched), ("fraud", toString fraud)]

end Event

end Screening
