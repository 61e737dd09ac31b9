import Screening.Condition.Printer
import Screening.Evaluation

/-!
# Rules and decisions

A `Rule` is a stored condition with an identifier, a name and a priority. It is prepared once, by
reading and checking its condition, and can then be applied to any number of transactions: each
application gives a `Verdict` that says whether the rule matched and what was evaluated. A rule
whose condition is refused stays in the list and never matches.

A transaction is declined if at least one rule matched.
-/

namespace Screening

/-- A stored rule. -/
structure Rule where
  id : String
  name : String
  description : Option String
  /-- The text of the rule's condition. -/
  expression : String
  enabled : Bool
  /-- Rules of a lower number come first. -/
  priority : Int
  deriving DecidableEq

/-- A rule with its condition, or with the report about why it has none. -/
structure PreparedRule where
  rule : Rule
  condition : Except Diagnostic Condition

/-- What became of one rule on one transaction. -/
structure Verdict where
  ruleId : String
  ruleName : String
  priority : Int
  enabled : Bool
  matched : Bool
  description : String
  deriving DecidableEq

/-- What is done with a transaction. -/
inductive Status where
  | approved
  | declined
  deriving DecidableEq

/-- The name of what is done with a transaction. -/
def Status.label : Status → String
  | .approved => "APPROVED"
  | .declined => "DECLINED"

/-- What became of a transaction, and why. -/
structure Decision where
  isFraud : Bool
  status : Status
  verdicts : List Verdict
  deriving DecidableEq

/-! ## Preparing rules -/

/-- Reads and checks the condition of a rule. -/
def Schema.prepare (schema : Schema) (rule : Rule) : PreparedRule :=
  ⟨rule, schema.compile rule.expression⟩

namespace PreparedRule

/-- Whether the rule has a condition that can be evaluated. -/
def isUsable (r : PreparedRule) : Bool :=
  match r.condition with
  | .ok _ => true
  | .error _ => false

/-- What is told when the rule has been prepared. -/
def preparationEvents (r : PreparedRule) : List Event :=
  match r.condition with
  | .ok _ => []
  | .error d => [.ruleUnusable r.rule.id d]

/-- What was evaluated, or why nothing was. -/
def describe (r : PreparedRule) : String :=
  match r.condition with
  | .ok c => "Evaluated: " ++ c.print
  | .error d =>
      "Not evaluated: " ++ r.rule.expression ++ " (" ++ d.code.label ++ ": " ++ d.message ++ ")"

/-- Whether one rule comes no later than another: by priority, and then by identifier. -/
def comesBefore (r s : PreparedRule) : Bool :=
  decide (r.rule.priority < s.rule.priority) ||
    (r.rule.priority == s.rule.priority && !decide (s.rule.id < r.rule.id))

/-- Rules in the order in which they are applied; rules that tie stay as they were. -/
def sort (rules : List PreparedRule) : List PreparedRule := rules.mergeSort comesBefore

/-! ## Applying rules -/

/-- Whether the rule matches the facts. -/
def holds (catalog : Catalog) (facts : Facts) (r : PreparedRule) : Bool :=
  match r.condition with
  | .ok c => c.holds catalog facts
  | .error _ => false

/-- The verdict of the rule on the facts. -/
def judge (catalog : Catalog) (facts : Facts) (r : PreparedRule) : Verdict where
  ruleId := r.rule.id
  ruleName := r.rule.name
  priority := r.rule.priority
  enabled := r.rule.enabled
  matched := r.holds catalog facts
  description := r.describe

/-- What is told while the rule is applied to the facts. -/
def events (catalog : Catalog) (facts : Facts) (r : PreparedRule) : List Event :=
  (match r.condition with
    | .ok c => c.events catalog facts
    | .error _ => []) ++
    [.ruleJudged r.rule.id r.rule.priority (r.holds catalog facts)]

end PreparedRule

/-! ## Decisions -/

namespace Decision

/-- The decision that verdicts lead to: one match declines the transaction. -/
def ofVerdicts (verdicts : List Verdict) : Decision :=
  let isFraud := verdicts.any Verdict.matched
  ⟨isFraud, if isFraud then .declined else .approved, verdicts⟩

/-- The verdicts of the rules that matched. -/
def matching (d : Decision) : List Verdict := d.verdicts.filter Verdict.matched

/-- The decision that rules lead to, applied in the order given. -/
def ofRules (catalog : Catalog) (facts : Facts) (rules : List PreparedRule) : Decision :=
  ofVerdicts (rules.map (·.judge catalog facts))

/-- What is told while rules are applied and the transaction is decided. -/
def events (catalog : Catalog) (facts : Facts) (rules : List PreparedRule) : List Event :=
  let d := ofRules catalog facts rules
  rules.flatMap (·.events catalog facts) ++
    [.transactionDecided d.verdicts.length d.matching.length d.isFraud]

end Decision

end Screening
