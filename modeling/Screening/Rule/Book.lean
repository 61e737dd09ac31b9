import Screening.Rule

/-!
# Rule books

A `RuleBook` stores rules under their identifiers. The enabled rules are prepared when somebody
first asks for them, and this `Snapshot` is handed out again until a rule or the schema changes.
Snapshots are numbered, so that one can tell whether the same one was handed out again.
-/

namespace Screening

/-- The enabled rules, prepared and in the order in which they are applied. -/
structure Snapshot where
  edition : Nat
  rules : List PreparedRule

/-- Stored rules, with the snapshot of the enabled ones if there is one. -/
structure RuleBook where
  schema : Schema
  rules : Directory Rule
  snapshot : Option Snapshot
  /-- How many snapshots have been made. -/
  editions : Nat

namespace RuleBook

/-- A book without rules. -/
def empty (schema : Schema) : RuleBook := ⟨schema, .empty, none, 0⟩

/-- A book with these rules; of rules with one identifier the last is kept. -/
def ofRules (schema : Schema) (rules : List Rule) : RuleBook :=
  { empty schema with rules := Directory.ofList (rules.map fun rule => (rule.id, rule)) }

/-! ## Changing rules -/

/-- Drops the snapshot. -/
def invalidate (book : RuleBook) : RuleBook := { book with snapshot := none }

/-- Sets the bounds on the length of conditions. -/
def withLimits (book : RuleBook) (limits : Limits) : RuleBook :=
  { book with schema := { book.schema with limits } }.invalidate

/-- Stores a rule, in the place of one with the same identifier. -/
def upsert (book : RuleBook) (rule : Rule) : RuleBook :=
  { book with rules := book.rules.insert rule.id rule }.invalidate

/-- Disables a rule; says whether there is one with this identifier. -/
def disable (book : RuleBook) (id : String) : Bool × RuleBook :=
  match book.rules.find? id with
  | some rule =>
      (true, { book with rules := book.rules.insert id { rule with enabled := false } }.invalidate)
  | none => (false, book.invalidate)

/-- Takes a rule out of the book and gives it back, if there is one with this identifier. -/
def remove (book : RuleBook) (id : String) : Option Rule × RuleBook :=
  (book.rules.find? id, { book with rules := book.rules.erase id }.invalidate)

/-! ## Asking for rules -/

/-- The rule with this identifier. -/
def find? (book : RuleBook) (id : String) : Option Rule := book.rules.find? id

/-- How many rules are stored. -/
def size (book : RuleBook) : Nat := book.rules.size

/-- The enabled rules, prepared, in the order of their identifiers. -/
def prepared (book : RuleBook) : List PreparedRule :=
  (book.rules.values.filter Rule.enabled).map book.schema.prepare

/-- The snapshot of the enabled rules, which is made if there is none. -/
def enabled (book : RuleBook) : Snapshot × RuleBook :=
  match book.snapshot with
  | some snapshot => (snapshot, book)
  | none =>
      let snapshot := ⟨book.editions + 1, PreparedRule.sort book.prepared⟩
      (snapshot, { book with snapshot := some snapshot, editions := book.editions + 1 })

/-- What is told when somebody asks for the enabled rules. -/
def enabledEvents (book : RuleBook) : List Event :=
  match book.snapshot with
  | some _ => []
  | none =>
      let prepared := book.prepared
      prepared.flatMap PreparedRule.preparationEvents ++
        [.rulesPrepared prepared.length (prepared.filter fun r => !r.isUsable).length]

/-! ## Deciding -/

/-- The decision that the enabled rules lead to. -/
def score (book : RuleBook) (catalog : Catalog) (facts : Facts) : Decision × RuleBook :=
  let (snapshot, book) := book.enabled
  (Decision.ofRules catalog facts snapshot.rules, book)

/-- What is told while the enabled rules are applied. -/
def scoreEvents (book : RuleBook) (catalog : Catalog) (facts : Facts) : List Event :=
  book.enabledEvents ++ Decision.events catalog facts book.enabled.1.rules

end RuleBook

end Screening
