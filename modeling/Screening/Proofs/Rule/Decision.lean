import Mathlib.Data.List.Induction
import Mathlib.Logic.ExistsUnique
import Screening.Proofs.Rule.Book

/-!
# What a decision depends on

`Ledger.Decides` says what the right decision is, by the rules and limits of a ledger alone: there
is one verdict on every enabled rule, in order, and it is a match exactly if the rule's text is
accepted as a condition that holds. Whatever a book has been asked, its decision is right for the
ledger behind its history (`History.decides`).

A ledger serves one list of rules only (`Ledger.Serves.unique`). So two histories with one ledger
behind them lead to one decision, and rules with different identifiers may be stored in any order
(`Ledger.applyAll_upsert_of_perm`). Of these every enabled one is served
(`Ledger.Serves.perm_filter`).
-/

namespace Screening

/-! ## The right decision -/

/-- One verdict comes before another: by priority, and then by identifier. -/
def Verdict.Precedes (v w : Verdict) : Prop :=
  v.priority < w.priority ∨ v.priority = w.priority ∧ v.ruleId < w.ruleId

/-- `v.IsOn rule schema evaluator facts` says that `v` is the verdict on an enabled rule: a match
exactly if the schema accepts the text of the rule as a condition that holds of the facts. -/
structure Verdict.IsOn (v : Verdict) (rule : Rule) (schema : Schema) (evaluator : Evaluator)
    (facts : Facts) : Prop where
  ruleId_eq : v.ruleId = rule.id
  ruleName_eq : v.ruleName = rule.name
  priority_eq : v.priority = rule.priority
  enabled_eq : v.enabled = true
  matched_iff : v.matched = true ↔
    ∃ c, schema.compile rule.expression = .ok c ∧ evaluator.holds facts c = true

/-- `ledger.Decides catalog evaluator facts d` says that `d` is the decision that the enabled rules
of the ledger lead to. -/
structure Ledger.Decides (ledger : Ledger) (catalog : Catalog) (evaluator : Evaluator)
    (facts : Facts) (d : Decision) : Prop where
  exists_rule : ∀ v ∈ d.verdicts, ∃ rule, ledger.rules v.ruleId = some rule ∧ rule.enabled = true ∧
    v.IsOn rule ⟨catalog, ledger.limits⟩ evaluator facts
  existsUnique_verdict : ∀ id rule, ledger.rules id = some rule → rule.enabled = true →
    ∃! v, v ∈ d.verdicts ∧ v.ruleId = id
  ordered : d.verdicts.Pairwise Verdict.Precedes
  isFraud_iff : d.isFraud = true ↔ ∃ v ∈ d.verdicts, v.matched = true
  status_iff : d.status = .declined ↔ d.isFraud = true

variable {catalog : Catalog} {evaluator : Evaluator} {facts : Facts}

/-! ## Verdicts -/

namespace Verdict

theorem Precedes.ruleId_ne {v w : Verdict} (h : v.Precedes w)
    (hpriority : v.priority = w.priority) : v.ruleId ≠ w.ruleId := by
  rcases h with hlt | ⟨-, hlt⟩
  · exact absurd hpriority (Int.ne_of_lt hlt)
  · exact fun heq => String.lt_irrefl _ (heq ▸ hlt)

/-- Of verdicts in strict order no two have the same priority and identifier. -/
theorem eq_of_pairwise {verdicts : List Verdict} (h : verdicts.Pairwise Precedes) :
    ∀ v ∈ verdicts, ∀ w ∈ verdicts, v.priority = w.priority → v.ruleId = w.ruleId → v = w := by
  refine List.Pairwise.forall_of_forall_of_flip (fun _ _ _ _ => rfl) ?_ ?_
  · exact h.imp fun hvw hpriority hid => absurd hid (hvw.ruleId_ne hpriority)
  · exact h.imp fun hvw hpriority hid => absurd hid.symm (hvw.ruleId_ne hpriority.symm)

/-- An enabled rule is judged by its condition, if it has one. -/
theorem isOn_judge {schema : Schema} {rule : Rule} (h : rule.enabled = true) :
    ((schema.prepare rule).judge evaluator.catalog facts).IsOn rule schema evaluator facts := by
  refine ⟨rfl, rfl, rfl, h, ?_⟩
  show (schema.prepare rule).holds evaluator.catalog facts = true ↔ _
  unfold Schema.prepare PreparedRule.holds
  dsimp only
  cases schema.compile rule.expression with
  | error d => exact ⟨nofun, nofun⟩
  | ok c =>
    constructor
    · exact fun hholds => ⟨c, rfl, hholds⟩
    · rintro ⟨_, heq, hholds⟩
      cases heq
      exact hholds

end Verdict

/-! ## Decisions -/

theorem Decision.status_ofRules {rules : List PreparedRule} :
    (Decision.ofRules catalog facts rules).status = .declined ↔
      (Decision.ofRules catalog facts rules).isFraud = true := by
  unfold Decision.ofRules Decision.ofVerdicts
  dsimp only
  split
  · next h => exact ⟨fun _ => h, fun _ => rfl⟩
  · next h => exact ⟨nofun, fun hfraud => absurd hfraud h⟩

namespace Ledger

variable {ledger : Ledger} {rules : List PreparedRule}

/-- Every verdict on the rules that a ledger serves is the one on the rule under its identifier, if
every rule is stored under its own. -/
theorem Serves.exists_rule (h : ledger.Serves catalog rules)
    (hid : ∀ id rule, ledger.rules id = some rule → rule.id = id) (evaluator : Evaluator)
    (facts : Facts) :
    ∀ v ∈ rules.map (·.judge evaluator.catalog facts), ∃ rule,
      ledger.rules v.ruleId = some rule ∧ rule.enabled = true ∧
        v.IsOn rule ⟨catalog, ledger.limits⟩ evaluator facts := by
  intro v hv
  obtain ⟨r, hr, rfl⟩ := List.mem_map.1 hv
  obtain ⟨id, rule, hrule, henabled, rfl⟩ := (h.mem_iff r).1 hr
  have hfound : ledger.rules rule.id = some rule := (hid id rule hrule).symm ▸ hrule
  exact ⟨rule, hfound, henabled, Verdict.isOn_judge henabled⟩

/-- The rules that a ledger serves lead to the right decision. -/
theorem Serves.decides (h : ledger.Serves catalog rules)
    (hid : ∀ id rule, ledger.rules id = some rule → rule.id = id) :
    ledger.Decides catalog evaluator facts (.ofRules evaluator.catalog facts rules) := by
  have hordered : (rules.map (·.judge evaluator.catalog facts)).Pairwise Verdict.Precedes :=
    List.pairwise_map.2 h.ordered
  have hrules := h.exists_rule hid evaluator facts
  refine ⟨hrules, fun id rule hrule henabled => ?_, hordered, List.any_eq_true,
    Decision.status_ofRules⟩
  have hprepared := (h.mem_iff _).2 ⟨id, rule, hrule, henabled, rfl⟩
  refine ⟨_, ⟨List.mem_map_of_mem hprepared, hid id rule hrule⟩, fun v hv => ?_⟩
  -- a verdict with the same identifier is on the same rule, so it has the same priority
  obtain ⟨hv, hvid⟩ := hv
  obtain ⟨other, hother, -, hison⟩ := hrules v hv
  rw [hvid, hrule] at hother
  cases hother
  exact Verdict.eq_of_pairwise hordered v hv _ (List.mem_map_of_mem hprepared) hison.priority_eq
    hison.ruleId_eq

end Ledger

/-! ## One list of rules -/

namespace PreparedRule

theorem Precedes.asymm {r s : PreparedRule} (hrs : r.Precedes s) : ¬ s.Precedes r := by
  intro hsr
  rcases hrs with hrs | ⟨heq, hid⟩ <;> rcases hsr with hsr | ⟨heq', hid'⟩
  · exact Int.lt_asymm hrs hsr
  · exact absurd heq'.symm (Int.ne_of_lt hrs)
  · exact absurd heq.symm (Int.ne_of_lt hsr)
  · exact String.lt_asymm hid hid'

/-- No rule is applied before itself, however often it is prepared. -/
theorem Precedes.rule_ne {r s : PreparedRule} (hrs : r.Precedes s) : r.rule ≠ s.rule := by
  intro heq
  have hback : s.Precedes r := by
    rw [Precedes, heq] at hrs
    rwa [Precedes, heq]
  exact hrs.asymm hback

theorem Precedes.ne {r s : PreparedRule} (hrs : r.Precedes s) : r ≠ s :=
  fun heq => hrs.rule_ne (congrArg PreparedRule.rule heq)

/-- Rules in the order in which they are applied are known by which rules they are. -/
theorem eq_of_forall_mem_iff {rules rules' : List PreparedRule} (h : rules.Pairwise Precedes)
    (h' : rules'.Pairwise Precedes) (hmem : ∀ r, r ∈ rules ↔ r ∈ rules') : rules = rules' := by
  have hperm : rules.Perm rules' :=
    (List.perm_ext_iff_of_nodup (h.imp fun hrs => hrs.ne) (h'.imp fun hrs => hrs.ne)).2 hmem
  exact List.Perm.eq_of_pairwise (fun _ _ _ _ hrs hsr => absurd hsr hrs.asymm) h h' hperm

end PreparedRule

namespace Ledger

variable {ledger : Ledger}

/-- A ledger serves one list of rules: which rules they are and how they are ordered leaves no
choice. -/
theorem Serves.unique {rules rules' : List PreparedRule} (h : ledger.Serves catalog rules)
    (h' : ledger.Serves catalog rules') : rules = rules' :=
  PreparedRule.eq_of_forall_mem_iff h.ordered h'.ordered fun r =>
    (h.mem_iff r).trans (h'.mem_iff r).symm

/-! ## Rules with different identifiers -/

/-- Entries under different identifiers can be written in either order. -/
theorem write_comm {id id' : String} (h : id ≠ id') (entry entry' : Option Rule) :
    (ledger.write id entry).write id' entry' = (ledger.write id' entry').write id entry := by
  have hrules : (fun other => if other = id' then entry' else
      if other = id then entry else ledger.rules other) = fun other =>
        if other = id then entry else if other = id' then entry' else ledger.rules other := by
    funext other
    split
    · next heq => rw [heq, if_neg h.symm]
    · rfl
  simp only [write, hrules]

/-- Rules with different identifiers can be stored in any order. -/
theorem applyAll_upsert_of_perm {rules rules' : List Rule} (hperm : rules.Perm rules')
    (hids : rules.Pairwise fun rule other => rule.id ≠ other.id) (ledger : Ledger) :
    ledger.applyAll (rules.map .upsert) = ledger.applyAll (rules'.map .upsert) := by
  have hcomm : ∀ rule ∈ rules, ∀ other ∈ rules, ∀ ledger : Ledger,
      (ledger.apply (.upsert rule)).apply (.upsert other) =
        (ledger.apply (.upsert other)).apply (.upsert rule) := by
    refine List.Pairwise.forall_of_forall_of_flip (fun _ _ _ => rfl) ?_ ?_
    · exact hids.imp fun hne ledger => write_comm hne _ _
    · exact hids.imp fun hne ledger => write_comm hne.symm _ _
  simp only [applyAll, List.foldl_map]
  exact hperm.foldl_eq' hcomm ledger

/-- Rules with different identifiers are all kept. -/
theorem ofRules_eq_some_iff {limits : Limits} {rules : List Rule}
    (hids : rules.Pairwise fun rule other => rule.id ≠ other.id) {id : String} {rule : Rule} :
    (ofRules limits rules).rules id = some rule ↔ rule ∈ rules ∧ rule.id = id := by
  induction rules using List.reverseRecOn with
  | nil => exact ⟨nofun, nofun⟩
  | append_singleton rules last ih =>
    obtain ⟨hids, -, hlast⟩ := List.pairwise_append.1 hids
    have hlookup : (ofRules limits (rules ++ [last])).rules id =
        if id = last.id then some last else (ofRules limits rules).rules id := by
      rw [ofRules, List.map_append, applyAll, List.foldl_append]
      rfl
    rw [hlookup, List.mem_append, List.mem_singleton]
    split
    · next heq =>
      constructor
      · rintro ⟨⟩
        exact ⟨.inr rfl, heq.symm⟩
      · rintro ⟨hrule | rfl, hid⟩
        · exact absurd (hid.trans heq) (hlast rule hrule last (.head _))
        · rfl
    · next hne =>
      rw [ih hids]
      constructor
      · exact fun ⟨hrule, hid⟩ => ⟨.inl hrule, hid⟩
      · rintro ⟨hrule | rfl, hid⟩
        · exact ⟨hrule, hid⟩
        · exact absurd hid.symm hne

/-- The rules that a ledger serves are the enabled ones among those it was made from. -/
theorem Serves.perm_filter {limits limits' : Limits} {catalog : Catalog} {rules : List Rule}
    {prepared : List PreparedRule}
    (h : Serves ⟨(ofRules limits rules).rules, limits'⟩ catalog prepared)
    (hids : rules.Pairwise fun rule other => rule.id ≠ other.id) :
    (prepared.map PreparedRule.rule).Perm (rules.filter Rule.enabled) := by
  have hprepared : (prepared.map PreparedRule.rule).Nodup :=
    List.pairwise_map.2 (h.ordered.imp fun hrs => hrs.rule_ne)
  have hrules : rules.Nodup := hids.imp fun hne heq => hne (congrArg Rule.id heq)
  refine (List.perm_ext_iff_of_nodup hprepared (hrules.filter _)).2 fun rule => ?_
  rw [List.mem_map, List.mem_filter]
  constructor
  · rintro ⟨r, hr, rfl⟩
    obtain ⟨id, rule, hrule, henabled, rfl⟩ := (h.mem_iff r).1 hr
    exact ⟨((ofRules_eq_some_iff hids).1 hrule).1, henabled⟩
  · rintro ⟨hrule, henabled⟩
    have hstored : (ofRules limits rules).rules rule.id = some rule :=
      (ofRules_eq_some_iff hids).2 ⟨hrule, rfl⟩
    exact ⟨_, (h.mem_iff _).2 ⟨rule.id, rule, hstored, henabled, rfl⟩, rfl⟩

end Ledger

/-! ## Histories -/

/-- What has become of a rule book: the limits and rules it was started with, and what it has been
asked since. -/
structure History where
  limits : Limits
  rules : List Rule
  requests : List Request

namespace History

/-- The book behind a history. -/
def book (h : History) (catalog : Catalog) : RuleBook :=
  (RuleBook.ofRules ⟨catalog, h.limits⟩ h.rules).performAll h.requests

/-- The ledger behind a history. -/
def ledger (h : History) : Ledger := (Ledger.ofRules h.limits h.rules).applyAll h.requests

/-- The decision of the book behind a history, taken with an engine. -/
def decision (h : History) (catalog : Catalog) (engine : Engine) (facts : Facts) : Decision :=
  ((h.book catalog).score engine.evaluator.catalog facts).1

theorem follows (h : History) (catalog : Catalog) :
    (h.book catalog).Follows h.ledger catalog := by
  unfold book ledger
  rw [RuleBook.ofRules_eq_performAll]
  exact ((RuleBook.follows_empty ⟨catalog, h.limits⟩).performAll _).performAll _

/-- The decision behind a history is the one that its ledger leads to. -/
theorem decides (h : History) (catalog : Catalog) (engine : Engine) (facts : Facts) :
    h.ledger.Decides catalog engine.evaluator facts (h.decision catalog engine facts) :=
  (h.follows catalog).serves.decides (h.follows catalog).id_eq

/-- Histories with one ledger behind them lead to one decision. -/
theorem decision_eq_of_ledger_eq {h h' : History} (heq : h.ledger = h'.ledger) (catalog : Catalog)
    (engine : Engine) (facts : Facts) :
    h.decision catalog engine facts = h'.decision catalog engine facts := by
  have hserves := (h.follows catalog).serves
  rw [heq] at hserves
  have hrules := hserves.unique (h'.follows catalog).serves
  show Decision.ofRules _ _ (h.book catalog).enabled.1.rules = _
  rw [hrules]
  rfl

/-- A book may be started with rules of different identifiers in any order. -/
theorem ledger_eq_of_perm {rules rules' : List Rule} (hperm : rules.Perm rules')
    (hids : rules.Pairwise fun rule other => rule.id ≠ other.id) (limits : Limits)
    (requests : List Request) :
    ledger ⟨limits, rules, requests⟩ = ledger ⟨limits, rules', requests⟩ := by
  unfold ledger Ledger.ofRules
  rw [Ledger.applyAll_upsert_of_perm hperm hids]

/-- Rules of different identifiers may be stored in any order amid other requests. -/
theorem ledger_eq_of_perm_upsert {rules rules' : List Rule} (hperm : rules.Perm rules')
    (hids : rules.Pairwise fun rule other => rule.id ≠ other.id) (limits : Limits)
    (stored : List Rule) (before behind : List Request) :
    ledger ⟨limits, stored, before ++ rules.map .upsert ++ behind⟩ =
      ledger ⟨limits, stored, before ++ rules'.map .upsert ++ behind⟩ := by
  have happend : ∀ (ledger : Ledger) (requests requests' : List Request),
      ledger.applyAll (requests ++ requests') = (ledger.applyAll requests).applyAll requests' :=
    fun _ _ _ => List.foldl_append
  unfold ledger
  simp only [happend]
  rw [Ledger.applyAll_upsert_of_perm hperm hids]

end History

/-- **A decision depends on the stored rules alone.** It is the one that the ledger behind the
history of a book leads to, and deciding changes the book as asking for its rules does. Histories
with one ledger behind them lead to one decision, and so do histories that differ in the order alone
in which rules of different identifiers are stored. -/
theorem decision_of_history (catalog : Catalog) (engine : Engine) (facts : Facts) :
    (∀ h : History,
      h.ledger.Decides catalog engine.evaluator facts (h.decision catalog engine facts) ∧
      ((h.book catalog).score engine.evaluator.catalog facts).2 =
        ((h.book catalog).perform .enabled).2) ∧
    (∀ h h' : History, h.ledger = h'.ledger →
      h.decision catalog engine facts = h'.decision catalog engine facts) ∧
    ∀ rules rules' : List Rule, rules.Perm rules' →
      (rules.Pairwise fun rule other => rule.id ≠ other.id) →
      ∀ (limits : Limits) (stored : List Rule) (before behind : List Request),
        History.decision ⟨limits, rules, behind⟩ catalog engine facts =
          History.decision ⟨limits, rules', behind⟩ catalog engine facts ∧
        History.decision ⟨limits, stored, before ++ rules.map .upsert ++ behind⟩ catalog engine
            facts =
          History.decision ⟨limits, stored, before ++ rules'.map .upsert ++ behind⟩ catalog engine
            facts := by
  refine ⟨fun h => ⟨h.decides catalog engine facts, rfl⟩,
    fun h h' heq => History.decision_eq_of_ledger_eq heq catalog engine facts, ?_⟩
  intro rules rules' hperm hids limits stored before behind
  exact ⟨History.decision_eq_of_ledger_eq (History.ledger_eq_of_perm hperm hids limits behind)
      catalog engine facts,
    History.decision_eq_of_ledger_eq
      (History.ledger_eq_of_perm_upsert hperm hids limits stored before behind)
      catalog engine facts⟩

/-- Two rules of one priority are listed in either order, or stored one by one. One of them has no
condition and the other matches, so the transaction is declined. -/
theorem decision_of_history_either_order :
    let broken : Rule := ⟨"R1", "Broken", none, "amount >", true, 1⟩
    let small : Rule := ⟨"R2", "Small amounts", none, "amount < 10", true, 1⟩
    let facts : Facts := ⟨.ofMembers [("amount", .integer 5)], .ofMembers []⟩
    let engine := Schema.standard.engine
    let decision := fun rules requests =>
      History.decision ⟨Limits.standard, rules, requests⟩ Catalog.standard engine facts
    decision [small, broken] [.enabled] = decision [broken, small] [.enabled] ∧
      decision [broken, small] [.enabled] = decision [] [.upsert broken, .enabled, .upsert small] ∧
      (decision [broken, small] [.enabled]).status = .declined := by
  intro broken small facts engine decision
  obtain ⟨hdecides, hledger, hperm⟩ := decision_of_history Catalog.standard engine facts
  have hids : [small, broken].Pairwise fun rule other => rule.id ≠ other.id := by
    decide
  have hmatch : ∃ c, Schema.standard.compile small.expression = .ok c ∧
      engine.evaluator.holds facts c = true :=
    (Verdict.isOn_judge rfl).matched_iff.1 (by decide +kernel)
  refine ⟨(hperm _ _ (.swap broken small []) hids Limits.standard [] [] _).1,
    hledger _ _ rfl, ?_⟩
  obtain ⟨hright, -⟩ := hdecides ⟨Limits.standard, [broken, small], [.enabled]⟩
  obtain ⟨v, ⟨hv, hid⟩, -⟩ := hright.existsUnique_verdict "R2" small rfl rfl
  obtain ⟨rule, hrule, -, hison⟩ := hright.exists_rule v hv
  rw [hid] at hrule
  cases hrule
  exact hright.status_iff.2 (hright.isFraud_iff.2 ⟨v, hv, hison.matched_iff.2 hmatch⟩)

end Screening
