import Screening.Proofs.Rule.Decision

/-!
# What changing one rule leaves alone

Three requests change a rule: it is stored, disabled or taken out (`Request.Changes`). The ledgers
in front of such a request and behind it agree on all other rules and on the limits
(`Ledger.AgreesBut`). Ledgers that agree in this way serve the same other rules in the same order
(`Ledger.AgreesBut.filter_eq`), so the decisions behind them have the same other verdicts
(`History.others_eq`). A rule that is not enabled takes no part in a decision, so a transaction that
is declined without it is declined whatever becomes of it (`History.declined_of_agreesBut`). All
this is put together in `History.others_of_change`.
-/

namespace Screening

variable {catalog : Catalog} {engine : Engine} {facts : Facts} {id : String}

/-! ## Ledgers that agree on all rules but one -/

/-- `ledger.AgreesBut id ledger'` says that two ledgers have the same limits and the same rules,
apart from the rule under the identifier `id`. -/
structure Ledger.AgreesBut (ledger : Ledger) (id : String) (ledger' : Ledger) : Prop where
  limits_eq : ledger.limits = ledger'.limits
  rules_eq : ∀ other, other ≠ id → ledger.rules other = ledger'.rules other

/-- `request.Changes id` says that the request changes no rule but the one under the identifier
`id`. There may be no such rule. -/
inductive Request.Changes : Request → String → Prop where
  | upsert (rule : Rule) : Changes (.upsert rule) rule.id
  | disable (id : String) : Changes (.disable id) id
  | remove (id : String) : Changes (.remove id) id

namespace Ledger

variable {ledger ledger' : Ledger} {rules rules' : List PreparedRule}

theorem AgreesBut.symm (h : ledger.AgreesBut id ledger') : ledger'.AgreesBut id ledger :=
  ⟨h.limits_eq.symm, fun other hne => (h.rules_eq other hne).symm⟩

/-- Writing an entry changes no other one. -/
theorem agreesBut_write (ledger : Ledger) (id : String) (entry : Option Rule) :
    ledger.AgreesBut id (ledger.write id entry) := by
  refine ⟨rfl, fun other hne => ?_⟩
  simp only [write, if_neg hne]

/-- A request that changes a rule changes no other one. -/
theorem agreesBut_apply {request : Request} (h : request.Changes id) (ledger : Ledger) :
    ledger.AgreesBut id (ledger.apply request) := by
  cases h with
  | upsert rule => exact ledger.agreesBut_write rule.id _
  | disable id => exact ledger.agreesBut_write id _
  | remove id => exact ledger.agreesBut_write id _

/-- A rule that has been disabled or taken out takes no part in a decision. -/
theorem enabled_eq_false_of_apply (ledger : Ledger) (id : String) :
    (∀ rule, (ledger.apply (.disable id)).rules id = some rule → rule.enabled = false) ∧
      ∀ rule, (ledger.apply (.remove id)).rules id = some rule → rule.enabled = false := by
  constructor
  · intro rule hrule
    simp only [apply, write, if_pos] at hrule
    obtain ⟨stored, -, rfl⟩ := Option.map_eq_some_iff.1 hrule
    rfl
  · intro rule hrule
    simp only [apply, write, if_pos] at hrule
    cases hrule

/-- A rule that is served on one side of a change of another rule is served on the other side. -/
theorem AgreesBut.mem (h : ledger.AgreesBut id ledger')
    (hid : ∀ id rule, ledger.rules id = some rule → rule.id = id)
    (hserves : ledger.Serves catalog rules) (hserves' : ledger'.Serves catalog rules')
    {r : PreparedRule} (hr : r ∈ rules) (hne : r.rule.id ≠ id) : r ∈ rules' := by
  obtain ⟨other, rule, hrule, henabled, rfl⟩ := (hserves.mem_iff r).1 hr
  have hother : other ≠ id := hid other rule hrule ▸ hne
  rw [h.limits_eq]
  exact (hserves'.mem_iff _).2
    ⟨other, rule, (h.rules_eq other hother).symm.trans hrule, henabled, rfl⟩

/-- Ledgers that agree on all rules but one serve the same other rules in the same order. -/
theorem AgreesBut.filter_eq (h : ledger.AgreesBut id ledger')
    (hid : ∀ id rule, ledger.rules id = some rule → rule.id = id)
    (hid' : ∀ id rule, ledger'.rules id = some rule → rule.id = id)
    (hserves : ledger.Serves catalog rules) (hserves' : ledger'.Serves catalog rules') :
    rules.filter (fun r => r.rule.id ≠ id) = rules'.filter (fun r => r.rule.id ≠ id) := by
  refine PreparedRule.eq_of_forall_mem_iff (hserves.ordered.filter _) (hserves'.ordered.filter _)
    fun r => ?_
  simp only [List.mem_filter, decide_eq_true_eq]
  constructor
  · rintro ⟨hr, hne⟩
    exact ⟨h.mem hid hserves hserves' hr hne, hne⟩
  · rintro ⟨hr, hne⟩
    exact ⟨h.symm.mem hid' hserves' hserves hr hne, hne⟩

end Ledger

/-! ## Decisions behind such ledgers -/

/-- The verdicts of a decision on all rules but the one with the identifier `id`. -/
def Decision.others (d : Decision) (id : String) : List Verdict :=
  d.verdicts.filter fun v => v.ruleId ≠ id

theorem Decision.others_ofRules (rules : List PreparedRule) :
    (Decision.ofRules catalog facts rules).others id =
      (rules.filter fun r => r.rule.id ≠ id).map (·.judge catalog facts) :=
  List.filter_map

/-- A transaction is declined exactly if the text of an enabled rule is accepted as a condition that
holds. -/
theorem Ledger.Decides.status_eq_declined_iff {ledger : Ledger} {evaluator : Evaluator}
    {d : Decision} (h : ledger.Decides catalog evaluator facts d) :
    d.status = .declined ↔ ∃ id rule, ledger.rules id = some rule ∧ rule.enabled = true ∧
      ∃ c, Schema.compile ⟨catalog, ledger.limits⟩ rule.expression = .ok c ∧
        evaluator.holds facts c = true := by
  rw [h.status_iff, h.isFraud_iff]
  constructor
  · rintro ⟨v, hv, hmatched⟩
    obtain ⟨rule, hrule, henabled, hison⟩ := h.exists_rule v hv
    exact ⟨v.ruleId, rule, hrule, henabled, hison.matched_iff.1 hmatched⟩
  · rintro ⟨id, rule, hrule, henabled, hholds⟩
    obtain ⟨v, ⟨hv, rfl⟩, -⟩ := h.existsUnique_verdict id rule hrule henabled
    obtain ⟨other, hother, -, hison⟩ := h.exists_rule v hv
    rw [hrule] at hother
    cases hother
    exact ⟨v, hv, hison.matched_iff.2 hholds⟩

theorem Decision.status_eq_approved_iff (d : Decision) :
    d.status = .approved ↔ d.status ≠ .declined := by
  cases d.status <;> decide

namespace History

variable {h h' : History}

/-- The verdicts on all rules but one do not depend on that rule. -/
theorem others_eq (hagrees : h.ledger.AgreesBut id h'.ledger) :
    (h.decision catalog engine facts).others id = (h'.decision catalog engine facts).others id := by
  have hfollows := h.follows catalog
  have hfollows' := h'.follows catalog
  have hrules := hagrees.filter_eq hfollows.id_eq hfollows'.id_eq hfollows.serves hfollows'.serves
  calc
    (h.decision catalog engine facts).others id
      = ((h.book catalog).enabled.1.rules.filter fun r => r.rule.id ≠ id).map
          (·.judge engine.evaluator.catalog facts) := Decision.others_ofRules _
    _ = ((h'.book catalog).enabled.1.rules.filter fun r => r.rule.id ≠ id).map
          (·.judge engine.evaluator.catalog facts) := by rw [hrules]
    _ = (h'.decision catalog engine facts).others id := (Decision.others_ofRules _).symm

/-- A transaction that is declined without a rule is declined whatever becomes of that rule. -/
theorem declined_of_agreesBut (hagrees : h.ledger.AgreesBut id h'.ledger)
    (hidle : ∀ rule, h.ledger.rules id = some rule → rule.enabled = false)
    (hdeclined : (h.decision catalog engine facts).status = .declined) :
    (h'.decision catalog engine facts).status = .declined := by
  obtain ⟨other, rule, hrule, henabled, hholds⟩ :=
    (h.decides catalog engine facts).status_eq_declined_iff.1 hdeclined
  -- the rule that matches is enabled, so it is not the one that is changed
  have hne : other ≠ id := by
    rintro rfl
    rw [hidle rule hrule] at henabled
    cases henabled
  rw [hagrees.rules_eq other hne] at hrule
  rw [hagrees.limits_eq] at hholds
  exact (h'.decides catalog engine facts).status_eq_declined_iff.2
    ⟨other, rule, hrule, henabled, hholds⟩

/-- A transaction that is approved with a rule is approved without it. -/
theorem approved_of_agreesBut (hagrees : h.ledger.AgreesBut id h'.ledger)
    (hidle : ∀ rule, h'.ledger.rules id = some rule → rule.enabled = false)
    (happroved : (h.decision catalog engine facts).status = .approved) :
    (h'.decision catalog engine facts).status = .approved := by
  rw [Decision.status_eq_approved_iff] at happroved ⊢
  intro hdeclined
  exact happroved (declined_of_agreesBut hagrees.symm hidle hdeclined)

/-! ## One more request -/

/-- The history that goes on with a request behind a decision. Deciding asks for the rules. -/
def andThen (h : History) (request : Request) : History :=
  { h with requests := h.requests ++ [.enabled, request] }

theorem decision_andThen (h : History) (request : Request) :
    (h.andThen request).decision catalog engine facts =
      (((((h.book catalog).score engine.evaluator.catalog facts).2.perform request).2).score
        engine.evaluator.catalog facts).1 := by
  unfold decision book andThen RuleBook.performAll
  rw [List.foldl_append]
  rfl

theorem ledger_andThen (h : History) (request : Request) :
    (h.andThen request).ledger = h.ledger.apply request := by
  unfold ledger andThen Ledger.applyAll
  rw [List.foldl_append]
  rfl

/-- **Changing one rule changes only its own verdict.** When a book is scored, one rule is changed
and the book is scored again, the verdicts on all other rules are the same, in the same order. So a
rule that is stored where there was none, or a disabled one, does not approve a declined
transaction, and a rule that is disabled or taken out does not decline an approved one. -/
theorem others_of_change (catalog : Catalog) (engine : Engine) (facts : Facts) (h : History) :
    let first := (h.book catalog).score engine.evaluator.catalog facts
    let again := fun request =>
      ((first.2.perform request).2.score engine.evaluator.catalog facts).1
    (∀ request id, request.Changes id → (again request).others id = first.1.others id) ∧
    (∀ rule, (∀ stored, (h.book catalog).find? rule.id = some stored → stored.enabled = false) →
      first.1.status = .declined → (again (.upsert rule)).status = .declined) ∧
    ∀ id, first.1.status = .approved →
      (again (.disable id)).status = .approved ∧ (again (.remove id)).status = .approved := by
  intro first again
  have hagain : ∀ request, again request = (h.andThen request).decision catalog engine facts :=
    fun request => (h.decision_andThen request).symm
  have hagrees : ∀ request id, request.Changes id →
      h.ledger.AgreesBut id (h.andThen request).ledger := by
    intro request id hchanges
    rw [h.ledger_andThen]
    exact h.ledger.agreesBut_apply hchanges
  refine ⟨fun request id hchanges => ?_, fun rule hidle hdeclined => ?_, fun id happroved => ?_⟩
  · rw [hagain]
    exact (others_eq (hagrees request id hchanges)).symm
  · rw [hagain]
    refine declined_of_agreesBut (hagrees _ rule.id (.upsert rule)) (fun stored hstored => ?_)
      hdeclined
    exact hidle stored (((h.follows catalog).find?_eq rule.id).trans hstored)
  · obtain ⟨hdisable, hremove⟩ := h.ledger.enabled_eq_false_of_apply id
    rw [← h.ledger_andThen] at hdisable hremove
    rw [hagain, hagain]
    exact ⟨approved_of_agreesBut (hagrees _ id (.disable id)) hdisable happroved,
      approved_of_agreesBut (hagrees _ id (.remove id)) hremove happroved⟩

/-- A book with one rule, and transactions that it matches and does not match. A broken rule is
stored in front of it, a rule that is not there is disabled, and the rule itself is taken out. -/
theorem others_of_change_broken :
    let small : Rule := ⟨"R2", "Small amounts", none, "amount < 10", true, 1⟩
    let broken : Rule := ⟨"R1", "Broken", none, "amount >", true, 0⟩
    let h : History := ⟨Limits.standard, [small], [.enabled]⟩
    let facts := fun amount => (⟨.ofMembers [("amount", .integer amount)], .ofMembers []⟩ : Facts)
    let engine := Schema.standard.engine
    let first := fun amount =>
      (h.book Catalog.standard).score engine.evaluator.catalog (facts amount)
    let again := fun amount request =>
      (((first amount).2.perform request).2.score engine.evaluator.catalog (facts amount)).1
    ((again 5 (.upsert broken)).others "R1" = (first 5).1.others "R1" ∧
      (first 5).1.status = .declined ∧ (again 5 (.upsert broken)).status = .declined) ∧
    (first 50).1.status = .approved ∧ (again 50 (.disable "R1")).status = .approved ∧
      (again 50 (.remove "R2")).status = .approved := by
  intro small broken h facts engine first again
  have hstatus : ∀ amount, (first amount).1.status = .declined ↔
      ∃ c, Schema.standard.compile small.expression = .ok c ∧
        engine.evaluator.holds (facts amount) c = true := by
    intro amount
    refine (h.decides Catalog.standard engine (facts amount)).status_eq_declined_iff.trans ?_
    constructor
    · rintro ⟨id, rule, hrule, -, hholds⟩
      obtain ⟨hmem, -⟩ := (Ledger.ofRules_eq_some_iff (List.pairwise_singleton _ small)).1 hrule
      rw [List.mem_singleton.1 hmem] at hholds
      exact hholds
    · intro hholds
      exact ⟨"R2", small, rfl, rfl, hholds⟩
  obtain ⟨hothers, hstored, -⟩ := others_of_change Catalog.standard engine (facts 5) h
  obtain ⟨-, -, hdropped⟩ := others_of_change Catalog.standard engine (facts 50) h
  have hdeclined : (first 5).1.status = .declined := by
    rw [hstatus]
    exact (Verdict.isOn_judge rfl).matched_iff.1 (by decide +kernel)
  have happroved : (first 50).1.status = .approved := by
    rw [Decision.status_eq_approved_iff, ne_eq, hstatus]
    intro hholds
    have hison : Verdict.IsOn _ small Schema.standard engine.evaluator (facts 50) :=
      Verdict.isOn_judge rfl
    have hmatched := hison.matched_iff.2 hholds
    revert hmatched
    decide +kernel
  exact ⟨⟨hothers _ "R1" (.upsert broken), hdeclined, hstored broken nofun hdeclined⟩, happroved,
    (hdropped "R1" happroved).1, (hdropped "R2" happroved).2⟩

end History

end Screening
