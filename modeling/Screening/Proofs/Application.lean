import Mathlib.Data.List.Forall2
import Screening.Application
import Screening.Proofs.Rule.Decision
import Screening.Proofs.Schema.Acceptance

/-!
# Rules decide as their conditions do alone

The condition of a rule can be applied by itself (`Application.evaluate`) or as part of a list of
rules (`Application.score`). The first reports a condition that is refused, and the second must turn
it into a rule that does not match; the first checks with the schema of the engine, and the second
with that of a book which is given the bounds of the engine behind its rules. Still the verdict on a
rule says what the application of its condition alone answers (`Verdict.agrees_judge`), and among
rules with different identifiers each enabled one has its verdict (`score_agrees`).
-/

namespace Screening

/-- `v.Agrees rule answer` says that `v` is the verdict on an enabled rule, and that it tells what
applying the rule's condition alone has answered: a match exactly if the answer is that the
condition holds, and the canonical form of the condition, or the code and message of the report. -/
structure Verdict.Agrees (v : Verdict) (rule : Rule) (answer : Except Refusal Application) :
    Prop where
  ruleId_eq : v.ruleId = rule.id
  ruleName_eq : v.ruleName = rule.name
  priority_eq : v.priority = rule.priority
  enabled_eq : v.enabled = true
  matched_iff : v.matched = true ↔ ∃ a, answer = .ok a ∧ a.matched = true
  applied : ∀ a, answer = .ok a → v.description = "Evaluated: " ++ a.expression
  refused : ∀ d, answer = .error (.condition d) → v.matched = false ∧
    v.description =
      "Not evaluated: " ++ rule.expression ++ " (" ++ d.code.label ++ ": " ++ d.message ++ ")"

variable {schema : Schema} {transaction user : Option String} {facts : Facts}

/-! ## One rule -/

/-- Once the facts are read, a condition is refused by the schema or it is applied. -/
theorem Application.evaluate_eq (hfacts : Application.facts transaction user = .ok facts)
    (schema : Schema) (source : String) :
    Application.evaluate schema source transaction user =
      match schema.compile source with
      | .ok c => .ok ⟨c.print, schema.engine.evaluator.holds facts c⟩
      | .error d => .error (.condition d) := by
  rw [evaluate, prepare]
  cases schema.compile source with
  | error d => rfl
  | ok c =>
    show ((Application.facts transaction user).bind fun facts => .ok (c, facts)).map _ = _
    rw [hfacts]
    rfl

/-- The verdict on an enabled rule tells the same as applying its condition alone. -/
theorem Verdict.agrees_judge (hfacts : Application.facts transaction user = .ok facts) {rule : Rule}
    (henabled : rule.enabled = true) :
    ((schema.prepare rule).judge schema.engine.evaluator.catalog facts).Agrees rule
      (Application.evaluate schema rule.expression transaction user) := by
  rw [Application.evaluate_eq hfacts, Schema.prepare]
  cases schema.compile rule.expression with
  | error d =>
    refine ⟨rfl, rfl, rfl, henabled, ⟨nofun, nofun⟩, nofun, ?_⟩
    rintro _ ⟨⟩
    exact ⟨rfl, rfl⟩
  | ok c =>
    refine ⟨rfl, rfl, rfl, henabled, ⟨fun hmatched => ⟨_, rfl, hmatched⟩, ?_⟩, ?_, nofun⟩
    · rintro ⟨_, ⟨⟩, hmatched⟩
      exact hmatched
    · rintro _ ⟨⟩
      rfl

/-! ## A list of rules -/

/-- Once rules and facts are read, the rules are applied that their ledger serves under the bounds
of the schema: a book takes over its bounds behind the rules, but before it prepares any. -/
theorem Application.exists_score {text : String} {rules : List Rule}
    (hrules : Application.rulesOf text = .ok rules)
    (hfacts : Application.facts transaction user = .ok facts) (schema : Schema) :
    ∃ prepared : List PreparedRule,
      Application.score schema text transaction user =
        .ok (.ofRules schema.engine.evaluator.catalog facts prepared) ∧
      Ledger.Serves ⟨(Ledger.ofRules Limits.standard rules).rules, schema.limits⟩ schema.catalog
        prepared := by
  let history : History := ⟨Limits.standard, rules, [.withLimits schema.limits]⟩
  refine ⟨_, ?_, (history.follows schema.catalog).serves⟩
  rw [score, book, hrules]
  show ((Application.facts transaction user).bind fun facts =>
    .ok (bookOf schema rules, facts)).map _ = _
  rw [hfacts]
  rfl

/-- **Rules decide as their conditions do alone.** For rules with different identifiers the verdicts
are on the enabled rules, one on each, and every verdict tells the same as applying the rule's
condition alone. So the transaction is declined exactly if the condition of an enabled rule holds
when it is applied alone. -/
theorem score_agrees {text : String} {rules : List Rule}
    (hrules : Application.rulesOf text = .ok rules)
    (hids : rules.Pairwise fun rule other => rule.id ≠ other.id)
    (hfacts : Application.facts transaction user = .ok facts) (schema : Schema) :
    ∃ (d : Decision) (judged : List Rule),
      Application.score schema text transaction user = .ok d ∧
      judged.Perm (rules.filter Rule.enabled) ∧
      List.Forall₂ (fun v rule =>
        v.Agrees rule (Application.evaluate schema rule.expression transaction user))
        d.verdicts judged ∧
      (d.isFraud = true ↔ ∃ rule ∈ rules, rule.enabled = true ∧
        ∃ a, Application.evaluate schema rule.expression transaction user = .ok a ∧
          a.matched = true) := by
  obtain ⟨prepared, hscore, hserves⟩ := Application.exists_score hrules hfacts schema
  have hperm := hserves.perm_filter hids
  have hagrees : ∀ r ∈ prepared,
      (r.judge schema.engine.evaluator.catalog facts).Agrees r.rule
        (Application.evaluate schema r.rule.expression transaction user) := by
    intro r hr
    obtain ⟨_, rule, -, henabled, rfl⟩ := (hserves.mem_iff r).1 hr
    exact Verdict.agrees_judge hfacts henabled
  refine ⟨_, prepared.map PreparedRule.rule, hscore, hperm, ?_, List.any_eq_true.trans ?_⟩
  · exact List.forall₂_map_left_iff.2 (List.forall₂_map_right_iff.2 (List.forall₂_same.2 hagrees))
  constructor
  · rintro ⟨v, hv, hmatched⟩
    obtain ⟨r, hr, rfl⟩ := List.mem_map.1 hv
    obtain ⟨hrule, henabled⟩ := List.mem_filter.1 (hperm.mem_iff.1 (List.mem_map_of_mem hr))
    exact ⟨r.rule, hrule, henabled, (hagrees r hr).matched_iff.1 hmatched⟩
  · rintro ⟨rule, hrule, henabled, hmatched⟩
    obtain ⟨r, hr, rfl⟩ :=
      List.mem_map.1 (hperm.mem_iff.2 (List.mem_filter.2 ⟨hrule, henabled⟩))
    exact ⟨_, List.mem_map_of_mem hr, (hagrees r hr).matched_iff.2 hmatched⟩

/-- Of three rules, written as lists, one has a condition that is too long for the schema, though
not for the standard one, one matches, and one is disabled. -/
theorem score_agrees_limits :
    let schema : Schema := ⟨Catalog.standard, ⟨3, 12⟩⟩
    let rules := "[[\"R1\",\"Large\",null,\"amount > 1000\"]," ++
      "[\"R2\",\"Small\",null,\"amount<10\"],[\"R3\",\"Tiny\",null,\"amount < 8\",false]]"
    let transaction := some "\x7b\"amount\":7\x7d"
    let large : Rule := ⟨"R1", "Large", none, "amount > 1000", true, 100⟩
    let small : Rule := ⟨"R2", "Small", none, "amount<10", true, 100⟩
    ∃ (d : Decision) (judged : List Rule),
      Application.score schema rules transaction none = .ok d ∧
      judged.Perm [large, small] ∧
      List.Forall₂ (fun v rule =>
        v.Agrees rule (Application.evaluate schema rule.expression transaction none))
        d.verdicts judged ∧
      Application.evaluate schema large.expression transaction none = .error (.condition
        ⟨.malformed, "Expression too long (at most 12 characters)", 12, "0"⟩) ∧
      Application.evaluate schema small.expression transaction none = .ok ⟨"amount < 10", true⟩ ∧
      d.isFraud = true := by
  intro schema rules transaction large small
  have hrules : Application.rulesOf rules =
      .ok [large, small, ⟨"R3", "Tiny", none, "amount < 8", false, 100⟩] := by
    decide +kernel
  obtain ⟨facts, hfacts⟩ : ∃ facts, (Application.facts transaction none).toOption = some facts :=
    Option.isSome_iff_exists.1 (by decide +kernel)
  have hsmall : Application.evaluate schema small.expression transaction none =
      .ok ⟨"amount < 10", true⟩ := by
    decide +kernel
  have hlarge : Application.evaluate schema large.expression transaction none = .error (.condition
      ⟨.malformed, "Expression too long (at most 12 characters)", 12, "0"⟩) := by
    decide +kernel
  obtain ⟨d, judged, hscore, hperm, hagrees, hfraud⟩ :=
    score_agrees hrules (by decide) (eq_ok_of_toOption hfacts) schema
  exact ⟨d, judged, hscore, hperm, hagrees, hlarge, hsmall,
    hfraud.2 ⟨small, .tail _ (.head _), rfl, _, hsmall, rfl⟩⟩

end Screening
