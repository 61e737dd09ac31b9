import Screening.Proofs.Diagnostic
import Screening.Proofs.Schema.Normal
import Screening.Rule

/-!
# All ways of applying a condition agree

A condition is applied as it has been read, by its text, by the normal spelling of its text, or as
the condition of a rule. The places of its parts make no difference (`Condition.holds_of_unplaced`).
A text is looked at by two objects that bound its length separately, and the bounds stay the same
(`Engine.Coherent`): so a text that the schema accepts is never too long for the evaluator, and its
normal spelling is not either (`Engine.Coherent.holdsText_normalize`). A rule holds its condition as
the schema has accepted it, and never matches if the schema has refused its text; a text that is
refused as too long, for an unsupported token or as unreadable holds of nothing
(`Engine.Coherent.holdsText_of_bars`). Together this is `routes_agree`.
-/

namespace Screening

variable {catalog : Catalog} {facts : Facts}

/-! ## Conditions without their places -/

/-- Whether a comparison holds does not depend on where it stands. -/
theorem Comparison.outcome_unplaced (catalog : Catalog) (facts : Facts) (c : Comparison) :
    c.unplaced.outcome catalog facts = c.outcome catalog facts := by
  obtain ⟨r, left, right, position⟩ := c
  cases left <;> cases right <;> rfl

theorem Condition.holds_unplaced (catalog : Catalog) (facts : Facts) (c : Condition) :
    c.unplaced.holds catalog facts = c.holds catalog facts := by
  induction c with
  | compare c => simp only [unplaced, holds, Comparison.holds, Comparison.outcome_unplaced]
  | not c _ ih => simp only [unplaced, holds, ih]
  | and c d _ ihc ihd | or c d _ ihc ihd => simp only [unplaced, holds, ihc, ihd]

/-- Conditions that are equal without their places hold of the same facts. -/
theorem Condition.holds_of_unplaced {c d : Condition} (h : c.unplaced = d.unplaced) :
    c.holds catalog facts = d.holds catalog facts := by
  rw [← c.holds_unplaced, h, d.holds_unplaced]

/-! ## Texts -/

namespace Evaluator

variable {e : Evaluator} {source : String} {c : Condition}

theorem tooLong_eq_true_iff :
    e.tooLong source = true ↔ e.maxLength < (Text.trim source.toList).length := by
  rw [tooLong, decide_eq_true_iff]

/-- A text that is not too long holds if the condition does that it is read as. -/
theorem holdsText_of_read (hlength : (Text.trim source.toList).length ≤ e.maxLength)
    (hread : Condition.read source = .ok c) : e.holdsText facts source = e.holds facts c := by
  have hshort : ¬ e.tooLong source = true := fun h =>
    Nat.not_lt.2 hlength (tooLong_eq_true_iff.1 h)
  rw [holdsText, if_neg hshort, hread]

/-- A text that is too long holds of nothing. -/
theorem holdsText_of_tooLong (hlength : e.maxLength < (Text.trim source.toList).length) :
    e.holdsText facts source = false := by
  rw [holdsText, if_pos (tooLong_eq_true_iff.2 hlength)]

/-- A text that cannot be read holds of nothing. -/
theorem holdsText_of_not_read (hread : ∀ c, Condition.read source ≠ .ok c) :
    e.holdsText facts source = false := by
  rw [holdsText]
  split
  · rfl
  · split
    · next c hc => exact absurd hc (hread c)
    · rfl

end Evaluator

/-! ## Engines -/

namespace Engine

variable {engine : Engine} {source : String} {c : Condition}

/-- Texts are checked and applied with one bound on their length. -/
structure Coherent (engine : Engine) : Prop where
  maxLength_eq : engine.evaluator.maxLength = engine.schema.limits.maxLength

/-- Setting the limits sets both bounds. -/
theorem coherent_withLimits (engine : Engine) (limits : Limits) :
    (engine.withLimits limits).Coherent := ⟨rfl⟩

/-- An accepted text holds if the condition does that it is accepted as. -/
theorem Coherent.holdsText_of_accepts (h : engine.Coherent)
    (haccepts : engine.schema.Accepts source c) :
    engine.evaluator.holdsText facts source = engine.evaluator.holds facts c :=
  Evaluator.holdsText_of_read (h.maxLength_eq ▸ haccepts.allowed.le_maxLength) haccepts.read_eq

/-- The normal spelling of an accepted text holds if the text does. -/
theorem Coherent.holdsText_normalize (h : engine.Coherent)
    (haccepts : engine.schema.Accepts source c) :
    engine.evaluator.holdsText facts (normalize source) = engine.evaluator.holds facts c := by
  obtain ⟨d, hread, heq⟩ := exists_read_normalize haccepts.read_eq
  have hlength : (Text.trim (normalize source).toList).length ≤ engine.evaluator.maxLength := by
    rw [trim_normalize, String.length_toList, h.maxLength_eq]
    exact Nat.le_trans (length_normalize_le source) haccepts.allowed.le_maxLength
  rw [Evaluator.holdsText_of_read hlength hread]
  exact Condition.holds_of_unplaced heq

end Engine

/-! ## Rules -/

namespace Schema

variable {schema : Schema} {rule : Rule} {c : Condition} {d : Diagnostic}

/-- A rule matches if the condition holds that its text is accepted as. -/
theorem matched_of_compile (h : schema.compile rule.expression = .ok c) :
    ((schema.prepare rule).judge catalog facts).matched = c.holds catalog facts := by
  simp only [prepare, PreparedRule.judge, PreparedRule.holds, h]

/-- A rule whose text is refused never matches. -/
theorem matched_of_compile_error (h : schema.compile rule.expression = .error d) :
    ((schema.prepare rule).judge catalog facts).matched = false := by
  simp only [prepare, PreparedRule.judge, PreparedRule.holds, h]

end Schema

/-! ## Refused texts -/

/-- What is reported of a comparison denies no text to be a condition. -/
theorem Comparison.Breaks.code_ne {c : Comparison} {f : Finding} {p : Nat}
    (h : c.Breaks catalog f p) : f.code ≠ .malformed ∧ f.code ≠ .unsupported := by
  cases h with
  | leftNotField | unknownField | rightIsField | orderedText => exact ⟨nofun, nofun⟩

/-- `d.Bars schema source` says that the report `d` denies the text `source` to be a condition at
all: it is too long, or uses what the language does without, or cannot be read. -/
inductive Diagnostic.Bars (schema : Schema) (source : String) (d : Diagnostic) : Prop where
  | tooLong {p : Nat} (hd : d = .ofFinding (.tooLong schema.limits.maxLength) source p)
  | unsupported (hcode : d.code = .unsupported)
  | unreadable {e : ReadError} (hread : Condition.read source = .error e)
      (hd : d = .ofReadError e)

namespace Schema

variable {schema : Schema} {source : String} {d : Diagnostic}

theorem not_read_of_error {e : ReadError} (h : Condition.read source = .error e) (c : Condition) :
    Condition.read source ≠ .ok c := by
  rw [h]
  exact nofun

/-- A text with an unsupported token cannot be read. -/
theorem not_read_of_firstExceeding {f : Finding} {p : Nat}
    (h : FirstExceeding (tokens source) f p) (c : Condition) : Condition.read source ≠ .ok c :=
  fun hread => not_firstExceeding_of_read hread f p h

/-- A text that is barred is too long or cannot be read. -/
theorem Reports.tooLong_or_not_read (h : schema.Reports source d) (hbars : d.Bars schema source) :
    schema.limits.maxLength < (Text.trim source.toList).length ∨
      ∀ c, Condition.read source ≠ .ok c := by
  cases hbars with
  | tooLong hd =>
    cases h with
    | tooShort =>
      exact absurd (congrArg Diagnostic.message hd) (Finding.message_tooShort_ne _)
    | tooLong _ hmax => exact .inl hmax
    | unsupported _ hfirst => exact .inr (not_read_of_firstExceeding hfirst)
    | unreadable _ _ hread => exact .inr (not_read_of_error hread)
    | illegal _ _ _ hbreaks => exact absurd (congrArg Diagnostic.code hd) hbreaks.code_ne.1
  | unsupported hcode =>
    cases h with
    | tooShort | tooLong | unreadable => cases hcode
    | unsupported _ hfirst => exact .inr (not_read_of_firstExceeding hfirst)
    | illegal _ _ _ hbreaks => exact absurd hcode hbreaks.code_ne.2
  | unreadable hread => exact .inr (not_read_of_error hread)

end Schema

/-- A barred text holds of nothing. -/
theorem Engine.Coherent.holdsText_of_bars {engine : Engine} {source : String} {d : Diagnostic}
    (h : engine.Coherent) (hreports : engine.schema.Reports source d)
    (hbars : d.Bars engine.schema source) : engine.evaluator.holdsText facts source = false := by
  rcases hreports.tooLong_or_not_read hbars with hlong | hread
  · exact Evaluator.holdsText_of_tooLong (h.maxLength_eq ▸ hlong)
  · exact Evaluator.holdsText_of_not_read hread

/-! ## All ways -/

/-- **All ways of applying a condition agree.** Let an engine be set up for a catalog and limits. If
it accepts a text as a condition, then the text holds exactly if the condition does, and so does the
normal spelling of the text, and a rule with the text matches exactly then. If it refuses the text,
then a rule with it matches nothing, and the text holds of nothing if it is barred. -/
theorem routes_agree (catalog : Catalog) (limits : Limits) (facts : Facts) (source : String) :
    let engine := (Engine.ofCatalog catalog).withLimits limits
    (∀ n c, engine.schema.validate source = .ok n → engine.schema.compile source = .ok c →
      engine.evaluator.holdsText facts source = engine.evaluator.holds facts c ∧
      engine.evaluator.holdsText facts n = engine.evaluator.holds facts c ∧
      ∀ rule : Rule, rule.expression = source →
        ((engine.schema.prepare rule).judge engine.evaluator.catalog facts).matched =
          engine.evaluator.holds facts c) ∧
    ∀ d, engine.schema.compile source = .error d →
      (d.Bars engine.schema source → engine.evaluator.holdsText facts source = false) ∧
      ∀ rule : Rule, rule.expression = source →
        ((engine.schema.prepare rule).judge engine.evaluator.catalog facts).matched = false := by
  intro engine
  have hcoherent : engine.Coherent := (Engine.ofCatalog catalog).coherent_withLimits limits
  refine ⟨fun n c hvalid hcompile => ?_, fun d hcompile => ⟨fun hbars => ?_, ?_⟩⟩
  · have haccepts := Schema.compile_eq_ok_iff.1 hcompile
    obtain ⟨-, rfl⟩ := Schema.validate_eq_ok_iff.1 hvalid
    refine ⟨hcoherent.holdsText_of_accepts haccepts, hcoherent.holdsText_normalize haccepts, ?_⟩
    rintro rule rfl
    exact Schema.matched_of_compile hcompile
  · exact hcoherent.holdsText_of_bars (Schema.compile_eq_error_iff.1 hcompile) hbars
  · rintro rule rfl
    exact Schema.matched_of_compile_error hcompile

/-- A text that is as long as it may be, and a spelling of it that is longer by one blank. -/
theorem routes_agree_at_limit :
    let engine := (Engine.ofCatalog Catalog.standard).withLimits ⟨3, 14⟩
    let facts : Facts := ⟨.ofMembers [("amount", .integer 5)], .ofMembers []⟩
    let rule : Rule := ⟨"R1", "Small amounts", none, " not amount > 5 ", true, 0⟩
    (engine.schema.validate " not amount > 5 " = .ok "NOT amount > 5" ∧
      engine.evaluator.holdsText facts " not amount > 5 " = true ∧
      engine.evaluator.holdsText facts "NOT amount > 5" = true ∧
      ((engine.schema.prepare rule).judge engine.evaluator.catalog facts).matched = true) ∧
    engine.schema.compile " not  amount > 5 " =
      .error (.ofFinding (.tooLong 14) " not  amount > 5 " 15) ∧
    engine.evaluator.holdsText facts " not  amount > 5 " = false := by
  intro engine facts rule
  obtain ⟨c, hc⟩ : ∃ c : Condition, c = .not (.compare ⟨.greater, .field "amount" 5,
      .literal (.number ⟨false, 0x4014000000000000, by decide⟩) 14, 12⟩) 1 := ⟨_, rfl⟩
  have hvalid : engine.schema.validate " not amount > 5 " = .ok "NOT amount > 5" :=
    eq_ok_of_toOption (by decide +kernel)
  have hcompile : engine.schema.compile " not amount > 5 " = .ok c :=
    eq_ok_of_toOption (by rw [hc]; decide +kernel)
  have hholds : engine.evaluator.holds facts c = true := by
    rw [hc]
    decide +kernel
  have hlength : 3 ≤ (Text.trim " not  amount > 5 ".toList).length ∧
      14 < (Text.trim " not  amount > 5 ".toList).length := by
    decide +kernel
  have hreports : engine.schema.Reports " not  amount > 5 " _ := .tooLong hlength.1 hlength.2
  have hplace : (" not  amount > 5 ".toList.takeWhile Text.isBlank).length = 1 := by
    decide +kernel
  rw [hplace] at hreports
  have hlong := Schema.compile_eq_error_iff.2 hreports
  obtain ⟨hagree, hnormal, hrule⟩ :=
    (routes_agree Catalog.standard ⟨3, 14⟩ facts " not amount > 5 ").1 _ c hvalid hcompile
  refine ⟨⟨hvalid, hagree.trans hholds, hnormal.trans hholds, (hrule rule rfl).trans hholds⟩,
    hlong, ?_⟩
  exact ((routes_agree Catalog.standard ⟨3, 14⟩ facts " not  amount > 5 ").2 _ hlong).1
    (.tooLong rfl)

end Screening
