import Screening.Proofs.Condition.Normal
import Screening.Proofs.Schema.Acceptance

/-!
# Storing the normal spelling of an accepted text

The normal spelling of an accepted text is read as the same condition (`exists_read_normalize`), so
its comparisons are as legal as those of the text (`Condition.legal_of_unplaced`), and it is no
longer than the text. It can be shorter, though, because blanks are collapsed. So it is accepted
again unless it is shorter than the schema allows (`validate_normalized`), which cannot happen where
at most three characters are asked for: no condition has fewer (`three_le_length_of_read`).
-/

namespace Screening

open Text

/-! ## Comparisons without their places -/

/-- Whether a comparison is legal does not depend on where it stands. -/
theorem Comparison.legal_unplaced_iff {catalog : Catalog} {c : Comparison} :
    c.unplaced.Legal catalog ↔ c.Legal catalog := by
  obtain ⟨r, left, right, position⟩ := c
  constructor
  · intro h
    cases left with
    | literal => cases h
    | field =>
      cases right with
      | field => cases h
      | literal =>
        cases h with
        | intro hfield horder => exact .intro hfield horder
  · rintro ⟨hfield, horder⟩
    exact .intro hfield horder

theorem Condition.comparisons_unplaced (c : Condition) :
    c.unplaced.comparisons = c.comparisons.map Comparison.unplaced := by
  induction c with
  | compare c => rfl
  | not c _ ih => exact ih
  | and c d _ ihc ihd | or c d _ ihc ihd =>
    simp only [unplaced, comparisons, ihc, ihd, List.map_append]

/-- Conditions that are equal without their places are made of legal comparisons together. -/
theorem Condition.legal_of_unplaced {catalog : Catalog} {c d : Condition}
    (h : c.unplaced = d.unplaced) (hd : ∀ e ∈ d.comparisons, e.Legal catalog) :
    ∀ e ∈ c.comparisons, e.Legal catalog := by
  intro e he
  have hmem : e.unplaced ∈ d.unplaced.comparisons := by
    rw [← h, c.comparisons_unplaced]
    exact List.mem_map_of_mem he
  rw [d.comparisons_unplaced] at hmem
  obtain ⟨e', he', heq⟩ := List.mem_map.1 hmem
  rw [← Comparison.legal_unplaced_iff, ← heq, Comparison.legal_unplaced_iff]
  exact hd e' he'

/-! ## Reading the normal spelling -/

/-- The normal spelling of a condition is read as the same condition. -/
theorem exists_read_normalize {source : String} {c : Condition}
    (h : Condition.read source = .ok c) :
    ∃ d, Condition.read (normalize source) = .ok d ∧ d.unplaced = c.unplaced := by
  obtain ⟨ps, hps⟩ := exists_cut 0 source.toList
  obtain ⟨qs, hqs, -, hsaid⟩ := exists_cut_normalize hps
  have hderives := (read_eq_ok_iff_of_cut hps).1 h
  have hclosed : ∀ q ∈ ps, q.token.kind ≠ .unterminated := fun q hq =>
    (hderives.kind_ne _ (List.mem_map_of_mem hq)).2.1
  obtain ⟨d, hd, heq⟩ := exists_derives_of_map_said (hsaid hclosed) hderives
  exact ⟨d, (read_eq_ok_iff_of_cut hqs).2 hd, heq⟩

/-- A derivation uses three tokens at least. -/
theorem Derives.three_le_length {k : Category} {room : Nat} {ts : List Token} {c : Condition}
    (h : Derives k room ts c) : 3 ≤ ts.length := by
  induction h with
  | conjunction _ ih | unary _ ih | primary _ ih => exact ih
  | or _ _ _ ihl _ | and _ _ _ ihl _ =>
    rw [List.length_append]
    omega
  | not _ _ ih => exact Nat.le_succ_of_le ih
  | group _ _ _ ih =>
    rw [List.length_cons, List.length_append]
    omega
  | compare => exact Nat.le_refl 3

/-- No condition is written in fewer than three characters. -/
theorem three_le_length_of_read {source : String} {c : Condition}
    (h : Condition.read source = .ok c) : 3 ≤ source.length := by
  obtain ⟨ps, hps⟩ := exists_cut 0 source.toList
  have hderives := ((read_eq_ok_iff_of_cut hps).1 h).three_le_length
  have hle := hps.length_le
  rw [List.length_map] at hderives
  rw [String.length_toList] at hle
  exact Nat.le_trans hderives hle

/-! ## Accepting the normal spelling -/

namespace Schema

variable {schema : Schema} {source n : String} {c : Condition}

theorem validate_eq_ok_iff :
    schema.validate source = .ok n ↔ (∃ c, schema.Accepts source c) ∧ n = normalize source := by
  unfold validate
  cases hc : schema.compile source with
  | error d =>
    refine ⟨nofun, ?_⟩
    rintro ⟨⟨c, haccepts⟩, -⟩
    rw [compile_eq_ok_iff.2 haccepts] at hc
    cases hc
  | ok c =>
    constructor
    · intro h
      cases h
      exact ⟨⟨c, compile_eq_ok_iff.1 hc⟩, rfl⟩
    · rintro ⟨-, rfl⟩
      rfl

/-- The normal spelling of an accepted text is accepted as the same condition if it is not too
short. -/
theorem Accepts.normalize (h : schema.Accepts source c)
    (hmin : schema.limits.minLength ≤ (normalize source).length) :
    ∃ d, schema.Accepts (Screening.normalize source) d ∧ d.unplaced = c.unplaced := by
  obtain ⟨d, hread, heq⟩ := exists_read_normalize h.read_eq
  have hlength : (trim (Screening.normalize source).toList).length =
      (Screening.normalize source).length := by
    rw [trim_normalize, String.length_toList]
  refine ⟨d, ⟨⟨?_, ?_⟩, hread, Condition.legal_of_unplaced heq h.legal⟩, heq⟩
  · rw [hlength]
    exact hmin
  · rw [hlength]
    exact Nat.le_trans (length_normalize_le source) h.allowed.le_maxLength

/-- **The normal spelling of an accepted text is accepted again**, as its own normal spelling and as
the same condition, unless it is too short; then this is what is reported about it. It has three
characters at least, so no schema that asks for no more than that finds it too short. -/
theorem validate_normalized (h : schema.validate source = .ok n) :
    (schema.limits.minLength ≤ n.length →
      schema.validate n = .ok n ∧
        ∃ c d, schema.compile source = .ok c ∧ schema.compile n = .ok d ∧ d.same c = true) ∧
    (n.length < schema.limits.minLength →
      schema.validate n = .error (.locate .malformed "Expression too short" n 0)) ∧
    3 ≤ n.length := by
  obtain ⟨⟨c, haccepts⟩, rfl⟩ := validate_eq_ok_iff.1 h
  refine ⟨fun hmin => ?_, fun hmin => ?_, ?_⟩
  · obtain ⟨d, haccepts', heq⟩ := haccepts.normalize hmin
    refine ⟨validate_eq_ok_iff.2 ⟨⟨d, haccepts'⟩, (normalize_normalize source).symm⟩, c, d,
      compile_eq_ok_iff.2 haccepts, compile_eq_ok_iff.2 haccepts', ?_⟩
    exact Condition.same_of_unplaced heq
  · have hreports : schema.Reports (normalize source) _ := .tooShort (by
      rw [trim_normalize, String.length_toList]
      exact hmin)
    rw [validate, compile_eq_error_iff.2 hreports]
    rfl
  · obtain ⟨d, hread, -⟩ := exists_read_normalize haccepts.read_eq
    exact three_le_length_of_read hread

/-- A text that is as long as it may be, with a normal spelling that is as short as it may be, or
shorter by one character. -/
theorem validate_normalized_bounds :
    (validate ⟨Catalog.standard, ⟨11, 13⟩⟩ " amount  >  10 " = .ok "amount > 10" ∧
      validate ⟨Catalog.standard, ⟨11, 13⟩⟩ "amount > 10" = .ok "amount > 10") ∧
    validate ⟨Catalog.standard, ⟨12, 13⟩⟩ " amount  >  10 " = .ok "amount > 10" ∧
      validate ⟨Catalog.standard, ⟨12, 13⟩⟩ "amount > 10" =
        .error ⟨.malformed, "Expression too short", 0, "amount > 10"⟩ := by
  have hvalid : validate ⟨Catalog.standard, ⟨11, 13⟩⟩ " amount  >  10 " = .ok "amount > 10" :=
    eq_ok_of_toOption (by decide +kernel)
  have hvalid' : validate ⟨Catalog.standard, ⟨12, 13⟩⟩ " amount  >  10 " = .ok "amount > 10" :=
    eq_ok_of_toOption (by decide +kernel)
  exact ⟨⟨hvalid, ((validate_normalized hvalid).1 (by decide)).1⟩, hvalid',
    (validate_normalized hvalid').2.1 (by decide)⟩

/-- An accepted text with a normal spelling that is too short: the limits are those of a text as it
is written, and collapsing its blanks brings it below them. -/
theorem validate_normalized_ne :
    validate ⟨Catalog.standard, ⟨12, 2000⟩⟩ "amount  >  1" = .ok "amount > 1" ∧
      validate ⟨Catalog.standard, ⟨12, 2000⟩⟩ "amount > 1" ≠ .ok "amount > 1" := by
  refine ⟨eq_ok_of_toOption (by decide +kernel), fun h => ?_⟩
  have hsome := congrArg Except.toOption h
  revert hsome
  decide +kernel

end Schema

end Screening
