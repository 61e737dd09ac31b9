import Screening.Proofs.Condition.Canonical
import Screening.Proofs.Evaluation

/-!
# Conditions that are the same

Conditions that have been read are the same exactly if they have one canonical form
(`ReadCondition.same_iff`), so being the same is an equivalence among them, although it compares
numbers by their value. What is left out of the comparison is left out by everybody: a catalog
accepts both of two such conditions or neither, whatever else is in their texts, and both hold of
the same facts (`print_classifies`).
-/

namespace Screening

/-- A text with the condition that it is read as. -/
structure ReadCondition where
  source : String
  condition : Condition
  read_eq : Condition.read source = .ok condition

namespace ReadCondition

theorem same_iff_unplaced (r s : ReadCondition) :
    r.condition.same s.condition = true ↔ r.condition.unplaced = s.condition.unplaced :=
  (legible_of_read r.read_eq).same_iff (legible_of_read s.read_eq)

/-- Conditions that have been read are the same exactly if they have one canonical form. -/
theorem same_iff (r s : ReadCondition) :
    r.condition.same s.condition = true ↔ r.condition.print = s.condition.print :=
  (r.same_iff_unplaced s).trans (print_eq_print_iff r.read_eq s.read_eq).symm

/-- To be the same is to have one canonical form, and so an equivalence. -/
theorem equivalence_same :
    Equivalence fun r s : ReadCondition => r.condition.same s.condition = true where
  refl r := (r.same_iff r).2 rfl
  symm {r s} h := (s.same_iff r).2 ((r.same_iff s).1 h).symm
  trans {r s t} hrs hst := (r.same_iff t).2 (((r.same_iff s).1 hrs).trans ((s.same_iff t).1 hst))

end ReadCondition

/-- **Being the same is being written alike.** Conditions that have been read are the same exactly
if they have one canonical form. This is an equivalence among them, and conditions that are the same
are accepted by the same catalogs and hold of the same facts. -/
theorem print_classifies :
    (∀ r s : ReadCondition,
      r.condition.same s.condition = true ↔ r.condition.print = s.condition.print) ∧
    (Equivalence fun r s : ReadCondition => r.condition.same s.condition = true) ∧
    ∀ r s : ReadCondition, r.condition.same s.condition = true →
      (∀ (catalog : Catalog) (source source' : String),
        Schema.checkComparisons catalog source r.condition = .ok () ↔
          Schema.checkComparisons catalog source' s.condition = .ok ()) ∧
      ∀ (e : Evaluator) (facts : Facts), e.holds facts r.condition = e.holds facts s.condition := by
  refine ⟨ReadCondition.same_iff, ReadCondition.equivalence_same, fun r s h => ?_⟩
  have heq := (r.same_iff_unplaced s).1 h
  refine ⟨fun catalog source source' => ?_, fun e facts => Condition.holds_of_unplaced heq⟩
  rw [Schema.checkComparisons_eq_ok_iff, Schema.checkComparisons_eq_ok_iff]
  exact ⟨Condition.legal_of_unplaced heq.symm, Condition.legal_of_unplaced heq⟩

/-- Two spellings of one condition, and a condition that negates more. -/
theorem print_classifies_spellings :
    ∃ r s t : ReadCondition,
      r.source = "amount>1.50 and not(currency='X')" ∧
      s.source = "((amount > 1.5)) AND NOT currency = 'X'" ∧
      t.source = "not (amount > 1.5 and currency = 'X')" ∧
      r.condition.same s.condition = true ∧
      r.condition.print = s.condition.print ∧
      Schema.checkComparisons Catalog.standard s.source s.condition = .ok () ∧
      (∀ (e : Evaluator) (facts : Facts), e.holds facts r.condition = e.holds facts s.condition) ∧
      r.condition.same t.condition = false ∧
      r.condition.print ≠ t.condition.print := by
  obtain ⟨r, hr⟩ : ∃ r : ReadCondition, r = ⟨"amount>1.50 and not(currency='X')",
      .and (.compare ⟨.greater, .field "amount" 0,
          .literal (.number ⟨false, 0x3FF8000000000000, by decide⟩) 7, 6⟩)
        (.not (.compare ⟨.equal, .field "currency" 20, .literal (.text "X") 29, 28⟩) 16) 12,
      eq_ok_of_toOption (by decide +kernel)⟩ := ⟨_, rfl⟩
  obtain ⟨s, hs⟩ : ∃ s : ReadCondition, s = ⟨"((amount > 1.5)) AND NOT currency = 'X'",
      .and (.compare ⟨.greater, .field "amount" 2,
          .literal (.number ⟨false, 0x3FF8000000000000, by decide⟩) 11, 9⟩)
        (.not (.compare ⟨.equal, .field "currency" 25, .literal (.text "X") 36, 34⟩) 21) 17,
      eq_ok_of_toOption (by decide +kernel)⟩ := ⟨_, rfl⟩
  obtain ⟨t, ht⟩ : ∃ t : ReadCondition, t = ⟨"not (amount > 1.5 and currency = 'X')",
      .not (.and (.compare ⟨.greater, .field "amount" 5,
          .literal (.number ⟨false, 0x3FF8000000000000, by decide⟩) 14, 12⟩)
        (.compare ⟨.equal, .field "currency" 22, .literal (.text "X") 33, 31⟩) 18) 0,
      eq_ok_of_toOption (by decide +kernel)⟩ := ⟨_, rfl⟩
  obtain ⟨hprint, -, hmeaning⟩ := print_classifies
  have hsame : r.condition.same s.condition = true := by
    rw [hr, hs]
    decide +kernel
  have hnot : r.condition.same t.condition = false := by
    rw [hr, ht]
    rfl
  have haccepted :
      Schema.checkComparisons Catalog.standard r.source r.condition = .ok () := by
    rw [hr]
    rfl
  obtain ⟨haccept, hholds⟩ := hmeaning r s hsame
  refine ⟨r, s, t, by rw [hr], by rw [hs], by rw [ht], hsame, (hprint r s).1 hsame,
    (haccept _ r.source s.source).1 haccepted, hholds, hnot, fun h => ?_⟩
  rw [(hprint r t).2 h] at hnot
  cases hnot

end Screening
