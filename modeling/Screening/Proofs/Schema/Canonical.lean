import Screening.Proofs.Condition.Canonical
import Screening.Proofs.Schema.Normal

/-!
# Accepting the canonical form of an accepted text

The canonical form of an accepted text is read as the same condition, so its comparisons are as
legal as those of the text. Its length is another matter: blanks are added around signs, and blanks
and parentheses that are not needed are left out, so it can be longer than the text or shorter. It
is accepted if the limits allow it (`Accepts.print`), and otherwise its length is what is reported
(`compile_print`).
-/

namespace Screening

open Text

namespace Schema

variable {schema : Schema} {source : String} {c : Condition}

/-- The canonical form of an accepted text is accepted as the same condition if its length is within
the limits. -/
theorem Accepts.print (h : schema.Accepts source c)
    (hmin : schema.limits.minLength ≤ c.print.length)
    (hmax : c.print.length ≤ schema.limits.maxLength) :
    ∃ d, schema.Accepts c.print d ∧ d.unplaced = c.unplaced := by
  obtain ⟨d, hread, heq⟩ := exists_read_print h.read_eq
  rw [← length_trim_print h.read_eq] at hmin hmax
  exact ⟨d, ⟨⟨hmin, hmax⟩, hread, Condition.legal_of_unplaced heq h.legal⟩, heq⟩

/-- **The canonical form of an accepted text is accepted again**, as the same condition, unless it
is shorter or longer than the limits allow; then this is what is reported about it. It has five
characters at least, so no schema that asks for no more than that finds it too short. -/
theorem compile_print (h : schema.compile source = .ok c) :
    (schema.limits.minLength ≤ c.print.length → c.print.length ≤ schema.limits.maxLength →
      ∃ d, schema.compile c.print = .ok d ∧ d.same c = true) ∧
    (c.print.length < schema.limits.minLength →
      schema.compile c.print = .error (.locate .malformed "Expression too short" c.print 0)) ∧
    (schema.limits.maxLength < c.print.length →
      schema.compile c.print = .error (.locate .malformed
        ("Expression too long (at most " ++ toString schema.limits.maxLength ++ " characters)")
        c.print schema.limits.maxLength)) ∧
    5 ≤ c.print.length := by
  have haccepts := compile_eq_ok_iff.1 h
  have hread := haccepts.read_eq
  have hlength := length_trim_print hread
  refine ⟨fun hmin hmax => ?_, fun hmin => ?_, fun hmax => ?_, five_le_length_print hread⟩
  · obtain ⟨d, haccepts', heq⟩ := haccepts.print hmin hmax
    exact ⟨d, compile_eq_ok_iff.2 haccepts', Condition.same_of_unplaced heq⟩
  · exact compile_eq_error_iff.2 (.tooShort (by rwa [hlength]))
  · -- the text itself was within the limits, so no canonical form is too short and too long at once
    have hmin : schema.limits.minLength ≤ c.print.length := by
      have := haccepts.allowed.minLength_le
      have := haccepts.allowed.le_maxLength
      omega
    have hreports : schema.Reports c.print _ :=
      .tooLong (by rwa [hlength]) (by rwa [hlength])
    rw [(bare_print hread).takeWhile_eq_nil, List.length_nil, Nat.zero_add] at hreports
    exact compile_eq_error_iff.2 hreports

/-- A text of ten characters with a canonical form of twelve, under limits that leave room for it,
for one character less, and for none that is so short. -/
theorem compile_print_bounds :
    ∃ c, c.print = "amount > 1.5" ∧
      (compile ⟨Catalog.standard, ⟨3, 12⟩⟩ "amount>1.5" = .ok c ∧
        ∃ d, compile ⟨Catalog.standard, ⟨3, 12⟩⟩ "amount > 1.5" = .ok d ∧ d.same c = true) ∧
      compile ⟨Catalog.standard, ⟨3, 11⟩⟩ "amount > 1.5" =
        .error ⟨.malformed, "Expression too long (at most 11 characters)", 11, "5"⟩ ∧
      ∃ e, compile ⟨Catalog.standard, ⟨13, 20⟩⟩ "((amount>1.50))" = .ok e ∧
        e.print = "amount > 1.5" ∧
        compile ⟨Catalog.standard, ⟨13, 20⟩⟩ "amount > 1.5" =
          .error ⟨.malformed, "Expression too short", 0, "amount > 1.5"⟩ := by
  obtain ⟨c, hc⟩ : ∃ c : Condition, c = .compare ⟨.greater, .field "amount" 0,
      .literal (.number ⟨false, 0x3FF8000000000000, by decide⟩) 7, 6⟩ := ⟨_, rfl⟩
  obtain ⟨e, he⟩ : ∃ e : Condition, e = .compare ⟨.greater, .field "amount" 2,
      .literal (.number ⟨false, 0x3FF8000000000000, by decide⟩) 9, 8⟩ := ⟨_, rfl⟩
  have hprint : c.print = "amount > 1.5" := by
    rw [hc]
    decide +kernel
  have hprint' : e.print = "amount > 1.5" := by
    rw [he]
    decide +kernel
  have hroom : compile ⟨Catalog.standard, ⟨3, 12⟩⟩ "amount>1.5" = .ok c :=
    eq_ok_of_toOption (by rw [hc]; decide +kernel)
  have hless : compile ⟨Catalog.standard, ⟨3, 11⟩⟩ "amount>1.5" = .ok c :=
    eq_ok_of_toOption (by rw [hc]; decide +kernel)
  have hlong : compile ⟨Catalog.standard, ⟨13, 20⟩⟩ "((amount>1.50))" = .ok e :=
    eq_ok_of_toOption (by rw [he]; decide +kernel)
  have hfits := (compile_print hroom).1
  have htooLong := (compile_print hless).2.2.1
  have htooShort := (compile_print hlong).2.1
  rw [hprint] at hfits htooLong
  rw [hprint'] at htooShort
  exact ⟨c, hprint, ⟨hroom, hfits (by decide) (by decide)⟩, htooLong (by decide), e, hlong, hprint',
    htooShort (by decide)⟩

/-- An accepted text with a canonical form that is too long: the limits are those of a text as it is
written, and the blanks around the sign bring it above them. -/
theorem compile_print_ne :
    ∃ c, compile ⟨Catalog.standard, ⟨3, 8⟩⟩ "amount>1" = .ok c ∧
      ∀ d, compile ⟨Catalog.standard, ⟨3, 8⟩⟩ c.print ≠ .ok d := by
  obtain ⟨c, hc⟩ : ∃ c : Condition, c = .compare ⟨.greater, .field "amount" 0,
      .literal (.number ⟨false, 0x3FF0000000000000, by decide⟩) 7, 6⟩ := ⟨_, rfl⟩
  have hprint : c.print = "amount > 1" := by
    rw [hc]
    decide +kernel
  have hreports : Reports ⟨Catalog.standard, ⟨3, 8⟩⟩ "amount > 1" _ :=
    .tooLong (by decide +kernel) (by decide +kernel)
  refine ⟨c, eq_ok_of_toOption (by rw [hc]; decide +kernel), fun d hd => ?_⟩
  rw [hprint, compile_eq_error_iff.2 hreports] at hd
  cases hd

end Schema

end Screening
