import Screening.Amount
import Screening.Proofs.Binary64.Display

/-!
# What an amount is read as

An amount is worth a number of the format, the nearest to it (`Amount.nearest`). What is written of
the amount is read as that number (`Amount.read?_render`), whatever decimals it keeps. The attribute
value that is made of the amount is the same number for every comparison, if the conversion of an
amount that is not whole gives the nearest one (`Amount.key_toValue`): zeros of both signs stand in
one place of the order.
-/

namespace Screening

open Text

namespace Amount

/-- The number of the format nearest to an amount. -/
def nearest (a : Amount) : Binary64 :=
  Binary64.ofRatio a.negative a.coefficient (Nat.pow 10 a.scale)

/-! ## Reading what is written -/

/-- An amount is written in digits, as many behind the point as it has decimals, that are worth its
coefficient. -/
theorem exists_render (a : Amount) :
    ∃ whole fraction, a.render = Binary64.signed a.negative (Binary64.joined (whole, fraction)) ∧
      whole ≠ [] ∧ (∀ c ∈ whole, c.isDigit = true) ∧ (∀ c ∈ fraction, c.isDigit = true) ∧
      Nat.ofDigitChars 10 (whole ++ fraction) 0 = a.coefficient ∧ fraction.length = a.scale := by
  obtain ⟨padded, hpadded⟩ : ∃ padded, padded =
      List.replicate (a.scale + 1 - (Nat.toDigits 10 a.coefficient).length) '0' ++
        Nat.toDigits 10 a.coefficient := ⟨_, rfl⟩
  have hlength : a.scale + 1 ≤ padded.length := by
    rw [hpadded, List.length_append, List.length_replicate]
    omega
  have hdigits : ∀ c ∈ padded, c.isDigit = true := by
    rw [hpadded]
    refine List.forall_mem_append.2 ⟨fun c hc => ?_, fun c hc => ?_⟩
    · rw [List.eq_of_mem_replicate hc]
      rfl
    · exact Nat.isDigit_of_mem_toDigits (by decide) (by decide) hc
  have hvalue : Nat.ofDigitChars 10 padded 0 = a.coefficient := by
    rw [hpadded, Nat.ofDigitChars_append, Nat.ofDigitChars_replicate_zero, Nat.mul_zero,
      Nat.ofDigitChars_ten_toDigits]
  refine ⟨padded.take (padded.length - a.scale), padded.drop (padded.length - a.scale), ?_, ?_,
    fun c hc => hdigits c (List.mem_of_mem_take hc),
    fun c hc => hdigits c (List.mem_of_mem_drop hc), ?_, ?_⟩
  · rw [render, ← hpadded]
    cases padded.drop (padded.length - a.scale) <;> rfl
  · refine List.ne_nil_of_length_pos ?_
    rw [List.length_take]
    omega
  · rw [List.take_append_drop, hvalue]
  · rw [List.length_drop]
    omega

/-- A coefficient with as many decimals as an amount may have is worth their quotient, zero
included. -/
theorem ofDecimal_neg_scale (negative : Bool) (coefficient : Nat) {scale : Nat}
    (hscale : scale ≤ maxScale) :
    Binary64.ofDecimal negative coefficient (-(scale : Int)) =
      Binary64.ofRatio negative coefficient (Nat.pow 10 scale) := by
  have hmax : maxScale = 28 := rfl
  by_cases hzero : coefficient = 0
  · rw [Binary64.ofDecimal, if_pos hzero, hzero,
      Binary64.ofRatio_zero negative (Binary64.pow_ten_pos scale)]
  by_cases hwhole : scale = 0
  · have hone : coefficient * Nat.pow 10 (Int.toNat 0) = coefficient := Nat.mul_one coefficient
    have hten : Nat.pow 10 0 = 1 := rfl
    rw [hwhole, hten, Int.natCast_zero, Int.neg_zero,
      Binary64.ofDecimal_of_nonneg negative hzero (Int.le_refl 0) (by decide), hone]
  · rw [Binary64.ofDecimal_of_neg negative hzero (by omega) (by omega), Int.neg_neg,
      Int.toNat_natCast]

/-- **What is written of an amount is read as the number nearest to it.** -/
theorem read?_render (a : Amount) : Binary64.read? a.render = some a.nearest := by
  obtain ⟨whole, fraction, hrender, hne, hw, hf, hvalue, hlength⟩ := a.exists_render
  obtain ⟨c, cs, hcons, hc, -⟩ := Binary64.exists_joined_eq_cons fraction hne hw hf
  rw [hrender, hcons, Binary64.read?_signed _ hc, ← hcons, Binary64.readDecimal?_joined hne hw hf,
    Option.map_some, hvalue, hlength]
  exact congrArg some (ofDecimal_neg_scale a.negative a.coefficient a.scale_le)

/-- There are no blanks in what is written of an amount. -/
theorem isBlank_eq_false_of_mem_render (a : Amount) : ∀ d ∈ a.render, isBlank d = false := by
  obtain ⟨whole, fraction, hrender, hne, hw, hf, -⟩ := a.exists_render
  obtain ⟨c, cs, hcons, hc, hcs⟩ := Binary64.exists_joined_eq_cons fraction hne hw hf
  have hplain : ∀ d ∈ c :: cs, isBlank d = false := by
    refine List.forall_mem_cons.2 ⟨isBlank_eq_false_of_isDigit hc, fun d hd => ?_⟩
    rcases hcs d hd with hdigit | rfl
    · exact isBlank_eq_false_of_isDigit hdigit
    · decide
  rw [hrender, hcons, Binary64.signed]
  split
  · exact List.forall_mem_cons.2 ⟨by decide, hplain⟩
  · exact hplain

/-- An amount that is written as a text is read as the number nearest to it. -/
theorem asNumber?_text_render (a : Amount) :
    (Value.text (String.ofList a.render)).asNumber? = some a.nearest := by
  rw [Value.asNumber?, String.toList_ofList, trim_eq_self a.isBlank_eq_false_of_mem_render,
    read?_render]

/-! ## Attribute values -/

/-- An integer is read as the number nearest to it, whether it fits 64 bits or not. -/
theorem asNumber?_ofInt (i : Int) : (Value.ofInt i).asNumber? = some (Binary64.ofInt i) := by
  rw [Value.ofInt]
  split
  · next hfits =>
    rw [Value.asNumber?, Int64.toInt_ofInt_of_le hfits.1 hfits.2]
  · rfl

/-- A whole amount has a coefficient that its decimals divide. -/
theorem exists_of_integer? {a : Amount} {i : Int} (h : a.integer? = some i) :
    ∃ q, a.coefficient = Nat.pow 10 a.scale * q ∧ i = if a.negative then -(q : Int) else q := by
  rw [integer?] at h
  split at h
  · next hwhole =>
    obtain ⟨q, hq⟩ := Nat.dvd_of_mod_eq_zero hwhole
    rw [hq, Nat.mul_div_cancel_left q (Binary64.pow_ten_pos a.scale)] at h
    exact ⟨q, hq, (Option.some.inj h).symm⟩
  · cases h

/-- The decimals of a whole amount do not count. -/
theorem nearest_of_dvd {a : Amount} {q : Nat} (hq : a.coefficient = Nat.pow 10 a.scale * q) :
    a.nearest = Binary64.ofRatio a.negative q 1 := by
  rw [nearest, hq, ← Binary64.ofRatio_mul_right a.negative q 1 (Binary64.pow_ten_pos a.scale),
    Nat.one_mul, Nat.mul_comm]

/-- A whole amount and the integer that it is stand in one place of the order. They are one number,
except that a zero among the amounts may have a sign. -/
theorem key_ofInt {a : Amount} {i : Int} (h : a.integer? = some i) :
    (Binary64.ofInt i).key = a.nearest.key := by
  obtain ⟨q, hq, rfl⟩ := exists_of_integer? h
  rw [nearest_of_dvd hq, Binary64.ofInt]
  have habs : (if a.negative then -(q : Int) else q).natAbs = q := by
    split <;> omega
  rw [habs]
  by_cases hzero : q = 0
  · -- the signs may differ, and the order does not look at the sign of a zero
    have hkey : ∀ negative, (Binary64.ofRatio negative 0 1).key = some 0 := by
      intro negative
      rw [Binary64.ofRatio_zero negative Nat.one_pos]
      cases negative <;> rfl
    rw [hzero, hkey, hkey]
  · have hsign : decide ((if a.negative then -(q : Int) else q) < 0) = a.negative := by
      cases a.negative with
      | false => exact decide_eq_false (by rw [if_neg Bool.false_ne_true]; omega)
      | true => exact decide_eq_true (by rw [if_pos rfl]; omega)
    rw [hsign]

/-- The attribute value that is made of an amount is a number in the place of the nearest one, if
that of an amount that is not whole is the nearest one. -/
theorem exists_asNumber?_toValue {a : Amount}
    (h : a.integer? = none → a.toFloat = a.nearest) :
    ∃ x, a.toValue.asNumber? = some x ∧ x.key = a.nearest.key := by
  rw [toValue]
  cases hinteger : a.integer? with
  | some i => exact ⟨_, asNumber?_ofInt i, key_ofInt hinteger⟩
  | none => exact ⟨_, rfl, congrArg Binary64.key (h hinteger)⟩

/-- The attribute value that is made of an amount can be read as a text. -/
theorem exists_asText?_toValue (a : Amount) : ∃ s, a.toValue.asText? = some s := by
  rw [toValue]
  split
  · rw [Value.ofInt]
    split
    · exact ⟨_, rfl⟩
    · exact ⟨_, rfl⟩
  · exact ⟨_, rfl⟩

end Amount

end Screening
