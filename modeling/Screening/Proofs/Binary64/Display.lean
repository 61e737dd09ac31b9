import Screening.Binary64.Printer
import Screening.Binary64.Reader
import Screening.Proofs.Text.Classes

/-!
# Numbers as they are written

The positional form of a finite number is read as that number (`read?_display`). The way there has
three parts. Rounding depends on the value of a quotient only (`nearestRank_mul_right`) and leaves
the magnitudes of the row where they are (`nearestRank_units`), so the exact value of a number reads
back to it, and whatever `shortest` takes instead has been tried before it is taken
(`readsBack_shortest`). Moving zeros from the end of the digits into the power of ten does not
change what a decimal is read as, and neither does setting the point (`ofDecimal_pointed`). And the
characters that are written are those digits and that point again (`readDecimal?_joined`).
-/

namespace Screening.Binary64

open Text

/-! ## Rounding -/

/-- Below the first full binade the magnitude at a rank is the rank. -/
theorem units_of_lt {rank : Nat} (h : rank < binade) : units rank = rank := by
  simp only [units, Nat.div_eq_of_lt h, if_true, Nat.mod_eq_of_lt h]

/-- From the first full binade on, magnitudes have 53 significant binary digits. -/
theorem units_of_div_eq {rank e : Nat} (h : rank / binade = e + 1) :
    units rank = (binade + rank % binade) <<< e := by
  simp only [units, h, Nat.succ_ne_zero, if_false, Nat.add_sub_cancel]

/-- A number with 53 significant binary digits has as many as they are shifted by more. -/
theorem log2_shiftLeft {n : Nat} (hle : binade ≤ n) (hlt : n < 2 * binade) (e : Nat) :
    Nat.log2 (n <<< e) = 52 + e := by
  have hpos := Nat.two_pow_pos e
  have hn : n ≠ 0 := Nat.ne_of_gt (Nat.lt_of_lt_of_le (by decide) hle)
  rw [Nat.shiftLeft_eq, Nat.log2_eq_iff (Nat.mul_ne_zero hn (Nat.ne_of_gt hpos)), Nat.pow_succ,
    Nat.pow_add, Nat.mul_right_comm]
  constructor
  · exact Nat.mul_le_mul_right _ hle
  · exact Nat.mul_lt_mul_of_pos_right (by rwa [Nat.mul_comm] at hlt) hpos

/-- The magnitude at a rank is rounded to that rank. -/
theorem nearestRank_units (rank : Nat) : nearestRank (units rank) 1 = rank := by
  have hmod : rank % binade < binade := Nat.mod_lt _ (by decide)
  cases hexp : rank / binade with
  | zero =>
    have hlt : rank < binade := by
      rcases Nat.div_eq_zero_iff.1 hexp with h | h
      · cases h
      · exact h
    have hlog : Nat.log2 rank - 52 = 0 := by
      by_cases hrank : rank = 0
      · rw [hrank]; rfl
      · have := (@Nat.log2_lt rank 52 hrank).2 hlt
        omega
    simp only [nearestRank, units_of_lt hlt, Nat.div_one, hlog, Nat.shiftLeft_zero, Nat.mod_one,
      Nat.zero_mul, Nat.zero_add, Nat.mul_zero, Nat.zero_lt_one, decide_true, Bool.true_or, if_true]
  | succ e =>
    have hdiv := Nat.div_add_mod rank binade
    have hlog := log2_shiftLeft (Nat.le_add_right binade (rank % binade)) (by omega) e
    have hpos : 0 < Nat.pow 2 e := Nat.pow_pos (by decide)
    have hone : 1 <<< e = Nat.pow 2 e := Nat.one_shiftLeft e
    have hbelow : (binade + rank % binade) <<< e / Nat.pow 2 e = binade + rank % binade := by
      rw [Nat.shiftLeft_eq]; exact Nat.mul_div_cancel _ hpos
    have hexcess : (binade + rank % binade) <<< e % Nat.pow 2 e = 0 := by
      rw [Nat.shiftLeft_eq]; exact Nat.mul_mod_left _ _
    rw [hexp, Nat.mul_succ, Nat.mul_comm] at hdiv
    simp only [nearestRank, units_of_div_eq hexp, Nat.div_one, hlog, Nat.add_sub_cancel_left, hone,
      hbelow, hexcess, Nat.mul_zero, hpos, decide_true, Bool.true_or, if_true]
    omega

/-- The rank of a quotient depends on its value only. -/
theorem nearestRank_mul_right (num den : Nat) {k : Nat} (hk : 0 < k) :
    nearestRank (num * k) (den * k) = nearestRank num den := by
  have hstep : ∀ s, (den * k) <<< s = den <<< s * k := fun s => by
    rw [Nat.shiftLeft_eq, Nat.shiftLeft_eq, Nat.mul_right_comm]
  simp only [nearestRank, Nat.mul_div_mul_right _ _ hk, hstep, Nat.mul_mod_mul_right]
  generalize den <<< (Nat.log2 (num / den) - 52) = step
  have hlt : 2 * (num % step * k) < step * k ↔ 2 * (num % step) < step := by
    rw [← Nat.mul_assoc, Nat.mul_lt_mul_right hk]
  have heq : 2 * (num % step * k) = step * k ↔ 2 * (num % step) = step := by
    rw [← Nat.mul_assoc, Nat.mul_left_inj (Nat.ne_of_gt hk)]
  simp only [Bool.or_eq_true, Bool.and_eq_true, decide_eq_true_eq, beq_iff_eq, hlt, heq]

/-! ## Decimals -/

/-- The number nearest to a quotient depends on its value only. -/
theorem ofRatio_mul_right (negative : Bool) (num den : Nat) {k : Nat} (hk : 0 < k) :
    ofRatio negative (num * k) (den * k) = ofRatio negative num den := by
  rw [ofRatio, ofRatio, Nat.shiftLeft_eq, Nat.shiftLeft_eq, Nat.mul_right_comm,
    nearestRank_mul_right _ _ hk]

/-- Nothing, in however many parts, is zero. -/
theorem ofRatio_zero (negative : Bool) {den : Nat} (hden : 0 < den) :
    ofRatio negative 0 den = .finite (zero negative) := by
  have hone := ofRatio_mul_right negative 0 1 hden
  rw [Nat.zero_mul, Nat.one_mul] at hone
  exact hone

/-- A decimal with a negative power of ten that is not far outside the row is a quotient. -/
theorem ofDecimal_of_neg (negative : Bool) {digits : Nat} {e : Int} (hd : digits ≠ 0)
    (he : e < 0) (hlow : -2000 ≤ e) :
    ofDecimal negative digits e = ofRatio negative digits (Nat.pow 10 (-e).toNat) := by
  rw [ofDecimal, if_neg hd, if_neg (by omega), if_neg (by omega), if_neg (by omega)]

/-- A decimal with a power of ten that is not far outside the row is an integer. -/
theorem ofDecimal_of_nonneg (negative : Bool) {digits : Nat} {e : Int} (hd : digits ≠ 0)
    (he : 0 ≤ e) (hhigh : e ≤ 2000) :
    ofDecimal negative digits e = ofRatio negative (digits * Nat.pow 10 e.toNat) 1 := by
  rw [ofDecimal, if_neg hd, if_neg (by omega), if_neg (by omega), if_pos he]

theorem pow_ten_add (m n : Nat) : Nat.pow 10 (m + n) = Nat.pow 10 m * Nat.pow 10 n :=
  Nat.pow_add 10 m n

theorem pow_ten_pos (n : Nat) : 0 < Nat.pow 10 n := Nat.pow_pos (by decide)

/-- Zeros at the end of a decimal may be written as a power of ten, as long as the power stays
negative. -/
theorem ofDecimal_add (negative : Bool) {digits : Nat} (hd : digits ≠ 0) {zeros : Nat} {e : Int}
    (hlow : -2000 ≤ e) (hneg : e + zeros < 0) :
    ofDecimal negative digits (e + zeros) =
      ofDecimal negative (digits * Nat.pow 10 zeros) e := by
  have hpow := pow_ten_pos zeros
  have hsum : Nat.pow 10 (-e).toNat = Nat.pow 10 (-(e + zeros)).toNat * Nat.pow 10 zeros := by
    rw [← pow_ten_add]
    exact congrArg _ (by omega)
  rw [ofDecimal_of_neg negative hd hneg (by omega),
    ofDecimal_of_neg negative (Nat.mul_ne_zero hd (Nat.ne_of_gt hpow)) (by omega) hlow, hsum,
    ofRatio_mul_right _ _ _ hpow]

/-- A decimal whose power of ten is not negative may be written as an integer. -/
theorem ofDecimal_zero (negative : Bool) {digits : Nat} (hd : digits ≠ 0) {zeros : Nat} {e : Int}
    (hlow : -2000 ≤ e) (hhigh : e ≤ 2000) (hnonneg : 0 ≤ e + zeros) :
    ofDecimal negative (digits * Nat.pow 10 (e + zeros).toNat) 0 =
      ofDecimal negative (digits * Nat.pow 10 zeros) e := by
  have hne : ∀ k, digits * Nat.pow 10 k ≠ 0 := fun k =>
    Nat.mul_ne_zero hd (Nat.ne_of_gt (pow_ten_pos k))
  have hone : ∀ n, n * Nat.pow 10 (Int.toNat 0) = n := Nat.mul_one
  rw [ofDecimal_of_nonneg negative (hne _) (Int.le_refl 0) (by decide), hone]
  by_cases he : 0 ≤ e
  · have hsum : Nat.pow 10 (e + zeros).toNat = Nat.pow 10 zeros * Nat.pow 10 e.toNat := by
      rw [← pow_ten_add]
      exact congrArg _ (by omega)
    rw [ofDecimal_of_nonneg negative (hne _) he hhigh, Nat.mul_assoc, hsum]
  · have hsum : Nat.pow 10 zeros = Nat.pow 10 (e + zeros).toNat * Nat.pow 10 (-e).toNat := by
      rw [← pow_ten_add]
      exact congrArg _ (by omega)
    rw [ofDecimal_of_neg negative (hne _) (by omega) hlow, hsum, ← Nat.mul_assoc,
      ← ofRatio_mul_right negative _ 1 (pow_ten_pos (-e).toNat), Nat.one_mul]

/-- The rank of a decimal does not depend on its sign. -/
theorem exists_ofDecimal_eq_ofRank (digits : Nat) (e : Int) :
    ∃ rank, ∀ negative, ofDecimal negative digits e = ofRank negative rank := by
  by_cases hd : digits = 0
  · exact ⟨0, fun _ => by rw [ofDecimal, if_pos hd]; rfl⟩
  by_cases hhigh : 2000 < e
  · exact ⟨overflowRank, fun _ => by rw [ofDecimal, if_neg hd, if_pos hhigh]; rfl⟩
  by_cases hlow : e < -(Nat.log2 digits + 2000 : Int)
  · exact ⟨0, fun _ => by rw [ofDecimal, if_neg hd, if_neg hhigh, if_pos hlow]; rfl⟩
  by_cases he : 0 ≤ e
  · exact ⟨_, fun _ => by rw [ofDecimal, if_neg hd, if_neg hhigh, if_neg hlow, if_pos he]; rfl⟩
  · exact ⟨_, fun _ => by rw [ofDecimal, if_neg hd, if_neg hhigh, if_neg hlow, if_neg he]; rfl⟩

/-- A decimal that reads back to a rank gives the number at that rank, with either sign. -/
theorem ofDecimal_of_readsBack {rank digits : Nat} {e : Int} (hrank : rank < overflowRank)
    (h : readsBack rank digits e = true) (negative : Bool) :
    ofDecimal negative digits e = .finite ⟨negative, rank, hrank⟩ := by
  obtain ⟨r, hr⟩ := exists_ofDecimal_eq_ofRank digits e
  rw [readsBack, hr, beq_iff_eq] at h
  rw [hr]
  unfold ofRank at h ⊢
  split at h
  · next hlt =>
    obtain rfl : r = rank := Int.ofNat_inj.1 (Option.some.inj h)
    rw [dif_pos hlt]
  · simp only [key, Option.some.injEq, if_neg Bool.false_ne_true] at h
    omega

/-! ## The fewest digits -/

/-- Whatever is rounded off, what is taken reads back. -/
theorem roundedAt_eq_some {tie : Tie} {rank dropped : Nat} {found : Nat × Int}
    (h : roundedAt tie rank dropped = some found) :
    readsBack rank found.1 found.2 = true ∧ -1074 ≤ found.2 := by
  unfold roundedAt at h
  extract_lets grid below rest exponent nearer farther at h
  have hexponent : -1074 ≤ exponent := by omega
  split at h
  · next hback => cases h; exact ⟨hback, hexponent⟩
  · split at h
    · next hback => cases h; exact ⟨hback, hexponent⟩
    · cases h

theorem exactDigits_ne_zero {rank : Nat} (h : rank ≠ 0) : exactDigits rank ≠ 0 := by
  have hunits : units rank ≠ 0 := fun h0 => h (by rw [← nearestRank_units rank, h0]; decide)
  have hpow : ∀ k, Nat.pow 5 k ≠ 0 := fun k => Nat.ne_of_gt (Nat.pow_pos (by decide))
  rw [exactDigits]
  exact Nat.mul_ne_zero hunits (hpow 1074)

/-- The exact value at a rank is rounded to that rank. -/
theorem nearestRank_units_mul_pow (rank k : Nat) :
    nearestRank ((units rank * Nat.pow 5 k) <<< k) (Nat.pow 10 k) = rank := by
  have hten : (units rank * Nat.pow 5 k) <<< k = units rank * Nat.pow 10 k := by
    rw [Nat.shiftLeft_eq, Nat.mul_assoc]
    exact congrArg (units rank * ·) (Nat.mul_pow 5 2 k).symm
  have hscale := nearestRank_mul_right (units rank) 1 (pow_ten_pos k)
  rwa [Nat.one_mul, nearestRank_units, ← hten] at hscale

/-- The exact value at a rank gives the number at that rank. -/
theorem ofDecimal_exactDigits (negative : Bool) {rank : Nat} (h : rank ≠ 0) :
    ofDecimal negative (exactDigits rank) (-1074) = ofRank negative rank := by
  have hpower : (-(-1074 : Int)).toNat = 1074 := rfl
  rw [ofDecimal_of_neg negative (exactDigits_ne_zero h) (by decide) (by decide), ofRatio,
    exactDigits, hpower]
  generalize 1074 = k
  rw [nearestRank_units_mul_pow]

/-- The exact value reads back. -/
theorem readsBack_exactDigits {rank : Nat} (h0 : rank ≠ 0) (hrank : rank < overflowRank) :
    readsBack rank (exactDigits rank) (-1074) = true := by
  rw [readsBack, ofDecimal_exactDigits false h0, ofRank, dif_pos hrank]
  exact beq_self_eq_true _

/-- The decimal with the fewest digits reads back. -/
theorem readsBack_shortest (tie : Tie) {rank : Nat} (h0 : rank ≠ 0) (hrank : rank < overflowRank) :
    readsBack rank (shortest tie rank).1 (shortest tie rank).2 = true ∧
      -1074 ≤ (shortest tie rank).2 := by
  rw [shortest]
  cases hfound : (List.range 17).findSome? fun i =>
      roundedAt tie rank (decimalLength (exactDigits rank) - (i + 1)) with
  | none =>
    rw [Option.getD_none]
    exact ⟨readsBack_exactDigits h0 hrank, Int.le_refl _⟩
  | some found =>
    obtain ⟨_, _, h⟩ := List.exists_of_findSome?_eq_some hfound
    rw [Option.getD_some]
    exact roundedAt_eq_some h

/-! ## Digits and the point -/

/-- Digits are those in front of the zeros they end in, and these zeros. -/
theorem exists_eq_append_replicate (cs : List Char) :
    ∃ zeros, cs = (cs.reverse.dropWhile (· == '0')).reverse ++ List.replicate zeros '0' := by
  refine ⟨(cs.reverse.takeWhile (· == '0')).length, ?_⟩
  have hzeros : cs.reverse.takeWhile (· == '0') =
      List.replicate (cs.reverse.takeWhile (· == '0')).length '0' :=
    List.eq_replicate_iff.2 ⟨rfl, fun c hc =>
      beq_iff_eq.1 (List.all_eq_true.1 List.all_takeWhile c hc)⟩
  calc
    cs = (cs.reverse.takeWhile (· == '0') ++ cs.reverse.dropWhile (· == '0')).reverse := by
      rw [List.takeWhile_append_dropWhile, List.reverse_reverse]
    _ = _ := by
      rw [List.reverse_append]
      conv => lhs; rw [hzeros, List.reverse_replicate]

/-- The value of digits is that of the digits in front of the zeros they end in, with as many
powers of ten. -/
theorem withoutZeros_eq (digits : Nat) (e : Int) :
    ∃ (kept : List Char) (zeros : Nat), withoutZeros digits e = (kept, e + zeros) ∧
      (∀ c ∈ kept, c.isDigit = true) ∧
      digits = Nat.ofDigitChars 10 kept 0 * Nat.pow 10 zeros := by
  obtain ⟨zeros, hzeros⟩ := exists_eq_append_replicate (Nat.toDigits 10 digits)
  have hlength := congrArg List.length hzeros
  have hvalue := congrArg (Nat.ofDigitChars 10 · 0) hzeros
  simp only [Nat.ofDigitChars_ten_toDigits, Nat.ofDigitChars_append,
    Nat.ofDigitChars_replicate_zero] at hvalue
  rw [List.length_append, List.length_replicate] at hlength
  refine ⟨_, zeros, Prod.ext rfl ?_, fun c hc => ?_, ?_⟩
  · show e + (_ - _ : Int) = _
    omega
  · exact Nat.isDigit_of_mem_toDigits (by decide) (by decide)
      (hzeros ▸ List.mem_append_left _ hc)
  · rw [Nat.mul_comm]
    exact hvalue

/-- The digits before the point and behind it, with the point between them if any digit stands
behind it. -/
def joined : List Char × List Char → List Char
  | (whole, []) => whole
  | (whole, fraction) => whole ++ '.' :: fraction

/-- The point is set into digits in such a way that they are worth what they are worth with their
power of ten. -/
theorem ofDecimal_pointed (negative : Bool) {digits : List Char} {zeros : Nat} {e : Int}
    (hlow : -2000 ≤ e) (hhigh : e ≤ 2000) (hd : Nat.ofDigitChars 10 digits 0 ≠ 0) :
    ofDecimal negative
        (Nat.ofDigitChars 10 ((pointed digits (e + zeros)).1 ++ (pointed digits (e + zeros)).2) 0)
        (-((pointed digits (e + zeros)).2.length : Int)) =
      ofDecimal negative (Nat.ofDigitChars 10 digits 0 * Nat.pow 10 zeros) e := by
  rw [pointed]
  split
  · next hpos =>
    rw [← ofDecimal_zero negative hd hlow hhigh hpos]
    simp only [List.append_nil, Nat.ofDigitChars_append, Nat.ofDigitChars_replicate_zero]
    rw [Nat.mul_comm]
    rfl
  · next hneg =>
    have hneg := Int.not_le.1 hneg
    rw [← ofDecimal_add negative hd hlow hneg]
    dsimp only
    split
    · next hplaces =>
      simp only [List.take_append_drop, List.length_drop]
      congr 1
      omega
    · next hplaces =>
      simp only [List.length_append, List.length_replicate,
        Nat.ofDigitChars_append, Nat.ofDigitChars_replicate_zero]
      congr 1
      omega

/-- There is a digit before the point, and there are only digits before and behind it. -/
theorem pointed_digits {digits : List Char} (hne : digits ≠ [])
    (hd : ∀ c ∈ digits, c.isDigit = true) (e : Int) :
    (pointed digits e).1 ≠ [] ∧ (∀ c ∈ (pointed digits e).1, c.isDigit = true) ∧
      ∀ c ∈ (pointed digits e).2, c.isDigit = true := by
  have hzeros : ∀ n, ∀ c ∈ List.replicate n '0', c.isDigit = true := fun n c hc => by
    rw [List.eq_of_mem_replicate hc]
    rfl
  rw [pointed]
  split
  · exact ⟨List.append_ne_nil_of_left_ne_nil hne _, List.forall_mem_append.2 ⟨hd, hzeros _⟩, nofun⟩
  · dsimp only
    split
    · next hplaces =>
      refine ⟨?_, fun c hc => hd c (List.mem_of_mem_take hc),
        fun c hc => hd c (List.mem_of_mem_drop hc)⟩
      intro h
      have := congrArg List.length h
      simp only [List.length_take, List.length_nil] at this
      omega
    · exact ⟨List.cons_ne_nil _ _, List.forall_mem_singleton.2 rfl,
        List.forall_mem_append.2 ⟨hzeros _, hd⟩⟩

/-! ## Reading what is written -/

/-- No digit is a letter that one of the words for a number begins with. -/
theorem toLower_of_isDigit {c : Char} (hc : c.isDigit = true) : c.toLower = c := by
  have hnat := toNat_of_isDigit hc
  refine dif_neg fun h : c.val ≥ 'A'.val ∧ c.val ≤ 'Z'.val => ?_
  have : 0x41 ≤ c.toNat := UInt32.le_iff_toNat_le.1 h.1
  omega

/-- The sign is split off again. -/
theorem splitSign_signed (negative : Bool) {c : Char} (hc : c.isDigit = true) (cs : List Char) :
    splitSign (signed negative (c :: cs)) = (negative, c :: cs) := by
  cases negative with
  | true => rfl
  | false =>
    show splitSign (c :: cs) = _
    unfold splitSign
    split
    · next h => cases h; cases hc
    · next h => cases h; cases hc
    · rfl

/-- A text that begins with a digit, with or without a sign in front of it, is read as a decimal. -/
theorem read?_signed (negative : Bool) {c : Char} (hc : c.isDigit = true) (cs : List Char) :
    read? (signed negative (c :: cs)) =
      (readDecimal? (c :: cs)).map fun (digits, e) => ofDecimal negative digits e := by
  have hword : ∀ d ds, d.isDigit = false → ((c :: cs).map Char.toLower == d :: ds) = false := by
    rintro d ds hd
    refine beq_eq_false_iff_ne.2 fun h => ?_
    rw [List.map_cons, toLower_of_isDigit hc] at h
    cases h
    rw [hc] at hd
    cases hd
  have hinf := hword 'i' ['n', 'f'] rfl
  have hinfinity := hword 'i' ['n', 'f', 'i', 'n', 'i', 't', 'y'] rfl
  have hnan := hword 'n' ['a', 'n'] rfl
  rw [read?, splitSign_signed negative hc]
  dsimp only
  rw [show "inf".toList = ['i', 'n', 'f'] from rfl,
    show "infinity".toList = ['i', 'n', 'f', 'i', 'n', 'i', 't', 'y'] from rfl,
    show "nan".toList = ['n', 'a', 'n'] from rfl, hinf, hinfinity, hnan]
  simp only [Bool.or_false, Bool.false_eq_true, if_false]

/-- What begins with a digit is read as a number that is not negative. -/
theorem negative_eq_false_of_read? {c : Char} {cs : List Char} {x : Finite}
    (hc : c.isDigit = true) (h : read? (c :: cs) = some (.finite x)) : x.negative = false := by
  have hread : read? (c :: cs) = _ := read?_signed false hc cs
  rw [h] at hread
  obtain ⟨⟨digits, e⟩, -, heq⟩ := Option.map_eq_some_iff.1 hread.symm
  obtain ⟨rank, hrank⟩ := exists_ofDecimal_eq_ofRank digits e
  dsimp only at heq
  rw [hrank, ofRank] at heq
  split at heq <;> cases heq
  rfl

/-- Digits with a point among them are read as their value and a power of ten for each digit behind
the point. -/
theorem readDecimal?_joined {whole fraction : List Char} (hne : whole ≠ [])
    (hw : ∀ c ∈ whole, c.isDigit = true) (hf : ∀ c ∈ fraction, c.isDigit = true) :
    readDecimal? (joined (whole, fraction)) =
      some (Nat.ofDigitChars 10 (whole ++ fraction) 0, -(fraction.length : Int)) := by
  have hempty : whole.isEmpty = false := List.isEmpty_eq_false_iff.2 hne
  have hdigits : ∀ {cs : List Char}, (∀ c ∈ cs, c.isDigit = true) → splitDigits cs = (cs, []) := by
    intro cs h
    rw [splitDigits, List.takeWhile_eq_self_iff.2 h, List.dropWhile_eq_nil_iff.2 h]
  cases fraction with
  | nil =>
    simp [joined, readDecimal?, hdigits hw, splitFraction, hempty, readExponent?]
  | cons d ds =>
    obtain ⟨htake, hdrop⟩ := takeWhile_dropWhile_append hw
      (fun _ h => by cases h; rfl : ∀ c ∈ ('.' :: d :: ds).head?, Char.isDigit c = false)
    have hwhole : splitDigits (whole ++ '.' :: d :: ds) = (whole, '.' :: d :: ds) := by
      rw [splitDigits, htake, hdrop]
    simp [joined, readDecimal?, hwhole, splitFraction, hdigits hf, hempty, readExponent?]

/-- A magnitude is written in digits, with a point among them if need be, that are worth the
magnitude. -/
theorem displayMagnitude_eq {rank : Nat} (hrank : rank < overflowRank) :
    ∃ whole fraction, displayMagnitude rank = joined (whole, fraction) ∧ whole ≠ [] ∧
      (∀ c ∈ whole, c.isDigit = true) ∧ (∀ c ∈ fraction, c.isDigit = true) ∧
      ∀ negative, ofDecimal negative (Nat.ofDigitChars 10 (whole ++ fraction) 0)
        (-(fraction.length : Int)) = .finite ⟨negative, rank, hrank⟩ := by
  by_cases h0 : rank = 0
  · subst h0
    exact ⟨['0'], [], rfl, List.cons_ne_nil _ _, List.forall_mem_singleton.2 rfl, nofun,
      fun _ => rfl⟩
  · obtain ⟨hback, hlow⟩ := readsBack_shortest .upper h0 hrank
    generalize hshort : shortest .upper rank = found at hback hlow
    obtain ⟨digits, e⟩ := found
    have hfinite := ofDecimal_of_readsBack hrank hback
    obtain ⟨kept, zeros, heq, hdigit, hvalue⟩ := withoutZeros_eq digits e
    have hdigits : digits ≠ 0 := by
      rintro rfl
      have := hfinite false
      rw [ofDecimal, if_pos rfl] at this
      cases this
      exact h0 rfl
    have hhigh : e ≤ 2000 := by
      refine Int.not_lt.1 fun hlt => ?_
      have := hfinite false
      rw [ofDecimal, if_neg hdigits, if_pos hlt] at this
      cases this
    have hkept : Nat.ofDigitChars 10 kept 0 ≠ 0 := fun h =>
      hdigits (by rw [hvalue, h, Nat.zero_mul])
    have hne : kept ≠ [] := by
      rintro rfl
      exact hkept rfl
    obtain ⟨hwhole, hw, hf⟩ := pointed_digits hne hdigit (e + zeros)
    refine ⟨(pointed kept (e + zeros)).1, (pointed kept (e + zeros)).2, ?_, hwhole, hw, hf,
      fun negative => ?_⟩
    · rw [displayMagnitude, if_neg h0, hshort]
      dsimp only
      rw [heq]
      rfl
    · rw [ofDecimal_pointed negative (by omega) hhigh hkept, ← hvalue]
      exact hfinite negative

/-- Digits with a point among them begin with a digit and run over digits and the point. -/
theorem exists_joined_eq_cons {whole : List Char} (fraction : List Char) (hne : whole ≠ [])
    (hw : ∀ c ∈ whole, c.isDigit = true) (hf : ∀ c ∈ fraction, c.isDigit = true) :
    ∃ c cs, joined (whole, fraction) = c :: cs ∧ c.isDigit = true ∧
      ∀ d ∈ cs, d.isDigit = true ∨ d = '.' := by
  obtain ⟨c, cs, rfl⟩ := List.exists_cons_of_ne_nil hne
  obtain ⟨hc, hcs⟩ := List.forall_mem_cons.1 hw
  cases fraction with
  | nil => exact ⟨c, cs, rfl, hc, fun d hd => .inl (hcs d hd)⟩
  | cons e es =>
    exact ⟨c, cs ++ '.' :: e :: es, rfl, hc, List.forall_mem_append.2 ⟨fun d hd => .inl (hcs d hd),
      List.forall_mem_cons.2 ⟨.inr rfl, fun d hd => .inl (hf d hd)⟩⟩⟩

/-- **Reading undoes writing.** The positional form of a finite number is read as that number. -/
theorem read?_display (x : Finite) : read? x.display = some (.finite x) := by
  obtain ⟨whole, fraction, heq, hne, hw, hf, hvalue⟩ := displayMagnitude_eq x.rank_lt
  obtain ⟨c, cs, hcons, hc, -⟩ := exists_joined_eq_cons fraction hne hw hf
  rw [Finite.display, heq, hcons, read?_signed _ hc, ← hcons, readDecimal?_joined hne hw hf,
    Option.map_some]
  exact congrArg some (hvalue x.negative)

/-- The positional form of a number that is not negative begins with a digit and runs over digits
and a point. -/
theorem exists_display_eq_cons {x : Finite} (hx : x.negative = false) :
    ∃ c cs, x.display = c :: cs ∧ c.isDigit = true ∧ ∀ d ∈ cs, d.isDigit = true ∨ d = '.' := by
  obtain ⟨whole, fraction, heq, hne, hw, hf, -⟩ := displayMagnitude_eq x.rank_lt
  rw [Finite.display, hx, heq]
  exact exists_joined_eq_cons fraction hne hw hf

end Screening.Binary64
