import Mathlib.Data.List.TakeWhile
import Screening.Text.Classes

/-!
# Which classes exclude each other

A text can be cut into words, numbers, quoted texts and blanks by looking at one character at a
time only because no character begins two of them. The tables of letters and numbers begin behind
the signs and digits of the language (`isWordStart_eq_false_of_lt`), and none of them holds a
blank (`isWordPart_eq_false_of_isBlank`), which is checked point by point: there are few blanks.
-/

namespace Screening.Text

open CodePointSet

variable {c : Char} {cs : List Char}

/-! ## Tables -/

/-- What lies in front of the first boundary is not in the set. -/
theorem within_eq_false_of_lt {n first : Nat} (rest : List Nat) (h : n < first) :
    within n (first :: rest) = false := by
  cases rest with
  | nil => simp [within, h]
  | cons => rw [within, if_pos h]

/-- The blanks, one by one. -/
def blankPoints : List Nat :=
  [0x9, 0xA, 0xB, 0xC, 0xD, 0x20, 0x85, 0xA0, 0x1680, 0x2000, 0x2001, 0x2002, 0x2003, 0x2004,
    0x2005, 0x2006, 0x2007, 0x2008, 0x2009, 0x200A, 0x2028, 0x2029, 0x202F, 0x205F, 0x3000]

theorem toNat_mem_blankPoints (h : isBlank c = true) : c.toNat ∈ blankPoints := by
  simp only [isBlank, contains, blank, within, Bool.if_false_right, Bool.and_true,
    Bool.if_false_left, Bool.if_true_left, Bool.and_eq_true, Bool.not_eq_eq_eq_not, Bool.not_true,
    decide_eq_false_iff_not, Nat.not_lt, Bool.or_eq_true, decide_eq_true_eq] at h
  simp only [blankPoints, List.mem_cons, List.not_mem_nil, or_false]
  omega

/-- No blank is a letter, a number, a digit or one of the signs that may stand in a token. -/
theorem not_mem_tables_of_mem_blankPoints : ∀ n ∈ blankPoints,
    within n alphabetic.boundaries = false ∧ within n numeric.boundaries = false ∧
      (n ≤ 0x20 ∨ 0x5F < n) := by
  decide +kernel

/-! ## Blanks -/

/-- A blank stands in front of all signs and digits or behind all of them. -/
theorem toNat_of_isBlank (h : isBlank c = true) : c.toNat ≤ 0x20 ∨ 0x5F < c.toNat :=
  (not_mem_tables_of_mem_blankPoints _ (toNat_mem_blankPoints h)).2.2

/-- A sign or a digit is no blank. -/
theorem isBlank_eq_false_of_toNat (h : 0x20 < c.toNat) (h' : c.toNat ≤ 0x5F) :
    isBlank c = false := by
  refine Bool.eq_false_iff.2 fun hb => ?_
  have := toNat_of_isBlank hb
  omega

/-- No word runs over a blank. -/
theorem isWordPart_eq_false_of_isBlank (h : isBlank c = true) : isWordPart c = false := by
  obtain ⟨ha, hn, -⟩ := not_mem_tables_of_mem_blankPoints _ (toNat_mem_blankPoints h)
  have hs := toNat_of_isBlank h
  simp only [isWordPart, contains, ha, hn, Bool.false_or, Bool.or_eq_false_iff,
    beq_eq_false_iff_ne]
  constructor <;> rintro rfl <;> revert hs <;> decide

/-! ## Words -/

/-- A word may go on with everything that it may begin with. -/
theorem isWordPart_of_isWordStart (h : isWordStart c = true) : isWordPart c = true := by
  simp only [isWordStart, isWordPart, Bool.or_eq_true] at h ⊢
  rcases h with h | h
  · exact .inl (.inl (.inl h))
  · exact .inl (.inr h)

/-- The signs and digits in front of the letters begin no word. -/
theorem isWordStart_eq_false_of_lt (h : c.toNat < 0x41) : isWordStart c = false := by
  have hc : alphabetic.contains c = false := within_eq_false_of_lt _ h
  simp only [isWordStart, hc, Bool.false_or, beq_eq_false_iff_ne]
  rintro rfl
  exact absurd h (by decide)

/-- A character that begins a word stands behind the signs and digits of the language. -/
theorem toNat_of_isWordStart (h : isWordStart c = true) : 0x41 ≤ c.toNat := by
  refine Nat.le_of_not_lt fun hlt => ?_
  rw [isWordStart_eq_false_of_lt hlt] at h
  cases h

/-- A character that begins a word is no blank. -/
theorem isBlank_eq_false_of_isWordStart (h : isWordStart c = true) : isBlank c = false := by
  refine Bool.eq_false_iff.2 fun hb => ?_
  have hp := isWordPart_of_isWordStart h
  rw [isWordPart_eq_false_of_isBlank hb] at hp
  cases hp

/-! ## Digits -/

theorem toNat_of_isDigit (h : c.isDigit = true) : 0x30 ≤ c.toNat ∧ c.toNat ≤ 0x39 := by
  simp only [Char.isDigit, Bool.and_eq_true, decide_eq_true_eq] at h
  exact ⟨UInt32.le_iff_toNat_le.1 h.1, UInt32.le_iff_toNat_le.1 h.2⟩

/-- A digit is no blank. -/
theorem isBlank_eq_false_of_isDigit (h : c.isDigit = true) : isBlank c = false := by
  have := toNat_of_isDigit h
  exact isBlank_eq_false_of_toNat (by omega) (by omega)

/-! ## Ends of a text -/

/-- Behind the characters that are taken comes one that is not. -/
theorem head?_dropWhile_eq_false {p : Char → Bool} {cs : List Char} {d : Char}
    (h : d ∈ (cs.dropWhile p).head?) : p d = false := by
  have hnot := List.head?_dropWhile_not p cs
  rwa [h] at hnot

/-- Characters of a class are taken as far as they go, up to one that is not in the class. -/
theorem takeWhile_dropWhile_append {p : Char → Bool} {cs rest : List Char}
    (hcs : ∀ d ∈ cs, p d = true) (hrest : ∀ d ∈ rest.head?, p d = false) :
    (cs ++ rest).takeWhile p = cs ∧ (cs ++ rest).dropWhile p = rest := by
  rw [List.takeWhile_append_of_pos hcs, List.dropWhile_append_of_pos hcs]
  cases rest with
  | nil => simp
  | cons d rest =>
    have hd := hrest d rfl
    simp [hd]

/-- A text is the blanks it begins with and the rest. -/
theorem exists_eq_append_trimStart (cs : List Char) :
    ∃ bs, (∀ b ∈ bs, isBlank b = true) ∧ cs = bs ++ trimStart cs :=
  ⟨cs.takeWhile isBlank, List.all_eq_true.1 List.all_takeWhile,
    List.takeWhile_append_dropWhile.symm⟩

/-- A text is what stands in front of the blanks it ends with, and these blanks. -/
theorem exists_eq_trimEnd_append (cs : List Char) :
    ∃ bs, (∀ b ∈ bs, isBlank b = true) ∧ cs = trimEnd cs ++ bs := by
  obtain ⟨bs, hbs, heq⟩ := exists_eq_append_trimStart cs.reverse
  refine ⟨bs.reverse, fun b hb => hbs b (List.mem_reverse.1 hb), ?_⟩
  calc
    cs = cs.reverse.reverse := cs.reverse_reverse.symm
    _ = (bs ++ trimStart cs.reverse).reverse := congrArg List.reverse heq
    _ = trimEnd cs ++ bs.reverse := List.reverse_append

/-- Nothing is left of a text without the blanks around it exactly if it is nothing but blanks. -/
theorem trim_eq_nil_iff : trim cs = [] ↔ ∀ c ∈ cs, isBlank c = true := by
  constructor
  · intro htrim
    obtain ⟨front, hfront, hcs⟩ := exists_eq_append_trimStart cs
    obtain ⟨behind, hbehind, hrest⟩ := exists_eq_trimEnd_append (trimStart cs)
    rw [trim] at htrim
    rw [hcs, hrest, htrim, List.nil_append]
    exact List.forall_mem_append.2 ⟨hfront, hbehind⟩
  · intro hblank
    have hstart : trimStart cs = [] := by
      rw [trimStart]
      exact List.dropWhile_eq_nil_iff.2 hblank
    rw [trim, hstart]
    rfl

/-- A text that begins with no blank loses nothing at its beginning. -/
theorem trimStart_eq_self (h : ∀ d ∈ cs.head?, isBlank d = false) : trimStart cs = cs := by
  cases cs with
  | nil => rfl
  | cons c cs =>
    have hc := h c rfl
    simp [trimStart, hc]

/-- A text that ends with no blank loses nothing at its end. -/
theorem trimEnd_eq_self (h : ∀ d ∈ cs.getLast?, isBlank d = false) : trimEnd cs = cs := by
  rw [← List.head?_reverse] at h
  have hrev := trimStart_eq_self h
  rw [trimEnd, show cs.reverse.dropWhile isBlank = cs.reverse from hrev, List.reverse_reverse]

/-- A text without blanks in it loses nothing. -/
theorem trim_eq_self (h : ∀ d ∈ cs, isBlank d = false) : trim cs = cs := by
  rw [trim, trimStart_eq_self fun d hd => h d (List.mem_of_mem_head? hd),
    trimEnd_eq_self fun d hd => h d (List.mem_of_getLast? hd)]

end Screening.Text
