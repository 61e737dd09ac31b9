import Screening.Proofs.Condition.Respelling

/-!
# The normal spelling is reached in one step

Respelling a text changes nothing that has been respelled before (`respell_respell`), makes no text
longer (`length_respell_le`) and can be exchanged with trimming it (`respell_trim`). So the normal
spelling of a text is the respelling of what stands between the blanks around it
(`toList_normalize`), which is no longer than that (`length_normalize_le`) and is its own normal
spelling (`normalize_normalize`). All of this holds of every text, also of one in which a quote is
never closed.
-/

namespace Screening

open Text

variable {c : Char} {cs span rest : List Char}

/-! ## Trimming -/

/-- What is left of a text begins with no blank. -/
theorem head_trimStart (cs : List Char) : ∀ d ∈ (trimStart cs).head?, isBlank d = false := by
  intro d hd
  exact head?_dropWhile_eq_false hd

theorem trimStart_trimStart (cs : List Char) : trimStart (trimStart cs) = trimStart cs :=
  trimStart_eq_self (head_trimStart cs)

/-- What is left of a text ends with no blank. -/
theorem getLast_trimEnd (cs : List Char) : ∀ d ∈ (trimEnd cs).getLast?, isBlank d = false := by
  intro d hd
  rw [trimEnd, List.getLast?_reverse] at hd
  exact head?_dropWhile_eq_false hd

theorem trimEnd_trimEnd (cs : List Char) : trimEnd (trimEnd cs) = trimEnd cs :=
  trimEnd_eq_self (getLast_trimEnd cs)

/-- What stands at the end of a text is trimmed first, and the rest only if nothing of it is
left. -/
theorem trimEnd_append (cs rest : List Char) :
    trimEnd (cs ++ rest) = if trimEnd rest = [] then trimEnd cs else cs ++ trimEnd rest := by
  simp only [trimEnd, List.reverse_append, List.dropWhile_append, List.isEmpty_iff,
    List.reverse_eq_nil_iff]
  split
  · rfl
  · rw [List.reverse_append, List.reverse_reverse]

theorem trimEnd_cons (c : Char) (cs : List Char) :
    trimEnd (c :: cs) = if trimEnd cs = [] then trimEnd [c] else c :: trimEnd cs :=
  trimEnd_append [c] cs

/-- Blanks are trimmed away. -/
theorem trimEnd_blanks {bs : List Char} (hb : ∀ b ∈ bs, isBlank b = true) : trimEnd bs = [] := by
  rw [trimEnd, List.dropWhile_eq_nil_iff.2 fun b hm => hb b (List.mem_reverse.1 hm),
    List.reverse_nil]

/-- Trimming the end of a text leaves its beginning as it is, as long as anything is left. -/
theorem head_trimEnd {d : Char} (h : d ∈ (trimEnd cs).head?) : d ∈ cs.head? := by
  obtain ⟨bs, -, hcs⟩ := exists_eq_trimEnd_append cs
  rw [hcs, List.head?_append, h]
  rfl

/-- It makes no difference which end of a text is trimmed first. -/
theorem trimStart_trimEnd (cs : List Char) : trimStart (trimEnd cs) = trimEnd (trimStart cs) := by
  obtain ⟨bs, hb, hcs⟩ := exists_eq_append_trimStart cs
  have hhead := head_trimStart cs
  generalize trimStart cs = t at hcs hhead
  subst hcs
  rw [trimEnd_append]
  split
  · next h => rw [h, trimEnd_blanks hb]; rfl
  · rw [trimStart, List.dropWhile_append_of_pos hb]
    exact trimStart_eq_self fun d hd => hhead d (head_trimEnd hd)

theorem trim_trim (cs : List Char) : trim (trim cs) = trim cs := by
  rw [trim, trim, trimStart_trimEnd, trimStart_trimStart, trimEnd_trimEnd]

/-! ## Words -/

/-- Respelling a word gives a word again, which is spelled as it should be. -/
theorem exists_spellWord (hc : isWordStart c = true) (hcs : ∀ d ∈ cs, isWordPart d = true) :
    ∃ e es, spellWord (c :: cs) = e :: es ∧ isWordStart e = true ∧
      (∀ d ∈ es, isWordPart d = true) ∧ spellWord (e :: es) = e :: es := by
  rw [spellWord_eq]
  cases hk : keyword? (c :: cs) with
  | none => exact ⟨c, cs, rfl, hc, hcs, by rw [spellWord_eq, hk]; rfl⟩
  | some k =>
    rcases keyword?_eq_some_iff.1 hk with ⟨-, hword⟩ | ⟨-, hword⟩ | ⟨-, hword⟩ <;>
      exact ⟨_, _, hword, by decide +kernel, List.all_eq_true.1 (by decide +kernel), by decide⟩

/-- No word has a blank in it. -/
theorem isBlank_eq_false_of_mem_word (hc : isWordStart c = true)
    (hcs : ∀ d ∈ cs, isWordPart d = true) : ∀ d ∈ c :: cs, isBlank d = false := by
  refine List.forall_mem_cons.2 ⟨isBlank_eq_false_of_isWordStart hc, fun d hd => ?_⟩
  refine Bool.eq_false_iff.2 fun hb => ?_
  have := hcs d hd
  rw [isWordPart_eq_false_of_isBlank hb] at this
  cases this

theorem length_spellWord (word : List Char) : (spellWord word).length = word.length := by
  rw [spellWord_eq]
  split
  · exact List.length_map _
  · rfl

/-! ## One lexeme after the other -/

/-- A text that begins with no blank is respelled as such a text. -/
theorem head_respell_eq_false (h : ∀ d ∈ cs.head?, isBlank d = false) :
    ∀ d ∈ (respell cs).head?, isBlank d = false := by
  intro d hd
  cases cs with
  | nil =>
    rw [respell] at hd
    cases hd
  | cons c cs =>
    rw [respell, h c rfl, if_neg Bool.false_ne_true] at hd
    split at hd
    · cases hd
      decide
    split at hd
    · next hc =>
      obtain ⟨e, es, heq, he⟩ := exists_spellWord_eq_cons hc (cs.takeWhile isWordPart)
      rw [heq] at hd
      cases hd
      exact isBlank_eq_false_of_isWordStart he
    · cases hd
      exact h _ rfl

/-- The blanks behind a blank are respelled with it. -/
theorem respell_blank (hc : isBlank c = true) (cs : List Char) :
    respell (c :: cs) = ' ' :: respell (trimStart cs) := by
  rw [respell, if_pos hc, trimStart]

/-- Nothing is left of a text that is respelled only if there was nothing. -/
theorem respell_eq_nil_iff : respell cs = [] ↔ cs = [] := by
  constructor
  · intro h
    cases cs with
    | nil => rfl
    | cons c cs =>
      rw [respell] at h
      split at h
      · cases h
      split at h
      · cases h
      split at h
      · next hc =>
        obtain ⟨e, es, heq, -⟩ := exists_spellWord_eq_cons hc (cs.takeWhile isWordPart)
        rw [heq] at h
        cases h
      · cases h
  · rintro rfl
    rw [respell]

/-- A quote that is never closed is not closed by trimming what stands behind it. -/
theorem splitQuoted_trimEnd (h : splitQuoted cs = none) : splitQuoted (trimEnd cs) = none := by
  obtain ⟨bs, -, hcs⟩ := exists_eq_trimEnd_append cs
  cases hsplit : splitQuoted (trimEnd cs) with
  | none => rfl
  | some found =>
    obtain ⟨inside, rest⟩ := found
    have hclosed := splitQuoted_append_quote hsplit (rest ++ bs)
    rw [← List.cons_append, ← List.append_assoc, ← splitQuoted_eq_append hsplit, ← hcs, h]
      at hclosed
    cases hclosed

/-- What ends with no blank and is respelled by itself, whether the rest is trimmed or not, is
respelled before or after trimming. -/
theorem respell_trimEnd_append {span' : List Char} (hspan : trimEnd span = span)
    (hspan' : trimEnd span' = span') (h : respell (span ++ rest) = span' ++ respell rest)
    (h' : respell (span ++ trimEnd rest) = span' ++ respell (trimEnd rest))
    (ih : respell (trimEnd rest) = trimEnd (respell rest)) :
    respell (trimEnd (span ++ rest)) = trimEnd (respell (span ++ rest)) := by
  rw [h, trimEnd_append, trimEnd_append, ← ih, hspan, hspan']
  simp only [respell_eq_nil_iff]
  split
  · next hnil =>
    rw [hnil, List.append_nil, respell, List.append_nil] at h'
    exact h'
  · exact h'

/-- A closed quoted text is respelled as itself, whatever stands behind it. -/
theorem respell_closed {inside : List Char} (h : splitQuoted cs = some (inside, rest))
    (rest' : List Char) :
    respell ('\'' :: inside ++ ['\''] ++ rest') = '\'' :: inside ++ ['\''] ++ respell rest' := by
  have hlist : '\'' :: inside ++ ['\''] ++ rest' = '\'' :: (inside ++ '\'' :: rest') := by simp
  rw [hlist, respell_quote, splitLiteral_of_some (splitQuoted_append_quote h rest')]
  simp

/-! ## Whole texts -/

/-- What has been respelled is left as it is. -/
theorem respell_respell (cs : List Char) : respell (respell cs) = respell cs := by
  fun_induction respell cs with
  | case1 => rw [respell]
  | case2 c cs hc ih =>
    have hhead := head_respell_eq_false (head_trimStart cs)
    rw [trimStart] at hhead
    rw [respell_blank (by decide), trimStart_eq_self hhead, ih]
  | case3 cs hblank ih =>
    cases hsplit : splitQuoted cs with
    | none => rw [← respell_quote, respell_of_none hsplit, respell_of_none hsplit]
    | some found =>
      obtain ⟨inside, rest⟩ := found
      rw [splitLiteral_of_some hsplit] at ih ⊢
      rw [← List.cons_append, respell_closed hsplit, ih]
  | case4 c cs hblank hquote hc ih =>
    obtain ⟨e, es, heq, he, hes, hspell⟩ :=
      exists_spellWord hc fun d hd => List.mem_takeWhile_imp hd
    have hend : Ends .identifier [] (cs.dropWhile isWordPart) := fun d hd =>
      head?_dropWhile_eq_false hd
    rw [heq, respell_word he hes hend.respell, hspell, ih]
  | case5 c cs hblank hquote hword ih =>
    rw [respell, if_neg hblank, if_neg hquote, if_neg hword, ih]

/-- Respelling makes no text longer. -/
theorem length_respell_le (cs : List Char) : (respell cs).length ≤ cs.length := by
  fun_induction respell cs with
  | case1 => exact Nat.le_refl _
  | case2 c cs hc ih =>
    have hle := (List.dropWhile_sublist isBlank (l := cs)).length_le
    simp only [List.length_cons]
    omega
  | case3 cs hblank ih =>
    have hsplit := congrArg List.length (splitLiteral_append cs)
    simp only [List.length_append, List.length_cons] at hsplit ⊢
    omega
  | case4 c cs hblank hquote hc ih =>
    have hsplit :=
      congrArg List.length (List.takeWhile_append_dropWhile (p := isWordPart) (l := cs))
    simp only [List.length_append, List.length_cons, length_spellWord] at hsplit ⊢
    omega
  | case5 c cs hblank hquote hword ih => exact Nat.succ_le_succ ih

/-- The beginning of a text may be trimmed before or after respelling it. -/
theorem respell_trimStart (cs : List Char) : respell (trimStart cs) = trimStart (respell cs) := by
  obtain ⟨bs, hb, hcs⟩ := exists_eq_append_trimStart cs
  obtain ⟨bs', hb', hrespell⟩ := respell_append_blanks hb (head_trimStart cs)
  calc
    respell (trimStart cs) = trimStart (respell (trimStart cs)) :=
      (trimStart_eq_self (head_respell_eq_false (head_trimStart cs))).symm
    _ = trimStart (bs' ++ respell (trimStart cs)) := (List.dropWhile_append_of_pos hb').symm
    _ = trimStart (respell cs) := by rw [← hrespell, ← hcs]

/-- A blank at the beginning of a text may be trimmed, with a text of blanks, before or after
respelling it. -/
theorem respell_trimEnd_blank (hc : isBlank c = true)
    (ih : respell (trimEnd (trimStart cs)) = trimEnd (respell (trimStart cs))) :
    respell (trimEnd (c :: cs)) = trimEnd (' ' :: respell (trimStart cs)) := by
  have hblank : ∀ {b : Char}, isBlank b = true → trimEnd [b] = [] := fun hb =>
    trimEnd_blanks (List.forall_mem_singleton.2 hb)
  rw [trimEnd_cons c, trimEnd_cons ' ', hblank hc, hblank (by decide), ← ih,
    ← trimStart_trimEnd]
  by_cases hnil : trimEnd cs = []
  · have hrest : respell (trimStart (trimEnd cs)) = [] := by
      rw [hnil]
      exact respell_eq_nil_iff.2 rfl
    rw [if_pos hnil, if_pos hrest, respell]
  · have hrest : respell (trimStart (trimEnd cs)) ≠ [] := by
      intro h
      have hblanks := List.dropWhile_eq_nil_iff.1 (respell_eq_nil_iff.1 h)
      rw [← trimEnd_trimEnd, trimEnd_blanks hblanks] at hnil
      exact hnil rfl
    rw [if_neg hnil, if_neg hrest, respell_blank hc]

/-- A quote that is never closed may be trimmed before or after respelling it, with everything
behind it. -/
theorem respell_trimEnd_of_none (h : splitQuoted cs = none) :
    respell (trimEnd ('\'' :: cs)) = trimEnd ('\'' :: cs) := by
  have htrim : trimEnd ('\'' :: cs) = '\'' :: trimEnd cs := by
    rw [trimEnd_cons]
    split
    · next hnil => rw [hnil]; rfl
    · rfl
  rw [htrim, respell_of_none (splitQuoted_trimEnd h)]

/-- The end of a text may be trimmed before or after respelling it. The induction follows the
lexemes; only a quote that is never closed reaches up to the end that is trimmed. -/
theorem respell_trimEnd (cs : List Char) : respell (trimEnd cs) = trimEnd (respell cs) := by
  fun_induction respell cs with
  | case1 => exact respell_eq_nil_iff.2 rfl
  | case2 c cs hc ih => exact respell_trimEnd_blank hc ih
  | case3 cs hblank ih =>
    cases hsplit : splitQuoted cs with
    | none =>
      rw [← respell_quote, respell_of_none hsplit]
      exact respell_trimEnd_of_none hsplit
    | some found =>
      obtain ⟨inside, rest⟩ := found
      have hspan : trimEnd ('\'' :: inside ++ ['\'']) = '\'' :: inside ++ ['\''] := by
        refine trimEnd_eq_self fun d hd => ?_
        rw [List.getLast?_concat] at hd
        cases hd
        decide
      have hcs : '\'' :: cs = '\'' :: inside ++ ['\''] ++ rest := by
        rw [splitQuoted_eq_append hsplit]
        simp
      rw [splitLiteral_of_some hsplit] at ih
      rw [← respell_quote, hcs]
      exact respell_trimEnd_append hspan hspan (respell_closed hsplit rest)
        (respell_closed hsplit (trimEnd rest)) ih
  | case4 c cs hblank hquote hc ih =>
    have hpart : ∀ d ∈ cs.takeWhile isWordPart, isWordPart d = true := fun d hd =>
      List.mem_takeWhile_imp hd
    have hend : ∀ d ∈ (cs.dropWhile isWordPart).head?, isWordPart d = false := fun d hd =>
      head?_dropWhile_eq_false hd
    obtain ⟨e, es, heq, he, hes, -⟩ := exists_spellWord hc hpart
    have hspan := trimEnd_eq_self fun d hd =>
      isBlank_eq_false_of_mem_word hc hpart d (List.mem_of_getLast? hd)
    have hspan' := trimEnd_eq_self fun d hd =>
      isBlank_eq_false_of_mem_word he hes d (List.mem_of_getLast? hd)
    rw [← heq] at hspan'
    have hword := respell_word hc hpart hend
    have hword' := respell_word hc hpart fun d hd => hend d (head_trimEnd hd)
    have happend := respell_trimEnd_append hspan hspan' hword hword' ih
    rwa [hword, List.cons_append, List.takeWhile_append_dropWhile] at happend
  | case5 c cs hblank hquote hword ih =>
    have hplain : ∀ d ∈ [c], isPlain d = true := List.forall_mem_singleton.2 (isPlain_iff.2
      ⟨Bool.eq_false_iff.2 hblank, hquote, Bool.eq_false_iff.2 hword⟩)
    have hspan : trimEnd [c] = [c] := trimEnd_eq_self fun d hd => by
      cases hd
      exact Bool.eq_false_iff.2 hblank
    have happend := respell_trimEnd_append hspan hspan (respell_append_plain hplain cs)
      (respell_append_plain hplain (trimEnd cs)) ih
    rwa [respell_append_plain hplain] at happend

/-- A text may be trimmed before or after respelling it. -/
theorem respell_trim (cs : List Char) : respell (trim cs) = trim (respell cs) := by
  rw [trim, trim, respell_trimEnd, respell_trimStart]

/-! ## Normal spellings -/

theorem toList_normalize (source : String) :
    (normalize source).toList = respell (trim source.toList) := by
  rw [normalize, String.toList_ofList, respell_trim]

/-- No blanks stand around a normal spelling. -/
theorem trim_normalize (source : String) :
    trim (normalize source).toList = (normalize source).toList := by
  rw [toList_normalize, ← respell_trim, trim_trim]

/-- **One step is enough.** A normal spelling is its own normal spelling. -/
theorem normalize_normalize (source : String) :
    normalize (normalize source) = normalize source := by
  refine String.toList_inj.1 ?_
  rw [toList_normalize, trim_normalize, toList_normalize, respell_respell]

/-- A normal spelling is no longer than what stands between the blanks around the text. -/
theorem length_normalize_le (source : String) :
    (normalize source).length ≤ (trim source.toList).length := by
  rw [← String.length_toList, toList_normalize]
  exact length_respell_le _

end Screening
