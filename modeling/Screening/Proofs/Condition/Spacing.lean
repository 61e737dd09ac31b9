import Screening.Proofs.Condition.Normal

/-!
# How a normal spelling is spaced

A text is searched from the left: a quote outside of a quoted text opens one, a backslash in it
takes the character behind it along, and the next quote closes it; outside of quoted texts a letter
or an underscore begins a word. `Region` says where in a text this search is behind some of its
characters (`Region.behind`), and knows nothing of respelling.

`Tidy` says that outside of quoted texts every blank is a single space and every keyword is in upper
case. Respelling makes every text tidy (`tidy_respell`), and a normal spelling has no blanks around
it, so each of its spaces stands between two characters that are none (`normalize_spacing`).
-/

namespace Screening

open Text

/-! ## Regions -/

/-- Where in a text a character stands. -/
inductive Region where
  /-- Outside of words and of quoted texts. -/
  | between
  /-- In a word, behind its first character. -/
  | word
  /-- In a quoted text, behind its opening quote. -/
  | quoted
  /-- In a quoted text, behind a backslash that takes the next character along. -/
  | guarded
  deriving DecidableEq

namespace Region

/-- The region behind a character that goes on with nothing. -/
def enter (c : Char) : Region :=
  if c = '\'' then .quoted else if isWordStart c then .word else .between

/-- The region behind a character that stands in a region. -/
def after : Region → Char → Region
  | .between, c => enter c
  | .word, c => if isWordPart c then .word else enter c
  | .quoted, c => if c = '\\' then .guarded else if c = '\'' then .between else .quoted
  | .guarded, _ => .quoted

/-- The region behind some characters. -/
def behind (cs : List Char) : Region := cs.foldl after .between

/-- Whether a region belongs to a quoted text. -/
def isQuoted : Region → Bool
  | .quoted | .guarded => true
  | .between | .word => false

variable {r : Region} {c : Char}

/-- No quoted text is closed by a blank. -/
theorem isQuoted_after_of_isBlank (hr : r.isQuoted = true) (hc : isBlank c = true) :
    (r.after c).isQuoted = true := by
  cases r with
  | between | word => cases hr
  | guarded => rfl
  | quoted =>
    have hquote : c ≠ '\'' := by
      rintro rfl
      cases hc
    rw [after, if_neg hquote]
    split <;> rfl

end Region

/-! ## Tidy texts -/

/-- `Tidy r cs` says of the text `cs`, which stands in the region `r`, that outside of quoted texts
every blank is a space that no blank follows and every word is spelled as it should be. -/
inductive Tidy : Region → List Char → Prop where
  | nil {r : Region} : Tidy r []
  | cons {r : Region} {c : Char} {cs : List Char}
      (hblank : r.isQuoted = false → isBlank c = true →
        c = ' ' ∧ ∀ d ∈ cs.head?, isBlank d = false)
      (hword : r = .between → isWordStart c = true →
        spellWord (c :: cs.takeWhile isWordPart) = c :: cs.takeWhile isWordPart)
      (h : Tidy (r.after c) cs) : Tidy r (c :: cs)

namespace Tidy

variable {r : Region} {c : Char} {cs ds rest : List Char}

/-- What stands behind some characters of a tidy text is tidy. -/
theorem behind_append (h : Tidy r (cs ++ ds)) : Tidy (cs.foldl Region.after r) ds := by
  induction cs generalizing r with
  | nil => exact h
  | cons c cs ih =>
    cases h with
    | cons _ _ h => exact ih h

/-- Nothing is asked of a character in a quoted text. -/
theorem cons_quoted (hr : r.isQuoted = true) (h : Tidy (r.after c) cs) : Tidy r (c :: cs) := by
  refine .cons (fun hr' => ?_) ?_ h
  · rw [hr] at hr'
    cases hr'
  · rintro rfl
    cases hr

/-- A text that goes on with no word may stand behind one. -/
theorem behind_word (h : Tidy .between rest) (hrest : ∀ d ∈ rest.head?, isWordPart d = false) :
    Tidy .word rest := by
  cases h with
  | nil => exact .nil
  | @cons _ c cs hblank hword h =>
    refine .cons hblank nofun ?_
    rw [Region.after, hrest c rfl, if_neg Bool.false_ne_true]
    exact h

/-- The rest of a word may stand in front of a tidy text. -/
theorem word_append (hcs : ∀ d ∈ cs, isWordPart d = true) (h : Tidy .between rest)
    (hrest : ∀ d ∈ rest.head?, isWordPart d = false) : Tidy .word (cs ++ rest) := by
  induction cs with
  | nil => exact h.behind_word hrest
  | cons c cs ih =>
    obtain ⟨hc, hcs⟩ := List.forall_mem_cons.1 hcs
    refine .cons (fun _ hb => ?_) nofun ?_
    · rw [isWordPart_eq_false_of_isBlank hb] at hc
      cases hc
    · rw [Region.after, if_pos hc]
      exact ih hcs

end Tidy

/-! ## Respelling -/

/-- A quoted text may stand in front of a tidy text. The induction is the search for the closing
quote; where there is none, at most a backslash is left. -/
theorem tidy_splitLiteral {cs : List Char} (h : Tidy .between (respell (splitLiteral cs).2)) :
    Tidy .quoted ((splitLiteral cs).1 ++ respell (splitLiteral cs).2) := by
  fun_induction splitLiteral cs with
  | case1 =>
    rw [respell]
    exact .nil
  | case2 cs => exact .cons_quoted rfl h
  | case3 =>
    have hplain : ∀ c ∈ ['\\'], isPlain c = true := List.forall_mem_singleton.2 (by decide +kernel)
    have heq : respell ['\\'] = ['\\'] ++ respell [] := respell_append_plain hplain []
    rw [respell] at heq
    exact heq.symm ▸ .cons_quoted rfl .nil
  | case4 c cs ih => exact .cons_quoted rfl (.cons_quoted rfl (ih h))
  | case5 c cs hquote hlast hback ih =>
    have hafter : Region.quoted.after c = .quoted := by
      rw [Region.after, if_neg (ne_backslash hlast hback), if_neg hquote]
    exact .cons_quoted rfl (hafter.symm ▸ ih h)

/-- **Respelling makes a text tidy.** -/
theorem tidy_respell (cs : List Char) : Tidy .between (respell cs) := by
  fun_induction respell cs with
  | case1 => exact .nil
  | case2 c cs hc ih =>
    refine .cons (fun _ _ => ⟨rfl, head_respell_eq_false (head_trimStart cs)⟩)
      (fun _ hstart => ?_) ih
    rw [isWordStart_eq_false_of_lt (by decide)] at hstart
    cases hstart
  | case3 cs hblank ih =>
    refine .cons (fun _ hb => absurd hb hblank) (fun _ hstart => ?_) (tidy_splitLiteral ih)
    rw [isWordStart_eq_false_of_lt (by decide)] at hstart
    cases hstart
  | case4 c cs hblank hquote hc ih =>
    obtain ⟨e, es, heq, he, hes, hspell⟩ :=
      exists_spellWord hc fun d hd => List.mem_takeWhile_imp hd
    have hend : Ends .identifier [] (cs.dropWhile isWordPart) := fun d hd =>
      head?_dropWhile_eq_false hd
    have hafter : Region.between.after e = .word := by
      rw [Region.after, Region.enter, if_neg ((ne_of_isWordStart he).1 _ (by decide)), if_pos he]
    rw [heq, List.cons_append]
    refine .cons (fun _ hb => ?_) (fun _ _ => ?_) ?_
    · rw [isBlank_eq_false_of_isWordStart he] at hb
      cases hb
    · rw [(takeWhile_dropWhile_append hes hend.respell).1]
      exact hspell
    · rw [hafter]
      exact .word_append hes ih hend.respell
  | case5 c cs hblank hquote hword ih =>
    have hafter : Region.between.after c = .between := by
      rw [Region.after, Region.enter, if_neg hquote, if_neg hword]
    exact .cons (fun _ hb => absurd hb hblank) (fun _ hstart => absurd hstart hword)
      (hafter.symm ▸ ih)

/-! ## Places in a tidy text -/

/-- No blanks stand around a text that is left as it is without them. -/
theorem ends_of_trim_eq {cs : List Char} (h : trim cs = cs) :
    (∀ c ∈ cs.head?, isBlank c = false) ∧ ∀ c ∈ cs.getLast?, isBlank c = false := by
  constructor
  · rw [← h, trim, ← trimStart_trimEnd]
    exact head_trimStart _
  · rw [← h, trim]
    exact getLast_trimEnd _

/-- The keywords, spelled as they should be. -/
def keywords : List (List Char) := ["AND".toList, "OR".toList, "NOT".toList]

/-- `StandsAsWord before word behind` says that the characters `word` are a word where they stand,
between `before` and `behind`: outside of words and of quoted texts they begin as a word does, and
they go on as far as a word goes. -/
structure StandsAsWord (before word behind : List Char) : Prop where
  region_eq : Region.behind before = .between
  spelled : ∃ c cs, word = c :: cs ∧ isWordStart c = true ∧ ∀ d ∈ cs, isWordPart d = true
  ends : ∀ d ∈ behind.head?, isWordPart d = false

namespace Tidy

variable {before behind word : List Char} {c : Char}

/-- No blank that is not quoted stands in front of a blank of a tidy text. -/
theorem getLast_not_blank (h : Tidy .between (before ++ c :: behind))
    (hregion : (Region.behind before).isQuoted = false) (hc : isBlank c = true) :
    ∀ d ∈ before.getLast?, isBlank d = false := by
  intro d hd
  obtain ⟨before, rfl⟩ := List.getLast?_eq_some_iff.1 hd
  refine Bool.eq_false_iff.2 fun hblank => ?_
  rw [List.append_assoc] at h
  rw [Region.behind, List.foldl_append] at hregion
  cases h.behind_append with
  | cons hspace =>
    cases hquoted : (before.foldl Region.after .between).isQuoted with
    | true =>
      have hregion' := Region.isQuoted_after_of_isBlank hquoted hblank
      rw [List.foldl_cons, List.foldl_nil, hregion'] at hregion
      cases hregion
    | false =>
      have hnot := (hspace hquoted hblank).2 c rfl
      rw [hc] at hnot
      cases hnot

/-- A blank of a tidy text that is not quoted is a single space between two characters that are
none, if no blanks stand around the text. -/
theorem spaced (h : Tidy .between (before ++ c :: behind))
    (htrim : trim (before ++ c :: behind) = before ++ c :: behind)
    (hregion : (Region.behind before).isQuoted = false) (hc : isBlank c = true) :
    c = ' ' ∧ (∃ d ∈ before.getLast?, isBlank d = false) ∧
      ∃ d ∈ behind.head?, isBlank d = false := by
  obtain ⟨hhead, hlast⟩ := ends_of_trim_eq htrim
  have hbefore := h.getLast_not_blank hregion hc
  cases h.behind_append with
  | cons hspace =>
    obtain ⟨hspace, hbehind⟩ := hspace hregion hc
    refine ⟨hspace, ?_, ?_⟩
    · -- at the beginning there would be a blank in front of the text
      cases hd : before.getLast? with
      | none =>
        rw [List.getLast?_eq_none_iff.1 hd] at hhead
        exact absurd (hhead c rfl) (by rw [hc]; decide)
      | some d => exact ⟨d, rfl, hbefore d hd⟩
    · cases hd : behind.head? with
      | none =>
        rw [List.head?_eq_none_iff.1 hd] at hlast
        exact absurd (hlast c List.getLast?_concat) (by rw [hc]; decide)
      | some d => exact ⟨d, rfl, hbehind d hd⟩

/-- A word of a tidy text that is a keyword in whatever case is one in upper case. -/
theorem mem_keywords (h : Tidy .between (before ++ (word ++ behind)))
    (hword : StandsAsWord before word behind) (hkey : word.map Char.toUpper ∈ keywords) :
    word ∈ keywords := by
  obtain ⟨hregion, ⟨c, cs, rfl, hc, hcs⟩, hend⟩ := hword
  have hbehind := h.behind_append
  rw [List.cons_append] at hbehind
  cases hbehind with
  | cons _ hspell =>
    have hspell := hspell hregion hc
    rw [(takeWhile_dropWhile_append hcs hend).1, spellWord, if_pos] at hspell
    · exact hspell ▸ hkey
    · simpa only [keywords, List.mem_cons, List.not_mem_nil, or_false] using hkey

end Tidy

/-! ## Normal spellings -/

/-- **One step leads to a canonical spacing.** The normal spelling of a text is its own normal
spelling. No blanks stand around it, and it is no longer than the text without the blanks around it.
Outside of quoted texts every blank in it is a single space between two characters that are none,
and every word in it that is a keyword in whatever case is one in upper case. -/
theorem normalize_spacing (source : String) :
    normalize (normalize source) = normalize source ∧
    ((∀ c ∈ (normalize source).toList.head?, isBlank c = false) ∧
      ∀ c ∈ (normalize source).toList.getLast?, isBlank c = false) ∧
    (normalize source).length ≤ (trim source.toList).length ∧
    (∀ before c behind, (normalize source).toList = before ++ c :: behind →
      (Region.behind before).isQuoted = false → isBlank c = true →
        c = ' ' ∧ (∃ d ∈ before.getLast?, isBlank d = false) ∧
          ∃ d ∈ behind.head?, isBlank d = false) ∧
    ∀ before word behind, (normalize source).toList = before ++ word ++ behind →
      StandsAsWord before word behind → word.map Char.toUpper ∈ keywords → word ∈ keywords := by
  have htrim := trim_normalize source
  have htidy : Tidy .between (normalize source).toList := by
    rw [toList_normalize]
    exact tidy_respell _
  refine ⟨normalize_normalize source, ends_of_trim_eq htrim, length_normalize_le source,
    fun before c behind heq hregion hc => ?_, fun before word behind heq hword hkey => ?_⟩
  · rw [heq] at htidy htrim
    exact htidy.spaced htrim hregion hc
  · rw [heq, List.append_assoc] at htidy
    exact htidy.mem_keywords hword hkey

/-- Blanks are collapsed and keywords raised up to a quote that is never closed, behind a number as
well; from there on nothing is changed, except that the text is trimmed at its end. -/
theorem normalize_spacing_open_quote :
    normalize " 1or\t b = 'x  or' And 'open  and \\ " = "1OR b = 'x  or' AND 'open  and \\" ∧
      normalize "1OR b = 'x  or' AND 'open  and \\" = "1OR b = 'x  or' AND 'open  and \\" ∧
      (∃ d ∈ "1OR b = 'x  or'".toList.getLast?, isBlank d = false) ∧
      StandsAsWord "1".toList "OR".toList " b = 'x  or' AND 'open  and \\".toList ∧
      "OR".toList ∈ keywords := by
  have hnormal : normalize " 1or\t b = 'x  or' And 'open  and \\ " =
      "1OR b = 'x  or' AND 'open  and \\" := by
    decide +kernel
  obtain ⟨hagain, -, -, hblank, hword⟩ :=
    normalize_spacing " 1or\t b = 'x  or' And 'open  and \\ "
  rw [hnormal] at hagain hblank hword
  have hstands : StandsAsWord "1".toList "OR".toList " b = 'x  or' AND 'open  and \\".toList :=
    ⟨by decide +kernel,
      ⟨'O', ['R'], rfl, by decide +kernel, List.all_eq_true.1 (by decide +kernel)⟩,
      fun d hd => by cases hd; decide +kernel⟩
  refine ⟨hnormal, hagain, ?_, hstands, hword _ _ _ rfl hstands (by decide)⟩
  exact (hblank _ ' ' "AND 'open  and \\".toList rfl (by decide +kernel) (by decide)).2.1

end Screening
