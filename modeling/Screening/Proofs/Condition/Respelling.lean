import Screening.Condition.Normal
import Screening.Proofs.Condition.Acceptance
import Screening.Proofs.Condition.Places

/-!
# What the normal spelling says

`normalize` searches a text for quoted texts, words and blanks by a rule of its own, and `tokens`
cuts it into lexemes. The two agree on where every quoted text and every word begins and ends:
respelling a text respells its lexemes one by one and moves no boundary (`Spells.exists_respell`,
`Ends.respell`). So the normal spelling says what the text says (`Cut.exists_respell`,
`exists_cut_normalize`) and is read as the same condition (`read_normalize`).

A quote that is never closed runs to the end of the text, and blanks there belong to it. It is the
one lexeme that loses characters when a text is trimmed; no condition has one.
-/

namespace Screening

open Text

/-! ## Quoted texts -/

/-- Whatever stands behind a backslash is a part of the quoted text: a quote and a backslash because
the backslash guards them, and everything else because it closes nothing. -/
theorem splitQuoted_backslash (c : Char) (cs : List Char) :
    splitQuoted ('\\' :: c :: cs) =
      (splitQuoted cs).map fun (inside, rest) => ('\\' :: c :: inside, rest) := by
  by_cases hquote : c = '\''
  · subst hquote
    rfl
  by_cases hback : c = '\\'
  · subst hback
    rfl
  have hguard : ∀ {d : Char} {ds : List Char}, c :: cs = d :: ds → d = '\'' ∨ d = '\\' → False := by
    rintro d ds heq hd
    cases heq
    exact hd.elim hquote hback
  rw [splitQuoted.eq_5 _ _ (by decide) (fun _ _ h => hguard h (.inl rfl))
    (fun _ _ h => hguard h (.inr rfl)), splitQuoted_cons hquote hback, Option.map_map]
  rfl

theorem ne_backslash {c : Char} {cs : List Char} (hlast : c = '\\' → cs = [] → False)
    (hback : ∀ d ds, c = '\\' → cs = d :: ds → False) : c ≠ '\\' := by
  rintro rfl
  cases cs with
  | nil => exact hlast rfl rfl
  | cons d ds => exact hback d ds rfl rfl

/-- A quoted text that is closed is found whole. -/
theorem splitLiteral_of_some {cs inside rest : List Char}
    (h : splitQuoted cs = some (inside, rest)) : splitLiteral cs = (inside ++ ['\''], rest) := by
  fun_induction splitLiteral cs generalizing inside rest with
  | case1 | case3 => cases h
  | case2 => cases h; rfl
  | case4 c cs ih =>
    rw [splitQuoted_backslash] at h
    obtain ⟨⟨i, r⟩, hs, he⟩ := Option.map_eq_some_iff.1 h
    cases he
    rw [ih hs]
    rfl
  | case5 c cs hquote hlast hback ih =>
    rw [splitQuoted_cons hquote (ne_backslash hlast hback)] at h
    obtain ⟨⟨i, r⟩, hs, he⟩ := Option.map_eq_some_iff.1 h
    cases he
    rw [ih hs]
    rfl

/-- Of a quoted text that is never closed at most a backslash at its end is not found. -/
theorem splitLiteral_of_none {cs : List Char} (h : splitQuoted cs = none) :
    (splitLiteral cs).2 = [] ∨ (splitLiteral cs).2 = ['\\'] := by
  fun_induction splitLiteral cs with
  | case1 => exact .inl rfl
  | case2 => cases h
  | case3 => exact .inr rfl
  | case4 c cs ih =>
    rw [splitQuoted_backslash, Option.map_eq_none_iff] at h
    exact ih h
  | case5 c cs hquote hlast hback ih =>
    rw [splitQuoted_cons hquote (ne_backslash hlast hback), Option.map_eq_none_iff] at h
    exact ih h

/-! ## Words, blanks and what stands between them -/

/-- A keyword is found wherever the lexer finds one. -/
theorem spellWord_eq (word : List Char) :
    spellWord word = if (keyword? word).isSome then word.map Char.toUpper else word := by
  have hand : "AND".toList = ['A', 'N', 'D'] := rfl
  have hor : "OR".toList = ['O', 'R'] := rfl
  have hnot : "NOT".toList = ['N', 'O', 'T'] := rfl
  unfold spellWord keyword?
  split <;> simp_all

/-- A character that begins neither a quoted text nor a word nor blanks. -/
def isPlain (c : Char) : Bool := !isBlank c && c != '\'' && !isWordStart c

theorem isPlain_iff {c : Char} :
    isPlain c = true ↔ isBlank c = false ∧ c ≠ '\'' ∧ isWordStart c = false := by
  simp only [isPlain, Bool.and_eq_true, Bool.not_eq_true', bne_iff_ne, and_assoc]

/-- Plain characters are left as they are. -/
theorem respell_append_plain {cs : List Char} (h : ∀ c ∈ cs, isPlain c = true)
    (rest : List Char) : respell (cs ++ rest) = cs ++ respell rest := by
  induction cs with
  | nil => rfl
  | cons c cs ih =>
    obtain ⟨hc, hcs⟩ := List.forall_mem_cons.1 h
    obtain ⟨hblank, hquote, hword⟩ := isPlain_iff.1 hc
    rw [List.cons_append, respell, hblank, hword, if_neg Bool.false_ne_true, if_neg hquote,
      if_neg Bool.false_ne_true, ih hcs, List.cons_append]

/-- Blanks are respelled as blanks. -/
theorem respell_append_blanks {bs : List Char} (hb : ∀ b ∈ bs, isBlank b = true) {rest : List Char}
    (hrest : ∀ d ∈ rest.head?, isBlank d = false) :
    ∃ bs', (∀ b ∈ bs', isBlank b = true) ∧ respell (bs ++ rest) = bs' ++ respell rest := by
  cases bs with
  | nil => exact ⟨[], nofun, rfl⟩
  | cons b bs =>
    obtain ⟨hb, hbs⟩ := List.forall_mem_cons.1 hb
    refine ⟨[' '], List.forall_mem_singleton.2 (by decide), ?_⟩
    rw [List.cons_append, respell, if_pos hb, (takeWhile_dropWhile_append hbs hrest).2]
    rfl

theorem respell_quote (cs : List Char) :
    respell ('\'' :: cs) = '\'' :: (splitLiteral cs).1 ++ respell (splitLiteral cs).2 := by
  rw [respell, if_neg (by decide), if_pos rfl]

/-- A word is respelled as a whole. -/
theorem respell_word {c : Char} {cs rest : List Char} (hc : isWordStart c = true)
    (hcs : ∀ d ∈ cs, isWordPart d = true) (hrest : ∀ d ∈ rest.head?, isWordPart d = false) :
    respell (c :: cs ++ rest) = spellWord (c :: cs) ++ respell rest := by
  obtain ⟨htake, hdrop⟩ := takeWhile_dropWhile_append hcs hrest
  have hquote : c ≠ '\'' := (ne_of_isWordStart hc).1 _ (by decide)
  rw [List.cons_append, respell, isBlank_eq_false_of_isWordStart hc, if_neg Bool.false_ne_true,
    if_neg hquote, if_pos hc, htake, hdrop]

/-! ## Boundaries stay where they are -/

variable {k : TokenKind} {text span rest : List Char} {p : Nat} {cs : List Char} {ps : List Piece}

/-- A word begins as a word when it is respelled. -/
theorem exists_spellWord_eq_cons {c : Char} (hc : isWordStart c = true) (cs : List Char) :
    ∃ d ds, spellWord (c :: cs) = d :: ds ∧ isWordStart d = true := by
  rw [spellWord_eq]
  cases hk : keyword? (c :: cs) with
  | none => exact ⟨c, cs, rfl, hc⟩
  | some k =>
    rcases keyword?_eq_some_iff.1 hk with ⟨-, hword⟩ | ⟨-, hword⟩ | ⟨-, hword⟩ <;>
      exact ⟨_, _, hword, by decide +kernel⟩

/-- What a text begins with when it is respelled: what it has begun with, a blank instead of a blank
or the beginning of a word instead of another one. -/
theorem head_respell {d : Char} (h : d ∈ (respell rest).head?) :
    ∃ c ∈ rest.head?, d = c ∨ isBlank d = true ∨ isWordStart d = true ∧ isWordStart c = true := by
  cases rest with
  | nil =>
    rw [respell] at h
    cases h
  | cons c cs =>
    refine ⟨c, rfl, ?_⟩
    rw [respell] at h
    split at h
    · cases h
      exact .inr (.inl (by decide))
    split at h
    · next hc => cases h; exact .inl hc.symm
    split at h
    · next hc =>
      obtain ⟨e, es, heq, he⟩ := exists_spellWord_eq_cons hc (cs.takeWhile isWordPart)
      rw [heq] at h
      cases h
      exact .inr (.inr ⟨he, hc⟩)
    · cases h
      exact .inl rfl

/-- A lexeme that does not go on with the beginning of one word does not go on with that of
another. -/
theorem runsOn_of_isWordStart {c d : Char} (hc : isWordStart c = true) (hd : isWordStart d = true)
    (h : runsOn k span c = false) : runsOn k span d = false := by
  obtain ⟨hne, -, hdigit⟩ := ne_of_isWordStart hd
  cases k with
  | number =>
    have hdot : d ≠ '.' := by
      rintro rfl
      have := toNat_of_isWordStart hd
      revert this
      decide
    simp only [runsOn, isNumberPart, hdigit, Bool.false_or, beq_eq_false_iff_ne]
    exact hdot
  | identifier | and | or | not =>
    have hpart : isWordPart c = false := h
    rw [isWordPart_of_isWordStart hc] at hpart
    cases hpart
  | relation | unknown =>
    simp only [runsOn, beq_eq_false_iff_ne.2 (hne '=' (by decide)), Bool.false_and]
  | unterminated => cases h
  | text | leftParen | rightParen | endOfInput => rfl

/-- A lexeme ends where it has ended when what follows is respelled. -/
theorem Ends.respell (h : Ends k span rest) : Ends k span (respell rest) := by
  intro d hd
  obtain ⟨c, hc, hdc⟩ := head_respell hd
  have hend := h c hc
  rcases hdc with rfl | hblank | ⟨hd, hc⟩
  · exact hend
  · refine runsOn_of_isBlank span ?_ hblank
    rintro rfl
    cases hend
  · exact runsOn_of_isWordStart hc hd hend

/-- Numbers are made of plain characters. -/
theorem isPlain_of_isNumberPart {c : Char} (h : isNumberPart c = true) : isPlain c = true := by
  simp only [isNumberPart, Bool.or_eq_true, beq_iff_eq] at h
  rcases h with h | rfl
  · have hnat := toNat_of_isDigit h
    exact isPlain_iff.2 ⟨isBlank_eq_false_of_toNat (by omega) (by omega),
      ne_of_isDigit h _ (by decide), isWordStart_eq_false_of_lt (by omega)⟩
  · decide +kernel

/-- A character that begins no other lexeme is plain. -/
theorem isPlain_of_isStray {c : Char} (h : isStray c = true) : isPlain c = true := by
  simp only [isStray, Bool.and_eq_true, Bool.not_eq_true'] at h
  obtain ⟨⟨⟨hblank, hword⟩, -⟩, hsigns⟩ := h
  refine isPlain_iff.2 ⟨hblank, ?_, hword⟩
  rintro rfl
  cases hsigns

/-- A quote that is never closed is left as it is, and everything behind it. -/
theorem respell_of_none {cs : List Char} (h : splitQuoted cs = none) :
    respell ('\'' :: cs) = '\'' :: cs := by
  have htail : respell (splitLiteral cs).2 = (splitLiteral cs).2 := by
    rcases splitLiteral_of_none h with hrest | hrest <;> rw [hrest]
    · rw [respell]
    · have hplain : ∀ c ∈ ['\\'], isPlain c = true :=
        List.forall_mem_singleton.2 (by decide +kernel)
      have := respell_append_plain hplain []
      rwa [respell] at this
  rw [respell_quote, htail, List.cons_append, splitLiteral_append]

/-- A lexeme is respelled as a lexeme that says the same, and a quoted text as itself. -/
theorem Spells.exists_respell (hs : Spells k text span) (hend : Ends k span rest) :
    ∃ span', Spells k text span' ∧ Ends k span' (respell rest) ∧
      (k = .text → span' = span) ∧ respell (span ++ rest) = span' ++ respell rest := by
  cases hs with
  | relation r =>
    refine ⟨_, .relation r, hend.respell, fun _ => rfl, respell_append_plain ?_ rest⟩
    cases r <;> exact List.all_eq_true.1 (by decide +kernel)
  | leftParen =>
    exact ⟨_, .leftParen, hend.respell, fun _ => rfl,
      respell_append_plain (List.forall_mem_singleton.2 (by decide +kernel)) rest⟩
  | rightParen =>
    exact ⟨_, .rightParen, hend.respell, fun _ => rfl,
      respell_append_plain (List.forall_mem_singleton.2 (by decide +kernel)) rest⟩
  | @text inside h =>
    refine ⟨_, .text h, hend.respell, fun _ => rfl, ?_⟩
    have hlist : '\'' :: inside ++ ['\''] ++ rest = '\'' :: (inside ++ '\'' :: rest) := by simp
    rw [hlist, respell_quote, splitLiteral_of_some (h rest)]
    simp
  | @unterminated cs h =>
    cases hend.eq_nil
    refine ⟨_, .unterminated h, hend.respell, fun _ => rfl, ?_⟩
    rw [List.append_nil, respell_of_none h, respell, List.append_nil]
  | @number c cs hc hcs =>
    have hdigit : isNumberPart c = true := by rw [isNumberPart, hc, Bool.true_or]
    refine ⟨_, .number hc hcs, hend.respell, fun _ => rfl, respell_append_plain ?_ rest⟩
    exact List.forall_mem_cons.2 ⟨isPlain_of_isNumberPart hdigit,
      fun d hd => isPlain_of_isNumberPart (hcs d hd)⟩
  | name hc hcs hk =>
    refine ⟨_, .name hc hcs hk, hend.respell, fun _ => rfl, ?_⟩
    rw [respell_word hc hcs hend, spellWord_eq, hk]
    rfl
  | @keyword k c cs hc hcs hk =>
    have hend' := (ends_keyword_iff hk).1 hend.respell
    refine ⟨_, spells_upper hk, (ends_keyword_iff hk).2 hend', fun h => ?_, ?_⟩
    · rcases kind_of_keyword? hk with rfl | rfl | rfl <;> cases h
    · rw [respell_word hc hcs ((ends_keyword_iff hk).1 hend), spellWord_eq, hk]
      rfl
  | stray hc =>
    exact ⟨_, .stray hc, hend.respell, fun _ => rfl, respell_append_plain
      (List.forall_mem_singleton.2 (isPlain_of_isStray hc)) rest⟩

/-- **Respelling moves no boundary.** The pieces of a respelled text say what those of the text
say. -/
theorem Cut.exists_respell (h : Cut p cs ps) :
    ∀ p', ∃ qs, Cut p' (respell cs) qs ∧ qs.map Piece.said = ps.map Piece.said := by
  induction h with
  | blanks hb =>
    intro p'
    obtain ⟨bs, hbs, heq⟩ := respell_append_blanks hb (nofun : ∀ d ∈ [].head?, isBlank d = false)
    rw [List.append_nil, respell, List.append_nil] at heq
    exact ⟨[], heq ▸ .blanks hbs, rfl⟩
  | @piece p bs text span rest k ps hb hs hend _ ih =>
    intro p'
    obtain ⟨span', hs', hend', hspan, heq⟩ := hs.exists_respell hend
    have hhead : ∀ d ∈ (span ++ rest).head?, isBlank d = false := by
      obtain ⟨c, cs, rfl, hc⟩ := hs.exists_cons
      intro d hd
      cases hd
      exact hc
    obtain ⟨bs', hb', hblanks⟩ := respell_append_blanks hb hhead
    rw [hblanks, heq]
    obtain ⟨qs, hqs, hsaid⟩ := ih (p' + bs'.length + span'.length)
    refine ⟨_, .piece hb' hs' hend' hqs, ?_⟩
    rw [List.map_cons, List.map_cons, hsaid]
    by_cases hk : k = .text
    · rw [hspan hk]
      rfl
    · simp only [Piece.said, Token.content, if_neg hk]

/-! ## Whole texts -/

/-- What says the same is of the same kinds. -/
theorem map_kind_of_map_said {qs : List Piece} (h : qs.map Piece.said = ps.map Piece.said) :
    qs.map (·.token.kind) = ps.map (·.token.kind) := by
  have := congrArg (List.map fun s => s.1.1) h
  rwa [List.map_map, List.map_map] at this

theorem map_content_of_map_said {qs : List Piece} (h : qs.map Piece.said = ps.map Piece.said) :
    (qs.map Piece.token).map Token.content = (ps.map Piece.token).map Token.content := by
  have := congrArg (List.map fun s => s.1) h
  rw [List.map_map, List.map_map] at this ⊢
  exact this

/-- A kind that some pieces have none of is no kind of pieces of the same kinds. -/
theorem forall_kind_ne_of_map_kind {qs : List Piece}
    (h : qs.map (·.token.kind) = ps.map (·.token.kind)) (hps : ∀ q ∈ ps, q.token.kind ≠ k) :
    ∀ q ∈ qs, q.token.kind ≠ k := by
  intro q hq
  have hmem : q.token.kind ∈ qs.map (·.token.kind) := List.mem_map_of_mem hq
  rw [h] at hmem
  obtain ⟨r, hr, heq⟩ := List.mem_map.1 hmem
  exact heq ▸ hps r hr

/-- The pieces of the normal spelling of a text are of the kinds of its own pieces, and they say the
same unless a quote is never closed. -/
theorem exists_cut_normalize {source : String} (h : Cut 0 source.toList ps) :
    ∃ qs, Cut 0 (normalize source).toList qs ∧
      qs.map (·.token.kind) = ps.map (·.token.kind) ∧
      ((∀ q ∈ ps, q.token.kind ≠ .unterminated) → qs.map Piece.said = ps.map Piece.said) := by
  obtain ⟨ps₁, hps₁, hsaid₁⟩ := h.exists_respell 0
  obtain ⟨ps₂, hps₂, hsaid₂⟩ := hps₁.trimStart
  obtain ⟨bs, hbs, heq⟩ := exists_eq_trimEnd_append (trimStart (respell source.toList))
  obtain ⟨qs, hqs⟩ := exists_cut 0 (trimEnd (trimStart (respell source.toList)))
  obtain ⟨qs', hqs', hkinds', hsame⟩ := hqs.append_blanks_end hbs
  obtain rfl : qs' = ps₂ := by
    rw [← heq] at hqs'
    exact hqs'.unique hps₂
  have hsaid := hsaid₂.trans hsaid₁
  have hkinds := hkinds'.symm.trans (map_kind_of_map_said hsaid)
  refine ⟨qs, ?_, hkinds, fun hclosed => ?_⟩
  · rw [normalize, String.toList_ofList]
    exact hqs
  · rw [← hsame (forall_kind_ne_of_map_kind hkinds hclosed)]
    exact hsaid

/-- The quoted texts among the tokens of a text, as they are spelled there. -/
def quotedSpellings (source : String) : List (List Char) :=
  ((tokens source).filter (·.kind = .text)).map (Token.spelling source)

theorem quotedSpellings_of_cut {source : String} (h : Cut 0 source.toList ps) :
    quotedSpellings source = (ps.map Piece.said).filterMap (·.2) := by
  have hspelled : ∀ {ps : List Piece}, (∀ q ∈ ps, q.token.spelling source = q.span) →
      ((ps.map Piece.token).filter (·.kind = .text)).map (Token.spelling source) =
        (ps.map Piece.said).filterMap (·.2) := by
    intro ps hps
    induction ps with
    | nil => rfl
    | cons q ps ih =>
      obtain ⟨hq, hps⟩ := List.forall_mem_cons.1 hps
      by_cases hk : q.token.kind = .text
      · simp only [List.map_cons, List.filter_cons, hk, decide_true, if_true, Piece.said,
          List.filterMap_cons, hq, ih hps]
      · simp only [List.map_cons, List.filter_cons, hk, decide_false, Bool.false_eq_true, if_false,
          Piece.said, List.filterMap_cons, ih hps]
  rw [quotedSpellings, tokens_eq_of_cut h, List.filter_append, ← hspelled h.spelling_eq]
  simp

/-- Texts whose pieces say the same are read as the same condition. -/
theorem exists_derives_of_map_said {qs : List Piece} {k : Category} {room : Nat} {c : Condition}
    (h : qs.map Piece.said = ps.map Piece.said) (hc : Derives k room (ps.map Piece.token) c) :
    ∃ d, Derives k room (qs.map Piece.token) d ∧ d.unplaced = c.unplaced :=
  hc.transport (map_content_of_map_said h)

/-- **The normal spelling says what the text says.** Unless a quote is never closed, the tokens of
the normal spelling are of the same kinds and texts as those of the text, and quoted texts are
spelled as they were. The normal spelling of any text is read as a condition exactly if the text is,
and then as the same condition. -/
theorem read_normalize (source : String) :
    ((∀ t ∈ tokens source, t.kind ≠ .unterminated) →
      (tokens (normalize source)).map Token.content = (tokens source).map Token.content ∧
        quotedSpellings (normalize source) = quotedSpellings source) ∧
    ((∃ d, Condition.read (normalize source) = .ok d) ↔ ∃ c, Condition.read source = .ok c) ∧
    ∀ c d, Condition.read source = .ok c → Condition.read (normalize source) = .ok d →
      c.same d = true := by
  obtain ⟨ps, hps⟩ := exists_cut 0 source.toList
  obtain ⟨qs, hqs, hkinds, hsaid⟩ := exists_cut_normalize hps
  have hread : ∀ c, Condition.read source = .ok c →
      ∃ d, Condition.read (normalize source) = .ok d ∧ d.unplaced = c.unplaced := by
    intro c hc
    have hderives := (read_eq_ok_iff_of_cut hps).1 hc
    obtain ⟨d, hd, heq⟩ := exists_derives_of_map_said (hsaid fun q hq =>
      (hderives.kind_ne _ (List.mem_map_of_mem hq)).2.1) hderives
    exact ⟨d, (read_eq_ok_iff_of_cut hqs).2 hd, heq⟩
  refine ⟨fun hclosed => ?_, ⟨?_, ?_⟩, ?_⟩
  · have hsaid := hsaid fun q hq => hclosed _ (by
      rw [tokens_eq_of_cut hps]
      exact List.mem_append_left _ (List.mem_map_of_mem hq))
    constructor
    · rw [tokens_eq_of_cut hqs, tokens_eq_of_cut hps, List.map_append, List.map_append,
        map_content_of_map_said hsaid]
      rfl
    · rw [quotedSpellings_of_cut hqs, quotedSpellings_of_cut hps, hsaid]
  · rintro ⟨d, hd⟩
    have hderives := (read_eq_ok_iff_of_cut hqs).1 hd
    have hclosed : ∀ q ∈ ps, q.token.kind ≠ .unterminated :=
      forall_kind_ne_of_map_kind hkinds.symm fun q hq =>
        (hderives.kind_ne _ (List.mem_map_of_mem hq)).2.1
    obtain ⟨c, hc, -⟩ := exists_derives_of_map_said (hsaid hclosed).symm hderives
    exact ⟨c, (read_eq_ok_iff_of_cut hps).2 hc⟩
  · rintro ⟨c, hc⟩
    obtain ⟨d, hd, -⟩ := hread c hc
    exact ⟨d, hd⟩
  · intro c d hc hd
    obtain ⟨d', hd', heq⟩ := hread c hc
    rw [hd] at hd'
    cases hd'
    exact Condition.same_of_unplaced heq.symm

/-- A keyword between quotes is no keyword, and the blanks in front of it stay as they are. -/
theorem read_normalize_quoted_keyword :
    normalize " a='it\\'s  and'  and  b != 'x' " = "a='it\\'s  and' AND b != 'x'" ∧
      quotedSpellings (normalize " a='it\\'s  and'  and  b != 'x' ") =
        ["'it\\'s  and'".toList, "'x'".toList] ∧
      ∃ c d, Condition.read " a='it\\'s  and'  and  b != 'x' " = .ok c ∧
        Condition.read (normalize " a='it\\'s  and'  and  b != 'x' ") = .ok d ∧
        c.same d = true := by
  obtain ⟨htokens, hread, hsame⟩ := read_normalize " a='it\\'s  and'  and  b != 'x' "
  obtain ⟨-, hquoted⟩ := htokens (by decide +kernel)
  refine ⟨by decide +kernel, hquoted.trans ?_, ?_⟩
  · decide +kernel
  · have hok : (Condition.read " a='it\\'s  and'  and  b != 'x' ").isOk = true := by
      decide +kernel
    cases hc : Condition.read " a='it\\'s  and'  and  b != 'x' " with
    | error e => rw [hc] at hok; cases hok
    | ok c =>
      obtain ⟨d, hd⟩ := hread.2 ⟨c, hc⟩
      exact ⟨c, d, rfl, hd, hsame c d hc hd⟩

end Screening
