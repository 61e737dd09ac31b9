import Screening.Proofs.Token.Lexeme

/-!
# How a text falls into tokens

`Cut` says how a text falls into pieces: blanks, and behind them characters that spell a lexeme and
end where it ends, again and again. Every text falls into pieces (`exists_cut`), there is only one
way to do so (`Cut.unique`), and the tokens of the text are those of its pieces with the closing
token behind them (`Cut.tokensFrom_eq`). A cut of one text can be turned into a cut of another one
piece by piece, which says what the tokens of that other text are.
-/

namespace Screening

open Text

/-- A token together with the characters it takes. -/
structure Piece where
  token : Token
  span : List Char

/-- `Cut p cs ps` says that the text `cs`, whose first character stands at `p`, falls into the
pieces `ps` and blanks. -/
inductive Cut : Nat → List Char → List Piece → Prop where
  | blanks {p : Nat} {bs : List Char} (hb : ∀ b ∈ bs, isBlank b = true) : Cut p bs []
  | piece {p : Nat} {bs text span rest : List Char} {k : TokenKind} {ps : List Piece}
      (hb : ∀ b ∈ bs, isBlank b = true) (hs : Spells k text span) (hend : Ends k span rest)
      (h : Cut (p + bs.length + span.length) rest ps) :
      Cut p (bs ++ (span ++ rest)) (⟨⟨k, String.ofList text, p + bs.length⟩, span⟩ :: ps)

variable {p : Nat} {cs : List Char} {ps : List Piece}

/-! ## Building a cut -/

/-- Blanks in front of a text belong to none of its pieces. -/
theorem Cut.append_blanks {bs : List Char} (hb : ∀ b ∈ bs, isBlank b = true)
    (h : Cut (p + bs.length) cs ps) : Cut p (bs ++ cs) ps := by
  cases h with
  | blanks hb' => exact .blanks (List.forall_mem_append.2 ⟨hb, hb'⟩)
  | @piece _ bs' text span rest k ps hb' hs hend h =>
    rw [Nat.add_assoc p, ← List.length_append] at h ⊢
    rw [← List.append_assoc]
    exact .piece (List.forall_mem_append.2 ⟨hb, hb'⟩) hs hend h

/-- A lexeme that ends in front of a text is its first piece. -/
theorem Cut.cons {k : TokenKind} {text span : List Char} (hs : Spells k text span)
    (hend : Ends k span cs) (h : Cut (p + span.length) cs ps) :
    Cut p (span ++ cs) (⟨⟨k, String.ofList text, p⟩, span⟩ :: ps) :=
  @Cut.piece p [] text span cs k ps nofun hs hend h

/-! ## Cutting off one piece -/

/-- Blanks in front of a character that is none are all the blanks there are. -/
theorem takeWhile_isBlank_append {bs : List Char} {c : Char} (hb : ∀ b ∈ bs, isBlank b = true)
    (hc : isBlank c = false) (cs : List Char) :
    (bs ++ c :: cs).takeWhile isBlank = bs ∧ (bs ++ c :: cs).dropWhile isBlank = c :: cs :=
  takeWhile_dropWhile_append hb fun d hd => by cases hd; exact hc

theorem tokensFrom_blanks {bs : List Char} (hb : ∀ b ∈ bs, isBlank b = true) :
    tokensFrom p bs = [⟨.endOfInput, "", p + bs.length⟩] := by
  rw [tokensFrom, List.takeWhile_eq_self_iff.2 hb]
  split
  · rfl
  · next h => rw [List.dropWhile_eq_nil_iff.2 hb] at h; cases h

/-- The lexeme behind blanks gives the first token. -/
theorem tokensFrom_append {bs text span rest : List Char} {k : TokenKind}
    (hb : ∀ b ∈ bs, isBlank b = true) (hs : Spells k text span) (hend : Ends k span rest) :
    tokensFrom p (bs ++ (span ++ rest)) =
      ⟨k, String.ofList text, p + bs.length⟩ ::
        tokensFrom (p + bs.length + span.length) rest := by
  obtain ⟨c, cs, rfl, hc⟩ := hs.exists_cons
  obtain ⟨htake, hdrop⟩ := takeWhile_isBlank_append hb hc (cs ++ rest)
  rw [List.cons_append, tokensFrom, htake]
  split
  · next h => rw [hdrop] at h; cases h
  · next d ds h =>
    rw [hdrop] at h
    cases h
    simp only [lexeme_append hs hend rfl]

/-! ## Cuts and tokens -/

/-- The tokens of a text are those of its pieces, and the closing one. -/
theorem Cut.tokensFrom_eq (h : Cut p cs ps) :
    tokensFrom p cs = ps.map Piece.token ++ [⟨.endOfInput, "", p + cs.length⟩] := by
  induction h with
  | blanks hb => exact tokensFrom_blanks hb
  | piece hb hs hend _ ih =>
    rw [tokensFrom_append hb hs hend, ih]
    simp only [List.map_cons, List.cons_append, List.length_append, Nat.add_assoc]

/-- The tokens of a whole text are those of its pieces, and the one behind its last character. -/
theorem tokens_eq_of_cut {source : String} (h : Cut 0 source.toList ps) :
    tokens source = ps.map Piece.token ++ [⟨.endOfInput, "", source.length⟩] := by
  rw [tokens, h.tokensFrom_eq, Nat.zero_add, String.length_toList]

/-- Every text falls into pieces. -/
theorem exists_cut (p : Nat) (cs : List Char) : ∃ ps, Cut p cs ps := by
  induction hn : cs.length using Nat.strongRecOn generalizing p cs with
  | ind n ih =>
    subst hn
    obtain ⟨bs, hb, hcs⟩ := exists_eq_append_trimStart cs
    cases hrest : trimStart cs with
    | nil =>
      rw [hrest, List.append_nil] at hcs
      exact ⟨[], .blanks (hcs ▸ hb)⟩
    | cons c ds =>
      have hc : isBlank c = false :=
        head?_dropWhile_eq_false (congrArg List.head? hrest : (cs.dropWhile isBlank).head? = some c)
      obtain ⟨hs, hend⟩ := spells_lexeme ds hc
      obtain ⟨hsplit, -⟩ := lexeme_split c ds
      have hlength := rest_length_lexeme c ds
      rw [hcs, hrest, ← hsplit]
      obtain ⟨ps, hps⟩ := ih (lexeme c ds).rest.length
        (by rw [hcs, hrest, List.length_append, List.length_cons]; omega)
        (p + bs.length + (lexeme c ds).span.length) _ rfl
      exact ⟨_, .piece hb hs hend hps⟩

/-- There is only one way in which a text falls into pieces. -/
theorem Cut.unique (h : Cut p cs ps) : ∀ {qs : List Piece}, Cut p cs qs → ps = qs := by
  induction h with
  | blanks hb =>
    intro qs hq
    cases hq with
    | blanks => rfl
    | piece hb' hs hend hq =>
      obtain ⟨c, cs, rfl, hc⟩ := hs.exists_cons
      rw [hb c (by simp)] at hc
      cases hc
  | @piece p bs text span rest k ps hb hs hend _ ih =>
    intro qs hq
    obtain ⟨c, cs, rfl, hc⟩ := hs.exists_cons
    obtain ⟨htake, hdrop⟩ := takeWhile_isBlank_append hb hc (cs ++ rest)
    generalize hx : bs ++ (c :: cs ++ rest) = x at hq
    cases hq with
    | blanks hb' =>
      rw [hb' c (by simp [← hx])] at hc
      cases hc
    | @piece _ bs' text' span' rest' k' ps' hb' hs' hend' hq =>
      obtain ⟨c', cs', rfl, hc'⟩ := hs'.exists_cons
      obtain ⟨htake', hdrop'⟩ := takeWhile_isBlank_append hb' hc' (cs' ++ rest')
      rw [List.cons_append, List.cons_append] at hx
      rw [hx] at htake hdrop
      obtain rfl : bs = bs' := htake.symm.trans htake'
      obtain ⟨rfl, hcs⟩ : c = c' ∧ cs ++ rest = cs' ++ rest' :=
        List.cons.inj (hdrop.symm.trans hdrop')
      have hl := lexeme_append hs hend rfl
      rw [hcs, lexeme_append hs' hend' rfl] at hl
      cases hl
      rw [ih hq]

/-- The characters of a piece spell its token. -/
theorem Cut.spells (h : Cut p cs ps) :
    ∀ q ∈ ps, Spells q.token.kind q.token.text.toList q.span := by
  induction h with
  | blanks => nofun
  | piece _ hs _ _ ih =>
    exact List.forall_mem_cons.2 ⟨by rw [String.toList_ofList]; exact hs, ih⟩

/-- The closing token is no piece of a text. -/
theorem Cut.kind_ne_endOfInput (h : Cut p cs ps) : ∀ q ∈ ps, q.token.kind ≠ .endOfInput :=
  fun q hq => (h.spells q hq).kind_ne_endOfInput

/-- Every piece of a text takes a character of it. -/
theorem Cut.length_le (h : Cut p cs ps) : ps.length ≤ cs.length := by
  induction h with
  | blanks => exact Nat.zero_le _
  | piece _ hs _ _ ih =>
    obtain ⟨c, cs, rfl, -⟩ := hs.exists_cons
    simp only [List.length_append, List.length_cons]
    omega

/-! ## What a piece says -/

/-- The kind and the text of a token. -/
def Token.content (t : Token) : TokenKind × String := (t.kind, t.text)

/-- What a piece says wherever it stands: its kind and text, and for a quoted text also how it is
spelled. -/
def Piece.said (q : Piece) : (TokenKind × String) × Option (List Char) :=
  (q.token.content, if q.token.kind = .text then some q.span else none)

/-- A text says the same wherever it stands. -/
theorem Cut.shift (h : Cut p cs ps) :
    ∀ p', ∃ qs, Cut p' cs qs ∧ qs.map Piece.said = ps.map Piece.said := by
  induction h with
  | blanks hb => exact fun _ => ⟨[], .blanks hb, rfl⟩
  | piece hb hs hend _ ih =>
    intro p'
    obtain ⟨qs, hqs, hsaid⟩ := ih _
    exact ⟨_, .piece hb hs hend hqs, by rw [List.map_cons, hsaid]; rfl⟩

/-- The blanks that a text begins with say nothing. -/
theorem Cut.trimStart (h : Cut p cs ps) :
    ∃ qs, Cut p (Text.trimStart cs) qs ∧ qs.map Piece.said = ps.map Piece.said := by
  cases h with
  | blanks hb =>
    have htrim : Text.trimStart cs = [] := List.dropWhile_eq_nil_iff.2 hb
    exact ⟨[], htrim ▸ .blanks nofun, rfl⟩
  | @piece _ bs text span rest k ps hb hs hend h =>
    obtain ⟨c, cs, rfl, hc⟩ := hs.exists_cons
    have htrim : Text.trimStart (bs ++ (c :: cs ++ rest)) = c :: cs ++ rest :=
      (takeWhile_isBlank_append hb hc (cs ++ rest)).2
    rw [htrim]
    exact (Cut.cons hs hend h).shift p

/-- No lexeme but a quote that is never closed goes on with a blank. -/
theorem runsOn_of_isBlank {k : TokenKind} (span : List Char) {d : Char} (hk : k ≠ .unterminated)
    (hd : isBlank d = true) : runsOn k span d = false := by
  have hnat := toNat_of_isBlank hd
  cases k with
  | number =>
    have hdigit : d.isDigit = false := Bool.eq_false_iff.2 fun h => by
      have := toNat_of_isDigit h
      omega
    have hdot : d ≠ '.' := by
      rintro rfl
      cases hd
    simp only [runsOn, isNumberPart, hdigit, Bool.false_or, beq_eq_false_iff_ne]
    exact hdot
  | identifier | and | or | not => exact isWordPart_eq_false_of_isBlank hd
  | relation | unknown =>
    have heq : d ≠ '=' := by
      rintro rfl
      cases hd
    simp only [runsOn, beq_eq_false_iff_ne.2 heq, Bool.false_and]
  | unterminated => exact absurd rfl hk
  | text | leftParen | rightParen | endOfInput => rfl

/-- A lexeme that ends in front of a text also ends there if a blank follows the text. -/
theorem Ends.append_blank {k : TokenKind} {span rest ts : List Char} (h : Ends k span rest)
    (hk : k ≠ .unterminated) (hts : ∀ d ∈ ts.head?, isBlank d = true) :
    Ends k span (rest ++ ts) := by
  cases rest with
  | nil => exact fun d hd => runsOn_of_isBlank span hk (hts d hd)
  | cons d rest => exact ends_cons.2 (ends_cons.1 h)

/-- The blanks that a text ends with say nothing, except behind a quote that is never closed. -/
theorem Cut.append_blanks_end (h : Cut p cs ps) {bs : List Char}
    (hb : ∀ b ∈ bs, isBlank b = true) :
    ∃ qs, Cut p (cs ++ bs) qs ∧ qs.map (·.token.kind) = ps.map (·.token.kind) ∧
      ((∀ q ∈ ps, q.token.kind ≠ .unterminated) → qs = ps) := by
  induction h with
  | blanks hb' => exact ⟨[], .blanks (List.forall_mem_append.2 ⟨hb', hb⟩), rfl, fun _ => rfl⟩
  | @piece p bs' text span rest k ps hb' hs hend h ih =>
    by_cases hk : k = .unterminated
    · subst hk
      obtain rfl := hend.eq_nil
      obtain rfl := h.unique (.blanks nofun)
      obtain ⟨cs, rfl, rfl, hquote⟩ := hs.exists_of_unterminated
      have hclosed : splitQuoted (cs ++ bs) = none :=
        splitQuoted_append_eq_none hquote fun b hm => by
          rintro rfl
          cases hb _ hm
      have hcut : Cut p (bs' ++ ('\'' :: (cs ++ bs) ++ [])) _ :=
        .piece hb' (.unterminated hclosed) (ends_nil _ _) (.blanks nofun)
      rw [List.append_nil] at hcut ⊢
      rw [List.append_assoc]
      exact ⟨_, hcut, rfl, fun hne => absurd rfl (hne _ (.head _))⟩
    · obtain ⟨qs, hqs, hkinds, hsame⟩ := ih
      have hend' : Ends k span (rest ++ bs) :=
        hend.append_blank hk fun d hd => hb d (List.mem_of_mem_head? hd)
      rw [List.append_assoc, List.append_assoc]
      refine ⟨_, .piece hb' hs hend' hqs, ?_, fun hne => ?_⟩
      · rw [List.map_cons, hkinds]
        rfl
      · rw [hsame (List.forall_mem_cons.1 hne).2]

/-! ## Spellings -/

/-- The characters that a token of a text takes. -/
def Token.spelling (source : String) (t : Token) : List Char :=
  match source.toList.drop t.position with
  | [] => []
  | c :: cs => (lexeme c cs).span

/-- The characters of a piece stand where its token does. -/
theorem Cut.drop_position (h : Cut p cs ps) :
    ∀ q ∈ ps, ∃ n rest, q.token.position = p + n ∧ cs.drop n = q.span ++ rest ∧
      Ends q.token.kind q.span rest := by
  induction h with
  | blanks => nofun
  | @piece p bs text span rest k ps _ _ hend _ ih =>
    refine List.forall_mem_cons.2 ⟨⟨bs.length, rest, rfl, List.drop_left, hend⟩, fun q hq => ?_⟩
    obtain ⟨n, rest', hn, hdrop, hend'⟩ := ih q hq
    refine ⟨(bs ++ span).length + n, rest', ?_, ?_, hend'⟩
    · rw [hn, List.length_append]
      omega
    · rw [← List.append_assoc, List.drop_length_add_append, hdrop]

/-- The characters of a piece are those that its token takes. -/
theorem Cut.spelling_eq {source : String} (h : Cut 0 source.toList ps) :
    ∀ q ∈ ps, q.token.spelling source = q.span := by
  intro q hq
  obtain ⟨n, rest, hn, hdrop, hend⟩ := h.drop_position q hq
  have hs := h.spells q hq
  obtain ⟨c, cs, hspan, -⟩ := hs.exists_cons
  rw [Token.spelling, hn, Nat.zero_add, hdrop, hspan]
  simp only [List.cons_append, lexeme_append hs hend hspan]
  exact hspan

end Screening
