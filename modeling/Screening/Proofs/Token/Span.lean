import Screening.Proofs.Token.Cut

/-!
# Where the tokens of a text stand

A token takes the characters from its own place up to another one (`Piece.stop`). The spans of the
tokens of a text stand one behind the other in it, each of them begins with no blank, and between
them there is nothing but blanks (`tokens_spans`): cutting a text loses no character and invents
none. What a token says is read off its span by its kind alone (`Piece.Says`).
-/

namespace Screening

open Text

variable {cs text : List Char}

/-! ## What a token says -/

/-- What the token of a piece says about the characters it takes. A keyword says its upper case, a
quoted text says its inside, and every other token says the characters as they are written; a
relation sign is the sign of a relation, an unknown character begins no token, and a quote that is
never closed is none that could be. -/
def Piece.Says (q : Piece) : Prop :=
  match q.token.kind with
  | .identifier | .number | .leftParen | .rightParen => q.token.text.toList = q.span
  | .relation => q.token.text.toList = q.span ∧ (Relation.ofSymbol? q.token.text).isSome
  | .unknown => q.token.text.toList = q.span ∧ ∃ c, q.span = [c] ∧ isStray c = true
  | .and | .or | .not =>
    q.token.text.toList = q.span.map Char.toUpper ∧ q.token.text = q.token.kind.label
  | .text => ∃ inside, q.span = '\'' :: inside ++ ['\''] ∧ Inside inside q.token.text.toList
  | .unterminated =>
    q.token.text.toList = q.span ∧ ∃ cs, q.span = '\'' :: cs ∧
      ∀ inside text rest, Inside inside text → cs ≠ inside ++ '\'' :: rest
  | .endOfInput => False

/-- A keyword says the upper case of the word, which is the name of its kind. -/
theorem upper_of_keyword? {k : TokenKind} {word : List Char} (h : keyword? word = some k) :
    word.map Char.toUpper = k.label.toList := by
  rcases keyword?_eq_some_iff.1 h with ⟨rfl, hword⟩ | ⟨rfl, hword⟩ | ⟨rfl, hword⟩ <;>
    exact hword

/-- Characters that spell a token say what it says. -/
theorem says_of_spells {k : TokenKind} {span : List Char} (h : Spells k text span) (p : Nat) :
    Piece.Says ⟨⟨k, String.ofList text, p⟩, span⟩ := by
  cases h with
  | relation r => exact ⟨String.toList_ofList, by simp⟩
  | leftParen | rightParen | number | name => exact String.toList_ofList
  | @text inside h =>
    obtain ⟨text, hi⟩ := inside_of_splitQuoted (h [])
    exact ⟨inside, rfl, by rw [String.toList_ofList, hi.unescape_eq]; exact hi⟩
  | unterminated h => exact ⟨String.toList_ofList, _, rfl, splitQuoted_eq_none_iff.1 h⟩
  | @keyword k c cs hc hcs hk =>
    have hlabel : String.ofList ((c :: cs).map Char.toUpper) = k.label := by
      rw [upper_of_keyword? hk, String.ofList_toList]
    rcases kind_of_keyword? hk with rfl | rfl | rfl <;> exact ⟨String.toList_ofList, hlabel⟩
  | stray hc => exact ⟨String.toList_ofList, _, rfl, hc⟩

/-! ## Spans -/

/-- The place behind the last character of a piece. -/
def Piece.stop (q : Piece) : Nat := q.token.position + q.span.length

/-- A piece stands in a text where its token says: its characters are those of the text from the
place of the token on, the first of them is no blank, and the token does not go on behind them. -/
structure Piece.StandsIn (q : Piece) (cs : List Char) : Prop where
  extract_eq : cs.extract q.token.position q.stop = q.span
  position_lt : q.token.position < q.stop
  stop_le : q.stop ≤ cs.length
  head_not_blank : ∀ c ∈ q.span.head?, isBlank c = false
  ends : Ends q.token.kind q.span (cs.drop q.stop)
  stop_of_unterminated : q.token.kind = .unterminated → q.stop = cs.length

variable {p : Nat} {ps : List Piece}

/-- No piece stands in front of the text. -/
theorem Cut.le_position (h : Cut p cs ps) : ∀ q ∈ ps, p ≤ q.token.position := by
  intro q hq
  obtain ⟨n, -, hn, -⟩ := h.drop_position q hq
  exact hn ▸ Nat.le_add_right p n

/-- Every piece stops in front of the next one. -/
theorem Cut.pairwise_stop (h : Cut p cs ps) :
    ps.Pairwise fun q r => q.stop ≤ r.token.position := by
  induction h with
  | blanks => exact .nil
  | piece _ _ _ h ih => exact .cons h.le_position ih

/-- The pieces of a text stand at ascending places. -/
theorem Cut.pairwise_position (h : Cut p cs ps) :
    (ps.map fun q => q.token.position).Pairwise (· < ·) := by
  rw [List.pairwise_map]
  refine h.pairwise_stop.imp_of_mem fun {q r} hq _ hle => ?_
  obtain ⟨c, cs, hspan, -⟩ := (h.spells q hq).exists_cons
  rw [Piece.stop, hspan, List.length_cons] at hle
  omega

/-- The pieces of a whole text stand in it. -/
theorem Cut.standsIn (h : Cut 0 cs ps) : ∀ q ∈ ps, q.StandsIn cs := by
  intro q hq
  obtain ⟨n, rest, hn, hdrop, hend⟩ := h.drop_position q hq
  obtain ⟨c, ds, hspan, hc⟩ := (h.spells q hq).exists_cons
  rw [Nat.zero_add] at hn
  have hstop : cs.drop q.stop = rest := by
    rw [Piece.stop, hn, ← List.drop_drop, hdrop, List.drop_left]
  have hlength : n + (q.span.length + rest.length) = cs.length := by
    have hle : q.span.length + rest.length = cs.length - n := by
      rw [← List.length_append, ← hdrop, List.length_drop]
    have hpos : 0 < q.span.length := hspan ▸ Nat.succ_pos _
    omega
  refine ⟨?_, ?_, ?_, ?_, hstop ▸ hend, fun hk => ?_⟩
  · rw [List.extract_eq_take_drop, hn, hdrop, Piece.stop, hn, Nat.add_sub_cancel_left,
      List.take_left]
  · rw [Piece.stop, hspan]
    exact Nat.lt_add_of_pos_right (Nat.succ_pos _)
  · rw [Piece.stop, hn]
    omega
  · rw [hspan]
    rintro d ⟨⟩
    exact hc
  · rw [hk] at hend
    obtain rfl := hend.eq_nil
    rw [Piece.stop, hn, ← hlength]
    rfl

/-- No token of a text stands behind its last character, and each stands behind the one in front of
it. -/
theorem pairwise_position_tokens (source : String) :
    ((tokens source).map Token.position).Pairwise (· < ·) ∧
      ∀ t ∈ tokens source, t.position ≤ source.length := by
  obtain ⟨ps, hps⟩ := exists_cut 0 source.toList
  have hlt : ∀ q ∈ ps, q.token.position < source.length := by
    intro q hq
    have hstands := hps.standsIn q hq
    rw [← String.length_toList]
    exact Nat.lt_of_lt_of_le hstands.position_lt hstands.stop_le
  rw [tokens_eq_of_cut hps]
  constructor
  · rw [List.map_append, List.map_map]
    refine List.pairwise_append.2 ⟨hps.pairwise_position, List.pairwise_singleton _ _, ?_⟩
    intro n hn m hm
    obtain ⟨q, hq, rfl⟩ := List.mem_map.1 hn
    obtain rfl := List.mem_singleton.1 hm
    exact hlt q hq
  · refine List.forall_mem_append.2 ⟨fun t ht => ?_, List.forall_mem_singleton.2 (Nat.le_refl _)⟩
    obtain ⟨q, hq, rfl⟩ := List.mem_map.1 ht
    exact Nat.le_of_lt (hlt q hq)

/-- A character of a text that no piece takes is a blank. -/
theorem Cut.isBlank_of_uncovered (h : Cut p cs ps) :
    ∀ {i : Nat} {c : Char}, cs[i]? = some c →
      (∀ q ∈ ps, p + i < q.token.position ∨ q.stop ≤ p + i) → isBlank c = true := by
  induction h with
  | blanks hb => exact fun hc _ => hb _ (List.mem_of_getElem? hc)
  | @piece p bs text span rest k ps hb hs hend h ih =>
    intro i c hc hout
    obtain ⟨hfirst, hrest⟩ := List.forall_mem_cons.1 hout
    rcases hfirst with hlt | hge
    · -- in front of the first piece
      have hi : i < bs.length := Nat.lt_of_add_lt_add_left hlt
      rw [List.getElem?_append_left hi] at hc
      exact hb c (List.mem_of_getElem? hc)
    · -- behind it
      have hi : p + bs.length + span.length ≤ p + i := hge
      have hsub : (bs ++ (span ++ rest))[i]? = rest[i - (bs.length + span.length)]? := by
        rw [← List.append_assoc, List.getElem?_append_right, List.length_append]
        rw [List.length_append]
        omega
      rw [hsub] at hc
      have hplace : p + bs.length + span.length + (i - (bs.length + span.length)) = p + i := by
        omega
      exact ih hc (hplace ▸ hrest)

/-- **Cutting a text loses nothing and invents nothing.** The tokens of a text are one for each of
its pieces and the closing one, which stands behind the last character; there is at most one more
of them than characters. The pieces stand in the text, one behind the other, every character
outside of them is a blank, and their tokens say the characters they take. -/
theorem tokens_spans (source : String) :
    ∃ ps : List Piece,
      tokens source = ps.map Piece.token ++ [⟨.endOfInput, "", source.length⟩] ∧
      (∀ q ∈ ps, q.token.kind ≠ .endOfInput) ∧
      (tokens source).length ≤ source.length + 1 ∧
      (∀ q ∈ ps, q.StandsIn source.toList ∧ q.Says) ∧
      (ps.Pairwise fun q r => q.stop ≤ r.token.position) ∧
      ∀ i c, source.toList[i]? = some c →
        (∀ q ∈ ps, ¬(q.token.position ≤ i ∧ i < q.stop)) → isBlank c = true := by
  obtain ⟨ps, hps⟩ := exists_cut 0 source.toList
  have htokens := tokens_eq_of_cut hps
  have hlength := hps.length_le
  refine ⟨ps, htokens, hps.kind_ne_endOfInput, ?_, fun q hq => ⟨hps.standsIn q hq, ?_⟩,
    hps.pairwise_stop, fun i c hc hout => ?_⟩
  · rw [htokens, List.length_append, List.length_map]
    rw [String.length_toList] at hlength
    exact Nat.succ_le_succ hlength
  · have hspan := says_of_spells (hps.spells q hq) q.token.position
    rwa [String.ofList_toList] at hspan
  · refine hps.isBlank_of_uncovered hc fun q hq => ?_
    have := hout q hq
    omega

end Screening
