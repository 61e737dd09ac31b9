import Screening.Proofs.Token.Cut

/-!
# Texts side by side

The tokens of a text that stands elsewhere stand elsewhere (`Cut.tokensFrom_move`), so blanks in
front of a text move its tokens and do nothing else (`tokens_indent`). Blanks behind a lexeme end
it, whatever stands behind them (`Ends.append_blank`), unless it is a quote that is never closed.
So two texts with blanks between them fall into the pieces of the one and the pieces of the other
(`Cut.append`, `tokens_append`): the scanner never looks past a blank, and keeps nothing in mind
when it has passed one.
-/

namespace Screening

open Text

/-! ## Elsewhere -/

/-- A token at another place. -/
def Token.move (f : Nat → Nat) (t : Token) : Token := ⟨t.kind, t.text, f t.position⟩

variable {p : Nat} {cs : List Char} {ps : List Piece}

/-- The tokens of a text that stands elsewhere stand elsewhere. -/
theorem Cut.tokensFrom_move (h : Cut p cs ps) (n : Nat) :
    tokensFrom (n + p) cs = (tokensFrom p cs).map (Token.move (n + ·)) := by
  induction h with
  | blanks hb =>
    rw [tokensFrom_blanks hb, tokensFrom_blanks hb, Nat.add_assoc]
    rfl
  | piece hb hs hend _ ih =>
    rw [tokensFrom_append hb hs hend, tokensFrom_append hb hs hend, List.map_cons, ← ih]
    simp only [Token.move, Nat.add_assoc]

/-- The tokens of a text that stands somewhere are those of the text, moved to there. -/
theorem tokensFrom_eq_map (n : Nat) (source : String) :
    tokensFrom n source.toList = (tokens source).map (Token.move (n + ·)) := by
  obtain ⟨ps, hps⟩ := exists_cut 0 source.toList
  exact hps.tokensFrom_move n

/-- Blanks in front of a text are counted, and its tokens are cut behind them. -/
theorem tokensFrom_indent {bs : List Char} (hb : ∀ b ∈ bs, isBlank b = true) (cs : List Char) :
    tokensFrom p (bs ++ cs) = tokensFrom (p + bs.length) cs := by
  obtain ⟨ps, hps⟩ := exists_cut (p + bs.length) cs
  rw [(hps.append_blanks hb).tokensFrom_eq, hps.tokensFrom_eq, List.length_append, Nat.add_assoc]

/-- Blanks in front of a text move its tokens. -/
theorem tokens_indent {w : String} (hw : ∀ b ∈ w.toList, isBlank b = true) (source : String) :
    tokens (w ++ source) = (tokens source).map (Token.move (w.length + ·)) := by
  rw [tokens, String.toList_append, tokensFrom_indent hw, Nat.zero_add, String.length_toList,
    tokensFrom_eq_map]

/-! ## One behind the other -/

/-- A text with blanks behind it falls into its own pieces, and what stands behind the blanks into
those that it falls into at its place. -/
theorem Cut.append {bs ds : List Char} {qs : List Piece} (h : Cut p cs ps)
    (hclosed : ∀ q ∈ ps, q.token.kind ≠ .unterminated) (hb : ∀ b ∈ bs, isBlank b = true)
    (hne : bs ≠ []) (hd : Cut (p + cs.length + bs.length) ds qs) :
    Cut p (cs ++ (bs ++ ds)) (ps ++ qs) := by
  induction h with
  | blanks hb' => exact (hd.append_blanks hb).append_blanks hb'
  | @piece p bs' text span rest k ps hb' hs hend _ ih =>
    obtain ⟨hk, hclosed⟩ := List.forall_mem_cons.1 hclosed
    have hhead : ∀ d ∈ (bs ++ ds).head?, isBlank d = true := by
      obtain ⟨b, bs, rfl⟩ := List.exists_cons_of_ne_nil hne
      intro d hm
      cases hm
      exact hb b (.head _)
    have hlength : p + (bs' ++ (span ++ rest)).length =
        p + bs'.length + span.length + rest.length := by
      simp only [List.length_append, Nat.add_assoc]
    rw [hlength] at hd
    rw [List.append_assoc, List.append_assoc]
    exact .piece hb' hs (hend.append_blank hk hhead) (ih hclosed hd)

/-- **Texts with blanks between them are cut one by one.** Let no quote of the text `a` be left
open, and let `w` be blanks, one at least. Then the tokens of `a`, `w` and `b` in a row are those of
`a` without the closing one, and behind them those of `b`, moved by the length of what stands in
front of it. -/
theorem tokens_append {a w : String} (hclosed : ∀ t ∈ tokens a, t.kind ≠ .unterminated)
    (hw : ∀ c ∈ w.toList, isBlank c = true) (hne : w ≠ "") (b : String) :
    ∃ ts, tokens a = ts ++ [⟨.endOfInput, "", a.length⟩] ∧ (∀ t ∈ ts, t.kind ≠ .endOfInput) ∧
      tokens (a ++ w ++ b) = ts ++ (tokens b).map (Token.move ((a ++ w).length + ·)) := by
  obtain ⟨ps, hps⟩ := exists_cut 0 a.toList
  obtain ⟨qs, hqs⟩ := exists_cut (0 + a.toList.length + w.toList.length) b.toList
  have ha := tokens_eq_of_cut hps
  have hpieces : ∀ q ∈ ps, q.token.kind ≠ .unterminated := by
    intro q hq
    refine hclosed q.token ?_
    rw [ha]
    exact List.mem_append_left _ (List.mem_map_of_mem hq)
  have hw' : w.toList ≠ [] := fun h => hne (String.toList_eq_nil_iff.1 h)
  have hjoined := hps.append hpieces hw hw' hqs
  refine ⟨ps.map Piece.token, ha, ?_, ?_⟩
  · intro t ht
    obtain ⟨q, hq, rfl⟩ := List.mem_map.1 ht
    exact hps.kind_ne_endOfInput q hq
  · have hlength : 0 + a.toList.length + w.toList.length = (a ++ w).length := by
      simp only [Nat.zero_add, String.length_toList, String.length_append]
    have hb := hqs.tokensFrom_eq
    rw [hlength, tokensFrom_eq_map] at hb
    rw [tokens, String.toList_append, String.toList_append, List.append_assoc,
      hjoined.tokensFrom_eq, List.map_append, List.append_assoc, hb]
    simp only [List.length_append, String.length_toList, String.length_append, Nat.zero_add,
      Nat.add_assoc]

/-- A relation sign with a blank in it is two of them, and a quote that is closed takes nothing from
behind the blank. -/
theorem tokens_append_relation :
    (∀ t ∈ tokens "a = 'x' <", t.kind ≠ .unterminated) ∧
    tokens ("a = 'x' <" ++ " \t" ++ "= 1.5") =
      [⟨.identifier, "a", 0⟩, ⟨.relation, "=", 2⟩, ⟨.text, "x", 4⟩, ⟨.relation, "<", 8⟩] ++
        [⟨.relation, "=", 11⟩, ⟨.number, "1.5", 13⟩, ⟨.endOfInput, "", 16⟩] := by
  have ha : tokens "a = 'x' <" = [⟨.identifier, "a", 0⟩, ⟨.relation, "=", 2⟩, ⟨.text, "x", 4⟩,
      ⟨.relation, "<", 8⟩] ++ [⟨.endOfInput, "", 9⟩] := by
    decide +kernel
  have hclosed : ∀ t ∈ tokens "a = 'x' <", t.kind ≠ .unterminated := by
    rw [ha]
    decide
  have hb : (tokens "= 1.5").map (Token.move (("a = 'x' <" ++ " \t").length + ·)) =
      [⟨.relation, "=", 11⟩, ⟨.number, "1.5", 13⟩, ⟨.endOfInput, "", 16⟩] := by
    decide +kernel
  have hblanks : ∀ c ∈ " \t".toList, isBlank c = true := List.all_eq_true.1 (by decide +kernel)
  obtain ⟨ts, hts, -, hjoined⟩ :=
    @tokens_append "a = 'x' <" " \t" hclosed hblanks (by decide) "= 1.5"
  obtain ⟨rfl, -⟩ := List.append_inj' (hts.symm.trans ha) rfl
  exact ⟨hclosed, hjoined.trans (by rw [hb])⟩

end Screening
