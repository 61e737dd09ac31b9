import Screening.Proofs.Token.Cut

/-!
# One token at a time

A `Scanner` hands out the tokens of a text one after the other (`Scanner.take`), and it can be asked
for all that it has not handed out yet (`Scanner.remaining`). What one call does is said once
(`Scanner.next_cases`): it hands out the first token that remains, or, when none does, the closing
one again. So any number of calls hands out the tokens of the text in their order and the closing
one from then on, and what remains is what has not been handed out (`Scanner.take_ofText`).

Asking for what remains is the same as calling until the closing token has been handed out
(`Scanner.drain`). That this comes to an end is due to every call: it uses up a character or hands
out the closing token (`Scanner.progress_next`).
-/

namespace Screening

open Text

namespace Scanner

variable {s : Scanner}

/-- Calls a scanner `k` times: the tokens that it hands out, and the scanner afterwards. -/
def take (s : Scanner) : Nat → List Token × Scanner
  | 0 => ([], s)
  | k + 1 => (s.next.1 :: (s.next.2.take k).1, (s.next.2.take k).2)

/-- The token behind the last character of the text. -/
def closing (s : Scanner) : Token := ⟨.endOfInput, "", s.position + s.rest.length⟩

/-- A scanner is spent only when it has no characters left. -/
def Coherent (s : Scanner) : Prop := s.ended = true → s.rest = []

/-! ## One call -/

theorem next_of_blanks (h : s.rest.dropWhile isBlank = []) :
    s.next = (s.closing, ⟨[], s.position + s.rest.length, true⟩) := by
  have hall : s.rest.takeWhile isBlank = s.rest :=
    List.takeWhile_eq_self_iff.2 (List.dropWhile_eq_nil_iff.1 h)
  simp only [next, h, hall, closing]

theorem next_of_lexeme {c : Char} {cs : List Char} (h : s.rest.dropWhile isBlank = c :: cs) :
    s.next =
      (⟨(lexeme c cs).kind, String.ofList (lexeme c cs).text,
        s.position + (s.rest.takeWhile isBlank).length⟩,
      ⟨(lexeme c cs).rest,
        s.position + (s.rest.takeWhile isBlank).length + (lexeme c cs).span.length, s.ended⟩) := by
  simp only [next, h]

/-- The characters of a text are blanks, a lexeme and what is left behind it. -/
theorem length_rest {c : Char} {cs : List Char} (h : s.rest.dropWhile isBlank = c :: cs) :
    s.rest.length = (s.rest.takeWhile isBlank).length + (lexeme c cs).span.length +
      (lexeme c cs).rest.length := by
  have hsplit := congrArg List.length (List.takeWhile_append_dropWhile (p := isBlank) (l := s.rest))
  rw [h, ← (lexeme_split c cs).1] at hsplit
  simp only [List.length_append] at hsplit
  omega

/-- A call uses up a character, or it hands out the closing token. -/
theorem progress_next (s : Scanner) :
    s.next.2.ended = true ∨
      s.next.2.ended = s.ended ∧ s.next.2.rest.length < s.rest.length := by
  cases h : s.rest.dropWhile isBlank with
  | nil =>
    rw [next_of_blanks h]
    exact .inl rfl
  | cons c cs =>
    have hspan := List.length_pos_iff.2 (lexeme_split c cs).2
    have hlength := length_rest h
    rw [next_of_lexeme h]
    exact .inr ⟨rfl, by dsimp only; omega⟩

/-- The end of the text stays where it is. -/
theorem closing_next (s : Scanner) : s.next.2.closing = s.closing := by
  cases h : s.rest.dropWhile isBlank with
  | nil =>
    rw [next_of_blanks h]
    rfl
  | cons c cs =>
    have hlength := length_rest h
    rw [next_of_lexeme h, closing, closing]
    congr 1
    dsimp only
    omega

/-- A scanner that is not spent hands out the first token that remains. -/
theorem remaining_of_not_ended (h : s.ended = false) :
    s.remaining = s.next.1 :: s.next.2.remaining := by
  rw [remaining, h, if_neg Bool.false_ne_true, tokensFrom]
  split
  · next hrest =>
    rw [next_of_blanks hrest, closing,
      List.takeWhile_eq_self_iff.2 (List.dropWhile_eq_nil_iff.1 hrest)]
    rfl
  · next c cs hrest =>
    rw [next_of_lexeme hrest, remaining, h, if_neg Bool.false_ne_true]

/-- **What one call does.** It hands out the first token that remains; or nothing remains, and it
hands out the closing token and leaves the scanner as it is. -/
theorem next_cases (h : s.Coherent) :
    s.next.2.Coherent ∧ (s.remaining = s.next.1 :: s.next.2.remaining ∨
      s.remaining = [] ∧ s.next = (s.closing, s)) := by
  cases hended : s.ended with
  | false =>
    refine ⟨fun hnext => ?_, .inl (remaining_of_not_ended hended)⟩
    cases hrest : s.rest.dropWhile isBlank with
    | nil => rw [next_of_blanks hrest]
    | cons c cs =>
      rw [next_of_lexeme hrest, hended] at hnext
      cases hnext
  | true =>
    obtain ⟨rest, position, ended⟩ := s
    obtain rfl : rest = [] := h hended
    obtain rfl : ended = true := hended
    exact ⟨fun _ => rfl, .inr ⟨rfl, rfl⟩⟩

/-! ## Many calls -/

/-- A scanner hands out the tokens that remain, and the closing one when there are no more. -/
theorem take_eq (h : s.Coherent) (k : Nat) :
    (s.take k).1 =
        s.remaining.take k ++ List.replicate (k - s.remaining.length) s.closing ∧
      (s.take k).2.remaining = s.remaining.drop k := by
  induction k generalizing s with
  | zero => exact ⟨by simp [take], rfl⟩
  | succ k ih =>
    obtain ⟨hnext, hcases⟩ := next_cases h
    obtain ⟨htaken, hleft⟩ := ih hnext
    rw [take, htaken, hleft, closing_next]
    rcases hcases with hcons | ⟨hnil, hsame⟩
    · rw [hcons, List.length_cons, Nat.add_sub_add_right]
      exact ⟨rfl, rfl⟩
    · rw [hsame, hnil, List.take_nil, List.take_nil, List.drop_nil, List.drop_nil]
      exact ⟨rfl, rfl⟩

/-- All tokens that are handed out until the closing one has been. -/
def drain (s : Scanner) : List Token :=
  if s.ended = true then [] else s.next.1 :: s.next.2.drain
termination_by if s.ended = true then 0 else s.rest.length + 1
decreasing_by
  next hended =>
  rw [if_neg hended]
  rcases progress_next s with hnext | ⟨hnext, hlength⟩
  · rw [if_pos hnext]
    omega
  · rw [hnext, if_neg hended]
    omega

/-- What remains is what is handed out until the closing token has been. -/
theorem drain_eq_remaining (s : Scanner) : s.drain = s.remaining := by
  fun_induction drain s with
  | case1 s hended => rw [remaining, if_pos hended]
  | case2 s hended ih => rw [ih, remaining_of_not_ended (Bool.eq_false_iff.2 hended)]

/-- **Token by token and all at once, a text is cut the same way.** Called `k` times in front of a
text, a scanner hands out the first `k` tokens of the text, and the closing one again and again when
there are no more. What remains afterwards is what calling goes on to hand out up to the closing
token: the tokens of the text from the index `k` on. Nothing remains exactly if the closing token
has been handed out. -/
theorem take_ofText (source : String) (k : Nat) :
    ∃ handed s, (ofText source).take k = (handed, s) ∧
      (tokens source).getLast? = some ⟨.endOfInput, "", source.length⟩ ∧
      handed = (tokens source).take k ++
        List.replicate (k - (tokens source).length) ⟨.endOfInput, "", source.length⟩ ∧
      s.remaining = (tokens source).drop k ∧ s.drain = (tokens source).drop k ∧
      (s.remaining = [] ↔ ∃ t ∈ handed, t.kind = .endOfInput) := by
  have hremaining : (ofText source).remaining = tokens source := rfl
  have hclosing : (ofText source).closing = ⟨.endOfInput, "", source.length⟩ := by
    rw [closing, ofText, Nat.zero_add, String.length_toList]
  obtain ⟨htaken, hleft⟩ := @take_eq (ofText source) nofun k
  rw [hremaining, hclosing] at htaken
  rw [hremaining] at hleft
  obtain ⟨ps, hps⟩ := exists_cut 0 source.toList
  have htokens := tokens_eq_of_cut hps
  refine ⟨_, _, rfl, ?_, htaken, hleft, (drain_eq_remaining _).trans hleft, ?_⟩
  · rw [htokens, List.getLast?_concat]
  rw [htaken, hleft, List.drop_eq_nil_iff, htokens]
  constructor
  · intro hlength
    refine ⟨⟨.endOfInput, "", source.length⟩, List.mem_append_left _ ?_, rfl⟩
    rw [List.take_of_length_le hlength]
    exact List.mem_append_right _ (.head _)
  · rintro ⟨t, ht, hkind⟩
    refine Nat.not_lt.1 fun hlt => ?_
    -- up to here only pieces of the text have been handed out, and none is the closing token
    have hk : k ≤ (ps.map Piece.token).length := by
      rw [List.length_append, List.length_singleton] at hlt
      omega
    rw [Nat.sub_eq_zero_of_le (Nat.le_of_lt hlt), List.replicate_zero, List.append_nil,
      List.take_append_of_le_length hk] at ht
    obtain ⟨q, hq, rfl⟩ := List.mem_map.1 (List.mem_of_mem_take ht)
    exact hps.kind_ne_endOfInput q hq hkind

end Scanner

end Screening
