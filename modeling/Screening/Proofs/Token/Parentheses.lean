import Screening.Proofs.Token.Cut

/-!
# Where parentheses open

Outside of quoted texts every parenthesis is a lexeme of its own, whatever stands around it. So the
places where parentheses open can be found without cutting the text into tokens: only the quoted
texts are passed over (`openings`), and what is found in this way are the opening parentheses among
the tokens (`map_position_filter_tokens`).

`Opens` says of characters that no quoted text is left open behind them and where parentheses open
among them. Characters of which this is known can be put together, and taken out of a text again,
without a look at the lexemes at the joints.
-/

namespace Screening

open Text

/-- The places where parentheses open in a text whose first character stands at `p`. -/
def openings (p : Nat) (cs : List Char) : List Nat :=
  match cs with
  | [] => []
  | c :: cs =>
      if c = '(' then p :: openings (p + 1) cs
      else if c = '\'' then
        match h : splitQuoted cs with
        | none => []
        | some (inside, rest) => openings (p + inside.length + 2) rest
      else openings (p + 1) cs
termination_by cs.length
decreasing_by
  all_goals simp only [List.length_cons]
  · omega
  · have := congrArg List.length (splitQuoted_eq_append h)
    simp only [List.length_append, List.length_cons] at this
    omega
  · omega

/-- Behind a quote the search goes on where the quoted text is closed. -/
theorem openings_quote (p : Nat) (cs : List Char) :
    openings p ('\'' :: cs) =
      match splitQuoted cs with
      | none => []
      | some (inside, rest) => openings (p + inside.length + 2) rest := by
  rw [openings, if_neg (by decide), if_pos rfl]
  split <;> simp only [*]

/-- Whether a character opens neither a parenthesis nor a quoted text. -/
def opensNothing (c : Char) : Bool := c != '(' && c != '\''

/-- `Opens cs ns` says that no quoted text is open behind the characters `cs`, and that the
parentheses that open among them have `ns` characters of `cs` in front of them. -/
def Opens (cs : List Char) (ns : List Nat) : Prop :=
  ∀ (p : Nat) (rest : List Char),
    openings p (cs ++ rest) = ns.map (p + ·) ++ openings (p + cs.length) rest

namespace Opens

variable {cs ds : List Char} {ns ms : List Nat}

theorem openings_eq (h : Opens cs ns) (p : Nat) : openings p cs = ns.map (p + ·) := by
  have heq := h p []
  rwa [openings, List.append_nil, List.append_nil] at heq

theorem nil : Opens [] [] := fun _ _ => rfl

theorem append (h : Opens cs ns) (h' : Opens ds ms) :
    Opens (cs ++ ds) (ns ++ ms.map (cs.length + ·)) := by
  intro p rest
  rw [List.append_assoc, h, h', List.map_append, List.map_map, List.length_append, Nat.add_assoc,
    List.append_assoc]
  simp only [Function.comp_def, Nat.add_assoc]

theorem leftParen : Opens ['('] [0] := by
  intro p rest
  rw [List.singleton_append, openings]
  rfl

theorem plain (h : ∀ c ∈ cs, opensNothing c = true) : Opens cs [] := by
  induction cs with
  | nil => exact nil
  | cons c cs ih =>
    obtain ⟨hc, hcs⟩ := List.forall_mem_cons.1 h
    obtain ⟨hparen, hquote⟩ : c ≠ '(' ∧ c ≠ '\'' := by simpa [opensNothing] using hc
    intro p rest
    rw [List.cons_append, openings, if_neg hparen, if_neg hquote, ih hcs, List.length_cons,
      Nat.add_assoc, Nat.add_comm 1]
    rfl

/-- In a quoted text nothing opens. -/
theorem quoted {inside : List Char}
    (h : ∀ rest, splitQuoted (inside ++ '\'' :: rest) = some (inside, rest)) :
    Opens ('\'' :: inside ++ ['\'']) [] := by
  intro p rest
  have hlist : '\'' :: inside ++ ['\''] ++ rest = '\'' :: (inside ++ '\'' :: rest) := by
    simp only [List.cons_append, List.append_assoc, List.nil_append]
  have hlength : p + ('\'' :: inside ++ ['\'']).length = p + inside.length + 2 := by
    simp only [List.length_append, List.length_cons, List.length_nil]
    omega
  rw [hlist, hlength, openings_quote, h]
  rfl

end Opens

/-! ## Lexemes -/

/-- A character opens nothing if it is in a class that has neither of the two that do. -/
theorem opensNothing_of_class {p : Char → Bool} {c : Char} (hparen : p '(' = false)
    (hquote : p '\'' = false) (h : p c = true) : opensNothing c = true := by
  simp only [opensNothing, Bool.and_eq_true, bne_iff_ne]
  constructor <;> rintro rfl
  · rw [hparen] at h
    cases h
  · rw [hquote] at h
    cases h

theorem opensNothing_of_isWordPart {c : Char} (h : isWordPart c = true) : opensNothing c = true :=
  opensNothing_of_class (by decide +kernel) (by decide +kernel) h

/-- In a word nothing opens. -/
theorem Opens.word {c : Char} {cs : List Char} (hc : isWordStart c = true)
    (hcs : ∀ d ∈ cs, isWordPart d = true) : Opens (c :: cs) [] := by
  refine .plain fun d hd => opensNothing_of_isWordPart ?_
  rcases List.mem_cons.1 hd with rfl | hd
  · exact isWordPart_of_isWordStart hc
  · exact hcs d hd

/-- Of all lexemes only an opening parenthesis opens something. -/
theorem Spells.opens {k : TokenKind} {text span : List Char} (h : Spells k text span)
    (hk : k ≠ .unterminated) : Opens span (if k = .leftParen then [0] else []) := by
  cases h with
  | relation r => cases r <;> exact .plain (List.all_eq_true.1 rfl)
  | leftParen => exact .leftParen
  | rightParen => exact .plain (List.forall_mem_singleton.2 rfl)
  | text h => exact .quoted h
  | unterminated => exact absurd rfl hk
  | number hc hcs =>
    refine .plain fun d hd => @opensNothing_of_class isNumberPart d rfl rfl ?_
    rcases List.mem_cons.1 hd with rfl | hd
    · exact Bool.or_eq_true_iff.2 (.inl hc)
    · exact hcs d hd
  | name hc hcs => exact .word hc hcs
  | keyword hc hcs hkey =>
    have hkind : k ≠ .leftParen := by
      rcases kind_of_keyword? hkey with rfl | rfl | rfl <;> exact nofun
    rw [if_neg hkind]
    exact .word hc hcs
  | stray hc =>
    exact .plain (List.forall_mem_singleton.2 (opensNothing_of_class rfl rfl hc))

/-! ## Tokens -/

/-- The places where parentheses open are those of the opening parentheses among the pieces. -/
theorem Cut.openings_eq {p : Nat} {cs : List Char} {ps : List Piece} (h : Cut p cs ps) :
    openings p cs =
      ((ps.map Piece.token).filter (·.kind = .leftParen)).map Token.position := by
  have of_blanks {bs : List Char} (hb : ∀ b ∈ bs, isBlank b = true) : Opens bs [] :=
    .plain fun b hm => opensNothing_of_class rfl rfl (hb b hm)
  induction h with
  | blanks hb => exact (of_blanks hb).openings_eq _
  | @piece p bs text span rest k ps hb hs hend h ih =>
    rw [of_blanks hb]
    by_cases hk : k = .unterminated
    · subst hk
      obtain rfl := hend.eq_nil
      obtain rfl := h.unique (.blanks nofun)
      obtain ⟨cs, -, rfl, hquote⟩ := hs.exists_of_unterminated
      rw [List.append_nil, openings_quote, hquote]
      rfl
    · rw [hs.opens hk, ih]
      by_cases hparen : k = .leftParen <;> simp [hparen]

/-- The opening parentheses among the tokens of a text stand where parentheses open in it. -/
theorem map_position_filter_tokens (source : String) :
    ((tokens source).filter (·.kind = .leftParen)).map Token.position =
      openings 0 source.toList := by
  obtain ⟨ps, hps⟩ := exists_cut 0 source.toList
  rw [tokens_eq_of_cut hps, hps.openings_eq, List.filter_append]
  simp

end Screening
