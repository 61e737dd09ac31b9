import Screening.Proofs.Text.Classes
import Screening.Relation
import Screening.Token.Scanner

/-!
# What a lexeme is

`lexeme` takes a lexeme off the front of a text. `Spells` says which characters are a lexeme of
which kind without looking at what follows them, and `Ends` says when what follows cannot be a part
of it. The two together are what `lexeme` does: it takes characters that spell a lexeme and stops
where that lexeme ends (`spells_lexeme`), and wherever characters spell a lexeme that ends behind
them, it takes exactly these (`lexeme_append`). So a lexeme may be moved into any other text in
which it ends as well.

What may stand between two quotes, and what it says there, is `Inside`; how the scanner looks for
the closing quote plays no part in it (`splitQuoted_eq_some_iff`).
-/

namespace Screening

open Text

/-! ## Quoted texts -/

section
variable {cs inside text rest : List Char}

/-- A character that is neither a quote nor a backslash is a part of the quoted text. -/
theorem splitQuoted_cons {c : Char} (hquote : c ≠ '\'') (hback : c ≠ '\\') (cs : List Char) :
    splitQuoted (c :: cs) = (splitQuoted cs).map fun (inside, rest) => (c :: inside, rest) :=
  splitQuoted.eq_5 c cs hquote (fun _ h => absurd h hback) (fun _ h => absurd h hback)

/-- `Inside inside text` says that the characters `inside`, put between two quotes, say `text`. A
backslash in front of a quote or of another backslash guards it: it is dropped, and the character
behind it is taken as it is. Every other character is taken as it is, other backslashes among
them. No quote stands there unguarded, and no backslash in front of the closing one. -/
inductive Inside : List Char → List Char → Prop where
  | nil : Inside [] []
  | guarded {c : Char} {inside text : List Char} (hc : c = '\'' ∨ c = '\\')
      (h : Inside inside text) : Inside ('\\' :: c :: inside) (c :: text)
  | plain {c : Char} {inside text : List Char} (hquote : c ≠ '\'')
      (hback : c = '\\' → ∃ d ∈ inside.head?, d ≠ '\'' ∧ d ≠ '\\')
      (h : Inside inside text) : Inside (c :: inside) (c :: text)

/-- What follows a backslash that guards nothing is neither a quote nor a backslash. -/
theorem ne_of_guards_nothing {c d : Char} (rest : List Char)
    (hback : c = '\\' → ∃ d ∈ inside.head?, d ≠ '\'' ∧ d ≠ '\\') (hc : c = '\\')
    (hd : (inside ++ rest).head? = some d) : d ≠ '\'' ∧ d ≠ '\\' := by
  obtain ⟨e, he, hne⟩ := hback hc
  obtain ⟨es, rfl⟩ := List.head?_eq_some_iff.1 he
  cases hd
  exact hne

/-- Characters say one text only, the one without the guards. -/
theorem Inside.unescape_eq (h : Inside inside text) : unescape inside = text := by
  induction h with
  | nil => rfl
  | guarded hc _ ih =>
    rcases hc with rfl | rfl <;> rw [unescape, ih]
  | @plain c inside text _ hback _ ih =>
    rw [unescape.eq_4 c inside, ih]
    · rintro ds hc rfl
      exact (ne_of_guards_nothing [] hback hc rfl).1 rfl
    · rintro ds hc rfl
      exact (ne_of_guards_nothing [] hback hc rfl).2 rfl

/-- The scanner stops at the quote behind such characters. -/
theorem Inside.splitQuoted_append (h : Inside inside text) (rest : List Char) :
    splitQuoted (inside ++ '\'' :: rest) = some (inside, rest) := by
  induction h with
  | nil => rfl
  | guarded hc _ ih =>
    rcases hc with rfl | rfl <;> simp only [List.cons_append, splitQuoted, ih, Option.map_some]
  | @plain c inside text hquote hback _ ih =>
    rw [List.cons_append, splitQuoted.eq_5 c _ hquote, ih, Option.map_some]
    · intro ds hc hds
      exact (ne_of_guards_nothing _ hback hc (congrArg List.head? hds)).1 rfl
    · intro ds hc hds
      exact (ne_of_guards_nothing _ hback hc (congrArg List.head? hds)).2 rfl

/-- What the scanner finds in front of a closing quote may stand between two quotes. -/
theorem inside_of_splitQuoted (h : splitQuoted cs = some (inside, rest)) :
    ∃ text, Inside inside text := by
  fun_induction splitQuoted cs generalizing inside rest with
  | case1 => cases h
  | case2 => cases h; exact ⟨[], .nil⟩
  | case3 cs ih | case4 cs ih =>
    obtain ⟨⟨i, r⟩, hs, he⟩ := Option.map_eq_some_iff.1 h
    cases he
    obtain ⟨text, ht⟩ := ih hs
    exact ⟨_, .guarded (by simp) ht⟩
  | case5 c cs hquote hguard hback ih =>
    obtain ⟨⟨i, r⟩, hs, he⟩ := Option.map_eq_some_iff.1 h
    cases he
    obtain ⟨text, ht⟩ := ih hs
    refine ⟨_, .plain hquote (fun hc => ?_) ht⟩
    have hcs := splitQuoted_eq_append hs
    cases i with
    | nil => exact (hguard _ hc hcs).elim
    | cons d i =>
      refine ⟨d, rfl, ?_, ?_⟩
      · rintro rfl
        exact hguard _ hc hcs
      · rintro rfl
        exact hback _ hc hcs

/-- **The closing quote.** A text is split at a quote exactly if what stands in front of that quote
may stand between two quotes. -/
theorem splitQuoted_eq_some_iff :
    splitQuoted cs = some (inside, rest) ↔
      cs = inside ++ '\'' :: rest ∧ ∃ text, Inside inside text := by
  refine ⟨fun h => ⟨splitQuoted_eq_append h, inside_of_splitQuoted h⟩, ?_⟩
  rintro ⟨rfl, text, h⟩
  exact h.splitQuoted_append rest

/-- A quote is never closed exactly if no characters that may stand between two quotes are followed
by one. -/
theorem splitQuoted_eq_none_iff :
    splitQuoted cs = none ↔
      ∀ inside text rest, Inside inside text → cs ≠ inside ++ '\'' :: rest := by
  rw [Option.eq_none_iff_forall_ne_some]
  refine ⟨fun h inside text rest hi hcs => ?_, fun h ⟨inside, rest⟩ hs => ?_⟩
  · exact h (inside, rest) (splitQuoted_eq_some_iff.2 ⟨hcs, text, hi⟩)
  · obtain ⟨hcs, text, hi⟩ := splitQuoted_eq_some_iff.1 hs
    exact h inside text rest hi hcs

/-- What stands between two quotes may be followed by anything. -/
theorem splitQuoted_append_quote (h : splitQuoted cs = some (inside, rest)) (rest' : List Char) :
    splitQuoted (inside ++ '\'' :: rest') = some (inside, rest') := by
  obtain ⟨text, hi⟩ := inside_of_splitQuoted h
  exact hi.splitQuoted_append rest'

/-- A quote that is never closed is not closed by characters among which there is none. -/
theorem splitQuoted_append_eq_none {bs : List Char} (h : splitQuoted cs = none)
    (hb : ∀ b ∈ bs, b ≠ '\'') : splitQuoted (cs ++ bs) = none := by
  rw [splitQuoted_eq_none_iff] at h ⊢
  intro inside text rest hi heq
  -- the closing quote stands among the new characters or among the old ones
  rcases List.append_eq_append_iff.1 heq with ⟨as, -, hbs⟩ | ⟨as, hcs, has⟩
  · exact hb '\'' (hbs ▸ List.mem_append_right _ (.head _)) rfl
  · cases as with
    | nil =>
      rw [List.nil_append] at has
      exact hb '\'' (has ▸ .head _) rfl
    | cons a as =>
      obtain ⟨rfl, -⟩ := List.cons.inj has
      exact h inside text as hi hcs

end

/-! ## Spellings -/

/-- A character that begins no lexeme but one of its own. An exclamation mark is one of them as
long as no equality sign follows it. -/
def isStray (c : Char) : Bool :=
  !isBlank c && !isWordStart c && !c.isDigit && !(['>', '<', '=', '(', ')', '\''].contains c)

/-- `Spells k text span` says that the characters `span` are a lexeme of the kind `k`, which says
`text`. -/
inductive Spells : TokenKind → List Char → List Char → Prop where
  | relation (r : Relation) : Spells .relation r.symbol.toList r.symbol.toList
  | leftParen : Spells .leftParen ['('] ['(']
  | rightParen : Spells .rightParen [')'] [')']
  | text {inside : List Char}
      (h : ∀ rest, splitQuoted (inside ++ '\'' :: rest) = some (inside, rest)) :
      Spells .text (unescape inside) ('\'' :: inside ++ ['\''])
  | unterminated {cs : List Char} (h : splitQuoted cs = none) :
      Spells .unterminated ('\'' :: cs) ('\'' :: cs)
  | number {c : Char} {cs : List Char} (hc : c.isDigit = true)
      (hcs : ∀ d ∈ cs, isNumberPart d = true) : Spells .number (c :: cs) (c :: cs)
  | name {c : Char} {cs : List Char} (hc : isWordStart c = true)
      (hcs : ∀ d ∈ cs, isWordPart d = true) (hk : keyword? (c :: cs) = none) :
      Spells .identifier (c :: cs) (c :: cs)
  | keyword {k : TokenKind} {c : Char} {cs : List Char} (hc : isWordStart c = true)
      (hcs : ∀ d ∈ cs, isWordPart d = true) (hk : keyword? (c :: cs) = some k) :
      Spells k ((c :: cs).map Char.toUpper) (c :: cs)
  | stray {c : Char} (hc : isStray c = true) : Spells .unknown [c] [c]

/-- Whether a lexeme goes on with a character that stands behind it. -/
def runsOn (k : TokenKind) (span : List Char) (d : Char) : Bool :=
  match k with
  | .number => isNumberPart d
  | .identifier | .and | .or | .not => isWordPart d
  | .relation | .unknown => d == '=' && [['>'], ['<'], ['!']].contains span
  | .unterminated => true
  | .text | .leftParen | .rightParen | .endOfInput => false

/-- A lexeme ends in front of a text that it does not go on with. -/
def Ends (k : TokenKind) (span rest : List Char) : Prop := ∀ d ∈ rest.head?, runsOn k span d = false

theorem ends_nil (k : TokenKind) (span : List Char) : Ends k span [] := nofun

theorem ends_cons {k : TokenKind} {span rest : List Char} {d : Char} :
    Ends k span (d :: rest) ↔ runsOn k span d = false :=
  ⟨fun h => h d rfl, fun h _ hd => by cases hd; exact h⟩

/-- A quote that is never closed ends only where the text ends. -/
theorem Ends.eq_nil {span rest : List Char} (h : Ends .unterminated span rest) : rest = [] := by
  cases rest with
  | nil => rfl
  | cons d rest => cases ends_cons.1 h

/-! ## Keywords -/

/-- A keyword is one of three words. -/
theorem keyword?_eq_some_iff {word : List Char} {k : TokenKind} :
    keyword? word = some k ↔ k = .and ∧ word.map Char.toUpper = ['A', 'N', 'D'] ∨
      k = .or ∧ word.map Char.toUpper = ['O', 'R'] ∨
      k = .not ∧ word.map Char.toUpper = ['N', 'O', 'T'] := by
  unfold keyword?
  split <;> simp_all [eq_comm]

theorem kind_of_keyword? {word : List Char} {k : TokenKind} (h : keyword? word = some k) :
    k = .and ∨ k = .or ∨ k = .not := by
  rcases keyword?_eq_some_iff.1 h with ⟨h, -⟩ | ⟨h, -⟩ | ⟨h, -⟩
  · exact .inl h
  · exact .inr (.inl h)
  · exact .inr (.inr h)

/-- A keyword ends where a word ends. -/
theorem ends_keyword_iff {word span rest : List Char} {k : TokenKind} (h : keyword? word = some k) :
    Ends k span rest ↔ ∀ d ∈ rest.head?, isWordPart d = false := by
  rcases kind_of_keyword? h with rfl | rfl | rfl <;> exact Iff.rfl

theorem spells_not : Spells .not ['N', 'O', 'T'] ['N', 'O', 'T'] :=
  @Spells.keyword .not 'N' ['O', 'T'] (by decide +kernel)
    (List.all_eq_true.1 (by decide +kernel)) rfl

theorem spells_and : Spells .and ['A', 'N', 'D'] ['A', 'N', 'D'] :=
  @Spells.keyword .and 'A' ['N', 'D'] (by decide +kernel)
    (List.all_eq_true.1 (by decide +kernel)) rfl

theorem spells_or : Spells .or ['O', 'R'] ['O', 'R'] :=
  @Spells.keyword .or 'O' ['R'] (by decide +kernel)
    (List.forall_mem_singleton.2 (by decide +kernel)) rfl

/-- A keyword in upper case spells what it spells. -/
theorem spells_upper {word : List Char} {k : TokenKind} (h : keyword? word = some k) :
    Spells k (word.map Char.toUpper) (word.map Char.toUpper) := by
  rcases keyword?_eq_some_iff.1 h with ⟨rfl, hword⟩ | ⟨rfl, hword⟩ | ⟨rfl, hword⟩ <;> rw [hword]
  · exact spells_and
  · exact spells_or
  · exact spells_not

/-! ## Spellings of one kind -/

variable {text span : List Char}

/-- A name is spelled by itself. -/
theorem Spells.eq_of_identifier (h : Spells .identifier text span) : span = text := by
  cases h with
  | name => rfl
  | keyword _ _ hk => rcases kind_of_keyword? hk with h | h | h <;> cases h

theorem Spells.exists_digit_of_number (h : Spells .number text span) :
    ∃ c cs, text = c :: cs ∧ c.isDigit = true := by
  cases h with
  | number hc => exact ⟨_, _, rfl, hc⟩
  | keyword _ _ hk => rcases kind_of_keyword? hk with h | h | h <;> cases h

/-- What is taken as a relation is the sign of one. -/
theorem Spells.exists_relation (h : Spells .relation text span) :
    ∃ r : Relation, text = r.symbol.toList := by
  cases h with
  | relation r => exact ⟨r, rfl⟩
  | keyword _ _ hk => rcases kind_of_keyword? hk with h | h | h <;> cases h

/-- A quote that is never closed says the quote and everything behind it. -/
theorem Spells.exists_of_unterminated (h : Spells .unterminated text span) :
    ∃ cs, text = '\'' :: cs ∧ span = '\'' :: cs ∧ splitQuoted cs = none := by
  cases h with
  | @unterminated cs h => exact ⟨cs, rfl, rfl, h⟩
  | keyword _ _ hk => rcases kind_of_keyword? hk with h | h | h <;> cases h

/-- The closing token is spelled by nothing. -/
theorem Spells.kind_ne_endOfInput {k : TokenKind} (h : Spells k text span) : k ≠ .endOfInput := by
  cases h with
  | keyword _ _ hk => rcases kind_of_keyword? hk with rfl | rfl | rfl <;> exact nofun
  | _ => exact nofun

/-! ## What `lexeme` takes -/

/-- No relation sign stands in front of a text that begins with none of the four characters of
relation signs, or with an exclamation mark alone. -/
theorem splitRelation_eq_none_iff {c : Char} {cs : List Char} :
    splitRelation (c :: cs) = none ↔
      c ≠ '>' ∧ c ≠ '<' ∧ c ≠ '=' ∧ (c = '!' → cs.head? ≠ some '=') := by
  unfold splitRelation
  split
  case h_7 hge hle hne hg hl he =>
    refine ⟨fun _ => ⟨fun h => ?_, fun h => ?_, fun h => ?_, fun h hd => ?_⟩, fun _ => rfl⟩
    · exact hg cs (h ▸ rfl)
    · exact hl cs (h ▸ rfl)
    · exact he cs (h ▸ rfl)
    · obtain ⟨ds, rfl⟩ := List.head?_eq_some_iff.1 hd
      exact hne ds (h ▸ rfl)
  all_goals simp_all

/-- The sign of a relation is taken whole where it ends. -/
theorem splitRelation_append {r : Relation} {rest : List Char}
    (h : Ends .relation r.symbol.toList rest) :
    splitRelation (r.symbol.toList ++ rest) = some (r.symbol.toList, rest) := by
  have hrest : r = .less ∨ r = .greater → rest.head? ≠ some '=' := by
    rintro hr hd
    have := h '=' hd
    rcases hr with rfl | rfl <;> revert this <;> decide
  cases r with
  | equal | notEqual | atMost | atLeast => rfl
  | less | greater =>
    unfold Relation.symbol splitRelation
    split <;> simp_all

/-- What is taken as a relation sign is the sign of a relation, and it ends there. -/
theorem splitRelation_eq_some {cs sign rest : List Char}
    (h : splitRelation cs = some (sign, rest)) :
    ∃ r : Relation, sign = r.symbol.toList ∧ Ends .relation sign rest := by
  unfold splitRelation at h
  split at h
  case h_1 => cases h; exact ⟨.atLeast, rfl, fun _ _ => by simp [runsOn]⟩
  case h_2 => cases h; exact ⟨.atMost, rfl, fun _ _ => by simp [runsOn]⟩
  case h_3 => cases h; exact ⟨.notEqual, rfl, fun _ _ => by simp [runsOn]⟩
  case h_4 cs hne =>
    cases h
    refine ⟨.greater, rfl, fun d hd => ?_⟩
    rcases rest with _ | ⟨e, rest⟩ <;> cases hd
    have : d ≠ '=' := fun he => hne rest (by rw [he])
    simp [runsOn, this]
  case h_5 cs hne =>
    cases h
    refine ⟨.less, rfl, fun d hd => ?_⟩
    rcases rest with _ | ⟨e, rest⟩ <;> cases hd
    have : d ≠ '=' := fun he => hne rest (by rw [he])
    simp [runsOn, this]
  case h_6 => cases h; exact ⟨.equal, rfl, fun _ _ => by simp [runsOn]⟩
  case h_7 => cases h

/-- The first character of a lexeme is no blank. -/
theorem Spells.exists_cons {k : TokenKind} {text span : List Char} (h : Spells k text span) :
    ∃ c cs, span = c :: cs ∧ isBlank c = false := by
  cases h with
  | relation r => cases r <;> exact ⟨_, _, rfl, by decide⟩
  | leftParen | rightParen | text | unterminated => exact ⟨_, _, rfl, by decide⟩
  | number hc => exact ⟨_, _, rfl, isBlank_eq_false_of_isDigit hc⟩
  | name hc | keyword hc => exact ⟨_, _, rfl, isBlank_eq_false_of_isWordStart hc⟩
  | stray hc =>
    simp only [isStray, Bool.and_eq_true, Bool.not_eq_true'] at hc
    exact ⟨_, _, rfl, hc.1.1.1⟩

/-- The lexeme of a word is spelled by the word. -/
theorem spells_wordLexeme {c : Char} {cs rest : List Char} (hc : isWordStart c = true)
    (hcs : ∀ d ∈ cs, isWordPart d = true) (hrest : ∀ d ∈ rest.head?, isWordPart d = false) :
    Spells (wordLexeme (c :: cs) rest).kind (wordLexeme (c :: cs) rest).text (c :: cs) ∧
      Ends (wordLexeme (c :: cs) rest).kind (c :: cs) rest := by
  unfold wordLexeme
  split
  · next k hk => exact ⟨.keyword hc hcs hk, (ends_keyword_iff hk).2 hrest⟩
  · next hk => exact ⟨.name hc hcs hk, hrest⟩

/-- A lexeme that is taken off a text is spelled by the characters that are taken, and it ends
behind them. -/
theorem spells_lexeme {c : Char} (cs : List Char) (hblank : isBlank c = false) :
    Spells (lexeme c cs).kind (lexeme c cs).text (lexeme c cs).span ∧
      Ends (lexeme c cs).kind (lexeme c cs).span (lexeme c cs).rest := by
  unfold lexeme
  split
  · next sign rest h =>
    obtain ⟨r, rfl, hend⟩ := splitRelation_eq_some h
    exact ⟨.relation r, hend⟩
  next hrel =>
  obtain ⟨hg, hl, he, hn⟩ := splitRelation_eq_none_iff.1 hrel
  split
  · next h => subst h; exact ⟨.leftParen, fun _ _ => rfl⟩
  next hopen =>
  split
  · next h => subst h; exact ⟨.rightParen, fun _ _ => rfl⟩
  next hclose =>
  split
  · unfold quotedLexeme
    split
    · next inside rest h => exact ⟨.text (splitQuoted_append_quote h), fun _ _ => rfl⟩
    · next h => exact ⟨.unterminated h, ends_nil _ _⟩
  next hquote =>
  split
  · next hdigit =>
    exact ⟨.number hdigit (List.all_eq_true.1 List.all_takeWhile),
      fun _ hd => head?_dropWhile_eq_false hd⟩
  next hdigit =>
  split
  · next hword =>
    rw [span_wordLexeme, rest_wordLexeme]
    exact spells_wordLexeme hword (List.all_eq_true.1 List.all_takeWhile)
      fun _ hd => head?_dropWhile_eq_false hd
  · next hword =>
    refine ⟨.stray (by simp_all [isStray]), fun d hd => ?_⟩
    have hd' : c = '!' → d ≠ '=' := fun hc he => hn hc (he ▸ hd)
    simp only [runsOn, List.contains_cons, List.contains_nil, Bool.or_false, Bool.and_eq_false_iff]
    by_cases heq : d = '='
    · right; simp_all
    · left; simp [heq]

theorem lexeme_leftParen (cs : List Char) : lexeme '(' cs = ⟨.leftParen, ['('], ['('], cs⟩ := rfl

theorem lexeme_rightParen (cs : List Char) : lexeme ')' cs = ⟨.rightParen, [')'], [')'], cs⟩ := rfl

theorem lexeme_quote (cs : List Char) : lexeme '\'' cs = quotedLexeme cs := rfl

/-- A character that stands neither for a relation nor for itself begins a number, a word or
nothing. -/
theorem lexeme_of_ne {c : Char} (cs : List Char)
    (h : ∀ d ∈ ['>', '<', '=', '(', ')', '\''], c ≠ d) (hn : c = '!' → cs.head? ≠ some '=') :
    lexeme c cs =
      if c.isDigit then
        ⟨.number, c :: cs.takeWhile isNumberPart, c :: cs.takeWhile isNumberPart,
          cs.dropWhile isNumberPart⟩
      else if isWordStart c then
        wordLexeme (c :: cs.takeWhile isWordPart) (cs.dropWhile isWordPart)
      else ⟨.unknown, [c], [c], cs⟩ := by
  have hrel : splitRelation (c :: cs) = none :=
    splitRelation_eq_none_iff.2 ⟨h _ (by decide), h _ (by decide), h _ (by decide), hn⟩
  unfold lexeme
  rw [hrel]
  simp only [h '(' (by decide), h ')' (by decide), h '\'' (by decide), if_false]

/-- Digits are none of the other signs of the language. -/
theorem ne_of_isDigit {c : Char} (hc : c.isDigit = true) :
    ∀ d ∈ ['>', '<', '=', '(', ')', '\''], c ≠ d := by
  have hsigns : (['>', '<', '=', '(', ')', '\''].all fun d => !d.isDigit) = true := rfl
  rintro d hd rfl
  have hdigit := List.all_eq_true.1 hsigns c hd
  rw [hc] at hdigit
  cases hdigit

/-- Characters that begin a word are none of the signs and digits of the language. -/
theorem ne_of_isWordStart {c : Char} (hc : isWordStart c = true) :
    (∀ d ∈ ['>', '<', '=', '(', ')', '\''], c ≠ d) ∧ c ≠ '!' ∧ c.isDigit = false := by
  have hnat := toNat_of_isWordStart hc
  have hsigns : (['>', '<', '=', '(', ')', '\''].all fun d => d.toNat < 0x41) = true := rfl
  refine ⟨?_, ?_, Bool.eq_false_iff.2 fun hd => ?_⟩
  · rintro d hd rfl
    exact absurd hnat (Nat.not_le_of_lt (of_decide_eq_true (List.all_eq_true.1 hsigns c hd)))
  · rintro rfl
    revert hnat
    decide
  · have := toNat_of_isDigit hd
    omega

/-- A word is taken as far as it goes. -/
theorem lexeme_of_isWordStart {c : Char} {cs rest : List Char} (hc : isWordStart c = true)
    (hcs : ∀ d ∈ cs, isWordPart d = true) (hrest : ∀ d ∈ rest.head?, isWordPart d = false) :
    lexeme c (cs ++ rest) = wordLexeme (c :: cs) rest := by
  obtain ⟨hne, hbang, hdigit⟩ := ne_of_isWordStart hc
  obtain ⟨htake, hdrop⟩ := takeWhile_dropWhile_append hcs hrest
  rw [lexeme_of_ne _ hne fun h => absurd h hbang, hdigit, if_neg Bool.false_ne_true, if_pos hc,
    htake, hdrop]

/-- Characters that spell a lexeme are taken, and no more than these, where the lexeme ends. -/
theorem lexeme_append {k : TokenKind} {text span rest : List Char} (h : Spells k text span)
    (hend : Ends k span rest) : ∀ {c : Char} {cs : List Char}, span = c :: cs →
      lexeme c (cs ++ rest) = ⟨k, text, span, rest⟩ := by
  intro c cs hspan
  cases h with
  | relation r =>
    have hsign := splitRelation_append hend
    rw [hspan, List.cons_append] at hsign
    simp only [lexeme, hsign, hspan]
  | leftParen => cases hspan; exact lexeme_leftParen rest
  | rightParen => cases hspan; exact lexeme_rightParen rest
  | @text inside h =>
    cases hspan
    have happ : inside ++ ['\''] ++ rest = inside ++ '\'' :: rest := by simp
    show lexeme '\'' (inside ++ ['\''] ++ rest) = _
    rw [lexeme_quote, happ, quotedLexeme, h]
  | unterminated h =>
    cases hspan
    cases hend.eq_nil
    rw [lexeme_quote, List.append_nil, quotedLexeme, h]
  | number hc hcs =>
    cases hspan
    obtain ⟨htake, hdrop⟩ := takeWhile_dropWhile_append hcs hend
    rw [lexeme_of_ne _ (ne_of_isDigit hc) (by rintro rfl; cases hc), if_pos hc, htake, hdrop]
  | name hc hcs hk =>
    cases hspan
    rw [lexeme_of_isWordStart hc hcs hend, wordLexeme, hk]
  | keyword hc hcs hk =>
    cases hspan
    rw [lexeme_of_isWordStart hc hcs ((ends_keyword_iff hk).1 hend), wordLexeme, hk]
  | stray hc =>
    cases hspan
    simp only [isStray, Bool.and_eq_true, Bool.not_eq_true'] at hc
    obtain ⟨⟨⟨-, hword⟩, hdigit⟩, hne⟩ := hc
    have hbang : c = '!' → rest.head? ≠ some '=' := by
      rintro rfl hd
      exact absurd (hend '=' hd) (by decide)
    rw [List.nil_append, lexeme_of_ne _ (fun d hd hc => ?_) hbang, hdigit, hword,
      if_neg Bool.false_ne_true, if_neg Bool.false_ne_true]
    rw [hc, List.contains_iff_mem.2 hd] at hne
    cases hne

end Screening
