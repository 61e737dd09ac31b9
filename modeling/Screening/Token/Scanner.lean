import Screening.Text.Classes
import Screening.Token

/-!
# Cutting a text into tokens

`lexeme` takes the longest token off a text that begins with no blank. `tokens` does this from one
end of a text to the other and closes the list with the token behind the last character; a
`Scanner` hands out the same tokens one at a time.

Blanks stand between tokens and belong to none. Every lexeme takes at least one character
(`rest_length_lexeme`), which is why the whole text is used up.
-/

namespace Screening

open Text

/-! ## Quoted texts -/

/-- Splits what stands behind an opening quote at the quote that closes it. A backslash in front
of a quote or of a backslash takes that character's meaning away. -/
def splitQuoted : List Char → Option (List Char × List Char)
  | [] => none
  | '\'' :: cs => some ([], cs)
  | '\\' :: '\'' :: cs => (splitQuoted cs).map fun (inside, rest) => ('\\' :: '\'' :: inside, rest)
  | '\\' :: '\\' :: cs => (splitQuoted cs).map fun (inside, rest) => ('\\' :: '\\' :: inside, rest)
  | c :: cs => (splitQuoted cs).map fun (inside, rest) => (c :: inside, rest)

/-- The contents of a quoted text: the backslash that guards a quote or a backslash is dropped,
and every other backslash stands for itself. -/
def unescape : List Char → List Char
  | [] => []
  | '\\' :: '\'' :: cs => '\'' :: unescape cs
  | '\\' :: '\\' :: cs => '\\' :: unescape cs
  | c :: cs => c :: unescape cs

theorem splitQuoted_eq_append {cs inside rest : List Char}
    (h : splitQuoted cs = some (inside, rest)) : cs = inside ++ '\'' :: rest := by
  fun_induction splitQuoted cs generalizing inside rest with
  | case1 => simp at h
  | case2 => simp_all
  | case3 cs ih | case4 cs ih | case5 _ cs _ _ _ ih =>
    obtain ⟨⟨i, r⟩, hs, he⟩ := Option.map_eq_some_iff.1 h
    simp only [Prod.mk.injEq] at he
    obtain ⟨rfl, rfl⟩ := he
    simp [← ih hs]

/-! ## Lexemes -/

/-- A token before it has a place: its kind and text, the characters it takes and the rest. -/
structure Lexeme where
  kind : TokenKind
  text : List Char
  span : List Char
  rest : List Char

/-- The relation sign a text begins with, and the rest. Of two signs the longer is taken. -/
def splitRelation : List Char → Option (List Char × List Char)
  | '>' :: '=' :: cs => some (['>', '='], cs)
  | '<' :: '=' :: cs => some (['<', '='], cs)
  | '!' :: '=' :: cs => some (['!', '='], cs)
  | '>' :: cs => some (['>'], cs)
  | '<' :: cs => some (['<'], cs)
  | '=' :: cs => some (['='], cs)
  | _ => none

/-- The keyword that a word is, in whatever case it is written. -/
def keyword? (word : List Char) : Option TokenKind :=
  match word.map Char.toUpper with
  | ['A', 'N', 'D'] => some .and
  | ['O', 'R'] => some .or
  | ['N', 'O', 'T'] => some .not
  | _ => none

/-- Behind its first digit a number runs over digits and dots. -/
def isNumberPart (c : Char) : Bool := c.isDigit || c == '.'

/-- The lexeme of a word: a keyword, or the name of a field. -/
def wordLexeme (word rest : List Char) : Lexeme :=
  match keyword? word with
  | some kind => ⟨kind, word.map Char.toUpper, word, rest⟩
  | none => ⟨.identifier, word, word, rest⟩

/-- The lexeme of a text that an opening quote stands in front of. -/
def quotedLexeme (cs : List Char) : Lexeme :=
  match splitQuoted cs with
  | some (inside, rest) => ⟨.text, unescape inside, '\'' :: inside ++ ['\''], rest⟩
  | none => ⟨.unterminated, '\'' :: cs, '\'' :: cs, []⟩

/-- The lexeme at the front of the text `c :: cs`, where `c` is no blank. -/
def lexeme (c : Char) (cs : List Char) : Lexeme :=
  match splitRelation (c :: cs) with
  | some (sign, rest) => ⟨.relation, sign, sign, rest⟩
  | none =>
      if c = '(' then ⟨.leftParen, [c], [c], cs⟩
      else if c = ')' then ⟨.rightParen, [c], [c], cs⟩
      else if c = '\'' then quotedLexeme cs
      else if c.isDigit then
        let number := c :: cs.takeWhile isNumberPart
        ⟨.number, number, number, cs.dropWhile isNumberPart⟩
      else if isWordStart c then
        wordLexeme (c :: cs.takeWhile isWordPart) (cs.dropWhile isWordPart)
      else ⟨.unknown, [c], [c], cs⟩

@[simp] theorem span_wordLexeme (word rest : List Char) : (wordLexeme word rest).span = word := by
  unfold wordLexeme; split <;> rfl

@[simp] theorem rest_wordLexeme (word rest : List Char) : (wordLexeme word rest).rest = rest := by
  unfold wordLexeme; split <;> rfl

theorem span_append_rest_quotedLexeme (cs : List Char) :
    (quotedLexeme cs).span ++ (quotedLexeme cs).rest = '\'' :: cs := by
  unfold quotedLexeme
  split
  · rename_i inside rest h
    simp [splitQuoted_eq_append h]
  · simp

theorem span_quotedLexeme_ne_nil (cs : List Char) : (quotedLexeme cs).span ≠ [] := by
  unfold quotedLexeme; split <;> simp

theorem splitRelation_eq_append {cs sign rest : List Char}
    (h : splitRelation cs = some (sign, rest)) : cs = sign ++ rest ∧ sign ≠ [] := by
  unfold splitRelation at h
  split at h <;> simp only [Option.some.injEq, Prod.mk.injEq, reduceCtorEq] at h
  all_goals
    obtain ⟨rfl, rfl⟩ := h
    simp

/-- A lexeme splits the text into the characters it takes and the rest, and takes at least one. -/
theorem lexeme_split (c : Char) (cs : List Char) :
    (lexeme c cs).span ++ (lexeme c cs).rest = c :: cs ∧ (lexeme c cs).span ≠ [] := by
  unfold lexeme
  split
  · rename_i sign rest h
    exact ⟨(splitRelation_eq_append h).1.symm, (splitRelation_eq_append h).2⟩
  · repeat' split
    all_goals simp_all [span_append_rest_quotedLexeme, span_quotedLexeme_ne_nil]

/-- What follows a lexeme is no longer than what followed its first character. -/
theorem rest_length_lexeme (c : Char) (cs : List Char) : (lexeme c cs).rest.length ≤ cs.length := by
  have h := congrArg List.length (lexeme_split c cs).1
  have hpos := List.length_pos_iff.2 (lexeme_split c cs).2
  simp only [List.length_append, List.length_cons] at h
  omega

/-! ## The whole text -/

/-- The tokens of a text whose first character stands at `position`. -/
def tokensFrom (position : Nat) (cs : List Char) : List Token :=
  let start := position + (cs.takeWhile isBlank).length
  match _h : cs.dropWhile isBlank with
  | [] => [⟨.endOfInput, "", start⟩]
  | c :: rest =>
      let l := lexeme c rest
      ⟨l.kind, String.ofList l.text, start⟩ :: tokensFrom (start + l.span.length) l.rest
termination_by cs.length
decreasing_by
  have hrest := rest_length_lexeme c rest
  have hdrop := (List.dropWhile_sublist isBlank (l := cs)).length_le
  rw [_h, List.length_cons] at hdrop
  omega

/-- The tokens of a text, the one behind its last character included. -/
def tokens (source : String) : List Token := tokensFrom 0 source.toList

/-! ## One token at a time -/

/-- A text that is being cut into tokens. -/
structure Scanner where
  /-- The characters that are still to be read. -/
  rest : List Char
  /-- The place of the first of them. -/
  position : Nat
  /-- Whether the token behind the last character has been handed out. -/
  ended : Bool

namespace Scanner

/-- A scanner in front of a text. -/
def ofText (source : String) : Scanner := ⟨source.toList, 0, false⟩

/-- The next token. Behind the last character it is the closing one again and again. -/
def next (s : Scanner) : Token × Scanner :=
  let start := s.position + (s.rest.takeWhile isBlank).length
  match s.rest.dropWhile isBlank with
  | [] => (⟨.endOfInput, "", start⟩, ⟨[], start, true⟩)
  | c :: rest =>
      let l := lexeme c rest
      (⟨l.kind, String.ofList l.text, start⟩, ⟨l.rest, start + l.span.length, s.ended⟩)

/-- All tokens that have not been handed out; none when the closing one has been. -/
def remaining (s : Scanner) : List Token :=
  if s.ended then [] else tokensFrom s.position s.rest

end Scanner

end Screening
