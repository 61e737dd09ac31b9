import Screening.Text.Quoted

/-!
# Tokens of the rule language

A condition is written in words, numbers, quoted texts, relation signs and parentheses. A `Token`
is one of them with its text and the number of characters in front of it. Cutting a text into
tokens never fails: a character that the language does not know, and a quoted text that is never
closed, are tokens of kinds of their own, so that whoever reads the tokens can say where the
mistake is.
-/

namespace Screening

/-- What a token is. -/
inductive TokenKind where
  /-- The name of a field, possibly with dots in it. -/
  | identifier
  /-- A run of digits and dots. -/
  | number
  /-- A text between quotes. -/
  | text
  /-- A relation sign such as `>=`. -/
  | relation
  | and
  | or
  | not
  | leftParen
  | rightParen
  /-- Behind the last character. -/
  | endOfInput
  /-- A character that begins no token of the language. -/
  | unknown
  /-- A quote that is never closed, and everything behind it. -/
  | unterminated
  deriving DecidableEq

/-- The name under which a kind is shown. -/
def TokenKind.label : TokenKind → String
  | .identifier => "IDENT"
  | .number => "NUMBER"
  | .text => "STRING"
  | .relation => "OP"
  | .and => "AND"
  | .or => "OR"
  | .not => "NOT"
  | .leftParen => "LPAREN"
  | .rightParen => "RPAREN"
  | .endOfInput => "EOF"
  | .unknown => "UNKNOWN"
  | .unterminated => "UNTERMINATED_STRING"

/-- A token of a condition. -/
structure Token where
  kind : TokenKind
  /-- What the token says: for a quoted text its contents, for a keyword its upper case, and for
  every other kind the characters as they are written. -/
  text : String
  /-- The number of characters in front of the token. -/
  position : Nat
  deriving DecidableEq

/-- One line about a token: its kind, its place and its text. -/
def Token.describe (t : Token) : String :=
  t.kind.label ++ "@" ++ toString t.position ++ " " ++ Text.quoted t.text

end Screening
