import Screening.Token

/-!
# Faults in a condition

The ways in which a list of tokens can fail to be a condition. A `ReadError` says which of them it
is and at which place of the text, and shows the text from there on.
-/

namespace Screening

/-- Why a condition cannot be read. -/
inductive Fault where
  /-- More parentheses and negations are open together than are allowed. -/
  | tooDeep
  /-- A condition is complete and something else stands behind it. -/
  | unexpectedToken (text : String)
  /-- A parenthesis is opened and not closed where it should be. -/
  | missingParen
  /-- An operand stands alone. -/
  | expectedRelation
  /-- A run of digits and dots is no finite number. -/
  | invalidNumber (text : String)
  | unterminatedText
  | unexpectedCharacter (text : String)
  /-- The text ends where an operand should stand. -/
  | endOfInput
  /-- Something else stands where an operand should stand. -/
  | expectedOperand (found : TokenKind)
  deriving DecidableEq

/-- What is said about a fault. -/
def Fault.message : Fault → String
  | .tooDeep => "Expression nested too deeply"
  | .unexpectedToken text => "Unexpected token '" ++ text ++ "'"
  | .missingParen => "Missing ')'"
  | .expectedRelation => "Expected comparison operator"
  | .invalidNumber text => "Invalid number '" ++ text ++ "'"
  | .unterminatedText => "Unterminated string literal"
  | .unexpectedCharacter text => "Unexpected character '" ++ text ++ "'"
  | .endOfInput => "Unexpected end of expression, expected operand"
  | .expectedOperand found => "Expected operand, got " ++ found.label

/-- What of a text is shown of a place in it: the next characters, twenty at most. -/
def excerpt (source : String) (position : Nat) : String :=
  String.ofList ((source.toList.drop position).take 20)

/-- A message about a place in a text, with the text from there on. -/
def located (message : String) (position : Nat) (near : String) : String :=
  message ++ " at position " ++ toString position ++ " near '" ++ near ++ "'"

/-- A fault at a place of a text. -/
structure ReadError where
  fault : Fault
  position : Nat
  near : String
  deriving DecidableEq

namespace ReadError

/-- A fault at a place of the text `source`. -/
def ofFault (fault : Fault) (source : String) (position : Nat) : ReadError :=
  ⟨fault, position, excerpt source position⟩

/-- The whole message of a fault at a place. -/
def message (e : ReadError) : String := located e.fault.message e.position e.near

end ReadError

end Screening
