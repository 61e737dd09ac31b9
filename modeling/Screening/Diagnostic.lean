import Screening.Condition.Fault
import Screening.Relation

/-!
# Diagnostics

What is wrong with the text of a condition. A `Finding` is the cause; a `Diagnostic` is the report
about it, with its code, its message, the place it refers to and the text from there on.
-/

namespace Screening

/-- The classes of findings. -/
inductive DiagnosticCode where
  /-- The text is no condition, or too short or too long for one. -/
  | malformed
  /-- A field is unknown, or stands where none may stand. -/
  | invalidField
  /-- A relation is asked of a field of the wrong kind. -/
  | invalidOperator
  /-- The text uses a construct that the language does without. -/
  | unsupported
  deriving DecidableEq

/-- The name under which a class of findings is reported. -/
def DiagnosticCode.label : DiagnosticCode → String
  | .malformed => "DSL_PARSE_ERROR"
  | .invalidField => "DSL_INVALID_FIELD"
  | .invalidOperator => "DSL_INVALID_OPERATOR"
  | .unsupported => "DSL_UNSUPPORTED_TIER"

/-- The class of findings with this name. -/
def DiagnosticCode.ofLabel? : String → Option DiagnosticCode
  | "DSL_PARSE_ERROR" => some .malformed
  | "DSL_INVALID_FIELD" => some .invalidField
  | "DSL_INVALID_OPERATOR" => some .invalidOperator
  | "DSL_UNSUPPORTED_TIER" => some .unsupported
  | _ => none

/-- What is wrong with the text of a condition. -/
inductive Finding where
  | tooShort
  | tooLong (limit : Nat)
  /-- An arithmetic sign, or a sign in front of a number. -/
  | arithmetic (sign : String)
  /-- A name with a parenthesis behind it. -/
  | call (name : String)
  /-- The tokens are no condition. -/
  | unreadable (fault : Fault)
  | leftNotField
  | unknownField (name : String)
  | rightIsField (name : String)
  /-- An order is asked of a text. -/
  | orderedText (relation : Relation) (name : String)
  deriving DecidableEq

/-- The class of a finding. -/
def Finding.code : Finding → DiagnosticCode
  | .tooShort | .tooLong _ | .unreadable _ => .malformed
  | .arithmetic _ | .call _ => .unsupported
  | .leftNotField | .unknownField _ | .rightIsField _ => .invalidField
  | .orderedText .. => .invalidOperator

/-- What is said about a finding. -/
def Finding.message : Finding → String
  | .tooShort => "Expression too short"
  | .tooLong limit => "Expression too long (at most " ++ toString limit ++ " characters)"
  | .arithmetic sign => "Arithmetic and signed numbers are not supported ('" ++ sign ++ "')"
  | .call name => "Function calls are not supported ('" ++ name ++ "')"
  | .unreadable fault => fault.message
  | .leftNotField => "Left side of a comparison must be a field"
  | .unknownField name => "Unknown field: " ++ name
  | .rightIsField name => "Right side of a comparison must be a literal, got field '" ++ name ++ "'"
  | .orderedText relation name =>
      "Operator '" ++ relation.symbol ++ "' is not allowed for text field '" ++ name ++ "'"

/-- A report about a place of a text. -/
structure Diagnostic where
  code : DiagnosticCode
  message : String
  position : Nat
  near : String
  deriving DecidableEq

namespace Diagnostic

/-- A report about a place of the text `source`. -/
def locate (code : DiagnosticCode) (message source : String) (position : Nat) : Diagnostic :=
  ⟨code, message, position, excerpt source position⟩

/-- The report about a finding at a place of the text `source`. -/
def ofFinding (finding : Finding) (source : String) (position : Nat) : Diagnostic :=
  locate finding.code finding.message source position

/-- The report about a text that cannot be read. -/
def ofReadError (e : ReadError) : Diagnostic :=
  let finding := Finding.unreadable e.fault
  ⟨finding.code, finding.message, e.position, e.near⟩

/-- One line about a report. -/
def display (d : Diagnostic) : String :=
  d.code.label ++ ": " ++ located d.message d.position d.near

end Diagnostic

end Screening
