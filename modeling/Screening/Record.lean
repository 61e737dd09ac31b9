import Screening.Document.Record
import Screening.Json
import Screening.Rule

/-!
# Records of the library

How rules, verdicts, decisions, diagnostics, limits, fields and reports are read from documents
and written as JSON. Every record is written with all its fields, in one order.
-/

namespace Screening

/-- JSON as a format of records: a list has no more items than the record has fields, and null
stands beside the name of a choice. -/
def Convention.json : Convention where
  surplus := false
  isBlank
    | .null => true
    | _ => false

/-! ## Names of choices -/

/-- The kind of fields with this name. -/
def FieldKind.ofLabel? : String → Option FieldKind
  | "numeric" => some .numeric
  | "text" => some .text
  | _ => none

/-- The record with this name. -/
def Origin.ofLabel? : String → Option Origin
  | "transaction" => some .transaction
  | "user" => some .user
  | _ => none

/-- What is done with a transaction under this name. -/
def Status.ofLabel? : String → Option Status
  | "APPROVED" => some .approved
  | "DECLINED" => some .declined
  | _ => none

/-! ## Diagnostics and reports -/

/-- Reads a diagnostic. -/
def Diagnostic.read? (convention : Convention) (d : Document) : Option Diagnostic := do
  let fields ← d.fields? convention ["code", "message", "position", "near"]
  return {
    code := ← fields.required "code" (Document.choice? convention DiagnosticCode.ofLabel?)
    message := ← fields.required "message" Document.text?
    position := ← fields.required "position" Document.count?
    near := ← fields.required "near" Document.text? }

/-- A diagnostic as JSON. -/
def Diagnostic.toJson (d : Diagnostic) : Json :=
  .object [
    ("code", .text d.code.label),
    ("message", .text d.message),
    ("position", .ofNat d.position),
    ("near", .text d.near)]

/-- The report on the text of a condition: whether it is accepted, its normal spelling if it is,
and what is wrong if it is not. -/
structure Report where
  isValid : Bool
  normalizedExpression : Option String
  errors : List Diagnostic
  deriving DecidableEq

/-- The report on a text that has been validated. -/
def Report.ofValidation : Except Diagnostic String → Report
  | .ok normal => ⟨true, some normal, []⟩
  | .error d => ⟨false, none, [d]⟩

/-- Reads a report. -/
def Report.read? (convention : Convention) (d : Document) : Option Report := do
  let fields ← d.fields? convention ["isValid", "normalizedExpression", "errors"]
  return {
    isValid := ← fields.required "isValid" Document.boolean?
    normalizedExpression := ← fields.optional "normalizedExpression" Document.text?
    errors := ← fields.required "errors" (Document.listOf? (Diagnostic.read? convention)) }

/-- A report as JSON. -/
def Report.toJson (r : Report) : Json :=
  .object [
    ("isValid", .boolean r.isValid),
    ("normalizedExpression", .ofText? r.normalizedExpression),
    ("errors", .array (r.errors.map Diagnostic.toJson))]

/-! ## Limits and fields -/

/-- Reads bounds on the length of a condition; a bound that is missing is the standard one. -/
def Limits.read? (convention : Convention) (d : Document) : Option Limits := do
  let fields ← d.fields? convention ["min_length", "max_length"]
  return {
    minLength := ← fields.withDefault "min_length" Limits.standard.minLength Document.count?
    maxLength := ← fields.withDefault "max_length" Limits.standard.maxLength Document.count? }

/-- Bounds on the length of a condition as JSON. -/
def Limits.toJson (l : Limits) : Json :=
  .object [("min_length", .ofNat l.minLength), ("max_length", .ofNat l.maxLength)]

/-- Reads a field. -/
def Field.read? (convention : Convention) (d : Document) : Option Field := do
  let fields ← d.fields? convention ["name", "kind", "namespace"]
  return {
    name := ← fields.required "name" Document.text?
    kind := ← fields.required "kind" (Document.choice? convention FieldKind.ofLabel?)
    origin := ← fields.required "namespace" (Document.choice? convention Origin.ofLabel?) }

/-- Reads a field; where the record it is read from is missing, the name says it. -/
def Field.readDeclared? (convention : Convention) (d : Document) : Option Field := do
  let fields ← d.fields? convention ["name", "kind", "namespace"]
  let name ← fields.required "name" Document.text?
  let kind ← fields.required "kind" (Document.choice? convention FieldKind.ofLabel?)
  let origin ← fields.optional "namespace" (Document.choice? convention Origin.ofLabel?)
  return ⟨name, kind, origin.getD (Origin.ofName name)⟩

/-- A field as JSON. -/
def Field.toJson (f : Field) : Json :=
  .object [
    ("name", .text f.name),
    ("kind", .text f.kind.label),
    ("namespace", .text f.origin.label)]

/-! ## Rules, verdicts and decisions -/

/-- Whether an integer fits 32 bits with a sign, and which. -/
def Document.priority? (d : Document) : Option Int := d.integerIn? (-0x80000000) 0x80000000

/-- Reads a rule. A rule is enabled and of priority 100 unless it says otherwise. -/
def Rule.read? (convention : Convention) (d : Document) : Option Rule := do
  let fields ← d.fields? convention
    ["id", "name", "description", "dslExpression", "enabled", "priority"]
  return {
    id := ← fields.required "id" Document.text?
    name := ← fields.required "name" Document.text?
    description := ← fields.optional "description" Document.text?
    expression := ← fields.required "dslExpression" Document.text?
    enabled := ← fields.withDefault "enabled" true Document.boolean?
    priority := ← fields.withDefault "priority" 100 Document.priority? }

/-- A rule as JSON. -/
def Rule.toJson (r : Rule) : Json :=
  .object [
    ("id", .text r.id),
    ("name", .text r.name),
    ("description", .ofText? r.description),
    ("dslExpression", .text r.expression),
    ("enabled", .boolean r.enabled),
    ("priority", .integer r.priority)]

/-- Reads a verdict. -/
def Verdict.read? (convention : Convention) (d : Document) : Option Verdict := do
  let fields ← d.fields? convention
    ["ruleId", "ruleName", "priority", "enabled", "matched", "description"]
  return {
    ruleId := ← fields.required "ruleId" Document.text?
    ruleName := ← fields.required "ruleName" Document.text?
    priority := ← fields.required "priority" Document.priority?
    enabled := ← fields.required "enabled" Document.boolean?
    matched := ← fields.required "matched" Document.boolean?
    description := ← fields.required "description" Document.text? }

/-- A verdict as JSON. -/
def Verdict.toJson (v : Verdict) : Json :=
  .object [
    ("ruleId", .text v.ruleId),
    ("ruleName", .text v.ruleName),
    ("priority", .integer v.priority),
    ("enabled", .boolean v.enabled),
    ("matched", .boolean v.matched),
    ("description", .text v.description)]

/-- Reads a decision. -/
def Decision.read? (convention : Convention) (d : Document) : Option Decision := do
  let fields ← d.fields? convention ["isFraud", "status", "ruleResults"]
  return {
    isFraud := ← fields.required "isFraud" Document.boolean?
    status := ← fields.required "status" (Document.choice? convention Status.ofLabel?)
    verdicts := ← fields.required "ruleResults" (Document.listOf? (Verdict.read? convention)) }

/-- A decision as JSON. -/
def Decision.toJson (d : Decision) : Json :=
  .object [
    ("isFraud", .boolean d.isFraud),
    ("status", .text d.status.label),
    ("ruleResults", .array (d.verdicts.map Verdict.toJson))]

/-! ## Tokens -/

/-- A token as JSON. -/
def Token.toJson (t : Token) : Json :=
  .object [
    ("kind", .text t.kind.label),
    ("text", .text t.text),
    ("position", .ofNat t.position)]

end Screening
