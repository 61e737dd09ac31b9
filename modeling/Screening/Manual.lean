import Screening.Catalog

/-!
# The manual

The pages of the manual: an overview, and one page each on how conditions are written, on the
relations, on the fields and on the diagnostics. The page on fields is made from a catalog, so a
catalog of its own documents itself.
-/

namespace Screening.Manual

/-- The text of a page, line by line. -/
def page (lines : List String) : String := String.join (lines.map (· ++ "\n"))

/-- The list of pages. -/
def overview : String :=
  page [
    "REL DOCUMENTATION",
    "",
    "REL is the rule expression language used by fraud rules. An expression is a",
    "boolean condition over transaction and user attributes, for example:",
    "",
    "  amount > 10000 AND user.age < 21",
    "",
    "DOCUMENTATION CATEGORIES",
    "",
    "  syntax            Grammar, literals, keywords and precedence",
    "  operators         Comparison and logical operators",
    "  fields            Fields an expression may reference",
    "  errors            Diagnostic codes reported by validation",
    "",
    "Run 'rel docs <category>' for detailed documentation.",
    "Run 'rel fields' to list the fields of the active catalog."]

/-- How conditions are written. -/
def conditionPage : String :=
  page [
    "SYNTAX - Rule Expressions",
    "",
    "GRAMMAR",
    "  expr       := or_expr",
    "  or_expr    := and_expr ( OR and_expr )*",
    "  and_expr   := not_expr ( AND not_expr )*",
    "  not_expr   := NOT not_expr | primary",
    "  primary    := '(' expr ')' | comparison",
    "  comparison := field op literal",
    "",
    "FIELDS",
    "  Identifiers made of letters, digits, '_' and '.', such as amount,",
    "  location.country or user.age. Names starting with 'user.' read from the",
    "  user; every other name reads from the transaction.",
    "",
    "LITERALS",
    "  Numbers      10000, 0.5",
    "  Strings      'RU', 'it\\'s', 'C:\\\\temp'",
    "               Escape a quote as \\' and a backslash as \\\\",
    "",
    "KEYWORDS",
    "  AND, OR and NOT are case-insensitive and normalized to upper case.",
    "",
    "PRECEDENCE (loosest first)",
    "  OR",
    "  AND",
    "  NOT",
    "  comparison",
    "",
    "    amount > 100 OR currency = 'EUR' AND NOT user.age >= 18",
    "  parses as",
    "    amount > 100 OR (currency = 'EUR' AND NOT user.age >= 18)",
    "",
    "NOT SUPPORTED",
    "  Arithmetic (+ - * / %), signed literals and function calls are rejected",
    "  with DSL_UNSUPPORTED_TIER."]

/-- What relations and connectives mean. -/
def relationPage : String :=
  page [
    "OPERATORS",
    "",
    "COMPARISON",
    "  =     equal",
    "  !=    not equal",
    "  <     less than",
    "  >     greater than",
    "  <=    less than or equal",
    "  >=    greater than or equal",
    "",
    "  Numeric fields accept every comparison. Text fields accept only = and !=.",
    "",
    "    amount >= 5000",
    "    currency != 'USD'",
    "",
    "LOGICAL",
    "  AND   both sides match",
    "  OR    either side matches",
    "  NOT   negates the following expression",
    "",
    "EVALUATION",
    "  A comparison whose field is absent, or whose value cannot be read as the",
    "  field's kind, does not match. NOT of such a comparison does match."]

/-- What diagnostics say. -/
def errorPage : String :=
  page [
    "ERRORS",
    "",
    "Validation reports at most one diagnostic, with the character position it",
    "refers to and up to 20 characters of source from that position.",
    "",
    "  DSL_PARSE_ERROR         Grammar violation, length limits, bad literals",
    "  DSL_INVALID_FIELD       Unknown field, or a comparison not shaped",
    "                          field op literal",
    "  DSL_INVALID_OPERATOR    Ordering comparison on a text field",
    "  DSL_UNSUPPORTED_TIER    Arithmetic, signs or function calls",
    "",
    "Example:",
    "  $ rel validate \"amount > 100 AND\"",
    "  \x7b\"isValid\":false,\"normalizedExpression\":null,\"errors\":" ++
      "[\x7b\"code\":\"DSL_PARSE_ERROR\",...\x7d]\x7d"]

/-! ## Fields -/

/-- A text filled up with spaces on the right. -/
def padded (width : Nat) (s : String) : String :=
  s ++ String.ofList (List.replicate (width - s.length) ' ')

/-- The fields of a catalog, one on each line. -/
def fieldPage (catalog : Catalog) : String :=
  let width := (catalog.values.map (·.name.length)).foldl max 0
  let line := fun (field : Field) =>
    "  " ++ padded width field.name ++ "  " ++ padded 8 field.kind.label ++ "  " ++
      field.origin.label
  page ("FIELDS" :: "" :: catalog.values.map line)

/-! ## Topics -/

/-- What a page is about. -/
inductive Topic where
  | conditions
  | relations
  | fields
  | errors
  deriving DecidableEq

/-- The topic under one of its names, in whatever case it is written. -/
def Topic.ofName? (name : String) : Option Topic :=
  match String.ofList (name.toList.map Char.toLower) with
  | "syntax" | "grammar" => some .conditions
  | "operators" | "ops" => some .relations
  | "fields" | "field" => some .fields
  | "errors" | "error" | "codes" => some .errors
  | _ => none

/-- The page on a topic. -/
def Topic.page (catalog : Catalog) : Topic → String
  | .conditions => conditionPage
  | .relations => relationPage
  | .fields => fieldPage catalog
  | .errors => errorPage

end Screening.Manual
