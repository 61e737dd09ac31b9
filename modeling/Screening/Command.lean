import Screening.Application
import Screening.Manual
import Screening.Settings

/-!
# The command line

What the command line asks for, and what is answered. `Request.parse?` reads the arguments,
`Invocation.run` does what they ask for. Nothing here reads a file or prints: an `Inputs` value
says what the files and the standard input hold, and an `Outcome` what is printed and with which
exit code the program ends.
-/

namespace Screening.Command

/-! ## Requests -/

/-- What the program is asked to do. -/
inductive Task where
  | validate (source : String)
  | evaluate (source : String) (transaction user : Option String)
  | score (rules : String) (transaction user : Option String)
  | fields
  | tokens (source : String)
  | manual (topic : Option String)
  deriving DecidableEq

/-- A task, with the file that holds the settings and the form of the answer. -/
structure Invocation where
  settings : Option String
  pretty : Bool
  task : Task
  deriving DecidableEq

/-- What the arguments ask for. -/
inductive Request where
  | version
  | invocation (i : Invocation)
  deriving DecidableEq

/-- The arguments of one level of the command line. -/
structure Arguments where
  options : List (String × String)
  pretty : Bool
  positional : List String

/-- The arguments where none are given. -/
def Arguments.empty : Arguments := ⟨[], false, []⟩

/-- One argument, by its form. -/
inductive Argument where
  /-- The end of the options. -/
  | separator
  /-- A long option, with a value if one is attached. -/
  | long (name : String) (value : Option String)
  /-- Short flags. -/
  | short (flags : List Char)
  | plain (value : String)

/-- Splits the name of a long option from the value attached to it. -/
def splitValue (cs : List Char) : String × Option String :=
  let name := String.ofList (cs.takeWhile (· != '='))
  match cs.dropWhile (· != '=') with
  | [] => (name, none)
  | _ :: value => (name, some (String.ofList value))

/-- The form of an argument. A single dash is a value like any other. -/
def Argument.ofString (s : String) : Argument :=
  match s.toList with
  | ['-', '-'] => .separator
  | '-' :: '-' :: cs =>
      let (name, value) := splitValue cs
      .long name value
  | '-' :: c :: cs => .short (c :: cs)
  | _ => .plain s

/-- Options whose value is the path of a file, which is never empty. -/
def pathOptions : List String := ["catalog", "rules"]

/-- Adds the value of an option that has none yet. -/
def Arguments.addOption? (a : Arguments) (name value : String) : Option Arguments :=
  if (a.options.lookup name).isSome || (pathOptions.contains name && value.isEmpty) then none
  else some { a with options := (name, value) :: a.options }

/-- Sets the one flag there is, once. -/
def Arguments.addFlags? (a : Arguments) (flags : List Char) : Option Arguments :=
  if flags == ['p'] && !a.pretty then some { a with pretty := true } else none

/-- Reads the arguments of a task that takes the options `valued`, each with a value. -/
def Arguments.read? (valued : List String) (a : Arguments) : List String → Option Arguments
  | [] => some { a with positional := a.positional.reverse }
  | arg :: rest =>
      match Argument.ofString arg with
      | .separator => some { a with positional := a.positional.reverse ++ rest }
      | .plain value => read? valued { a with positional := value :: a.positional } rest
      | .short flags => (a.addFlags? flags).bind fun a => read? valued a rest
      | .long "pretty" none => (a.addFlags? ['p']).bind fun a => read? valued a rest
      | .long name value =>
          if !valued.contains name then none
          else
            match value, rest with
            | some value, rest => (a.addOption? name value).bind fun a => read? valued a rest
            | none, next :: rest =>
                match Argument.ofString next with
                | .plain value => (a.addOption? name value).bind fun a => read? valued a rest
                | _ => none
            | none, [] => none

/-- The task with this name and these arguments. -/
def Task.ofArguments? (name : String) (a : Arguments) : Option Task :=
  match name, a.positional with
  | "validate", [source] => some (.validate source)
  | "eval", [source] => some (.evaluate source (a.options.lookup "tx") (a.options.lookup "user"))
  | "score", [] =>
      (a.options.lookup "rules").map fun rules =>
        .score rules (a.options.lookup "tx") (a.options.lookup "user")
  | "fields", [] => some .fields
  | "tokens", [source] => some (.tokens source)
  | "docs", [] => some (.manual none)
  | "docs", [topic] => some (.manual (some topic))
  | _, _ => none

/-- The options that a task takes. -/
def valuedOptions : String → List String
  | "eval" => ["catalog", "tx", "user"]
  | "score" => ["catalog", "rules", "tx", "user"]
  | _ => ["catalog"]

/-- The request of a task, with the arguments in front of its name and behind it. -/
def Request.ofTask? (before : Arguments) (name : String) (args : List String) : Option Request := do
  let a ← Arguments.empty.read? (valuedOptions name) args
  let task ← Task.ofArguments? name a
  let settings := (a.options.lookup "catalog").or (before.options.lookup "catalog")
  return .invocation ⟨settings, a.pretty || before.pretty, task⟩

/-- Reads the arguments up to the name of a task, and that task. -/
def Request.read? (a : Arguments) : List String → Option Request
  | [] => none
  | arg :: rest =>
      match Argument.ofString arg with
      | .separator => none
      | .plain name => ofTask? a name rest
      | .short ('V' :: _) => some .version
      | .short ('p' :: 'V' :: _) => if a.pretty then none else some .version
      | .short flags => (a.addFlags? flags).bind fun a => read? a rest
      | .long "version" none => some .version
      | .long "pretty" none => (a.addFlags? ['p']).bind fun a => read? a rest
      | .long "catalog" (some value) => (a.addOption? "catalog" value).bind fun a => read? a rest
      | .long "catalog" none =>
          match rest with
          | next :: rest =>
              match Argument.ofString next with
              | .plain value => (a.addOption? "catalog" value).bind fun a => read? a rest
              | _ => none
          | [] => none
      | .long .. => none

/-- What a list of arguments asks for; nothing if they are not understood. -/
def Request.parse? (args : List String) : Option Request := Request.read? Arguments.empty args

/-! ## Answers -/

/-- What the files and the standard input hold, or why they cannot be read. -/
structure Inputs where
  file : String → Except String String
  standardInput : Except String String

/-- Why a task fails. -/
inductive Failure where
  | settingsFile (path reason : String)
  | settingsText
  | catalog (error : CatalogError)
  | refusal (r : Refusal)
  | file (reason : String)
  | unknownTopic (name : String)
  deriving DecidableEq

/-- What is said about a failure. -/
def Failure.message : Failure → String
  | .settingsFile path reason => "cannot read config " ++ path ++ ": " ++ reason
  | .settingsText => "invalid config: the text cannot be read"
  | .catalog error => "invalid field catalog: " ++ error.message
  | .refusal r => r.message
  | .file reason => "IO error: " ++ reason
  | .unknownTopic name =>
      "Unknown documentation category: " ++ name ++ ". Run 'rel docs' to list categories."

/-- What the program prints, and the exit code with which it ends. -/
structure Outcome where
  exitCode : Nat
  output : String
  errors : String
  deriving DecidableEq

/-- The page of the manual on a topic, or its overview. -/
def manualPage (catalog : Catalog) : Option String → Except Failure String
  | none => .ok Manual.overview
  | some name =>
      match Manual.Topic.ofName? name with
      | some topic => .ok (topic.page catalog)
      | none => .error (.unknownTopic name)

namespace Invocation

/-- The schema that the settings describe. -/
def schema (i : Invocation) (inputs : Inputs) : Except Failure Schema := do
  let settings ←
    match i.settings with
    | none => pure Settings.standard
    | some path =>
        let text ← (inputs.file path).mapError (Failure.settingsFile path)
        match Settings.ofToml? text with
        | some settings => pure settings
        | none => throw .settingsText
  settings.schema.mapError .catalog

/-- A JSON value as a line of its own. -/
def line (i : Invocation) (j : Json) : String :=
  (if i.pretty then j.pretty else j.compact) ++ "\n"

/-- The transaction that is given, or else the standard input. -/
def transaction (inputs : Inputs) : Option String → Except Failure String
  | some text => .ok text
  | none => inputs.standardInput.mapError .file

/-- The answer to a task, and whether it is a favourable one. -/
def answer (i : Invocation) (inputs : Inputs) : Except Failure (Bool × String) := do
  let schema ← i.schema inputs
  match i.task with
  | .validate source =>
      let report := Report.ofValidation (schema.validate source)
      return (report.isValid, i.line report.toJson)
  | .evaluate source tx user =>
      let tx ← transaction inputs tx
      let a ← (Application.evaluate schema source (some tx) user).mapError .refusal
      return (true, i.line a.toJson)
  | .score rules tx user =>
      let rules ← (inputs.file rules).mapError .file
      let tx ← transaction inputs tx
      let d ← (Application.score schema rules (some tx) user).mapError .refusal
      return (true, i.line d.toJson)
  | .fields => return (true, Manual.fieldPage schema.catalog)
  | .tokens source => return (true, i.line (.array ((tokens source).map Token.toJson)))
  | .manual topic => return (true, ← manualPage schema.catalog topic)

/-- What the program prints for an invocation, and how it ends. -/
def run (i : Invocation) (inputs : Inputs) : Outcome :=
  match i.answer inputs with
  | .ok (favourable, output) => ⟨if favourable then 0 else 1, output, ""⟩
  | .error failure => ⟨1, "", failure.message ++ "\n"⟩

end Invocation

/-- What is printed where the arguments are not understood. -/
def usage : String := "The arguments are not understood. Run 'rel docs' for the manual.\n"

/-- What the program prints for a list of arguments, and how it ends. -/
def run (args : List String) (inputs : Inputs) : Outcome :=
  match Request.parse? args with
  | some .version => ⟨0, "rel 0.1.0\n", ""⟩
  | some (.invocation i) => i.run inputs
  | none => ⟨2, "", usage⟩

end Screening.Command
