import Screening.Document.Record
import Screening.Toml.Scalar
import Screening.Toml.Tree

/-!
# Reading TOML

The pieces of a TOML text are taken one by one by a machine that knows the tables built so far, the
table that the last header opened, the lists and inline tables that are open, and what may come
next (`Stage`). A text is a document if every piece fits and nothing is left open at its end.
-/

namespace Screening.Toml

/-- A part of a dotted key. -/
inductive KeyPart where
  | dot
  | key (s : String)

/-- What is open around the value that is being read. -/
inductive Frame where
  /-- A line that gives a key a value. -/
  | line (path : List String)
  /-- A list, with the items read so far, the last one first. -/
  | list (items : List Document)
  /-- An inline table, with the members read so far. -/
  | inline (members : Members)
  /-- A member of an inline table that gets a value. -/
  | member (members : Members) (path : List String)

/-- What may come next. -/
inductive Stage where
  /-- A header or a key with a value, or nothing: a line begins. -/
  | line
  /-- A second bracket, if it stands right behind the first one of a header. -/
  | header
  /-- The key of a header, or the bracket that closes it. -/
  | headerKey (double : Bool) (parts : List KeyPart)
  /-- The second of two closing brackets. -/
  | headerEnd (parts : List KeyPart)
  /-- A key, or the equals sign behind it. -/
  | key (parts : List KeyPart)
  | value
  /-- A value in a list, or the end of the list. -/
  | item
  /-- A key in an inline table, or the end of the table. -/
  | member
  /-- What may stand behind a value that is complete. -/
  | complete (d : Document)
  /-- The end of the line. -/
  | lineEnd

/-- How far a text has been read. -/
structure State where
  root : Members
  /-- The table that the last header opened. -/
  current : List String
  frames : List Frame
  stage : Stage

/-- How many lists and inline tables may be open together. -/
def maxNesting : Nat := 80

/-! ## Keys -/

/-- Whether a character may stand in a key that is not quoted. -/
def isKeyChar (c : Char) : Bool := c.isAlphanum || c == '_' || c == '-'

/-- The parts of a dotted key in a bare run; `part` holds the characters of the part that is being
read, the last one first. -/
def bareParts? (part : List Char) : List Char → Option (List KeyPart)
  | [] => some (if part.isEmpty then [] else [.key (String.ofList part.reverse)])
  | c :: cs =>
      if c = '.' then
        (bareParts? [] cs).map fun parts =>
          if part.isEmpty then .dot :: parts
          else .key (String.ofList part.reverse) :: .dot :: parts
      else if isKeyChar c then bareParts? (c :: part) cs
      else none

/-- The parts of a key that a piece adds. -/
def keyParts? : Lexeme → Option (List KeyPart)
  | .bare cs => bareParts? [] cs
  | .text s false => some [.key (String.ofList s)]
  | _ => none

/-- The keys of a dotted key: one or more, with a dot between any two. -/
def path? : List KeyPart → Option (List String)
  | [.key s] => some [s]
  | .key s :: .dot :: rest => (path? rest).map (s :: ·)
  | _ => none

/-! ## Lines -/

namespace State

/-- A header has been read. -/
def openHeader? (s : State) (double : Bool) (parts : List KeyPart) : Option State := do
  let path ← path? parts
  let key ← path.getLast?
  let change := if double then openItem key else openTable key
  let root ← within? change path.dropLast s.root
  return { s with root, current := path, stage := .lineEnd }

/-- A line that gives a key a value has been read. -/
def assignLine? (s : State) (path : List String) (value : Document) : Option State := do
  let root ← within? (assign false false value path) s.current s.root
  return { s with root, frames := [], stage := .line }

/-- How many lists and inline tables are open. -/
def nesting (s : State) : Nat :=
  (s.frames.filter fun frame =>
    match frame with
    | .line _ => false
    | _ => true).length

/-- A list or an inline table is opened. -/
def openFrame? (s : State) (frame : Frame) (stage : Stage) : Option State :=
  if s.nesting < maxNesting then some { s with frames := frame :: s.frames, stage } else none

/-- A value begins. -/
def beginValue? (s : State) : Lexeme → Option State
  | .bare cs => (scalar? cs).map fun d => { s with stage := .complete d }
  | .text cs _ => some { s with stage := .complete (.text (some (String.ofList cs))) }
  | .mark '[' => s.openFrame? (.list []) .item
  | .mark '\x7b' => s.openFrame? (.inline []) .member
  | _ => none

/-- An inline table ends. -/
def closeInline (s : State) (frames : List Frame) (members : Members) : State :=
  { s with frames, stage := .complete (.table (membersToDocument members)) }

/-- The equals sign behind a key has been read. -/
def giveValue? (s : State) (parts : List KeyPart) : Option State := do
  let path ← path? parts
  match s.frames with
  | .inline members :: frames =>
      return { s with frames := .member members path :: frames, stage := .value }
  | frames => return { s with frames := .line path :: frames, stage := .value }

/-- A piece comes behind a complete value. -/
def afterValue? (s : State) (d : Document) (piece : Lexeme) : Option State :=
  match s.frames, piece with
  | _, .blank => some s
  | [.line path], .newline => s.assignLine? path d
  | .line _ :: _, _ => none
  | _, .newline => some s
  | .list items :: frames, .mark ',' =>
      some { s with frames := .list (d :: items) :: frames, stage := .item }
  | .list items :: frames, .mark ']' =>
      some { s with frames, stage := .complete (.list (d :: items).reverse) }
  | .member members path :: frames, .mark ',' =>
      (assign false false d path members).map fun members =>
        { s with frames := .inline members :: frames, stage := .member }
  | .member members path :: frames, .mark '\x7d' =>
      (assign false false d path members).map fun members => s.closeInline frames members
  | _, _ => none

/-- Takes one piece. -/
def take (s : State) (piece : Lexeme) : Option State :=
  match s.stage, piece with
  | .complete d, piece => s.afterValue? d piece
  | .header, .mark '[' => some { s with stage := .headerKey true [] }
  | .header, .blank => some { s with stage := .headerKey false [] }
  | .header, piece => (keyParts? piece).map fun parts => { s with stage := .headerKey false parts }
  | .headerEnd parts, .mark ']' => s.openHeader? true parts
  | .headerEnd _, _ => none
  | _, .blank => some s
  | .line, .newline => some s
  | .line, .mark '[' => some { s with stage := .header }
  | .line, piece => (keyParts? piece).map fun parts => { s with stage := .key parts }
  | .headerKey false parts, .mark ']' => s.openHeader? false parts
  | .headerKey true parts, .mark ']' => some { s with stage := .headerEnd parts }
  | .headerKey double parts, piece =>
      (keyParts? piece).map fun more => { s with stage := .headerKey double (parts ++ more) }
  | .key parts, .mark '=' => s.giveValue? parts
  | .key parts, piece => (keyParts? piece).map fun more => { s with stage := .key (parts ++ more) }
  | .value, piece => s.beginValue? piece
  | .item, .newline => some s
  | .item, .mark ']' =>
      match s.frames with
      | .list items :: frames => some { s with frames, stage := .complete (.list items.reverse) }
      | _ => none
  | .item, piece => s.beginValue? piece
  | .member, .newline => some s
  | .member, .mark '\x7d' =>
      match s.frames with
      | .inline members :: frames => some (s.closeInline frames members)
      | _ => none
  | .member, piece => (keyParts? piece).map fun parts => { s with stage := .key parts }
  | .lineEnd, .newline => some { s with stage := .line }
  | .lineEnd, _ => none

end State

/-! ## The whole text -/

/-- Joins a date and a time between which one blank stands. -/
def joinMoments : List Lexeme → List Lexeme
  | .bare date :: .blank :: .bare time :: rest =>
      if afterDate? date == some [] && (afterMinutes? time).isSome then
        .bare (date ++ ' ' :: time) :: joinMoments rest
      else .bare date :: .blank :: joinMoments (.bare time :: rest)
  | piece :: rest => piece :: joinMoments rest
  | [] => []
termination_by pieces => pieces.length

/-- The document that a TOML text writes. -/
def document? (text : String) : Option Document := do
  let cs := match text.toList with
    | '\uFEFF' :: cs => cs
    | cs => cs
  let pieces := joinMoments (← lexemes cs) ++ [.newline]
  let s ← pieces.foldlM State.take ⟨[], [], [], .line⟩
  match s.stage with
  | .line => return .table (membersToDocument s.root)
  | _ => none

end Screening.Toml

/-- TOML as a format of records: a list may go on behind the last field of a record, and an empty
list or table stands beside the name of a choice. -/
def Screening.Convention.toml : Convention where
  surplus := true
  isBlank
    | .list [] | .table [] => true
    | _ => false
