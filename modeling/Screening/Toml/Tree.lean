import Screening.Document

/-!
# The tables of TOML

A TOML text builds a tree of tables line by line, and says of each table only once what is in it.
A `Node` therefore remembers how a table came about: it was named on the way to another table, by
the dots of a key, or by a header of its own. `openTable` and `openItem` say what a header does to
the tree, and `assign` what a key with a value does.
-/

namespace Screening.Toml

/-- How a table came about. -/
inductive TableKind where
  /-- On the way to a table that a header names. -/
  | passed
  /-- By the dots of a key. -/
  | dotted
  /-- By a header. -/
  | opened
  deriving DecidableEq

/-- What stands under a key. -/
inductive Node where
  /-- A value that nothing can be added to. -/
  | value (d : Document)
  | table (kind : TableKind) (members : List (String × Node))
  /-- The tables that headers in double brackets have opened, the last one first. -/
  | items (tables : List (List (String × Node)))

/-- Members of a table. -/
abbrev Members := List (String × Node)

/-- Puts a node under a key, in the place of one that stood there. -/
def Members.put (key : String) (node : Node) : Members → Members
  | [] => [(key, node)]
  | (key', node') :: rest =>
      if key' = key then (key, node) :: rest else (key', node') :: put key node rest

/-- Goes one key further into tables that headers have opened or passed, and changes what is there
with `change`. -/
def enter? (key : String) (change : Members → Option Members) (members : Members) :
    Option Members :=
  match members.lookup key with
  | none => (change []).map fun inner => members.put key (.table .passed inner)
  | some (.table kind inner) => (change inner).map fun inner => members.put key (.table kind inner)
  | some (.items (inner :: earlier)) =>
      (change inner).map fun inner => members.put key (.items (inner :: earlier))
  | some _ => none

/-- Changes the table at the end of a path. -/
def within? (change : Members → Option Members) : List String → Members → Option Members
  | [], members => change members
  | key :: path, members => enter? key (within? change path) members

/-- A header opens the table under a key; it may have been passed before, but not more. -/
def openTable (key : String) (members : Members) : Option Members :=
  match members.lookup key with
  | none => some (members.put key (.table .opened []))
  | some (.table .passed inner) => some (members.put key (.table .opened inner))
  | some _ => none

/-- A header in double brackets opens a further table under a key. -/
def openItem (key : String) (members : Members) : Option Members :=
  match members.lookup key with
  | none => some (members.put key (.items [[]]))
  | some (.items tables) => some (members.put key (.items ([] :: tables)))
  | some _ => none

/-- A key with a value adds a member. The dots of a key go through tables that dots have made or
headers have passed, and the last one must be of the first kind; `dotted` says whether the table
reached is one, and `path` whether a dot led to it. -/
def assign (dotted path : Bool) (value : Document) : List String → Members → Option Members
  | [], _ => none
  | [key], members =>
      if dotted == path && (members.lookup key).isNone then
        some (members.put key (.value value))
      else none
  | key :: rest, members =>
      match members.lookup key with
      | none =>
          (assign true true value rest []).map fun inner => members.put key (.table .dotted inner)
      | some (.table .opened _) => none
      | some (.table kind inner) =>
          (assign (kind == .dotted) true value rest inner).map fun inner =>
            members.put key (.table kind inner)
      | some (.items (inner :: earlier)) =>
          (assign false true value rest inner).map fun inner =>
            members.put key (.items (inner :: earlier))
      | some _ => none

mutual

/-- The document that a node stands for. -/
def Node.toDocument : Node → Document
  | .value d => d
  | .table _ members => .table (membersToDocument members)
  | .items tables => .list (tablesToDocuments tables).reverse

/-- The members of a table as members of a document. -/
def membersToDocument : List (String × Node) → List (Option String × Document)
  | [] => []
  | (key, node) :: rest => (some key, node.toDocument) :: membersToDocument rest

/-- Tables as documents. -/
def tablesToDocuments : List (List (String × Node)) → List Document
  | [] => []
  | members :: rest => .table (membersToDocument members) :: tablesToDocuments rest

end

end Screening.Toml
