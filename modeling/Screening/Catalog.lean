import Screening.Field
import Screening.Text.Classes

/-!
# Catalogs

A `Catalog` holds the fields that conditions may name, in the order of their names. Each of them has
a name and is read from the record that the name says, which a catalog carries with it.
`Catalog.declare` builds one from declarations. It takes the same declaration twice, and refuses
the first one that has no name, that is read from another record than its name says, or that
gives a field another kind than before.
-/

namespace Screening

/-- The fields that conditions may name, each of them under its name. -/
structure Catalog extends Directory Field where
  name_eq : ∀ entry ∈ toDirectory.entries, entry.2.name = entry.1
  /-- No name is blank. -/
  not_blank : ∀ entry ∈ toDirectory.entries, entry.1.toList.all Text.isBlank = false
  /-- A field is read from the record that its name says. -/
  origin_eq : ∀ entry ∈ toDirectory.entries, entry.2.origin = Origin.ofName entry.1
  deriving DecidableEq

/-- Why a list of declarations is no catalog. -/
inductive CatalogError where
  | emptyName
  /-- A field is declared for one record and its name says another. -/
  | originMismatch (name : String) (declared implied : Origin)
  /-- A field is declared with two kinds. -/
  | conflictingKind (name : String) (first second : FieldKind)
  deriving DecidableEq

/-- What is said about declarations that are no catalog. -/
def CatalogError.message : CatalogError → String
  | .emptyName => "field with an empty name"
  | .originMismatch name declared implied =>
      "field '" ++ name ++ "' is declared in the " ++ declared.label ++
        " namespace but its name implies " ++ implied.label
  | .conflictingKind name first second =>
      "field '" ++ name ++ "' is declared both " ++ first.label ++ " and " ++ second.label

namespace Catalog

/-- The catalog without fields. -/
def empty : Catalog where
  toDirectory := .empty
  name_eq := nofun
  not_blank := nofun
  origin_eq := nofun

/-- Keeps a field in the place of one with the same name. -/
def insert (catalog : Catalog) (field : Field)
    (hname : field.name.toList.all Text.isBlank = false)
    (horigin : field.origin = Origin.ofName field.name) : Catalog where
  toDirectory := catalog.toDirectory.insert field.name field
  name_eq := Directory.forall_mem_entries_insert rfl catalog.name_eq
  not_blank := Directory.forall_mem_entries_insert hname catalog.not_blank
  origin_eq := Directory.forall_mem_entries_insert horigin catalog.origin_eq

/-- Adds a declaration to a catalog. -/
def add (catalog : Catalog) (field : Field) : Except CatalogError Catalog :=
  if hname : field.name.toList.all Text.isBlank then .error .emptyName
  else if horigin : field.origin ≠ Origin.ofName field.name then
    .error (.originMismatch field.name field.origin (Origin.ofName field.name))
  else
    match catalog.find? field.name with
    | some existing =>
        if existing.kind = field.kind then .ok catalog
        else .error (.conflictingKind field.name existing.kind field.kind)
    | none =>
        .ok (catalog.insert field (eq_false_of_ne_true hname) (Decidable.not_not.1 horigin))

/-- The catalog of a list of declarations. -/
def declare (fields : List Field) : Except CatalogError Catalog :=
  fields.foldlM add empty

/-- The fields that are there when none are declared. -/
def standardFields : List Field := [
  .named "amount" .numeric,
  .named "currency" .text,
  .named "merchantId" .text,
  .named "merchantCategoryCode" .text,
  .named "ipAddress" .text,
  .named "deviceId" .text,
  .named "channel" .text,
  .named "location.country" .text,
  .named "location.city" .text,
  .named "location.latitude" .numeric,
  .named "location.longitude" .numeric,
  .named "user.age" .numeric,
  .named "user.region" .text]

/-- The catalog of the fields that are there when none are declared. -/
def standard : Catalog where
  toDirectory := .ofList (standardFields.map fun field => (field.name, field))
  name_eq := Directory.forall_mem_entries_ofList (by decide +kernel)
  not_blank := Directory.forall_mem_entries_ofList (by decide +kernel)
  origin_eq := Directory.forall_mem_entries_ofList (by decide +kernel)

end Catalog

end Screening
