import Screening.Json.Reader
import Screening.Record
import Screening.Toml.Reader

/-!
# Settings

`Settings` say which fields conditions may name and how long they may be. They are written in TOML
or as a JSON value of the same form:

```toml
[limits]
min_length = 3
max_length = 2000

[[field]]
name = "amount"
kind = "numeric"
```

Everything may be left out. Where no field is declared the standard ones are taken, and where a
declaration leaves out the record that a field is read from, the name says it.
-/

namespace Screening

/-- Which fields conditions may name and how long they may be. -/
structure Settings where
  limits : Limits
  /-- The fields that are declared, in the order in which they are. -/
  declared : List Field
  deriving DecidableEq

namespace Settings

/-- The settings where nothing is set. -/
def standard : Settings := ⟨Limits.standard, []⟩

/-- Reads settings. -/
def read? (convention : Convention) (d : Document) : Option Settings := do
  let fields ← d.fields? convention ["limits", "field"]
  return {
    limits := ← fields.withDefault "limits" Limits.standard (Limits.read? convention)
    declared := ← fields.withDefault "field" []
      (Document.listOf? (Field.readDeclared? convention)) }

/-- The settings that a TOML text writes. -/
def ofToml? (text : String) : Option Settings := (Toml.document? text).bind (read? .toml)

/-- The catalog of the declared fields, or of the standard ones if none is declared. -/
def catalog (s : Settings) : Except CatalogError Catalog :=
  if s.declared.isEmpty then .ok Catalog.standard else Catalog.declare s.declared

/-- The schema that the settings describe. -/
def schema (s : Settings) : Except CatalogError Schema :=
  s.catalog.map fun catalog => ⟨catalog, s.limits⟩

/-- What is told when the schema is built. -/
def schemaEvents (s : Settings) : List Event :=
  match s.catalog with
  | .ok catalog => [.engineReady catalog.size]
  | .error e => [.catalogRejected e]

end Settings

end Screening
