import Screening.Catalog
import Screening.Proofs.Directory

/-!
# What a catalog holds

What a catalog finds under a name is the field of that name, read from the record that the name says
(`Catalog.eq_named`). What adding a declaration can do is `Catalog.add_cases`.
-/

namespace Screening.Catalog

variable {catalog catalog' : Catalog} {name : String} {field : Field}

/-- A field of a catalog is known by its name and its kind. -/
theorem eq_named (h : catalog.find? name = some field) : field = .named name field.kind := by
  have hmem := Directory.mem_entries_iff.2 h
  have hname : field.name = name := catalog.name_eq _ hmem
  have horigin : field.origin = Origin.ofName name := catalog.origin_eq _ hmem
  rw [Field.named, ← hname, ← horigin.trans (congrArg _ hname.symm)]

/-- A catalog is known by what is found in it. -/
theorem eq_of_find?_eq (h : ∀ name, catalog.find? name = catalog'.find? name) :
    catalog = catalog' := by
  have hsame := Directory.eq_of_find?_eq h
  obtain ⟨_, _, _, _⟩ := catalog
  obtain ⟨_, _, _, _⟩ := catalog'
  cases hsame
  rfl

/-- After a field has been inserted, it is found under its name. -/
@[simp] theorem find?_insert (hname : field.name.toList.all Text.isBlank = false)
    (horigin : field.origin = Origin.ofName field.name) (other : String) :
    (catalog.insert field hname horigin).find? other =
      if other = field.name then some field else catalog.find? other :=
  Directory.find?_insert catalog.toDirectory field.name other field

/-- The catalog stays as it is if it has a declared field, and else gets it. -/
theorem add_cases (h : catalog.add field = .ok catalog') :
    (catalog.find? field.name).isSome ∧ catalog' = catalog ∨
      catalog.find? field.name = none ∧
        ∃ hname horigin, catalog' = catalog.insert field hname horigin := by
  unfold add at h
  split at h
  · cases h
  split at h
  · cases h
  split at h
  · next existing hfind =>
    split at h
    · cases h
      exact .inl ⟨Option.isSome_iff_exists.2 ⟨existing, hfind⟩, rfl⟩
    · cases h
  · next hfind =>
    cases h
    exact .inr ⟨hfind, _, _, rfl⟩

end Screening.Catalog
