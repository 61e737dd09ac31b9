import Mathlib.Data.List.Induction
import Screening.Proofs.Catalog
import Screening.Proofs.Directory
import Screening.Proofs.Text.Classes
import Screening.Settings

/-!
# Which declarations make a catalog

`Catalog.Declarable` says which lists of declarations agree with one another, without a word about
an order, and `Field.Breaks` which rule a declaration breaks first behind others. A catalog finds
the first declaration of every name (`Catalog.Finds`), which one step keeps (`Catalog.Finds.add`,
`Catalog.Finds.add_eq_error_iff`) and so a whole list (`Catalog.declare_cases`).

Hence a list is taken exactly if it is declarable, what it is made into depends on its members
alone, and the error about any other list is about the first declaration that breaks a rule
(`Catalog.declare_characterized`). The fields of a catalog are declarable themselves, and they make
the catalog (`Catalog.declare_values`).
-/

namespace Screening

/-! ## Declarations -/

/-- The first of some declarations of a name. -/
def firstDeclared? (fields : List Field) (name : String) : Option Field :=
  fields.find? fun f => f.name = name

theorem firstDeclared?_concat (fields : List Field) (f : Field) (name : String) :
    firstDeclared? (fields ++ [f]) name =
      (firstDeclared? fields name).or (if name = f.name then some f else none) := by
  rw [firstDeclared?, List.find?_append, firstDeclared?]
  by_cases h : name = f.name
  · simp [h]
  · simp [h, Ne.symm h]

theorem mem_of_firstDeclared? {fields : List Field} {f : Field} {name : String}
    (h : firstDeclared? fields name = some f) : f ∈ fields ∧ f.name = name :=
  ⟨List.mem_of_find?_eq_some h, by simpa using List.find?_some h⟩

theorem exists_firstDeclared? {fields : List Field} {f : Field} (h : f ∈ fields) :
    ∃ first, firstDeclared? fields f.name = some first :=
  Option.isSome_iff_exists.1 (List.find?_isSome.2 ⟨f, h, by simp⟩)

/-- `f.Breaks earlier e` says that `e` is what is wrong with the declaration `f` behind the
declarations `earlier`: it has no name, or else it is read from another record than its name says,
or else it has another kind than the first declaration of the name. -/
inductive Field.Breaks (f : Field) (earlier : List Field) : CatalogError → Prop where
  | emptyName (hname : Text.trim f.name.toList = []) : f.Breaks earlier .emptyName
  | originMismatch (hname : Text.trim f.name.toList ≠ []) (horigin : f.origin ≠ .ofName f.name) :
      f.Breaks earlier (.originMismatch f.name f.origin (.ofName f.name))
  | conflictingKind {first : Field} (hname : Text.trim f.name.toList ≠ [])
      (horigin : f.origin = .ofName f.name) (hfirst : firstDeclared? earlier f.name = some first)
      (hkind : first.kind ≠ f.kind) :
      f.Breaks earlier (.conflictingKind f.name first.kind f.kind)

/-- Declarations agree: each has a name and is read from the record that the name says, and no name
has two kinds. -/
structure Catalog.Declarable (fields : List Field) : Prop where
  name_ne : ∀ f ∈ fields, Text.trim f.name.toList ≠ []
  origin_eq : ∀ f ∈ fields, f.origin = .ofName f.name
  kind_eq : ∀ f ∈ fields, ∀ g ∈ fields, f.name = g.name → f.kind = g.kind

/-- A declaration that breaks a rule does not agree with those in front of it. -/
theorem Field.Breaks.not_declarable {f : Field} {front : List Field} {e : CatalogError}
    (h : f.Breaks front e) (behind : List Field) :
    ¬ Catalog.Declarable (front ++ f :: behind) := by
  intro hall
  have hf : f ∈ front ++ f :: behind := List.mem_append_right _ (.head _)
  cases h with
  | emptyName hname => exact hall.name_ne f hf hname
  | originMismatch _ horigin => exact horigin (hall.origin_eq f hf)
  | conflictingKind _ _ hfirst hkind =>
    obtain ⟨hmem, hname⟩ := mem_of_firstDeclared? hfirst
    exact hkind (hall.kind_eq _ (List.mem_append_left _ hmem) f hf hname)

namespace Catalog

variable {catalog catalog' : Catalog} {fields others : List Field} {f g : Field} {e : CatalogError}

/-- Whether declarations agree does not depend on their order or on how often they are repeated. -/
theorem Declarable.mono (h : Declarable fields) (hsub : ∀ f ∈ others, f ∈ fields) :
    Declarable others where
  name_ne f hf := h.name_ne f (hsub f hf)
  origin_eq f hf := h.origin_eq f (hsub f hf)
  kind_eq f hf g hg := h.kind_eq f (hsub f hf) g (hsub g hg)

/-- Declarations that agree are the same if they have one name. -/
theorem Declarable.eq_of_name_eq (h : Declarable fields) (hf : f ∈ fields) (hg : g ∈ fields)
    (hname : f.name = g.name) : f = g := by
  have hkind := h.kind_eq f hf g hg hname
  have horigin : f.origin = g.origin := by rw [h.origin_eq f hf, h.origin_eq g hg, hname]
  obtain ⟨name, kind, origin⟩ := f
  cases hname
  cases hkind
  cases horigin
  rfl

/-- A declaration that breaks no rule behind others that agree, agrees with them. -/
theorem Declarable.concat (h : Declarable fields) (hf : ∀ e, ¬ f.Breaks fields e) :
    Declarable (fields ++ [f]) := by
  have hname : Text.trim f.name.toList ≠ [] := fun hname => hf _ (.emptyName hname)
  have horigin : f.origin = .ofName f.name :=
    Decidable.byContradiction fun horigin => hf _ (.originMismatch hname horigin)
  have hkind : ∀ g ∈ fields, g.name = f.name → g.kind = f.kind := by
    intro g hg heq
    obtain ⟨first, hfirst⟩ := exists_firstDeclared? hg
    obtain ⟨hmem, hfirstName⟩ := mem_of_firstDeclared? hfirst
    rw [← h.kind_eq first hmem g hg hfirstName]
    rw [heq] at hfirst
    exact Decidable.byContradiction fun hne => hf _ (.conflictingKind hname horigin hfirst hne)
  refine ⟨?_, ?_, ?_⟩
  · exact List.forall_mem_append.2 ⟨h.name_ne, List.forall_mem_singleton.2 hname⟩
  · exact List.forall_mem_append.2 ⟨h.origin_eq, List.forall_mem_singleton.2 horigin⟩
  · refine List.forall_mem_append.2 ⟨fun g hg => ?_, List.forall_mem_singleton.2 ?_⟩
    · exact List.forall_mem_append.2 ⟨h.kind_eq g hg, List.forall_mem_singleton.2 (hkind g hg)⟩
    · exact List.forall_mem_append.2 ⟨fun g hg heq => (hkind g hg heq.symm).symm,
        List.forall_mem_singleton.2 fun _ => rfl⟩

/-! ## One declaration -/

/-- A catalog finds the first declaration of every name. -/
def Finds (catalog : Catalog) (fields : List Field) : Prop :=
  ∀ name, catalog.find? name = firstDeclared? fields name

theorem finds_empty : Finds empty [] := fun _ => rfl

/-- A declaration is refused exactly if it breaks a rule. -/
theorem Finds.add_eq_error_iff (h : catalog.Finds fields) :
    catalog.add f = .error e ↔ f.Breaks fields e := by
  have hblank : f.name.toList.all Text.isBlank = true ↔ Text.trim f.name.toList = [] := by
    rw [Text.trim_eq_nil_iff, List.all_eq_true]
  rw [add, h f.name]
  constructor
  · intro hadd
    split at hadd
    · next hname =>
      cases hadd
      exact .emptyName (hblank.1 hname)
    next hname =>
    split at hadd
    · next horigin =>
      cases hadd
      exact .originMismatch (mt hblank.2 hname) horigin
    next horigin =>
    split at hadd
    · next hfirst =>
      split at hadd
      · cases hadd
      · next hkind =>
        cases hadd
        exact .conflictingKind (mt hblank.2 hname) (Decidable.not_not.1 horigin) hfirst hkind
    · cases hadd
  · intro hbreaks
    cases hbreaks with
    | emptyName hname => rw [dif_pos (hblank.2 hname)]
    | originMismatch hname horigin => rw [dif_neg (mt hblank.1 hname), dif_pos horigin]
    | conflictingKind hname horigin hfirst hkind =>
      rw [dif_neg (mt hblank.1 hname), dif_neg (not_not_intro horigin), hfirst]
      exact if_neg hkind

/-- A declaration that is taken is found where none of its name was. -/
theorem Finds.add (h : catalog.Finds fields) (hadd : catalog.add f = .ok catalog') :
    catalog'.Finds (fields ++ [f]) := by
  intro name
  rw [firstDeclared?_concat]
  obtain ⟨hfound, rfl⟩ | ⟨hfound, _, _, rfl⟩ := add_cases hadd
  · -- the name was declared before: the catalog stays, and the first declaration is still that one
    obtain ⟨first, hfirst⟩ := Option.isSome_iff_exists.1 hfound
    rw [← h name]
    by_cases hname : name = f.name
    · rw [hname, hfirst, Option.some_or]
    · rw [if_neg hname, Option.or_none]
  · rw [find?_insert, ← h name]
    by_cases hname : name = f.name
    · rw [if_pos hname, if_pos hname, hname, hfound, Option.none_or]
    · rw [if_neg hname, if_neg hname, Option.or_none]

/-! ## Lists of declarations -/

theorem declare_concat (fields : List Field) (f : Field) :
    declare (fields ++ [f]) = (declare fields).bind fun catalog => catalog.add f := by
  rw [declare, List.foldlM_append]
  simp only [List.foldlM_cons, List.foldlM_nil, bind_pure]
  rfl

/-- A list of declarations is taken and the first of every name is found, or its first declaration
that breaks a rule is refused. The induction takes declarations off the end: what a declaration
breaks depends on those in front of it. -/
theorem declare_cases (fields : List Field) :
    (Declarable fields ∧ ∃ catalog, declare fields = .ok catalog ∧ catalog.Finds fields) ∨
      ∃ front f behind e, fields = front ++ f :: behind ∧ Declarable front ∧ f.Breaks front e ∧
        declare fields = .error e := by
  induction fields using List.reverseRecOn with
  | nil => exact .inl ⟨⟨nofun, nofun, nofun⟩, _, rfl, finds_empty⟩
  | append_singleton fields f ih =>
    rw [declare_concat]
    rcases ih with ⟨hall, catalog, hdeclare, hfinds⟩ |
      ⟨front, g, behind, e, hfields, hall, hbreaks, hdeclare⟩
    · rw [hdeclare]
      cases hadd : catalog.add f with
      | ok catalog' =>
        refine .inl ⟨hall.concat fun e hbreaks => ?_, catalog', hadd, hfinds.add hadd⟩
        have hrefused := hfinds.add_eq_error_iff.2 hbreaks
        rw [hadd] at hrefused
        cases hrefused
      | error e =>
        exact .inr ⟨fields, f, [], e, rfl, hall, hfinds.add_eq_error_iff.1 hadd, hadd⟩
    · -- one was refused in front of `f`, and `f` is not looked at
      rw [hdeclare]
      refine .inr ⟨front, g, behind ++ [f], e, ?_, hall, hbreaks, rfl⟩
      rw [hfields, List.append_assoc, List.cons_append]

/-- Declarations that agree make a catalog. -/
theorem Declarable.exists_catalog (h : Declarable fields) :
    ∃ catalog, declare fields = .ok catalog ∧ catalog.Finds fields := by
  rcases declare_cases fields with ⟨-, hcatalog⟩ | ⟨front, f, behind, e, rfl, -, hbreaks, -⟩
  · exact hcatalog
  · exact absurd h (hbreaks.not_declarable behind)

/-- What is made into a catalog agrees, and the catalog finds the first declaration of every
name. -/
theorem finds_of_declare (h : declare fields = .ok catalog) :
    Declarable fields ∧ catalog.Finds fields := by
  rcases declare_cases fields with ⟨hall, _, hdeclare, hfinds⟩ | ⟨_, _, _, _, -, -, -, hdeclare⟩
  · rw [h] at hdeclare
    cases hdeclare
    exact ⟨hall, hfinds⟩
  · rw [h] at hdeclare
    cases hdeclare

/-- Behind a declaration that breaks a rule nothing is looked at. -/
theorem declare_of_breaks {front : List Field} (hall : Declarable front)
    (hbreaks : f.Breaks front e) (behind : List Field) :
    declare (front ++ f :: behind) = .error e := by
  induction behind using List.reverseRecOn with
  | nil =>
    obtain ⟨catalog, hdeclare, hfinds⟩ := hall.exists_catalog
    rw [declare_concat, hdeclare]
    exact hfinds.add_eq_error_iff.2 hbreaks
  | append_singleton behind g ih =>
    rw [← List.cons_append, ← List.append_assoc, declare_concat, ih]
    rfl

/-- The error about declarations is about the first of them that breaks a rule. -/
theorem declare_eq_error_iff :
    declare fields = .error e ↔
      ∃ front f behind, fields = front ++ f :: behind ∧ Declarable front ∧ f.Breaks front e := by
  constructor
  · intro h
    rcases declare_cases fields with ⟨-, _, hdeclare, -⟩ |
      ⟨front, f, behind, e', hfields, hall, hbreaks, hdeclare⟩
    · rw [h] at hdeclare
      cases hdeclare
    · rw [h] at hdeclare
      cases hdeclare
      exact ⟨front, f, behind, hfields, hall, hbreaks⟩
  · rintro ⟨front, f, behind, rfl, hall, hbreaks⟩
    exact declare_of_breaks hall hbreaks behind

/-! ## What a catalog lists -/

/-- `catalog.Lists fields` says that the catalog lists the declared fields, each of them once and in
the order of their names, and that asking for a name is looking through the list. -/
structure Lists (catalog : Catalog) (fields : List Field) : Prop where
  ascending : (catalog.values.map Field.name).Pairwise (· < ·)
  mem_iff : ∀ f, f ∈ catalog.values ↔ f ∈ fields
  find?_eq : ∀ name, catalog.find? name = catalog.values.find? fun f => f.name = name
  contains_eq : ∀ name, catalog.contains name = catalog.values.any fun f => f.name = name

/-- Of declarations that agree the first of a name is the only one. -/
theorem Declarable.firstDeclared?_eq_some_iff (h : Declarable fields) {name : String} :
    firstDeclared? fields name = some f ↔ f ∈ fields ∧ f.name = name := by
  refine ⟨mem_of_firstDeclared?, ?_⟩
  rintro ⟨hf, rfl⟩
  obtain ⟨first, hfirst⟩ := exists_firstDeclared? hf
  obtain ⟨hmem, hname⟩ := mem_of_firstDeclared? hfirst
  rw [hfirst, h.eq_of_name_eq hmem hf hname]

/-- What a catalog finds is found in every other list of the same declarations. -/
theorem Finds.congr (h : catalog.Finds fields) (hall : Declarable fields)
    (hmem : ∀ f, f ∈ others ↔ f ∈ fields) : catalog.Finds others := by
  have hothers : Declarable others := hall.mono fun f => (hmem f).1
  intro name
  refine Option.ext fun f => ?_
  rw [h name, hall.firstDeclared?_eq_some_iff, hothers.firstDeclared?_eq_some_iff, hmem]

/-- Another list of the same declarations makes the same catalog. -/
theorem declare_congr (h : declare fields = .ok catalog) (hmem : ∀ f, f ∈ others ↔ f ∈ fields) :
    declare others = .ok catalog := by
  obtain ⟨hall, hfinds⟩ := finds_of_declare h
  have hothers : Declarable others := hall.mono fun f => (hmem f).1
  obtain ⟨catalog', hdeclare, hfinds'⟩ := hothers.exists_catalog
  have hsame : catalog' = catalog := eq_of_find?_eq fun name =>
    (hfinds' name).trans (hfinds.congr hall hmem name).symm
  rw [hdeclare, hsame]

/-- What a catalog finds under a name is its field of that name. -/
theorem find?_eq_some_iff {name : String} :
    catalog.find? name = some f ↔ f ∈ catalog.values ∧ f.name = name := by
  rw [Directory.mem_values_iff]
  constructor
  · intro hfind
    exact ⟨⟨name, hfind⟩, catalog.name_eq _ (Directory.mem_entries_iff.2 hfind)⟩
  · rintro ⟨⟨other, hfind⟩, rfl⟩
    have hname : f.name = other := catalog.name_eq _ (Directory.mem_entries_iff.2 hfind)
    exact hname ▸ hfind

/-- The fields of a catalog agree with one another. -/
theorem declarable_values (catalog : Catalog) : Declarable catalog.values := by
  have hnamed : ∀ f ∈ catalog.values, (f.name, f) ∈ catalog.entries := fun f hf =>
    Directory.mem_entries_iff.2 (find?_eq_some_iff.2 ⟨hf, rfl⟩)
  refine ⟨fun f hf hblank => ?_, fun f hf => catalog.origin_eq _ (hnamed f hf),
    fun f hf g hg hname => ?_⟩
  · have hall : f.name.toList.all Text.isBlank = true :=
      List.all_eq_true.2 (Text.trim_eq_nil_iff.1 hblank)
    rw [catalog.not_blank _ (hnamed f hf)] at hall
    cases hall
  · have hfind := find?_eq_some_iff.2 ⟨hf, hname⟩
    rw [find?_eq_some_iff.2 ⟨hg, rfl⟩] at hfind
    cases hfind
    rfl

theorem finds_values (catalog : Catalog) : catalog.Finds catalog.values := fun _ =>
  Option.ext fun _ => find?_eq_some_iff.trans
    catalog.declarable_values.firstDeclared?_eq_some_iff.symm

/-- Every catalog is made of its own fields. -/
theorem declare_values (catalog : Catalog) : declare catalog.values = .ok catalog := by
  obtain ⟨catalog', hdeclare, hfinds⟩ := catalog.declarable_values.exists_catalog
  rw [hdeclare, eq_of_find?_eq fun name => (hfinds name).trans (catalog.finds_values name).symm]

/-- A catalog lists what it has been made of. -/
theorem lists_of_declare (h : declare fields = .ok catalog) : catalog.Lists fields := by
  obtain ⟨hall, hfinds⟩ := finds_of_declare h
  refine ⟨?_, fun f => ?_, catalog.finds_values, fun name => ?_⟩
  · -- the directory keeps its names in order, and each field stands under its own
    rw [Directory.values, List.map_map, List.pairwise_map]
    refine catalog.ascending.imp_of_mem fun {a b} ha hb hlt => ?_
    rwa [Function.comp, Function.comp, catalog.name_eq a ha, catalog.name_eq b hb]
  · calc
      f ∈ catalog.values ↔ catalog.find? f.name = some f := by
        rw [find?_eq_some_iff, and_iff_left rfl]
      _ ↔ firstDeclared? fields f.name = some f := by rw [hfinds f.name]
      _ ↔ f ∈ fields := by rw [hall.firstDeclared?_eq_some_iff, and_iff_left rfl]
  · rw [Directory.contains, catalog.finds_values name, Bool.eq_iff_iff, firstDeclared?,
      List.find?_isSome, List.any_eq_true]

end Catalog

/-! ## Declarations in settings -/

/-- A declaration leaves out the record that its field is read from: the member is missing or
null. -/
def Document.OmitsOrigin (convention : Convention) (d : Document) : Prop :=
  ∀ fields, d.fields? convention ["name", "kind", "namespace"] = some fields →
    fields.lookup "namespace" = none ∨ fields.lookup "namespace" = some .null

/-- Every declaration in settings leaves out the record that its field is read from. -/
def Document.OmitsOrigins (convention : Convention) (d : Document) : Prop :=
  ∀ fields items, d.fields? convention ["limits", "field"] = some fields →
    fields.lookup "field" = some (.list items) → ∀ item ∈ items, item.OmitsOrigin convention

/-- What is not said about the record that a field is read from, its name says. -/
theorem Field.origin_of_readDeclared? {convention : Convention} {d : Document} {f : Field}
    (h : Field.readDeclared? convention d = some f) (homits : d.OmitsOrigin convention) :
    f.origin = .ofName f.name := by
  simp only [readDeclared?, bind, Option.bind_eq_some_iff] at h
  obtain ⟨fields, hfields, name, -, kind, -, origin, horigin, hf⟩ := h
  cases hf
  have hnone : origin = none := by
    rcases homits fields hfields with hlookup | hlookup <;>
      · rw [Document.Fields.optional, hlookup] at horigin
        exact (Option.some.inj horigin).symm
  rw [hnone, Option.getD_none]

/-- A list is read item by item. -/
theorem Document.exists_item_of_mapM {α : Type} {read : Document → Option α}
    {items : List Document} {values : List α} (h : items.mapM read = some values) :
    ∀ v ∈ values, ∃ item ∈ items, read item = some v := by
  induction items generalizing values with
  | nil =>
    cases h
    exact nofun
  | cons item items ih =>
    simp only [List.mapM_cons, bind, Option.bind_eq_some_iff] at h
    obtain ⟨v, hv, rest, hrest, heq⟩ := h
    cases heq
    refine List.forall_mem_cons.2 ⟨⟨item, .head _, hv⟩, fun w hw => ?_⟩
    obtain ⟨other, hother, hread⟩ := ih hrest w hw
    exact ⟨other, .tail _ hother, hread⟩

/-- Where no declaration says which record its field is read from, all of them say what their names
say. -/
theorem Settings.origin_of_read? {convention : Convention} {d : Document} {s : Settings}
    (h : Settings.read? convention d = some s) (homits : d.OmitsOrigins convention) :
    ∀ f ∈ s.declared, f.origin = .ofName f.name := by
  simp only [Settings.read?, bind, Option.bind_eq_some_iff] at h
  obtain ⟨fields, hfields, limits, -, declared, hdeclared, hs⟩ := h
  cases hs
  rw [Document.Fields.withDefault] at hdeclared
  split at hdeclared
  · next item hitem =>
    cases item with
    | list items =>
      intro f hf
      obtain ⟨item, hmem, hread⟩ := Document.exists_item_of_mapM hdeclared f hf
      exact Field.origin_of_readDeclared? hread (homits fields items hfields hitem item hmem)
    | null | boolean | integer | float | text | table => cases hdeclared
  · cases hdeclared
    exact nofun

/-- Where no declaration says which record its field is read from, none is refused for that. -/
theorem Settings.catalog_ne_originMismatch {convention : Convention} {d : Document} {s : Settings}
    (h : Settings.read? convention d = some s) (homits : d.OmitsOrigins convention)
    (name : String) (declared implied : Origin) :
    s.catalog ≠ .error (.originMismatch name declared implied) := by
  intro hcatalog
  rw [Settings.catalog] at hcatalog
  split at hcatalog
  · cases hcatalog
  · obtain ⟨front, f, behind, hfields, -, hbreaks⟩ := Catalog.declare_eq_error_iff.1 hcatalog
    cases hbreaks with
    | originMismatch _ horigin =>
      refine horigin (Settings.origin_of_read? h homits f ?_)
      rw [hfields]
      exact List.mem_append_right _ (.head _)

namespace Catalog

/-- **Exactly the consistent declarations make a catalog, and it forgets their order.** A list of
declarations is taken exactly if they agree. The catalog then lists each declared field once, in the
order of the names, and every other list of the same declarations makes it, that of its own fields
too. Otherwise the error is about the first declaration that breaks a rule behind those in front of
it. Declarations in settings that leave out the record that a field is read from are never refused
because of that record. -/
theorem declare_characterized (fields : List Field) :
    ((∃ catalog, declare fields = .ok catalog) ↔ Declarable fields) ∧
      (∀ catalog, declare fields = .ok catalog →
        catalog.Lists fields ∧
        (∀ others, (∀ f, f ∈ others ↔ f ∈ fields) → declare others = .ok catalog) ∧
        declare catalog.values = .ok catalog) ∧
      (∀ e, declare fields = .error e ↔
        ∃ front f behind, fields = front ++ f :: behind ∧ Declarable front ∧ f.Breaks front e) ∧
      ∀ (convention : Convention) (d : Document) (s : Settings),
        Settings.read? convention d = some s → d.OmitsOrigins convention →
          ∀ name declared implied, s.catalog ≠ .error (.originMismatch name declared implied) := by
  refine ⟨⟨?_, ?_⟩, fun catalog h => ?_, fun _ => declare_eq_error_iff,
    fun _ _ _ => Settings.catalog_ne_originMismatch⟩
  · rintro ⟨catalog, h⟩
    exact (finds_of_declare h).1
  · intro hall
    obtain ⟨catalog, h, -⟩ := hall.exists_catalog
    exact ⟨catalog, h⟩
  · exact ⟨lists_of_declare h, fun _ => declare_congr h, catalog.declare_values⟩

/-- Fields in another order, one of them twice; a field that is given another kind in front of one
without a name; and settings with one declaration. -/
theorem declare_characterized_shuffled :
    let amount := Field.named "amount" .numeric
    let region := Field.named "user.region" .text
    let d := Document.table [("field", .list [.table [("name", .text "user.region"),
      ("kind", .text "text")]])]
    (∃ catalog, declare [region, amount, region] = .ok catalog ∧
      catalog.Lists [region, amount, region] ∧ declare [amount, region] = .ok catalog ∧
      declare catalog.values = .ok catalog) ∧
    declare [region, amount, .named "user.region" .numeric, .named " " .text] =
      .error (.conflictingKind "user.region" .text .numeric) ∧
    ∃ s, Settings.read? .toml d = some s ∧ s.declared = [region] ∧
      ∀ name declared implied, s.catalog ≠ .error (.originMismatch name declared implied) := by
  intro amount region d
  have hall : Declarable [region, amount, region] :=
    ⟨by decide +kernel, by decide +kernel, by decide +kernel⟩
  obtain ⟨hok, hlists, -, hsettings⟩ := declare_characterized [region, amount, region]
  obtain ⟨-, -, herror, -⟩ :=
    declare_characterized [region, amount, .named "user.region" .numeric, .named " " .text]
  refine ⟨?_, (herror _).2 ⟨[region, amount], _, _, rfl, hall.mono ?_, ?_⟩, ?_⟩
  · obtain ⟨catalog, h⟩ := hok.2 hall
    obtain ⟨hlist, hothers, hvalues⟩ := hlists catalog h
    refine ⟨catalog, h, hlist, hothers _ fun f => ?_, hvalues⟩
    simp only [List.mem_cons, List.not_mem_nil, or_false]
    tauto
  · exact fun f hf => List.mem_append_left [region] hf
  · refine @Field.Breaks.conflictingKind (.named "user.region" .numeric) _ region ?_ rfl ?_ ?_
    · decide +kernel
    · decide +kernel
    · decide
  · refine ⟨⟨Limits.standard, [region]⟩, by decide +kernel, rfl, hsettings .toml d _ ?_ ?_⟩
    · decide +kernel
    · rintro fields items hfields hitems item hitem
      cases hfields
      cases hitems
      obtain rfl := List.mem_singleton.1 hitem
      rintro fields hfields
      cases hfields
      exact .inl rfl

end Catalog

end Screening
