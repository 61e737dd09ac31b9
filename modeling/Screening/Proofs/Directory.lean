import Mathlib.Data.List.Induction
import Screening.Directory

/-!
# What a directory holds

A directory is known by what is found in it: a name and a value stand among its entries exactly if
the value is found under the name (`mem_entries_iff`), so its values are those that are found
(`mem_values_iff`), and its size is the number of names under which one is found
(`exists_names`). Two directories in which the same is found are the same (`eq_of_find?_eq`).

A list in the order of its names is the list of the entries of its directory (`entries_ofList`,
`ofList_entries`), and what a function makes of the values of a directory is found under the same
names (`entries_map`).
-/

namespace Screening

/-! ## Lists -/

section

variable {α : Type} {f : α → α}

/-- A function changes nothing in a list exactly if it keeps every item. -/
theorem map_eq_self_iff {l : List α} : l.map f = l ↔ ∀ a ∈ l, f a = a := by
  have hmap := List.map_inj_left (f := f) (g := id) (l := l)
  rwa [List.map_id] at hmap

/-- A function of the values changes nothing in a list of named values exactly if it keeps every
value. -/
theorem map_snd_eq_self_iff {members : List (String × α)} :
    members.map (fun member => (member.1, f member.2)) = members ↔
      ∀ member ∈ members, f member.2 = member.2 := by
  rw [map_eq_self_iff]
  refine forall₂_congr fun member _ => ?_
  rw [Prod.ext_iff]
  exact and_iff_right rfl

end

/-! ## Columns -/

namespace Column

variable {α β : Type} {names : List String}

theorem eq_of_entries_eq {c c' : Column α names} (h : c.entries = c'.entries) : c = c' := by
  induction c with
  | nil =>
    cases c'
    rfl
  | cons value rest ih =>
    cases c' with
    | cons value' rest' =>
      obtain ⟨hentry, hrest⟩ := List.cons.inj h
      cases hentry
      rw [ih hrest]

/-- What a function makes of the values of a column. -/
def map (f : α → β) : {names : List String} → Column α names → Column β names
  | _, .nil => .nil
  | _, .cons value rest => .cons (f value) (rest.map f)

@[simp] theorem entries_map (f : α → β) (c : Column α names) :
    (c.map f).entries = c.entries.map fun entry => (entry.1, f entry.2) := by
  induction c with
  | nil => rfl
  | cons _ _ ih => exact congrArg (_ :: ·) ih

end Column

namespace Directory

variable {α β : Type} {d : Directory α} {name : String} {value : α}

/-! ## What is found -/

/-- In an ordered list nothing is found under a name but what stands there. -/
theorem lookup_eq_some_iff {entries : List (String × α)}
    (h : entries.Pairwise fun a b => a.1 < b.1) :
    entries.lookup name = some value ↔ (name, value) ∈ entries := by
  induction entries with
  | nil => exact ⟨nofun, nofun⟩
  | cons entry rest ih =>
    obtain ⟨name', value'⟩ := entry
    rw [lookup_cons, List.mem_cons, ← ih h.of_cons]
    constructor
    · intro hfound
      split at hfound
      · next hname => cases hname; cases hfound; exact .inl rfl
      · exact .inr hfound
    · rintro (heq | hfound)
      · cases heq
        rw [if_pos rfl]
      · have hlt := List.rel_of_pairwise_cons h ((ih h.of_cons).1 hfound)
        rw [if_neg fun hname => String.lt_irrefl _ (hname ▸ hlt), hfound]

theorem mem_entries_iff : (name, value) ∈ d.entries ↔ d.find? name = some value :=
  (lookup_eq_some_iff d.ascending).symm

theorem mem_values_iff : value ∈ d.values ↔ ∃ name, d.find? name = some value := by
  rw [values, List.mem_map]
  constructor
  · rintro ⟨⟨name, v⟩, hmem, rfl⟩
    exact ⟨name, mem_entries_iff.1 hmem⟩
  · rintro ⟨name, hfound⟩
    exact ⟨(name, value), mem_entries_iff.2 hfound, rfl⟩

/-- No entry stands twice in a directory. -/
theorem nodup_entries (d : Directory α) : d.entries.Nodup := by
  refine d.ascending.imp ?_
  rintro a _ hlt rfl
  exact String.lt_irrefl _ hlt

/-- A directory is known by its entries. -/
theorem eq_of_entries_eq {d d' : Directory α} (h : d.entries = d'.entries) : d = d' := by
  have hnames : d.names = d'.names := by
    rw [← d.column.map_fst_entries, ← d'.column.map_fst_entries]
    exact congrArg _ h
  obtain ⟨names, _, column⟩ := d
  obtain ⟨names', _, column'⟩ := d'
  cases hnames
  cases Column.eq_of_entries_eq h
  rfl

/-- A directory is known by what is found in it. -/
theorem eq_of_find?_eq {d d' : Directory α} (h : ∀ name, d.find? name = d'.find? name) :
    d = d' := by
  have hmem : ∀ entry, entry ∈ d.entries ↔ entry ∈ d'.entries := by
    rintro ⟨name, value⟩
    rw [mem_entries_iff, mem_entries_iff, h]
  have hperm : d.entries.Perm d'.entries :=
    (List.perm_ext_iff_of_nodup d.nodup_entries d'.nodup_entries).2 hmem
  exact eq_of_entries_eq (hperm.eq_of_pairwise
    (fun _ _ _ _ hab hba => absurd hba (String.lt_asymm hab)) d.ascending d'.ascending)

/-- The names under which something is found are as many as the directory is large. -/
theorem exists_names (d : Directory α) : ∃ names : List String, names.Nodup ∧
    (∀ name, name ∈ names ↔ (d.find? name).isSome) ∧ names.length = d.size := by
  refine ⟨d.entries.map Prod.fst, ?_, fun name => ?_, List.length_map _⟩
  · refine List.pairwise_map.2 (d.ascending.imp fun {a b} hlt heq => ?_)
    rw [heq] at hlt
    exact String.lt_irrefl _ hlt
  · rw [List.mem_map, Option.isSome_iff_exists]
    constructor
    · rintro ⟨⟨_, v⟩, hmem, rfl⟩
      exact ⟨v, mem_entries_iff.1 hmem⟩
    · rintro ⟨v, hfound⟩
      exact ⟨(name, v), mem_entries_iff.2 hfound, rfl⟩

/-! ## Directories of lists -/

/-- Where no name is given twice, what is found under a name is what is given under it. -/
theorem find?_ofList {entries : List (String × α)} (h : (entries.map Prod.fst).Nodup)
    (name : String) : (ofList entries).find? name = entries.lookup name := by
  have hfold : ∀ d : Directory α,
      (entries.foldl (fun d entry => d.insert entry.1 entry.2) d).find? name =
        (entries.lookup name).or (d.find? name) := by
    induction entries with
    | nil => exact fun _ => rfl
    | cons entry rest ih =>
      obtain ⟨hentry, hrest⟩ := List.nodup_cons.1 h
      intro d
      rw [List.foldl_cons, ih hrest, find?_insert, lookup_cons]
      by_cases hname : name = entry.1
      · have hnone : rest.lookup name = none :=
          List.lookup_eq_none_iff.2 fun other hother => by
            rw [hname]
            exact bne_iff_ne.2 fun heq => hentry (heq ▸ List.mem_map_of_mem hother)
        rw [if_pos hname, if_pos hname, hnone, Option.none_or, Option.some_or]
      · rw [if_neg hname, if_neg hname]
  rw [ofList, hfold, find?_empty, Option.or_none]

/-- The last entry of a list is kept last. -/
theorem ofList_append_singleton (entries : List (String × α)) (entry : String × α) :
    ofList (entries ++ [entry]) = (ofList entries).insert entry.1 entry.2 := by
  rw [ofList, List.foldl_append]
  rfl

/-- A name behind all others is kept behind them. -/
theorem insertEntry_append {entries : List (String × α)} (h : ∀ entry ∈ entries, entry.1 < name)
    (value : α) : insertEntry name value entries = entries ++ [(name, value)] := by
  induction entries with
  | nil => rfl
  | cons entry rest ih =>
    obtain ⟨hentry, hrest⟩ := List.forall_mem_cons.1 h
    rw [insertEntry, if_neg (String.lt_asymm hentry),
      if_neg fun heq => String.lt_irrefl _ (heq ▸ hentry), ih hrest]
    rfl

/-- Entries in the order of their names are kept as they stand. -/
theorem entries_ofList {entries : List (String × α)} (h : entries.Pairwise fun a b => a.1 < b.1) :
    (ofList entries).entries = entries := by
  induction entries using List.reverseRecOn with
  | nil => rfl
  | append_singleton entries entry ih =>
    obtain ⟨hentries, -, hbefore⟩ := List.pairwise_append.1 h
    rw [ofList_append_singleton, entries_insert, ih hentries]
    exact insertEntry_append (fun other hother => hbefore other hother entry (.head _)) entry.2

/-- The entries of a directory make the directory. -/
theorem ofList_entries (d : Directory α) : ofList d.entries = d :=
  eq_of_entries_eq (entries_ofList d.ascending)

/-! ## Changing every value -/

/-- What a function makes of the values of a directory, under the same names. -/
def map (f : α → β) (d : Directory α) : Directory β := ⟨d.names, d.ordered, d.column.map f⟩

@[simp] theorem entries_map (f : α → β) (d : Directory α) :
    (d.map f).entries = d.entries.map fun entry => (entry.1, f entry.2) :=
  d.column.entries_map f

@[simp] theorem find?_map (f : α → β) (d : Directory α) (name : String) :
    (d.map f).find? name = (d.find? name).map f := by
  rw [find?, entries_map, find?]
  induction d.entries with
  | nil => rfl
  | cons entry rest ih =>
    rw [List.map_cons, lookup_cons, lookup_cons, ih]
    split <;> rfl

theorem map_map {γ : Type} (g : β → γ) (f : α → β) (d : Directory α) :
    (d.map f).map g = d.map fun value => g (f value) :=
  eq_of_entries_eq (by simp only [entries_map, List.map_map, Function.comp_def])

/-- Functions that agree about what is kept make the same of it. -/
theorem map_congr {f g : α → β} (h : ∀ entry ∈ d.entries, f entry.2 = g entry.2) :
    d.map f = d.map g := by
  refine eq_of_entries_eq ?_
  rw [entries_map, entries_map]
  exact List.map_congr_left fun entry hmem => Prod.ext rfl (h entry hmem)

/-- A function changes nothing in a directory exactly if it keeps every value. -/
theorem map_eq_self_iff {f : α → α} : d.map f = d ↔ ∀ entry ∈ d.entries, f entry.2 = entry.2 := by
  rw [← map_snd_eq_self_iff, ← entries_map]
  exact ⟨congrArg entries, eq_of_entries_eq⟩

theorem map_insert (f : α → β) (d : Directory α) (name : String) (value : α) :
    (d.insert name value).map f = (d.map f).insert name (f value) := by
  refine eq_of_entries_eq ?_
  rw [entries_map, entries_insert, entries_insert, entries_map]
  generalize d.entries = entries
  fun_induction insertEntry name value entries with
  | case1 => rfl
  | case2 _ _ _ hlt => simp [insertEntry, hlt]
  | case3 => simp [insertEntry]
  | case4 _ _ _ hlt hne ih => simp [insertEntry, hlt, hne, ih]

/-- It makes no difference whether the values are changed before or after they are kept. -/
theorem ofList_map (f : α → β) (entries : List (String × α)) :
    ofList (entries.map fun entry => (entry.1, f entry.2)) = (ofList entries).map f := by
  induction entries using List.reverseRecOn with
  | nil => rfl
  | append_singleton entries entry ih =>
    rw [List.map_append, List.map_singleton, ofList_append_singleton, ih, ofList_append_singleton,
      map_insert]

end Directory

end Screening
