/-!
# Directories

A `Directory` keeps values under names, in the ascending order of the names. Names are ordered
character by character by code point, and no name occurs twice.

The values are a `Column` beside the names, so that the order is a fact about the names alone. Hence
values of a type may be kept in directories within values of that type.

A directory is looked at through `find?`: each operation comes with a lemma that says what is
found afterwards.
-/

namespace Screening

/-- A value for each of some names. -/
inductive Column (α : Type) : List String → Type where
  | nil : Column α []
  | cons {name : String} {names : List String} (value : α) (rest : Column α names) :
      Column α (name :: names)
  deriving DecidableEq

/-- Values under names, in the order of the names. -/
structure Directory (α : Type) where
  names : List String
  ordered : names.Pairwise (· < ·)
  column : Column α names
  deriving DecidableEq

/-! ## Names beside values -/

namespace Column

variable {α : Type} {names : List String}

/-- The values of a column with their names. -/
def entries : {names : List String} → Column α names → List (String × α)
  | _, .nil => []
  | name :: _, .cons value rest => (name, value) :: rest.entries

/-- The values of a list with their names left out. -/
def ofEntries : (entries : List (String × α)) → Column α (entries.map Prod.fst)
  | [] => .nil
  | (_, value) :: rest => .cons value (ofEntries rest)

@[simp] theorem entries_ofEntries (entries : List (String × α)) :
    (ofEntries entries).entries = entries := by
  induction entries with
  | nil => rfl
  | cons entry rest ih => exact congrArg (entry :: ·) ih

@[simp] theorem map_fst_entries (c : Column α names) : c.entries.map Prod.fst = names := by
  induction c with
  | nil => rfl
  | cons _ _ ih => exact congrArg (_ :: ·) ih

end Column

namespace Directory

variable {α : Type}

/-- The values with their names, in the order of the names. -/
def entries (d : Directory α) : List (String × α) := d.column.entries

/-- The directory of an ordered list. -/
def ofEntries (entries : List (String × α)) (h : entries.Pairwise fun a b => a.1 < b.1) :
    Directory α :=
  ⟨entries.map Prod.fst, List.pairwise_map.2 h, .ofEntries entries⟩

@[simp] theorem entries_ofEntries {entries : List (String × α)}
    (h : entries.Pairwise fun a b => a.1 < b.1) : (ofEntries entries h).entries = entries :=
  Column.entries_ofEntries entries

theorem ascending (d : Directory α) : d.entries.Pairwise fun a b => a.1 < b.1 := by
  have hordered := d.ordered
  rwa [← d.column.map_fst_entries, List.pairwise_map] at hordered

/-- The value under a name. -/
def find? (d : Directory α) (name : String) : Option α := d.entries.lookup name

theorem lookup_cons (name : String) (entry : String × α) (rest : List (String × α)) :
    (entry :: rest).lookup name = if name = entry.1 then some entry.2 else rest.lookup name := by
  rw [List.lookup_cons]
  by_cases h : name = entry.1
  · simp [h]
  · simp [h, beq_eq_false_iff_ne.2 h]

/-- Whether something is kept under a name. -/
def contains (d : Directory α) (name : String) : Bool := (d.find? name).isSome

/-- The values in the order of their names. -/
def values (d : Directory α) : List α := d.entries.map Prod.snd

/-- How many values are kept. -/
def size (d : Directory α) : Nat := d.entries.length

/-! ## No values -/

/-- The directory that holds nothing. -/
def empty : Directory α := ⟨[], .nil, .nil⟩

@[simp] theorem find?_empty (name : String) : (empty : Directory α).find? name = none := rfl

/-! ## Inserting -/

/-- Puts a value under a name into an ordered list, in the place of one that stood there. -/
def insertEntry (name : String) (value : α) : List (String × α) → List (String × α)
  | [] => [(name, value)]
  | (name', value') :: rest =>
      if name < name' then (name, value) :: (name', value') :: rest
      else if name = name' then (name, value) :: rest
      else (name', value') :: insertEntry name value rest

theorem eq_or_mem_of_mem_insertEntry {name : String} {value : α} {entry : String × α}
    {entries : List (String × α)} (h : entry ∈ insertEntry name value entries) :
    entry = (name, value) ∨ entry ∈ entries := by
  fun_induction insertEntry name value entries with
  | case1 => simpa using h
  | case2 => simpa using h
  | case3 =>
    rcases List.mem_cons.1 h with h | h
    · exact .inl h
    · exact .inr (.tail _ h)
  | case4 _ _ _ _ _ ih =>
    rcases List.mem_cons.1 h with h | h
    · exact .inr (h ▸ .head _)
    · exact (ih h).imp_right (.tail _)

theorem ascending_insertEntry (name : String) (value : α) {entries : List (String × α)}
    (h : entries.Pairwise fun a b => a.1 < b.1) :
    (insertEntry name value entries).Pairwise fun a b => a.1 < b.1 := by
  fun_induction insertEntry name value entries with
  | case1 => exact List.pairwise_singleton _ _
  | case2 _ _ rest hlt =>
    refine .cons (fun entry he => ?_) h
    rcases List.mem_cons.1 he with rfl | he
    · exact hlt
    · exact String.lt_trans hlt (List.rel_of_pairwise_cons h he)
  | case3 => exact .cons (fun _ he => List.rel_of_pairwise_cons h he) h.of_cons
  | case4 name' value' rest hlt hne ih =>
    refine .cons (fun entry he => ?_) (ih h.of_cons)
    rcases eq_or_mem_of_mem_insertEntry he with rfl | he
    · exact Decidable.byContradiction fun hge =>
        hne (String.le_antisymm (String.not_lt.1 hge) (String.not_lt.1 hlt))
    · exact List.rel_of_pairwise_cons h he

/-- Keeps a value under a name, in the place of one that was kept there. -/
def insert (d : Directory α) (name : String) (value : α) : Directory α :=
  ofEntries (insertEntry name value d.entries) (ascending_insertEntry name value d.ascending)

@[simp] theorem entries_insert (d : Directory α) (name : String) (value : α) :
    (d.insert name value).entries = insertEntry name value d.entries :=
  entries_ofEntries _

/-- What holds of a new entry and of the old ones holds of all. -/
theorem forall_mem_entries_insert {d : Directory α} {p : String × α → Prop} {name : String}
    {value : α} (hnew : p (name, value)) (hold : ∀ entry ∈ d.entries, p entry) :
    ∀ entry ∈ (d.insert name value).entries, p entry := by
  rw [entries_insert]
  exact fun entry hmem =>
    (eq_or_mem_of_mem_insertEntry hmem).elim (fun heq => heq ▸ hnew) (hold entry)

theorem lookup_insertEntry (name other : String) (value : α) (entries : List (String × α)) :
    (insertEntry name value entries).lookup other =
      if other = name then some value else entries.lookup other := by
  fun_induction insertEntry name value entries with
  | case1 | case2 => simp only [lookup_cons]
  | case3 => simp only [lookup_cons]; split <;> rfl
  | case4 name' _ _ _ hne ih =>
    simp only [lookup_cons, ih]
    by_cases h : other = name'
    · simp [h, Ne.symm hne]
    · simp [h]

@[simp] theorem find?_insert (d : Directory α) (name other : String) (value : α) :
    (d.insert name value).find? other = if other = name then some value else d.find? other := by
  rw [find?, entries_insert, lookup_insertEntry, find?]

/-- The directory of a list of named values; of values under one name the last is kept. -/
def ofList (entries : List (String × α)) : Directory α :=
  entries.foldl (fun d entry => d.insert entry.1 entry.2) empty

/-- What holds of every entry of a list holds of what is kept of it. -/
theorem forall_mem_entries_ofList {entries : List (String × α)} {p : String × α → Prop}
    (h : ∀ entry ∈ entries, p entry) : ∀ entry ∈ (ofList entries).entries, p entry := by
  have hfold : ∀ d : Directory α, (∀ entry ∈ d.entries, p entry) →
      ∀ entry ∈ (entries.foldl (fun d entry => d.insert entry.1 entry.2) d).entries, p entry := by
    induction entries with
    | nil => exact fun _ hd => hd
    | cons entry rest ih =>
      obtain ⟨hentry, hrest⟩ := List.forall_mem_cons.1 h
      exact fun d hd => ih hrest _ (forall_mem_entries_insert hentry hd)
  exact hfold empty nofun

/-! ## Erasing -/

/-- Keeps nothing under a name. -/
def erase (d : Directory α) (name : String) : Directory α :=
  ofEntries (d.entries.filter fun entry => entry.1 != name) (d.ascending.filter _)

theorem lookup_filter_ne (name other : String) (entries : List (String × α)) :
    (entries.filter fun entry => entry.1 != name).lookup other =
      if other = name then none else entries.lookup other := by
  induction entries with
  | nil => simp
  | cons entry rest ih =>
    by_cases h : entry.1 = name
    · rw [List.filter_cons_of_neg (by simp [h]), ih, lookup_cons, h]
      split <;> rfl
    · rw [List.filter_cons_of_pos (by simp [h]), lookup_cons, lookup_cons, ih]
      by_cases ho : other = entry.1
      · simp [ho, h]
      · simp [ho]

@[simp] theorem find?_erase (d : Directory α) (name other : String) :
    (d.erase name).find? other = if other = name then none else d.find? other := by
  rw [find?, erase, entries_ofEntries, lookup_filter_ne, find?]

end Directory

end Screening
