import Screening.Json
import Screening.Proofs.Directory

/-!
# JSON values and their parts

What stands within a JSON value, the value itself included, are its parts (`Json.PartOf`). A fact
about all values is proved for the scalars, and for arrays and objects from the same fact about what
they hold (`Json.recParts`).

The members of an object stand in the order in which they are written. What is taken over from a
document is sorted (`Json.sorted_of_ofDocument?`), so a value that is not nested too deep is taken
over from its own document with the members of each object in the order of their names
(`Json.ofDocument?_toDocument`).
-/

namespace Screening.Json

/-! ## Parts -/

/-- `part.PartOf j` says that `part` is `j` or stands within it. -/
inductive PartOf (part : Json) : Json → Prop where
  | self : PartOf part part
  | item {items : List Json} {item : Json} (hmem : item ∈ items) (h : PartOf part item) :
      PartOf part (.array items)
  | member {members : List (String × Json)} {member : String × Json} (hmem : member ∈ members)
      (h : PartOf part member.2) : PartOf part (.object members)

variable {part : Json}

@[simp] theorem partOf_null_iff : part.PartOf .null ↔ part = .null :=
  ⟨fun h => by cases h; rfl, fun h => h ▸ .self⟩

@[simp] theorem partOf_boolean_iff {b : Bool} : part.PartOf (.boolean b) ↔ part = .boolean b :=
  ⟨fun h => by cases h; rfl, fun h => h ▸ .self⟩

@[simp] theorem partOf_integer_iff {i : Int} : part.PartOf (.integer i) ↔ part = .integer i :=
  ⟨fun h => by cases h; rfl, fun h => h ▸ .self⟩

@[simp] theorem partOf_float_iff {x : Binary64.Finite} : part.PartOf (.float x) ↔ part = .float x :=
  ⟨fun h => by cases h; rfl, fun h => h ▸ .self⟩

@[simp] theorem partOf_text_iff {s : String} : part.PartOf (.text s) ↔ part = .text s :=
  ⟨fun h => by cases h; rfl, fun h => h ▸ .self⟩

@[simp] theorem partOf_array_iff {items : List Json} :
    part.PartOf (.array items) ↔ part = .array items ∨ ∃ item ∈ items, part.PartOf item := by
  constructor
  · intro h
    cases h with
    | self => exact .inl rfl
    | item hmem h => exact .inr ⟨_, hmem, h⟩
  · rintro (rfl | ⟨item, hmem, h⟩)
    · exact .self
    · exact .item hmem h

@[simp] theorem partOf_object_iff {members : List (String × Json)} :
    part.PartOf (.object members) ↔
      part = .object members ∨ ∃ member ∈ members, part.PartOf member.2 := by
  constructor
  · intro h
    cases h with
    | self => exact .inl rfl
    | member hmem h => exact .inr ⟨_, hmem, h⟩
  · rintro (rfl | ⟨member, hmem, h⟩)
    · exact .self
    · exact .member hmem h

/-- A fact about all JSON values follows from the fact about what arrays and objects hold. -/
@[elab_as_elim]
theorem recParts {motive : Json → Prop} (null : motive .null)
    (boolean : ∀ b, motive (.boolean b)) (integer : ∀ i, motive (.integer i))
    (float : ∀ x, motive (.float x)) (text : ∀ s, motive (.text s))
    (array : ∀ items, (∀ item ∈ items, motive item) → motive (.array items))
    (object : ∀ members : List (String × Json), (∀ member ∈ members, motive member.2) →
      motive (.object members)) (j : Json) : motive j :=
  @Json.rec motive (fun items => ∀ item ∈ items, motive item)
    (fun members => ∀ member ∈ members, motive member.2) (fun member => motive member.2)
    null boolean integer float text array object nofun
    (fun _ _ hitem hrest => List.forall_mem_cons.2 ⟨hitem, hrest⟩) nofun
    (fun _ _ hmember hrest => List.forall_mem_cons.2 ⟨hmember, hrest⟩) (fun _ _ hvalue => hvalue) j

/-! ## Nesting -/

mutual

/-- How deep arrays and objects are nested in a value. -/
def depth : Json → Nat
  | .array items => depthItems items + 1
  | .object members => depthMembers members + 1
  | _ => 0

/-- The depth of the deepest item. -/
def depthItems : List Json → Nat
  | [] => 0
  | item :: rest => max item.depth (depthItems rest)

/-- The depth of the deepest member. -/
def depthMembers : List (String × Json) → Nat
  | [] => 0
  | (_, value) :: rest => max value.depth (depthMembers rest)

end

theorem depthItems_le {items : List Json} {n : Nat} :
    depthItems items ≤ n ↔ ∀ item ∈ items, item.depth ≤ n := by
  induction items with
  | nil => simp [depthItems]
  | cons item rest ih => rw [depthItems, Nat.max_le, ih, List.forall_mem_cons]

theorem depthMembers_le {members : List (String × Json)} {n : Nat} :
    depthMembers members ≤ n ↔ ∀ member ∈ members, member.2.depth ≤ n := by
  induction members with
  | nil => simp [depthMembers]
  | cons member rest ih => rw [depthMembers, Nat.max_le, ih, List.forall_mem_cons]

/-! ## Order -/

mutual

/-- A value with the members of each object in the order of their names, the last of each name. -/
def sorted : Json → Json
  | .null => .null
  | .boolean b => .boolean b
  | .integer i => .integer i
  | .float x => .float x
  | .text s => .text s
  | .array items => .array (sortedItems items)
  | .object members => .object (Directory.ofList (sortedMembers members)).entries

/-- The items of an array, each with its members in this order. -/
def sortedItems : List Json → List Json
  | [] => []
  | item :: rest => item.sorted :: sortedItems rest

/-- The members of an object as they are written, each with its own members in this order. -/
def sortedMembers : List (String × Json) → List (String × Json)
  | [] => []
  | (name, value) :: rest => (name, value.sorted) :: sortedMembers rest

end

theorem sortedItems_eq_map (items : List Json) : sortedItems items = items.map sorted := by
  induction items with
  | nil => rfl
  | cons item rest ih => rw [sortedItems, ih, List.map_cons]

theorem sortedMembers_eq_map (members : List (String × Json)) :
    sortedMembers members = members.map fun member => (member.1, member.2.sorted) := by
  induction members with
  | nil => rfl
  | cons member rest ih => rw [sortedMembers, ih, List.map_cons]

theorem sorted_array {items : List Json} (h : ∀ item ∈ items, item.sorted = item) :
    (Json.array items).sorted = .array items := by
  rw [sorted, sortedItems_eq_map, map_eq_self_iff.2 h]

theorem sorted_object {members : List (String × Json)}
    (hascending : members.Pairwise fun a b => a.1 < b.1)
    (h : ∀ member ∈ members, member.2.sorted = member.2) :
    (Json.object members).sorted = .object members := by
  rw [sorted, sortedMembers_eq_map, map_snd_eq_self_iff.2 h, Directory.entries_ofList hascending]

/-! ## Documents -/

theorem ofItems?_toDocuments {items : List Json} {room : Nat}
    (h : ∀ item ∈ items, ofDocumentWithin? room item.toDocument = some item.sorted) :
    ofItems? room (toDocuments items) = some (sortedItems items) := by
  induction items with
  | nil => rfl
  | cons item rest ih =>
    obtain ⟨hitem, hrest⟩ := List.forall_mem_cons.1 h
    simp only [toDocuments, ofItems?, hitem, ih hrest, bind, Option.bind_some, pure, sortedItems]

theorem ofMembers?_toMembers {members : List (String × Json)} {room : Nat}
    (h : ∀ member ∈ members, ofDocumentWithin? room member.2.toDocument = some member.2.sorted)
    (d : Directory Json) :
    ofMembers? room d (toMembers members) =
      some ((sortedMembers members).foldl (fun d entry => d.insert entry.1 entry.2) d) := by
  induction members generalizing d with
  | nil => rfl
  | cons member rest ih =>
    obtain ⟨hmember, hrest⟩ := List.forall_mem_cons.1 h
    simp only [toMembers, ofMembers?, hmember, bind, Option.bind_some, ih hrest, sortedMembers,
      List.foldl_cons]

theorem ofDocumentWithin?_toDocument {j : Json} {room : Nat} (hdepth : j.depth ≤ room) :
    ofDocumentWithin? room j.toDocument = some j.sorted := by
  induction j using recParts generalizing room with
  | null | boolean | integer | float | text => rfl
  | array items ih =>
    cases room with
    | zero => exact absurd hdepth (Nat.not_succ_le_zero _)
    | succ room =>
      have hroom := depthItems_le.1 (Nat.le_of_succ_le_succ hdepth)
      rw [toDocument, ofDocumentWithin?,
        ofItems?_toDocuments fun item hmem => ih item hmem (hroom item hmem)]
      rfl
  | object members ih =>
    cases room with
    | zero => exact absurd hdepth (Nat.not_succ_le_zero _)
    | succ room =>
      have hroom := depthMembers_le.1 (Nat.le_of_succ_le_succ hdepth)
      rw [toDocument, ofDocumentWithin?,
        ofMembers?_toMembers fun member hmem => ih member hmem (hroom member hmem)]
      rfl

/-- **A value is taken over from its own document in the order of the names**, if it is not nested
too deep. -/
theorem ofDocument?_toDocument {j : Json} (hdepth : j.depth ≤ maxNesting) :
    ofDocument? j.toDocument = some j.sorted :=
  ofDocumentWithin?_toDocument hdepth

/-- The items that are taken over come from documents. -/
theorem exists_document_of_ofItems? {room : Nat} {docs : List Document} {items : List Json}
    (h : ofItems? room docs = some items) :
    ∀ item ∈ items, ∃ d, ofDocumentWithin? room d = some item := by
  induction docs generalizing items with
  | nil =>
    cases h
    exact nofun
  | cons doc docs ih =>
    simp only [ofItems?, bind, Option.bind_eq_some_iff, pure, Option.some_inj] at h
    obtain ⟨item, hitem, rest, hrest, rfl⟩ := h
    exact List.forall_mem_cons.2 ⟨⟨doc, hitem⟩, ih hrest⟩

/-- The members that are taken over come from documents. -/
theorem exists_document_of_ofMembers? {room : Nat} {docs : List (Option String × Document)}
    {d d' : Directory Json} (h : ofMembers? room d docs = some d')
    (hd : ∀ member ∈ d.entries, ∃ doc, ofDocumentWithin? room doc = some member.2) :
    ∀ member ∈ d'.entries, ∃ doc, ofDocumentWithin? room doc = some member.2 := by
  induction docs generalizing d with
  | nil =>
    cases h
    exact hd
  | cons doc docs ih =>
    simp only [ofMembers?, bind, Option.bind_eq_some_iff] at h
    obtain ⟨name, -, value, hvalue, hrest⟩ := h
    exact ih hrest (Directory.forall_mem_entries_insert ⟨doc.2, hvalue⟩ hd)

theorem sorted_of_ofDocumentWithin? {j : Json} {room : Nat} {d : Document}
    (h : ofDocumentWithin? room d = some j) : j.sorted = j := by
  induction j using recParts generalizing room d with
  | null | boolean | integer | float | text => rfl
  | array items ih =>
    cases d with
    | list docs =>
      cases room with
      | zero => cases h
      | succ room =>
        rw [ofDocumentWithin?, Option.map_eq_some_iff] at h
        obtain ⟨_, hitems, heq⟩ := h
        cases heq
        refine sorted_array fun item hmem => ?_
        obtain ⟨doc, hdoc⟩ := exists_document_of_ofItems? hitems item hmem
        exact ih item hmem hdoc
    | _ => cases room <;> simp [ofDocumentWithin?] at h
  | object members ih =>
    cases d with
    | table docs =>
      cases room with
      | zero => cases h
      | succ room =>
        rw [ofDocumentWithin?, Option.map_eq_some_iff] at h
        obtain ⟨members', hmembers, heq⟩ := h
        cases heq
        refine sorted_object members'.ascending fun member hmem => ?_
        obtain ⟨doc, hdoc⟩ := exists_document_of_ofMembers? hmembers nofun member hmem
        exact ih member hmem hdoc
    | _ => cases room <;> simp [ofDocumentWithin?] at h

/-- **What is taken over from a document is in the order of the names.** -/
theorem sorted_of_ofDocument? {j : Json} {d : Document} (h : ofDocument? d = some j) :
    j.sorted = j :=
  sorted_of_ofDocumentWithin? h

end Screening.Json
