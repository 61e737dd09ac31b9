import Screening.Proofs.Json.Reading
import Screening.Value

/-!
# Values as JSON

A value that goes through JSON and back comes back with null in the place of each number that is
infinite or no number (`Value.finitized`), and otherwise as it was (`Value.ofJson_toJson`). So
values without such numbers can be told apart by their JSON values.

The text of such a value is read back as the value wherever it is read as the JSON value that it
writes. That is so if it is not nested too deep and its floating-point numbers are read as they are
written (`Value.Legible`); its members are written in the order in which they are read
(`Value.sorted_toJson`).
-/

namespace Screening.Value

/-! ## Parts -/

/-- `part.PartOf v` says that `part` is `v` or stands within it. -/
inductive PartOf (part : Value) : Value → Prop where
  | self : PartOf part part
  | item {items : List Value} {item : Value} (hmem : item ∈ items) (h : PartOf part item) :
      PartOf part (.list items)
  | member {members : Directory Value} {member : String × Value} (hmem : member ∈ members.entries)
      (h : PartOf part member.2) : PartOf part (.object members)

variable {part : Value}

@[simp] theorem partOf_null_iff : part.PartOf .null ↔ part = .null :=
  ⟨fun h => by cases h; rfl, fun h => h ▸ .self⟩

@[simp] theorem partOf_boolean_iff {b : Bool} : part.PartOf (.boolean b) ↔ part = .boolean b :=
  ⟨fun h => by cases h; rfl, fun h => h ▸ .self⟩

@[simp] theorem partOf_float_iff {x : Binary64} : part.PartOf (.float x) ↔ part = .float x :=
  ⟨fun h => by cases h; rfl, fun h => h ▸ .self⟩

@[simp] theorem partOf_integer_iff {i : Int64} : part.PartOf (.integer i) ↔ part = .integer i :=
  ⟨fun h => by cases h; rfl, fun h => h ▸ .self⟩

@[simp] theorem partOf_text_iff {s : String} : part.PartOf (.text s) ↔ part = .text s :=
  ⟨fun h => by cases h; rfl, fun h => h ▸ .self⟩

@[simp] theorem partOf_list_iff {items : List Value} :
    part.PartOf (.list items) ↔ part = .list items ∨ ∃ item ∈ items, part.PartOf item := by
  constructor
  · intro h
    cases h with
    | self => exact .inl rfl
    | item hmem h => exact .inr ⟨_, hmem, h⟩
  · rintro (rfl | ⟨item, hmem, h⟩)
    · exact .self
    · exact .item hmem h

@[simp] theorem partOf_object_iff {members : Directory Value} :
    part.PartOf (.object members) ↔
      part = .object members ∨ ∃ member ∈ members.entries, part.PartOf member.2 := by
  constructor
  · intro h
    cases h with
    | self => exact .inl rfl
    | member hmem h => exact .inr ⟨_, hmem, h⟩
  · rintro (rfl | ⟨member, hmem, h⟩)
    · exact .self
    · exact .member hmem h

/-- A number within an object stands within one of the members that the object is made of. -/
theorem exists_member_of_float {x : Binary64} {members : List (String × Value)}
    (h : (Value.float x).PartOf (ofMembers members)) :
    ∃ member ∈ members, (Value.float x).PartOf member.2 := by
  cases h with
  | member hmem h => exact ⟨_, Directory.forall_mem_entries_ofList (fun _ => id) _ hmem, h⟩

/-- A fact about all values follows from the fact about what lists and objects hold. -/
@[elab_as_elim]
theorem recParts {motive : Value → Prop} (null : motive .null)
    (boolean : ∀ b, motive (.boolean b)) (float : ∀ x, motive (.float x))
    (integer : ∀ i, motive (.integer i)) (text : ∀ s, motive (.text s))
    (list : ∀ items, (∀ item ∈ items, motive item) → motive (.list items))
    (object : ∀ members : Directory Value, (∀ member ∈ members.entries, motive member.2) →
      motive (.object members)) (v : Value) : motive v :=
  @Value.rec motive (fun items => ∀ item ∈ items, motive item)
    (fun members => ∀ member ∈ members.entries, motive member.2)
    (fun _ column => ∀ member ∈ column.entries, motive member.2)
    null boolean float integer text list object nofun
    (fun _ _ hitem hrest => List.forall_mem_cons.2 ⟨hitem, hrest⟩) (fun _ _ _ hcolumn => hcolumn)
    nofun (fun _ _ hvalue hrest => List.forall_mem_cons.2 ⟨hvalue, hrest⟩) v

/-- No number in a value is infinite or no number. -/
def IsFinite (v : Value) : Prop := ∀ x, (Value.float x).PartOf v → ∃ y, x = .finite y

theorem isFinite_list_iff {items : List Value} :
    (Value.list items).IsFinite ↔ ∀ item ∈ items, item.IsFinite := by
  simp only [IsFinite, partOf_list_iff, reduceCtorEq, false_or]
  constructor
  · exact fun h item hmem x hpart => h x ⟨item, hmem, hpart⟩
  · rintro h x ⟨item, hmem, hpart⟩
    exact h item hmem x hpart

theorem isFinite_object_iff {members : Directory Value} :
    (Value.object members).IsFinite ↔ ∀ member ∈ members.entries, member.2.IsFinite := by
  simp only [IsFinite, partOf_object_iff, reduceCtorEq, false_or]
  constructor
  · exact fun h member hmem x hpart => h x ⟨member, hmem, hpart⟩
  · rintro h x ⟨member, hmem, hpart⟩
    exact h member hmem x hpart

/-! ## What is kept of a value -/

mutual

/-- A value with null in the place of each number that is infinite or no number. -/
def finitized : Value → Value
  | .null => .null
  | .boolean b => .boolean b
  | .float (.finite x) => .float (.finite x)
  | .float _ => .null
  | .integer i => .integer i
  | .text s => .text s
  | .list items => .list (finitizedItems items)
  | .object ⟨names, ordered, column⟩ => .object ⟨names, ordered, finitizedColumn column⟩

/-- The items of a list, each with null in the place of such numbers. -/
def finitizedItems : List Value → List Value
  | [] => []
  | item :: rest => item.finitized :: finitizedItems rest

/-- The members of an object, each with null in the place of such numbers. -/
def finitizedColumn : {names : List String} → Column Value names → Column Value names
  | _, .nil => .nil
  | _, .cons value rest => .cons value.finitized (finitizedColumn rest)

end

theorem finitizedItems_eq_map (items : List Value) :
    finitizedItems items = items.map finitized := by
  induction items with
  | nil => rfl
  | cons item rest ih => rw [finitizedItems, ih, List.map_cons]

theorem finitizedColumn_eq_map {names : List String} (column : Column Value names) :
    finitizedColumn column = column.map finitized := by
  induction column with
  | nil => rfl
  | cons value rest ih => rw [finitizedColumn, ih, Column.map]

theorem finitized_object (members : Directory Value) :
    (Value.object members).finitized = .object (members.map finitized) := by
  rw [finitized, finitizedColumn_eq_map, Directory.map]

theorem toJsonItems_eq_map (items : List Value) : toJsonItems items = items.map toJson := by
  induction items with
  | nil => rfl
  | cons item rest ih => rw [toJsonItems, ih, List.map_cons]

theorem toJsonMembers_eq_map {names : List String} (column : Column Value names) :
    toJsonMembers column = column.entries.map fun member => (member.1, member.2.toJson) := by
  induction column with
  | nil => rfl
  | cons value rest ih => rw [toJsonMembers, ih, Column.entries, List.map_cons]

theorem toJson_object (members : Directory Value) :
    (Value.object members).toJson = .object (members.map toJson).entries := by
  rw [toJson, toJsonMembers_eq_map, Directory.entries_map]
  rfl

theorem ofJsonItems_eq_map (items : List Json) : ofJsonItems items = items.map ofJson := by
  induction items with
  | nil => rfl
  | cons item rest ih => rw [ofJsonItems, ih, List.map_cons]

theorem ofJsonMembers_eq_map (members : List (String × Json)) :
    ofJsonMembers members = members.map fun member => (member.1, ofJson member.2) := by
  induction members with
  | nil => rfl
  | cons member rest ih => rw [ofJsonMembers, ih, List.map_cons]

theorem ofJson_object (members : List (String × Json)) :
    ofJson (.object members) = .object ((Directory.ofList members).map ofJson) := by
  rw [ofJson, ofJsonMembers_eq_map, ofMembers, Directory.ofList_map]

/-- An integer of 64 bits with a sign is kept. -/
theorem ofInt_toInt (i : Int64) : ofInt i.toInt = .integer i := by
  have hlow := i.le_toInt
  have hhigh := i.toInt_lt
  rw [ofInt, if_pos ⟨by omega, by omega⟩, Int64.ofInt_toInt]

theorem ofJson_toJson_eq_finitized (v : Value) : ofJson v.toJson = v.finitized := by
  induction v using recParts with
  | null | boolean | text => rfl
  | float x => cases x <;> rfl
  | integer i => exact ofInt_toInt i
  | list items ih =>
    rw [toJson, ofJson, finitized, toJsonItems_eq_map, ofJsonItems_eq_map, finitizedItems_eq_map,
      List.map_map]
    exact congrArg _ (List.map_congr_left ih)
  | object members ih =>
    rw [toJson_object, ofJson_object, finitized_object, Directory.ofList_entries, Directory.map_map]
    exact congrArg _ (Directory.map_congr ih)

/-- Nothing is replaced exactly where every number is finite. -/
theorem finitized_eq_self_iff (v : Value) : v.finitized = v ↔ v.IsFinite := by
  induction v using recParts with
  | null | boolean | integer | text => simp [finitized, IsFinite]
  | float x => cases x <;> simp [finitized, IsFinite]
  | list items ih =>
    rw [finitized, Value.list.injEq, finitizedItems_eq_map, map_eq_self_iff, isFinite_list_iff]
    exact forall₂_congr ih
  | object members ih =>
    rw [finitized_object, Value.object.injEq, Directory.map_eq_self_iff, isFinite_object_iff]
    exact forall₂_congr ih

/-- Values without such numbers can be told apart by their JSON values. -/
theorem toJson_inj {v w : Value} (hv : v.IsFinite) (hw : w.IsFinite) (h : v.toJson = w.toJson) :
    v = w := by
  calc
    v = ofJson v.toJson := by rw [ofJson_toJson_eq_finitized, (finitized_eq_self_iff v).2 hv]
    _ = ofJson w.toJson := by rw [h]
    _ = w := by rw [ofJson_toJson_eq_finitized, (finitized_eq_self_iff w).2 hw]

/-! ## The text of a value -/

/-- The text of a value can be read: it is not nested too deep, and its floating-point numbers are
read as they are written. -/
structure Legible (v : Value) : Prop where
  depth_le : v.toJson.depth ≤ Json.maxNesting
  float : ∀ x, (Value.float (.finite x)).PartOf v →
    Json.number? x.compact = some (.float (.finite x))

/-- The members of objects are written in the order of their names. -/
theorem sorted_toJson (v : Value) : v.toJson.sorted = v.toJson := by
  induction v using recParts with
  | null | boolean | integer | text => rfl
  | float x => cases x <;> rfl
  | list items ih =>
    rw [toJson, toJsonItems_eq_map]
    refine Json.sorted_array fun _ hmem => ?_
    obtain ⟨item, hitem, rfl⟩ := List.mem_map.1 hmem
    exact ih item hitem
  | object members ih =>
    rw [toJson_object]
    refine Json.sorted_object (Directory.ascending _) fun _ hmem => ?_
    rw [Directory.entries_map] at hmem
    obtain ⟨member, hmember, rfl⟩ := List.mem_map.1 hmem
    exact ih member hmember

/-- What stands within the JSON value of a value is the JSON value of what stands within it. -/
theorem exists_partOf_of_toJson {part : Json} {v : Value} (h : part.PartOf v.toJson) :
    ∃ u : Value, u.PartOf v ∧ u.toJson = part := by
  induction v using recParts with
  | null | boolean | integer | text =>
    cases h
    exact ⟨_, .self, rfl⟩
  | float x =>
    have heq : part = (Value.float x).toJson := by
      cases x <;> cases h <;> rfl
    exact ⟨_, .self, heq.symm⟩
  | list items ih =>
    rw [toJson, toJsonItems_eq_map] at h
    cases h with
    | self => exact ⟨.list items, .self, by rw [toJson, toJsonItems_eq_map]⟩
    | item hmem h =>
      obtain ⟨item, hitem, rfl⟩ := List.mem_map.1 hmem
      obtain ⟨u, hu, heq⟩ := ih item hitem h
      exact ⟨u, .item hitem hu, heq⟩
  | object members ih =>
    rw [toJson_object] at h
    cases h with
    | self => exact ⟨.object members, .self, toJson_object members⟩
    | member hmem h =>
      rw [Directory.entries_map] at hmem
      obtain ⟨member, hmember, rfl⟩ := List.mem_map.1 hmem
      obtain ⟨u, hu, heq⟩ := ih member hmember h
      exact ⟨u, .member hmember hu, heq⟩

/-- The text of a legible value is read as the JSON value that it writes. -/
theorem Legible.jsonOf_display {v : Value} (h : v.Legible) :
    Application.jsonOf v.display = .ok v.toJson := by
  rw [display, Application.jsonOf_compact ⟨fun i hpart => ?_, fun x hpart => ?_⟩ h.depth_le,
    sorted_toJson]
  all_goals obtain ⟨u, hu, heq⟩ := exists_partOf_of_toJson hpart
  · unfold toJson at heq
    split at heq <;> cases heq
    next n =>
    have hlow := n.le_toInt
    have hhigh := n.toInt_lt
    exact ⟨by omega, by omega⟩
  · unfold toJson at heq
    split at heq <;> cases heq
    exact h.float x hu

/-- Whether a certain floating-point number has been read can be decided. -/
theorem eq_some_float {d : Option Document} {x : Binary64}
    (h : (match d with | some (.float y) => decide (y = x) | _ => false) = true) :
    d = some (.float x) := by
  split at h
  · rw [of_decide_eq_true h]
  · cases h

/-! ## There and back -/

/-- **A value survives the way through JSON**, but for the numbers that are infinite or no number:
null comes back in their place. Values without such numbers have JSON values of their own, and where
the text of one is read as the JSON value that it writes, it gives the value back. -/
theorem ofJson_toJson (v : Value) :
    ofJson v.toJson = v.finitized ∧ (v.finitized = v ↔ v.IsFinite) ∧
      (v.IsFinite →
        (∀ w : Value, w.IsFinite → (v.toJson = w.toJson ↔ v = w)) ∧
        (Application.jsonOf v.display = .ok v.toJson →
          (Application.jsonOf v.display).map ofJson = .ok v)) ∧
      (v.Legible → Application.jsonOf v.display = .ok v.toJson) := by
  refine ⟨ofJson_toJson_eq_finitized v, finitized_eq_self_iff v,
    fun hv => ⟨fun w hw => ?_, fun h => ?_⟩, Legible.jsonOf_display⟩
  · exact ⟨toJson_inj hv hw, congrArg toJson⟩
  · rw [h, Except.map, ofJson_toJson_eq_finitized, (finitized_eq_self_iff v).2 hv]

/-- Both ends of the integers, the negative zero and a whole number that is no integer, and a value
that differs from it in that number only. -/
theorem ofJson_toJson_whole :
    let x : Binary64.Finite := ⟨false, 0x4014000000000000, by decide⟩
    let limits : Value := .list [.integer Int64.minValue, .integer Int64.maxValue]
    let v : Value :=
      .ofMembers [("limits", limits), ("total", .float (.finite x)),
        ("zero", .float (.finite (Binary64.zero true)))]
    let w : Value :=
      .ofMembers [("limits", limits), ("total", .integer 5),
        ("zero", .float (.finite (Binary64.zero true)))]
    v.IsFinite ∧ w.IsFinite ∧ v.Legible ∧ v.toJson ≠ w.toJson ∧
      Application.jsonOf v.display = .ok v.toJson ∧
      (Application.jsonOf v.display).map ofJson = .ok v := by
  intro x limits v w
  have hfloats : ∀ y, (Value.float y).PartOf v →
      y = .finite x ∨ y = .finite (Binary64.zero true) := by
    intro y hpart
    simpa [limits] using exists_member_of_float hpart
  have hv : v.IsFinite := fun y hpart => (hfloats y hpart).elim (⟨_, ·⟩) (⟨_, ·⟩)
  have hw : w.IsFinite := by
    intro y hpart
    have hzero : y = .finite (Binary64.zero true) := by
      simpa [limits] using exists_member_of_float hpart
    exact ⟨_, hzero⟩
  have hfloat : ∀ y, (Value.float (.finite y)).PartOf v →
      Json.number? y.compact = some (.float (.finite y)) := by
    intro y hpart
    rcases hfloats _ hpart with heq | heq
    · cases heq
      exact eq_some_float (by decide +kernel)
    · cases heq
      exact eq_some_float (by decide +kernel)
  have hlegible : v.Legible := ⟨by decide +kernel, hfloat⟩
  obtain ⟨-, -, hfinite, hreadable⟩ := ofJson_toJson v
  obtain ⟨hinj, hback⟩ := hfinite hv
  refine ⟨hv, hw, hlegible, fun h => ?_, hreadable hlegible, hback (hreadable hlegible)⟩
  have htotal : v.member? "total" = some (.float (.finite x)) :=
    Directory.find?_ofList (by decide) "total"
  have htotal' : w.member? "total" = some (.integer 5) :=
    Directory.find?_ofList (by decide) "total"
  rw [(hinj w hw).1 h, htotal'] at htotal
  cases htotal

end Screening.Value
