import Screening.Proofs.Value

/-!
# JSON values that are taken over

A JSON value that goes through a value and back comes back with the members of each object in the
order of their names (`Json.sorted`), as all values do that are taken over from a document, with a
floating-point number in the place of each integer for which 64 bits with a sign have no room
(`Json.narrowed`), and otherwise as it was (`Value.toJson_ofJson`): the signs of zeros, the order of
items and the names of members are kept.

An integer that has 64 bits without a sign, but no room for one, becomes the nearest number of the
format, which is finite (`Binary64.exists_ofInt_eq_finite`).
-/

namespace Screening

namespace Json

/-! ## What is kept of a JSON value -/

mutual

/-- A JSON value with a floating-point number in the place of each integer for which 64 bits with a
sign have no room. -/
def narrowed : Json → Json
  | .null => .null
  | .boolean b => .boolean b
  | .integer i =>
      if -0x8000000000000000 ≤ i ∧ i < 0x8000000000000000 then .integer i
      else ((Binary64.ofInt i).finite?.map .float).getD .null
  | .float x => .float x
  | .text s => .text s
  | .array items => .array (narrowedItems items)
  | .object members => .object (narrowedMembers members)

/-- The items of an array, each with such numbers. -/
def narrowedItems : List Json → List Json
  | [] => []
  | item :: rest => item.narrowed :: narrowedItems rest

/-- The members of an object, each with such numbers. -/
def narrowedMembers : List (String × Json) → List (String × Json)
  | [] => []
  | (name, value) :: rest => (name, value.narrowed) :: narrowedMembers rest

end

theorem narrowedItems_eq_map (items : List Json) : narrowedItems items = items.map narrowed := by
  induction items with
  | nil => rfl
  | cons item rest ih => rw [narrowedItems, ih, List.map_cons]

theorem narrowedMembers_eq_map (members : List (String × Json)) :
    narrowedMembers members = members.map fun member => (member.1, member.2.narrowed) := by
  induction members with
  | nil => rfl
  | cons member rest ih => rw [narrowedMembers, ih, List.map_cons]

/-- There is room for every integer in 64 bits with a sign. -/
def HasRoom (j : Json) : Prop :=
  ∀ i, (Json.integer i).PartOf j → -0x8000000000000000 ≤ i ∧ i < 0x8000000000000000

theorem hasRoom_array_iff {items : List Json} :
    (Json.array items).HasRoom ↔ ∀ item ∈ items, item.HasRoom := by
  simp only [HasRoom, partOf_array_iff, reduceCtorEq, false_or]
  constructor
  · exact fun h item hmem i hpart => h i ⟨item, hmem, hpart⟩
  · rintro h i ⟨item, hmem, hpart⟩
    exact h item hmem i hpart

theorem hasRoom_object_iff {members : List (String × Json)} :
    (Json.object members).HasRoom ↔ ∀ member ∈ members, member.2.HasRoom := by
  simp only [HasRoom, partOf_object_iff, reduceCtorEq, false_or]
  constructor
  · exact fun h member hmem i hpart => h i ⟨member, hmem, hpart⟩
  · rintro h i ⟨member, hmem, hpart⟩
    exact h member hmem i hpart

theorem toJson_ofInt (i : Int) : (Value.ofInt i).toJson = (Json.integer i).narrowed := by
  rw [Value.ofInt, narrowed]
  split
  · next h => rw [Value.toJson, Int64.toInt_ofInt_of_le h.1 h.2]
  · cases Binary64.ofInt i <;> rfl

theorem toJson_ofJson_eq_narrowed (j : Json) : (Value.ofJson j).toJson = j.sorted.narrowed := by
  induction j using recParts with
  | null | boolean | float | text => rfl
  | integer i => exact toJson_ofInt i
  | array items ih =>
    rw [Value.ofJson, Value.toJson, sorted, narrowed, Value.ofJsonItems_eq_map,
      Value.toJsonItems_eq_map, sortedItems_eq_map, narrowedItems_eq_map, List.map_map,
      List.map_map]
    exact congrArg _ (List.map_congr_left ih)
  | object members ih =>
    rw [Value.ofJson_object, Value.toJson_object, sorted, sortedMembers_eq_map,
      Directory.ofList_map, narrowed, narrowedMembers_eq_map, ← Directory.entries_map,
      Directory.map_map, Directory.map_map]
    exact congrArg _ (congrArg _ (Directory.map_congr (Directory.forall_mem_entries_ofList ih)))

/-- Nothing is replaced exactly where there is room for every integer. -/
theorem narrowed_eq_self_iff (j : Json) : j.narrowed = j ↔ j.HasRoom := by
  induction j using recParts with
  | null | boolean | float | text => simp [narrowed, HasRoom]
  | integer i =>
    simp only [narrowed, HasRoom, partOf_integer_iff, Json.integer.injEq, forall_eq]
    split
    · next h => exact iff_of_true rfl h
    · next h =>
      refine iff_of_false ?_ h
      cases Binary64.ofInt i <;> simp [Binary64.finite?]
  | array items ih =>
    rw [narrowed, Json.array.injEq, narrowedItems_eq_map, map_eq_self_iff, hasRoom_array_iff]
    exact forall₂_congr ih
  | object members ih =>
    rw [narrowed, Json.object.injEq, narrowedMembers_eq_map, map_snd_eq_self_iff,
      hasRoom_object_iff]
    exact forall₂_congr ih

end Json

/-! ## Integers as floating-point numbers -/

namespace Binary64

/-- A magnitude below a power of two is rounded to one that is not far above it. -/
theorem nearestRank_le {num m : Nat} (h : num < Nat.pow 2 m) :
    nearestRank num 1 ≤ (m - 53 + 2) * binade := by
  have hlog : Nat.log2 num - 52 ≤ m - 53 := by
    by_cases hnum : num = 0
    · rw [hnum, Nat.log2_zero]
      omega
    · have := (Nat.log2_lt hnum).2 h
      omega
  have hquotient : num / (1 <<< (Nat.log2 num - 52)) < 2 * binade := by
    rw [Nat.one_shiftLeft]
    refine Nat.div_lt_of_lt_mul (Nat.lt_of_lt_of_le (Nat.lt_log2_self (n := num)) ?_)
    rw [show 2 * binade = 2 ^ 53 from rfl, ← Nat.pow_add]
    exact Nat.pow_le_pow_right (by decide) (by omega)
  have hshift := Nat.mul_le_mul_right binade hlog
  rw [nearestRank, Nat.div_one, Nat.add_mul]
  split <;> omega

theorem shiftLeft_lt {n m : Nat} (h : n < Nat.pow 2 m) (k : Nat) :
    n <<< k < Nat.pow 2 (m + k) := by
  have hpow : Nat.pow 2 (m + k) = Nat.pow 2 m * Nat.pow 2 k := Nat.pow_add 2 m k
  rw [Nat.shiftLeft_eq, hpow]
  exact Nat.mul_lt_mul_of_pos_right h (Nat.two_pow_pos k)

/-- An integer of 64 bits, with or without a sign, is near to a finite number. -/
theorem exists_ofInt_eq_finite {i : Int} (h : i.natAbs < 0x10000000000000000) :
    ∃ x, ofInt i = .finite x := by
  have hrank : nearestRank (i.natAbs <<< 1074) 1 < overflowRank :=
    Nat.lt_of_le_of_lt (nearestRank_le (shiftLeft_lt (m := 64) h 1074)) (by decide)
  exact ⟨_, dif_pos hrank⟩

end Binary64

/-! ## There and back -/

namespace Value

/-- **A JSON value survives being taken over**, but for the integers that are too wide. The members
of its objects come back in the order of their names, in which they stand in every value that is
taken over from a document. A value in this order comes back as it was exactly if there is room for
every integer in 64 bits with a sign. One that has 64 bits without a sign only comes back as a
floating-point number. -/
theorem toJson_ofJson (j : Json) :
    (ofJson j).toJson = j.sorted.narrowed ∧
      ((ofJson j).toJson = j ↔ j.sorted = j ∧ j.HasRoom) ∧
      (∀ d, Json.ofDocument? d = some j → j.sorted = j) ∧
      ∀ i : Int, 0x8000000000000000 ≤ i → i < 0x10000000000000000 →
        ∃ x, Binary64.ofInt i = .finite x ∧ (Json.integer i).narrowed = .float x := by
  refine ⟨j.toJson_ofJson_eq_narrowed, ⟨fun h => ?_, ?_⟩, fun _ => Json.sorted_of_ofDocument?,
    fun i hlow hhigh => ?_⟩
  · have hsorted : j.sorted = j := by
      rw [← h, sorted_toJson]
    refine ⟨hsorted, j.narrowed_eq_self_iff.1 ?_⟩
    rwa [j.toJson_ofJson_eq_narrowed, hsorted] at h
  · rintro ⟨hsorted, hroom⟩
    rw [j.toJson_ofJson_eq_narrowed, hsorted]
    exact j.narrowed_eq_self_iff.2 hroom
  · obtain ⟨x, hx⟩ := Binary64.exists_ofInt_eq_finite (i := i) (by omega)
    refine ⟨x, hx, ?_⟩
    rw [Json.narrowed, if_neg (by omega), hx]
    rfl

/-- Both ends of the integers with a sign and the negative zero, nested; and the greatest integer
without a sign. -/
theorem toJson_ofJson_ends :
    let j : Json := .object [("ends", .array [.integer (-0x8000000000000000),
      .integer 0x7FFFFFFFFFFFFFFF]), ("zero", .float (Binary64.zero true))]
    let i : Int := 0xFFFFFFFFFFFFFFFF
    Json.ofDocument? j.toDocument = some j ∧ j.sorted = j ∧ j.HasRoom ∧ (ofJson j).toJson = j ∧
      0x8000000000000000 ≤ i ∧ i < 0x10000000000000000 ∧
      ∃ x, Binary64.ofInt i = .finite x ∧ (Json.integer i).narrowed = .float x := by
  intro j i
  have hread : Json.ofDocument? j.toDocument = some j := by
    rw [Json.ofDocument?_toDocument (by decide +kernel)]
    exact congrArg some (Json.sorted_object (by decide +kernel) (by simp [Json.sorted,
      Json.sortedItems]))
  have hroom : j.HasRoom := by simp [j, Json.HasRoom, or_imp, forall_and]
  obtain ⟨-, hself, hsorted, hwide⟩ := toJson_ofJson j
  have hj := hsorted _ hread
  exact ⟨hread, hj, hroom, hself.2 ⟨hj, hroom⟩, by decide, by decide,
    hwide i (by decide) (by decide)⟩

/-- The least integer that is too wide comes back as a floating-point number. -/
theorem toJson_ofJson_wide :
    let j : Json := .integer 0x8000000000000000
    (ofJson j).toJson ≠ j ∧ j.compact = "9223372036854775808" ∧
      (ofJson j).display = "9.223372036854776e+18" := by
  refine ⟨fun h => ?_, by decide +kernel, by decide +kernel⟩
  rw [Json.toJson_ofJson_eq_narrowed, Json.sorted, Json.narrowed_eq_self_iff] at h
  exact absurd (h _ .self).2 (by decide)

end Value

end Screening
