import Mathlib.Logic.ExistsUnique
import Screening.Proofs.Evaluation.Records

/-!
# What a comparison with a number leaves open

A number stands below, at or above a literal, and which of the three is the case settles all six
relations (`Relation.Decided`). The one exception is what is no number at all: it differs from every
literal and stands in no other relation (`Relation.decided_iff`).

No number of a JSON value is of this kind. But an attribute can be a text, the text is read as a
number, and `nan` is a word for one (`Binary64.read?_eq_nan_iff`). So a comparison of a field that
can be read as a number with a literal decides, unless the field holds that word
(`Condition.decided_iff_not_spellsNaN`).
-/

namespace Screening

/-! ## The six relations -/

namespace Relation

/-- `Decided holds` says that the answers to the six relations are those of a number that stands in
one place: exactly one of below, at and above is the case, and each of the other three relations
holds exactly if its opposite does not. -/
structure Decided (holds : Relation → Bool) : Prop where
  existsUnique : ∃! r, r ∈ [less, equal, greater] ∧ holds r = true
  atLeast_eq : holds .atLeast = !holds .less
  notEqual_eq : holds .notEqual = !holds .equal
  atMost_eq : holds .atMost = !holds .greater

variable {x y : Binary64} {a b : Int}

/-- Between two numbers a relation is one between their places in the order. -/
theorem holds_iff (ha : x.key = some a) (hb : y.key = some b) (r : Relation) :
    r.holds x y = true ↔
      match r with
      | .equal => a = b
      | .notEqual => a ≠ b
      | .less => a < b
      | .greater => b < a
      | .atMost => a ≤ b
      | .atLeast => b ≤ a := by
  cases r <;> simp [holds, Binary64.equal, Binary64.less, Binary64.atMost, ha, hb]

/-- Relations between two numbers are decided. -/
theorem decided_of_key (ha : x.key = some a) (hb : y.key = some b) :
    Decided fun r => r.holds x y := by
  have hunique : ∀ r ∈ [less, equal, greater], r.holds x y = true →
      ∃! r, r ∈ [less, equal, greater] ∧ r.holds x y = true := by
    intro r hr hholds
    refine ⟨r, ⟨hr, hholds⟩, ?_⟩
    rintro r' ⟨hr', hholds'⟩
    rw [holds_iff ha hb] at hholds hholds'
    simp only [List.mem_cons, List.not_mem_nil, or_false] at hr hr'
    rcases hr with rfl | rfl | rfl <;> rcases hr' with rfl | rfl | rfl <;>
      first | rfl | (dsimp only at hholds hholds'; omega)
  refine ⟨?_, ?_, rfl, ?_⟩
  · rcases Int.lt_trichotomy a b with hlt | heq | hgt
    · exact hunique less (by decide) ((holds_iff ha hb less).2 hlt)
    · exact hunique equal (by decide) ((holds_iff ha hb equal).2 heq)
    · exact hunique greater (by decide) ((holds_iff ha hb greater).2 hgt)
  · rw [Bool.eq_iff_iff, Bool.not_eq_true', ← Bool.not_eq_true, holds_iff ha hb, holds_iff ha hb]
    exact Int.not_lt.symm
  · rw [Bool.eq_iff_iff, Bool.not_eq_true', ← Bool.not_eq_true, holds_iff ha hb, holds_iff ha hb]
    exact Int.not_lt.symm

/-- What is no number differs from everything and stands in no other relation to it. -/
theorem holds_nan_iff (r : Relation) (y : Binary64) : r.holds .nan y = true ↔ r = .notEqual := by
  cases r <;> simp [holds, Binary64.equal, Binary64.less, Binary64.atMost, Binary64.key]

/-- The relations to a finite number are decided, except for what is no number. -/
theorem decided_iff (x : Binary64) (y : Binary64.Finite) :
    Decided (fun r => r.holds x (.finite y)) ↔ x ≠ .nan := by
  constructor
  · rintro ⟨⟨r, ⟨hmem, hholds⟩, -⟩, -⟩ rfl
    obtain rfl := (holds_nan_iff r _).1 hholds
    exact absurd hmem (by decide)
  · intro hx
    cases x with
    | nan => exact absurd rfl hx
    | infinite => exact decided_of_key rfl rfl
    | finite => exact decided_of_key rfl rfl

end Relation

/-! ## The word for no number -/

namespace Binary64

/-- `SpellsNaN cs` says that `cs` is the word `nan` in any case, with or without a sign in front. -/
inductive SpellsNaN : List Char → Prop where
  | intro {sign word : List Char} (hsign : sign ∈ [[], ['+'], ['-']])
      (hword : word.map Char.toLower = "nan".toList) : SpellsNaN (sign ++ word)

/-- What is left behind the sign of a text is the text itself or all but its sign. -/
theorem exists_sign (cs : List Char) :
    ∃ sign ∈ [[], ['+'], ['-']], cs = sign ++ (splitSign cs).2 := by
  unfold splitSign
  split
  · exact ⟨['-'], by decide, rfl⟩
  · exact ⟨['+'], by decide, rfl⟩
  · exact ⟨[], by decide, rfl⟩

/-- No sign is split off a text that begins with neither. -/
theorem splitSign_append {sign word : List Char} (hsign : sign ∈ [[], ['+'], ['-']])
    (hword : ∀ c ∈ word.head?, c ≠ '+' ∧ c ≠ '-') : (splitSign (sign ++ word)).2 = word := by
  simp only [List.mem_cons, List.not_mem_nil, or_false] at hsign
  rcases hsign with rfl | rfl | rfl
  · show (splitSign word).2 = word
    unfold splitSign
    split
    · exact absurd rfl (hword _ rfl).2
    · exact absurd rfl (hword _ rfl).1
    · rfl
  · rfl
  · rfl

/-- No decimal is read as what is no number. -/
theorem ofDecimal_ne_nan (negative : Bool) (digits : Nat) (e : Int) :
    ofDecimal negative digits e ≠ .nan := by
  obtain ⟨rank, hrank⟩ := exists_ofDecimal_eq_ofRank digits e
  rw [hrank, ofRank]
  split <;> simp

/-- **What is read as no number** is the word for it, and nothing else. -/
theorem read?_eq_nan_iff (cs : List Char) : read? cs = some .nan ↔ SpellsNaN cs := by
  constructor
  · intro h
    obtain ⟨sign, hsign, hcs⟩ := exists_sign cs
    unfold read? at h
    dsimp only at h
    split at h
    · cases h
    split at h
    · next hword =>
      rw [hcs]
      exact .intro hsign (beq_iff_eq.1 hword)
    · obtain ⟨⟨digits, e⟩, -, heq⟩ := Option.map_eq_some_iff.1 h
      exact absurd heq (ofDecimal_ne_nan _ digits e)
  · rintro ⟨hsign, hword⟩
    next sign word =>
    have hhead : ∀ c ∈ word.head?, c ≠ '+' ∧ c ≠ '-' := by
      intro c hc
      obtain ⟨cs, rfl⟩ := List.head?_eq_some_iff.1 hc
      have hlower : c.toLower = 'n' := (List.cons.inj hword).1
      constructor
      · rintro rfl
        exact absurd hlower (by decide)
      · rintro rfl
        exact absurd hlower (by decide)
    have hinf : ("nan".toList == "inf".toList || "nan".toList == "infinity".toList) = false := by
      decide
    unfold read?
    dsimp only
    rw [splitSign_append hsign hhead, hword, hinf, if_neg Bool.false_ne_true,
      if_pos (beq_self_eq_true _)]

end Binary64

/-! ## Values -/

/-- `v.SpellsNaN` says that the value is a text that, between blanks, is the word for what is no
number. -/
def Value.SpellsNaN (v : Value) : Prop :=
  ∃ s, v = .text s ∧ Binary64.SpellsNaN (Text.trim s.toList)

/-- No integer is what is no number. -/
theorem Binary64.ofInt_ne_nan (i : Int) : ofInt i ≠ .nan := by
  rw [ofInt, ofRatio, ofRank]
  split <;> simp

/-- The value of a JSON value is read as what is no number exactly if it is a text that says so. -/
theorem Value.asNumber?_ofJson_eq_nan_iff (j : Json) :
    (ofJson j).asNumber? = some .nan ↔ (ofJson j).SpellsNaN := by
  cases j with
  | text s =>
    refine (Binary64.read?_eq_nan_iff _).trans ⟨fun h => ⟨s, rfl, h⟩, ?_⟩
    rintro ⟨_, ⟨⟩, h⟩
    exact h
  | integer i =>
    have htext : ∀ s, ofInt i ≠ .text s := by
      intro s
      rw [ofInt]
      split <;> simp
    have hnumber : ¬ (ofInt i).asNumber? = some .nan := by
      rw [Amount.asNumber?_ofInt, Option.some_inj]
      exact Binary64.ofInt_ne_nan i
    refine iff_of_false hnumber ?_
    rintro ⟨s, hs, -⟩
    exact htext s hs
  | boolean b =>
    have hnumber : ¬ (Value.boolean b).asNumber? = some .nan := by
      rw [asNumber?, Option.some_inj]
      exact Binary64.ofInt_ne_nan _
    exact iff_of_false hnumber (by simp [ofJson, SpellsNaN])
  | object members => simp [ofJson_object, asNumber?, SpellsNaN]
  | null | float | array => simp [ofJson, asNumber?, SpellsNaN]

/-- The members of the value of a JSON value are values of JSON values. -/
theorem Value.exists_of_member?_ofJson {j : Json} {name : String} {v : Value}
    (h : (ofJson j).member? name = some v) : ∃ j', v = ofJson j' := by
  cases j with
  | object members =>
    rw [ofJson_object, member?, Directory.find?_map] at h
    obtain ⟨j', -, rfl⟩ := Option.map_eq_some_iff.1 h
    exact ⟨j', rfl⟩
  | integer i =>
    rw [ofJson, ofInt] at h
    split at h <;> cases h
  | null | boolean | float | text | array => cases h

/-- Every field of facts that JSON values state has the value of a JSON value. -/
theorem Facts.exists_of_resolve_ofJson {transaction user : Json} {name : String} {v : Value}
    (h : (ofJson transaction user).resolve name = some v) : ∃ j, v = .ofJson j := by
  have hfound := (Option.filter_eq_some_iff.1 h).1
  match hroute : Route.ofName name with
  | .user key =>
    rw [hroute] at hfound
    exact Value.exists_of_member?_ofJson hfound
  | .attribute key =>
    rw [hroute] at hfound
    exact Value.exists_of_member?_ofJson hfound
  | .member key sub =>
    rw [hroute] at hfound
    obtain ⟨w, hw, hmember⟩ := Option.bind_eq_some_iff.1 hfound
    obtain ⟨j, rfl⟩ := Value.exists_of_member?_ofJson hw
    exact Value.exists_of_member?_ofJson hmember

/-! ## Comparisons -/

namespace Condition

variable {catalog : Catalog} {transaction user : Json} {name : String} {value : Value}
  {y : Binary64}

/-- A comparison of a field with a number asks for the relation of the number that the field is read
as. -/
theorem holds_compare_number (hknown : catalog.contains name = true) {facts : Facts}
    (hvalue : facts.resolve name = some value) (hread : value.asNumber? = some y) (r : Relation)
    (x : Binary64.Finite) (n m position : Nat) :
    holds catalog facts (.compare ⟨r, .field name n, .literal (.number x) m, position⟩) =
      r.holds y (.finite x) := by
  rw [holds, Comparison.holds_number_eq, hknown, hvalue, Option.bind_some, hread, Option.any_some,
    Bool.true_and]

/-- **A comparison with a number decides, unless the field says that it is none.** Let a field of
the catalog have a value that can be read as a number, in facts that JSON values state. Of its
comparisons with a literal exactly one of `<`, `=` and `>` holds, and `>=`, `!=` and `<=` hold
exactly if `<`, `=` and `>` do not, unless the value is a text that is the word for what is no
number; and then `!=` holds and none of the others does. -/
theorem decided_iff_not_spellsNaN (hknown : catalog.contains name = true)
    (hvalue : (Facts.ofJson transaction user).resolve name = some value)
    (hread : value.asNumber? = some y) (x : Binary64.Finite) (n m position : Nat) :
    (Relation.Decided (fun r => holds catalog (.ofJson transaction user)
        (.compare ⟨r, .field name n, .literal (.number x) m, position⟩)) ↔
      ¬ value.SpellsNaN) ∧
    (value.SpellsNaN → ∀ r, holds catalog (.ofJson transaction user)
        (.compare ⟨r, .field name n, .literal (.number x) m, position⟩) = true ↔
          r = .notEqual) := by
  obtain ⟨j, rfl⟩ := Facts.exists_of_resolve_ofJson hvalue
  have hnan : y = .nan ↔ (Value.ofJson j).SpellsNaN := by
    rw [← Value.asNumber?_ofJson_eq_nan_iff, hread, Option.some_inj]
  have hholds : (fun r => holds catalog (.ofJson transaction user)
      (.compare ⟨r, .field name n, .literal (.number x) m, position⟩)) =
      fun r => r.holds y (.finite x) :=
    funext fun r => holds_compare_number hknown hvalue hread r x n m position
  constructor
  · rw [hholds, Relation.decided_iff, Ne, hnan]
  · intro hspells r
    rw [holds_compare_number hknown hvalue hread, hnan.2 hspells]
    exact Relation.holds_nan_iff r _

/-- A number that is written as a text, with blanks around it and a power of ten. -/
theorem decided_of_written_number :
    let facts := Facts.ofJson (.object [("amount", .text " +1E3\t")]) (.object [])
    let x : Binary64.Finite := ⟨false, 0x408F400000000000, by decide⟩
    Catalog.standard.contains "amount" = true ∧
    facts.resolve "amount" = some (.text " +1E3\t") ∧
    (Value.text " +1E3\t").asNumber? = some (.finite x) ∧
    Relation.Decided fun r => holds Catalog.standard facts
      (.compare ⟨r, .field "amount" 0, .literal (.number x) 9, 7⟩) := by
  intro facts x
  have hknown : Catalog.standard.contains "amount" = true := by decide +kernel
  have hvalue : facts.resolve "amount" = some (.text " +1E3\t") := rfl
  have hread : (Value.text " +1E3\t").asNumber? = some (.finite x) := by decide +kernel
  refine ⟨hknown, hvalue, hread,
    (decided_iff_not_spellsNaN hknown hvalue hread x 0 9 7).1.2 fun hspells => ?_⟩
  have hnan := (Value.asNumber?_ofJson_eq_nan_iff (.text " +1E3\t")).2 hspells
  cases hread.symm.trans hnan

/-- A text that can be read as a number and stands neither below nor at nor above a literal: none of
the conditions that together cover every place of the amount holds. -/
theorem undecided_nan :
    let facts := Facts.ofJson (.object [("amount", .text "NaN")]) (.object [])
    Catalog.standard.contains "amount" = true ∧
    (∃ value y, facts.resolve "amount" = some value ∧ value.asNumber? = some y) ∧
    Schema.standard.holdsText facts "amount < 5" = false ∧
    Schema.standard.holdsText facts "amount = 5" = false ∧
    Schema.standard.holdsText facts "amount > 5" = false ∧
    Schema.standard.holdsText facts "amount < 5 OR amount = 5 OR amount > 5" = false ∧
    Schema.standard.holdsText facts "amount >= 5" = false := by
  intro facts
  have hread : (Value.text "NaN").asNumber? = some .nan := by decide +kernel
  refine ⟨by decide +kernel, ⟨.text "NaN", .nan, rfl, hread⟩, ?_⟩
  decide +kernel

end Condition

end Screening
