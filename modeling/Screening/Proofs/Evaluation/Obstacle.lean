import Screening.Evaluation
import Screening.Proofs.Schema.Acceptance

/-!
# What keeps a legal comparison from having an answer

A legal comparison names a field of the catalog on the left and a literal on the right, so of the
obstacles to an answer two are ruled out by its form, and two lie in the facts (`Obstructed`): the
field has no value, or one that cannot be read as the literal's kind. The fifth is an order asked of
a text. Whether an order may be asked depends on the kind of the field, and how the value is read on
the kind of the literal; so this obstacle is met where a text stands against a numeric field
(`OrdersText`), and there no value gives an answer (`Legal.outcome_cases`, `outcome_of_compile`).
-/

namespace Screening

/-- The relations that say nothing about texts are those that ask for an order. -/
theorem Relation.holdsText_eq_none_iff {r : Relation} {s t : String} :
    r.holdsText s t = none ↔ r.isOrdering = true := by
  cases r <;> simp [Relation.holdsText, Relation.isOrdering]

namespace Comparison

variable {catalog : Catalog} {facts : Facts} {c : Comparison}

/-- A numeric field is asked how it is ordered against a text. -/
inductive OrdersText (catalog : Catalog) : Comparison → Prop where
  | intro {r : Relation} {name expected : String} {n m position : Nat} {field : Field}
      (hfield : catalog.find? name = some field) (hkind : field.kind = .numeric)
      (horder : r.isOrdering = true) :
      OrdersText catalog ⟨r, .field name n, .literal (.text expected) m, position⟩

/-- `c.Obstructed facts o` says that the obstacle `o` to the comparison `c` lies in the facts: the
field has no value, or one that cannot be read as the literal's kind. -/
inductive Obstructed (facts : Facts) : Comparison → Obstacle → Prop where
  | absent {r : Relation} {name : String} {right : Operand} {n position : Nat}
      (hvalue : facts.resolve name = none) :
      Obstructed facts ⟨r, .field name n, right, position⟩ (.absent name)
  | noNumber {r : Relation} {name : String} {expected : Binary64.Finite} {n m position : Nat}
      {value : Value} (hvalue : facts.resolve name = some value)
      (hread : value.asNumber? = none) :
      Obstructed facts ⟨r, .field name n, .literal (.number expected) m, position⟩
        (.unreadable name value.typeName .numeric)
  | noText {r : Relation} {name expected : String} {n m position : Nat} {value : Value}
      (hvalue : facts.resolve name = some value) (hread : value.asText? = none) :
      Obstructed facts ⟨r, .field name n, .literal (.text expected) m, position⟩
        (.unreadable name value.typeName .text)

/-- A legal comparison meets an obstacle that lies in the facts, or it asks for the order of a text
and meets that obstacle, or it has an answer. -/
theorem Legal.outcome_cases (h : c.Legal catalog) (facts : Facts) :
    (∃ o, c.Obstructed facts o ∧ c.outcome catalog facts = .error o) ∨
      (c.OrdersText catalog ∧ c.outcome catalog facts = .error (.orderedText c.relation)) ∨
      (¬ c.OrdersText catalog ∧ ∃ answer, c.outcome catalog facts = .ok answer) := by
  cases h with
  | @intro r name literal n m position field hfield horder =>
  have hknown : catalog.contains name = true := by
    rw [Directory.contains, hfield]
    rfl
  cases hvalue : facts.resolve name with
  | none => exact .inl ⟨_, .absent hvalue, by simp [outcome, hknown, hvalue]⟩
  | some value =>
  cases literal with
  | number expected =>
    cases hread : value.asNumber? with
    | none => exact .inl ⟨_, .noNumber hvalue hread, by simp [outcome, hknown, hvalue, hread]⟩
    | some actual => exact .inr (.inr ⟨nofun, _, by simp [outcome, hknown, hvalue, hread]; rfl⟩)
  | text expected =>
    cases hread : value.asText? with
    | none => exact .inl ⟨_, .noText hvalue hread, by simp [outcome, hknown, hvalue, hread]⟩
    | some actual =>
      cases hholds : r.holdsText actual expected with
      | none =>
        have hordering := Relation.holdsText_eq_none_iff.1 hholds
        -- the catalog allows no order of a text field
        have hkind : field.kind = .numeric := by
          cases hkind : field.kind with
          | numeric => rfl
          | text =>
            rw [horder hkind] at hordering
            cases hordering
        exact .inr (.inl ⟨.intro hfield hkind hordering,
          by simp [outcome, hknown, hvalue, hread, hholds]⟩)
      | some answer =>
        refine .inr (.inr ⟨fun horders => ?_, answer,
          by simp [outcome, hknown, hvalue, hread, hholds]⟩)
        cases horders with
        | intro _ _ hordering =>
          rw [Relation.holdsText_eq_none_iff.2 hordering] at hholds
          cases hholds

end Comparison

namespace Schema

variable {schema : Schema} {source : String} {c : Condition}

/-- **What an accepted comparison can lack is a value.** A comparison of an accepted condition has
an answer, unless the field has no value or one that cannot be read as the literal's kind. The
exception is a numeric field that is asked how it is ordered against a text: such a comparison is
accepted, and has no answer whatever the value. -/
theorem outcome_of_compile (h : schema.compile source = .ok c) (facts : Facts) :
    ∀ d ∈ c.comparisons,
      (¬ d.OrdersText schema.catalog →
        (∃ answer, d.outcome schema.catalog facts = .ok answer) ∨
          ∃ o, d.Obstructed facts o ∧ d.outcome schema.catalog facts = .error o) ∧
      (d.OrdersText schema.catalog →
        d.outcome schema.catalog facts = .error (.orderedText d.relation) ∨
          ∃ o, d.Obstructed facts o ∧ d.outcome schema.catalog facts = .error o) := by
  intro d hd
  have hlegal := (compile_eq_ok_iff.1 h).legal d hd
  rcases hlegal.outcome_cases facts with hobstructed | ⟨horders, hord⟩ | ⟨hnot, hanswer⟩
  · exact ⟨fun _ => .inr hobstructed, fun _ => .inr hobstructed⟩
  · exact ⟨fun hnot => absurd horders hnot, fun _ => .inl hord⟩
  · exact ⟨fun _ => .inl hanswer, fun horders => absurd horders hnot⟩

/-- A number is compared with a text, first for its order and then for equality. -/
theorem outcome_of_compile_text :
    let facts : Facts := ⟨.ofMembers [("amount", .integer 7)], .ofMembers []⟩
    ∃ ordered equal : Comparison,
      standard.compile "amount > '5' or amount = '7'" =
        .ok (.or (.compare ordered) (.compare equal) 13) ∧
      ordered.OrdersText Catalog.standard ∧
      (ordered.outcome Catalog.standard facts = .error (.orderedText .greater) ∨
        ∃ o, ordered.Obstructed facts o ∧ ordered.outcome Catalog.standard facts = .error o) ∧
      ¬ equal.OrdersText Catalog.standard ∧
      ((∃ answer, equal.outcome Catalog.standard facts = .ok answer) ∨
        ∃ o, equal.Obstructed facts o ∧ equal.outcome Catalog.standard facts = .error o) := by
  intro facts
  have hcompile : standard.compile "amount > '5' or amount = '7'" =
      .ok (.or (.compare ⟨.greater, .field "amount" 0, .literal (.text "5") 9, 7⟩)
        (.compare ⟨.equal, .field "amount" 16, .literal (.text "7") 25, 23⟩) 13) :=
    eq_ok_of_toOption (by decide +kernel)
  have hfield : Catalog.standard.find? "amount" = some (.named "amount" .numeric) := by
    decide +kernel
  have horders : Comparison.OrdersText Catalog.standard
      ⟨.greater, .field "amount" 0, .literal (.text "5") 9, 7⟩ := .intro hfield rfl rfl
  have hnot : ¬ Comparison.OrdersText Catalog.standard
      ⟨.equal, .field "amount" 16, .literal (.text "7") 25, 23⟩ := by
    rintro ⟨_, _, hordering⟩
    cases hordering
  have houtcome := outcome_of_compile hcompile facts
  exact ⟨_, _, hcompile, horders, (houtcome _ (.head _)).2 horders, hnot,
    (houtcome _ (.tail _ (.head _))).1 hnot⟩

/-- An accepted comparison that asks for the order of a text: the catalog allows every relation to a
numeric field, and the value of one can be read as a text. -/
theorem compile_orderedText :
    ∃ d : Comparison, standard.compile "amount > '7'" = .ok (.compare d) ∧
      d.outcome Catalog.standard ⟨.ofMembers [("amount", .integer 7)], .ofMembers []⟩ =
        .error (.orderedText .greater) := by
  refine ⟨⟨.greater, .field "amount" 0, .literal (.text "7") 9, 7⟩,
    eq_ok_of_toOption (by decide +kernel), ?_⟩
  rfl

end Schema

end Screening
