import Screening.Evaluation
import Screening.Proofs.Schema.Acceptance

/-!
# Values that do not fit the kind of their field

The catalog says of each field whether its values are numbers or texts, and the facts may have
something else there (`Facts.Misfit`). A comparison does not ask for the kind of its field, but
reads the value as its literal is written (`Comparison.holds_number_iff`,
`Comparison.holds_text_iff`). What cannot be read as a text cannot be read as a number either
(`Value.asNumber?_of_asText?`), so against a misfit nothing holds, with one exception: a text in a
numeric field equals itself and differs from other texts, and this is found by a comparison with a
text (`Comparison.FindsText`, `Schema.holds_iff_of_misfit`).
-/

namespace Screening

variable {catalog : Catalog} {facts : Facts} {c : Comparison}

/-- `facts.Misfit catalog name` says that the field `name` has no value of its kind: it has none at
all, or one that is not a number although the field is numeric, or not a text although it is one. -/
inductive Facts.Misfit (facts : Facts) (catalog : Catalog) (name : String) : Prop where
  | absent (hvalue : facts.resolve name = none)
  | noNumber {field : Field} {value : Value} (hfield : catalog.find? name = some field)
      (hkind : field.kind = .numeric) (hvalue : facts.resolve name = some value)
      (hread : value.asNumber? = none)
  | noText {field : Field} {value : Value} (hfield : catalog.find? name = some field)
      (hkind : field.kind = .text) (hvalue : facts.resolve name = some value)
      (hread : value.asText? = none)

/-- `c.FindsText catalog facts` says that the comparison `c` asks of a numeric field whether it is a
given text, or whether it is not, that a text stands there, and that this is the answer. -/
inductive Comparison.FindsText (catalog : Catalog) (facts : Facts) : Comparison → Prop where
  | equal {name s : String} {n m position : Nat} {field : Field}
      (hfield : catalog.find? name = some field) (hkind : field.kind = .numeric)
      (hvalue : facts.resolve name = some (.text s)) :
      FindsText catalog facts ⟨.equal, .field name n, .literal (.text s) m, position⟩
  | notEqual {name s t : String} {n m position : Nat} {field : Field}
      (hfield : catalog.find? name = some field) (hkind : field.kind = .numeric)
      (hvalue : facts.resolve name = some (.text s)) (hne : s ≠ t) :
      FindsText catalog facts ⟨.notEqual, .field name n, .literal (.text t) m, position⟩

/-! ## Reading values -/

namespace Value

variable {v : Value}

/-- What cannot be read as a text cannot be read as a number. -/
theorem asNumber?_of_asText? (h : v.asText? = none) : v.asNumber? = none := by
  cases v with
  | null | list | object => rfl
  | boolean | float | integer | text => cases h

/-- What can be read as a text and not as a number is that text. -/
theorem eq_text {s : String} (hnumber : v.asNumber? = none) (htext : v.asText? = some s) :
    v = .text s := by
  cases v with
  | text t =>
    cases htext
    rfl
  | null | list | object => cases htext
  | boolean | float | integer => cases hnumber

end Value

/-- A value that does not fit cannot be read as a number, and if it can be read as a text, then its
field is numeric. -/
theorem Facts.Misfit.unreadable {name : String} {value : Value} (h : facts.Misfit catalog name)
    (hvalue : facts.resolve name = some value) :
    value.asNumber? = none ∧ (value.asText? = none ∨
      ∃ field, catalog.find? name = some field ∧ field.kind = .numeric) := by
  cases h with
  | absent hvalue' =>
    rw [hvalue] at hvalue'
    cases hvalue'
  | noNumber hfield hkind hvalue' hread =>
    rw [hvalue] at hvalue'
    cases hvalue'
    exact ⟨hread, .inr ⟨_, hfield, hkind⟩⟩
  | noText _ _ hvalue' hread =>
    rw [hvalue] at hvalue'
    cases hvalue'
    exact ⟨Value.asNumber?_of_asText? hread, .inl hread⟩

/-! ## What holds -/

namespace Comparison

variable {r : Relation} {name : String} {n m position : Nat}

/-- A comparison with a number holds if the field is known and is a number to which it does. -/
theorem holds_number_eq {x : Binary64.Finite} :
    holds catalog facts ⟨r, .field name n, .literal (.number x) m, position⟩ =
      (catalog.contains name &&
        ((facts.resolve name).bind Value.asNumber?).any fun y => r.holds y (.finite x)) := by
  cases hknown : catalog.contains name with
  | false => simp [holds, outcome, hknown]
  | true =>
    cases hvalue : facts.resolve name with
    | none => simp [holds, outcome, hknown, hvalue]
    | some value => cases hread : value.asNumber? <;> simp [holds, outcome, hknown, hvalue, hread]

/-- A comparison with a text holds if the field is known and is a text to which it does. -/
theorem holds_text_eq {s : String} :
    holds catalog facts ⟨r, .field name n, .literal (.text s) m, position⟩ =
      (catalog.contains name &&
        ((facts.resolve name).bind Value.asText?).any fun t => r.holdsText t s == some true) := by
  cases hknown : catalog.contains name with
  | false => simp [holds, outcome, hknown]
  | true =>
    cases hvalue : facts.resolve name with
    | none => simp [holds, outcome, hknown, hvalue]
    | some value =>
      cases hread : value.asText? with
      | none => simp [holds, outcome, hknown, hvalue, hread]
      | some actual =>
        cases hanswer : r.holdsText actual s <;>
          simp [holds, outcome, hknown, hvalue, hread, hanswer]

/-- A comparison with a number holds if the value is read as a number to which it does. -/
theorem holds_number_iff (hknown : catalog.contains name = true) {x : Binary64.Finite} :
    holds catalog facts ⟨r, .field name n, .literal (.number x) m, position⟩ = true ↔
      ∃ value actual, facts.resolve name = some value ∧ value.asNumber? = some actual ∧
        r.holds actual (.finite x) = true := by
  rw [holds_number_eq, hknown, Bool.true_and, Option.any_eq_true]
  constructor
  · rintro ⟨actual, hfound, hholds⟩
    obtain ⟨value, hvalue, hread⟩ := Option.bind_eq_some_iff.1 hfound
    exact ⟨value, actual, hvalue, hread, hholds⟩
  · rintro ⟨value, actual, hvalue, hread, hholds⟩
    exact ⟨actual, Option.bind_eq_some_iff.2 ⟨value, hvalue, hread⟩, hholds⟩

/-- A comparison with a text holds if the value is read as a text to which it does. -/
theorem holds_text_iff (hknown : catalog.contains name = true) {s : String} :
    holds catalog facts ⟨r, .field name n, .literal (.text s) m, position⟩ = true ↔
      ∃ value actual, facts.resolve name = some value ∧ value.asText? = some actual ∧
        r.holdsText actual s = some true := by
  rw [holds_text_eq, hknown, Bool.true_and, Option.any_eq_true]
  constructor
  · rintro ⟨actual, hfound, hholds⟩
    obtain ⟨value, hvalue, hread⟩ := Option.bind_eq_some_iff.1 hfound
    exact ⟨value, actual, hvalue, hread, beq_iff_eq.1 hholds⟩
  · rintro ⟨value, actual, hvalue, hread, hholds⟩
    exact ⟨actual, Option.bind_eq_some_iff.2 ⟨value, hvalue, hread⟩, beq_iff_eq.2 hholds⟩

/-- A legal comparison with a field whose value does not fit holds if it finds a text there. -/
theorem Legal.holds_iff_findsText (h : c.Legal catalog) (hleft : c.left = .field name n)
    (hmisfit : facts.Misfit catalog name) :
    c.holds catalog facts = true ↔ c.FindsText catalog facts := by
  cases h with
  | @intro r name literal n m position field hfield horder =>
  cases hleft
  have hknown : catalog.contains name = true := by
    rw [Directory.contains, hfield]
    rfl
  constructor
  · intro hholds
    cases literal with
    | number x =>
      obtain ⟨value, actual, hvalue, hread, -⟩ := (holds_number_iff hknown).1 hholds
      rw [(hmisfit.unreadable hvalue).1] at hread
      cases hread
    | text s =>
      obtain ⟨value, actual, hvalue, hread, hanswer⟩ := (holds_text_iff hknown).1 hholds
      obtain ⟨hnumber, htext | ⟨field', hfield', hkind⟩⟩ := hmisfit.unreadable hvalue
      · rw [htext] at hread
        cases hread
      obtain rfl := Value.eq_text hnumber hread
      cases r with
      | equal =>
        obtain rfl : actual = s := by simpa [Relation.holdsText] using hanswer
        exact .equal hfield' hkind hvalue
      | notEqual =>
        have hne : actual ≠ s := by simpa [Relation.holdsText] using hanswer
        exact .notEqual hfield' hkind hvalue hne
      | less | greater | atMost | atLeast => cases hanswer
  · intro hfinds
    cases hfinds with
    | equal _ _ hvalue =>
      exact (holds_text_iff hknown).2 ⟨_, _, hvalue, rfl, by simp [Relation.holdsText]⟩
    | notEqual _ _ hvalue hne =>
      exact (holds_text_iff hknown).2 ⟨_, _, hvalue, rfl, by simpa [Relation.holdsText] using hne⟩

end Comparison

namespace Schema

/-- **What holds of a value that does not fit.** A comparison of an accepted condition with a field
that has no value of its kind does not hold, whatever it asks, unless it finds a text in a numeric
field. -/
theorem holds_iff_of_misfit {schema : Schema} {source : String} {c : Condition}
    (h : schema.compile source = .ok c) (facts : Facts) :
    ∀ d ∈ c.comparisons, ∀ name n, d.left = .field name n → facts.Misfit schema.catalog name →
      (d.holds schema.catalog facts = true ↔ d.FindsText schema.catalog facts) := by
  intro d hd name n hleft hmisfit
  exact ((compile_eq_ok_iff.1 h).legal d hd).holds_iff_findsText hleft hmisfit

/-- A text in a numeric field is found, and a list in a text field does not even differ from a
text. -/
theorem holds_iff_of_misfit_list :
    let facts : Facts :=
      ⟨.ofMembers [("amount", .text "high"), ("currency", .list [])], .ofMembers []⟩
    ∃ found differs : Comparison,
      standard.compile "amount = 'high' or currency != 'EUR'" =
        .ok (.or (.compare found) (.compare differs) 16) ∧
      facts.Misfit Catalog.standard "amount" ∧ found.holds Catalog.standard facts = true ∧
      facts.Misfit Catalog.standard "currency" ∧ differs.holds Catalog.standard facts = false := by
  intro facts
  have hcompile : standard.compile "amount = 'high' or currency != 'EUR'" =
      .ok (.or (.compare ⟨.equal, .field "amount" 0, .literal (.text "high") 9, 7⟩)
        (.compare ⟨.notEqual, .field "currency" 19, .literal (.text "EUR") 31, 28⟩) 16) :=
    eq_ok_of_toOption (by decide +kernel)
  have hamount : Catalog.standard.find? "amount" = some (.named "amount" .numeric) := by
    decide +kernel
  have hcurrency : Catalog.standard.find? "currency" = some (.named "currency" .text) := by
    decide +kernel
  have hmisfit : facts.Misfit Catalog.standard "amount" := .noNumber hamount rfl rfl rfl
  have hmisfit' : facts.Misfit Catalog.standard "currency" := .noText hcurrency rfl rfl rfl
  have hholds := holds_iff_of_misfit hcompile facts
  refine ⟨_, _, hcompile, hmisfit, (hholds _ (.head _) _ _ rfl hmisfit).2 (.equal hamount rfl rfl),
    hmisfit', Bool.eq_false_iff.2 fun hdiffers => ?_⟩
  cases (hholds _ (.tail _ (.head _)) _ _ rfl hmisfit').1 hdiffers with
  | notEqual hfield hkind =>
    cases hcurrency.symm.trans hfield
    cases hkind

/-- An accepted comparison that holds although the value of its field is no number: the literal is a
text, so the value is read as one. -/
theorem holds_of_misfit :
    let facts : Facts := ⟨.ofMembers [("amount", .text "high")], .ofMembers []⟩
    ∃ d : Comparison, standard.compile "amount = 'high'" = .ok (.compare d) ∧
      d.left = .field "amount" 0 ∧ facts.Misfit Catalog.standard "amount" ∧
      d.holds Catalog.standard facts = true := by
  intro facts
  have hamount : Catalog.standard.find? "amount" = some (.named "amount" .numeric) := by
    decide +kernel
  exact ⟨⟨.equal, .field "amount" 0, .literal (.text "high") 9, 7⟩,
    eq_ok_of_toOption (by decide +kernel), rfl, .noNumber hamount rfl rfl rfl, by decide +kernel⟩

end Schema

end Screening
