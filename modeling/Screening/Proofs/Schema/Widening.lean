import Screening.Proofs.Catalog
import Screening.Proofs.Evaluation

/-!
# Widening a schema

A schema is widened by adding fields to its catalog and by loosening its limits (`Schema.Within`).
What was legal stays legal (`Comparison.Legal.mono`) and what was allowed stays allowed
(`Limits.Allows.mono`), so an accepted text is accepted as the same condition. The catalog is asked
once more when the condition is applied. A legal comparison has its field in both catalogs, so it
has the same outcome with either (`Comparison.Legal.outcome_eq`), and a condition holds if its
comparisons say so (`Condition.holds_congr`). Together this is `Schema.compile_of_within`.
-/

namespace Screening

variable {catalog catalog' : Catalog} {facts facts' : Facts}

/-! ## Wider catalogs and limits -/

/-- `catalog.Within catalog'` says that every field of the one catalog is in the other one, with the
same kind. -/
def Catalog.Within (catalog catalog' : Catalog) : Prop :=
  ∀ name field, catalog.find? name = some field →
    ∃ field', catalog'.find? name = some field' ∧ field'.kind = field.kind

/-- The one limits exclude what the other ones exclude. -/
structure Limits.Within (limits limits' : Limits) : Prop where
  minLength_le : limits'.minLength ≤ limits.minLength
  maxLength_le : limits.maxLength ≤ limits'.maxLength

/-- The one schema has no field that the other one lacks, and no looser limits. -/
structure Schema.Within (schema schema' : Schema) : Prop where
  catalog : schema.catalog.Within schema'.catalog
  limits : schema.limits.Within schema'.limits

/-- A field may be added to a catalog that does not have it. -/
theorem Catalog.within_insert {field : Field} (h : catalog.find? field.name = none)
    (hname : field.name.toList.all Text.isBlank = false)
    (horigin : field.origin = Origin.ofName field.name) :
    catalog.Within (catalog.insert field hname horigin) := by
  intro other existing hfind
  have hne : other ≠ field.name := by
    rintro rfl
    rw [h] at hfind
    cases hfind
  exact ⟨existing, by rw [Catalog.find?_insert, if_neg hne, hfind], rfl⟩

/-! ## What is accepted -/

/-- A legal comparison is legal in a wider catalog. -/
theorem Comparison.Legal.mono {c : Comparison} (hwithin : catalog.Within catalog')
    (h : c.Legal catalog) : c.Legal catalog' := by
  cases h with
  | intro hfield horder =>
    obtain ⟨field', hfield', hkind⟩ := hwithin _ _ hfield
    exact .intro hfield' fun htext => horder (hkind ▸ htext)

theorem Limits.Allows.mono {limits limits' : Limits} {source : String}
    (hwithin : limits.Within limits') (h : limits.Allows source) : limits'.Allows source where
  minLength_le := Nat.le_trans hwithin.minLength_le h.minLength_le
  le_maxLength := Nat.le_trans h.le_maxLength hwithin.maxLength_le

/-- An accepted text is accepted as the same condition by a wider schema. -/
theorem Schema.Accepts.mono {schema schema' : Schema} {source : String} {c : Condition}
    (hwithin : schema.Within schema') (h : schema.Accepts source c) : schema'.Accepts source c where
  allowed := h.allowed.mono hwithin.limits
  read_eq := h.read_eq
  legal d hd := (h.legal d hd).mono hwithin.catalog

/-! ## What holds -/

/-- Conditions are applied by their comparisons alone. -/
theorem Condition.holds_congr {c : Condition}
    (h : ∀ d ∈ c.comparisons, d.holds catalog facts = d.holds catalog' facts') :
    c.holds catalog facts = c.holds catalog' facts' := by
  induction c with
  | compare d => exact h d (.head _)
  | not c _ ih => simp only [holds, ih h]
  | and c d _ ihc ihd | or c d _ ihc ihd =>
    simp only [comparisons, List.forall_mem_append] at h
    simp only [holds, ihc h.1, ihd h.2]

/-- A field of the one catalog is known to both. -/
theorem Catalog.Within.contains {name : String} {field : Field} (h : catalog.Within catalog')
    (hfield : catalog.find? name = some field) :
    catalog.contains name = true ∧ catalog'.contains name = true := by
  obtain ⟨field', hfield', -⟩ := h name field hfield
  constructor
  · rw [Directory.contains, hfield]
    rfl
  · rw [Directory.contains, hfield']
    rfl

/-- A legal comparison has the same outcome with a wider catalog. -/
theorem Comparison.Legal.outcome_eq {c : Comparison} (hwithin : catalog.Within catalog')
    (h : c.Legal catalog) (facts : Facts) : c.outcome catalog facts = c.outcome catalog' facts := by
  cases h with
  | intro hfield _ =>
    obtain ⟨hknown, hknown'⟩ := hwithin.contains hfield
    simp only [outcome, hknown, hknown']

/-- A condition of legal comparisons holds of the same facts with a wider catalog. -/
theorem Condition.holds_of_within {c : Condition} (hwithin : catalog.Within catalog')
    (h : ∀ d ∈ c.comparisons, d.Legal catalog) (facts : Facts) :
    c.holds catalog facts = c.holds catalog' facts := by
  refine holds_congr fun d hd => ?_
  simp only [Comparison.holds, (h d hd).outcome_eq hwithin facts]

/-- An accepted text holds if the condition does. -/
theorem Schema.Accepts.holdsText {schema : Schema} {source : String} {c : Condition}
    (h : schema.Accepts source c) (facts : Facts) :
    schema.holdsText facts source = c.holds schema.catalog facts :=
  ((Engine.ofCatalog schema.catalog).coherent_withLimits schema.limits).holdsText_of_accepts h

/-- **Widening a schema changes nothing about an accepted text.** It is accepted as the same
condition with the same normal spelling, and the condition and the text hold of the same facts. -/
theorem Schema.compile_of_within {schema schema' : Schema} (hwithin : schema.Within schema')
    {source : String} {c : Condition} (hcompile : schema.compile source = .ok c) :
    schema'.compile source = .ok c ∧
    (∃ n, schema.validate source = .ok n ∧ schema'.validate source = .ok n) ∧
    ∀ facts, c.holds schema'.catalog facts = c.holds schema.catalog facts ∧
      schema'.holdsText facts source = schema.holdsText facts source := by
  have haccepts := compile_eq_ok_iff.1 hcompile
  have haccepts' := haccepts.mono hwithin
  refine ⟨compile_eq_ok_iff.2 haccepts', ?_, fun facts => ?_⟩
  · exact ⟨normalize source, validate_eq_ok_iff.2 ⟨⟨c, haccepts⟩, rfl⟩,
      validate_eq_ok_iff.2 ⟨⟨c, haccepts'⟩, rfl⟩⟩
  · have hholds := Condition.holds_of_within hwithin.catalog haccepts.legal facts
    refine ⟨hholds.symm, ?_⟩
    calc
      schema'.holdsText facts source = c.holds schema'.catalog facts := haccepts'.holdsText facts
      _ = c.holds schema.catalog facts := hholds.symm
      _ = schema.holdsText facts source := (haccepts.holdsText facts).symm

/-- A text that is as short as the narrower limits allow, with a normal spelling that only the wider
ones allow, and a text that names a field of the wider catalog only. -/
theorem Schema.compile_of_within_field :
    let narrow : Schema := ⟨Catalog.standard, ⟨11, 13⟩⟩
    let wide : Schema :=
      ⟨Catalog.standard.insert (.named "riskScore" .numeric) (by decide +kernel) rfl, ⟨10, 14⟩⟩
    let facts : Facts := ⟨.ofMembers [("amount", .integer 7)], .ofMembers []⟩
    narrow.Within wide ∧
    ∃ c, narrow.compile " amount  > 5 " = .ok c ∧ wide.compile " amount  > 5 " = .ok c ∧
      narrow.validate " amount  > 5 " = .ok "amount > 5" ∧
      wide.validate " amount  > 5 " = .ok "amount > 5" ∧
      c.holds narrow.catalog facts = true ∧ c.holds wide.catalog facts = true ∧
      wide.holdsText facts " amount  > 5 " = narrow.holdsText facts " amount  > 5 " ∧
      (narrow.compile "riskScore > 5").toOption = none ∧
      (wide.compile "riskScore > 5").toOption.isSome = true := by
  intro narrow wide facts
  obtain ⟨c, hc⟩ : ∃ c : Condition, c = .compare ⟨.greater, .field "amount" 1,
      .literal (.number ⟨false, 0x4014000000000000, by decide⟩) 11, 9⟩ := ⟨_, rfl⟩
  have hwithin : narrow.Within wide :=
    ⟨Catalog.within_insert (by decide +kernel) (by decide +kernel) rfl, ⟨by decide, by decide⟩⟩
  have hcompile : narrow.compile " amount  > 5 " = .ok c :=
    eq_ok_of_toOption (by rw [hc]; decide +kernel)
  have hvalid : narrow.validate " amount  > 5 " = .ok "amount > 5" :=
    eq_ok_of_toOption (by decide +kernel)
  have hholds : c.holds narrow.catalog facts = true := by
    rw [hc]
    decide +kernel
  obtain ⟨hcompile', ⟨n, hn, hn'⟩, hsame⟩ := Schema.compile_of_within hwithin hcompile
  obtain rfl : n = "amount > 5" := Except.ok.inj (hn.symm.trans hvalid)
  exact ⟨hwithin, c, hcompile, hcompile', hn, hn', hholds, (hsame facts).1.trans hholds,
    (hsame facts).2, by decide +kernel, by decide +kernel⟩

end Screening
