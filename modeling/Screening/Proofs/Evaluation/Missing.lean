import Mathlib.Algebra.Ring.Parity
import Screening.Proofs.Evaluation.Scope

/-!
# Missing values

A comparison does not hold if its field has no value (`Comparison.holds_of_absent`). So where values
are missing, fewer comparisons hold, and no more than that can be said of them
(`Facts.Without.holds_of_holds`). What it does to a condition depends on the negations that the
comparisons stand under (`Condition.occurrences`): a condition follows a comparison that stands
under an even number of them, and goes against one that stands under an odd number
(`Condition.holds_mono`).

Hence `Condition.holds_of_missing`: if a field is only asked about under even numbers of negations,
then a condition that holds without its value also holds with it, and if only under odd numbers,
then a condition that holds with its value also holds without it.
-/

namespace Screening

variable {catalog : Catalog} {facts facts' : Facts}

/-! ## Comparisons -/

/-- A comparison does not hold of a field without a value. -/
theorem Comparison.holds_of_absent {c : Comparison} {name : String} (hname : c.subject? = some name)
    (habsent : facts.resolve name = none) : c.holds catalog facts = false := by
  obtain ⟨r, left, right, position⟩ := c
  cases left with
  | literal => cases hname
  | field =>
    cases hname
    cases right with
    | field => rfl
    | literal value m => cases hknown : catalog.contains name <;> simp [holds, outcome, *]

/-- `facts.Without missing facts'` says that `facts'` are the facts without the values of the
fields that are `missing`. -/
structure Facts.Without (facts : Facts) (missing : String → Prop) (facts' : Facts) : Prop where
  resolve_eq_none : ∀ name, missing name → facts'.resolve name = none
  resolve_eq : ∀ name, ¬ missing name → facts'.resolve name = facts.resolve name

namespace Facts.Without

variable {missing : String → Prop} {c : Comparison}

/-- A comparison whose field is not missing holds as before. -/
theorem holds_eq (h : facts.Without missing facts')
    (hname : ∀ name, c.subject? = some name → ¬ missing name) :
    c.holds catalog facts' = c.holds catalog facts :=
  Comparison.holds_congr fun name hsubject _ => h.resolve_eq name (hname name hsubject)

/-- No comparison begins to hold when values are missing. -/
theorem holds_of_holds (h : facts.Without missing facts') (hholds : c.holds catalog facts' = true) :
    c.holds catalog facts = true := by
  by_cases hmissing : ∃ name, c.subject? = some name ∧ missing name
  · obtain ⟨name, hname, hmissing⟩ := hmissing
    rw [Comparison.holds_of_absent hname (h.resolve_eq_none name hmissing)] at hholds
    cases hholds
  · rw [← h.holds_eq fun name hname hm => hmissing ⟨name, hname, hm⟩]
    exact hholds

end Facts.Without

/-! ## Null attributes -/

/-- A route into the transaction itself is the name of the field. -/
theorem Route.eq_of_ofName_eq_attribute {name key : String} (h : ofName name = .attribute key) :
    key = name := by
  unfold ofName at h
  split at h
  · cases h
  · split at h
    · cases h
    · cases h
      rfl

/-- An attribute of the transaction that is made null is a field without a value, and no other field
loses its value by that if the attribute has no members. -/
theorem Facts.without_null {members : Directory Value} {key : String} (user : Value)
    (hkey : Route.ofName key = .attribute key)
    (hmember : ∀ sub, (members.find? key).bind (·.member? sub) = none) :
    (Facts.mk (.object members) user).Without (· = key)
      ⟨.object (members.insert key .null), user⟩ where
  resolve_eq_none := by
    rintro _ rfl
    simp only [resolve, hkey, follow, Value.member?, Directory.find?_insert, if_pos]
    rfl
  resolve_eq := by
    intro name hname
    unfold resolve
    match hroute : Route.ofName name with
    | .user _ => rfl
    | .attribute other =>
      have hother : other ≠ key := Route.eq_of_ofName_eq_attribute hroute ▸ hname
      simp only [follow, Value.member?, Directory.find?_insert, if_neg hother]
    | .member other sub =>
      by_cases hother : other = key
      · subst hother
        have hnone : (members.find? other).bind (·.member? sub) = none := hmember sub
        simp only [follow, Value.member?, Directory.find?_insert, if_pos, Option.bind_some]
        exact congrArg (Option.filter _) hnone.symm
      · simp only [follow, Value.member?, Directory.find?_insert, if_neg hother]

namespace Condition

/-! ## Negations -/

/-- The comparisons of a condition in the order in which they are written, each with the number of
negations that it stands under. -/
def occurrences : Condition → List (Comparison × Nat)
  | .compare comparison => [(comparison, 0)]
  | .not operand _ => operand.occurrences.map fun (d, n) => (d, n + 1)
  | .and left right _ | .or left right _ => left.occurrences ++ right.occurrences

/-- What is under a negation is under one more. -/
theorem mem_occurrences_not {c : Condition} {d : Comparison} {n position : Nat}
    (h : (d, n) ∈ c.occurrences) : (d, n + 1) ∈ (Condition.not c position).occurrences :=
  List.mem_map.2 ⟨(d, n), h, rfl⟩

/-- A condition without negations. -/
def NegationFree : Condition → Prop
  | .compare _ => True
  | .not .. => False
  | .and left right _ | .or left right _ => left.NegationFree ∧ right.NegationFree

theorem NegationFree.eq_zero {c : Condition} (h : c.NegationFree) :
    ∀ d n, (d, n) ∈ c.occurrences → n = 0 := by
  induction c with
  | compare =>
    intro d n hmem
    cases List.mem_singleton.1 hmem
    rfl
  | not => exact h.elim
  | and _ _ _ ihl ihr | or _ _ _ ihl ihr =>
    intro d n hmem
    rcases List.mem_append.1 hmem with hmem | hmem
    · exact ihl h.1 d n hmem
    · exact ihr h.2 d n hmem

/-! ## Conditions -/

/-- A condition follows the comparisons that stand under an even number of negations, and goes
against the others. -/
theorem holds_mono {c : Condition}
    (heven : ∀ d n, (d, n) ∈ c.occurrences → Even n →
      d.holds catalog facts = true → d.holds catalog facts' = true)
    (hodd : ∀ d n, (d, n) ∈ c.occurrences → ¬ Even n →
      d.holds catalog facts' = true → d.holds catalog facts = true)
    (hholds : c.holds catalog facts = true) : c.holds catalog facts' = true := by
  induction c generalizing facts facts' with
  | compare d => exact heven d 0 (.head _) Even.zero hholds
  | not c _ ih =>
    -- under the negation the two facts change places
    have hback : c.holds catalog facts' = true → c.holds catalog facts = true := by
      refine ih (fun d n hmem hn => ?_) fun d n hmem hn => ?_
      · exact hodd d (n + 1) (mem_occurrences_not hmem) (by simpa [Nat.even_add_one] using hn)
      · exact heven d (n + 1) (mem_occurrences_not hmem) (Nat.even_add_one.2 hn)
    simp only [holds, Bool.not_eq_true'] at hholds ⊢
    exact Bool.eq_false_iff.2 fun h => Bool.eq_false_iff.1 hholds (hback h)
  | and c d _ ihc ihd =>
    simp only [holds, Bool.and_eq_true] at hholds ⊢
    simp only [occurrences, List.mem_append] at heven hodd
    exact ⟨ihc (fun e n hm => heven e n (.inl hm)) (fun e n hm => hodd e n (.inl hm)) hholds.1,
      ihd (fun e n hm => heven e n (.inr hm)) (fun e n hm => hodd e n (.inr hm)) hholds.2⟩
  | or c d _ ihc ihd =>
    simp only [holds, Bool.or_eq_true] at hholds ⊢
    simp only [occurrences, List.mem_append] at heven hodd
    exact hholds.imp
      (ihc (fun e n hm => heven e n (.inl hm)) fun e n hm => hodd e n (.inl hm))
      (ihd (fun e n hm => heven e n (.inr hm)) fun e n hm => hodd e n (.inr hm))

/-- **Missing values push a condition one way.** If a field is only asked about under even numbers
of negations, then a condition that holds where the field has no value also holds where it has one,
and if only under odd numbers, then a condition that holds where it has a value also holds where it
has none. So a condition without negations that holds where values are missing, of whatever fields,
also holds where they are not. -/
theorem holds_of_missing (catalog : Catalog) (c : Condition) :
    (∀ (name : String) (facts facts' : Facts), facts'.resolve name = none →
      (∀ other, other ≠ name → facts'.resolve other = facts.resolve other) →
      ((∀ d n, (d, n) ∈ c.occurrences → d.subject? = some name → Even n) →
        c.holds catalog facts' = true → c.holds catalog facts = true) ∧
      ((∀ d n, (d, n) ∈ c.occurrences → d.subject? = some name → Odd n) →
        c.holds catalog facts = true → c.holds catalog facts' = true)) ∧
    (c.NegationFree → ∀ facts facts' : Facts,
      (∀ name, facts'.resolve name = none ∨ facts'.resolve name = facts.resolve name) →
      c.holds catalog facts' = true → c.holds catalog facts = true) := by
  constructor
  · intro name facts facts' hnone hother
    have hwithout : facts.Without (· = name) facts' := by
      refine ⟨?_, hother⟩
      rintro _ rfl
      exact hnone
    -- a comparison whose number has the wrong parity asks about another field
    have hsame {d : Comparison} (hd : d.subject? ≠ some name) :
        d.holds catalog facts' = d.holds catalog facts :=
      hwithout.holds_eq fun other hsubject heq => hd (heq ▸ hsubject)
    refine ⟨fun heven => ?_, fun hodd => ?_⟩
    · refine holds_mono (fun d n _ _ => hwithout.holds_of_holds) fun d n hmem hn => ?_
      rw [hsame fun hd => hn (heven d n hmem hd)]
      exact id
    · refine holds_mono (fun d n hmem hn => ?_) fun d n _ _ => hwithout.holds_of_holds
      rw [hsame fun hd => Nat.not_even_iff_odd.2 (hodd d n hmem hd) hn]
      exact id
  · intro hfree facts facts' h
    have hwithout : facts.Without (fun name => facts'.resolve name = none) facts' :=
      ⟨fun _ => id, fun name hname => (h name).resolve_left hname⟩
    refine holds_mono (fun d n _ _ => hwithout.holds_of_holds) fun d n hmem hn => ?_
    exact absurd (hfree.eq_zero d n hmem ▸ Even.zero) hn

/-- A condition that is kept by a currency that is missing and by a merchant that is missing, for a
reason of its own each, and a condition without negations. -/
theorem holds_of_missing_currency :
    let attributes : Directory Value := .ofList [("currency", .text "X"), ("merchantId", .text "m")]
    let given : Facts := ⟨.object attributes, .null⟩
    let currencyless : Facts := ⟨.object (attributes.insert "currency" .null), .null⟩
    let merchantless : Facts := ⟨.object (attributes.insert "merchantId" .null), .null⟩
    let currency : Condition := .compare ⟨.equal, .field "currency" 0, .literal (.text "X") 11, 9⟩
    let merchant : Condition :=
      .compare ⟨.equal, .field "merchantId" 22, .literal (.text "n") 35, 33⟩
    let exempt : Condition := .or currency (.not merchant 18) 15
    let either : Condition := .or currency merchant 15
    (exempt.holds Catalog.standard currencyless = true ∧
      exempt.holds Catalog.standard given = true) ∧
    (exempt.holds Catalog.standard given = true ∧
      exempt.holds Catalog.standard merchantless = true) ∧
    either.NegationFree ∧ either.holds Catalog.standard merchantless = true ∧
      either.holds Catalog.standard given = true := by
  intro attributes given currencyless merchantless currency merchant exempt either
  have hnull {key s : String} (hkey : Route.ofName key = .attribute key)
      (hfind : attributes.find? key = some (.text s)) :
      given.Without (· = key) ⟨.object (attributes.insert key .null), .null⟩ := by
    refine Facts.without_null .null hkey fun _ => ?_
    rw [hfind]
    rfl
  have hcurrency : given.Without (· = "currency") currencyless :=
    hnull (by decide +kernel) (Directory.find?_ofList (by decide) "currency")
  have hmerchant : given.Without (· = "merchantId") merchantless :=
    hnull (by decide +kernel) (Directory.find?_ofList (by decide) "merchantId")
  have heven : ∀ d n, (d, n) ∈ exempt.occurrences → d.subject? = some "currency" → Even n := by
    intro d n hmem hsubject
    rcases List.mem_pair.1 hmem with heq | heq
    · cases heq
      exact Even.zero
    · cases heq
      exact absurd (Option.some.inj hsubject) (by decide)
  have hodd : ∀ d n, (d, n) ∈ exempt.occurrences → d.subject? = some "merchantId" → Odd n := by
    intro d n hmem hsubject
    rcases List.mem_pair.1 hmem with heq | heq
    · cases heq
      exact absurd (Option.some.inj hsubject) (by decide)
    · cases heq
      exact odd_one
  have hcurrencyless : exempt.holds Catalog.standard currencyless = true := by decide +kernel
  have hgiven : exempt.holds Catalog.standard given = true := by decide +kernel
  have heither : either.holds Catalog.standard merchantless = true := by decide +kernel
  have hcurrencies := (holds_of_missing Catalog.standard exempt).1 "currency" given currencyless
    (hcurrency.resolve_eq_none _ rfl) hcurrency.resolve_eq
  have hmerchants := (holds_of_missing Catalog.standard exempt).1 "merchantId" given merchantless
    (hmerchant.resolve_eq_none _ rfl) hmerchant.resolve_eq
  have hfewer : ∀ name, merchantless.resolve name = none ∨
      merchantless.resolve name = given.resolve name := fun name =>
    (em (name = "merchantId")).imp (hmerchant.resolve_eq_none name) (hmerchant.resolve_eq name)
  exact ⟨⟨hcurrencyless, hcurrencies.1 heven hcurrencyless⟩,
    ⟨hgiven, hmerchants.2 hodd hgiven⟩, ⟨trivial, trivial⟩, heither,
    (holds_of_missing Catalog.standard either).2 ⟨trivial, trivial⟩ given merchantless hfewer
      heither⟩

end Condition

end Screening
