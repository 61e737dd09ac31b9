import Screening.Proofs.Catalog
import Screening.Proofs.Schema.Widening

/-!
# What a condition reads

A comparison asks for the field on its left, and for nothing if no field stands there or the catalog
does not have it (`Comparison.outcome_congr`). So whether a condition holds depends on the fields
that it reads and on nothing else in the facts.

Where the value of a field is found is said twice, by the catalog, which goes by the beginning of
the name, and by the route to the value, and both say the same of every name
(`Route.origin_ofName`). So a condition that reads the fields of the user alone does not depend on
the transaction, and one that reads the fields of the transaction alone does not depend on the user
(`Condition.holds_of_reads`).
-/

namespace Screening

variable {catalog : Catalog} {facts facts' : Facts}

/-! ## Fields -/

/-- The field that a comparison asks about: the one on its left. -/
def Comparison.subject? (c : Comparison) : Option String :=
  match c.left with
  | .field name _ => some name
  | .literal .. => none

/-- A comparison depends on the value of the field on its left, if the catalog has the field. -/
theorem Comparison.outcome_congr {c : Comparison}
    (h : ∀ name, c.subject? = some name → catalog.contains name = true →
      facts.resolve name = facts'.resolve name) :
    c.outcome catalog facts = c.outcome catalog facts' := by
  obtain ⟨r, left, right, position⟩ := c
  cases left with
  | literal => cases right <;> rfl
  | field name n =>
    cases right with
    | field => rfl
    | literal value m =>
      cases hknown : catalog.contains name with
      | false => simp [outcome, hknown]
      | true =>
        have hvalue : facts.resolve name = facts'.resolve name := h name rfl hknown
        simp only [outcome, hvalue]

theorem Comparison.holds_congr {c : Comparison}
    (h : ∀ name, c.subject? = some name → catalog.contains name = true →
      facts.resolve name = facts'.resolve name) :
    c.holds catalog facts = c.holds catalog facts' := by
  simp only [holds, outcome_congr h]

/-- `c.Reads catalog name` says that the field `name` stands on the left of a comparison of `c` and
is in the catalog. -/
def Condition.Reads (catalog : Catalog) (c : Condition) (name : String) : Prop :=
  (∃ d ∈ c.comparisons, d.subject? = some name) ∧ catalog.contains name = true

/-- A condition reads the facts through its fields. -/
theorem Condition.holds_of_forall_reads {c : Condition}
    (h : ∀ name, c.Reads catalog name → facts.resolve name = facts'.resolve name) :
    c.holds catalog facts = c.holds catalog facts' :=
  holds_congr fun d hd => Comparison.holds_congr fun name hname hknown =>
    h name ⟨⟨d, hd, hname⟩, hknown⟩

/-! ## Records -/

/-- The record that a route leads into. -/
def Route.origin : Route → Origin
  | .user _ => .user
  | .attribute _ | .member .. => .transaction

/-- The route to the value of a field leads into the record that its name says. -/
theorem Route.origin_ofName (name : String) : (ofName name).origin = Origin.ofName name := by
  unfold ofName Origin.ofName
  cases userKey? name with
  | some => rfl
  | none => cases splitAtDot? name.toList <;> rfl

/-- A field of the user is looked up in the user alone. -/
theorem Facts.resolve_of_user {name : String} (h : Origin.ofName name = .user)
    (transaction transaction' user : Value) :
    (Facts.mk transaction user).resolve name = (Facts.mk transaction' user).resolve name := by
  rw [← Route.origin_ofName] at h
  unfold resolve
  cases hroute : Route.ofName name with
  | user => rfl
  | _ =>
    rw [hroute] at h
    cases h

/-- A field of the transaction is looked up in the transaction alone. -/
theorem Facts.resolve_of_transaction {name : String} (h : Origin.ofName name = .transaction)
    (transaction user user' : Value) :
    (Facts.mk transaction user).resolve name = (Facts.mk transaction user').resolve name := by
  rw [← Route.origin_ofName] at h
  unfold resolve
  cases hroute : Route.ofName name with
  | user =>
    rw [hroute] at h
    cases h
  | _ => rfl

/-- `c.ReadsFrom catalog origin` says that all fields that `c` reads are kept in the catalog as
fields of one record. -/
def Condition.ReadsFrom (catalog : Catalog) (c : Condition) (origin : Origin) : Prop :=
  ∀ name field, c.Reads catalog name → catalog.find? name = some field → field.origin = origin

/-- The catalog's word for the record of a field is the name's. -/
theorem Condition.ReadsFrom.origin_eq {c : Condition} {origin : Origin} {name : String}
    (h : c.ReadsFrom catalog origin) (hreads : c.Reads catalog name) :
    Origin.ofName name = origin := by
  obtain ⟨field, hfield⟩ := Option.isSome_iff_exists.1 hreads.2
  rw [← h name field hreads hfield, Catalog.eq_named hfield]
  rfl

/-- **A condition sees the fields that it names.** Facts in which these fields have the same values
are the same to it, whatever else they say; a field that the catalog does not have need not have the
same value either. If the catalog keeps all these fields as fields of the user, then the transaction
makes no difference, and if it keeps them as fields of the transaction, then the user makes none. -/
theorem Condition.holds_of_reads (catalog : Catalog) (c : Condition) :
    (∀ facts facts' : Facts,
      (∀ name, c.Reads catalog name → facts.resolve name = facts'.resolve name) →
      c.holds catalog facts = c.holds catalog facts') ∧
    (c.ReadsFrom catalog .user → ∀ transaction transaction' user : Value,
      c.holds catalog ⟨transaction, user⟩ = c.holds catalog ⟨transaction', user⟩) ∧
    (c.ReadsFrom catalog .transaction → ∀ transaction user user' : Value,
      c.holds catalog ⟨transaction, user⟩ = c.holds catalog ⟨transaction, user'⟩) := by
  refine ⟨fun facts facts' h => holds_of_forall_reads h, ?_, ?_⟩
  · intro hfrom transaction transaction' user
    refine holds_of_forall_reads fun name hreads => ?_
    exact Facts.resolve_of_user (hfrom.origin_eq hreads) transaction transaction' user
  · intro hfrom transaction user user'
    refine holds_of_forall_reads fun name hreads => ?_
    exact Facts.resolve_of_transaction (hfrom.origin_eq hreads) transaction user user'

/-- Two facts that differ in a field that the catalog does not have, and conditions on the user
alone and on the transaction alone. -/
theorem Condition.holds_of_reads_region :
    let facts : Facts := ⟨.ofMembers [("score", .integer 1)], .ofMembers [("region", .text "EU")]⟩
    let facts' : Facts := ⟨.ofMembers [("score", .integer 2)], .ofMembers [("region", .text "EU")]⟩
    let region : Condition :=
      .compare ⟨.equal, .field "user.region" 0, .literal (.text "EU") 14, 12⟩
    let currency : Condition := .compare ⟨.equal, .field "currency" 0, .literal (.text "X") 11, 9⟩
    let score : Condition := .compare ⟨.equal, .field "score" 22, .literal (.text "2") 30, 28⟩
    let both : Condition := .or region score 19
    ((∀ name, both.Reads Catalog.standard name → facts.resolve name = facts'.resolve name) ∧
      facts.resolve "score" ≠ facts'.resolve "score" ∧
      both.holds Catalog.standard facts = both.holds Catalog.standard facts') ∧
    (both.ReadsFrom Catalog.standard .user ∧ ∀ transaction transaction' user : Value,
      both.holds Catalog.standard ⟨transaction, user⟩ =
        both.holds Catalog.standard ⟨transaction', user⟩) ∧
    (currency.ReadsFrom Catalog.standard .transaction ∧ ∀ transaction user user' : Value,
      currency.holds Catalog.standard ⟨transaction, user⟩ =
        currency.holds Catalog.standard ⟨transaction, user'⟩) := by
  intro facts facts' region currency score both
  have hboth : ∀ name, both.Reads Catalog.standard name → name = "user.region" := by
    rintro name ⟨⟨d, hd, hname⟩, hknown⟩
    simp only [both, region, score, comparisons, List.singleton_append, List.mem_cons,
      List.not_mem_nil, or_false] at hd
    rcases hd with rfl | rfl
    · cases hname
      rfl
    · cases hname
      cases hknown
  have hcurrency : ∀ name, currency.Reads Catalog.standard name → name = "currency" := by
    rintro name ⟨⟨d, hd, hname⟩, -⟩
    cases List.mem_singleton.1 hd
    cases hname
    rfl
  have hsame : ∀ name, both.Reads Catalog.standard name →
      facts.resolve name = facts'.resolve name := by
    intro name hreads
    rw [hboth name hreads]
    rfl
  have hdiffers : facts.resolve "score" ≠ facts'.resolve "score" := by
    intro h
    cases h
  have huser : both.ReadsFrom Catalog.standard .user := by
    intro name field hreads hfield
    rw [hboth name hreads] at hfield
    cases hfield
    rfl
  have htransaction : currency.ReadsFrom Catalog.standard .transaction := by
    intro name field hreads hfield
    rw [hcurrency name hreads] at hfield
    cases hfield
    rfl
  exact ⟨⟨hsame, hdiffers, (holds_of_reads Catalog.standard both).1 facts facts' hsame⟩,
    ⟨huser, (holds_of_reads Catalog.standard both).2.1 huser⟩,
    htransaction, (holds_of_reads Catalog.standard currency).2.2 htransaction⟩

end Screening
