import Screening.Proofs.Directory
import Screening.Rule.Book

/-!
# What a rule book answers

A `Ledger` is what a rule book is meant to be: the rules under their identifiers, as a plain map,
and the limits in force. It knows no snapshot. `Request` lists what may be asked of a book, and
`Ledger.Answers` says which answer is the right one.

A book follows a ledger (`Follows`) if both have the same rules and limits and the book's snapshot,
should it have one, is what would be made of its rules now. A request keeps that up and is answered
rightly (`Follows.perform`), whether it changes a rule or only asks for one, and so does every
finite sequence of requests (`answers_of_requests`).
-/

namespace Screening

/-! ## The order of prepared rules -/

namespace PreparedRule

/-- One rule is applied before another: by priority, and then by identifier. -/
def Precedes (r s : PreparedRule) : Prop :=
  r.rule.priority < s.rule.priority ∨ r.rule.priority = s.rule.priority ∧ r.rule.id < s.rule.id

theorem comesBefore_iff {r s : PreparedRule} :
    r.comesBefore s = true ↔ r.rule.priority < s.rule.priority ∨
      r.rule.priority = s.rule.priority ∧ r.rule.id ≤ s.rule.id := by
  simp only [comesBefore, Bool.or_eq_true, Bool.and_eq_true, decide_eq_true_eq, beq_iff_eq,
    Bool.not_eq_true', decide_eq_false_iff_not, String.not_lt]

theorem comesBefore_trans (r s t : PreparedRule) (hrs : r.comesBefore s = true)
    (hst : s.comesBefore t = true) : r.comesBefore t = true := by
  rw [comesBefore_iff] at hrs hst ⊢
  rcases hrs with hrs | ⟨hrs, hid⟩ <;> rcases hst with hst | ⟨hst, hid'⟩
  · exact .inl (Int.lt_trans hrs hst)
  · exact .inl (hst ▸ hrs)
  · exact .inl (hrs ▸ hst)
  · exact .inr ⟨hrs.trans hst, String.le_trans hid hid'⟩

theorem comesBefore_total (r s : PreparedRule) : (r.comesBefore s || s.comesBefore r) = true := by
  rw [Bool.or_eq_true, comesBefore_iff, comesBefore_iff]
  rcases Int.lt_trichotomy r.rule.priority s.rule.priority with h | h | h
  · exact .inl (.inl h)
  · rcases String.le_total r.rule.id s.rule.id with hid | hid
    · exact .inl (.inr ⟨h, hid⟩)
    · exact .inr (.inr ⟨h.symm, hid⟩)
  · exact .inr (.inl h)

/-- Rules with different identifiers are sorted strictly. -/
theorem pairwise_sort {rules : List PreparedRule}
    (h : rules.Pairwise fun r s => r.rule.id ≠ s.rule.id) : (sort rules).Pairwise Precedes := by
  have hsorted := List.pairwise_mergeSort comesBefore_trans comesBefore_total rules
  have hids := (List.mergeSort_perm rules comesBefore).symm.pairwise h fun hne => Ne.symm hne
  refine (hsorted.and hids).imp fun {r s} hrs => ?_
  rcases comesBefore_iff.1 hrs.1 with hlt | ⟨heq, hle⟩
  · exact .inl hlt
  · exact .inr ⟨heq, Decidable.byContradiction fun hge =>
      hrs.2 (String.le_antisymm hle (String.not_lt.1 hge))⟩

end PreparedRule

/-! ## Requests and answers -/

/-- What may be asked of a rule book. -/
inductive Request where
  | upsert (rule : Rule)
  | disable (id : String)
  | remove (id : String)
  | invalidate
  | withLimits (limits : Limits)
  | enabled
  | find (id : String)
  | size

/-- What a rule book answers. -/
inductive Answer where
  | done
  /-- Whether there was a rule to change. -/
  | changed (found : Bool)
  /-- The rule that was asked for or taken out. -/
  | rule (rule : Option Rule)
  /-- The enabled rules. -/
  | rules (rules : List PreparedRule)
  | count (n : Nat)

/-- The answer of a rule book, and the book behind it. -/
def RuleBook.perform (book : RuleBook) : Request → Answer × RuleBook
  | .upsert rule => (.done, book.upsert rule)
  | .disable id => (.changed (book.disable id).1, (book.disable id).2)
  | .remove id => (.rule (book.remove id).1, (book.remove id).2)
  | .invalidate => (.done, book.invalidate)
  | .withLimits limits => (.done, book.withLimits limits)
  | .enabled => (.rules book.enabled.1.rules, book.enabled.2)
  | .find id => (.rule (book.find? id), book)
  | .size => (.count book.size, book)

/-- The book behind a sequence of requests. -/
def RuleBook.performAll (book : RuleBook) (requests : List Request) : RuleBook :=
  requests.foldl (fun book request => (book.perform request).2) book

/-! ## Ledgers -/

/-- Rules under their identifiers, and the limits in force. -/
structure Ledger where
  rules : String → Option Rule
  limits : Limits

namespace Ledger

/-- Keeps a rule, or nothing, under an identifier. -/
def write (ledger : Ledger) (id : String) (entry : Option Rule) : Ledger :=
  { ledger with rules := fun other => if other = id then entry else ledger.rules other }

/-- Nothing changes when what is written is there already. -/
theorem write_eq_self {ledger : Ledger} {id : String} {entry : Option Rule}
    (h : ledger.rules id = entry) : ledger.write id entry = ledger := by
  have hrules : (fun other => if other = id then entry else ledger.rules other) = ledger.rules := by
    funext other
    split
    · next heq => rw [heq, h]
    · rfl
  rw [write, hrules]

/-- The ledger behind a request. Only four requests change anything. -/
def apply (ledger : Ledger) : Request → Ledger
  | .upsert rule => ledger.write rule.id (some rule)
  | .disable id =>
      ledger.write id ((ledger.rules id).map fun rule => { rule with enabled := false })
  | .remove id => ledger.write id none
  | .withLimits limits => { ledger with limits }
  | .invalidate | .enabled | .find _ | .size => ledger

/-- The ledger behind a sequence of requests. -/
def applyAll (ledger : Ledger) (requests : List Request) : Ledger := requests.foldl apply ledger

/-- The ledger with the given rules; of rules with one identifier the last is kept. -/
def ofRules (limits : Limits) (rules : List Rule) : Ledger :=
  applyAll ⟨fun _ => none, limits⟩ (rules.map .upsert)

/-- The enabled rules of a ledger, each prepared once, in the order in which they are applied. -/
structure Serves (ledger : Ledger) (catalog : Catalog) (rules : List PreparedRule) : Prop where
  mem_iff : ∀ r, r ∈ rules ↔ ∃ id rule, ledger.rules id = some rule ∧ rule.enabled = true ∧
    r = Schema.prepare ⟨catalog, ledger.limits⟩ rule
  ordered : rules.Pairwise PreparedRule.Precedes

/-- How many identifiers have a rule. -/
def Counts (ledger : Ledger) (n : Nat) : Prop :=
  ∃ ids : List String, ids.Nodup ∧ (∀ id, id ∈ ids ↔ (ledger.rules id).isSome) ∧ ids.length = n

/-- The right answer to a request. -/
def Answers (ledger : Ledger) (catalog : Catalog) : Request → Answer → Prop
  | .upsert _, .done | .invalidate, .done | .withLimits _, .done => True
  | .disable id, .changed found => found = (ledger.rules id).isSome
  | .remove id, .rule rule | .find id, .rule rule => rule = ledger.rules id
  | .enabled, .rules rules => ledger.Serves catalog rules
  | .size, .count n => ledger.Counts n
  | _, _ => False

end Ledger

/-! ## Books that follow a ledger -/

namespace RuleBook

variable {book : RuleBook} {ledger : Ledger} {catalog : Catalog} {schema : Schema}

/-- A book has the rules and limits of a ledger, keeps every rule under its own identifier, and a
snapshot of it is what would be made of its rules now. -/
structure Follows (book : RuleBook) (ledger : Ledger) (catalog : Catalog) : Prop where
  schema_eq : book.schema = ⟨catalog, ledger.limits⟩
  find?_eq : ∀ id, book.rules.find? id = ledger.rules id
  id_eq : ∀ id rule, ledger.rules id = some rule → rule.id = id
  fresh : ∀ snapshot, book.snapshot = some snapshot →
    snapshot.rules = PreparedRule.sort book.prepared

/-- Whether the rules are taken from a snapshot or prepared now makes no difference. -/
theorem Follows.rules_enabled (h : book.Follows ledger catalog) :
    book.enabled.1.rules = PreparedRule.sort book.prepared := by
  unfold RuleBook.enabled
  split
  · next snapshot hs => exact h.fresh snapshot hs
  · rfl

/-- The prepared rules are those of the ledger that are enabled. -/
theorem Follows.mem_prepared (h : book.Follows ledger catalog) {r : PreparedRule} :
    r ∈ book.prepared ↔ ∃ id rule, ledger.rules id = some rule ∧ rule.enabled = true ∧
      r = Schema.prepare ⟨catalog, ledger.limits⟩ rule := by
  rw [prepared, List.mem_map, h.schema_eq]
  constructor
  · rintro ⟨rule, hrule, rfl⟩
    obtain ⟨hvalue, henabled⟩ := List.mem_filter.1 hrule
    obtain ⟨id, hid⟩ := Directory.mem_values_iff.1 hvalue
    exact ⟨id, rule, h.find?_eq id ▸ hid, henabled, rfl⟩
  · rintro ⟨id, rule, hid, henabled, rfl⟩
    have hvalue := Directory.mem_values_iff.2 ⟨id, (h.find?_eq id).trans hid⟩
    exact ⟨rule, List.mem_filter.2 ⟨hvalue, henabled⟩, rfl⟩

/-- The prepared rules have different identifiers. -/
theorem Follows.pairwise_prepared (h : book.Follows ledger catalog) :
    book.prepared.Pairwise fun r s => r.rule.id ≠ s.rule.id := by
  have hid : ∀ entry ∈ book.rules.entries, entry.2.id = entry.1 := fun entry he =>
    h.id_eq _ _ ((h.find?_eq _).symm.trans (Directory.mem_entries_iff.1 he))
  have hvalues : book.rules.values.Pairwise fun rule other => rule.id ≠ other.id := by
    refine List.pairwise_map.2 (book.rules.ascending.imp_of_mem fun {a b} ha hb hlt heq => ?_)
    rw [hid a ha, hid b hb] at heq
    rw [heq] at hlt
    exact String.lt_irrefl _ hlt
  exact List.pairwise_map.2 (hvalues.filter Rule.enabled)

theorem Follows.serves (h : book.Follows ledger catalog) :
    ledger.Serves catalog book.enabled.1.rules := by
  rw [h.rules_enabled]
  exact ⟨fun r => List.mem_mergeSort.trans h.mem_prepared,
    PreparedRule.pairwise_sort h.pairwise_prepared⟩

theorem Follows.counts (h : book.Follows ledger catalog) : ledger.Counts book.size := by
  obtain ⟨ids, hnodup, hmem, hlength⟩ := book.rules.exists_names
  exact ⟨ids, hnodup, fun id => h.find?_eq id ▸ hmem id, hlength⟩

/-! ## One request -/

/-- With its snapshot dropped, a book follows a ledger if its rules and limits do. -/
theorem follows_invalidate (hschema : book.schema = ⟨catalog, ledger.limits⟩)
    (hfind : ∀ id, book.rules.find? id = ledger.rules id)
    (hid : ∀ id rule, ledger.rules id = some rule → rule.id = id) :
    book.invalidate.Follows ledger catalog :=
  ⟨hschema, hfind, hid, nofun⟩

theorem Follows.invalidate (h : book.Follows ledger catalog) :
    book.invalidate.Follows ledger catalog :=
  follows_invalidate h.schema_eq h.find?_eq h.id_eq

theorem Follows.withLimits (h : book.Follows ledger catalog) (limits : Limits) :
    (book.withLimits limits).Follows { ledger with limits } catalog :=
  follows_invalidate (by simp only [h.schema_eq]) h.find?_eq h.id_eq

/-- Writing an entry into the ledger under the identifier of its rule keeps every rule under its own
identifier. -/
theorem Follows.id_eq_write (h : book.Follows ledger catalog) {id : String} {entry : Option Rule}
    (hentry : ∀ rule, entry = some rule → rule.id = id) :
    ∀ other rule, (ledger.write id entry).rules other = some rule → rule.id = other := by
  intro other rule hrule
  simp only [Ledger.write] at hrule
  split at hrule
  · next heq => exact heq ▸ hentry rule hrule
  · exact h.id_eq other rule hrule

theorem Follows.upsert (h : book.Follows ledger catalog) (rule : Rule) :
    (book.upsert rule).Follows (ledger.write rule.id (some rule)) catalog := by
  refine follows_invalidate h.schema_eq (fun id => ?_)
    (h.id_eq_write fun other heq => by cases heq; rfl)
  simp only [Directory.find?_insert, h.find?_eq, Ledger.write]

theorem Follows.remove (h : book.Follows ledger catalog) (id : String) :
    (book.remove id).2.Follows (ledger.write id none) catalog := by
  refine follows_invalidate h.schema_eq (fun other => ?_) (h.id_eq_write nofun)
  simp only [Directory.find?_erase, h.find?_eq, Ledger.write]

/-- Nothing is written for an identifier without a rule, and the snapshot is dropped even so. -/
theorem Follows.disable (h : book.Follows ledger catalog) (id : String) :
    (book.disable id).2.Follows (ledger.apply (.disable id)) catalog := by
  unfold RuleBook.disable
  rw [h.find?_eq, Ledger.apply]
  cases hrule : ledger.rules id with
  | none =>
    dsimp only [Option.map_none]
    rw [Ledger.write_eq_self hrule]
    exact h.invalidate
  | some rule =>
    refine follows_invalidate h.schema_eq (fun other => ?_)
      (h.id_eq_write fun changed heq => by cases heq; exact h.id_eq id rule hrule)
    simp only [Directory.find?_insert, h.find?_eq, Ledger.write, Option.map_some]

theorem Follows.enabled (h : book.Follows ledger catalog) :
    book.enabled.2.Follows ledger catalog := by
  unfold RuleBook.enabled
  split
  · exact h
  · exact ⟨h.schema_eq, h.find?_eq, h.id_eq, fun snapshot hs => by cases hs; rfl⟩

/-- **One request.** A book that follows a ledger answers as the ledger says and follows the ledger
behind the request. -/
theorem Follows.perform (h : book.Follows ledger catalog) (request : Request) :
    ledger.Answers catalog request (book.perform request).1 ∧
      (book.perform request).2.Follows (ledger.apply request) catalog := by
  cases request with
  | upsert rule => exact ⟨trivial, h.upsert rule⟩
  | disable id =>
    refine ⟨?_, h.disable id⟩
    show (book.disable id).1 = _
    rw [← h.find?_eq, RuleBook.disable]
    split <;> next heq => rw [heq]; rfl
  | remove id => exact ⟨h.find?_eq id, h.remove id⟩
  | invalidate => exact ⟨trivial, h.invalidate⟩
  | withLimits limits => exact ⟨trivial, h.withLimits limits⟩
  | enabled => exact ⟨h.serves, h.enabled⟩
  | find id => exact ⟨h.find?_eq id, h⟩
  | size => exact ⟨h.counts, h⟩

/-! ## Sequences of requests -/

/-- A book that follows a ledger keeps following it. -/
theorem Follows.performAll (h : book.Follows ledger catalog) (requests : List Request) :
    (book.performAll requests).Follows (ledger.applyAll requests) catalog := by
  induction requests generalizing book ledger with
  | nil => exact h
  | cons request requests ih => exact ih (h.perform request).2

/-- A book with some rules is one into which they have been put one by one. -/
theorem ofRules_eq_performAll (schema : Schema) (rules : List Rule) :
    ofRules schema rules = (empty schema).performAll (rules.map .upsert) := by
  have hinsert : ∀ (rules : List Rule) (d : Directory Rule),
      ({ empty schema with
          rules := (rules.map fun rule => (rule.id, rule)).foldl
            (fun d entry => d.insert entry.1 entry.2) d } : RuleBook) =
        ({ empty schema with rules := d } : RuleBook).performAll (rules.map .upsert) := by
    intro rules
    induction rules with
    | nil => exact fun _ => rfl
    | cons rule rules ih => exact fun d => ih (d.insert rule.id rule)
  exact hinsert rules .empty

theorem follows_empty (schema : Schema) :
    (empty schema).Follows ⟨fun _ => none, schema.limits⟩ schema.catalog :=
  ⟨rfl, fun _ => rfl, nofun, nofun⟩

/-- **A rule book never serves a stale rule list.** Whatever a book has been asked, its next answer
is the one that the ledger gives, and the rules found behind that answer are those of the ledger:
only the four requests that change rules or limits make a difference to it. A book without rules is
one that has been started with none. -/
theorem answers_of_requests (schema : Schema) :
    ofRules schema [] = empty schema ∧
    ∀ (rules : List Rule) (requests : List Request) (request : Request),
      let book := (ofRules schema rules).performAll requests
      let ledger := (Ledger.ofRules schema.limits rules).applyAll requests
      ledger.Answers schema.catalog request (book.perform request).1 ∧
        ∀ id, (book.perform request).2.find? id = (ledger.apply request).rules id := by
  refine ⟨rfl, fun rules requests request => ?_⟩
  have hstart : (ofRules schema rules).Follows (Ledger.ofRules schema.limits rules)
      schema.catalog := by
    rw [ofRules_eq_performAll]
    exact (follows_empty schema).performAll _
  obtain ⟨hanswer, hfollows⟩ := (hstart.performAll requests).perform request
  exact ⟨hanswer, hfollows.find?_eq⟩

end RuleBook

end Screening
