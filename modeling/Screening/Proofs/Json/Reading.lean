import Screening.Application
import Screening.Proofs.Json.Lexeme

/-!
# Reading a written JSON value

The machine that puts pieces together makes of the pieces of a value the document of that value
(`Json.completes_written`), whatever lists and tables are open around it. So the compact form of a
value is read as its document (`Json.document?_compact`) and taken over as the value in the order of
the names (`Application.jsonOf_compact`), if its numbers are read as they are written and it is not
nested too deep.
-/

namespace Screening.Json

/-! ## The machine -/

/-- A value may come, if only as the first item of a list. -/
def Stage.AwaitsValue (stage : Stage) : Prop := stage = .value ∨ stage = .firstItem

/-- A key may come, and these members stand in front of it. -/
def Stage.AwaitsKey (members : List (Option String × Document)) (stage : Stage) : Prop :=
  stage = .nextKey members ∨ stage = .firstKey ∧ members = []

variable {stage : Stage}

/-- Unless it closes the list, a piece that stands where a value may come begins one. -/
theorem Stage.AwaitsValue.take_eq (h : stage.AwaitsValue) (piece : Lexeme)
    (hpiece : piece ≠ .closeList) (open_ : List Frame) :
    take (open_, stage) piece = begin open_ piece := by
  rcases h with rfl | rfl
  · rfl
  · rw [take]
    exact fun _ h _ => hpiece h

theorem Stage.AwaitsKey.take_eq {members : List (Option String × Document)}
    (h : stage.AwaitsKey members) (key : Option String) (open_ : List Frame) :
    take (open_, stage) (.scalar (.text key)) = some (open_, .colon members key) := by
  rcases h with rfl | ⟨rfl, rfl⟩ <;> rfl

/-- From wherever a value may come, these pieces complete it. -/
def Completes (pieces : List Lexeme) (d : Document) : Prop :=
  ∀ stage : Stage, stage.AwaitsValue → ∀ open_ : List Frame,
    pieces.foldlM take (open_, stage) = some (open_, .complete d)

theorem completes_scalar (d : Document) : Completes [.scalar d] d := by
  intro stage hstage open_
  rw [List.foldlM_cons, hstage.take_eq (.scalar d) nofun]
  rfl

/-- The items that are left and the end of the list complete it. -/
theorem foldlM_writtenItems {items : List Json} (hne : items ≠ [])
    (h : ∀ item ∈ items, Completes item.written item.toDocument) (open_ : List Frame) :
    ∀ {stage : Stage} (done : List Document), stage.AwaitsValue →
      (writtenItems items ++ [Lexeme.closeList]).foldlM take (.list done :: open_, stage) =
        some (open_, .complete (.list (done.reverse ++ toDocuments items))) := by
  induction items with
  | nil => exact absurd rfl hne
  | cons item rest ih =>
    obtain ⟨hitem, hrest⟩ := List.forall_mem_cons.1 h
    intro stage done hstage
    -- behind the last item comes the end of the list, behind any other one a comma
    cases rest with
    | nil =>
      have hclose : take (.list done :: open_, .complete item.toDocument) .closeList =
          some (open_, .complete (.list (item.toDocument :: done).reverse)) := rfl
      rw [writtenItems, List.foldlM_append, hitem stage hstage]
      simp [hclose, toDocuments]
    | cons next rest =>
      have hcomma : take (.list done :: open_, .complete item.toDocument) .comma =
          some (.list (item.toDocument :: done) :: open_, .value) := rfl
      have htail := ih (List.cons_ne_nil _ _) hrest (item.toDocument :: done) (.inl rfl)
      rw [writtenItems, List.append_assoc, List.foldlM_append, hitem stage hstage]
      · simp only [List.cons_append, List.foldlM_cons, bind, Option.bind_some, hcomma, htail,
          List.reverse_cons, List.append_assoc, List.nil_append]
        rfl
      · exact List.cons_ne_nil _ _

/-- The members that are left and the end of the table complete it. -/
theorem foldlM_writtenMembers {members : List (String × Json)} (hne : members ≠ [])
    (h : ∀ member ∈ members, Completes member.2.written member.2.toDocument) (open_ : List Frame) :
    ∀ {stage : Stage} (done : List (Option String × Document)), stage.AwaitsKey done →
      (writtenMembers members ++ [Lexeme.closeTable]).foldlM take (open_, stage) =
        some (open_, .complete (.table (done.reverse ++ toMembers members))) := by
  induction members with
  | nil => exact absurd rfl hne
  | cons member rest ih =>
    obtain ⟨hmember, hrest⟩ := List.forall_mem_cons.1 h
    obtain ⟨name, value⟩ := member
    intro stage done hstage
    have hvalue : (.scalar (.text name) :: .colon :: value.written).foldlM take (open_, stage) =
        some (.table done (some name) :: open_, .complete value.toDocument) := by
      rw [List.foldlM_cons, hstage.take_eq]
      exact hmember .value (.inl rfl) _
    cases rest with
    | nil =>
      have hclose : take (.table done (some name) :: open_, .complete value.toDocument)
          .closeTable =
            some (open_, .complete (.table ((some name, value.toDocument) :: done).reverse)) := rfl
      rw [writtenMembers, List.foldlM_append, hvalue]
      simp [hclose, toMembers]
    | cons next rest =>
      have hcomma : take (.table done (some name) :: open_, .complete value.toDocument) .comma =
          some (open_, .nextKey ((some name, value.toDocument) :: done)) := rfl
      have htail := ih (List.cons_ne_nil _ _) hrest ((some name, value.toDocument) :: done)
        (.inl rfl)
      rw [writtenMembers, List.append_assoc, List.foldlM_append, hvalue]
      · simp only [List.cons_append, List.foldlM_cons, bind, Option.bind_some, hcomma, htail,
          List.reverse_cons, List.append_assoc, List.nil_append]
        rfl
      · exact List.cons_ne_nil _ _

/-- **The pieces of a value complete its document.** -/
theorem completes_written (j : Json) : Completes j.written j.toDocument := by
  induction j using recParts with
  | null | boolean | integer | float | text => exact completes_scalar _
  | array items ih =>
    intro stage hstage open_
    rw [written, List.cons_append, List.foldlM_cons, hstage.take_eq .openList nofun]
    cases items with
    | nil => rfl
    | cons item rest =>
      exact foldlM_writtenItems (List.cons_ne_nil _ _) ih open_ [] (.inr rfl)
  | object members ih =>
    intro stage hstage open_
    rw [written, List.cons_append, List.foldlM_cons, hstage.take_eq .openTable nofun]
    cases members with
    | nil => rfl
    | cons member rest =>
      exact foldlM_writtenMembers (List.cons_ne_nil _ _) ih open_ [] (.inr ⟨rfl, rfl⟩)

theorem document?_compact {j : Json} (h : j.ReadsBack) :
    document? j.compact = some j.toDocument := by
  have hpieces : lexemes j.compact.toList = some j.written := by
    have := cutInto_render h [] nofun
    simpa [compact, lexemes] using this
  rw [document?, hpieces]
  simp [completes_written j .value (.inl rfl) []]

end Screening.Json

namespace Screening.Application

/-- **A value is taken over from its compact form** in the order of the names. -/
theorem jsonOf_compact {j : Json} (h : j.ReadsBack) (hdepth : j.depth ≤ Json.maxNesting) :
    jsonOf j.compact = .ok j.sorted := by
  rw [jsonOf, Json.document?_compact h, Option.bind_some, Json.ofDocument?_toDocument hdepth]

end Screening.Application
