import Screening.Proofs.Condition.Printing
import Screening.Proofs.Evaluation.Scope

/-!
# Which fields a condition can use

A catalog takes every name that is not blank, and a condition can use a field only if its name is
cut off a text as one token: a word that is no keyword (`isFieldName`). Such a field can be compared
with every literal of its kind. A field with another name can be declared, and yet no text is a
condition that reads it (`usable_iff_isFieldName`).
-/

namespace Screening

open Text

/-! ## Names and literals -/

/-- Whether a text is one word and no keyword. -/
def isFieldName (name : String) : Bool :=
  match name.toList with
  | [] => false
  | c :: cs => isWordStart c && cs.all isWordPart && (keyword? (c :: cs)).isNone

/-- A name is a word and no keyword. -/
theorem Spells.exists_of_identifier {text span : List Char} (h : Spells .identifier text span) :
    ∃ c cs, span = c :: cs ∧ isWordStart c = true ∧ (∀ d ∈ cs, isWordPart d = true) ∧
      keyword? (c :: cs) = none := by
  cases h with
  | name hc hcs hk => exact ⟨_, _, rfl, hc, hcs, hk⟩
  | keyword _ _ hk => rcases kind_of_keyword? hk with h | h | h <;> cases h

/-- The texts that are one word and no keyword are those that the name of a field is spelled by. -/
theorem isFieldName_iff {name : String} :
    isFieldName name = true ↔ Spells .identifier name.toList name.toList := by
  unfold isFieldName
  constructor
  · intro h
    split at h
    · cases h
    · next c cs hname =>
      simp only [Bool.and_eq_true, List.all_eq_true, Option.isNone_iff_eq_none] at h
      obtain ⟨⟨hc, hcs⟩, hk⟩ := h
      rw [hname]
      exact .name hc hcs hk
  · intro h
    obtain ⟨c, cs, hname, hc, hcs, hk⟩ := h.exists_of_identifier
    rw [hname]
    simp only [Bool.and_eq_true, List.all_eq_true, Option.isNone_iff_eq_none]
    exact ⟨⟨hc, hcs⟩, hk⟩

/-- `Literal.IsWritten kind cs v` says that the characters `cs` write the literal `v` that a field
of the kind may be compared with: a digit with digits and dots behind it that are a finite number,
or a text between quotes. -/
inductive Literal.IsWritten : FieldKind → List Char → Literal → Prop where
  | number {c : Char} {cs : List Char} {x : Binary64.Finite} (hc : c.isDigit = true)
      (hcs : ∀ d ∈ cs, isNumberPart d = true)
      (hx : Binary64.read? (c :: cs) = some (.finite x)) :
      IsWritten .numeric (c :: cs) (.number x)
  | text {inside text : List Char} (h : Inside inside text) :
      IsWritten .text ('\'' :: inside ++ ['\'']) (.text (String.ofList text))

/-- A literal that is written is one token, which is read as the literal. -/
theorem Literal.IsWritten.spells {kind : FieldKind} {cs : List Char} {v : Literal}
    (h : IsWritten kind cs v) :
    ∃ k text, Spells k text cs ∧ ∀ p, IsOperand ⟨k, String.ofList text, p⟩ (.literal v p) := by
  cases h with
  | number hc hcs hx =>
    exact ⟨_, _, .number hc hcs, fun p => .number rfl (by rwa [String.toList_ofList])⟩
  | text h =>
    refine ⟨_, _, .text h.splitQuoted_append, fun p => ?_⟩
    rw [h.unescape_eq]
    exact .text rfl

/-- Of each kind a literal can be written. -/
theorem exists_isWritten (kind : FieldKind) : ∃ cs v, Literal.IsWritten kind cs v := by
  cases kind with
  | numeric => exact ⟨['0'], _, @Literal.IsWritten.number '0' [] ⟨false, 0, by decide⟩ rfl nofun
    (by decide +kernel)⟩
  | text => exact ⟨_, _, .text .nil⟩

/-! ## Comparing a field with a literal -/

/-- The text that compares a field with a literal. -/
def equation (name : String) (literal : List Char) : String :=
  name ++ " = " ++ String.ofList literal

/-- The condition that this text is. -/
def equationOf (name : String) (v : Literal) : Condition :=
  .compare ⟨.equal, .field name 0, .literal v (name.length + 3), name.length + 1⟩

/-- A field is compared with a literal by its name. -/
theorem read_equation {name : String} {kind : FieldKind} {cs : List Char} {v : Literal}
    (hname : isFieldName name = true) (h : Literal.IsWritten kind cs v) :
    Condition.read (equation name cs) = .ok (equationOf name v) := by
  obtain ⟨k, text, hs, hoperand⟩ := h.spells
  have hlist : (equation name cs).toList =
      name.toList ++ ' ' :: (Relation.equal.symbol.toList ++ ' ' :: (cs ++ [])) := by
    simp [equation, Relation.symbol]
  -- from the right, since a piece is cut off in front of a rest that has been cut
  have hright := Cut.cons (p := name.length + 1 + 1 + 1) hs (ends_nil k cs) (.blanks nofun)
  have hsign := Cut.cons_blank (p := name.length + 1) (.relation .equal) (ends_cons.2 rfl) rfl
    hright
  have hleft := Cut.cons_blank (p := 0) (isFieldName_iff.1 hname)
    (ends_cons.2 (isWordPart_eq_false_of_clear (.inl rfl)))
    (by rw [Nat.zero_add, String.length_toList]) hsign
  rw [← hlist, String.ofList_toList, String.ofList_toList] at hleft
  refine (read_eq_ok_iff_of_cut hleft).2 (.conjunction (.unary (.primary ?_)))
  exact .compare (.field rfl) ⟨rfl, rfl⟩ (hoperand _)

/-- A field whose name is a word can be compared with every literal of its kind. -/
theorem Schema.accepts_equation {schema : Schema} {name : String} {field : Field} {cs : List Char}
    {v : Literal} (hfind : schema.catalog.find? name = some field)
    (hname : isFieldName name = true) (h : Literal.IsWritten field.kind cs v)
    (hallowed : schema.limits.Allows (equation name cs)) :
    schema.Accepts (equation name cs) (equationOf name v) :=
  ⟨hallowed, read_equation hname h, List.forall_mem_singleton.2 (.intro hfind fun _ => rfl)⟩

/-- Only fields whose names are words are read. -/
theorem isFieldName_of_reads {source name : String} {c : Condition} {catalog : Catalog}
    (hread : Condition.read source = .ok c) (h : c.Reads catalog name) :
    isFieldName name = true := by
  obtain ⟨⟨d, hd, hsubject⟩, -⟩ := h
  obtain ⟨r, left, right, position⟩ := d
  have hleft := (legible_of_read hread _ hd).1
  cases hleft with
  | field hspells =>
    cases hsubject
    exact isFieldName_iff.2 hspells
  | number | text => cases hsubject

namespace Schema

/-- **A field can be used exactly if its name is a word and no keyword.** Of a field of a catalog,
whatever the limits, a text that is accepted may read it only if its name is one; and then the text
that compares it with a literal of its kind is accepted as that comparison, wherever the limits
allow its length. -/
theorem usable_iff_isFieldName {catalog : Catalog} {name : String} {field : Field}
    (hfind : catalog.find? name = some field) :
    ((∃ limits source c, (Schema.mk catalog limits).compile source = .ok c ∧
        c.Reads catalog name) ↔ isFieldName name = true) ∧
      (isFieldName name = true → ∀ limits cs v, Literal.IsWritten field.kind cs v →
        limits.Allows (equation name cs) →
          (Schema.mk catalog limits).compile (equation name cs) = .ok (equationOf name v) ∧
          (Schema.mk catalog limits).validate (equation name cs) =
            .ok (normalize (equation name cs))) := by
  have haccepts : isFieldName name = true → ∀ limits cs v, Literal.IsWritten field.kind cs v →
      limits.Allows (equation name cs) →
        (Schema.mk catalog limits).compile (equation name cs) = .ok (equationOf name v) :=
    fun hname limits cs v h hallowed =>
      compile_eq_ok_iff.2 (accepts_equation hfind hname h hallowed)
  refine ⟨⟨?_, fun hname => ?_⟩, fun hname limits cs v h hallowed => ?_⟩
  · rintro ⟨limits, source, c, hcompile, hreads⟩
    exact isFieldName_of_reads (compile_eq_ok_iff.1 hcompile).read_eq hreads
  · -- any literal will do, and limits as wide as the text that it makes
    obtain ⟨cs, v, h⟩ := exists_isWritten field.kind
    refine ⟨⟨0, (trim (equation name cs).toList).length⟩, _, _,
      haccepts hname _ cs v h ⟨Nat.zero_le _, Nat.le_refl _⟩, ⟨_, .head _, rfl⟩, ?_⟩
    rw [Directory.contains, hfind]
    rfl
  · have hcompile := haccepts hname limits cs v h hallowed
    exact ⟨hcompile, by rw [validate, hcompile]; rfl⟩

/-- A dotted name with letters of two scripts can be declared and used. -/
theorem usable_iff_isFieldName_dotted :
    isFieldName "user.größe_2" = true ∧
      ∃ catalog, Catalog.declare [.named "user.größe_2" .numeric] = .ok catalog ∧
        (Schema.mk catalog Limits.standard).compile "user.größe_2 = 1.80" =
          .ok (equationOf "user.größe_2" (.number ⟨false, 0x3FFCCCCCCCCCCCCD, by decide⟩)) := by
  obtain ⟨catalog, hcatalog⟩ : ∃ catalog, catalog =
      Catalog.empty.insert (.named "user.größe_2" .numeric) (by decide +kernel) rfl := ⟨_, rfl⟩
  have hname : isFieldName "user.größe_2" = true := by decide +kernel
  have hdeclare : Catalog.declare [.named "user.größe_2" .numeric] = .ok catalog :=
    eq_ok_of_toOption (by rw [hcatalog]; decide +kernel)
  have hfind : catalog.find? "user.größe_2" = some (.named "user.größe_2" .numeric) := by
    rw [hcatalog]
    decide +kernel
  have hwritten : Literal.IsWritten .numeric ['1', '.', '8', '0']
      (.number ⟨false, 0x3FFCCCCCCCCCCCCD, by decide⟩) :=
    .number rfl (List.all_eq_true.1 rfl) (by decide +kernel)
  exact ⟨hname, catalog, hdeclare, ((usable_iff_isFieldName hfind).2 hname Limits.standard _ _
    hwritten ⟨by decide +kernel, by decide +kernel⟩).1⟩

/-- A name with a sign in it, and a keyword, can be declared, and the texts that compare these
fields with a number are refused, although they are not too long. -/
theorem not_usable_signed :
    ∃ catalog, Catalog.declare [.named "risk-score" .numeric, .named "not" .numeric] = .ok catalog ∧
      (catalog.contains "risk-score" ∧ catalog.contains "not") ∧
      (Limits.standard.Allows "risk-score = 1" ∧ Limits.standard.Allows "not = 1") ∧
      (Schema.mk catalog Limits.standard).validate "risk-score = 1" =
        .error ⟨.unsupported, "Arithmetic and signed numbers are not supported ('-')", 4,
          "-score = 1"⟩ ∧
      (Schema.mk catalog Limits.standard).validate "not = 1" =
        .error ⟨.malformed, "Expected operand, got OP", 4, "= 1"⟩ := by
  refine ⟨(Catalog.empty.insert (.named "risk-score" .numeric) (by decide +kernel) rfl).insert
    (.named "not" .numeric) (by decide +kernel) rfl, eq_ok_of_toOption (by decide +kernel), ?_, ?_,
    ?_, ?_⟩
  · decide +kernel
  · exact ⟨⟨by decide +kernel, by decide +kernel⟩, ⟨by decide +kernel, by decide +kernel⟩⟩
  · decide +kernel
  · decide +kernel

end Schema

end Screening
