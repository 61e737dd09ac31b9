import Screening.Proofs.Condition.Moving
import Screening.Proofs.Condition.Normal
import Screening.Proofs.Schema.Report

/-!
# Blanks in front of a text

Blanks in front of a text move its tokens (`tokens_indent`), and nothing that is looked at is looked
at by its place: not by a reading (`read_move`), not in the search for unsupported tokens
(`firstUnsupported_move`), and not in a comparison (`findingIn_move`). The length of a text is
measured without the blanks around it (`findingInLength_indent`). So the text is accepted, or
refused, as it was, with every place moved (`compile_indent`, `validate_indent`). Only the report
that a text is too short does not move: it refers to the beginning of the text, blanks or not.
-/

namespace Screening

open Text

variable {w : String}

/-! ## Characters -/

/-- Nothing is left of blanks in front of a text. -/
theorem trim_indent {bs : List Char} (hb : ∀ b ∈ bs, isBlank b = true) (cs : List Char) :
    trim (bs ++ cs) = trim cs := by
  rw [trim, trimStart, List.dropWhile_append_of_pos hb]
  rfl

/-- Blanks in front of a text make no difference to its normal spelling. -/
theorem normalize_indent (hw : ∀ b ∈ w.toList, isBlank b = true) (source : String) :
    normalize (w ++ source) = normalize source := by
  rw [normalize, normalize, String.toList_append, ← respell_trim, trim_indent hw, respell_trim]

/-- What is shown of a place does not depend on what stands in front of it. -/
theorem excerpt_indent (w source : String) (position : Nat) :
    excerpt (w ++ source) (w.length + position) = excerpt source position := by
  rw [excerpt, String.toList_append, ← String.length_toList, List.drop_length_add_append]
  rfl

namespace Schema

/-! ## Tokens -/

/-- A token is not supported wherever it stands. -/
theorem firstUnsupported_move (f : Nat → Nat) (ts : List Token) :
    firstUnsupported (ts.map (Token.move f)) = (firstUnsupported ts).map (Prod.map id f) := by
  induction ts with
  | nil => rfl
  | cons t rest ih =>
    have hhead : ((rest.map (Token.move f)).head?).map Token.kind = rest.head?.map Token.kind := by
      rw [List.head?_map, Option.map_map]
      rfl
    rw [List.map_cons, firstUnsupported, firstUnsupported, hhead, ih, apply_ite (Option.map _),
      apply_ite (Option.map _)]
    rfl

/-! ## Comparisons -/

/-- What is wrong with a comparison is wrong with it wherever it stands. -/
theorem findingIn_move (f : Nat → Nat) (catalog : Catalog) (c : Comparison) :
    findingIn catalog (c.move f) = (findingIn catalog c).map (Prod.map id f) := by
  obtain ⟨r, left, right, position⟩ := c
  cases left with
  | literal => rfl
  | field name n =>
    simp only [findingIn, Comparison.move, Operand.move]
    cases catalog.find? name with
    | none => rfl
    | some field =>
      cases right with
      | field => rfl
      | literal value m =>
        dsimp only
        rw [apply_ite (Option.map _)]
        rfl

theorem findSome?_findingIn_move (f : Nat → Nat) (catalog : Catalog) (c : Condition) :
    (c.move f).comparisons.findSome? (findingIn catalog) =
      (c.comparisons.findSome? (findingIn catalog)).map (Prod.map id f) := by
  rw [Condition.comparisons_move, List.findSome?_map, List.map_findSome?]
  exact congrArg (c.comparisons.findSome? ·) (funext (findingIn_move f catalog))

/-! ## Lengths -/

/-- A text is as long, and as much too long, with blanks in front of it. -/
theorem findingInLength_indent {limits : Limits} (hw : ∀ b ∈ w.toList, isBlank b = true)
    {source : String} (hmin : limits.minLength ≤ (trim source.toList).length) :
    findingInLength limits (w ++ source) =
      (findingInLength limits source).map (Prod.map id (w.length + ·)) := by
  simp only [findingInLength, String.toList_append, trim_indent hw, if_neg (Nat.not_lt.2 hmin),
    List.takeWhile_append_of_pos hw]
  rw [apply_ite (Option.map _), List.length_append, String.length_toList, Nat.add_assoc]
  rfl

end Schema

/-! ## Reports -/

/-- The same report about another place. -/
def Diagnostic.move (f : Nat → Nat) (d : Diagnostic) : Diagnostic :=
  ⟨d.code, d.message, f d.position, d.near⟩

/-- A finding behind blanks is reported as it was. -/
theorem Diagnostic.ofFinding_indent (w : String) (finding : Finding) (source : String)
    (position : Nat) :
    ofFinding finding (w ++ source) (w.length + position) =
      (ofFinding finding source position).move (w.length + ·) := by
  rw [ofFinding, locate, excerpt_indent]
  rfl

namespace Schema

variable {schema : Schema} {source : String}

/-- **Blanks in front of a text move what comes of it.** -/
theorem compile_indent (hw : ∀ b ∈ w.toList, isBlank b = true)
    (hmin : schema.limits.minLength ≤ (trim source.toList).length) :
    schema.compile (w ++ source) =
      match schema.compile source with
      | .ok c => .ok (c.move (w.length + ·))
      | .error d => .error (d.move (w.length + ·)) := by
  have hread := read_move (w.length + ·) (tokens_indent hw source)
  rw [compile_eq, compile_eq, findingInLength_indent hw hmin, tokens_indent hw,
    firstUnsupported_move, hread]
  cases findingInLength schema.limits source with
  | some found => exact congrArg _ (Diagnostic.ofFinding_indent w found.1 source found.2)
  | none =>
    cases firstUnsupported (tokens source) with
    | some found => exact congrArg _ (Diagnostic.ofFinding_indent w found.1 source found.2)
    | none =>
      cases hsource : Condition.read source with
      | error e =>
        rw [eq_ofFault_of_read hsource]
        exact congrArg _ (Diagnostic.ofFinding_indent w (.unreadable e.fault) source e.position)
      | ok c =>
        simp only [Option.map_none, findSome?_findingIn_move]
        cases c.comparisons.findSome? (findingIn schema.catalog) with
        | none => rfl
        | some found => exact congrArg _ (Diagnostic.ofFinding_indent w found.1 source found.2)

/-- `Indents w source d d'` says that the report `d'`, which is about the text `source` with `w` in
front of it, is the report `d` about the text itself at a place moved by the length of `w`; but a
report that the text is too short refers to the beginning in both. -/
structure Indents (w source : String) (d d' : Diagnostic) : Prop where
  moved : d.message ≠ Finding.tooShort.message → d' = d.move (w.length + ·)
  stays : d.message = Finding.tooShort.message →
    d = .ofFinding .tooShort source 0 ∧ d' = .ofFinding .tooShort (w ++ source) 0

/-- A report about a text that is long enough is moved. -/
theorem Reports.indents {d : Diagnostic} (h : schema.Reports source d)
    (hmin : schema.limits.minLength ≤ (trim source.toList).length) (w : String) :
    Indents w source d (d.move (w.length + ·)) where
  moved _ := rfl
  stays hshort := absurd (h.eq_of_tooShort hshort).2 (Nat.not_lt.2 hmin)

/-- A text that is too short is so with blanks in front of it. -/
theorem compile_indent_of_lt (hw : ∀ b ∈ w.toList, isBlank b = true)
    (hshort : (trim source.toList).length < schema.limits.minLength) :
    schema.compile source = .error (.ofFinding .tooShort source 0) ∧
      schema.compile (w ++ source) = .error (.ofFinding .tooShort (w ++ source) 0) := by
  refine ⟨compile_eq_error_iff.2 (.tooShort hshort), compile_eq_error_iff.2 (.tooShort ?_)⟩
  rw [String.toList_append, trim_indent hw]
  exact hshort

/-- **Blanks in front of a text only move what is said about it.** With blanks in front of it a text
is accepted or refused as it was. If it is accepted then its normal spelling is the same, and so is
its condition, with the places of all its parts moved by the number of blanks. If it is refused then
the same report is made about it at a place moved by that number; only a report that it is too short
stays at the beginning of the text. -/
theorem validate_indent (hw : ∀ b ∈ w.toList, isBlank b = true) (schema : Schema)
    (source : String) :
    let report := Report.ofValidation (schema.validate source)
    let report' := Report.ofValidation (schema.validate (w ++ source))
    report'.isValid = report.isValid ∧
      report'.normalizedExpression = report.normalizedExpression ∧
      List.Forall₂ (Indents w source) report.errors report'.errors ∧
      ∀ c, schema.compile source = .ok c →
        schema.compile (w ++ source) = .ok (c.move (w.length + ·)) := by
  intro report report'
  simp only [report, report', validate]
  rcases Nat.lt_or_ge (trim source.toList).length schema.limits.minLength with hshort | hmin
  · obtain ⟨hsource, hindented⟩ := compile_indent_of_lt hw hshort
    rw [hsource, hindented]
    refine ⟨rfl, rfl, .cons ⟨fun hne => absurd rfl hne, fun _ => ⟨rfl, rfl⟩⟩ .nil, fun c hc => ?_⟩
    cases hc
  · rw [compile_indent hw hmin]
    cases hsource : schema.compile source with
    | ok c =>
      refine ⟨rfl, congrArg some (normalize_indent hw source), .nil, fun d hd => ?_⟩
      cases hd
      rfl
    | error d =>
      have hindents := (compile_eq_error_iff.1 hsource).indents hmin w
      refine ⟨rfl, rfl, .cons hindents .nil, fun c hc => ?_⟩
      cases hc

/-- Three blanks of three kinds, of which the last takes three bytes, move a report by three
places. -/
theorem validate_indent_wide :
    let w := " \t\u2003"
    let source := "amount > 5 and channel < 'WEB'"
    let d : Diagnostic :=
      ⟨.invalidOperator, "Operator '<' is not allowed for text field 'channel'", 23, "< 'WEB'"⟩
    (∀ b ∈ w.toList, isBlank b = true) ∧
      Report.ofValidation (standard.validate source) = ⟨false, none, [d]⟩ ∧
      Report.ofValidation (standard.validate (w ++ source)) =
        ⟨false, none, [{ d with position := 26 }]⟩ := by
  intro w source d
  have hw : ∀ b ∈ w.toList, isBlank b = true := List.all_eq_true.1 (by decide +kernel)
  have hreport : Report.ofValidation (standard.validate source) = ⟨false, none, [d]⟩ := by
    decide +kernel
  obtain ⟨hvalid, hnormal, herrors, -⟩ := validate_indent hw standard source
  refine ⟨hw, hreport, ?_⟩
  rw [hreport] at hvalid hnormal herrors
  generalize Report.ofValidation (standard.validate (w ++ source)) = report' at *
  obtain ⟨valid, normal, errors⟩ := report'
  cases herrors with
  | cons hindents hrest =>
    cases hrest
    have hlength : w.length = 3 := by decide +kernel
    rw [hindents.moved (by decide +kernel), hlength]
    cases hvalid
    cases hnormal
    rfl

end Schema

end Screening
