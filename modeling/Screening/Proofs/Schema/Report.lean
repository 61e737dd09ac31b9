import Screening.Proofs.Condition.Fault
import Screening.Proofs.Diagnostic
import Screening.Proofs.Schema.Acceptance
import Screening.Record

/-!
# What a report points at

A report shows the text from the place on that it refers to. Unless it is about the length of the
text, that place is the place of a token, and what the report is about says of which kind the token
is (`Diagnostic.PointsAt`). So about a text that is refused one report is made, and it points into
the text (`rejection_points`). Reports about a length are known by what they say
(`Finding.message_ne`).
-/

namespace Screening

open Text

/-! ## Tokens -/

/-- `d.PointsAt t` says that the report `d` refers to the place of the token `t`, and that the token
is of the right kind: an operand if a field is wrong, a relation sign if an operator is wrong, and
an unknown character or a name if something is not supported. -/
structure Diagnostic.PointsAt (d : Diagnostic) (t : Token) : Prop where
  position_eq : t.position = d.position
  isOperand : d.code = .invalidField → ∃ o, IsOperand t o
  isRelation : d.code = .invalidOperator → ∃ r, IsRelation t r
  kind_eq : d.code = .unsupported → t.kind = .unknown ∨ t.kind = .identifier

/-- The first token that is not supported is an unknown character or a name. -/
theorem FirstExceeding.exists_token {ts : List Token} {f : Finding} {p : Nat}
    (h : FirstExceeding ts f p) :
    f.isLength = false ∧ ∃ t ∈ ts, t.position = p ∧ (t.kind = .unknown ∨ t.kind = .identifier) := by
  induction h with
  | here h =>
    cases h with
    | arithmetic hk => exact ⟨rfl, _, .head _, rfl, .inl hk⟩
    | call hk => exact ⟨rfl, _, .head _, rfl, .inr hk⟩
  | behind _ _ ih =>
    obtain ⟨hf, t, ht, hplace⟩ := ih
    exact ⟨hf, t, .tail _ ht, hplace⟩

/-- What is wrong with a comparison is wrong with one of its tokens: with its relation sign if the
relation may not be asked, and with an operand otherwise. -/
theorem Comparison.Breaks.exists_pointsAt {catalog : Catalog} {c : Comparison} {f : Finding}
    {p : Nat} {t o u : Token} (h : c.Breaks catalog f p) (hstands : c.StandsAs t o u)
    (source : String) :
    f.isLength = false ∧ ∃ v ∈ [t, o, u], (Diagnostic.ofFinding f source p).PointsAt v := by
  obtain ⟨hleft, hrelation, hright, hplace⟩ := hstands
  cases h with
  | leftNotField =>
    exact ⟨rfl, t, .head _, hleft.position_eq.symm, fun _ => ⟨_, hleft⟩, nofun, nofun⟩
  | unknownField =>
    exact ⟨rfl, t, .head _, hleft.position_eq.symm, fun _ => ⟨_, hleft⟩, nofun, nofun⟩
  | rightIsField =>
    exact ⟨rfl, u, .tail _ (.tail _ (.head _)), hright.position_eq.symm, fun _ => ⟨_, hright⟩,
      nofun, nofun⟩
  | orderedText =>
    exact ⟨rfl, o, .tail _ (.head _), hplace.symm, nofun, fun _ => ⟨_, hrelation⟩, nofun⟩

/-- The tokens of a comparison are tokens of the text that it has been read from. -/
theorem exists_standsAs_of_read {source : String} {c : Condition}
    (h : Condition.read source = .ok c) :
    ∀ d ∈ c.comparisons, ∃ t o u, [t, o, u] ⊆ tokens source ∧ d.StandsAs t o u := by
  intro d hd
  obtain ⟨ps, hps⟩ := exists_cut 0 source.toList
  obtain ⟨t, o, u, hpart, hstands⟩ :=
    ((read_eq_ok_iff_of_cut hps).1 h).exists_standsAs d hd
  rw [tokens_eq_of_cut hps]
  exact ⟨t, o, u, fun v hv => List.mem_append_left _ (hpart.subset hv), hstands⟩

/-! ## Reports -/

namespace Schema

variable {schema : Schema} {source : String} {d : Diagnostic}

/-- The characters that a text is too long by stand in it, behind the blanks that it begins with. -/
theorem add_length_trim_le (cs : List Char) :
    (cs.takeWhile isBlank).length + (trim cs).length ≤ cs.length := by
  obtain ⟨bs, -, htrim⟩ := exists_eq_trimEnd_append (trimStart cs)
  have hlength := congrArg List.length (List.takeWhile_append_dropWhile (p := isBlank) (l := cs))
  have htrimmed := congrArg List.length htrim
  rw [List.length_append] at hlength htrimmed
  rw [trim]
  rw [trimStart] at htrimmed ⊢
  omega

/-- A report shows the text from the place on that it refers to. -/
theorem Reports.near_eq (h : schema.Reports source d) : d.near = excerpt source d.position := by
  cases h with
  | tooShort | tooLong | unsupported | illegal => rfl
  | unreadable _ _ hread => exact congrArg ReadError.near (eq_ofFault_of_read hread)

/-- A report is that a text is too short, or that it is too long, or it is about something else and
points at a token. -/
theorem Reports.cases_isLength (h : schema.Reports source d) :
    d = .ofFinding .tooShort source 0 ∧ (trim source.toList).length < schema.limits.minLength ∨
      d = .ofFinding (.tooLong schema.limits.maxLength) source
          ((source.toList.takeWhile isBlank).length + schema.limits.maxLength) ∧
        schema.limits.maxLength < (trim source.toList).length ∨
      (∃ f : Finding, f.isLength = false ∧ d.message = f.message) ∧
        ∃ t ∈ tokens source, d.PointsAt t := by
  cases h with
  | tooShort hmin => exact .inl ⟨rfl, hmin⟩
  | tooLong _ hmax => exact .inr (.inl ⟨rfl, hmax⟩)
  | unsupported _ hfirst =>
    obtain ⟨hlength, t, ht, hplace, hkind⟩ := hfirst.exists_token
    exact .inr (.inr ⟨⟨_, hlength, rfl⟩, t, ht, hplace, nofun, nofun, fun _ => hkind⟩)
  | @unreadable e _ _ hread =>
    obtain ⟨t, ht, hplace⟩ := exists_token_of_read_error hread
    exact .inr (.inr ⟨⟨.unreadable e.fault, rfl, rfl⟩, t, ht, hplace, nofun, nofun, nofun⟩)
  | illegal _ hread hworst hbreaks =>
    obtain ⟨t, o, u, hsubset, hstands⟩ := exists_standsAs_of_read hread _ hworst
    obtain ⟨hlength, v, hv, hpoints⟩ := hbreaks.exists_pointsAt hstands source
    exact .inr (.inr ⟨⟨_, hlength, rfl⟩, v, hsubset hv, hpoints⟩)

/-- A report that a text is too short refers to its beginning. -/
theorem Reports.eq_of_tooShort (h : schema.Reports source d)
    (hshort : d.message = Finding.tooShort.message) :
    d = .ofFinding .tooShort source 0 ∧
      (trim source.toList).length < schema.limits.minLength := by
  rcases h.cases_isLength with hmin | ⟨rfl, -⟩ | ⟨⟨f, hf, hmessage⟩, -⟩
  · exact hmin
  · exact absurd hshort.symm (Finding.message_tooShort_ne _)
  · exact absurd (hmessage.symm.trans hshort) (Finding.message_ne hf rfl)

/-- A report that a text is too long refers to the first character that is too much. -/
theorem Reports.position_of_tooLong (h : schema.Reports source d)
    (hlong : d.message = (Finding.tooLong schema.limits.maxLength).message) :
    d.position = (source.toList.takeWhile isBlank).length + schema.limits.maxLength ∧
      d.position < source.length := by
  rcases h.cases_isLength with ⟨rfl, -⟩ | ⟨rfl, hmax⟩ | ⟨⟨f, hf, hmessage⟩, -⟩
  · exact absurd hlong (Finding.message_tooShort_ne _)
  · refine ⟨rfl, ?_⟩
    rw [← String.length_toList]
    exact Nat.lt_of_lt_of_le (Nat.add_lt_add_left hmax _) (add_length_trim_le source.toList)
  · exact absurd (hmessage.symm.trans hlong) (Finding.message_ne hf rfl)

/-- A report that is not about a length points at a token. -/
theorem Reports.exists_pointsAt (h : schema.Reports source d)
    (hshort : d.message ≠ Finding.tooShort.message)
    (hlong : d.message ≠ (Finding.tooLong schema.limits.maxLength).message) :
    ∃ t ∈ tokens source, d.PointsAt t := by
  rcases h.cases_isLength with ⟨rfl, -⟩ | ⟨rfl, -⟩ | ⟨-, hpoints⟩
  · exact absurd rfl hshort
  · exact absurd rfl hlong
  · exact hpoints

/-- No report refers to a place behind the text. -/
theorem Reports.position_le (h : schema.Reports source d) : d.position ≤ source.length := by
  by_cases hshort : d.message = Finding.tooShort.message
  · rw [(h.eq_of_tooShort hshort).1]
    exact Nat.zero_le _
  by_cases hlong : d.message = (Finding.tooLong schema.limits.maxLength).message
  · exact Nat.le_of_lt (h.position_of_tooLong hlong).2
  · obtain ⟨t, ht, hpoints⟩ := h.exists_pointsAt hshort hlong
    rw [← hpoints.position_eq]
    exact (pairwise_position_tokens source).2 t ht

/-- **A report points into the text.** About a text that is refused one report is made and no normal
spelling is given. The report refers to a place of the text, the end included, and shows the text
from there on. Unless it is about the length it points at a token; that the text is too long it says
of the first character that is too much. -/
theorem rejection_points (h : (Report.ofValidation (schema.validate source)).isValid = false) :
    ∃ d, Report.ofValidation (schema.validate source) = ⟨false, none, [d]⟩ ∧
      d.position ≤ source.length ∧
      d.near.toList = (source.toList.drop d.position).take 20 ∧
      (d.message ≠ Finding.tooShort.message →
        d.message ≠ (Finding.tooLong schema.limits.maxLength).message →
        ∃ t ∈ tokens source, d.PointsAt t) ∧
      (d.message = (Finding.tooLong schema.limits.maxLength).message →
        d.position = (source.toList.takeWhile isBlank).length + schema.limits.maxLength ∧
          d.position < source.length) := by
  cases hcompile : schema.compile source with
  | ok c =>
    rw [validate, hcompile] at h
    cases h
  | error d =>
    have hreports := compile_eq_error_iff.1 hcompile
    refine ⟨d, by rw [validate, hcompile]; rfl, hreports.position_le, ?_,
      hreports.exists_pointsAt, hreports.position_of_tooLong⟩
    rw [hreports.near_eq, excerpt, String.toList_ofList]

/-- Characters are counted, not bytes, and the blank in front of the text is one of them. -/
theorem rejection_points_wide :
    let source := "\u00a0location.city = 'Zürich' and channel >= 'WEB'"
    let d : Diagnostic :=
      ⟨.invalidOperator, "Operator '>=' is not allowed for text field 'channel'", 38, ">= 'WEB'"⟩
    Report.ofValidation (standard.validate source) = ⟨false, none, [d]⟩ ∧
      d.near.toList = (source.toList.drop d.position).take 20 ∧
      ∃ t ∈ tokens source, t.position = 38 ∧ t.kind = .relation := by
  intro source d
  have hreport : Report.ofValidation (standard.validate source) = ⟨false, none, [d]⟩ := by
    decide +kernel
  obtain ⟨d', heq, -, hnear, hpoints, -⟩ :=
    rejection_points (congrArg Report.isValid hreport)
  rw [hreport] at heq
  cases heq
  obtain ⟨t, ht, hpoints⟩ := hpoints (by decide +kernel) (by decide +kernel)
  obtain ⟨r, hr⟩ := hpoints.isRelation rfl
  exact ⟨hreport, hnear, t, ht, hpoints.position_eq, hr.kind_eq⟩

end Schema

end Screening
