import Mathlib.Data.List.Forall2
import Screening.Proofs.Schema.Acceptance

/-!
# No comparison escapes

Every relation sign of a text that is a condition belongs to one comparison of that condition, and
`Condition.comparisons` lists them in the order of the signs (`forall₂_comparisons_of_read`). So
whoever looks through that list has looked at the whole text: a condition is in order if every one
of its comparisons is, and otherwise the report is about the leftmost that is not
(`comparisons_cover_signs`).
-/

namespace Screening

/-! ## Relation signs -/

/-- The relation signs among tokens, in their order. -/
def relationSigns (ts : List Token) : List Token := ts.filter (·.kind = .relation)

@[simp]
theorem relationSigns_nil : relationSigns [] = [] := rfl

theorem relationSigns_cons {t : Token} {ts : List Token} {k : TokenKind} (hk : t.kind = k)
    (hne : k ≠ .relation) : relationSigns (t :: ts) = relationSigns ts :=
  List.filter_cons_of_neg (by simpa [hk] using hne)

theorem relationSigns_append (ts us : List Token) :
    relationSigns (ts ++ us) = relationSigns ts ++ relationSigns us :=
  List.filter_append ..

/-- No relation sign is an operand. -/
theorem IsOperand.kind_ne_relation {t : Token} {o : Operand} (h : IsOperand t o) :
    t.kind ≠ .relation := by
  cases h with
  | field hk | number hk _ | text hk =>
    rw [hk]
    exact nofun

/-- `d.StandsAround ts o` says that the comparison `d` is made of the token `o` and of the two
tokens beside it in `ts`. -/
def Comparison.StandsAround (d : Comparison) (ts : List Token) (o : Token) : Prop :=
  ∃ t u, [t, o, u] <:+: ts ∧ d.StandsAs t o u

/-- What stands around a token in a part stands around it in the whole. -/
theorem Comparison.StandsAround.mono {d : Comparison} {ts us : List Token} {o : Token}
    (h : d.StandsAround ts o) (hpart : ts <:+: us) : d.StandsAround us o := by
  obtain ⟨t, u, hbeside, hstands⟩ := h
  exact ⟨t, u, hbeside.trans hpart, hstands⟩

/-! ## Derivations -/

/-- The comparisons of a derived condition are one for each relation sign, in their order. The
induction is on the derivation; a connective, a negation and a parenthesis are no signs, so the
signs of a part are all that it adds. -/
theorem Derives.forall₂_comparisons {k : Category} {room : Nat} {ts : List Token} {c : Condition}
    (h : Derives k room ts c) :
    List.Forall₂ (fun d o => d.StandsAround ts o) c.comparisons (relationSigns ts) := by
  induction h with
  | conjunction _ ih | unary _ ih | primary _ ih => exact ih
  | or _ hk _ ihl ihr | and _ hk _ ihl ihr =>
    rw [Condition.comparisons, relationSigns_append, relationSigns_cons hk (by decide)]
    refine List.rel_append (ihl.imp fun d o hd => ?_) (ihr.imp fun d o hd => ?_)
    · exact hd.mono (List.prefix_append _ _).isInfix
    · exact hd.mono ((List.suffix_cons _ _).trans (List.suffix_append _ _)).isInfix
  | not hk _ ih =>
    rw [Condition.comparisons, relationSigns_cons hk (by decide)]
    exact ih.imp fun d o hd => hd.mono (List.suffix_cons _ _).isInfix
  | group hk _ hu ih =>
    rw [relationSigns_cons hk (by decide), relationSigns_append, relationSigns_cons hu (by decide),
      relationSigns_nil, List.append_nil]
    exact ih.imp fun d o hd =>
      hd.mono ((List.prefix_append _ _).isInfix.trans (List.suffix_cons _ _).isInfix)
  | @compare _ t o u l r rel hl ho hr =>
    have hsigns : relationSigns [t, o, u] = [o] := by
      simp [relationSigns, hl.kind_ne_relation, ho.kind_eq, hr.kind_ne_relation]
    rw [hsigns]
    exact .cons ⟨t, u, List.infix_rfl, hl, ho, hr, rfl⟩ .nil

/-- The comparisons of a condition that has been read are one for each relation sign of the text, in
their order. -/
theorem forall₂_comparisons_of_read {source : String} {c : Condition}
    (h : Condition.read source = .ok c) :
    List.Forall₂ (fun d o => d.StandsAround (tokens source) o) c.comparisons
      (relationSigns (tokens source)) := by
  obtain ⟨ps, hps⟩ := exists_cut 0 source.toList
  rw [tokens_eq_of_cut hps, relationSigns_append,
    relationSigns_cons (k := .endOfInput) rfl (by decide), relationSigns_nil, List.append_nil]
  exact ((read_eq_ok_iff_of_cut hps).1 h).forall₂_comparisons.imp fun d o hd =>
    hd.mono (List.prefix_append _ _).isInfix

/-! ## The report -/

/-- Of two comparisons, one behind the other, the one in front has the smaller place. -/
theorem Comparison.Precedes.position_lt {c d : Comparison} (h : c.Precedes d) :
    c.position < d.position :=
  h _ (.tail _ (.head _)) _ (.tail _ (.head _))

/-- Of comparisons that stand one behind the other, the one in front is the one with the smaller
place. -/
theorem Comparison.eq_or_precedes_iff {cs : List Comparison} (h : cs.Pairwise Comparison.Precedes)
    {c d : Comparison} (hc : c ∈ cs) (hd : d ∈ cs) :
    d = c ∨ c.Precedes d ↔ c.position ≤ d.position := by
  constructor
  · rintro (rfl | hprecedes)
    · exact Nat.le_refl _
    · exact Nat.le_of_lt hprecedes.position_lt
  · intro hle
    refine (eq_or_ne d c).imp_right fun hne => ?_
    have hordered : cs.Pairwise fun c d => c.Precedes d ∨ d.Precedes c := h.imp .inl
    have : Std.Symm fun c d : Comparison => c.Precedes d ∨ d.Precedes c := ⟨fun _ _ => Or.symm⟩
    -- the one that stands behind would have the larger place
    rcases hordered.forall hc hd hne.symm with hcd | hdc
    · exact hcd
    · exact absurd hdc.position_lt (Nat.not_lt.2 hle)

namespace Schema

variable {source : String} {c : Condition} {report : Diagnostic}

/-- The report about a condition is about the illegal comparison with the smallest place. -/
theorem checkComparisons_eq_error_iff_of_read (hread : Condition.read source = .ok c)
    (catalog : Catalog) :
    checkComparisons catalog source c = .error report ↔
      ∃ worst ∈ c.comparisons, ∃ f p, worst.Breaks catalog f p ∧ .ofFinding f source p = report ∧
        ∀ other ∈ c.comparisons, ¬ other.Legal catalog → worst.position ≤ other.position := by
  have hordered := pairwise_comparisons_of_read hread
  rw [checkComparisons_eq_error_iff]
  simp only [Comparison.findSome?_findingIn_eq_some_iff hordered]
  constructor
  · rintro ⟨f, p, ⟨worst, hworst, hbreaks, hleftmost⟩, hreport⟩
    refine ⟨worst, hworst, f, p, hbreaks, hreport, fun other hother hillegal => ?_⟩
    exact (Comparison.eq_or_precedes_iff hordered hworst hother).1
      (hleftmost other hother hillegal)
  · rintro ⟨worst, hworst, f, p, hbreaks, hreport, hsmallest⟩
    refine ⟨f, p, ⟨worst, hworst, hbreaks, fun other hother hillegal => ?_⟩, hreport⟩
    exact (Comparison.eq_or_precedes_iff hordered hworst hother).2
      (hsmallest other hother hillegal)

/-- **No comparison escapes.** The comparisons of a condition that has been read are one for each
relation sign of the text, in the order of the signs, and each is made of its sign and of the two
tokens beside it; the tokens have ascending places, so these are the only ones beside it. Whatever
the catalog, the condition is in order exactly if all of these comparisons are legal, and a report
about it is about the illegal one with the smallest place. -/
theorem comparisons_cover_signs (hread : Condition.read source = .ok c) :
    List.Forall₂ (fun d o => d.StandsAround (tokens source) o) c.comparisons
        (relationSigns (tokens source)) ∧
      ((tokens source).map Token.position).Pairwise (· < ·) ∧
      ∀ catalog : Catalog,
        (checkComparisons catalog source c = .ok () ↔ ∀ d ∈ c.comparisons, d.Legal catalog) ∧
        ∀ report, checkComparisons catalog source c = .error report ↔
          ∃ worst ∈ c.comparisons, ∃ f p,
            worst.Breaks catalog f p ∧ .ofFinding f source p = report ∧
              ∀ other ∈ c.comparisons, ¬ other.Legal catalog → worst.position ≤ other.position :=
  ⟨forall₂_comparisons_of_read hread, (pairwise_position_tokens source).1, fun catalog =>
    ⟨checkComparisons_eq_ok_iff, fun _ => checkComparisons_eq_error_iff_of_read hread catalog⟩⟩

/-- Three comparisons under a negation and in parentheses. Two of them are illegal, and the one with
the literal on the left stands in front of the other. -/
theorem comparisons_cover_signs_nested :
    let source := "not (channel = 'W' or 'X' != 1) and color < 5"
    ∃ c, Condition.read source = .ok c ∧
      List.Forall₂ (fun d o => d.StandsAround (tokens source) o) c.comparisons
        (relationSigns (tokens source)) ∧
      (relationSigns (tokens source)).map Token.position = [13, 26, 42] ∧
      checkComparisons Catalog.standard source c =
        .error ⟨.invalidField, "Left side of a comparison must be a field", 22,
          "'X' != 1) and color "⟩ := by
  intro source
  have hread : Condition.read source =
      .ok (.and (.not (.or
        (.compare ⟨.equal, .field "channel" 5, .literal (.text "W") 15, 13⟩)
        (.compare ⟨.notEqual, .literal (.text "X") 22,
          .literal (.number ⟨false, 0x3FF0000000000000, by decide⟩) 29, 26⟩) 19) 0)
        (.compare ⟨.less, .field "color" 36,
          .literal (.number ⟨false, 0x4014000000000000, by decide⟩) 44, 42⟩) 32) :=
    eq_ok_of_toOption (by decide +kernel)
  obtain ⟨hsigns, -, hcheck⟩ := comparisons_cover_signs hread
  refine ⟨_, hread, hsigns, by decide +kernel, ?_⟩
  have hfield : Catalog.standard.find? "channel" = some (.named "channel" .text) := by
    decide +kernel
  refine ((hcheck Catalog.standard).2 _).2 ⟨_, .tail _ (.head _), _, _, .leftNotField, ?_, ?_⟩
  · decide +kernel
  · refine List.forall_mem_cons.2 ⟨fun hillegal => ?_, List.forall_mem_cons.2
      ⟨fun _ => Nat.le_refl _, List.forall_mem_singleton.2 fun _ => by decide⟩⟩
    exact absurd (.intro hfield fun _ => rfl) hillegal

end Schema

end Screening
