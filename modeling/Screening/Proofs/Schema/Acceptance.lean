import Screening.Proofs.Condition.Order
import Screening.Schema

/-!
# What a schema accepts, and what it reports

`Comparison.Legal` says which comparisons a catalog allows, and `Comparison.Breaks` which rule an
illegal one breaks first. `Token.Exceeds` says which tokens begin something the language does
without. From these `Schema.Accepts` tells which condition a text is accepted as, and
`Schema.Reports` which report is made about a text that is not: a report about its length, else
about its first unsupported token, else about the first token that cannot be taken, else about its
leftmost illegal comparison.

`Schema.compile` accepts and reports accordingly (`compile_eq_ok_iff`, `compile_eq_error_iff`). The
unsupported tokens are looked for before the text is read, and yet no text is refused for one that
could be read (`not_firstExceeding_of_read`): they have no place in a condition.
-/

namespace Screening

theorem eq_ok_of_toOption {ε α : Type} {x : Except ε α} {a : α} (h : x.toOption = some a) :
    x = .ok a := by
  cases x with
  | error => cases h
  | ok => exact congrArg _ (Option.some.inj h)

/-! ## Comparisons -/

namespace Comparison

variable {catalog : Catalog} {c : Comparison} {f : Finding} {p : Nat}

/-- A comparison of a field of the catalog with a literal, which asks for no order of a text. -/
inductive Legal (catalog : Catalog) : Comparison → Prop where
  | intro {r : Relation} {name : String} {value : Literal} {n m position : Nat} {field : Field}
      (hfield : catalog.find? name = some field)
      (horder : field.kind = .text → r.isOrdering = false) :
      Legal catalog ⟨r, .field name n, .literal value m, position⟩

/-- `Breaks catalog c f p` says that `f` is the first rule that the comparison `c` breaks, and `p`
the place that breaks it: a field stands on the left, it is known, a literal stands on the right,
and no order is asked of a text. -/
inductive Breaks (catalog : Catalog) : Comparison → Finding → Nat → Prop where
  | leftNotField {r : Relation} {value : Literal} {right : Operand} {n position : Nat} :
      Breaks catalog ⟨r, .literal value n, right, position⟩ .leftNotField n
  | unknownField {r : Relation} {name : String} {right : Operand} {n position : Nat}
      (hfield : catalog.find? name = none) :
      Breaks catalog ⟨r, .field name n, right, position⟩ (.unknownField name) n
  | rightIsField {r : Relation} {name other : String} {n m position : Nat} {field : Field}
      (hfield : catalog.find? name = some field) :
      Breaks catalog ⟨r, .field name n, .field other m, position⟩ (.rightIsField other) m
  | orderedText {r : Relation} {name : String} {value : Literal} {n m position : Nat}
      {field : Field} (hfield : catalog.find? name = some field) (hkind : field.kind = .text)
      (horder : r.isOrdering = true) :
      Breaks catalog ⟨r, .field name n, .literal value m, position⟩ (.orderedText r name) position

/-- Exactly the legal comparisons are found to be in order. -/
theorem findingIn_eq_none_iff : Schema.findingIn catalog c = none ↔ c.Legal catalog := by
  constructor
  · intro h
    obtain ⟨r, left, right, position⟩ := c
    cases left with
    | literal => cases h
    | field name n =>
      cases hfind : catalog.find? name with
      | none => simp [Schema.findingIn, hfind] at h
      | some field =>
        cases right with
        | field => simp [Schema.findingIn, hfind] at h
        | literal value m =>
          refine .intro hfind fun hkind => ?_
          simpa [Schema.findingIn, hfind, hkind] using h
  · rintro ⟨hfield, horder⟩
    simpa [Schema.findingIn, hfield] using horder

/-- What is found in a comparison is the first rule that it breaks. -/
theorem findingIn_eq_some_iff :
    Schema.findingIn catalog c = some (f, p) ↔ c.Breaks catalog f p := by
  constructor
  · intro h
    obtain ⟨r, left, right, position⟩ := c
    cases left with
    | literal =>
      cases h
      exact .leftNotField
    | field name n =>
      cases hfind : catalog.find? name with
      | none =>
        simp only [Schema.findingIn, hfind] at h
        cases h
        exact .unknownField hfind
      | some field =>
        cases right with
        | field =>
          simp only [Schema.findingIn, hfind] at h
          cases h
          exact .rightIsField hfind
        | literal value m =>
          simp only [Schema.findingIn, hfind] at h
          split at h
          · next hwrong =>
            cases h
            exact .orderedText hfind hwrong.1 hwrong.2
          · cases h
  · intro h
    cases h with
    | leftNotField => rfl
    | unknownField hfield => simp [Schema.findingIn, hfield]
    | rightIsField hfield => simp [Schema.findingIn, hfield]
    | orderedText hfield hkind horder => simp [Schema.findingIn, hfield, hkind, horder]

/-- Of comparisons that stand one behind the other the leftmost illegal one is found. -/
theorem findSome?_findingIn_eq_some_iff {cs : List Comparison} (h : cs.Pairwise Precedes) :
    cs.findSome? (Schema.findingIn catalog) = some (f, p) ↔
      ∃ c ∈ cs, c.Breaks catalog f p ∧ ∀ d ∈ cs, ¬ d.Legal catalog → d = c ∨ c.Precedes d := by
  constructor
  · intro hfound
    obtain ⟨before, c, behind, rfl, hc, hbefore⟩ := List.findSome?_eq_some_iff.1 hfound
    refine ⟨c, List.mem_append_right _ (.head _), findingIn_eq_some_iff.1 hc, ?_⟩
    intro d hd hillegal
    rcases List.mem_append.1 hd with hd | hd
    · exact absurd (findingIn_eq_none_iff.1 (hbefore d hd)) hillegal
    · rcases List.mem_cons.1 hd with rfl | hd
      · exact .inl rfl
      · exact .inr (List.rel_of_pairwise_cons (List.pairwise_append.1 h).2.1 hd)
  · rintro ⟨c, hc, hbreaks, hleftmost⟩
    obtain ⟨before, behind, rfl⟩ := List.append_of_mem hc
    refine List.findSome?_eq_some_iff.2
      ⟨before, c, behind, rfl, findingIn_eq_some_iff.2 hbreaks, fun d hd => ?_⟩
    have hprecedes : d.Precedes c := (List.pairwise_append.1 h).2.2 d hd c (.head _)
    rw [findingIn_eq_none_iff]
    refine Classical.byContradiction fun hillegal => ?_
    rcases hleftmost d (List.mem_append_left _ hd) hillegal with rfl | hprecedes'
    · exact hprecedes.irrefl
    · exact (hprecedes.trans hprecedes').irrefl

end Comparison

/-! ## Tokens -/

/-- `t.Exceeds rest f` says that the token `t`, with the tokens `rest` behind it, begins something
the language does without: it is a sign of arithmetic, or a name in front of a parenthesis. -/
inductive Token.Exceeds (t : Token) (rest : List Token) : Finding → Prop where
  | arithmetic (hk : t.kind = .unknown) (htext : t.text ∈ ["+", "-", "*", "/", "%"]) :
      t.Exceeds rest (.arithmetic t.text)
  | call {u : Token} {us : List Token} (hk : t.kind = .identifier) (hrest : rest = u :: us)
      (hu : u.kind = .leftParen) : t.Exceeds rest (.call t.text)

/-- `FirstExceeding ts f p` says that the first of the tokens `ts` that begins something the
language does without stands at the place `p`. -/
inductive FirstExceeding : List Token → Finding → Nat → Prop where
  | here {t : Token} {rest : List Token} {f : Finding} (h : t.Exceeds rest f) :
      FirstExceeding (t :: rest) f t.position
  | behind {t : Token} {rest : List Token} {f : Finding} {p : Nat} (ht : ∀ g, ¬ t.Exceeds rest g)
      (h : FirstExceeding rest f p) : FirstExceeding (t :: rest) f p

/-- A name has a parenthesis behind it if the next token is one. -/
theorem Token.exceeds_call {t : Token} {rest : List Token} (hk : t.kind = .identifier)
    (hrest : rest.head?.map Token.kind = some .leftParen) : t.Exceeds rest (.call t.text) := by
  obtain ⟨u, hu, hkind⟩ := Option.map_eq_some_iff.1 hrest
  obtain ⟨us, rfl⟩ := List.head?_eq_some_iff.1 hu
  exact .call hk rfl hkind

/-- A token begins one thing at most that the language does without. -/
theorem Token.Exceeds.unique {t : Token} {rest : List Token} {f g : Finding}
    (hf : t.Exceeds rest f) (hg : t.Exceeds rest g) : f = g := by
  cases hf with
  | arithmetic hk =>
    cases hg with
    | arithmetic => rfl
    | call hk' => exact absurd (hk.symm.trans hk') (by decide)
  | call hk =>
    cases hg with
    | arithmetic hk' => exact absurd (hk.symm.trans hk') (by decide)
    | call => rfl

namespace FirstExceeding

variable {t : Token} {rest : List Token} {f g : Finding} {p : Nat}

theorem cons_iff_of_exceeds (h : t.Exceeds rest g) :
    FirstExceeding (t :: rest) f p ↔ (g, t.position) = (f, p) := by
  constructor
  · intro hfirst
    cases hfirst with
    | here hf => rw [h.unique hf]
    | behind ht => exact absurd h (ht g)
  · intro heq
    cases heq
    exact .here h

theorem cons_iff_of_not_exceeds (h : ∀ g, ¬ t.Exceeds rest g) :
    FirstExceeding (t :: rest) f p ↔ FirstExceeding rest f p := by
  constructor
  · intro hfirst
    cases hfirst with
    | here hf => exact absurd hf (h f)
    | behind _ hrest => exact hrest
  · exact .behind h

end FirstExceeding

/-- The first token that is not supported is the first one that begins something unsupported. -/
theorem firstUnsupported_eq_some_iff {ts : List Token} {f : Finding} {p : Nat} :
    Schema.firstUnsupported ts = some (f, p) ↔ FirstExceeding ts f p := by
  induction ts with
  | nil => exact ⟨nofun, nofun⟩
  | cons t rest ih =>
    rw [Schema.firstUnsupported]
    split
    · next hsign =>
      rw [Option.some_inj]
      exact (FirstExceeding.cons_iff_of_exceeds (.arithmetic hsign.1 hsign.2)).symm
    next hsign =>
    split
    · next hcall =>
      rw [Option.some_inj]
      exact (FirstExceeding.cons_iff_of_exceeds (Token.exceeds_call hcall.1 hcall.2)).symm
    next hcall =>
    have hnone : ∀ g, ¬ t.Exceeds rest g := by
      intro g hg
      cases hg with
      | arithmetic hk htext => exact hsign ⟨hk, htext⟩
      | call hk hrest hu => exact hcall ⟨hk, by rw [hrest, List.head?_cons, Option.map_some, hu]⟩
    exact ih.trans (FirstExceeding.cons_iff_of_not_exceeds hnone).symm

theorem firstUnsupported_eq_none_iff {ts : List Token} :
    Schema.firstUnsupported ts = none ↔ ∀ f p, ¬ FirstExceeding ts f p := by
  rw [Option.eq_none_iff_forall_ne_some, Prod.forall]
  simp only [ne_eq, firstUnsupported_eq_some_iff]

/-- What is found there is always of one class. -/
theorem FirstExceeding.code_eq {ts : List Token} {f : Finding} {p : Nat}
    (h : FirstExceeding ts f p) : f.code = .unsupported := by
  induction h with
  | here h =>
    cases h with
    | arithmetic | call => rfl
  | behind _ _ ih => exact ih

/-- Tokens of which none is unknown, and no name has a parenthesis behind it, begin nothing that is
not supported. -/
theorem not_firstExceeding {ts : List Token} (hknown : ∀ t ∈ ts, t.kind ≠ .unknown)
    (hchain : ts.IsChain Token.Follows) {f : Finding} {p : Nat} : ¬ FirstExceeding ts f p := by
  intro h
  induction h with
  | here h =>
    cases h with
    | arithmetic hk => exact hknown _ (.head _) hk
    | call hk hrest hu =>
      subst hrest
      exact (List.isChain_cons_cons.1 hchain).1 hk hu
  | behind _ _ ih => exact ih (List.forall_mem_cons.1 hknown).2 hchain.tail

/-- **No condition is refused for an unsupported token.** -/
theorem not_firstExceeding_of_read {source : String} {c : Condition}
    (h : Condition.read source = .ok c) (f : Finding) (p : Nat) :
    ¬ FirstExceeding (tokens source) f p := by
  obtain ⟨ps, hps⟩ := exists_cut 0 source.toList
  have hderives := (read_eq_ok_iff_of_cut hps).1 h
  rw [tokens_eq_of_cut hps]
  refine not_firstExceeding (List.forall_mem_append.2
    ⟨fun t ht => (hderives.kind_ne t ht).1, List.forall_mem_singleton.2 ?_⟩)
    (List.isChain_append.2 ⟨hderives.isChain, .singleton _, ?_⟩)
  · intro h
    cases h
  · intro t _ u hu
    cases hu
    exact fun _ => nofun

/-! ## Lengths -/

/-- The length of a text without the blanks around it is within the limits. -/
structure Limits.Allows (limits : Limits) (source : String) : Prop where
  minLength_le : limits.minLength ≤ (Text.trim source.toList).length
  le_maxLength : (Text.trim source.toList).length ≤ limits.maxLength

theorem findingInLength_eq_none_iff {limits : Limits} {source : String} :
    Schema.findingInLength limits source = none ↔ limits.Allows source := by
  rw [Schema.findingInLength]
  constructor
  · intro h
    split at h
    · cases h
    split at h
    · cases h
    next hmin hmax => exact ⟨Nat.le_of_not_lt hmin, Nat.le_of_not_lt hmax⟩
  · intro h
    rw [if_neg (Nat.not_lt.2 h.minLength_le), if_neg (Nat.not_lt.2 h.le_maxLength)]

/-! ## Texts -/

namespace Schema

variable {schema : Schema} {source : String} {c : Condition} {d : Diagnostic}

/-- A condition is found to be in order exactly if each of its comparisons is legal. -/
theorem checkComparisons_eq_ok_iff {catalog : Catalog} :
    checkComparisons catalog source c = .ok () ↔ ∀ d ∈ c.comparisons, d.Legal catalog := by
  simp only [← Comparison.findingIn_eq_none_iff]
  rw [← List.findSome?_eq_none_iff, checkComparisons]
  cases c.comparisons.findSome? (findingIn catalog) <;> simp

/-- The report about a condition is the finding in the first of its comparisons that is wrong. -/
theorem checkComparisons_eq_error_iff {catalog : Catalog} :
    checkComparisons catalog source c = .error d ↔
      ∃ f p, c.comparisons.findSome? (findingIn catalog) = some (f, p) ∧
        .ofFinding f source p = d := by
  rw [checkComparisons]
  cases c.comparisons.findSome? (findingIn catalog) with
  | none => simp
  | some found =>
    obtain ⟨f, p⟩ := found
    simp

/-- `schema.Accepts source c` says that the text `source` is within the limits and is the condition
`c`, and that every comparison of it is legal. -/
structure Accepts (schema : Schema) (source : String) (c : Condition) : Prop where
  allowed : schema.limits.Allows source
  read_eq : Condition.read source = .ok c
  legal : ∀ d ∈ c.comparisons, d.Legal schema.catalog

/-- `schema.Reports source d` says that the report `d` is made about the text `source`. Each kind of
report is made only if none of those in front of it is. -/
inductive Reports (schema : Schema) (source : String) : Diagnostic → Prop where
  | tooShort (hlength : (Text.trim source.toList).length < schema.limits.minLength) :
      Reports schema source (.locate .malformed "Expression too short" source 0)
  | tooLong (hmin : schema.limits.minLength ≤ (Text.trim source.toList).length)
      (hmax : schema.limits.maxLength < (Text.trim source.toList).length) :
      Reports schema source (.locate .malformed
        ("Expression too long (at most " ++ toString schema.limits.maxLength ++ " characters)")
        source ((source.toList.takeWhile Text.isBlank).length + schema.limits.maxLength))
  | unsupported {f : Finding} {p : Nat} (hallowed : schema.limits.Allows source)
      (hfirst : FirstExceeding (tokens source) f p) :
      Reports schema source (.locate .unsupported f.message source p)
  | unreadable {e : ReadError} (hallowed : schema.limits.Allows source)
      (hsupported : ∀ f p, ¬ FirstExceeding (tokens source) f p)
      (hread : Condition.read source = .error e) : Reports schema source (.ofReadError e)
  | illegal {c : Condition} {worst : Comparison} {f : Finding} {p : Nat}
      (hallowed : schema.limits.Allows source) (hread : Condition.read source = .ok c)
      (hworst : worst ∈ c.comparisons) (hbreaks : worst.Breaks schema.catalog f p)
      (hleftmost : ∀ other ∈ c.comparisons, ¬ other.Legal schema.catalog →
        other = worst ∨ worst.Precedes other) :
      Reports schema source (.locate f.code f.message source p)

/-- What is done with a text, step by step: its length, its tokens, the reading and the comparisons
are looked at one after the other, and the first that is wrong is reported. -/
theorem compile_eq (schema : Schema) (source : String) :
    schema.compile source =
      match findingInLength schema.limits source, firstUnsupported (tokens source),
        Condition.read source with
      | some (f, p), _, _ => .error (.ofFinding f source p)
      | none, some (f, p), _ => .error (.ofFinding f source p)
      | none, none, .error e => .error (.ofReadError e)
      | none, none, .ok c =>
          match c.comparisons.findSome? (findingIn schema.catalog) with
          | some (f, p) => .error (.ofFinding f source p)
          | none => .ok c := by
  unfold compile
  cases findingInLength schema.limits source with
  | some found => rfl
  | none =>
    cases firstUnsupported (tokens source) with
    | some found => rfl
    | none =>
      cases Condition.read source with
      | error e => rfl
      | ok c =>
        show ((checkComparisons schema.catalog source c).bind fun _ => .ok c) = _
        unfold checkComparisons
        dsimp only
        cases c.comparisons.findSome? (findingIn schema.catalog) with
        | some found => rfl
        | none => rfl

/-- **What is accepted.** -/
theorem compile_eq_ok_iff : schema.compile source = .ok c ↔ schema.Accepts source c := by
  rw [compile_eq]
  constructor
  · intro h
    split at h
    · cases h
    · cases h
    · cases h
    next hlength _ hread =>
    split at h
    · cases h
    next hfound =>
    cases h
    exact ⟨findingInLength_eq_none_iff.1 hlength, hread, fun d hd =>
      Comparison.findingIn_eq_none_iff.1 (List.findSome?_eq_none_iff.1 hfound d hd)⟩
  · rintro ⟨hallowed, hread, hlegal⟩
    rw [findingInLength_eq_none_iff.2 hallowed,
      firstUnsupported_eq_none_iff.2 (not_firstExceeding_of_read hread), hread]
    dsimp only
    rw [List.findSome?_eq_none_iff.2 fun d hd =>
      Comparison.findingIn_eq_none_iff.2 (hlegal d hd)]

/-- A text of a wrong length is reported. -/
theorem reports_of_findingInLength {f : Finding} {p : Nat}
    (h : findingInLength schema.limits source = some (f, p)) :
    schema.Reports source (.ofFinding f source p) := by
  rw [findingInLength] at h
  split at h
  · next hmin =>
    cases h
    exact .tooShort hmin
  next hmin =>
  split at h
  · next hmax =>
    cases h
    exact .tooLong (Nat.le_of_not_lt hmin) hmax
  · cases h

/-- What is reported about a text is the right report. -/
theorem reports_of_compile (h : schema.compile source = .error d) : schema.Reports source d := by
  rw [compile_eq] at h
  split at h
  · next hlength =>
    cases h
    exact reports_of_findingInLength hlength
  · next hlength hsupported =>
    cases h
    have hfirst := firstUnsupported_eq_some_iff.1 hsupported
    rw [Diagnostic.ofFinding, hfirst.code_eq]
    exact .unsupported (findingInLength_eq_none_iff.1 hlength) hfirst
  · next hlength hsupported hread =>
    cases h
    exact .unreadable (findingInLength_eq_none_iff.1 hlength)
      (firstUnsupported_eq_none_iff.1 hsupported) hread
  next hlength _ hread =>
  split at h
  · next hfound =>
    cases h
    obtain ⟨worst, hworst, hbreaks, hleftmost⟩ :=
      (Comparison.findSome?_findingIn_eq_some_iff (pairwise_comparisons_of_read hread)).1 hfound
    exact .illegal (findingInLength_eq_none_iff.1 hlength) hread hworst hbreaks hleftmost
  · cases h

/-- The right report about a text is made. -/
theorem Reports.compile_eq (h : schema.Reports source d) : schema.compile source = .error d := by
  rw [Schema.compile_eq]
  cases h with
  | tooShort hlength => rw [findingInLength, if_pos hlength]; rfl
  | tooLong hmin hmax => rw [findingInLength, if_neg (Nat.not_lt.2 hmin), if_pos hmax]; rfl
  | unsupported hallowed hfirst =>
    rw [findingInLength_eq_none_iff.2 hallowed, firstUnsupported_eq_some_iff.2 hfirst,
      ← hfirst.code_eq]
    rfl
  | unreadable hallowed hsupported hread =>
    rw [findingInLength_eq_none_iff.2 hallowed, firstUnsupported_eq_none_iff.2 hsupported, hread]
  | illegal hallowed hread hworst hbreaks hleftmost =>
    have hfound := (Comparison.findSome?_findingIn_eq_some_iff
      (pairwise_comparisons_of_read hread)).2 ⟨_, hworst, hbreaks, hleftmost⟩
    rw [findingInLength_eq_none_iff.2 hallowed,
      firstUnsupported_eq_none_iff.2 (not_firstExceeding_of_read hread), hread]
    dsimp only
    rw [hfound]
    rfl

/-- **What is reported.** -/
theorem compile_eq_error_iff : schema.compile source = .error d ↔ schema.Reports source d :=
  ⟨reports_of_compile, Reports.compile_eq⟩

/-- **A schema accepts exactly the conditions it describes, and reports the first thing that is
wrong with any other text.** A text is accepted as a condition exactly if it is within the limits,
is read as that condition, and every comparison in it is legal; no text that can be read has an
unsupported token; and a report is made exactly if it is the one that `Reports` gives. -/
theorem compile_decides (schema : Schema) (source : String) :
    (∀ c, schema.compile source = .ok c ↔ schema.Accepts source c) ∧
      (∀ c, Condition.read source = .ok c → ∀ f p, ¬ FirstExceeding (tokens source) f p) ∧
      ∀ d, schema.compile source = .error d ↔ schema.Reports source d :=
  ⟨fun _ => compile_eq_ok_iff, fun _ h => not_firstExceeding_of_read h,
    fun _ => compile_eq_error_iff⟩

/-- Two comparisons are illegal, and the one on the left is reported although a disjunction stands
around both. -/
theorem compile_decides_leftmost :
    ∃ c, Condition.read "channel = 'WEB' and (currency > 'RU' or country = 'X')" = .ok c ∧
      (∀ f p, ¬ FirstExceeding
        (tokens "channel = 'WEB' and (currency > 'RU' or country = 'X')") f p) ∧
      standard.compile "channel = 'WEB' and (currency > 'RU' or country = 'X')" =
        .error ⟨.invalidOperator, "Operator '>' is not allowed for text field 'currency'", 30,
          "> 'RU' or country = "⟩ := by
  obtain ⟨-, hsupported, hreports⟩ :=
    compile_decides standard "channel = 'WEB' and (currency > 'RU' or country = 'X')"
  have hread : Condition.read "channel = 'WEB' and (currency > 'RU' or country = 'X')" =
      .ok (.and (.compare ⟨.equal, .field "channel" 0, .literal (.text "WEB") 10, 8⟩)
        (.or (.compare ⟨.greater, .field "currency" 21, .literal (.text "RU") 32, 30⟩)
          (.compare ⟨.equal, .field "country" 40, .literal (.text "X") 50, 48⟩) 37) 16) :=
    eq_ok_of_toOption (by decide +kernel)
  refine ⟨_, hread, hsupported _ hread, (hreports _).2 ?_⟩
  have hfield : standard.catalog.find? "currency" = some (.named "currency" .text) := by
    decide +kernel
  have hother : standard.catalog.find? "channel" = some (.named "channel" .text) := by
    decide +kernel
  have hreport := Reports.illegal ⟨by decide +kernel, by decide +kernel⟩ hread (.tail _ (.head _))
    (.orderedText hfield rfl rfl) ?_
  · exact hreport
  · refine List.forall_mem_cons.2 ⟨fun hillegal => ?_, List.forall_mem_cons.2
      ⟨fun _ => .inl rfl, List.forall_mem_singleton.2 fun _ => .inr (by decide)⟩⟩
    exact absurd (.intro hother fun _ => rfl) hillegal

end Schema

end Screening
