import Screening.Proofs.Condition.Canonical
import Screening.Proofs.Token.Parentheses

/-!
# No parentheses too many

Where parentheses are left out the condition must bind tightly enough, and what does not has to
stand in parentheses wherever it is written, in the canonical form or not. So a text that is read as
a condition opens as many parentheses as the canonical form of that condition, at least
(`Derives.length_enclosures_le`). Taking a pair of parentheses out of the canonical form leaves
one too few of them, and what is left is not read as the same condition
(`print_needs_parentheses`).

`Condition.enclosures` are the pairs of parentheses that the canonical form is written with, and
`Encloses` joins what is known of the pairs in a text: what stands around them, that it leaves no
quoted text open, and that no other parentheses open there.
-/

namespace Screening

/-! ## Pairs of parentheses -/

/-- A pair of parentheses in a text: the condition that is written between them, and what stands in
front of the first and behind the second. -/
structure Enclosure where
  before : List Char
  inner : Condition
  behind : List Char

namespace Enclosure

/-- The text. -/
def whole (x : Enclosure) : List Char := x.before ++ '(' :: (x.inner.render ++ ')' :: x.behind)

/-- The text without the two parentheses. -/
def bared (x : Enclosure) : List Char := x.before ++ (x.inner.render ++ x.behind)

/-- The same pair in a longer text. -/
def within (before behind : List Char) (x : Enclosure) : Enclosure :=
  ⟨before ++ x.before, x.inner, x.behind ++ behind⟩

theorem whole_within (before behind : List Char) (x : Enclosure) :
    (x.within before behind).whole = before ++ (x.whole ++ behind) := by
  simp only [whole, within, List.append_assoc, List.cons_append]

theorem within_within (before before' behind behind' : List Char) (x : Enclosure) :
    (x.within before behind).within before' behind' =
      x.within (before' ++ before) (behind ++ behind') := by
  simp only [within, List.append_assoc]

/-- No quoted text is left open in front of the parentheses, between them or behind them. -/
structure Closed (x : Enclosure) : Prop where
  before : ∃ ns, Opens x.before ns
  inner : ∃ ns, Opens x.inner.render ns
  behind : ∃ ns, Opens x.behind ns

theorem Closed.within {x : Enclosure} {before behind : List Char} {ns ms : List Nat}
    (h : x.Closed) (hbefore : Opens before ns) (hbehind : Opens behind ms) :
    (x.within before behind).Closed := by
  obtain ⟨⟨_, hb⟩, hi, ⟨_, ha⟩⟩ := h
  exact ⟨⟨_, hbefore.append hb⟩, hi, ⟨_, ha.append hbehind⟩⟩

/-- Without a pair of parentheses one parenthesis less opens. -/
theorem Closed.length_openings {x : Enclosure} (h : x.Closed) :
    (openings 0 x.whole).length = (openings 0 x.bared).length + 1 := by
  obtain ⟨⟨_, hb⟩, ⟨_, hi⟩, ⟨_, ha⟩⟩ := h
  have hclose : Opens [')'] [] := .plain (List.forall_mem_singleton.2 rfl)
  have hwhole : Opens x.whole _ := hb.append (Opens.leftParen.append (hi.append (hclose.append ha)))
  have hbared : Opens x.bared _ := hb.append (hi.append ha)
  rw [hwhole.openings_eq, hbared.openings_eq]
  simp only [List.length_map, List.length_append, List.length_cons, List.length_nil]
  omega

end Enclosure

/-- `Encloses cs xs` says that `xs` are the pairs of parentheses in the text `cs`, from the left to
the right. -/
structure Encloses (cs : List Char) (xs : List Enclosure) : Prop where
  whole_eq : ∀ x ∈ xs, x.whole = cs
  closed : ∀ x ∈ xs, x.Closed
  opens : Opens cs (xs.map (·.before.length))

/-- The pairs of parentheses in what `enclose` writes of a condition, if `inside` are those in what
is written of the condition itself. -/
def Condition.enclosed (needed : Bool) (c : Condition) (inside : List Enclosure) :
    List Enclosure :=
  if needed then ⟨[], c, []⟩ :: inside.map (.within ['('] [')']) else inside

namespace Encloses

variable {cs ds : List Char} {xs ys : List Enclosure}

theorem length_openings (h : Encloses cs xs) : (openings 0 cs).length = xs.length := by
  rw [h.opens.openings_eq, List.length_map, List.length_map]

theorem plain (h : Opens cs []) : Encloses cs [] := ⟨nofun, nofun, h⟩

/-- One text behind the other has the pairs of both. -/
theorem append (h : Encloses cs xs) (h' : Encloses ds ys) :
    Encloses (cs ++ ds) (xs.map (.within [] ds) ++ ys.map (.within cs [])) where
  whole_eq := by
    refine List.forall_mem_append.2
      ⟨List.forall_mem_map.2 fun x hx => ?_, List.forall_mem_map.2 fun y hy => ?_⟩
    · rw [Enclosure.whole_within, h.whole_eq x hx, List.nil_append]
    · rw [Enclosure.whole_within, h'.whole_eq y hy, List.append_nil]
  closed := by
    refine List.forall_mem_append.2
      ⟨List.forall_mem_map.2 fun x hx => ?_, List.forall_mem_map.2 fun y hy => ?_⟩
    · exact (h.closed x hx).within .nil h'.opens
    · exact (h'.closed y hy).within h.opens .nil
  opens := by
    have hopens := h.opens.append h'.opens
    simpa [Enclosure.within, Function.comp_def] using hopens

/-- A word between two texts adds no pair to theirs. -/
theorem between {word : List Char} (h : Encloses cs xs) (hword : Opens word [])
    (h' : Encloses ds ys) : Encloses (cs ++ word ++ ds)
      (xs.map (.within [] (word ++ ds)) ++ ys.map (.within (cs ++ word) [])) := by
  have hjoined := h.append ((plain hword).append h')
  simpa [Enclosure.within_within, Function.comp_def] using hjoined

/-- Parentheses around a condition are a pair, and stand around the pairs in it. -/
theorem enclosed {c : Condition} (h : Encloses c.render xs) (needed : Bool) :
    Encloses (Condition.enclose needed c.render) (c.enclosed needed xs) := by
  cases needed with
  | false => exact h
  | true =>
    have hclose : Opens [')'] [] := .plain (List.forall_mem_singleton.2 rfl)
    refine ⟨List.forall_mem_cons.2 ⟨rfl, List.forall_mem_map.2 fun x hx => ?_⟩,
      List.forall_mem_cons.2 ⟨?_, List.forall_mem_map.2 fun x hx => ?_⟩, ?_⟩
    · rw [Enclosure.whole_within, h.whole_eq x hx]
      rfl
    · exact ⟨⟨_, .nil⟩, ⟨_, h.opens⟩, ⟨_, .nil⟩⟩
    · exact (h.closed x hx).within .leftParen hclose
    · have hopens := (Opens.leftParen.append h.opens).append hclose
      simpa [Condition.enclose, Condition.enclosed, Enclosure.within, Function.comp_def,
        Nat.add_comm] using hopens

end Encloses

/-! ## The pairs that are written -/

/-- In an operand nothing opens. -/
theorem Operand.Legible.opens {o : Operand} (h : o.Legible) : Opens o.render [] := by
  obtain ⟨k, text, hs, -, hop⟩ := h.spells
  obtain ⟨o', ho, -⟩ := hop 0
  have hopens {kind : TokenKind} (hk : k = kind) (hclosed : kind ≠ .unterminated)
      (hparen : kind ≠ .leftParen) : Opens o.render [] := by
    subst hk
    simpa [hparen] using hs.opens hclosed
  cases ho with
  | field hk | number hk _ | text hk => exact hopens hk nofun nofun

/-- In a comparison nothing opens. -/
theorem Comparison.opens_render {c : Comparison} (hl : c.left.Legible) (hr : c.right.Legible) :
    Opens c.render [] := by
  have hblank : Opens [' '] [] := .plain (List.forall_mem_singleton.2 rfl)
  have hsign : Opens c.relation.symbol.toList [] := by
    cases c.relation <;> exact .plain (List.all_eq_true.1 rfl)
  have hopens := hl.opens.append (hblank.append (hsign.append (hblank.append hr.opens)))
  simpa [render] using hopens

namespace Condition

/-- The pairs of parentheses in what is written of a condition. -/
def enclosures : Condition → List Enclosure
  | .compare _ => []
  | .not c _ => (c.enclosed (c.strength < 3) c.enclosures).map (.within "NOT ".toList [])
  | .and c d _ =>
      let left := enclose (c.strength < 2) c.render
      let right := enclose (d.strength < 3) d.render
      (c.enclosed (c.strength < 2) c.enclosures).map (.within [] (" AND ".toList ++ right)) ++
        (d.enclosed (d.strength < 3) d.enclosures).map (.within (left ++ " AND ".toList) [])
  | .or c d _ =>
      let left := enclose (c.strength < 1) c.render
      let right := enclose (d.strength < 2) d.render
      (c.enclosed (c.strength < 1) c.enclosures).map (.within [] (" OR ".toList ++ right)) ++
        (d.enclosed (d.strength < 2) d.enclosures).map (.within (left ++ " OR ".toList) [])

/-- These are the pairs of parentheses that are written. -/
theorem Legible.encloses {c : Condition} (h : c.Legible) : Encloses c.render c.enclosures := by
  induction c with
  | compare c =>
    obtain ⟨hl, hr⟩ := h c (.head _)
    exact .plain (Comparison.opens_render hl hr)
  | not c position ih =>
    have hword : Opens "NOT ".toList [] := .plain (List.all_eq_true.1 rfl)
    exact (Encloses.plain hword).append ((ih h).enclosed _)
  | and c d position ihc ihd =>
    obtain ⟨hc, hd⟩ := List.forall_mem_append.1 h
    have hword : Opens " AND ".toList [] := .plain (List.all_eq_true.1 rfl)
    rw [render_and]
    exact ((ihc hc).enclosed _).between hword ((ihd hd).enclosed _)
  | or c d position ihc ihd =>
    obtain ⟨hc, hd⟩ := List.forall_mem_append.1 h
    have hword : Opens " OR ".toList [] := .plain (List.all_eq_true.1 rfl)
    rw [render_or]
    exact ((ihc hc).enclosed _).between hword ((ihd hd).enclosed _)

/-! ## The pairs that are needed -/

theorem length_enclosed (needed : Bool) (c : Condition) (inside : List Enclosure) :
    (c.enclosed needed inside).length = deepened needed inside.length := by
  cases needed with
  | false => rfl
  | true => exact congrArg (· + 1) (List.length_map _)

theorem length_enclosures_not (c : Condition) (position : Nat) :
    (not c position).enclosures.length = deepened (c.strength < 3) c.enclosures.length := by
  rw [enclosures, List.length_map, length_enclosed]

theorem length_enclosures_and (c d : Condition) (position : Nat) :
    (and c d position).enclosures.length = deepened (c.strength < 2) c.enclosures.length +
      deepened (d.strength < 3) d.enclosures.length := by
  simp only [enclosures, List.length_append, List.length_map, length_enclosed]

theorem length_enclosures_or (c d : Condition) (position : Nat) :
    (or c d position).enclosures.length = deepened (c.strength < 1) c.enclosures.length +
      deepened (d.strength < 2) d.enclosures.length := by
  simp only [enclosures, List.length_append, List.length_map, length_enclosed]

end Condition

/-- Whatever a condition is derived from, no fewer parentheses open there than are written. -/
theorem Derives.length_enclosures_le {k : Category} {room : Nat} {ts : List Token}
    {c : Condition} (h : Derives k room ts c) :
    deepened (c.strength < k.strength) c.enclosures.length ≤
      ts.countP (·.kind = .leftParen) := by
  have of_both (ts us : List Token) (t : Token) {n m : Nat}
      (hn : n ≤ ts.countP (·.kind = .leftParen)) (hm : m ≤ us.countP (·.kind = .leftParen)) :
      n + m ≤ (ts ++ t :: us).countP (·.kind = .leftParen) := by
    rw [List.countP_append, List.countP_cons]
    omega
  induction h with
  | conjunction _ ih | unary _ ih | primary _ ih =>
    exact Nat.le_trans (deepened_mono (by decide) _ _) ih
  | or _ _ _ ihl ihr =>
    exact Nat.le_trans (Condition.length_enclosures_or _ _ _).le (of_both _ _ _ ihl ihr)
  | and _ _ _ ihl ihr =>
    exact Nat.le_trans (Condition.length_enclosures_and _ _ _).le (of_both _ _ _ ihl ihr)
  | @not _ ts t c _ _ ih =>
    rw [List.countP_cons]
    exact Nat.le_add_right_of_le (Nat.le_trans (Condition.length_enclosures_not _ _).le ih)
  | @group _ ts t u c hk _ _ ih =>
    have hopen : (t :: (ts ++ [u])).countP (·.kind = .leftParen) =
        (ts ++ [u]).countP (·.kind = .leftParen) + 1 :=
      List.countP_cons_of_pos (decide_eq_true hk)
    rw [hopen, List.countP_append]
    exact Nat.le_trans (deepened_le_succ _ _)
      (Nat.succ_le_succ (Nat.le_add_right_of_le (Nat.le_trans (le_deepened _ _) ih)))
  | compare => exact Nat.zero_le _

/-- A text that is read as a condition opens as many parentheses as are written of it, at least. -/
theorem length_enclosures_le_of_read {source : String} {c : Condition}
    (h : Condition.read source = .ok c) :
    c.enclosures.length ≤ (openings 0 source.toList).length := by
  obtain ⟨ps, hps⟩ := exists_cut 0 source.toList
  rw [hps.openings_eq, List.length_map, ← List.countP_eq_length_filter]
  exact Nat.le_trans (le_deepened _ _) ((read_eq_ok_iff_of_cut hps).1 h).length_enclosures_le

/-! ## Whole texts -/

/-- **No parentheses can be spared.** In the canonical form of a condition that has been read, the
parentheses that open are those of the pairs that are written around parts of it. What is left of
the text without one of these pairs is not read as the same condition. -/
theorem print_needs_parentheses {source : String} {c : Condition}
    (h : Condition.read source = .ok c) :
    ((tokens c.print).filter (·.kind = .leftParen)).map Token.position =
        c.enclosures.map (·.before.length) ∧
      ∀ x ∈ c.enclosures, c.print = String.ofList x.whole ∧
        ∀ d, Condition.read (String.ofList x.bared) = .ok d → c.same d = false := by
  have hlegible := legible_of_read h
  have hencloses := hlegible.encloses
  refine ⟨?_, fun x hx => ⟨?_, fun d hd => Bool.eq_false_iff.2 fun hsame => ?_⟩⟩
  · rw [map_position_filter_tokens, Condition.print, String.toList_ofList,
      hencloses.opens.openings_eq]
    simp
  · rw [Condition.print, hencloses.whole_eq x hx]
  · -- the two are written alike, and what is left opens too few parentheses for that
    have hrender := Condition.render_of_unplaced
      ((hlegible.same_iff (legible_of_read hd)).1 hsame)
    have hfew : d.enclosures.length = (openings 0 x.bared).length + 1 := by
      rw [← (legible_of_read hd).encloses.length_openings, ← hrender, ← hencloses.whole_eq x hx,
        (hencloses.closed x hx).length_openings]
    have hmany := length_enclosures_le_of_read hd
    rw [String.toList_ofList] at hmany
    omega

/-- Parentheses on the right of a disjunction are needed where all its operands are the same. -/
theorem print_needs_parentheses_repeated :
    ∃ c, Condition.read "not (a = 1 or (a = 1 or (a = 1)))" = .ok c ∧
      c.print = "NOT (a = 1 OR (a = 1 OR a = 1))" ∧
      ((tokens c.print).filter (·.kind = .leftParen)).map Token.position = [4, 14] ∧
      (∀ d, Condition.read "NOT a = 1 OR (a = 1 OR a = 1)" = .ok d → c.same d = false) ∧
      ∀ d, Condition.read "NOT (a = 1 OR a = 1 OR a = 1)" = .ok d → c.same d = false := by
  have hpairs : (Condition.read "not (a = 1 or (a = 1 or (a = 1)))").toOption.map (fun c =>
      (c.print, c.enclosures.map fun x => (x.before.length, String.ofList x.bared))) =
      some ("NOT (a = 1 OR (a = 1 OR a = 1))", [(4, "NOT a = 1 OR (a = 1 OR a = 1)"),
        (14, "NOT (a = 1 OR a = 1 OR a = 1)")]) := by
    decide +kernel
  cases hread : Condition.read "not (a = 1 or (a = 1 or (a = 1)))" with
  | error e => rw [hread] at hpairs; cases hpairs
  | ok c =>
    rw [hread] at hpairs
    obtain ⟨hprint, hpairs⟩ := Prod.mk.inj (Option.some.inj hpairs)
    obtain ⟨hplaces, hneeded⟩ := print_needs_parentheses hread
    have hbared : ∀ n text, (n, text) ∈ [(4, "NOT a = 1 OR (a = 1 OR a = 1)"),
        (14, "NOT (a = 1 OR a = 1 OR a = 1)")] →
        ∀ d, Condition.read text = .ok d → c.same d = false := by
      intro n text hmem
      rw [← hpairs] at hmem
      obtain ⟨x, hx, heq⟩ := List.mem_map.1 hmem
      cases heq
      exact (hneeded x hx).2
    refine ⟨c, rfl, hprint, ?_, hbared 4 _ (by simp), hbared 14 _ (by simp)⟩
    rw [hplaces]
    have hfirst := congrArg (List.map Prod.fst) hpairs
    rwa [List.map_map] at hfirst

end Screening
