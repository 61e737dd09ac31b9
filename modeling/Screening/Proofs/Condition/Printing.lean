import Screening.Proofs.Binary64.Display
import Screening.Proofs.Condition.Acceptance
import Screening.Proofs.Condition.Places

/-!
# Reading what is written

A condition that has been read can be written and read again: `exists_read_print`. Three things have
to fit. Every operand is written so that it falls into one token and is read as itself
(`Operand.Legible.spells`); that the operand comes out of a reading is what makes it legible. Where
parentheses are left out, the condition that stands there is of the category that is expected
(`Writes.enclose`). And no more parentheses are written than the text had that the condition was
read from, so the limit on their nesting is kept (`Derives.nestingAt_le`).

`Writes` joins the three: it says of characters that they fall into the tokens of a condition
wherever they stand.
-/

namespace Screening

open Text

/-! ## Quoted texts -/

/-- An escaped text may stand between two quotes, and says the text. -/
theorem inside_escape (cs : List Char) : Inside (cs.flatMap Literal.escape) cs := by
  induction cs with
  | nil => exact .nil
  | cons c cs ih =>
    rw [List.flatMap_cons, Literal.escape]
    split
    · next h => exact .guarded h ih
    · next h =>
      obtain ⟨hquote, hback⟩ := not_or.1 h
      exact .plain hquote (fun hc => absurd hc hback) ih

/-! ## Legible operands -/

/-- An operand that its characters can be read as: the name of a field is a word and no keyword, and
a number is not negative. -/
inductive Operand.Legible : Operand → Prop where
  | field {name : String} {position : Nat} (h : Spells .identifier name.toList name.toList) :
      Legible (.field name position)
  | number {value : Binary64.Finite} {position : Nat} (h : value.negative = false) :
      Legible (.literal (.number value) position)
  | text {value : String} {position : Nat} : Legible (.literal (.text value) position)

/-- A condition is legible if all its operands are. -/
def Condition.Legible (c : Condition) : Prop :=
  ∀ d ∈ c.comparisons, d.left.Legible ∧ d.right.Legible

/-- An operand that a lexeme has been read as is legible. -/
theorem IsOperand.legible {t : Token} {o : Operand} {span : List Char} (h : IsOperand t o)
    (hs : Spells t.kind t.text.toList span) : o.Legible := by
  obtain ⟨kind, text, position⟩ := t
  dsimp only at hs
  cases h with
  | field hk =>
    cases hk
    rw [hs.eq_of_identifier] at hs
    exact .field hs
  | number hk hx =>
    cases hk
    obtain ⟨c, cs, heq, hc⟩ := hs.exists_digit_of_number
    dsimp only at hx
    rw [heq] at hx
    exact .number (Binary64.negative_eq_false_of_read? hc hx)
  | text => exact .text

/-- A condition that lexemes derive is legible. -/
theorem Derives.legible {k : Category} {room : Nat} {ts : List Token} {c : Condition}
    (h : Derives k room ts c) (hts : ∀ t ∈ ts, ∃ span, Spells t.kind t.text.toList span) :
    c.Legible := by
  induction h with
  | conjunction _ ih | unary _ ih | primary _ ih => exact ih hts
  | or _ _ _ ihl ihr | and _ _ _ ihl ihr =>
    obtain ⟨hl, hr⟩ := List.forall_mem_append.1 hts
    exact List.forall_mem_append.2 ⟨ihl hl, ihr (List.forall_mem_cons.1 hr).2⟩
  | not _ _ ih => exact ih (List.forall_mem_cons.1 hts).2
  | group _ _ _ ih =>
    exact ih (List.forall_mem_append.1 (List.forall_mem_cons.1 hts).2).1
  | @compare _ t o u _ _ _ hl _ hr =>
    obtain ⟨_, hsl⟩ := hts t (by simp)
    obtain ⟨_, hsr⟩ := hts u (by simp)
    exact List.forall_mem_singleton.2 ⟨hl.legible hsl, hr.legible hsr⟩

/-! ## Operands as they are written -/

/-- What may stand behind a condition: nothing, a blank or a closing parenthesis. -/
def Clear (rest : List Char) : Prop := ∀ d ∈ rest.head?, d = ' ' ∨ d = ')'

theorem isWordPart_eq_false_of_clear {d : Char} (h : d = ' ' ∨ d = ')') :
    isWordPart d = false := by
  rcases h with rfl | rfl <;> decide +kernel

/-- A legible operand is written as a lexeme that ends in front of a blank and of a closing
parenthesis, and that is read as the operand. -/
theorem Operand.Legible.spells {o : Operand} (h : o.Legible) :
    ∃ k text, Spells k text o.render ∧ (∀ rest, Clear rest → Ends k o.render rest) ∧
      ∀ p, ∃ o', IsOperand ⟨k, String.ofList text, p⟩ o' ∧ o'.unplaced = o.unplaced := by
  cases h with
  | @field name _ h =>
    refine ⟨_, _, h, fun rest hrest d hd => isWordPart_eq_false_of_clear (hrest d hd),
      fun p => ⟨_, .field rfl, ?_⟩⟩
    rw [String.ofList_toList]
    rfl
  | @number x _ h =>
    obtain ⟨c, cs, heq, hc, hcs⟩ := Binary64.exists_display_eq_cons h
    have hs : Spells .number (c :: cs) (c :: cs) :=
      .number hc fun d hd => by simpa [isNumberPart] using hcs d hd
    refine ⟨.number, c :: cs, heq ▸ hs, fun rest hrest d hd => ?_,
      fun p => ⟨_, .number rfl ?_, rfl⟩⟩
    · rcases hrest d hd with rfl | rfl <;> rfl
    · rw [String.toList_ofList, ← heq]
      exact Binary64.read?_display x
  | @text value _ =>
    refine ⟨_, _, .text (inside_escape value.toList).splitQuoted_append, fun _ _ _ _ => rfl,
      fun p => ⟨_, .text rfl, ?_⟩⟩
    rw [(inside_escape _).unescape_eq, String.ofList_toList]
    rfl

/-! ## How deep the parentheses stand -/

/-- How deep a condition stands, or how many parentheses are written of it, with those around it if
it needs any. -/
def deepened (needed : Bool) (depth : Nat) : Nat := if needed then depth + 1 else depth

theorem le_deepened (needed : Bool) (depth : Nat) : depth ≤ deepened needed depth := by
  unfold deepened
  split <;> omega

theorem deepened_le_succ (needed : Bool) (depth : Nat) : deepened needed depth ≤ depth + 1 := by
  unfold deepened
  split <;> omega

/-- What is asked to bind more tightly stands deeper. -/
theorem deepened_mono {n m : Nat} (h : n ≤ m) (strength depth : Nat) :
    deepened (strength < n) depth ≤ deepened (strength < m) depth := by
  simp only [deepened, decide_eq_true_eq]
  split <;> split <;> omega

/-- How many negations and parentheses are open together in what is written of a condition. -/
def Condition.nesting : Condition → Nat
  | .compare _ => 0
  | .not c _ => deepened (c.strength < 3) c.nesting + 1
  | .and c d _ => max (deepened (c.strength < 2) c.nesting) (deepened (d.strength < 3) d.nesting)
  | .or c d _ => max (deepened (c.strength < 1) c.nesting) (deepened (d.strength < 2) d.nesting)

/-- The same where the condition is asked to bind with the given strength. -/
def Condition.nestingAt (asked : Nat) (c : Condition) : Nat :=
  deepened (c.strength < asked) c.nesting

/-- No more negations and parentheses are written than a condition is derived with. -/
theorem Derives.nestingAt_le {k : Category} {room : Nat} {ts : List Token} {c : Condition}
    (h : Derives k room ts c) : c.nestingAt k.strength ≤ room := by
  induction h with
  | conjunction _ ih | unary _ ih | primary _ ih =>
    exact Nat.le_trans (deepened_mono (by decide) _ _) ih
  | or _ _ _ ihl ihr | and _ _ _ ihl ihr => exact Nat.max_le.2 ⟨ihl, ihr⟩
  | not _ _ ih => exact Nat.succ_le_succ ih
  | group _ _ _ ih =>
    exact Nat.le_trans (deepened_le_succ _ _)
      (Nat.succ_le_succ (Nat.le_trans (le_deepened _ _) ih))
  | compare => exact Nat.zero_le _

/-! ## Characters that are written for a condition -/

/-- The characters `cs` are written for the condition `c`: wherever they stand, they fall into
tokens that derive it as a condition of the category `k`, up to the places of its parts. -/
def Writes (k : Category) (room : Nat) (cs : List Char) (c : Condition) : Prop :=
  ∀ ⦃p q : Nat⦄ ⦃rest : List Char⦄ ⦃ps : List Piece⦄, q = p + cs.length → Clear rest →
    Cut q rest ps → ∃ qs d, Cut p (cs ++ rest) (qs ++ ps) ∧
      Derives k room (qs.map Piece.token) d ∧ d.unplaced = c.unplaced

/-- A lexeme in front of a blank is a piece, and the blank is part of none. -/
theorem Cut.cons_blank {k : TokenKind} {text span cs : List Char} {ps : List Piece} {p q : Nat}
    (hs : Spells k text span) (hend : Ends k span (' ' :: cs)) (hq : q = p + span.length + 1)
    (h : Cut q cs ps) : Cut p (span ++ ' ' :: cs) (⟨⟨k, String.ofList text, p⟩, span⟩ :: ps) := by
  subst hq
  exact .cons hs hend (.append_blanks (List.forall_mem_singleton.2 (by decide) : ∀ b ∈ [' '], _) h)

theorem clear_blank (cs : List Char) : Clear (' ' :: cs) := fun d hd => by cases hd; exact .inl rfl

theorem clear_rightParen (cs : List Char) : Clear (')' :: cs) := fun d hd => by
  cases hd; exact .inr rfl

namespace Writes

variable {k k' : Category} {room room' n m : Nat} {cs ds : List Char} {c d : Condition}

/-- What is written for a tighter category or with room to spare will do. -/
theorem mono (h : Writes k room cs c) (hk : k'.strength ≤ k.strength) (hle : room ≤ room') :
    Writes k' room' cs c := by
  intro p q rest ps hq hclear hcut
  obtain ⟨qs, d, hqs, hd, heq⟩ := h hq hclear hcut
  exact ⟨qs, d, hqs, (hd.loosen hk).mono hle, heq⟩

/-- Two operands and the sign between them are written for a comparison. -/
theorem compare {c : Comparison} (hl : c.left.Legible) (hr : c.right.Legible) :
    Writes .primary room c.render (.compare c) := by
  intro p q rest ps hq hclear hcut
  obtain ⟨kl, tl, hsl, hendl, hopl⟩ := hl.spells
  obtain ⟨kr, tr, hsr, hendr, hopr⟩ := hr.spells
  have hlist : c.render ++ rest = c.left.render ++ ' ' ::
      (c.relation.symbol.toList ++ ' ' :: (c.right.render ++ rest)) := by
    simp only [Comparison.render, List.append_assoc, List.cons_append]
  have hlength : q = p + c.left.render.length + 1 + c.relation.symbol.toList.length + 1 +
      c.right.render.length := by
    simp only [hq, Comparison.render, List.length_append, List.length_cons]
    omega
  rw [hlength] at hcut
  have hright := Cut.cons hsr (hendr rest hclear) hcut
  have hsign := Cut.cons_blank (.relation c.relation) (ends_cons.2 rfl) rfl hright
  have hleft := Cut.cons_blank hsl (hendl _ (clear_blank _)) rfl hsign
  obtain ⟨l, hl, hleq⟩ := hopl p
  obtain ⟨r, hr, hreq⟩ := hopr (p + c.left.render.length + 1 + c.relation.symbol.toList.length + 1)
  rw [hlist]
  refine ⟨[_, _, _], _, hleft, .compare hl ⟨rfl, String.ofList_toList⟩ hr, ?_⟩
  simp only [Condition.unplaced, Comparison.unplaced, hleq, hreq]

/-- Parentheses make a primary condition of everything. -/
theorem group (h : Writes .disjunction room cs c) :
    Writes .primary (room + 1) ('(' :: cs ++ [')']) c := by
  intro p q rest ps hq hclear hcut
  have hlist : '(' :: cs ++ [')'] ++ rest = ['('] ++ (cs ++ ([')'] ++ rest)) := by
    simp only [List.cons_append, List.append_assoc, List.nil_append]
  have hlength : q = p + 1 + cs.length + 1 := by
    simp only [hq, List.length_append, List.length_cons, List.length_nil]
    omega
  rw [hlength] at hcut
  have hclose := Cut.cons .rightParen (fun _ _ => rfl) hcut
  obtain ⟨qs, d, hqs, hd, heq⟩ := h rfl (clear_rightParen rest) hclose
  have hopen := Cut.cons .leftParen (fun _ _ => rfl) hqs
  rw [hlist]
  refine ⟨⟨⟨.leftParen, String.ofList ['('], p⟩, ['(']⟩ ::
    (qs ++ [⟨⟨.rightParen, String.ofList [')'], p + 1 + cs.length⟩, [')']⟩]), d, ?_, ?_, heq⟩
  · show Cut p _ (_ :: (qs ++ [_] ++ ps))
    rw [List.append_assoc]
    exact hopen
  · rw [List.map_cons, List.map_append]
    exact .group rfl hd rfl

/-- The word NOT in front of a unary condition is written for its negation. -/
theorem not (h : Writes .unary room cs c) (position : Nat) :
    Writes .unary (room + 1) ("NOT ".toList ++ cs) (.not c position) := by
  intro p q rest ps hq hclear hcut
  have hlength : q = p + 3 + 1 + cs.length := by
    rw [hq, List.length_append, Nat.add_assoc p, Nat.add_assoc p]
    rfl
  obtain ⟨qs, d, hqs, hd, heq⟩ := h hlength hclear hcut
  have hnot := Cut.cons_blank spells_not (ends_cons.2 (by decide +kernel)) rfl hqs
  exact ⟨_ :: qs, _, hnot, .not rfl hd, by simp only [Condition.unplaced, heq]⟩

/-- A keyword between two conditions falls into a piece between their pieces. -/
theorem between {kind : TokenKind} {word : List Char} (hs : Spells kind word word)
    (hend : ∀ cs, Ends kind word (' ' :: cs)) (hc : Writes k n cs c) (hd : Writes k' m ds d)
    {p q : Nat} {rest : List Char} {ps : List Piece}
    (hq : q = p + (cs ++ (' ' :: word ++ [' ']) ++ ds).length) (hclear : Clear rest)
    (hcut : Cut q rest ps) :
    ∃ qs t rs c' d', Cut p (cs ++ (' ' :: word ++ [' ']) ++ ds ++ rest) (qs ++ t :: rs ++ ps) ∧
      t.token.kind = kind ∧ Derives k n (qs.map Piece.token) c' ∧
      Derives k' m (rs.map Piece.token) d' ∧ c'.unplaced = c.unplaced ∧
      d'.unplaced = d.unplaced := by
  have hlength : q = p + cs.length + 1 + word.length + 1 + ds.length := by
    simp only [hq, List.length_append, List.length_cons, List.length_nil]
    omega
  have hlist : cs ++ (' ' :: word ++ [' ']) ++ ds ++ rest =
      cs ++ ([' '] ++ (word ++ ' ' :: (ds ++ rest))) := by
    simp only [List.append_assoc, List.cons_append, List.nil_append]
  obtain ⟨rs, d', hrs, hd', hdeq⟩ := hd hlength hclear hcut
  have hblank : Cut (p + cs.length) ([' '] ++ (word ++ ' ' :: (ds ++ rest))) _ :=
    .append_blanks (List.forall_mem_singleton.2 (by decide)) (.cons_blank hs (hend _) rfl hrs)
  obtain ⟨qs, c', hqs, hc', hceq⟩ := hc rfl (clear_blank _) hblank
  rw [hlist]
  refine ⟨qs, ⟨⟨kind, String.ofList word, p + cs.length + 1⟩, word⟩, rs, c', d', ?_, rfl, hc', hd',
    hceq, hdeq⟩
  rw [List.append_assoc]
  exact hqs

/-- The word AND between a conjunction and a unary condition is written for their conjunction. -/
theorem and (hc : Writes .conjunction n cs c) (hd : Writes .unary m ds d) (position : Nat) :
    Writes .conjunction (max n m) (cs ++ " AND ".toList ++ ds) (.and c d position) := by
  intro p q rest ps hq hclear hcut
  obtain ⟨qs, t, rs, c', d', hqs, ht, hc', hd', hceq, hdeq⟩ :=
    between spells_and (fun _ => ends_cons.2 (by decide +kernel)) hc hd hq hclear hcut
  refine ⟨qs ++ t :: rs, .and c' d' t.token.position, hqs, ?_, ?_⟩
  · rw [List.map_append, List.map_cons]
    exact .and (hc'.mono (Nat.le_max_left _ _)) ht (hd'.mono (Nat.le_max_right _ _))
  · simp only [Condition.unplaced, hceq, hdeq]

/-- The word OR between a disjunction and a conjunction is written for their disjunction. -/
theorem or (hc : Writes .disjunction n cs c) (hd : Writes .conjunction m ds d) (position : Nat) :
    Writes .disjunction (max n m) (cs ++ " OR ".toList ++ ds) (.or c d position) := by
  intro p q rest ps hq hclear hcut
  obtain ⟨qs, t, rs, c', d', hqs, ht, hc', hd', hceq, hdeq⟩ :=
    between spells_or (fun _ => ends_cons.2 (by decide +kernel)) hc hd hq hclear hcut
  refine ⟨qs ++ t :: rs, .or c' d' t.token.position, hqs, ?_, ?_⟩
  · rw [List.map_append, List.map_cons]
    exact .or (hc'.mono (Nat.le_max_left _ _)) ht (hd'.mono (Nat.le_max_right _ _))
  · simp only [Condition.unplaced, hceq, hdeq]

/-- Where parentheses are needed they are written, and where they are left out they are not
needed. -/
theorem enclose (h : Writes k' room cs c) (hk : k'.strength = c.strength) :
    Writes k (deepened (c.strength < k.strength) room)
      (Condition.enclose (c.strength < k.strength) cs) c := by
  by_cases hlt : c.strength < k.strength
  · simp only [hlt, decide_true, deepened, Condition.enclose, if_true]
    exact (h.mono k'.disjunction_le (Nat.le_refl _)).group.mono k.le_primary (Nat.le_refl _)
  · simp only [hlt, decide_false, deepened, Condition.enclose, Bool.false_eq_true, if_false]
    exact h.mono (by omega) (Nat.le_refl _)

end Writes

/-- The category of a condition that stands without parentheses. -/
def Condition.category : Condition → Category
  | .compare _ => .primary
  | .not .. => .unary
  | .and .. => .conjunction
  | .or .. => .disjunction

theorem Condition.strength_category (c : Condition) : c.category.strength = c.strength := by
  cases c <;> rfl

/-- To bind more tightly than a conjunction is to bind as tightly as a negation. -/
theorem Condition.render_and (c d : Condition) (position : Nat) :
    (Condition.and c d position).render = enclose (c.strength < 2) c.render ++ " AND ".toList ++
      enclose (d.strength < 3) d.render := by
  have htight : decide (d.strength ≤ 2) = decide (d.strength < 3) :=
    decide_eq_decide.2 Nat.lt_succ_iff.symm
  rw [render, htight]

theorem Condition.render_or (c d : Condition) (position : Nat) :
    (Condition.or c d position).render = enclose (c.strength < 1) c.render ++ " OR ".toList ++
      enclose (d.strength < 2) d.render := by
  have htight : decide (d.strength ≤ 1) = decide (d.strength < 2) :=
    decide_eq_decide.2 Nat.lt_succ_iff.symm
  rw [render, htight]

/-- What is written of a legible condition falls into tokens that derive it, and stands no deeper
than its nesting. -/
theorem Condition.Legible.writes {c : Condition} (h : c.Legible) :
    Writes c.category c.nesting c.render c := by
  induction c with
  | compare c =>
    obtain ⟨hl, hr⟩ := h c (.head _)
    exact .compare hl hr
  | not c position ih => exact ((ih h).enclose c.strength_category).not position
  | and c d position ihc ihd =>
    obtain ⟨hc, hd⟩ := List.forall_mem_append.1 h
    have hl := (ihc hc).enclose (k := .conjunction) c.strength_category
    have hr := (ihd hd).enclose (k := .unary) d.strength_category
    rw [Condition.render_and]
    exact hl.and hr position
  | or c d position ihc ihd =>
    obtain ⟨hc, hd⟩ := List.forall_mem_append.1 h
    have hl := (ihc hc).enclose (k := .disjunction) c.strength_category
    have hr := (ihd hd).enclose (k := .conjunction) d.strength_category
    rw [Condition.render_or]
    exact hl.or hr position

/-! ## Whole texts -/

/-- A condition that has been read is legible. -/
theorem legible_of_read {source : String} {c : Condition} (h : Condition.read source = .ok c) :
    c.Legible := by
  obtain ⟨ps, hps⟩ := exists_cut 0 source.toList
  refine ((read_eq_ok_iff_of_cut hps).1 h).legible fun t ht => ?_
  obtain ⟨q, hq, rfl⟩ := List.mem_map.1 ht
  exact ⟨q.span, hps.spells q hq⟩

/-- A condition that has been read is nested no deeper than it may be. -/
theorem nesting_le_of_read {source : String} {c : Condition} (h : Condition.read source = .ok c) :
    c.nesting ≤ maxDepth := by
  obtain ⟨ps, hps⟩ := exists_cut 0 source.toList
  exact Nat.le_trans (le_deepened _ _) ((read_eq_ok_iff_of_cut hps).1 h).nestingAt_le

/-- What is written of a condition that has been read is read as that condition, up to the places of
its parts. -/
theorem exists_read_print {source : String} {c : Condition} (h : Condition.read source = .ok c) :
    ∃ d, Condition.read c.print = .ok d ∧ d.unplaced = c.unplaced := by
  have hwrites : Writes .disjunction maxDepth c.render c :=
    (legible_of_read h).writes.mono c.category.disjunction_le (nesting_le_of_read h)
  obtain ⟨qs, d, hqs, hd, heq⟩ := @hwrites 0 _ [] [] rfl nofun (.blanks nofun)
  rw [List.append_nil, List.append_nil] at hqs
  refine ⟨d, (read_eq_ok_iff_of_cut ?_).2 hd, heq⟩
  rw [Condition.print, String.toList_ofList]
  exact hqs

/-- **Reading undoes writing.** A condition that a text has been read as can be written, what is
written can be read again, and that gives the same condition and is written in the same way. -/
theorem read_print {source : String} {c : Condition} (h : Condition.read source = .ok c) :
    ∃ d, Condition.read c.print = .ok d ∧ c.same d = true ∧ d.print = c.print := by
  obtain ⟨d, hread, heq⟩ := exists_read_print h
  refine ⟨d, hread, Condition.same_of_unplaced heq.symm, ?_⟩
  rw [Condition.print, Condition.render_of_unplaced heq, Condition.print]

/-- A guarded quote keeps its backslash, parentheses that are needed stay, and others go. -/
theorem read_print_guarded_quote :
    ∃ c, Condition.read "not (a = 'it\\'s' or b = 0.50) and (c != 'x')" = .ok c ∧
      c.print = "NOT (a = 'it\\'s' OR b = 0.5) AND c != 'x'" ∧
      ∃ d, Condition.read c.print = .ok d ∧ c.same d = true ∧ d.print = c.print := by
  have hprint : (Condition.read "not (a = 'it\\'s' or b = 0.50) and (c != 'x')").toOption.map
      Condition.print = some "NOT (a = 'it\\'s' OR b = 0.5) AND c != 'x'" := by
    decide +kernel
  cases hread : Condition.read "not (a = 'it\\'s' or b = 0.50) and (c != 'x')" with
  | error e => rw [hread] at hprint; cases hprint
  | ok c =>
    rw [hread] at hprint
    exact ⟨c, rfl, Option.some.inj hprint, read_print hread⟩

end Screening
