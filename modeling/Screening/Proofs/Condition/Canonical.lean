import Mathlib.Data.List.Basic
import Screening.Proofs.Condition.Normal
import Screening.Proofs.Condition.Printing

/-!
# One canonical form for each condition

A condition that has been read is written in one way only, wherever its parts have stood, and no
other condition is written in that way: two such conditions are written alike exactly if they are
equal without their places (`print_eq_print_iff`), and `Condition.same` says just that
(`Condition.Legible.same_iff`). What makes the second statement hold is that no number that has been
read is negative, so zero has one sign only.

The canonical form stands without blanks around it (`bare_print`) and has five characters at least
(`five_le_length_print`).
-/

namespace Screening

open Text

/-! ## The same condition -/

/-- Numbers that are not negative stand in different places of the order. -/
theorem Binary64.Finite.eq_of_key_eq {x y : Binary64.Finite} (hx : x.negative = false)
    (hy : y.negative = false) (h : x.key = y.key) : x = y := by
  obtain ⟨xneg, xrank, hxrank⟩ := x
  obtain ⟨yneg, yrank, hyrank⟩ := y
  dsimp only at hx hy
  subst hx hy
  obtain rfl : xrank = yrank := Int.ofNat_inj.1 h
  rfl

/-- Legible operands that are the same differ in their places only. -/
theorem Operand.Legible.unplaced_of_same {o o' : Operand} (h : o.Legible) (h' : o'.Legible)
    (hsame : o.same o' = true) : o.unplaced = o'.unplaced := by
  cases h with
  | field =>
    cases h' with
    | field => exact congrArg (Operand.field · 0) (beq_iff_eq.1 hsame)
    | number | text => cases hsame
  | number hx =>
    cases h' with
    | number hy =>
      rw [Binary64.Finite.eq_of_key_eq hx hy (beq_iff_eq.1 hsame)]
      rfl
    | field | text => cases hsame
  | text =>
    cases h' with
    | text =>
      rw [beq_iff_eq.1 hsame]
      rfl
    | field | number => cases hsame

/-- Legible conditions that are the same differ in their places only. -/
theorem Condition.Legible.unplaced_of_same {c d : Condition} (hc : c.Legible) (hd : d.Legible)
    (h : c.same d = true) : c.unplaced = d.unplaced := by
  induction c generalizing d with
  | compare c =>
    cases d with
    | compare d =>
      obtain ⟨hcl, hcr⟩ := hc c (.head _)
      obtain ⟨hdl, hdr⟩ := hd d (.head _)
      simp only [same, Comparison.same, Bool.and_eq_true, beq_iff_eq] at h
      obtain ⟨⟨hrelation, hleft⟩, hright⟩ := h
      simp only [unplaced, Comparison.unplaced, hrelation, hcl.unplaced_of_same hdl hleft,
        hcr.unplaced_of_same hdr hright]
    | not | and | or => cases h
  | not c _ ih =>
    cases d with
    | not d =>
      have hd : d.Legible := hd
      simp only [unplaced, ih hc hd h]
    | compare | and | or => cases h
  | and c₁ c₂ _ ih₁ ih₂ =>
    cases d with
    | and d₁ d₂ =>
      obtain ⟨hc₁, hc₂⟩ := List.forall_mem_append.1 hc
      obtain ⟨hd₁, hd₂⟩ := List.forall_mem_append.1 hd
      obtain ⟨h₁, h₂⟩ := Bool.and_eq_true_iff.1 h
      simp only [unplaced, ih₁ hc₁ hd₁ h₁, ih₂ hc₂ hd₂ h₂]
    | compare | not | or => cases h
  | or c₁ c₂ _ ih₁ ih₂ =>
    cases d with
    | or d₁ d₂ =>
      obtain ⟨hc₁, hc₂⟩ := List.forall_mem_append.1 hc
      obtain ⟨hd₁, hd₂⟩ := List.forall_mem_append.1 hd
      obtain ⟨h₁, h₂⟩ := Bool.and_eq_true_iff.1 h
      simp only [unplaced, ih₁ hc₁ hd₁ h₁, ih₂ hc₂ hd₂ h₂]
    | compare | not | and => cases h

/-- Legible conditions are the same exactly if they are equal without their places. -/
theorem Condition.Legible.same_iff {c d : Condition} (hc : c.Legible) (hd : d.Legible) :
    c.same d = true ↔ c.unplaced = d.unplaced :=
  ⟨hc.unplaced_of_same hd, Condition.same_of_unplaced⟩

/-- Conditions that have been read are written alike exactly if they are equal without their
places. What is written can only be read as one condition. -/
theorem print_eq_print_iff {s t : String} {c d : Condition} (hc : Condition.read s = .ok c)
    (hd : Condition.read t = .ok d) : c.print = d.print ↔ c.unplaced = d.unplaced := by
  constructor
  · intro h
    obtain ⟨c', hc', hceq⟩ := exists_read_print hc
    obtain ⟨d', hd', hdeq⟩ := exists_read_print hd
    rw [h, hd'] at hc'
    cases hc'
    exact hceq.symm.trans hdeq
  · intro h
    rw [Condition.print, Condition.render_of_unplaced h, Condition.print]

/-! ## The ends of the canonical form -/

/-- There is a character in a text, and no blank stands at either end of it. -/
structure Bare (cs : List Char) : Prop where
  ne_nil : cs ≠ []
  head : ∀ d ∈ cs.head?, isBlank d = false
  last : ∀ d ∈ cs.getLast?, isBlank d = false

namespace Bare

variable {cs ds : List Char}

theorem trim_eq (h : Bare cs) : trim cs = cs := by
  rw [trim, trimStart_eq_self h.head, trimEnd_eq_self h.last]

/-- No blanks stand in front of a bare text. -/
theorem takeWhile_eq_nil (h : Bare cs) : cs.takeWhile isBlank = [] := by
  obtain ⟨c, cs, rfl⟩ := List.exists_cons_of_ne_nil h.ne_nil
  have hc := h.head c rfl
  simp [hc]

theorem length_pos (h : Bare cs) : 0 < cs.length := List.length_pos_iff.2 h.ne_nil

theorem of_forall (hne : cs ≠ []) (h : ∀ d ∈ cs, isBlank d = false) : Bare cs :=
  ⟨hne, fun d hd => h d (List.mem_of_mem_head? hd), fun d hd => h d (List.mem_of_getLast? hd)⟩

/-- Between two bare texts anything may stand. -/
theorem between (hc : Bare cs) (middle : List Char) (hd : Bare ds) :
    Bare (cs ++ middle ++ ds) := by
  refine ⟨List.append_ne_nil_of_right_ne_nil _ hd.ne_nil, ?_, ?_⟩
  · intro d hm
    rw [List.append_assoc, List.head?_append_of_ne_nil _ hc.ne_nil] at hm
    exact hc.head d hm
  · intro d hm
    rw [List.getLast?_append_of_ne_nil _ hd.ne_nil] at hm
    exact hd.last d hm

/-- A character that is no blank is bare. -/
theorem single (c : Char) (hc : isBlank c = false) : Bare [c] :=
  of_forall (List.cons_ne_nil _ _) (List.forall_mem_singleton.2 hc)

theorem enclose (h : Bare cs) (needed : Bool) : Bare (Condition.enclose needed cs) := by
  unfold Condition.enclose
  split
  · exact (single '(' (by decide)).between cs (single ')' (by decide))
  · exact h

end Bare

/-- No blank stands in a name. -/
theorem Spells.isBlank_eq_false_of_identifier {text span : List Char}
    (h : Spells .identifier text span) : ∀ d ∈ span, isBlank d = false := by
  cases h with
  | name hc hcs => exact isBlank_eq_false_of_mem_word hc hcs
  | keyword _ _ hk => rcases kind_of_keyword? hk with h | h | h <;> cases h

/-- A legible operand is written without blanks around it. -/
theorem Operand.Legible.bare {o : Operand} (h : o.Legible) : Bare o.render := by
  cases h with
  | @field name _ h =>
    obtain ⟨c, cs, hcons, -⟩ := h.exists_cons
    have hne : name.toList ≠ [] := by
      rw [hcons]
      exact List.cons_ne_nil c cs
    exact .of_forall hne h.isBlank_eq_false_of_identifier
  | @number x _ h =>
    obtain ⟨c, cs, heq, hc, hcs⟩ := Binary64.exists_display_eq_cons h
    show Bare x.display
    rw [heq]
    refine .of_forall (List.cons_ne_nil _ _)
      (List.forall_mem_cons.2 ⟨isBlank_eq_false_of_isDigit hc, ?_⟩)
    intro d hd
    rcases hcs d hd with hd | rfl
    · exact isBlank_eq_false_of_isDigit hd
    · decide
  | @text value _ =>
    have hquote := Bare.single '\'' (by decide)
    exact hquote.between (value.toList.flatMap Literal.escape) hquote

/-- A legible condition is written without blanks around it, and in five characters at least: a
comparison has two operands, a sign between them and two blanks. -/
theorem Condition.Legible.bare {c : Condition} (h : c.Legible) :
    Bare c.render ∧ 5 ≤ c.render.length := by
  have henclose : ∀ (needed : Bool) (cs : List Char), 5 ≤ cs.length →
      5 ≤ (enclose needed cs).length := by
    intro needed cs hcs
    unfold enclose
    split
    · simp only [List.length_append, List.length_cons]
      omega
    · exact hcs
  induction c with
  | compare c =>
    obtain ⟨hl, hr⟩ := h c (.head _)
    have hlist : c.render = c.left.render ++ (' ' :: c.relation.symbol.toList ++ [' ']) ++
        c.right.render := by
      simp only [Comparison.render, List.append_assoc, List.cons_append, List.nil_append]
    have hsign : 0 < c.relation.symbol.toList.length := by
      cases c.relation <;> decide
    have hleft := hl.bare.length_pos
    have hright := hr.bare.length_pos
    rw [render, hlist]
    refine ⟨hl.bare.between _ hr.bare, ?_⟩
    simp only [List.length_append, List.length_cons]
    omega
  | not c _ ih =>
    obtain ⟨hbare, hlength⟩ := ih h
    have hinner := henclose (c.strength < 3) c.render hlength
    refine ⟨(Bare.single 'N' (by decide)).between ['O', 'T', ' '] (hbare.enclose _), ?_⟩
    rw [render, List.length_append]
    omega
  | and c d position ihc ihd | or c d position ihc ihd =>
    obtain ⟨hc, hd⟩ := List.forall_mem_append.1 h
    obtain ⟨hcbare, hclength⟩ := ihc hc
    obtain ⟨hdbare, -⟩ := ihd hd
    refine ⟨(hcbare.enclose _).between _ (hdbare.enclose _), ?_⟩
    have hleft : ∀ needed, 5 ≤ (enclose needed c.render).length := fun needed =>
      henclose needed c.render hclength
    rw [render, List.append_assoc, List.length_append]
    exact Nat.le_trans (hleft _) (Nat.le_add_right _ _)

variable {source : String} {c : Condition}

/-- No blanks stand around the canonical form. -/
theorem bare_print (h : Condition.read source = .ok c) : Bare c.print.toList := by
  rw [Condition.print, String.toList_ofList]
  exact (legible_of_read h).bare.1

theorem length_trim_print (h : Condition.read source = .ok c) :
    (trim c.print.toList).length = c.print.length := by
  rw [(bare_print h).trim_eq, String.length_toList]

/-- The canonical form has five characters at least. -/
theorem five_le_length_print (h : Condition.read source = .ok c) : 5 ≤ c.print.length := by
  rw [← String.length_toList, Condition.print, String.toList_ofList]
  exact (legible_of_read h).bare.2

end Screening
