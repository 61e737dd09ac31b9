import Screening.Condition.Printer
import Screening.Proofs.Condition.Grammar
import Screening.Proofs.Token.Cut

/-!
# Conditions without their places

`Condition.unplaced` forgets where the parts of a condition stand. Conditions that are equal without
their places are the same (`Condition.same_of_unplaced`) and are written in the same way
(`Condition.render_of_unplaced`).

`Token.content` does the same for tokens: it keeps the kind and the text. A derivation looks at
nothing else, so it can be carried over to tokens that stand elsewhere, and the condition stays what
it was without its places (`Derives.transport`).
-/

namespace Screening

/-! ## Conditions -/

/-- An operand without its place. -/
def Operand.unplaced : Operand → Operand
  | .field name _ => .field name 0
  | .literal value _ => .literal value 0

/-- A comparison without its place. -/
def Comparison.unplaced (c : Comparison) : Comparison :=
  ⟨c.relation, c.left.unplaced, c.right.unplaced, 0⟩

/-- A condition without the places of its parts. -/
def Condition.unplaced : Condition → Condition
  | .compare comparison => .compare comparison.unplaced
  | .not operand _ => .not operand.unplaced 0
  | .and left right _ => .and left.unplaced right.unplaced 0
  | .or left right _ => .or left.unplaced right.unplaced 0

theorem Literal.same_refl (v : Literal) : v.same v = true := by
  cases v with
  | number | text => exact beq_self_eq_true _

/-- Only the places of an operand are not compared. -/
theorem Operand.same_of_unplaced {o o' : Operand} (h : o.unplaced = o'.unplaced) :
    o.same o' = true := by
  cases o with
  | field =>
    cases o' with
    | field => cases h; exact beq_self_eq_true _
    | literal => cases h
  | literal =>
    cases o' with
    | field => cases h
    | literal => cases h; exact Literal.same_refl _

/-- Conditions that are equal without their places are the same. -/
theorem Condition.same_of_unplaced {c d : Condition} (h : c.unplaced = d.unplaced) :
    c.same d = true := by
  induction c generalizing d with
  | compare c =>
    cases d with
    | compare d =>
      simp only [unplaced, Comparison.unplaced, compare.injEq, Comparison.mk.injEq] at h
      simp only [same, Comparison.same, h.1, beq_self_eq_true, Operand.same_of_unplaced h.2.1,
        Operand.same_of_unplaced h.2.2.1, Bool.and_self]
    | not | and | or => cases h
  | not c _ ih =>
    cases d with
    | not d => exact ih (Condition.not.inj h).1
    | compare | and | or => cases h
  | and c₁ c₂ _ ih₁ ih₂ =>
    cases d with
    | and d₁ d₂ =>
      obtain ⟨h₁, h₂, -⟩ := Condition.and.inj h
      exact Bool.and_eq_true_iff.2 ⟨ih₁ h₁, ih₂ h₂⟩
    | compare | not | or => cases h
  | or c₁ c₂ _ ih₁ ih₂ =>
    cases d with
    | or d₁ d₂ =>
      obtain ⟨h₁, h₂, -⟩ := Condition.or.inj h
      exact Bool.and_eq_true_iff.2 ⟨ih₁ h₁, ih₂ h₂⟩
    | compare | not | and => cases h

@[simp] theorem Operand.render_unplaced (o : Operand) : o.unplaced.render = o.render := by
  cases o <;> rfl

@[simp] theorem Comparison.render_unplaced (c : Comparison) : c.unplaced.render = c.render := by
  simp only [Comparison.render, Comparison.unplaced, Operand.render_unplaced]

@[simp] theorem Condition.strength_unplaced (c : Condition) : c.unplaced.strength = c.strength := by
  cases c <;> rfl

@[simp] theorem Condition.render_unplaced (c : Condition) : c.unplaced.render = c.render := by
  induction c with
  | compare c => exact c.render_unplaced
  | not _ _ ih => simp only [unplaced, render, strength_unplaced, ih]
  | and _ _ _ ih₁ ih₂ | or _ _ _ ih₁ ih₂ =>
    simp only [unplaced, render, strength_unplaced, ih₁, ih₂]

/-- Conditions that are equal without their places are written in the same way. -/
theorem Condition.render_of_unplaced {c d : Condition} (h : c.unplaced = d.unplaced) :
    c.render = d.render := by
  rw [← c.render_unplaced, h, d.render_unplaced]

/-! ## Tokens and derivations -/

/-- What an operand is depends on the content of its token. -/
theorem IsOperand.transport {t u : Token} {o : Operand} (h : IsOperand t o)
    (htu : t.content = u.content) : ∃ o', IsOperand u o' ∧ o'.unplaced = o.unplaced := by
  obtain ⟨hkind, htext⟩ := Prod.mk.inj htu
  cases h with
  | field hk => exact ⟨_, .field (hkind ▸ hk), by rw [htext]; rfl⟩
  | number hk hx => exact ⟨_, .number (hkind ▸ hk) (htext ▸ hx), rfl⟩
  | text hk => exact ⟨_, .text (hkind ▸ hk), by rw [htext]; rfl⟩

/-- What a relation is depends on the content of its token. -/
theorem IsRelation.transport {t u : Token} {r : Relation} (h : IsRelation t r)
    (htu : t.content = u.content) : IsRelation u r :=
  ⟨(Prod.mk.inj htu).1 ▸ h.kind_eq, (Prod.mk.inj htu).2 ▸ h.text_eq⟩

/-- Tokens with the contents of two lists and of a token between them fall into two such lists and
such a token. -/
theorem exists_eq_append_cons_of_map_content {us ts rs : List Token} {t : Token}
    (h : us.map Token.content = (ts ++ t :: rs).map Token.content) :
    ∃ ls u ms, us = ls ++ u :: ms ∧ ls.map Token.content = ts.map Token.content ∧
      u.content = t.content ∧ ms.map Token.content = rs.map Token.content := by
  rw [List.map_append, List.map_cons] at h
  obtain ⟨ls, ms, rfl, hls, hms⟩ := List.map_eq_append_iff.1 h
  obtain ⟨u, ms, rfl, hu, hms⟩ := List.map_eq_cons_iff.1 hms
  exact ⟨ls, u, ms, rfl, hls, hu, hms⟩

/-- Tokens of the same contents derive the same condition, up to the places of its parts. -/
theorem Derives.transport {k : Category} {room : Nat} {ts : List Token} {c : Condition}
    (h : Derives k room ts c) : ∀ {us : List Token}, us.map Token.content = ts.map Token.content →
      ∃ d, Derives k room us d ∧ d.unplaced = c.unplaced := by
  have kind_eq : ∀ {t u : Token} {kind : TokenKind}, u.content = t.content → t.kind = kind →
      u.kind = kind := fun hut hk => (Prod.mk.inj hut).1.trans hk
  induction h with
  | conjunction _ ih =>
    intro us hus
    obtain ⟨d, hd, heq⟩ := ih hus
    exact ⟨d, .conjunction hd, heq⟩
  | or _ hk _ ihl ihr =>
    intro us hus
    obtain ⟨ls, u, rs, rfl, hls, hu, hrs⟩ := exists_eq_append_cons_of_map_content hus
    obtain ⟨l, hl, hleq⟩ := ihl hls
    obtain ⟨r, hr, hreq⟩ := ihr hrs
    exact ⟨_, .or hl (kind_eq hu hk) hr, by simp only [Condition.unplaced, hleq, hreq]⟩
  | unary _ ih =>
    intro us hus
    obtain ⟨d, hd, heq⟩ := ih hus
    exact ⟨d, .unary hd, heq⟩
  | and _ hk _ ihl ihr =>
    intro us hus
    obtain ⟨ls, u, rs, rfl, hls, hu, hrs⟩ := exists_eq_append_cons_of_map_content hus
    obtain ⟨l, hl, hleq⟩ := ihl hls
    obtain ⟨r, hr, hreq⟩ := ihr hrs
    exact ⟨_, .and hl (kind_eq hu hk) hr, by simp only [Condition.unplaced, hleq, hreq]⟩
  | primary _ ih =>
    intro us hus
    obtain ⟨d, hd, heq⟩ := ih hus
    exact ⟨d, .primary hd, heq⟩
  | not hk _ ih =>
    intro us hus
    obtain ⟨u, us, rfl, hu, hus⟩ := List.map_eq_cons_iff.1 hus
    obtain ⟨d, hd, heq⟩ := ih hus
    exact ⟨_, .not (kind_eq hu hk) hd, by simp only [Condition.unplaced, heq]⟩
  | group hk _ hu ih =>
    intro us hus
    obtain ⟨v, us, rfl, hv, hus⟩ := List.map_eq_cons_iff.1 hus
    obtain ⟨inner, w, ws, rfl, hinner, hw, hws⟩ := exists_eq_append_cons_of_map_content hus
    obtain rfl := List.map_eq_nil_iff.1 hws
    obtain ⟨d, hd, heq⟩ := ih hinner
    exact ⟨d, .group (kind_eq hv hk) hd (kind_eq hw hu), heq⟩
  | compare hl ho hr =>
    intro us hus
    obtain ⟨u, us, rfl, hu, hus⟩ := List.map_eq_cons_iff.1 hus
    obtain ⟨v, us, rfl, hv, hus⟩ := List.map_eq_cons_iff.1 hus
    obtain ⟨w, us, rfl, hw, hus⟩ := List.map_eq_cons_iff.1 hus
    obtain rfl := List.map_eq_nil_iff.1 hus
    obtain ⟨l, hl', hleq⟩ := hl.transport hu.symm
    obtain ⟨r, hr', hreq⟩ := hr.transport hw.symm
    exact ⟨_, .compare hl' (ho.transport hv.symm) hr',
      by simp only [Condition.unplaced, Comparison.unplaced, hleq, hreq]⟩

end Screening
