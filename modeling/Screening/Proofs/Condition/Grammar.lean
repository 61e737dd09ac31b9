import Screening.Condition.Reader

/-!
# The grammar of conditions

`Derives` is the grammar that `Screening.Condition.Reader` shows, as a relation between tokens and
the condition they are. It knows neither a reading nor a stack: it says which lists of tokens are a
disjunction, a conjunction, a unary condition or a primary one, and which condition each of them
is. The number in front of the tokens bounds how many negations and parentheses are open together
at any point of the derivation.

`Derives.loosen` takes a derivation for one of a looser category, `Derives.mono` gives it more room,
and `Derives.kind_ne` says which tokens no derivation uses.
-/

namespace Screening

/-! ## Single tokens -/

/-- The operand that a token is: a name, a number that is finite, or a quoted text. -/
inductive IsOperand : Token → Operand → Prop where
  | field {t : Token} (hk : t.kind = .identifier) : IsOperand t (.field t.text t.position)
  | number {t : Token} {x : Binary64.Finite} (hk : t.kind = .number)
      (hx : Binary64.read? t.text.toList = some (.finite x)) :
      IsOperand t (.literal (.number x) t.position)
  | text {t : Token} (hk : t.kind = .text) : IsOperand t (.literal (.text t.text) t.position)

/-- The relation that a token is. -/
structure IsRelation (t : Token) (r : Relation) : Prop where
  kind_eq : t.kind = .relation
  text_eq : t.text = r.symbol

/-- A number in front of its token's place is finite exactly if it is one of the format. -/
theorem Binary64.bind_finite?_eq_some_iff {o : Option Binary64} {x : Binary64.Finite} :
    o.bind Binary64.finite? = some x ↔ o = some (.finite x) := by
  rcases o with _ | (_ | _ | y) <;> simp [Binary64.finite?]

/-- The reader takes a token as an operand exactly if it is one. -/
theorem operand_eq_ok_iff {t : Token} {o : Operand} : operand t = .ok o ↔ IsOperand t o := by
  constructor
  · intro h
    unfold operand at h
    split at h
    · next hk => cases h; exact .field hk
    · next hk =>
      split at h
      · next hx => cases h; exact .number hk (Binary64.bind_finite?_eq_some_iff.1 hx)
      · cases h
    · next hk => cases h; exact .text hk
    all_goals cases h
  · intro h
    cases h with
    | field hk => simp only [operand, hk]
    | number hk hx => simp only [operand, hk, Binary64.bind_finite?_eq_some_iff.2 hx]
    | text hk => simp only [operand, hk]

/-- A sign stands for a relation exactly if it is that relation's sign. -/
theorem Relation.ofSymbol?_eq_some_iff {s : String} {r : Relation} :
    Relation.ofSymbol? s = some r ↔ s = r.symbol := by
  constructor
  · intro h
    unfold Relation.ofSymbol? at h
    split at h <;> cases h <;> rfl
  · rintro rfl
    exact Relation.ofSymbol?_symbol r

/-- The reader takes a token as a relation exactly if it is one. -/
theorem relation?_eq_some_iff {t : Token} {r : Relation} :
    relation? t = some r ↔ IsRelation t r := by
  unfold relation?
  split
  · next hk => exact Relation.ofSymbol?_eq_some_iff.trans ⟨fun h => ⟨hk, h⟩, fun h => h.text_eq⟩
  · next hk => exact ⟨nofun, fun h => absurd h.kind_eq hk⟩

/-! ## Derivations -/

/-- The categories of the grammar, from the loosest to the tightest. -/
inductive Category where
  | disjunction
  | conjunction
  | unary
  | primary
  deriving DecidableEq

/-- How tightly the conditions of a category bind. -/
def Category.strength : Category → Nat
  | .disjunction => 1
  | .conjunction => 2
  | .unary => 3
  | .primary => 4

theorem Category.disjunction_le (k : Category) : Category.disjunction.strength ≤ k.strength := by
  cases k <;> decide

theorem Category.le_primary (k : Category) : k.strength ≤ Category.primary.strength := by
  cases k <;> decide

/-- `Derives k room ts c` says that the tokens `ts` are of the category `k` and are the condition
`c`, and that at no point of the derivation more than `room` negations and parentheses are open
together. Disjunctions and conjunctions are read from the left, a negation reaches over exactly
one unary condition, and parentheses leave no trace. -/
inductive Derives : Category → Nat → List Token → Condition → Prop where
  | conjunction {room : Nat} {ts : List Token} {c : Condition}
      (h : Derives .conjunction room ts c) : Derives .disjunction room ts c
  | or {room : Nat} {ts us : List Token} {t : Token} {c d : Condition}
      (hl : Derives .disjunction room ts c) (hk : t.kind = .or)
      (hr : Derives .conjunction room us d) :
      Derives .disjunction room (ts ++ t :: us) (.or c d t.position)
  | unary {room : Nat} {ts : List Token} {c : Condition}
      (h : Derives .unary room ts c) : Derives .conjunction room ts c
  | and {room : Nat} {ts us : List Token} {t : Token} {c d : Condition}
      (hl : Derives .conjunction room ts c) (hk : t.kind = .and) (hr : Derives .unary room us d) :
      Derives .conjunction room (ts ++ t :: us) (.and c d t.position)
  | primary {room : Nat} {ts : List Token} {c : Condition}
      (h : Derives .primary room ts c) : Derives .unary room ts c
  | not {room : Nat} {ts : List Token} {t : Token} {c : Condition}
      (hk : t.kind = .not) (h : Derives .unary room ts c) :
      Derives .unary (room + 1) (t :: ts) (.not c t.position)
  | group {room : Nat} {ts : List Token} {t u : Token} {c : Condition}
      (hk : t.kind = .leftParen) (h : Derives .disjunction room ts c) (hu : u.kind = .rightParen) :
      Derives .primary (room + 1) (t :: (ts ++ [u])) c
  | compare {room : Nat} {t o u : Token} {l r : Operand} {rel : Relation}
      (hl : IsOperand t l) (ho : IsRelation o rel) (hr : IsOperand u r) :
      Derives .primary room [t, o, u] (.compare ⟨rel, l, r, o.position⟩)

namespace Derives

variable {k k' : Category} {room : Nat} {ts : List Token} {c : Condition}

/-- What binds tightly may stand where less is asked for. -/
theorem loosen (h : Derives k room ts c) (hle : k'.strength ≤ k.strength) :
    Derives k' room ts c := by
  cases k with
  | disjunction =>
    cases k' with
    | disjunction => exact h
    | conjunction | unary | primary => exact absurd hle (by decide)
  | conjunction =>
    cases k' with
    | disjunction => exact .conjunction h
    | conjunction => exact h
    | unary | primary => exact absurd hle (by decide)
  | unary =>
    cases k' with
    | disjunction => exact .conjunction (.unary h)
    | conjunction => exact .unary h
    | unary => exact h
    | primary => exact absurd hle (by decide)
  | primary =>
    cases k' with
    | disjunction => exact .conjunction (.unary (.primary h))
    | conjunction => exact .unary (.primary h)
    | unary => exact .primary h
    | primary => exact h

/-- A derivation may have more room than it needs. -/
theorem mono (h : Derives k room ts c) : ∀ {room' : Nat}, room ≤ room' → Derives k room' ts c := by
  induction h with
  | conjunction _ ih => exact fun hle => .conjunction (ih hle)
  | or _ hk _ ihl ihr => exact fun hle => .or (ihl hle) hk (ihr hle)
  | unary _ ih => exact fun hle => .unary (ih hle)
  | and _ hk _ ihl ihr => exact fun hle => .and (ihl hle) hk (ihr hle)
  | primary _ ih => exact fun hle => .primary (ih hle)
  | not hk _ ih =>
    intro room' hle
    obtain ⟨r, rfl⟩ := Nat.exists_eq_add_of_le' (Nat.le_trans (Nat.le_add_left 1 _) hle)
    exact .not hk (ih (Nat.le_of_succ_le_succ hle))
  | group hk _ hu ih =>
    intro room' hle
    obtain ⟨r, rfl⟩ := Nat.exists_eq_add_of_le' (Nat.le_trans (Nat.le_add_left 1 _) hle)
    exact .group hk (ih (Nat.le_of_succ_le_succ hle)) hu
  | compare hl ho hr => exact fun _ => .compare hl ho hr

/-- A derivation uses only the tokens of the language: what is no token of it, what is never closed
and what stands behind the last character have no place in a condition. -/
theorem kind_ne (h : Derives k room ts c) :
    ∀ t ∈ ts, t.kind ≠ .unknown ∧ t.kind ≠ .unterminated ∧ t.kind ≠ .endOfInput := by
  have of_eq : ∀ {t : Token} {kind : TokenKind}, t.kind = kind →
      kind ≠ .unknown ∧ kind ≠ .unterminated ∧ kind ≠ .endOfInput →
      t.kind ≠ .unknown ∧ t.kind ≠ .unterminated ∧ t.kind ≠ .endOfInput := by
    rintro t _ rfl hne
    exact hne
  have of_operand : ∀ {t : Token} {o : Operand}, IsOperand t o →
      t.kind ≠ .unknown ∧ t.kind ≠ .unterminated ∧ t.kind ≠ .endOfInput := by
    intro t o ho
    cases ho with
    | field hk | number hk _ | text hk => exact of_eq hk (by decide)
  induction h with
  | conjunction _ ih | unary _ ih | primary _ ih => exact ih
  | or _ hk _ ihl ihr | and _ hk _ ihl ihr =>
    exact List.forall_mem_append.2
      ⟨ihl, List.forall_mem_cons.2 ⟨of_eq hk (by decide), ihr⟩⟩
  | not hk _ ih => exact List.forall_mem_cons.2 ⟨of_eq hk (by decide), ih⟩
  | group hk _ hu ih =>
    exact List.forall_mem_cons.2 ⟨of_eq hk (by decide),
      List.forall_mem_append.2 ⟨ih, List.forall_mem_singleton.2 (of_eq hu (by decide))⟩⟩
  | compare hl ho hr =>
    exact List.forall_mem_cons.2 ⟨of_operand hl, List.forall_mem_cons.2
      ⟨of_eq ho.kind_eq (by decide), List.forall_mem_singleton.2 (of_operand hr)⟩⟩

end Derives

end Screening
