import Mathlib.Data.List.Chain
import Screening.Proofs.Condition.Acceptance
import Screening.Proofs.Token.Span

/-!
# The order in which a condition is written

The tokens of a text stand at ascending places (`Cut.pairwise_position`), and a derivation takes
them from left to right. So `Condition.comparisons` lists the comparisons of a condition that has
been read as they stand in the text, each of them wholly in front of the next one
(`pairwise_comparisons_of_read`).

A derivation also says what may stand beside what: no name is followed by an opening parenthesis
(`Derives.isChain`).
-/

namespace Screening

/-! ## Places -/

/-- The places of a comparison, from left to right. -/
def Comparison.places (c : Comparison) : List Nat :=
  [c.left.position, c.position, c.right.position]

/-- One comparison stands wholly in front of another. -/
def Comparison.Precedes (c d : Comparison) : Prop := ∀ x ∈ c.places, ∀ y ∈ d.places, x < y

instance (c d : Comparison) : Decidable (c.Precedes d) :=
  inferInstanceAs (Decidable (∀ x ∈ c.places, ∀ y ∈ d.places, x < y))

theorem Comparison.Precedes.trans {c d e : Comparison} (hcd : c.Precedes d) (hde : d.Precedes e) :
    c.Precedes e := by
  intro x hx y hy
  have hmem : d.position ∈ d.places := .tail _ (.head _)
  exact Nat.lt_trans (hcd x hx _ hmem) (hde _ hmem y hy)

theorem Comparison.Precedes.irrefl {c : Comparison} (h : c.Precedes c) : False := by
  have hmem : c.position ∈ c.places := .tail _ (.head _)
  exact Nat.lt_irrefl _ (h _ hmem _ hmem)

/-- The place of an operand is that of its token. -/
theorem IsOperand.position_eq {t : Token} {o : Operand} (h : IsOperand t o) :
    o.position = t.position := by
  cases h with
  | field | number | text => rfl

/-- The comparisons of a derived condition have the places of tokens, in the order of the tokens. -/
theorem Derives.places_sublist {k : Category} {room : Nat} {ts : List Token} {c : Condition}
    (h : Derives k room ts c) :
    (c.comparisons.flatMap Comparison.places).Sublist (ts.map Token.position) := by
  induction h with
  | conjunction _ ih | unary _ ih | primary _ ih => exact ih
  | or _ _ _ ihl ihr | and _ _ _ ihl ihr =>
    rw [Condition.comparisons, List.flatMap_append, List.map_append, List.map_cons]
    exact ihl.append (ihr.cons _)
  | not _ _ ih => exact ih.cons _
  | group _ _ _ ih =>
    rw [List.map_cons, List.map_append]
    exact (ih.trans (List.sublist_append_left _ _)).cons _
  | compare hl _ hr =>
    simp only [Condition.comparisons, Comparison.places, List.flatMap_cons, List.flatMap_nil,
      List.append_nil, hl.position_eq, hr.position_eq]
    exact .refl _

/-- The comparisons of a condition that has been read stand one behind the other. -/
theorem pairwise_comparisons_of_read {source : String} {c : Condition}
    (h : Condition.read source = .ok c) : c.comparisons.Pairwise Comparison.Precedes := by
  obtain ⟨ps, hps⟩ := exists_cut 0 source.toList
  have hsub := ((read_eq_ok_iff_of_cut hps).1 h).places_sublist
  rw [List.map_map] at hsub
  exact (List.pairwise_flatMap.1 (hps.pairwise_position.sublist hsub)).2

/-- `c.StandsAs t o u` says that the tokens `t`, `o` and `u`, one behind the other, are the
comparison `c`. -/
structure Comparison.StandsAs (c : Comparison) (t o u : Token) : Prop where
  left : IsOperand t c.left
  relation : IsRelation o c.relation
  right : IsOperand u c.right
  position_eq : c.position = o.position

/-- Every comparison of a derived condition is made of three neighbouring tokens. -/
theorem Derives.exists_standsAs {k : Category} {room : Nat} {ts : List Token} {c : Condition}
    (h : Derives k room ts c) :
    ∀ d ∈ c.comparisons, ∃ t o u, [t, o, u] <:+: ts ∧ d.StandsAs t o u := by
  induction h with
  | conjunction _ ih | unary _ ih | primary _ ih => exact ih
  | @or _ ts us t _ _ _ _ _ ihl ihr | @and _ ts us t _ _ _ _ _ ihl ihr =>
    refine List.forall_mem_append.2 ⟨fun d hd => ?_, fun d hd => ?_⟩
    · obtain ⟨t, o, u, hpart, hstands⟩ := ihl d hd
      exact ⟨t, o, u, hpart.trans (List.prefix_append _ _).isInfix, hstands⟩
    · obtain ⟨t, o, u, hpart, hstands⟩ := ihr d hd
      exact ⟨t, o, u, (hpart.trans (List.suffix_cons _ _).isInfix).trans
        (List.suffix_append _ _).isInfix, hstands⟩
  | not _ _ ih =>
    intro d hd
    obtain ⟨t, o, u, hpart, hstands⟩ := ih d hd
    exact ⟨t, o, u, hpart.trans (List.suffix_cons _ _).isInfix, hstands⟩
  | group _ _ _ ih =>
    intro d hd
    obtain ⟨t, o, u, hpart, hstands⟩ := ih d hd
    exact ⟨t, o, u, (hpart.trans (List.prefix_append _ _).isInfix).trans
      (List.suffix_cons _ _).isInfix, hstands⟩
  | compare hl ho hr =>
    exact List.forall_mem_singleton.2 ⟨_, _, _, List.infix_rfl, hl, ho, hr, rfl⟩

/-! ## Neighbours -/

/-- What may not stand side by side: a name and an opening parenthesis. -/
def Token.Follows (t u : Token) : Prop := t.kind = .identifier → u.kind ≠ .leftParen

theorem Token.follows_of_left {t u : Token} {k : TokenKind} (hk : t.kind = k)
    (hne : k ≠ .identifier) : t.Follows u := fun h => absurd (hk.symm.trans h) hne

theorem Token.follows_of_right {t u : Token} {k : TokenKind} (hk : u.kind = k)
    (hne : k ≠ .leftParen) : t.Follows u := fun _ h => hne (hk.symm.trans h)

/-- Two lists of tokens may stand on both sides of a connective. -/
theorem Token.isChain_connective {ts us : List Token} {t : Token} {k : TokenKind} (hk : t.kind = k)
    (hne : k ≠ .identifier ∧ k ≠ .leftParen) (hts : ts.IsChain Token.Follows)
    (hus : us.IsChain Token.Follows) : (ts ++ t :: us).IsChain Token.Follows := by
  refine List.isChain_append.2 ⟨hts, List.isChain_cons.2 ⟨?_, hus⟩, ?_⟩
  · intro u _
    exact Token.follows_of_left hk hne.1
  · intro u _ v hv
    cases hv
    exact Token.follows_of_right hk hne.2

/-- No derivation has a name with an opening parenthesis behind it. -/
theorem Derives.isChain {k : Category} {room : Nat} {ts : List Token} {c : Condition}
    (h : Derives k room ts c) : ts.IsChain Token.Follows := by
  induction h with
  | conjunction _ ih | unary _ ih | primary _ ih => exact ih
  | or _ hk _ ihl ihr | and _ hk _ ihl ihr =>
    exact Token.isChain_connective hk (by decide) ihl ihr
  | not hk _ ih =>
    exact List.isChain_cons.2 ⟨fun _ _ => Token.follows_of_left hk (by decide), ih⟩
  | group hk _ hu ih =>
    refine List.isChain_cons.2 ⟨fun _ _ => Token.follows_of_left hk (by decide), ?_⟩
    refine List.isChain_append.2 ⟨ih, .singleton _, ?_⟩
    intro v _ w hw
    cases hw
    exact Token.follows_of_right hu (by decide)
  | compare _ ho _ =>
    exact .cons_cons (Token.follows_of_right ho.kind_eq (by decide))
      (.cons_cons (Token.follows_of_left ho.kind_eq (by decide)) (.singleton _))

end Screening
