import Mathlib.Data.List.Nodup
import Screening.Proofs.Condition.Order
import Screening.Proofs.Condition.Progress

/-!
# Where a fault is found

The tokens that a reading has taken can always be continued to a condition
(`Takes.exists_continuation`): they account for what stands open, and what stands open can be
closed. The token that it refuses is refused whatever comes behind. So a fault is found at the
earliest token at which it can be found (`read_fault_earliest`).

A parenthesis that is not closed is reported at its own place and not at the token that is refused.
The parentheses that stand open are those that `openParens` counts (`Takes.groups_eq`).
-/

namespace Screening

/-- What a part of a condition that stands open waits for. -/
def Pending.waitsFor : Pending → Category
  | .negation _ | .conjunction .. => .unary
  | .group _ => .disjunction
  | .disjunction .. => .conjunction

namespace Reading

open Pending

variable {room total : Nat} {r next : Reading} {us vs : List Token} {pending : List Pending}

/-! ## What has been taken can be continued -/

/-- Taking tokens keeps the account of the tokens that have been taken. -/
theorem Takes.explains (h : Takes total r us next) (he : Explains room r vs)
    (hfit : Fits total room r.pending) :
    ∃ room', Explains room' next (vs ++ us) ∧ Fits total room' next.pending := by
  induction h generalizing room vs with
  | nil => exact ⟨room, (List.append_nil vs).symm ▸ he, hfit⟩
  | @cons r next last t us hstep hroom _ ih =>
    obtain ⟨room', he', hfit'⟩ := he.step hstep hfit hroom
    rw [← List.singleton_append, ← List.append_assoc]
    exact ih he' hfit'

/-- What stands open gets what it waits for. -/
theorem Admits.waitsFor_le {k : Category} {part : Pending} (h : Admits k (part :: pending)) :
    part.waitsFor.strength ≤ k.strength := by
  cases part with
  | group => exact k.disjunction_le
  | negation | conjunction =>
    cases k with
    | disjunction | conjunction => exact h.elim
    | unary | primary => simp [Pending.waitsFor, Category.strength]
  | disjunction =>
    cases k with
    | disjunction => exact h.elim
    | conjunction | unary | primary => simp [Pending.waitsFor, Category.strength]

/-- What stands open can be closed: behind tokens that open what is on the stack, the tokens of a
condition can be continued to a disjunction. The induction closes what stands open from the
innermost outwards; each parenthesis needs one more token. -/
theorem Opened.exists_continuation (ho : Opened room pending us) :
    ∀ {k : Category} {ts : List Token} {c : Condition}, Admits k pending → Derives k room ts c →
      ∃ more d, Derives .disjunction (room + depth pending) (us ++ (ts ++ more)) d := by
  induction ho with
  | nil =>
    intro k ts c _ h
    refine ⟨[], c, ?_⟩
    rw [List.append_nil, List.nil_append]
    exact h.loosen k.disjunction_le
  | @negation room pending us t _ hk ih =>
    intro k ts c hadm h
    have hunary : Derives .unary room ts c := h.loosen hadm.waitsFor_le
    obtain ⟨more, d, hd⟩ := ih (k := .unary) trivial (.not hk hunary)
    refine ⟨more, d, ?_⟩
    rw [List.append_assoc, depth, ← Nat.add_assoc, Nat.add_right_comm]
    exact hd
  | @group room pending us t _ hk ih =>
    intro k ts c hadm h
    have hgroup := Derives.group (u := ⟨.rightParen, ")", 0⟩) hk (h.loosen hadm.waitsFor_le) rfl
    obtain ⟨more, d, hd⟩ := ih (k := .primary) trivial hgroup
    refine ⟨⟨.rightParen, ")", 0⟩ :: more, d, ?_⟩
    rw [List.append_assoc, depth, ← Nat.add_assoc, Nat.add_right_comm]
    simpa only [List.cons_append, List.nil_append, List.append_assoc] using hd
  | @conjunction room pending us ls t l _ hadm' hl hk ih =>
    intro k ts c hadm h
    have hunary : Derives .unary room ts c := h.loosen hadm.waitsFor_le
    obtain ⟨more, d, hd⟩ := ih hadm' (.and hl hk hunary)
    refine ⟨more, d, ?_⟩
    rw [depth]
    simpa only [List.append_assoc, List.cons_append, List.nil_append] using hd
  | @disjunction room pending us ls t l _ hadm' hl hk ih =>
    intro k ts c hadm h
    have hconjunction : Derives .conjunction room ts c := h.loosen hadm.waitsFor_le
    obtain ⟨more, d, hd⟩ := ih hadm' (.or hl hk hconjunction)
    refine ⟨more, d, ?_⟩
    rw [depth]
    simpa only [List.append_assoc, List.cons_append, List.nil_append] using hd

/-- Wherever a reading has come to, the tokens that have led to it can be continued to a
disjunction. -/
theorem Explains.exists_continuation (h : Explains room r us) (hfit : Fits total room r.pending) :
    ∃ more d, Derives .disjunction total (us ++ more) d := by
  obtain rfl := hfit
  have hright : IsOperand ⟨.text, "", 0⟩ (.literal (.text "") 0) := .text rfl
  have hequal : IsRelation ⟨.relation, "=", 0⟩ .equal := ⟨rfl, rfl⟩
  cases h with
  | @start pending us ho =>
    have hleft : IsOperand ⟨.identifier, "x", 0⟩ (.field "x" 0) := .field rfl
    obtain ⟨more, d, hd⟩ := ho.exists_continuation (k := .primary) trivial
      (.compare hleft hequal hright)
    exact ⟨_, d, hd⟩
  | @relation pending us t l ho hl =>
    obtain ⟨more, d, hd⟩ := ho.exists_continuation (k := .primary) trivial
      (.compare hl hequal hright)
    exact ⟨⟨.relation, "=", 0⟩ :: ⟨.text, "", 0⟩ :: more, d, by
      simpa only [List.append_assoc, List.cons_append, List.nil_append] using hd⟩
  | @right pending us t o l rel ho hl hrel =>
    obtain ⟨more, d, hd⟩ := ho.exists_continuation (k := .primary) trivial
      (.compare hl hrel hright)
    exact ⟨⟨.text, "", 0⟩ :: more, d, by
      simpa only [List.append_assoc, List.cons_append, List.nil_append] using hd⟩
  | @complete pending us ts c ho hadm hc =>
    obtain ⟨more, d, hd⟩ := ho.exists_continuation hadm hc
    exact ⟨more, d, by rwa [List.append_assoc]⟩

/-- **What has been taken can be continued.** -/
theorem Takes.exists_continuation (h : Takes maxDepth initial us r) (source : String) :
    ∃ more c, (Reader.ofTokens (us ++ more) source).whole.1 = .ok c := by
  obtain ⟨room, he, hfit⟩ := h.explains (.start .nil) (rfl : Fits maxDepth maxDepth [])
  obtain ⟨more, c, hc⟩ := he.exists_continuation hfit
  refine ⟨more ++ [⟨.endOfInput, "", 0⟩], c, ?_⟩
  rw [← List.append_assoc]
  exact (Reader.whole_eq_ok_iff rfl fun t ht => (hc.kind_ne t ht).2.2).2 hc

end Reading

/-! ## Open parentheses -/

/-- The places of the parentheses that are open behind a token, the innermost first. -/
def Token.track (opened : List Nat) (t : Token) : List Nat :=
  match t.kind with
  | .leftParen => t.position :: opened
  | .rightParen => opened.tail
  | _ => opened

/-- The places of the parentheses that are open behind some tokens, the innermost first. -/
def openParens (ts : List Token) : List Nat := ts.foldl Token.track []

/-- The places of the parentheses that stand open, the innermost first. -/
def Pending.groups : List Pending → List Nat
  | [] => []
  | .group position :: rest => position :: groups rest
  | .negation _ :: rest | .conjunction .. :: rest | .disjunction .. :: rest => groups rest

namespace Reading

open Pending

variable {room : Nat} {r next : Reading} {t : Token} {us : List Token} {c : Condition}

@[simp] theorem groups_closeUnary (c : Condition) (pending : List Pending) :
    groups (closeUnary c pending).2 = groups pending := by
  fun_induction closeUnary c pending with
  | case1 c _ rest ih => exact ih
  | case2 | case3 => rfl

@[simp] theorem groups_closeDisjunction (c : Condition) (pending : List Pending) :
    groups (closeDisjunction c pending).2 = groups pending := by
  fun_cases closeDisjunction c pending <;> rfl

/-- No operand is a parenthesis. -/
theorem track_of_isOperand {o : Operand} (h : IsOperand t o) (opened : List Nat) :
    t.track opened = opened := by
  cases h with
  | field hk | number hk | text hk => simp only [Token.track, hk]

/-- A step opens and closes the parentheses that its token does. -/
theorem groups_step (h : r.step t = .take next) :
    groups next.pending = t.track (groups r.pending) := by
  cases advances_of_step h with
  | negation hk | group hk | conjunction hk => simp only [groups, Token.track, hk]
  | disjunction hk => simp only [groups, groups_closeDisjunction, Token.track, hk]
  | left hl => exact (track_of_isOperand hl _).symm
  | relation hrel => simp only [Token.track, hrel.kind_eq]
  | right ho =>
    rw [track_of_isOperand ho]
    exact groups_closeUnary _ _
  | @closing pending pending' c d position hk hclose =>
    have hgroups := groups_closeDisjunction c pending
    rw [hclose] at hgroups
    simp only [Token.track, hk, ← hgroups, groups, List.tail_cons]
    exact groups_closeUnary _ _

/-- Behind tokens that have been taken, those parentheses stand open that the tokens have opened and
not closed. -/
theorem Takes.groups_eq (h : Takes room r us next) :
    groups next.pending = us.foldl Token.track (groups r.pending) := by
  induction h with
  | nil => rfl
  | cons hstep _ _ ih => rw [ih, groups_step hstep, List.foldl_cons]

/-- The innermost open parenthesis of a reading is the one of the tokens that have been taken. -/
theorem Takes.head_openParens (h : Takes room initial us r) {p : Nat} {rest : List Pending}
    (hclose : (closeDisjunction c r.pending).2 = .group p :: rest) :
    (openParens us).head? = some p := by
  have hgroups := h.groups_eq
  rw [← groups_closeDisjunction c, hclose] at hgroups
  exact congrArg List.head? hgroups.symm

end Reading

/-- A parenthesis that stands open has been opened by one of the tokens. -/
theorem exists_token_of_mem_track {ts : List Token} {opened : List Nat} {p : Nat}
    (h : p ∈ ts.foldl Token.track opened) : p ∈ opened ∨ ∃ t ∈ ts, t.position = p := by
  induction ts generalizing opened with
  | nil => exact .inl h
  | cons t ts ih =>
    rcases ih h with hp | ⟨u, hu, hp⟩
    · unfold Token.track at hp
      split at hp
      · rcases List.mem_cons.1 hp with rfl | hp
        · exact .inr ⟨t, .head _, rfl⟩
        · exact .inl hp
      · exact .inl (List.mem_of_mem_tail hp)
      · exact .inl hp
    · exact .inr ⟨u, .tail _ hu, hp⟩

/-! ## Whole texts -/

open Reading

/-- A fault is found at the place of a token. -/
theorem exists_token_of_read_error {source : String} {e : ReadError}
    (h : Condition.read source = .error e) : ∃ t ∈ tokens source, t.position = e.position := by
  obtain ⟨before, r, t, behind, result, hhalts⟩ := exists_halts source
  rw [hhalts.tokens_eq]
  rcases hhalts.refuses.place_of_concluded (hhalts.concluded_eq h).1 with
    ⟨-, hp⟩ | ⟨-, -, c, rest, hclose⟩
  · exact ⟨t, List.mem_append_right _ (.head _), hp.symm⟩
  · have hmem := List.mem_of_mem_head? (hhalts.takes.head_openParens hclose)
    obtain ⟨u, hu, hp⟩ := (exists_token_of_mem_track hmem).resolve_left List.not_mem_nil
    exact ⟨u, List.mem_append_left _ hu, hp⟩

/-- **A fault is found at the earliest token.** Let a text be refused. Then there is a token of it
such that the tokens in front of that token can be continued to a list that is read as a condition,
and no list that begins with them and that token is. The fault is reported at the place of that
token, at which no other token stands; but a parenthesis that is not closed is reported at its own
place, which is that of the innermost parenthesis open in front of the token, and the token is the
one in front of which the reader has stopped. -/
theorem read_fault_earliest {source : String} {e : ReadError}
    (h : Condition.read source = .error e) :
    ∃ before t behind, tokens source = before ++ t :: behind ∧
      (e.fault ≠ .missingParen → ∀ u ∈ tokens source, u.position = e.position ↔ u = t) ∧
      (e.fault = .missingParen →
        (Reader.ofTokens (tokens source) source).whole.2.tokens = t :: behind ∧
          (openParens before).head? = some e.position) ∧
      (∃ more c, (Reader.ofTokens (before ++ more) source).whole.1 = .ok c) ∧
      ∀ more text c, (Reader.ofTokens (before ++ t :: more) text).whole.1 ≠ .ok c := by
  obtain ⟨before, r, t, behind, result, hhalts⟩ := exists_halts source
  obtain ⟨hconcluded, -⟩ := hhalts.concluded_eq h
  have hfound := hhalts.refuses.place_of_concluded hconcluded
  refine ⟨before, t, behind, hhalts.tokens_eq, fun hf u hu => ?_, fun hf => ?_,
    hhalts.takes.exists_continuation source, fun more text c => ?_⟩
  · obtain ⟨-, hp⟩ := hfound.resolve_right fun hmissing => hf hmissing.1
    have ht : t ∈ tokens source := hhalts.tokens_eq ▸ List.mem_append_right _ (.head _)
    have hnodup : ((tokens source).map Token.position).Nodup :=
      (pairwise_position_tokens source).1.imp Nat.ne_of_lt
    rw [hp]
    exact ⟨List.inj_on_of_nodup_map hnodup hu ht, congrArg Token.position⟩
  · obtain ⟨-, rfl, c, rest, hclose⟩ := hfound.resolve_left fun hother => hother.1 hf
    refine ⟨?_, hhalts.takes.head_openParens hclose⟩
    rw [hhalts.tokens_eq]
    exact hhalts.refuses.rest_whole hhalts.takes behind source
  · rw [hhalts.refuses.whole_eq hhalts.takes, hconcluded]
    exact nofun

/-- Two parentheses are open, and the inner one is reported although the token that is refused
stands far behind it. -/
theorem read_fault_earliest_missing_paren :
    let source := "(a = 'x' and (b = 'y' or not c = 'z' d"
    Condition.read source = .error (.ofFault .missingParen source 13) ∧
      ∃ before t behind, tokens source = before ++ t :: behind ∧ t = ⟨.identifier, "d", 37⟩ ∧
        (openParens before).head? = some 13 ∧
        (∃ more c, (Reader.ofTokens (before ++ more) source).whole.1 = .ok c) ∧
        ∀ more text c, (Reader.ofTokens (before ++ t :: more) text).whole.1 ≠ .ok c := by
  intro source
  have hread : Condition.read source = .error (.ofFault .missingParen source 13) := by
    have hfault : (match Condition.read source with | .error e => some e | .ok _ => none) =
        some (.ofFault .missingParen source 13) := by
      decide +kernel
    cases he : Condition.read source with
    | error e => rw [he] at hfault; cases hfault; rfl
    | ok c => rw [he] at hfault; cases hfault
  have hstuck : (Reader.ofTokens (tokens source) source).whole.2.tokens.head? =
      some ⟨.identifier, "d", 37⟩ := by
    decide +kernel
  obtain ⟨before, t, behind, htokens, -, hmissing, hviable, hdead⟩ := read_fault_earliest hread
  obtain ⟨hrest, hopen⟩ := hmissing rfl
  rw [hrest] at hstuck
  exact ⟨hread, before, t, behind, htokens, Option.some.inj hstuck, hopen, hviable, hdead⟩

end Screening
