import Mathlib.Data.List.DropRight
import Mathlib.Data.List.Infix
import Screening.Proofs.Condition.Fault

/-!
# How deep tokens are nested

How many negations and parentheses stand open behind some tokens can be counted over the tokens
alone (`openDepth`). A parenthesis is open up to the one that closes it. A negation is open until
the one unary condition that it reaches over is complete, and two kinds of tokens complete one: the
right operand of a comparison, and a closing parenthesis.

The count agrees with the grammar and with the reader. The tokens of a condition close all that
they open, and the negations in front of them (`Derives.foldl_next`); and a reading has as much open
as the tokens that it has taken (`Reading.Takes.openDepth_eq`), which is never more than there is
room for (`Reading.Takes.openDepth_le`).
-/

namespace Screening

/-! ## Counting over tokens -/

/-- What stands open behind some tokens. -/
structure Nesting where
  /-- The kinds of the tokens that have opened it, the innermost first. -/
  openers : List TokenKind
  /-- Whether the last token is a relation sign, so that an operand completes a comparison. -/
  related : Bool

/-- What stands open when a unary condition is complete. -/
def closeNegations (openers : List TokenKind) : List TokenKind :=
  openers.dropWhile (· = .not)

/-- What stands open behind one more token. -/
def Nesting.next (n : Nesting) (t : Token) : Nesting :=
  match t.kind with
  | .not => ⟨.not :: n.openers, false⟩
  | .leftParen => ⟨.leftParen :: n.openers, false⟩
  | .rightParen => ⟨closeNegations n.openers.tail, false⟩
  | .relation => ⟨n.openers, true⟩
  | _ => ⟨if n.related then closeNegations n.openers else n.openers, false⟩

/-- How many negations and parentheses stand open behind some tokens. -/
def openDepth (ts : List Token) : Nat := (ts.foldl Nesting.next ⟨[], false⟩).openers.length

@[simp] theorem closeNegations_not (openers : List TokenKind) :
    closeNegations (.not :: openers) = closeNegations openers := rfl

@[simp] theorem closeNegations_leftParen (openers : List TokenKind) :
    closeNegations (.leftParen :: openers) = .leftParen :: openers := rfl

@[simp] theorem closeNegations_closeNegations (openers : List TokenKind) :
    closeNegations (closeNegations openers) = closeNegations openers :=
  List.dropWhile_idempotent _ _

theorem length_closeNegations_le (openers : List TokenKind) :
    (closeNegations openers).length ≤ openers.length :=
  (List.dropWhile_suffix _).length_le

/-- An operand completes a comparison if a relation sign stands in front of it. -/
theorem Nesting.next_of_isOperand {t : Token} {o : Operand} (h : IsOperand t o) (n : Nesting) :
    n.next t = ⟨if n.related then closeNegations n.openers else n.openers, false⟩ := by
  cases h with
  | field hk | number hk | text hk => simp only [next, hk]

/-- One more token opens one more negation or parenthesis at most. -/
theorem Nesting.length_openers_next_le (n : Nesting) (t : Token) :
    (n.next t).openers.length ≤ n.openers.length + 1 := by
  unfold next
  split
  · exact Nat.le_refl _
  · exact Nat.le_refl _
  · have := length_closeNegations_le n.openers.tail
    have := n.openers.length_tail
    dsimp only
    omega
  · exact Nat.le_succ _
  · dsimp only
    split
    · exact Nat.le_succ_of_le (length_closeNegations_le _)
    · exact Nat.le_succ _

theorem openDepth_concat_le (ts : List Token) (t : Token) :
    openDepth (ts ++ [t]) ≤ openDepth ts + 1 := by
  rw [openDepth, List.foldl_concat]
  exact Nesting.length_openers_next_le _ t

/-! ## The grammar -/

/-- The tokens of a condition close all that they open, and the negations in front of them. -/
theorem Derives.foldl_next {k : Category} {room : Nat} {ts : List Token} {c : Condition}
    (h : Derives k room ts c) (openers : List TokenKind) :
    ts.foldl Nesting.next ⟨openers, false⟩ = ⟨closeNegations openers, false⟩ := by
  induction h generalizing openers with
  | conjunction _ ih | unary _ ih | primary _ ih => exact ih openers
  | or _ hk _ ihl ihr | and _ hk _ ihl ihr =>
    rw [List.foldl_append, ihl, List.foldl_cons]
    simp only [Nesting.next, hk, Bool.false_eq_true, if_false]
    rw [ihr, closeNegations_closeNegations]
  | not hk _ ih =>
    rw [List.foldl_cons]
    simp only [Nesting.next, hk]
    rw [ih, closeNegations_not]
  | group hk _ hu ih =>
    rw [List.foldl_cons, List.foldl_concat]
    simp only [Nesting.next, hk]
    rw [ih, closeNegations_leftParen]
    simp only [hu, List.tail_cons]
  | compare hl ho hr =>
    rw [List.foldl_cons, List.foldl_cons, List.foldl_cons, List.foldl_nil,
      Nesting.next_of_isOperand hl, Nesting.next_of_isOperand hr]
    simp only [Nesting.next, ho.kind_eq, Bool.false_eq_true, if_false, if_true]

/-- Behind the tokens of a condition nothing stands open. -/
theorem Derives.openDepth_eq {k : Category} {room : Nat} {ts : List Token} {c : Condition}
    (h : Derives k room ts c) : openDepth ts = 0 := by
  rw [openDepth, h.foldl_next]
  rfl

/-! ## The reader -/

/-- The kinds of the tokens that have opened what stands on the stack, the innermost first. -/
def Pending.openers : List Pending → List TokenKind
  | [] => []
  | .negation _ :: rest => .not :: openers rest
  | .group _ :: rest => .leftParen :: openers rest
  | .conjunction .. :: rest | .disjunction .. :: rest => openers rest

/-- What stands open where a condition has been read so far. -/
def Reading.nesting (r : Reading) : Nesting where
  openers := Pending.openers r.pending
  related :=
    match r.stage with
    | .right .. => true
    | _ => false

namespace Reading

open Pending

variable {room total : Nat} {r next : Reading} {t : Token} {us vs : List Token}
  {c : Condition} {pending : List Pending}

theorem length_openers (pending : List Pending) : (openers pending).length = depth pending := by
  fun_induction openers pending with
  | case1 => rfl
  | case2 _ rest ih | case3 _ rest ih => rw [List.length_cons, ih, depth]
  | case4 _ _ rest ih | case5 _ _ rest ih => rw [ih, depth]

theorem openers_closeDisjunction (c : Condition) (pending : List Pending) :
    openers (closeDisjunction c pending).2 = openers pending := by
  fun_cases closeDisjunction c pending <;> rfl

/-- In front of a disjunction no negation waits. -/
theorem closeNegations_of_admits (h : Admits .disjunction pending) :
    closeNegations (openers pending) = openers pending := by
  rcases pending with _ | ⟨_ | _ | _ | _, _⟩
  case cons.negation | cons.conjunction | cons.disjunction => exact h.elim
  all_goals rfl

/-- In front of a conjunction no negation waits, whether or not it is part of a disjunction. -/
theorem Opened.closeNegations_of_admits (ho : Opened room pending us)
    (hadm : Admits .conjunction pending) : closeNegations (openers pending) = openers pending := by
  cases ho with
  | nil | group => rfl
  | negation | conjunction => exact hadm.elim
  | disjunction _ hadm' =>
    have h := Reading.closeNegations_of_admits hadm'
    exact h

/-- A unary condition that is complete closes the negations that wait for it. -/
theorem Opened.openers_closeUnary (ho : Opened room pending us) (c : Condition) :
    openers (closeUnary c pending).2 = closeNegations (openers pending) := by
  induction ho generalizing c with
  | nil | group => rfl
  | negation _ _ ih => exact ih _
  | conjunction ho hadm => exact (ho.closeNegations_of_admits hadm).symm
  | disjunction _ hadm => exact (Reading.closeNegations_of_admits hadm).symm

theorem Opened.nesting_completed (ho : Opened room pending us) (c : Condition) :
    (completed c pending).nesting = ⟨closeNegations (openers pending), false⟩ :=
  congrArg (Nesting.mk · false) (ho.openers_closeUnary c)

/-- A step opens and closes what its token does. -/
theorem Explains.nesting_step (he : Explains room r us) (hstep : r.step t = .take next) :
    next.nesting = r.nesting.next t := by
  cases he with
  | start =>
    cases advances_of_step hstep with
    | negation hk | group hk => simp only [Nesting.next, hk, nesting, openers]
    | left hl =>
      rw [Nesting.next_of_isOperand hl]
      rfl
  | relation =>
    cases advances_of_step hstep with
    | relation hrel => simp only [Nesting.next, hrel.kind_eq, nesting]
  | right ho =>
    cases advances_of_step hstep with
    | right hr =>
      rw [ho.nesting_completed, Nesting.next_of_isOperand hr]
      rfl
  | @complete pending us ts c ho hadm hc =>
    cases advances_of_step hstep with
    | conjunction hk =>
      simp only [Nesting.next, hk, nesting, openers, Bool.false_eq_true, if_false]
    | disjunction hk =>
      simp only [Nesting.next, hk, nesting, openers, openers_closeDisjunction, Bool.false_eq_true,
        if_false]
    | closing hk hclose =>
      have hopeners := openers_closeDisjunction c pending
      obtain ⟨_, _, -, ho', -, -⟩ := ho.closeDisjunction hadm hc
      rw [hclose] at hopeners ho'
      cases ho' with
      | group ho' =>
        -- the parenthesis is closed first, and then the negations in front of it
        rw [ho'.nesting_completed]
        simp only [Nesting.next, hk, nesting, ← hopeners, openers, List.tail_cons]

/-- A reading that takes tokens opens and closes what they do. -/
theorem Takes.nesting_eq (h : Takes total r us next) (he : Explains room r vs)
    (hfit : Fits total room r.pending) : next.nesting = us.foldl Nesting.next r.nesting := by
  induction h generalizing room vs with
  | nil => rfl
  | cons hstep hroom _ ih =>
    obtain ⟨room', he', hfit'⟩ := he.step hstep hfit hroom
    rw [ih he' hfit', he.nesting_step hstep, List.foldl_cons]

/-- Behind tokens that have been taken as much stands open as they have opened and not closed. -/
theorem Takes.openDepth_eq (h : Takes room initial us r) : openDepth us = depth r.pending := by
  rw [← length_openers, openDepth]
  exact congrArg (·.openers.length) (h.nesting_eq (.start .nil) (rfl : Fits room room [])).symm

/-! ## Room -/

/-- Nowhere among tokens that have been taken more stands open than there is room for. -/
theorem Takes.openDepth_le (h : Takes room initial us r) :
    ∀ ts ∈ us.inits, openDepth ts ≤ room := by
  intro ts hts
  obtain ⟨vs, rfl⟩ := (List.mem_inits ts us).1 hts
  obtain ⟨mid, hmid, -⟩ := h.exists_of_append
  rw [hmid.openDepth_eq]
  exact hmid.depth_le (Nat.zero_le _)

/-- Behind a token for which there is no room more stands open than there is room for. -/
theorem Takes.openDepth_concat (h : Takes room initial us r) (hstep : r.step t = .take next) :
    openDepth (us ++ [t]) = depth next.pending :=
  ((h.mono (Nat.le_max_left _ _)).concat hstep (Nat.le_max_right _ _)).openDepth_eq

end Reading

end Screening
