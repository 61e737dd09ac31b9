import Screening.Proofs.Condition.Progress
import Screening.Proofs.Token.Joining

/-!
# Moving a text

Reading a condition hands places on and never looks at them. If every token is moved to another
place, then a reading takes and refuses the same tokens (`Reading.step_move`, `Takes.move`,
`Refuses.move`), and what is read is the same condition, or the same fault, with its places moved in
the same way (`read_move`).
-/

namespace Screening

variable (f : Nat → Nat)

/-! ## What is moved -/

/-- An operand at another place. -/
def Operand.move : Operand → Operand
  | .field name position => .field name (f position)
  | .literal value position => .literal value (f position)

/-- A comparison at other places. -/
def Comparison.move (c : Comparison) : Comparison :=
  ⟨c.relation, c.left.move f, c.right.move f, f c.position⟩

/-- A condition with all its parts at other places. -/
def Condition.move : Condition → Condition
  | .compare comparison => .compare (comparison.move f)
  | .not operand position => .not operand.move (f position)
  | .and left right position => .and left.move right.move (f position)
  | .or left right position => .or left.move right.move (f position)

/-- The comparisons of a moved condition. -/
theorem Condition.comparisons_move (c : Condition) :
    (c.move f).comparisons = c.comparisons.map (Comparison.move f) := by
  induction c with
  | compare => rfl
  | not _ _ ih => exact ih
  | and _ _ _ ihc ihd | or _ _ _ ihc ihd =>
    simp only [move, comparisons, ihc, ihd, List.map_append]

/-- What stands open, at another place. -/
def Pending.move : Pending → Pending
  | .negation position => .negation (f position)
  | .group position => .group (f position)
  | .conjunction left position => .conjunction (left.move f) (f position)
  | .disjunction left position => .disjunction (left.move f) (f position)

/-- What the next token may be, where what has been read is moved. -/
def Stage.move : Stage → Stage
  | .start => .start
  | .relation left => .relation (left.move f)
  | .right left r position => .right (left.move f) r (f position)
  | .complete c => .complete (c.move f)

/-- A reading of moved tokens. -/
def Reading.move (r : Reading) : Reading := ⟨r.stage.move f, r.pending.map (Pending.move f)⟩

/-- What is read of moved tokens. -/
def Reading.moveResult : Except (Fault × Nat) Condition → Except (Fault × Nat) Condition
  | .ok c => .ok (c.move f)
  | .error (fault, position) => .error (fault, f position)

/-- A step at a moved token. -/
def Step.move : Step → Step
  | .take next => .take (next.move f)
  | .stop result => .stop (Reading.moveResult f result)

/-! ## One token -/

theorem operand_move (t : Token) : operand (t.move f) = (operand t).map (Operand.move f) := by
  obtain ⟨kind, text, position⟩ := t
  cases kind with
  | number =>
    simp only [operand, Token.move]
    split <;> rfl
  | _ => rfl

namespace Pending

/-- Moving what stands open opens and closes nothing. -/
theorem depth_move (pending : List Pending) : depth (pending.map (move f)) = depth pending := by
  induction pending with
  | nil => rfl
  | cons part _ ih =>
    cases part with
    | negation | group => exact congrArg (· + 1) ih
    | conjunction | disjunction => exact ih

theorem closeUnary_move (c : Condition) (pending : List Pending) :
    closeUnary (c.move f) (pending.map (move f)) =
      (closeUnary c pending).map (Condition.move f) (List.map (move f)) := by
  induction pending generalizing c with
  | nil => rfl
  | cons part _ ih =>
    cases part with
    | negation position => exact ih (.not c position)
    | group | conjunction | disjunction => rfl

theorem closeDisjunction_move (c : Condition) (pending : List Pending) :
    closeDisjunction (c.move f) (pending.map (move f)) =
      (closeDisjunction c pending).map (Condition.move f) (List.map (move f)) := by
  cases pending with
  | nil => rfl
  | cons part _ =>
    cases part with
    | negation | group | conjunction | disjunction => rfl

end Pending

namespace Reading

open Pending

theorem completed_move (c : Condition) (pending : List Pending) :
    completed (c.move f) (pending.map (Pending.move f)) = (completed c pending).move f := by
  simp only [completed, closeUnary_move, Prod.map_fst, Prod.map_snd, move, Stage.move]

theorem conclude_move (c : Condition) (pending : List Pending) :
    conclude (c.move f) (pending.map (Pending.move f)) = moveResult f (conclude c pending) := by
  unfold conclude
  rw [closeDisjunction_move]
  obtain ⟨d, rest⟩ := closeDisjunction c pending
  cases rest with
  | nil => rfl
  | cons part _ =>
    cases part with
    | negation | group | conjunction | disjunction => rfl

/-- **A step does not look at places.** -/
theorem step_move (r : Reading) (t : Token) : (r.move f).step (t.move f) = (r.step t).move f := by
  obtain ⟨stage, pending⟩ := r
  cases stage with
  | start =>
    obtain ⟨kind, text, position⟩ := t
    simp only [step, move, Stage.move, operand_move]
    cases operand ⟨kind, text, position⟩ with
    | error | ok => cases kind <;> rfl
  | relation left =>
    have hrelation : relation? (t.move f) = relation? t := rfl
    simp only [step, move, Stage.move, hrelation]
    cases relation? t with
    | none | some => rfl
  | right left r position =>
    simp only [step, move, Stage.move, operand_move]
    cases operand t with
    | error => rfl
    | ok right =>
      exact congrArg Step.take (completed_move f (.compare ⟨r, left, right, position⟩) pending)
  | complete c =>
    obtain ⟨kind, text, position⟩ := t
    simp only [step, move, Stage.move, closeDisjunction_move, conclude_move]
    cases kind with
    | rightParen =>
      obtain ⟨d, rest⟩ := closeDisjunction c pending
      cases rest with
      | nil => rfl
      | cons part rest =>
        cases part with
        | group => exact congrArg Step.take (completed_move f d rest)
        | negation | conjunction | disjunction => rfl
    | _ => rfl

/-! ## Many tokens -/

variable {room : Nat} {r next : Reading} {t : Token} {us : List Token}
  {result : Except (Fault × Nat) Condition}

/-- Moved tokens are taken as they were. -/
theorem Takes.move (h : Takes room r us next) :
    Takes room (r.move f) (us.map (Token.move f)) (next.move f) := by
  induction h with
  | nil => exact .nil
  | @cons r next last t us hstep hroom _ ih =>
    have hmoved := (step_move f r t).trans (congrArg (Step.move f) hstep)
    exact .cons hmoved ((depth_move f next.pending).trans_le hroom) ih

/-- A moved token is refused as it was. -/
theorem Refuses.move (h : Refuses room r t result) :
    Refuses room (r.move f) (t.move f) (moveResult f result) := by
  cases h with
  | stop hstep => exact .stop ((step_move f r t).trans (congrArg (Step.move f) hstep))
  | @tooDeep next hstep hroom =>
    have hmoved := (step_move f r t).trans (congrArg (Step.move f) hstep)
    exact .tooDeep hmoved (hroom.trans_eq (depth_move f next.pending).symm)

theorem concluded_move (t : Token) (result : Except (Fault × Nat) Condition) :
    concluded (t.move f) (moveResult f result) = moveResult f (concluded t result) := by
  cases result with
  | error => rfl
  | ok c =>
    simp only [concluded]
    rw [apply_ite (moveResult f)]
    rfl

/-- The tokens of a moved text are taken and refused as they were. -/
theorem Halts.move {source source' : String} {before behind : List Token}
    (h : Halts source before r t behind result)
    (htokens : tokens source' = (tokens source).map (Token.move f)) :
    Halts source' (before.map (Token.move f)) (r.move f) (t.move f) (behind.map (Token.move f))
      (moveResult f result) where
  tokens_eq := by rw [htokens, h.tokens_eq, List.map_append, List.map_cons]
  takes := h.takes.move f
  refuses := h.refuses.move f

end Reading

/-- **Reading does not look at places.** If the tokens of a text are those of another one at other
places, then the same is read of it at these places. -/
theorem read_move {source source' : String}
    (htokens : tokens source' = (tokens source).map (Token.move f)) :
    Condition.read source' =
      match Condition.read source with
      | .ok c => .ok (c.move f)
      | .error e => .error (.ofFault e.fault source' (f e.position)) := by
  obtain ⟨before, r, t, behind, result, hhalts⟩ := Reading.exists_halts source
  rw [hhalts.read_eq, (hhalts.move f htokens).read_eq, Reading.concluded_move]
  cases Reading.concluded t result with
  | ok | error => rfl

end Screening
