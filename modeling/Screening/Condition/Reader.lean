import Screening.Binary64.Reader
import Screening.Condition
import Screening.Condition.Fault
import Screening.Token.Scanner

/-!
# Reading conditions

```text
condition   := disjunction
disjunction := conjunction (OR conjunction)*
conjunction := unary (AND unary)*
unary       := NOT unary | primary
primary     := '(' condition ')' | comparison
comparison  := operand relation operand
operand     := identifier | number | text
```

A condition is read token by token. A `Reading` knows what stands open around the place that has
been reached: negations and parentheses, and conjunctions and disjunctions whose right side is
still to come. `Reading.step` either takes the next token or stops in front of it, with a
condition or with a fault. So the fault is always found at the first token that cannot be taken,
and nothing behind that token is looked at.

At most `maxDepth` negations and parentheses may be open together.
-/

namespace Screening

/-- How many negations and parentheses may be open together. -/
def maxDepth : Nat := 64

/-! ## What stands open -/

/-- A part of a condition that waits for what is being read. -/
inductive Pending where
  | negation (position : Nat)
  | group (position : Nat)
  | conjunction (left : Condition) (position : Nat)
  | disjunction (left : Condition) (position : Nat)
  deriving DecidableEq

/-- How many negations and parentheses are open. -/
def Pending.depth : List Pending → Nat
  | [] => 0
  | .negation _ :: rest | .group _ :: rest => depth rest + 1
  | .conjunction .. :: rest | .disjunction .. :: rest => depth rest

/-- Gives a complete condition to the negations and to the conjunction that wait for it. -/
def Pending.closeUnary (c : Condition) : List Pending → Condition × List Pending
  | .negation position :: rest => closeUnary (.not c position) rest
  | .conjunction left position :: rest => (.and left c position, rest)
  | pending => (c, pending)

/-- Gives a complete conjunction to the disjunction that waits for it. -/
def Pending.closeDisjunction (c : Condition) : List Pending → Condition × List Pending
  | .disjunction left position :: rest => (.or left c position, rest)
  | pending => (c, pending)

/-! ## One token -/

/-- What the next token may be. -/
inductive Stage where
  /-- A negation, a parenthesis or the left operand of a comparison comes next. -/
  | start
  /-- The left operand has been read and its relation comes next. -/
  | relation (left : Operand)
  /-- The relation has been read and the right operand comes next. -/
  | right (left : Operand) (relation : Relation) (position : Nat)
  /-- A condition has been read that may end here. -/
  | complete (c : Condition)
  deriving DecidableEq

/-- How far a condition has been read, and what stands open around that place. -/
structure Reading where
  stage : Stage
  pending : List Pending
  deriving DecidableEq

/-- In front of the first token. -/
def Reading.initial : Reading := ⟨.start, []⟩

/-- A reading takes a token, or it stops in front of it with a condition or with a fault and the
place of the fault. -/
inductive Step where
  | take (next : Reading)
  | stop (result : Except (Fault × Nat) Condition)

/-- The operand that a token is. -/
def operand (t : Token) : Except Fault Operand :=
  match t.kind with
  | .identifier => .ok (.field t.text t.position)
  | .number =>
      match (Binary64.read? t.text.toList).bind Binary64.finite? with
      | some value => .ok (.literal (.number value) t.position)
      | none => .error (.invalidNumber t.text)
  | .text => .ok (.literal (.text t.text) t.position)
  | .unterminated => .error .unterminatedText
  | .unknown => .error (.unexpectedCharacter t.text)
  | .endOfInput => .error .endOfInput
  | kind => .error (.expectedOperand kind)

/-- The relation that a token is. -/
def relation? (t : Token) : Option Relation :=
  if t.kind = .relation then Relation.ofSymbol? t.text else none

namespace Reading

/-- A comparison, or a condition in parentheses, has been read. -/
def completed (c : Condition) (pending : List Pending) : Reading :=
  let (c, pending) := Pending.closeUnary c pending
  ⟨.complete c, pending⟩

/-- The condition that has been read, if every parenthesis is closed. -/
def conclude (c : Condition) (pending : List Pending) : Except (Fault × Nat) Condition :=
  match Pending.closeDisjunction c pending with
  | (_, .group position :: _) => .error (.missingParen, position)
  | (c, _) => .ok c

/-- Takes the next token, or stops in front of it. -/
def step (r : Reading) (t : Token) : Step :=
  match r.stage with
  | .start =>
      match t.kind with
      | .not => .take ⟨.start, .negation t.position :: r.pending⟩
      | .leftParen => .take ⟨.start, .group t.position :: r.pending⟩
      | _ =>
          match operand t with
          | .ok left => .take ⟨.relation left, r.pending⟩
          | .error fault => .stop (.error (fault, t.position))
  | .relation left =>
      match relation? t with
      | some relation => .take ⟨.right left relation t.position, r.pending⟩
      | none => .stop (.error (.expectedRelation, t.position))
  | .right left relation position =>
      match operand t with
      | .ok right => .take (completed (.compare ⟨relation, left, right, position⟩) r.pending)
      | .error fault => .stop (.error (fault, t.position))
  | .complete c =>
      match t.kind with
      | .and => .take ⟨.start, .conjunction c t.position :: r.pending⟩
      | .or =>
          let (c, pending) := Pending.closeDisjunction c r.pending
          .take ⟨.start, .disjunction c t.position :: pending⟩
      | .rightParen =>
          match Pending.closeDisjunction c r.pending with
          | (c, .group _ :: pending) => .take (completed c pending)
          | _ => .stop (conclude c r.pending)
      | _ => .stop (conclude c r.pending)

/-- What has been read when no token is left and the text ends at `position`. -/
def finish (r : Reading) (position : Nat) : Except (Fault × Nat) Condition :=
  match r.stage with
  | .start | .right .. => .error (.endOfInput, position)
  | .relation _ => .error (.expectedRelation, position)
  | .complete c => conclude c r.pending

/-- How many negations and parentheses a reading that stops leaves open. A parenthesis that is
found not to be closed counts no more. -/
def abandoned (r : Reading) : Except (Fault × Nat) Condition → Nat
  | .error (.missingParen, _) => Pending.depth r.pending - 1
  | _ => Pending.depth r.pending

end Reading

/-! ## A list of tokens -/

/-- What came of reading a condition: the condition or the fault, the tokens that were not taken,
and how many negations and parentheses were left open. -/
structure Reading.Outcome where
  result : Except (Fault × Nat) Condition
  rest : List Token
  opened : Nat

/-- Reads as far as tokens can be taken, with room for `room` open negations and parentheses. The
text ends at `position`. -/
def Reading.run (room position : Nat) (r : Reading) : List Token → Reading.Outcome
  | [] => ⟨r.finish position, [], r.abandoned (r.finish position)⟩
  | t :: ts =>
      match r.step t with
      | .stop result => ⟨result, t :: ts, r.abandoned result⟩
      | .take next =>
          if room < Pending.depth next.pending then
            ⟨.error (.tooDeep, t.position), ts, Pending.depth next.pending⟩
          else run room position next ts

/-- A list of tokens that conditions are read from, one behind the other. -/
structure Reader where
  /-- The tokens that have not been taken. -/
  tokens : List Token
  /-- How many negations and parentheses earlier readings have left open. -/
  depth : Nat
  /-- The text the tokens come from. -/
  source : String

namespace Reader

/-- A reader in front of the tokens of a text. -/
def ofTokens (tokens : List Token) (source : String) : Reader := ⟨tokens, 0, source⟩

/-- Reads one condition and stops in front of the first token that does not belong to it. -/
def condition (r : Reader) : Except ReadError Condition × Reader :=
  let outcome := Reading.initial.run (maxDepth - r.depth) r.source.length r.tokens
  (outcome.result.mapError fun (fault, position) => ReadError.ofFault fault r.source position,
    ⟨outcome.rest, r.depth + outcome.opened, r.source⟩)

/-- Reads one condition, behind which no token may stand. -/
def whole (r : Reader) : Except ReadError Condition × Reader :=
  match r.condition with
  | (.ok c, r) =>
      match r.tokens with
      | [] => (.ok c, r)
      | t :: _ =>
          if t.kind = .endOfInput then (.ok c, r)
          else (.error (ReadError.ofFault (.unexpectedToken t.text) r.source t.position), r)
  | failed => failed

end Reader

/-- The condition that a text is. -/
def Condition.read (source : String) : Except ReadError Condition :=
  (Reader.ofTokens (Screening.tokens source) source).whole.1

end Screening
