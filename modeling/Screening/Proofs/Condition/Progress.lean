import Screening.Proofs.Condition.Acceptance

/-!
# As far as tokens can be taken

A reading takes tokens (`Reading.Takes`) up to the first one that it refuses (`Reading.Refuses`).
What is refused is refused whatever comes behind it (`Refuses.whole_eq`). Of the tokens of a text
there is always one that is refused, the closing one if no other (`Reading.Halts`), and what is read
of the text is decided there (`Halts.read_eq`).
-/

namespace Screening

namespace Reading

open Pending

variable {room position : Nat} {r next mid : Reading} {t : Token} {us vs : List Token}
  {c : Condition} {pending : List Pending} {result : Except (Fault × Nat) Condition} {f : Fault}
  {p : Nat}

/-! ## One token -/

/-- The closing token is never taken. -/
theorem kind_ne_of_step (h : r.step t = .take next) : t.kind ≠ .endOfInput := by
  cases advances_of_step h with
  | negation hk | group hk | conjunction hk | disjunction hk | closing hk =>
    rw [hk]
    decide
  | relation hrel =>
    rw [hrel.kind_eq]
    decide
  | left ho | right ho =>
    cases ho with
    | field hk | number hk | text hk =>
      rw [hk]
      decide

/-- No token is refused as an operand for a parenthesis that is missing or for lack of room. -/
theorem ne_of_operand (h : operand t = .error f) : f ≠ .missingParen ∧ f ≠ .tooDeep := by
  unfold operand at h
  repeat' split at h
  all_goals cases h
  all_goals exact ⟨nofun, nofun⟩

/-- If no condition is concluded, then the innermost open parenthesis is not closed. -/
theorem exists_group_of_conclude (h : conclude c pending = .error (f, p)) :
    f = .missingParen ∧ ∃ rest, (closeDisjunction c pending).2 = .group p :: rest := by
  unfold conclude at h
  split at h
  · next rest hclose =>
    cases h
    exact ⟨rfl, rest, by rw [hclose]⟩
  · cases h

/-- A step that stops with a fault has found it at the token, or at the innermost open
parenthesis. -/
theorem step_error (h : r.step t = .stop (.error (f, p))) :
    f ≠ .missingParen ∧ p = t.position ∨
      f = .missingParen ∧ ∃ c rest, (closeDisjunction c r.pending).2 = .group p :: rest := by
  cases stops_of_step h with
  | left hop | right hop => exact .inl ⟨(ne_of_operand hop).1, rfl⟩
  | relation => exact .inl ⟨by decide, rfl⟩
  | @complete pending c _ hc =>
    obtain ⟨hf, rest, hclose⟩ := exists_group_of_conclude hc
    exact .inr ⟨hf, c, rest, hclose⟩

/-! ## Taking tokens -/

/-- `Takes room r us next` says that the reading `r` takes the tokens `us` and becomes `next`, and
that never more than `room` negations and parentheses are open on the way. -/
inductive Takes (room : Nat) : Reading → List Token → Reading → Prop where
  | nil {r : Reading} : Takes room r [] r
  | cons {r next last : Reading} {t : Token} {us : List Token} (hstep : r.step t = .take next)
      (hroom : depth next.pending ≤ room) (h : Takes room next us last) :
      Takes room r (t :: us) last

/-- `Refuses room r t result` says that the reading `r` does not take the token `t`: it stops in
front of it with `result`, or there is no room for what would be open behind it. -/
inductive Refuses (room : Nat) (r : Reading) (t : Token) :
    Except (Fault × Nat) Condition → Prop where
  | stop {result : Except (Fault × Nat) Condition} (hstep : r.step t = .stop result) :
      Refuses room r t result
  | tooDeep {next : Reading} (hstep : r.step t = .take next)
      (hroom : room < depth next.pending) : Refuses room r t (.error (.tooDeep, t.position))

/-- Tokens of which one is the closing one are taken up to one that is refused. -/
theorem exists_takes {ts : List Token} (room : Nat) (r : Reading)
    (hend : ∃ t ∈ ts, t.kind = .endOfInput) :
    ∃ us t vs next result, ts = us ++ t :: vs ∧ Takes room r us next ∧
      Refuses room next t result := by
  induction ts generalizing r with
  | nil =>
    obtain ⟨_, hmem, -⟩ := hend
    cases hmem
  | cons t ts ih =>
    cases hstep : r.step t with
    | stop result => exact ⟨[], t, ts, r, result, rfl, .nil, .stop hstep⟩
    | take next =>
      rcases Nat.lt_or_ge room (depth next.pending) with hroom | hroom
      · exact ⟨[], t, ts, r, _, rfl, .nil, .tooDeep hstep hroom⟩
      · obtain ⟨u, hu, hk⟩ := hend
        have hu : u ∈ ts := (List.mem_cons.1 hu).resolve_left fun heq =>
          kind_ne_of_step hstep (heq ▸ hk)
        obtain ⟨us, t', vs, last, result, rfl, htakes, hrefuses⟩ := ih next ⟨u, hu, hk⟩
        exact ⟨t :: us, t', vs, last, result, rfl, .cons hstep hroom htakes, hrefuses⟩

/-- A run goes on where the tokens have been taken. -/
theorem Takes.run_append (h : Takes room r us next) (vs : List Token) :
    run room position r (us ++ vs) = run room position next vs := by
  induction h with
  | nil => rfl
  | cons hstep hroom _ ih => exact (run_cons hstep hroom).trans ih

/-- What is taken with some room is taken with more. -/
theorem Takes.mono (h : Takes room r us next) {total : Nat} (hle : room ≤ total) :
    Takes total r us next := by
  induction h with
  | nil => exact .nil
  | cons hstep hroom _ ih => exact .cons hstep (Nat.le_trans hroom hle) ih

/-- Behind tokens that have been taken one more may be. -/
theorem Takes.concat (h : Takes room r us mid) (hstep : mid.step t = .take next)
    (hroom : depth next.pending ≤ room) : Takes room r (us ++ [t]) next := by
  induction h with
  | nil => exact .cons hstep hroom .nil
  | cons hstep' hroom' _ ih => exact .cons hstep' hroom' (ih hstep)

/-- Tokens that are taken have been taken one after the other. -/
theorem Takes.exists_of_append (h : Takes room r (us ++ vs) next) :
    ∃ mid, Takes room r us mid ∧ Takes room mid vs next := by
  induction us generalizing r with
  | nil => exact ⟨r, .nil, h⟩
  | cons t us ih =>
    cases h with
    | cons hstep hroom h =>
      obtain ⟨mid, hus, hvs⟩ := ih h
      exact ⟨mid, .cons hstep hroom hus, hvs⟩

/-- A reading that takes tokens opens no more than there is room for. -/
theorem Takes.depth_le (h : Takes room r us next) (hr : depth r.pending ≤ room) :
    depth next.pending ≤ room := by
  induction h with
  | nil => exact hr
  | cons _ hroom _ ih => exact ih hroom

/-- A run ends at the token that is refused, and in front of it unless there is no room for it. -/
theorem Refuses.exists_run (h : Refuses room r t result) (position : Nat) (vs : List Token) :
    ∃ rest opened, run room position r (t :: vs) = ⟨result, rest, opened⟩ ∧
      (rest = t :: vs ∨ result = .error (.tooDeep, t.position)) := by
  cases h with
  | stop hstep => exact ⟨_, r.abandoned result, by simp only [run, hstep], .inl rfl⟩
  | @tooDeep next hstep hroom =>
    exact ⟨vs, depth next.pending, by simp only [run, hstep, if_pos hroom], .inr rfl⟩

/-- A fault is found at the token that is refused, or at the innermost open parenthesis. -/
theorem Refuses.error (h : Refuses room r t (.error (f, p))) :
    f ≠ .missingParen ∧ p = t.position ∨
      f = .missingParen ∧ ∃ c rest, (closeDisjunction c r.pending).2 = .group p :: rest := by
  cases h with
  | stop hstep => exact step_error hstep
  | tooDeep => exact .inl ⟨nofun, rfl⟩

/-! ## What is refused -/

/-- What comes of a condition in front of a token that is refused: behind it only the closing token
may stand. -/
def concluded (t : Token) : Except (Fault × Nat) Condition → Except (Fault × Nat) Condition
  | .ok c => if t.kind = .endOfInput then .ok c else .error (.unexpectedToken t.text, t.position)
  | .error e => .error e

/-- What is found in front of a token that is refused is found at that token, or it is an open
parenthesis. -/
theorem Refuses.place_of_concluded (h : Refuses room r t result)
    (hconcluded : concluded t result = .error (f, p)) :
    f ≠ .missingParen ∧ p = t.position ∨ f = .missingParen ∧ result = .error (.missingParen, p) ∧
      ∃ c rest, (closeDisjunction c r.pending).2 = .group p :: rest := by
  cases result with
  | ok c =>
    dsimp only [concluded] at hconcluded
    split at hconcluded
    all_goals cases hconcluded
    exact .inl ⟨nofun, rfl⟩
  | error e =>
    cases hconcluded
    rcases h.error with hfault | ⟨rfl, hgroup⟩
    · exact .inl hfault
    · exact .inr ⟨rfl, rfl, hgroup⟩

/-- A condition is read up to the token that is refused. -/
theorem Refuses.exists_condition (h : Refuses maxDepth r t result)
    (htakes : Takes maxDepth initial us r) (vs : List Token) (source : String) :
    ∃ rest depth, (Reader.ofTokens (us ++ t :: vs) source).condition =
        (result.mapError fun (fault, position) => .ofFault fault source position,
          ⟨rest, depth, source⟩) ∧
      (rest = t :: vs ∨ result = .error (.tooDeep, t.position)) := by
  obtain ⟨rest, opened, hrun, hrest⟩ := h.exists_run source.length vs
  rw [← htakes.run_append] at hrun
  refine ⟨rest, 0 + opened, ?_, hrest⟩
  simp only [Reader.condition, Reader.ofTokens, Nat.sub_zero, hrun]

/-- **What is refused is refused whatever comes behind it.** -/
theorem Refuses.whole_eq (h : Refuses maxDepth r t result) (htakes : Takes maxDepth initial us r)
    (vs : List Token) (source : String) :
    (Reader.ofTokens (us ++ t :: vs) source).whole.1 =
      (concluded t result).mapError fun (fault, position) => .ofFault fault source position := by
  obtain ⟨rest, depth, hcondition, hrest⟩ := h.exists_condition htakes vs source
  rw [Reader.whole, hcondition]
  cases result with
  | error e => rfl
  | ok c =>
    obtain rfl := hrest.resolve_right nofun
    dsimp only [concluded, Except.mapError]
    split <;> rfl

/-- A reader that misses a parenthesis is left in front of the token that is refused. -/
theorem Refuses.rest_whole (h : Refuses maxDepth r t (.error (.missingParen, p)))
    (htakes : Takes maxDepth initial us r) (vs : List Token) (source : String) :
    (Reader.ofTokens (us ++ t :: vs) source).whole.2.tokens = t :: vs := by
  obtain ⟨rest, depth, hcondition, hrest⟩ := h.exists_condition htakes vs source
  rw [Reader.whole, hcondition]
  exact hrest.resolve_right nofun

/-! ## Whole texts -/

/-- `Halts source before r t behind result` says that of the tokens of a text those in front of `t`,
which are `before`, are taken and lead to the reading `r`, and that `r` refuses `t` with
`result`. -/
structure Halts (source : String) (before : List Token) (r : Reading) (t : Token)
    (behind : List Token) (result : Except (Fault × Nat) Condition) : Prop where
  tokens_eq : tokens source = before ++ t :: behind
  takes : Takes maxDepth initial before r
  refuses : Refuses maxDepth r t result

/-- The tokens of every text are taken up to one that is refused. -/
theorem exists_halts (source : String) :
    ∃ before r t behind result, Halts source before r t behind result := by
  have hend : ∃ t ∈ tokens source, t.kind = .endOfInput := by
    obtain ⟨ps, hps⟩ := exists_cut 0 source.toList
    rw [tokens_eq_of_cut hps]
    exact ⟨_, List.mem_append_right _ (.head _), rfl⟩
  obtain ⟨before, t, behind, r, result, htokens, htakes, hrefuses⟩ :=
    exists_takes maxDepth initial hend
  exact ⟨before, r, t, behind, result, htokens, htakes, hrefuses⟩

variable {source : String} {e : ReadError} {before behind : List Token}

/-- What is read of a text is what has been concluded in front of the token that is refused. -/
theorem Halts.read_eq (h : Halts source before r t behind result) :
    Condition.read source =
      (concluded t result).mapError fun (fault, position) => .ofFault fault source position := by
  rw [← h.refuses.whole_eq h.takes behind source, ← h.tokens_eq]
  rfl

/-- A fault of a text is found in front of the token that is refused. -/
theorem Halts.concluded_eq (h : Halts source before r t behind result)
    (he : Condition.read source = .error e) :
    concluded t result = .error (e.fault, e.position) ∧
      e = .ofFault e.fault source e.position := by
  rw [h.read_eq] at he
  cases hconcluded : concluded t result with
  | ok c => rw [hconcluded] at he; cases he
  | error found => rw [hconcluded] at he; cases he; exact ⟨rfl, rfl⟩

end Reading

/-- A fault is reported with the text from its place on. -/
theorem eq_ofFault_of_read {source : String} {e : ReadError}
    (h : Condition.read source = .error e) : e = .ofFault e.fault source e.position := by
  obtain ⟨before, r, t, behind, result, hhalts⟩ := Reading.exists_halts source
  exact (hhalts.concluded_eq h).2

end Screening
