import Mathlib.Algebra.GroupWithZero.Nat
import Screening.Proofs.Condition.Nesting

/-!
# One reader, many conditions

A reader may be called again and again, and every call goes on at the first token that has not been
taken. A call that reads a condition leaves nothing behind but the tokens. A call that ends with a
fault also leaves the negations and parentheses open that it has not come to the end of, and they
are never closed: all later calls have that much less room.

What one call does is said once for every reader. It adds to the depth what it leaves open
(`Reader.depth_condition`), and it does what a new reader in front of the same tokens would do,
unless the new one opens more than there is room for (`Reader.hasRoom_or_tooDeep`). What any number
of calls does follows by induction on their number, and `Reader.condition_after` puts both together.
-/

namespace Screening

namespace Reading

open Pending

variable {room total position : Nat} {r next : Reading} {t : Token} {ts : List Token}
  {outcome : Outcome}

/-! ## How a run ends -/

/-- `Finishes room position r ts outcome` says that a run that has come to the reading `r` ends with
`outcome` in front of the tokens `ts`: none is left, or the first of them is not taken, or there is
no room for what would be open behind it. -/
inductive Finishes (room position : Nat) (r : Reading) : List Token → Outcome → Prop where
  | finish : Finishes room position r [] ⟨r.finish position, [], r.abandoned (r.finish position)⟩
  | stop {t : Token} {ts : List Token} {result : Except (Fault × Nat) Condition}
      (hstep : r.step t = .stop result) :
      Finishes room position r (t :: ts) ⟨result, t :: ts, r.abandoned result⟩
  | tooDeep {t : Token} {ts : List Token} {next : Reading} (hstep : r.step t = .take next)
      (hroom : room < depth next.pending) :
      Finishes room position r (t :: ts) ⟨.error (.tooDeep, t.position), ts, depth next.pending⟩

theorem Finishes.run_eq (h : Finishes room position r ts outcome) :
    run room position r ts = outcome := by
  cases h with
  | finish => rfl
  | stop hstep => simp only [run, hstep]
  | tooDeep hstep hroom => simp only [run, hstep, if_pos hroom]

/-- A run takes tokens up to a place where it ends. -/
theorem exists_finishes (room position : Nat) (r : Reading) (ts : List Token) :
    ∃ us last vs outcome, ts = us ++ vs ∧ Takes room r us last ∧
      Finishes room position last vs outcome := by
  induction ts generalizing r with
  | nil => exact ⟨[], r, [], _, rfl, .nil, .finish⟩
  | cons t ts ih =>
    cases hstep : r.step t with
    | stop result => exact ⟨[], r, t :: ts, _, rfl, .nil, .stop hstep⟩
    | take next =>
      rcases Nat.lt_or_ge room (depth next.pending) with hroom | hroom
      · exact ⟨[], r, t :: ts, _, rfl, .nil, .tooDeep hstep hroom⟩
      · obtain ⟨us, last, vs, outcome, rfl, htakes, hfin⟩ := ih next
        exact ⟨t :: us, last, vs, outcome, rfl, .cons hstep hroom htakes, hfin⟩

/-- What a run leaves over is the end of its tokens. -/
theorem exists_append_rest (room position : Nat) (r : Reading) (ts : List Token) :
    ∃ us, ts = us ++ (run room position r ts).rest := by
  obtain ⟨us, last, vs, outcome, rfl, htakes, hfin⟩ := exists_finishes room position r ts
  rw [htakes.run_append, hfin.run_eq]
  cases hfin with
  | finish | stop => exact ⟨us, rfl⟩
  | @tooDeep t => exact ⟨us ++ [t], by rw [List.append_assoc, List.singleton_append]⟩

/-- A run that takes the first token leaves over the end of the others. -/
theorem exists_append_rest_cons (room position : Nat) (ts : List Token)
    (hstep : r.step t = .take next) : ∃ us, ts = us ++ (run room position r (t :: ts)).rest := by
  rcases Nat.lt_or_ge room (depth next.pending) with hroom | hroom
  · rw [(Finishes.tooDeep hstep hroom).run_eq]
    exact ⟨[], rfl⟩
  · rw [run_cons hstep hroom]
    exact exists_append_rest room position next ts

/-! ## Less room -/

/-- With less room a run ends as it would with more; or more is opened on the way than there is room
for, and it ends at the first token that does so. -/
theorem run_cases_of_le (hle : room ≤ total) (position : Nat) (ts : List Token) :
    (∃ us, ts = us ++ (run total position initial ts).rest ∧
        (∀ vs ∈ us.inits, openDepth vs ≤ room) ∧
        run room position initial ts = run total position initial ts) ∨
      ∃ us t vs, ts = us ++ t :: vs ++ (run total position initial ts).rest ∧
        (∀ ws ∈ us.inits, openDepth ws ≤ room) ∧ room < openDepth (us ++ [t]) ∧
        run room position initial ts = ⟨.error (.tooDeep, t.position),
          vs ++ (run total position initial ts).rest, openDepth (us ++ [t])⟩ := by
  obtain ⟨us, last, vs, outcome, rfl, htakes, hfin⟩ := exists_finishes room position initial ts
  rw [htakes.run_append, (htakes.mono hle).run_append, hfin.run_eq]
  cases hfin with
  | finish => exact .inl ⟨us, rfl, htakes.openDepth_le, rfl⟩
  | stop hstep =>
    rw [(Finishes.stop hstep).run_eq]
    exact .inl ⟨us, rfl, htakes.openDepth_le, rfl⟩
  | @tooDeep t ts next hstep hroom =>
    obtain ⟨vs, hvs⟩ := exists_append_rest_cons total position ts hstep
    have hdepth := htakes.openDepth_concat hstep
    refine .inr ⟨us, t, vs, ?_, htakes.openDepth_le, hdepth ▸ hroom, ?_⟩
    · rw [List.append_assoc, List.cons_append, ← hvs]
    · rw [hdepth, ← hvs]

/-! ## Faults that are no lack of room -/

theorem ne_tooDeep_of_step {result : Except (Fault × Nat) Condition}
    (h : r.step t = .stop result) (p : Nat) : result ≠ .error (.tooDeep, p) := by
  rintro rfl
  cases stops_of_step h with
  | left hop | right hop => exact (ne_of_operand hop).2 rfl
  | complete hc => cases (exists_group_of_conclude hc).1

theorem finish_ne_tooDeep (r : Reading) (position p : Nat) :
    r.finish position ≠ .error (.tooDeep, p) := by
  intro h
  unfold finish at h
  split at h
  case h_4 => cases (exists_group_of_conclude h).1
  all_goals cases h

end Reading

/-! ## One call -/

/-- How much of what stands open a call leaves open that ends with `result`. A parenthesis that is
found not to be closed counts no more. -/
def unclosed (result : Except ReadError Condition) (depth : Nat) : Nat :=
  match result with
  | .error ⟨.missingParen, _, _⟩ => depth - 1
  | _ => depth

theorem Reading.abandoned_eq (r : Reading) (result : Except (Fault × Nat) Condition)
    (source : String) :
    r.abandoned result =
      unclosed (result.mapError fun (fault, position) => .ofFault fault source position)
        (Pending.depth r.pending) := by
  rcases result with ⟨fault, position⟩ | c
  · cases fault <;> rfl
  · rfl

/-- An error that is reported is a fault that has been found. -/
theorem eq_error_of_mapError {result : Except (Fault × Nat) Condition} {source : String}
    {e : ReadError}
    (h : (result.mapError fun (fault, position) => ReadError.ofFault fault source position) =
      .error e) : result = .error (e.fault, e.position) := by
  cases result with
  | error found => cases h; rfl
  | ok c => cases h

namespace Reader

open Reading

variable {r : Reader} {us : List Token} {c : Condition} {e : ReadError}

/-- The tokens that a call takes. -/
def taken (r : Reader) : List Token :=
  r.tokens.take (r.tokens.length - r.condition.2.tokens.length)

/-- How many negations and parentheses a call leaves open. -/
def leftOpen (r : Reader) : Nat := unclosed r.condition.1 (openDepth r.taken)

/-- A new reader in front of the tokens that have not been taken. -/
def fresh (r : Reader) : Reader := ofTokens r.tokens r.source

/-- There is room for all that a new reader in front of the same tokens opens. -/
def HasRoom (r : Reader) : Prop :=
  ∀ ts ∈ r.fresh.taken.inits, openDepth ts ≤ maxDepth - r.depth

instance (r : Reader) : Decidable r.HasRoom :=
  inferInstanceAs (Decidable (∀ ts ∈ r.fresh.taken.inits, openDepth ts ≤ maxDepth - r.depth))

theorem taken_eq (h : r.tokens = us ++ r.condition.2.tokens) : r.taken = us := by
  rw [taken, h, List.length_append, Nat.add_sub_cancel, List.take_left]

/-- A call takes tokens and leaves the others. -/
theorem taken_append (r : Reader) : r.taken ++ r.condition.2.tokens = r.tokens := by
  obtain ⟨us, hus⟩ := exists_append_rest (maxDepth - r.depth) r.source.length initial r.tokens
  rw [taken_eq hus]
  exact hus.symm

/-- **What one call does.** It ends with a result other than that there is no room, and adds to the
depth what the reading that it has come to abandons; or there is no room for the last token that it
has taken, and it adds all that is open behind that token. -/
theorem condition_cases (r : Reader) :
    (∃ (last : Reading) (result : Except (Fault × Nat) Condition),
        openDepth r.taken = Pending.depth last.pending ∧ (∀ p, result ≠ .error (.tooDeep, p)) ∧
        r.condition.1 =
          result.mapError (fun (fault, position) => .ofFault fault r.source position) ∧
        r.condition.2.depth = r.depth + last.abandoned result) ∨
      ∃ t : Token, maxDepth - r.depth < openDepth r.taken ∧
        r.condition.1 = .error (.ofFault .tooDeep r.source t.position) ∧
        r.condition.2.depth = r.depth + openDepth r.taken := by
  obtain ⟨us, last, vs, outcome, htokens, htakes, hfin⟩ :=
    exists_finishes (maxDepth - r.depth) r.source.length initial r.tokens
  have hcondition : r.condition =
      (outcome.result.mapError fun (fault, position) => .ofFault fault r.source position,
        ⟨outcome.rest, r.depth + outcome.opened, r.source⟩) := by
    rw [condition, htokens, htakes.run_append, hfin.run_eq]
  cases hfin with
  | finish =>
    have htaken : r.taken = us := taken_eq (by rw [hcondition]; exact htokens)
    rw [htaken, hcondition]
    exact .inl ⟨last, _, htakes.openDepth_eq, finish_ne_tooDeep last _, rfl, rfl⟩
  | stop hstep =>
    have htaken : r.taken = us := taken_eq (by rw [hcondition]; exact htokens)
    rw [htaken, hcondition]
    exact .inl ⟨last, _, htakes.openDepth_eq, ne_tooDeep_of_step hstep, rfl, rfl⟩
  | @tooDeep t ts next hstep hroom =>
    have htaken : r.taken = us ++ [t] := taken_eq (by
      rw [hcondition, List.append_assoc]
      exact htokens)
    rw [htaken, hcondition, htakes.openDepth_concat hstep]
    exact .inr ⟨t, hroom, rfl, rfl⟩

/-- A call adds to the depth what it leaves open. -/
theorem depth_condition (r : Reader) : r.condition.2.depth = r.depth + r.leftOpen := by
  rcases r.condition_cases with ⟨last, result, hopen, -, hresult, hdepth⟩ | ⟨t, -, hresult, hdepth⟩
  · rw [hdepth, abandoned_eq last result r.source, leftOpen, hresult, hopen]
  · rw [hdepth, leftOpen, hresult]
    rfl

/-- A call that reads a condition leaves nothing open. -/
theorem leftOpen_of_ok (h : r.condition.1 = .ok c) : r.leftOpen = 0 := by
  have hresult :
      (run (maxDepth - r.depth) r.source.length initial r.tokens).result = .ok c := by
    simp only [condition] at h
    cases hrun : (run (maxDepth - r.depth) r.source.length initial r.tokens).result with
    | error e =>
      rw [hrun] at h
      cases h
    | ok d =>
      rw [hrun] at h
      cases h
      rfl
  have hfit : Fits (maxDepth - r.depth) (maxDepth - r.depth) initial.pending := rfl
  obtain ⟨us, htokens, hd⟩ := derives_of_run (.start .nil) hfit hresult
  have htaken : r.taken = us := taken_eq htokens
  rw [List.nil_append] at hd
  rw [leftOpen, h, htaken, hd.openDepth_eq]
  rfl

/-- A call that has no room for a token has taken it. -/
theorem lt_openDepth_of_tooDeep (h : r.condition.1 = .error e) (he : e.fault = .tooDeep) :
    maxDepth - r.depth < openDepth r.taken := by
  rcases r.condition_cases with ⟨last, result, -, hne, hresult, -⟩ | ⟨t, hroom, -, -⟩
  · have hfound := eq_error_of_mapError (hresult.symm.trans h)
    exact absurd (he ▸ hfound) (hne e.position)
  · exact hroom

/-- **A call with room for it does what a new reader does.** Otherwise it ends at the first token
that opens more than there is room for. -/
theorem hasRoom_or_tooDeep (r : Reader) :
    (r.HasRoom ∧ r.condition.1 = r.fresh.condition.1 ∧
        r.condition.2.tokens = r.fresh.condition.2.tokens) ∨
      ∃ us t vs, r.fresh.taken = us ++ t :: vs ∧
        (∀ ts ∈ us.inits, openDepth ts ≤ maxDepth - r.depth) ∧
        maxDepth - r.depth < openDepth (us ++ [t]) ∧
        r.condition = (.error (.ofFault .tooDeep r.source t.position),
          ⟨vs ++ r.fresh.condition.2.tokens, r.depth + openDepth (us ++ [t]), r.source⟩) := by
  rcases run_cases_of_le (Nat.sub_le maxDepth r.depth) r.source.length r.tokens with
    ⟨us, htokens, hroom, hrun⟩ | ⟨us, t, vs, htokens, hroom, hdeep, hrun⟩
  · have htaken : r.fresh.taken = us := taken_eq htokens
    refine .inl ⟨?_, ?_, ?_⟩
    · rw [HasRoom, htaken]
      exact hroom
    · simp only [condition, hrun]
      rfl
    · simp only [condition, hrun]
      rfl
  · refine .inr ⟨us, t, vs, taken_eq htokens, hroom, hdeep, ?_⟩
    simp only [condition, hrun]
    rfl

/-- A call does what a new reader does exactly if nothing has been left open or there is room. -/
theorem condition_eq_fresh_iff (r : Reader) :
    r.condition.1 = r.fresh.condition.1 ∧
        r.condition.2.tokens = r.fresh.condition.2.tokens ↔ r.depth = 0 ∨ r.HasRoom := by
  constructor
  · rintro ⟨hresult, hrest⟩
    rcases r.hasRoom_or_tooDeep with ⟨hroom, -, -⟩ | ⟨us, t, vs, htaken, hroom, hdeep, hcondition⟩
    · exact .inr hroom
    · rw [hcondition] at hresult hrest
      obtain rfl : vs = [] := List.append_left_eq_self.1 hrest
      -- the new reader has no room for `t` either, and `t` opens one negation or parenthesis
      have hfresh : maxDepth < openDepth (us ++ [t]) :=
        htaken ▸ lt_openDepth_of_tooDeep hresult.symm rfl
      have hstep := openDepth_concat_le us t
      have hbefore := hroom us ((List.mem_inits us us).2 (List.prefix_refl us))
      have hpos : 0 < maxDepth := by decide
      exact .inl (by omega)
  · rintro (hdepth | hroom)
    · have hfresh : r.fresh = r := by
        rw [fresh, ofTokens, ← hdepth]
      rw [hfresh]
      exact ⟨rfl, rfl⟩
    · rcases r.hasRoom_or_tooDeep with ⟨-, hsame⟩ | ⟨us, t, vs, htaken, -, hdeep, -⟩
      · exact hsame
      · have hmem : us ++ [t] ∈ r.fresh.taken.inits := by
          rw [htaken, List.mem_inits]
          exact ⟨vs, by rw [List.append_assoc, List.singleton_append]⟩
        exact absurd (hroom _ hmem) (Nat.not_le.2 hdeep)

/-! ## Many calls -/

/-- The reader after `n` calls. -/
def after (r : Reader) : Nat → Reader
  | 0 => r
  | n + 1 => (r.after n).condition.2

theorem source_after (r : Reader) (n : Nat) : (r.after n).source = r.source := by
  induction n with
  | zero => rfl
  | succ n ih => exact ih

/-- Every call goes on where the one before has stopped. -/
theorem taken_after_append (r : Reader) (n : Nat) :
    ((List.range n).flatMap fun k => (r.after k).taken) ++ (r.after n).tokens = r.tokens := by
  induction n with
  | zero => rfl
  | succ n ih =>
    rw [List.range_succ, List.flatMap_append, List.flatMap_singleton, List.append_assoc, after,
      taken_append, ih]

/-- What calls leave open adds up. -/
theorem depth_after (r : Reader) (n : Nat) :
    (r.after n).depth = r.depth + ((List.range n).map fun k => (r.after k).leftOpen).sum := by
  induction n with
  | zero => rfl
  | succ n ih =>
    rw [List.range_succ, List.map_append, List.sum_append, List.map_singleton, List.sum_singleton,
      ← Nat.add_assoc, ← ih, after, depth_condition]

/-- **What calls leave behind.** Whatever tokens a reader is given and however often it has been
called, it stands in front of those that no call has taken, and as deep as all calls together have
left open. A call adds what it leaves open itself, which is nothing if it reads a condition. It
gives the result of a new reader in front of the same tokens, and stops where that one does, exactly
if nothing has been left open or there is room for all that is opened on the way. Otherwise it ends
at the first token that opens more than there is room for. -/
theorem condition_after (ts : List Token) (source : String) (n : Nat) :
    let first := ofTokens ts source
    let r := first.after n
    ts = ((List.range n).flatMap fun k => (first.after k).taken) ++ r.tokens ∧
      r.source = source ∧
      r.depth = ((List.range n).map fun k => (first.after k).leftOpen).sum ∧
      r.condition.2.depth = r.depth + r.leftOpen ∧
      (∀ c, r.condition.1 = .ok c → r.leftOpen = 0) ∧
      (r.condition.1 = r.fresh.condition.1 ∧
        r.condition.2.tokens = r.fresh.condition.2.tokens ↔ r.depth = 0 ∨ r.HasRoom) ∧
      (r.HasRoom ∨ ∃ us t vs, r.fresh.taken = us ++ t :: vs ∧
        (∀ before ∈ us.inits, openDepth before ≤ maxDepth - r.depth) ∧
        maxDepth - r.depth < openDepth (us ++ [t]) ∧
        r.condition = (.error (.ofFault .tooDeep source t.position),
          ⟨vs ++ r.fresh.condition.2.tokens, r.depth + openDepth (us ++ [t]), source⟩)) := by
  intro first r
  have hsource : r.source = source := source_after first n
  have hdepth := depth_after first n
  refine ⟨(taken_after_append first n).symm, hsource, ?_, r.depth_condition,
    fun c => leftOpen_of_ok, r.condition_eq_fresh_iff, ?_⟩
  · rwa [show first.depth = 0 from rfl, Nat.zero_add] at hdepth
  · rw [← hsource]
    exact r.hasRoom_or_tooDeep.imp_left And.left

/-- A first call leaves a negation and a parenthesis open. A second one misses a parenthesis, which
counts no more. A third one reads a condition as a new reader does. -/
theorem condition_after_missing_paren :
    let source := "not (a (b = 'x' c = 'y'"
    let r := (ofTokens (Screening.tokens source) source).after 2
    r.depth = 2 ∧ r.condition.2.depth = 2 ∧ r.condition.1 = r.fresh.condition.1 ∧
      r.condition.1 = .ok (.compare ⟨.equal, .field "c" 16, .literal (.text "y") 20, 18⟩) := by
  intro source r
  obtain ⟨-, -, hdepth, hadds, hnothing, hsame, -⟩ :=
    condition_after (Screening.tokens source) source 2
  have hleft : (List.range 2).map
      (fun k => ((ofTokens (Screening.tokens source) source).after k).leftOpen) = [2, 0] := by
    decide +kernel
  have hroom : r.HasRoom := by decide +kernel
  have hok : r.condition.1 =
      .ok (.compare ⟨.equal, .field "c" 16, .literal (.text "y") 20, 18⟩) := by
    decide +kernel
  rw [hleft] at hdepth
  exact ⟨hdepth, by rw [hadds, hdepth, hnothing _ hok]; rfl, (hsame.2 (.inr hroom)).1, hok⟩

/-- What a failed call leaves open is missing from the room of the next one: behind as many open
parentheses as there may be, a condition in one pair of parentheses is refused as too deep. -/
theorem condition_ne_fresh :
    let source := String.ofList (List.replicate maxDepth '(') ++ "a (b = 'x')"
    let r := (ofTokens (Screening.tokens source) source).after 1
    r.depth = maxDepth ∧ r.condition.1 = .error (.ofFault .tooDeep source 66) ∧
      r.fresh.condition.1 =
        .ok (.compare ⟨.equal, .field "b" 67, .literal (.text "x") 71, 69⟩) := by
  decide +kernel

end Reader

end Screening
