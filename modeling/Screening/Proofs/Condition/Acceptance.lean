import Screening.Proofs.Condition.Grammar
import Screening.Proofs.Token.Cut

/-!
# What the reader accepts

The reader takes tokens one by one and keeps what stands open on a stack, while the grammar is
written over whole lists. The two are joined from both sides.

From the grammar to the reader, `run_of_derives` follows a derivation: whatever stands open in
front of its tokens, a run through them ends where the condition has been read and the same
things stand open.

From the reader to the grammar, `Explains` says how the tokens that have been taken account for a
reading: each part of the stack by the tokens of its left side and its keyword, the stage by the
tokens of what is being read. What a step can do is said once, by `Advances` and `Stops`.
`Explains.step` keeps the account for one token and `derives_of_run` for a whole run, and where a
run stops with a condition nothing but a derivation is left.
-/

namespace Screening

namespace Reading

open Pending

variable {room total position n : Nat} {r next : Reading} {t : Token} {ts us rest : List Token}
  {c : Condition} {pending : List Pending}

/-! ## One step -/

/-- `Advances t r next` says that the reading `r` takes the token `t` and becomes `next`. -/
inductive Advances (t : Token) : Reading → Reading → Prop where
  | negation {pending : List Pending} (hk : t.kind = .not) :
      Advances t ⟨.start, pending⟩ ⟨.start, .negation t.position :: pending⟩
  | group {pending : List Pending} (hk : t.kind = .leftParen) :
      Advances t ⟨.start, pending⟩ ⟨.start, .group t.position :: pending⟩
  | left {pending : List Pending} {l : Operand} (hl : IsOperand t l) :
      Advances t ⟨.start, pending⟩ ⟨.relation l, pending⟩
  | relation {pending : List Pending} {l : Operand} {rel : Relation} (hrel : IsRelation t rel) :
      Advances t ⟨.relation l, pending⟩ ⟨.right l rel t.position, pending⟩
  | right {pending : List Pending} {l o : Operand} {rel : Relation} {position : Nat}
      (ho : IsOperand t o) : Advances t ⟨.right l rel position, pending⟩
        (Reading.completed (.compare ⟨rel, l, o, position⟩) pending)
  | conjunction {pending : List Pending} {c : Condition} (hk : t.kind = .and) :
      Advances t ⟨.complete c, pending⟩ ⟨.start, .conjunction c t.position :: pending⟩
  | disjunction {pending : List Pending} {c : Condition} (hk : t.kind = .or) :
      Advances t ⟨.complete c, pending⟩ ⟨.start,
        .disjunction (closeDisjunction c pending).1 t.position ::
          (closeDisjunction c pending).2⟩
  | closing {pending pending' : List Pending} {c d : Condition} {position : Nat}
      (hk : t.kind = .rightParen)
      (hclose : closeDisjunction c pending = (d, .group position :: pending')) :
      Advances t ⟨.complete c, pending⟩ (Reading.completed d pending')

/-- `Stops t r result` says that the reading `r` stops in front of the token `t` with `result`. -/
inductive Stops (t : Token) : Reading → Except (Fault × Nat) Condition → Prop where
  | left {pending : List Pending} {f : Fault} (hop : operand t = .error f) :
      Stops t ⟨.start, pending⟩ (.error (f, t.position))
  | relation {pending : List Pending} {l : Operand} :
      Stops t ⟨.relation l, pending⟩ (.error (.expectedRelation, t.position))
  | right {pending : List Pending} {l : Operand} {rel : Relation} {position : Nat} {f : Fault}
      (hop : operand t = .error f) :
      Stops t ⟨.right l rel position, pending⟩ (.error (f, t.position))
  | complete {pending : List Pending} {c : Condition} {result : Except (Fault × Nat) Condition}
      (hc : Reading.conclude c pending = result) : Stops t ⟨.complete c, pending⟩ result

/-- A step takes a token in one of these ways, or stops in front of it in one of those. -/
theorem step_cases (r : Reading) (t : Token) :
    (∃ next, r.step t = .take next ∧ Advances t r next) ∨
      ∃ result, r.step t = .stop result ∧ Stops t r result := by
  obtain ⟨stage, pending⟩ := r
  cases stage with
  | start =>
    simp only [step]
    split
    · next hk => exact .inl ⟨_, rfl, .negation hk⟩
    · next hk => exact .inl ⟨_, rfl, .group hk⟩
    · split
      · next hop => exact .inl ⟨_, rfl, .left (operand_eq_ok_iff.1 hop)⟩
      · next hop => exact .inr ⟨_, rfl, .left hop⟩
  | relation =>
    simp only [step]
    split
    · next hrel => exact .inl ⟨_, rfl, .relation (relation?_eq_some_iff.1 hrel)⟩
    · exact .inr ⟨_, rfl, .relation⟩
  | right =>
    simp only [step]
    split
    · next hop => exact .inl ⟨_, rfl, .right (operand_eq_ok_iff.1 hop)⟩
    · next hop => exact .inr ⟨_, rfl, .right hop⟩
  | complete =>
    simp only [step]
    split
    · next hk => exact .inl ⟨_, rfl, .conjunction hk⟩
    · next hk => exact .inl ⟨_, rfl, .disjunction hk⟩
    · next hk =>
      split
      · next hclose => exact .inl ⟨_, rfl, .closing hk hclose⟩
      · exact .inr ⟨_, rfl, .complete rfl⟩
    · exact .inr ⟨_, rfl, .complete rfl⟩

theorem advances_of_step (h : r.step t = .take next) : Advances t r next := by
  obtain ⟨next', hstep, hadvances⟩ | ⟨result, hstep, -⟩ := step_cases r t
  · cases h.symm.trans hstep
    exact hadvances
  · cases h.symm.trans hstep

theorem stops_of_step {result : Except (Fault × Nat) Condition} (h : r.step t = .stop result) :
    Stops t r result := by
  obtain ⟨next, hstep, -⟩ | ⟨result', hstep, hstops⟩ := step_cases r t
  · cases h.symm.trans hstep
  · cases h.symm.trans hstep
    exact hstops

/-! ## From the grammar to the reader -/

/-- What may stand open in front of a category: nothing that would take a part of it for itself. -/
def Admits : Category → List Pending → Prop
  | .unary, _ | .primary, _ => True
  | .conjunction, .negation _ :: _ | .conjunction, .conjunction .. :: _ => False
  | .conjunction, _ => True
  | .disjunction, [] | .disjunction, .group _ :: _ => True
  | .disjunction, _ => False

/-- Where the reader stands when it has read the condition `c` of a category. The last conjunction
of a disjunction is given to the disjunction only when the next token has been seen. -/
def Reached (c : Condition) (pending : List Pending) : Category → Reading → Prop
  | .unary, r | .primary, r => r = completed c pending
  | .conjunction, r => r = ⟨.complete c, pending⟩
  | .disjunction, r => ∃ d rest, r = ⟨.complete d, rest⟩ ∧ closeDisjunction d rest = (c, pending)

theorem Admits.conjunction (h : Admits .disjunction pending) : Admits .conjunction pending := by
  rcases pending with _ | ⟨_ | _ | _ | _, _⟩ <;> trivial

theorem completed_of_admits (h : Admits .conjunction pending) :
    completed c pending = ⟨.complete c, pending⟩ := by
  rcases pending with _ | ⟨_ | _ | _ | _, _⟩
  case cons.negation | cons.conjunction => exact h.elim
  all_goals rfl

theorem closeDisjunction_of_admits (h : Admits .disjunction pending) :
    closeDisjunction c pending = (c, pending) := by
  rcases pending with _ | ⟨_ | _ | _ | _, _⟩
  case cons.negation | cons.conjunction | cons.disjunction => exact h.elim
  all_goals rfl

/-- Giving a condition to what waits for it never leaves more open. -/
theorem depth_closeUnary_le (c : Condition) (pending : List Pending) :
    depth (closeUnary c pending).2 ≤ depth pending := by
  fun_induction closeUnary c pending with
  | case1 c _ rest ih => exact Nat.le_succ_of_le ih
  | case2 => exact Nat.le_refl _
  | case3 => exact Nat.le_refl _

@[simp] theorem depth_closeDisjunction (c : Condition) (pending : List Pending) :
    depth (closeDisjunction c pending).2 = depth pending := by
  fun_cases closeDisjunction c pending <;> rfl

/-- A run takes a token that the step takes, if there is room for what stands open behind it. -/
theorem run_cons (h : r.step t = .take next) (hroom : depth next.pending ≤ room) :
    run room position r (t :: rest) = run room position next rest := by
  simp only [run, h, Nat.not_lt.2 hroom, if_false]

theorem step_start_operand {o : Operand} (h : IsOperand t o) :
    step ⟨.start, pending⟩ t = .take ⟨.relation o, pending⟩ := by
  have ho := operand_eq_ok_iff.2 h
  cases h with
  | field hk | number hk | text hk => simp only [step, hk, ho]

/-- A run through the tokens of a derivation reads its condition, whatever stands open in front of
them and whatever comes behind. -/
theorem run_of_derives {k : Category} (h : Derives k n ts c) :
    ∀ (pending : List Pending) (rest : List Token), Admits k pending →
      n + depth pending ≤ room → ∃ next, Reached c pending k next ∧
        run room position ⟨.start, pending⟩ (ts ++ rest) = run room position next rest := by
  induction h with
  | @conjunction n ts c _ ih =>
    intro pending rest hadm hroom
    obtain ⟨_, rfl, hrun⟩ := ih pending rest hadm.conjunction hroom
    exact ⟨_, ⟨c, pending, rfl, closeDisjunction_of_admits hadm⟩, hrun⟩
  | @or n ts us t c d _ hk _ ihl ihr =>
    intro pending rest hadm hroom
    obtain ⟨_, ⟨c', pending', rfl, hclose⟩, hrun⟩ := ihl pending (t :: (us ++ rest)) hadm hroom
    have hstep : step ⟨.complete c', pending'⟩ t =
        .take ⟨.start, .disjunction c t.position :: pending⟩ := by simp only [step, hk, hclose]
    obtain ⟨_, rfl, hrun'⟩ := ihr (.disjunction c t.position :: pending) rest trivial hroom
    refine ⟨_, ⟨d, .disjunction c t.position :: pending, rfl, rfl⟩, ?_⟩
    rw [List.append_assoc, List.cons_append, hrun, run_cons hstep (Nat.le_of_add_left_le hroom),
      hrun']
  | unary _ ih =>
    intro pending rest hadm hroom
    obtain ⟨_, rfl, hrun⟩ := ih pending rest trivial hroom
    exact ⟨_, completed_of_admits hadm, hrun⟩
  | @and n ts us t c d _ hk _ ihl ihr =>
    intro pending rest hadm hroom
    obtain ⟨_, rfl, hrun⟩ := ihl pending (t :: (us ++ rest)) hadm hroom
    have hstep : step ⟨.complete c, pending⟩ t =
        .take ⟨.start, .conjunction c t.position :: pending⟩ := by simp only [step, hk]
    obtain ⟨_, rfl, hrun'⟩ := ihr (.conjunction c t.position :: pending) rest trivial hroom
    refine ⟨_, rfl, ?_⟩
    rw [List.append_assoc, List.cons_append, hrun, run_cons hstep (Nat.le_of_add_left_le hroom),
      hrun']
    rfl
  | primary _ ih => exact ih
  | @not n ts t c hk _ ih =>
    intro pending rest hadm hroom
    have hstep : step ⟨.start, pending⟩ t = .take ⟨.start, .negation t.position :: pending⟩ := by
      simp only [step, hk]
    obtain ⟨_, rfl, hrun⟩ := ih (.negation t.position :: pending) rest trivial
      (by simp only [depth]; omega)
    exact ⟨_, rfl, (run_cons hstep (by simp only [depth]; omega)).trans hrun⟩
  | @group n ts t u c hk _ hu ih =>
    intro pending rest hadm hroom
    have hstep : step ⟨.start, pending⟩ t = .take ⟨.start, .group t.position :: pending⟩ := by
      simp only [step, hk]
    obtain ⟨_, ⟨c', pending', rfl, hclose⟩, hrun⟩ :=
      ih (.group t.position :: pending) (u :: rest) trivial (by simp only [depth]; omega)
    have hstep' : step ⟨.complete c', pending'⟩ u = .take (completed c pending) := by
      simp only [step, hu, hclose]
    refine ⟨_, rfl, ?_⟩
    rw [List.cons_append, List.append_assoc, List.singleton_append,
      run_cons hstep (by simp only [depth]; omega), hrun, run_cons hstep']
    have := depth_closeUnary_le c pending
    simp only [completed]
    omega
  | @compare n t o u l r rel hl ho hr =>
    intro pending rest hadm hroom
    have hstep : step ⟨.relation l, pending⟩ o = .take ⟨.right l rel o.position, pending⟩ := by
      simp only [step, relation?_eq_some_iff.2 ho]
    have hstep' : step ⟨.right l rel o.position, pending⟩ u =
        .take (completed (.compare ⟨rel, l, r, o.position⟩) pending) := by
      simp only [step, operand_eq_ok_iff.2 hr]
    have hdepth := Nat.le_of_add_left_le hroom
    refine ⟨_, rfl, ?_⟩
    rw [List.cons_append, List.cons_append, List.cons_append, List.nil_append,
      run_cons (step_start_operand hl) hdepth, run_cons hstep hdepth, run_cons hstep']
    exact Nat.le_trans (depth_closeUnary_le _ _) hdepth

/-! ## From the reader to the grammar -/

/-- `Opened room pending us` says that the tokens `us` open what stands on the stack `pending` and
that `room` negations and parentheses may still be opened behind them. -/
inductive Opened : Nat → List Pending → List Token → Prop where
  | nil {room : Nat} : Opened room [] []
  | negation {room : Nat} {pending : List Pending} {us : List Token} {t : Token}
      (h : Opened (room + 1) pending us) (hk : t.kind = .not) :
      Opened room (.negation t.position :: pending) (us ++ [t])
  | group {room : Nat} {pending : List Pending} {us : List Token} {t : Token}
      (h : Opened (room + 1) pending us) (hk : t.kind = .leftParen) :
      Opened room (.group t.position :: pending) (us ++ [t])
  | conjunction {room : Nat} {pending : List Pending} {us ts : List Token} {t : Token}
      {c : Condition} (h : Opened room pending us) (hadm : Admits .conjunction pending)
      (hl : Derives .conjunction room ts c) (hk : t.kind = .and) :
      Opened room (.conjunction c t.position :: pending) (us ++ (ts ++ [t]))
  | disjunction {room : Nat} {pending : List Pending} {us ts : List Token} {t : Token}
      {c : Condition} (h : Opened room pending us) (hadm : Admits .disjunction pending)
      (hl : Derives .disjunction room ts c) (hk : t.kind = .or) :
      Opened room (.disjunction c t.position :: pending) (us ++ (ts ++ [t]))

/-- `Explains room r us` says that the tokens `us` lead to the reading `r`, with room for `room`
more open negations and parentheses. -/
inductive Explains : Nat → Reading → List Token → Prop where
  | start {room : Nat} {pending : List Pending} {us : List Token} (h : Opened room pending us) :
      Explains room ⟨.start, pending⟩ us
  | relation {room : Nat} {pending : List Pending} {us : List Token} {t : Token} {l : Operand}
      (h : Opened room pending us) (hl : IsOperand t l) :
      Explains room ⟨.relation l, pending⟩ (us ++ [t])
  | right {room : Nat} {pending : List Pending} {us : List Token} {t o : Token} {l : Operand}
      {rel : Relation} (h : Opened room pending us) (hl : IsOperand t l) (ho : IsRelation o rel) :
      Explains room ⟨.right l rel o.position, pending⟩ (us ++ [t, o])
  | complete {room : Nat} {pending : List Pending} {us ts : List Token} {c : Condition}
      (h : Opened room pending us) (hadm : Admits .conjunction pending)
      (hc : Derives .conjunction room ts c) : Explains room ⟨.complete c, pending⟩ (us ++ ts)

/-- What stands open takes as much room as the stack is deep. -/
def Fits (total room : Nat) (pending : List Pending) : Prop := room + depth pending = total

/-- Where the stack may grow deeper there is room left. -/
theorem Fits.exists_succ (h : Fits total room pending) (hroom : depth pending + 1 ≤ total) :
    ∃ m, room = m + 1 ∧ m + (depth pending + 1) = total := by
  unfold Fits at h
  exact ⟨room - 1, by omega, by omega⟩

/-- A unary condition that has been read is given to the negations and to the conjunction that wait
for it, and its tokens with it. -/
theorem Explains.completed (h : Derives .unary room ts c) (ho : Opened room pending us)
    (hfit : Fits total room pending) :
    ∃ room', Explains room' (completed c pending) (us ++ ts) ∧
      Fits total room' (Reading.completed c pending).pending := by
  induction ho generalizing ts c with
  | nil => exact ⟨_, .complete .nil trivial (.unary h), hfit⟩
  | @negation room pending us t ho hk ih =>
    obtain ⟨room', he, hf⟩ := ih (.not hk h) (by simp only [Fits, depth] at hfit ⊢; omega)
    rw [List.append_assoc]
    exact ⟨room', he, hf⟩
  | group ho hk => exact ⟨_, .complete (.group ho hk) trivial (.unary h), hfit⟩
  | @conjunction room pending us ls t d ho hadm hl hk =>
    have he := Explains.complete ho hadm (.and hl hk h)
    rw [List.append_assoc, List.append_assoc]
    exact ⟨room, he, hfit⟩
  | disjunction ho hadm hl hk =>
    exact ⟨_, .complete (.disjunction ho hadm hl hk) trivial (.unary h), hfit⟩

/-- A conjunction that has been read is given to the disjunction that waits for it. -/
theorem Opened.closeDisjunction (ho : Opened room pending us) (hadm : Admits .conjunction pending)
    (h : Derives .conjunction room ts c) :
    ∃ us' ts', us ++ ts = us' ++ ts' ∧ Opened room (closeDisjunction c pending).2 us' ∧
      Admits .disjunction (closeDisjunction c pending).2 ∧
      Derives .disjunction room ts' (closeDisjunction c pending).1 := by
  cases ho with
  | nil => exact ⟨_, _, rfl, .nil, trivial, .conjunction h⟩
  | negation | conjunction => exact hadm.elim
  | group ho hk => exact ⟨_, _, rfl, .group ho hk, trivial, .conjunction h⟩
  | @disjunction _ pending us ls t d ho hadm' hl hk =>
    exact ⟨us, ls ++ t :: ts, by simp only [List.append_assoc, List.singleton_append], ho, hadm',
      .or hl hk h⟩

/-- A closing parenthesis makes the disjunction in front of it a unary condition. -/
theorem Explains.closeGroup {pending' : List Pending} {d : Condition} (hk : t.kind = .rightParen)
    (h : Derives .conjunction room ts c) (ho : Opened room pending us)
    (hadm : Admits .conjunction pending) (hfit : Fits total room pending)
    (hclose : closeDisjunction c pending = (d, .group position :: pending')) :
    ∃ room', Explains room' (Reading.completed d pending') (us ++ ts ++ [t]) ∧
      Fits total room' (Reading.completed d pending').pending := by
  obtain ⟨us', ts', heq, ho', -, hd⟩ := ho.closeDisjunction hadm h
  have hdepth := depth_closeDisjunction c pending
  rw [hclose] at ho' hd hdepth
  cases ho' with
  | group ho' hk' =>
    have hfit' : Fits total (room + 1) pending' := by
      simp only [Fits, depth] at hfit hdepth ⊢
      omega
    have he := Explains.completed (.primary (.group hk' hd hk)) ho' hfit'
    simpa only [heq, List.append_assoc, List.singleton_append, List.cons_append,
      List.nil_append] using he

/-- A step that takes a token keeps the account of the tokens that have been taken. -/
theorem Explains.step (h : Explains room r us) (hstep : r.step t = .take next)
    (hfit : Fits total room r.pending) (hroom : depth next.pending ≤ total) :
    ∃ room', Explains room' next (us ++ [t]) ∧ Fits total room' next.pending := by
  cases h with
  | @start pending us ho =>
    cases advances_of_step hstep with
    | negation hk =>
      obtain ⟨room, rfl, hfit'⟩ := hfit.exists_succ hroom
      exact ⟨room, .start (.negation ho hk), hfit'⟩
    | group hk =>
      obtain ⟨room, rfl, hfit'⟩ := hfit.exists_succ hroom
      exact ⟨room, .start (.group ho hk), hfit'⟩
    | left hl => exact ⟨room, .relation ho hl, hfit⟩
  | @relation pending us t' l ho hl =>
    cases advances_of_step hstep with
    | relation hrel =>
      rw [List.append_assoc]
      exact ⟨room, .right ho hl hrel, hfit⟩
  | @right pending us t' o l rel ho hl hrel =>
    cases advances_of_step hstep with
    | right hr =>
      rw [List.append_assoc]
      exact Explains.completed (.primary (.compare hl hrel hr)) ho hfit
  | @complete pending us ts c ho hadm hc =>
    cases advances_of_step hstep with
    | conjunction hk =>
      rw [List.append_assoc]
      exact ⟨room, .start (.conjunction ho hadm hc hk), hfit⟩
    | disjunction hk =>
      obtain ⟨us', ts', heq, ho', hadm', hd⟩ := ho.closeDisjunction hadm hc
      rw [heq, List.append_assoc]
      refine ⟨room, .start (.disjunction ho' hadm' hd hk), ?_⟩
      simpa only [Fits, depth, depth_closeDisjunction] using hfit
    | closing hk hclose => exact Explains.closeGroup hk hc ho hadm hfit hclose

/-- A reading that may end has read a disjunction, and nothing stands open in front of it. -/
theorem Explains.conclude (h : Explains room r us) (hfit : Fits total room r.pending)
    {d : Condition} (hstage : r.stage = .complete d) (hc : conclude d r.pending = .ok c) :
    Derives .disjunction total us c := by
  cases h with
  | start | relation | right => cases hstage
  | @complete pending us ts d' ho hadm hd =>
    cases hstage
    obtain ⟨us', ts', heq, ho', hadm', hd'⟩ := ho.closeDisjunction hadm hd
    have hdepth := depth_closeDisjunction d pending
    unfold Reading.conclude at hc
    split at hc
    · cases hc
    · next d' pending' hnot hclose =>
      cases hc
      rw [hclose] at ho' hadm' hd' hdepth
      cases ho' with
      | nil =>
        rw [heq, List.nil_append]
        simp only [Fits, depth] at hfit hdepth
        exact hd'.mono (by omega)
      | negation | conjunction | disjunction => exact hadm'.elim
      | group => exact (hnot _ _ rfl).elim

/-- A step that stops with a condition has read a disjunction. -/
theorem Explains.stop (h : Explains room r us) (hfit : Fits total room r.pending)
    (hstep : r.step t = .stop (.ok c)) : Derives .disjunction total us c := by
  cases stops_of_step hstep with
  | complete hc => exact h.conclude hfit rfl hc

/-- A run that ends with a condition has read a disjunction and left the rest. -/
theorem derives_of_run (h : Explains room r us) (hfit : Fits total room r.pending)
    (hrun : (run total position r ts).result = .ok c) :
    ∃ ts', ts = ts' ++ (run total position r ts).rest ∧
      Derives .disjunction total (us ++ ts') c := by
  induction ts generalizing r us room with
  | nil =>
    refine ⟨[], rfl, ?_⟩
    simp only [run, finish] at hrun
    split at hrun
    case h_4 d hstage => exact (List.append_nil us).symm ▸ h.conclude hfit hstage hrun
    all_goals cases hrun
  | cons t ts ih =>
    cases hstep : r.step t with
    | stop result =>
      simp only [run, hstep] at hrun ⊢
      subst hrun
      exact ⟨[], rfl, (List.append_nil us).symm ▸ h.stop hfit hstep⟩
    | take next =>
      simp only [run, hstep] at hrun ⊢
      split at hrun
      · cases hrun
      · next hroom =>
        obtain ⟨room', he, hf⟩ := h.step hstep hfit (Nat.le_of_not_lt hroom)
        obtain ⟨ts', heq, hd⟩ := ih he hf hrun
        rw [if_neg hroom]
        exact ⟨t :: ts', by rw [List.cons_append, ← heq],
          by simpa only [List.append_assoc, List.singleton_append] using hd⟩

end Reading

/-! ## Whole lists of tokens -/

variable {c d : Condition} {ts : List Token} {n m : Nat}

/-- A run through the tokens of a disjunction and nothing else ends with its condition. -/
theorem Reading.run_disjunction {room : Nat} {eof : Token} (position : Nat)
    (h : Derives .disjunction n ts c) (hroom : n ≤ room) (heof : eof.kind = .endOfInput) :
    run room position initial (ts ++ [eof]) = ⟨.ok c, [eof], 0⟩ := by
  obtain ⟨_, ⟨d, rest, rfl, hclose⟩, hrun⟩ := run_of_derives h [] [eof] trivial hroom
  have hconclude : conclude d rest = .ok c := by simp only [conclude, hclose]
  have hdepth : Pending.depth rest = 0 := by
    rw [← depth_closeDisjunction d rest, hclose]
    rfl
  rw [initial, hrun]
  simp only [run, step, heof, hconclude, abandoned, hdepth]

/-- Whatever room there is, the grammar gives a list of tokens at most one condition. -/
theorem Derives.disjunction_unique (hc : Derives .disjunction n ts c)
    (hd : Derives .disjunction m ts d) : c = d := by
  have heof : (⟨.endOfInput, "", 0⟩ : Token).kind = .endOfInput := rfl
  have hrun := Reading.run_disjunction 0 hc (Nat.le_max_left n m) heof
  rw [Reading.run_disjunction 0 hd (Nat.le_max_right n m) heof] at hrun
  injection hrun with hrun
  injection hrun with hrun
  exact hrun.symm

/-- A condition is read whole exactly if the run ends with it and in front of nothing but the
closing token. -/
theorem Reader.whole_eq_ok_iff_run {r : Reader} :
    r.whole.1 = .ok c ↔ ∃ rest opened,
      Reading.initial.run (maxDepth - r.depth) r.source.length r.tokens = ⟨.ok c, rest, opened⟩ ∧
        ∀ t ∈ rest.head?, t.kind = .endOfInput := by
  unfold whole condition
  generalize Reading.initial.run (maxDepth - r.depth) r.source.length r.tokens = outcome
  obtain ⟨result, rest, opened⟩ := outcome
  cases result with
  | error e => exact ⟨nofun, by rintro ⟨_, _, h, -⟩; cases h⟩
  | ok d =>
    cases rest with
    | nil =>
      constructor
      · intro h
        cases h
        exact ⟨[], opened, rfl, nofun⟩
      · rintro ⟨_, _, h, -⟩
        cases h
        rfl
    | cons t rest =>
      show (if t.kind = .endOfInput then _ else _ : Except ReadError Condition × Reader).1 = _ ↔ _
      by_cases hk : t.kind = .endOfInput
      · rw [if_pos hk]
        constructor
        · intro h
          cases h
          exact ⟨t :: rest, opened, rfl, fun _ ht => by cases ht; exact hk⟩
        · rintro ⟨_, _, h, -⟩
          cases h
          rfl
      · rw [if_neg hk]
        refine ⟨nofun, ?_⟩
        rintro ⟨_, _, h, ht⟩
        cases h
        exact absurd (ht t rfl) hk

/-- A reader in front of tokens with the closing one behind them reads a condition exactly if they
derive it. -/
theorem Reader.whole_eq_ok_iff {source : String} {eof : Token} (heof : eof.kind = .endOfInput)
    (hts : ∀ t ∈ ts, t.kind ≠ .endOfInput) :
    (Reader.whole ⟨ts ++ [eof], 0, source⟩).1 = .ok c ↔ Derives .disjunction maxDepth ts c := by
  rw [Reader.whole_eq_ok_iff_run]
  constructor
  · rintro ⟨rest, opened, hrun, hrest⟩
    have hsound := @Reading.derives_of_run maxDepth maxDepth source.length Reading.initial
      (ts ++ [eof]) [] c (.start .nil) rfl
    rw [Nat.sub_zero] at hrun
    rw [hrun] at hsound
    obtain ⟨ts', heq, hd⟩ := hsound rfl
    rw [List.nil_append] at hd
    rcases List.append_eq_append_iff.1 heq with ⟨as, rfl, heof'⟩ | ⟨bs, rfl, hrest'⟩
    · cases as with
      | nil => rwa [List.append_nil] at hd
      | cons a as =>
        obtain ⟨rfl, -⟩ := List.cons.inj heof'
        exact absurd heof (hd.kind_ne _ (List.mem_append_right _ (.head _))).2.2
    · cases bs with
      | nil => rwa [List.append_nil]
      | cons b bs =>
        dsimp only at hrest'
        rw [hrest'] at hrest
        exact absurd (hrest b rfl) (hts b (List.mem_append_right _ (.head _)))
  · intro h
    exact ⟨[eof], 0, Reading.run_disjunction source.length h (Nat.le_refl _) heof,
      fun _ ht => by cases ht; exact heof⟩

/-! ## Texts -/

/-- A text is read as a condition exactly if its pieces derive it. -/
theorem read_eq_ok_iff_of_cut {source : String} {ps : List Piece} (h : Cut 0 source.toList ps) :
    Condition.read source = .ok c ↔ Derives .disjunction maxDepth (ps.map Piece.token) c := by
  rw [Condition.read, Reader.ofTokens, tokens_eq_of_cut h]
  exact Reader.whole_eq_ok_iff rfl fun t ht => by
    obtain ⟨q, hq, rfl⟩ := List.mem_map.1 ht
    exact h.kind_ne_endOfInput q hq

/-- Whatever is cut off a text as a relation is the sign of one. -/
theorem Cut.isRelation {p : Nat} {cs : List Char} {ps : List Piece} (h : Cut p cs ps) :
    ∀ q ∈ ps, q.token.kind = .relation → ∃ r, IsRelation q.token r := by
  intro q hq hk
  obtain ⟨r, hr⟩ := (hk ▸ h.spells q hq).exists_relation
  exact ⟨r, hk, String.toList_inj.1 hr⟩

/-- **The reader accepts exactly the grammar.** The tokens of a text end with one that closes the
list and stands nowhere else, and every relation sign among them is one the grammar knows. The text
is read as a condition exactly if the tokens in front of the closing one derive it as a disjunction
in which no more than `maxDepth` negations and parentheses are open together; and the grammar gives
these tokens one condition at most. -/
theorem read_eq_ok_iff_derives (source : String) :
    ∃ ts eof, tokens source = ts ++ [eof] ∧ eof.kind = .endOfInput ∧
      (∀ t ∈ ts, t.kind ≠ .endOfInput) ∧
      (∀ t ∈ ts, t.kind = .relation → ∃ r, IsRelation t r) ∧
      (∀ c, Condition.read source = .ok c ↔ Derives .disjunction maxDepth ts c) ∧
      ∀ n m c d, Derives .disjunction n ts c → Derives .disjunction m ts d → c = d := by
  obtain ⟨ps, hps⟩ := exists_cut 0 source.toList
  refine ⟨ps.map Piece.token, _, tokens_eq_of_cut hps, rfl, ?_, ?_,
    fun c => read_eq_ok_iff_of_cut hps, fun n m c d => Derives.disjunction_unique⟩
  · intro t ht
    obtain ⟨q, hq, rfl⟩ := List.mem_map.1 ht
    exact hps.kind_ne_endOfInput q hq
  · intro t ht
    obtain ⟨q, hq, rfl⟩ := List.mem_map.1 ht
    exact hps.isRelation q hq

/-- A negation reaches over a whole group, and the parentheses leave no trace. -/
theorem read_negated_group :
    Condition.read "not (a = 'x' or b != 'y')" =
      .ok (.not (.or (.compare ⟨.equal, .field "a" 5, .literal (.text "x") 9, 7⟩)
        (.compare ⟨.notEqual, .field "b" 16, .literal (.text "y") 21, 18⟩) 13) 0) := by
  obtain ⟨ts, eof, hts, -, -, -, hread, -⟩ := read_eq_ok_iff_derives "not (a = 'x' or b != 'y')"
  have htokens : tokens "not (a = 'x' or b != 'y')" =
      [⟨.not, "NOT", 0⟩, ⟨.leftParen, "(", 4⟩, ⟨.identifier, "a", 5⟩, ⟨.relation, "=", 7⟩,
        ⟨.text, "x", 9⟩, ⟨.or, "OR", 13⟩, ⟨.identifier, "b", 16⟩, ⟨.relation, "!=", 18⟩,
        ⟨.text, "y", 21⟩, ⟨.rightParen, ")", 24⟩] ++ [⟨.endOfInput, "", 25⟩] := by
    decide +kernel
  obtain ⟨rfl, -⟩ := List.append_inj' (hts.symm.trans htokens) rfl
  have hl : Derives .primary 62 [⟨.identifier, "a", 5⟩, ⟨.relation, "=", 7⟩, ⟨.text, "x", 9⟩]
      (.compare ⟨.equal, .field "a" 5, .literal (.text "x") 9, 7⟩) :=
    .compare (.field rfl) ⟨rfl, rfl⟩ (.text rfl)
  have hr : Derives .primary 62 [⟨.identifier, "b", 16⟩, ⟨.relation, "!=", 18⟩, ⟨.text, "y", 21⟩]
      (.compare ⟨.notEqual, .field "b" 16, .literal (.text "y") 21, 18⟩) :=
    .compare (.field rfl) ⟨rfl, rfl⟩ (.text rfl)
  have hor := Derives.or (t := ⟨.or, "OR", 13⟩) (.conjunction (.unary (.primary hl))) rfl
    (.unary (.primary hr))
  have hgroup := Derives.group (t := ⟨.leftParen, "(", 4⟩) (u := ⟨.rightParen, ")", 24⟩) rfl hor rfl
  exact (hread _).2 (.conjunction (.unary (.not (t := ⟨.not, "NOT", 0⟩) rfl (.primary hgroup))))

end Screening
