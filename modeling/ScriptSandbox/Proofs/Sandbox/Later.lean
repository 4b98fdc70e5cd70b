import ScriptSandbox.Proofs.Sandbox.Contexts
import ScriptSandbox.Proofs.Sandbox.Operations

/-!
# What operations do not undo

No operation takes time back, removes a token or its cancellation, or binds an evaluation to another
context. So a context that is done stays done, and an evaluation that is polled up to its deadline
has returned then.

## Main definitions

* `Sandbox.Session.Later`: what no operation undoes

## Main results

* `Sandbox.Session.later_of_reaches`: operations lead to a later session
* `Sandbox.Session.done_of_later`: a context that is done stays done
* `Sandbox.Session.stage_complete`: an evaluation that is completed has returned
-/

namespace ScriptSandbox.Sandbox.Session

variable {s s' s'' : Session} {i limit : Nat} {x : Context} {r : Run} {st : Stage}

/-- Time has not gone back, tokens were only added or canceled, and evaluations are bound to the
contexts that they were. -/
structure Later (s s' : Session) : Prop where
  now : s.now ≤ s'.now
  tokens : s.tokens.Extends s'.tokens
  runs : ∀ (i : Nat) (r : Run), s.runs[i]? = some r →
    ∃ r' : Run, s'.runs[i]? = some r' ∧ r'.context = r.context

theorem Later.refl (s : Session) : Later s s :=
  ⟨Nat.le_refl _, .refl _, fun _ r hr => ⟨r, hr, rfl⟩⟩

theorem Later.trans (h : Later s s') (h' : Later s' s'') : Later s s'' := by
  refine ⟨Nat.le_trans h.now h'.now, h.tokens.trans h'.tokens, fun i r hr => ?_⟩
  obtain ⟨r', hr', hx⟩ := h.runs i r hr
  obtain ⟨r'', hr'', hx'⟩ := h'.runs i r' hr'
  exact ⟨r'', hr'', hx'.trans hx⟩

theorem Later.of_runs (hnow : s.now ≤ s'.now) (htokens : s.tokens.Extends s'.tokens)
    (hruns : s'.runs = s.runs) : Later s s' :=
  ⟨hnow, htokens, fun _ r hr => ⟨r, hruns ▸ hr, rfl⟩⟩

theorem later_put (s : Session) (i : Nat) (st : Stage) : Later s (s.put i st) := by
  refine ⟨Nat.le_refl _, .refl _, fun j r hr => ?_⟩
  rw [getElem?_put, hr]
  split_ifs
  · exact ⟨_, rfl, rfl⟩
  · exact ⟨r, rfl, rfl⟩

theorem later_release (s : Session) (i : Nat) : Later s (s.release i) :=
  .of_runs (Nat.le_refl _) (.refl _) rfl

theorem later_begin (s : Session) (limits : Limits) (x : Context) (source : String) :
    Later s (s.begin limits x source).2 := by
  refine ⟨Nat.le_refl _, .refl _, fun i r hr => ⟨r, ?_, rfl⟩⟩
  have hlt : i < s.runs.size := (Array.getElem?_eq_some_iff.mp hr).1
  rw [begin, Array.getElem?_push, if_neg (Nat.ne_of_lt hlt), hr]

theorem later_enter (s : Session) (i : Nat) : Later s (s.enter i) := by
  unfold enter
  split
  next =>
    split
    next => exact later_put s i _
    next =>
      have hcreate : Later s (s.create i) := .of_runs (Nat.le_refl _) (.refl _) rfl
      exact hcreate.trans (later_put _ i _)
  next => exact .refl s

theorem later_turnGuest (s : Session) (i : Nat) (limits : Limits) (x : Context) (p : Progress)
    (limit : Nat) : Later s (s.turnGuest i limits x p limit) := by
  have hpass (time : Nat) : Later s { s with now := max s.now time } :=
    .of_runs (Nat.le_max_left _ _) (.refl _) rfl
  unfold turnGuest
  dsimp only
  generalize (s.within limits).runUntil (min limit x.deadline) (awaken s.now p) = p'
  cases p' with
  | ended e => exact ((hpass e.clock).trans (later_release _ i)).trans (later_put _ i _)
  | running g =>
    dsimp only
    split
    · exact ((hpass _).trans (later_release _ i)).trans (later_put _ i _)
    · exact (hpass _).trans (later_put _ i _)

theorem later_turn (s : Session) (i limit : Nat) (b : Branch) : Later s (s.turn i limit b) := by
  unfold turn
  split
  next limits x source p _ =>
    cases b with
    | guest => exact later_turnGuest s i limits x p limit
    | deadline =>
      dsimp only
      split
      · exact later_put s i _
      · exact .refl s
    | cancellation =>
      dsimp only
      split
      · exact later_put s i _
      · exact .refl s
  next => exact .refl s

theorem later_leave (s : Session) (i : Nat) : Later s (s.leave i) := by
  unfold leave
  split
  next holds _ _ =>
    cases holds with
    | true => exact (later_release s i).trans (later_put _ i _)
    | false => exact later_put s i _
  next => exact .refl s

theorem later_drop (s : Session) (i : Nat) : Later s (s.drop i) := by
  unfold drop
  dsimp only
  split_ifs
  · exact .refl s
  · exact (later_release s i).trans (later_put _ i _)
  · exact later_put s i _

theorem le_due (now : Nat) (d : Shutdown) : now ≤ d.due now := by
  cases d with
  | waiting wake deadline => exact Nat.le_max_left _ _
  | _ => exact Nat.le_refl now

/-- A shutdown takes no time back. -/
theorem le_steps (live fuel now : Nat) (d : Shutdown) : now ≤ (d.steps live fuel now).2 := by
  -- the fuel counts the steps, each of which may wait
  induction fuel generalizing now d with
  | zero => exact Nat.le_refl now
  | succ fuel ih => exact Nat.le_trans (le_due now d) (ih _ _)

theorem le_run (now live : Nat) : now ≤ (Shutdown.run now live).2 := by
  have h := le_steps live Shutdown.maxSteps now (.start now)
  unfold Shutdown.run
  generalize (Shutdown.start now).steps live Shutdown.maxSteps now = answer at h ⊢
  obtain ⟨d, now'⟩ := answer
  cases d <;> exact h

theorem later_shutdown (s : Session) : Later s s.shutdown.2 := by
  have h := le_run s.now s.live
  unfold shutdown
  split
  · generalize Shutdown.run s.now s.live = answer at h ⊢
    exact .of_runs h (.refl _) rfl
  · exact .refl s

/-- Every operation leads to a later session. -/
theorem later_perform (s : Session) (op : Operation) : Later s (s.perform op) := by
  cases op with
  | context => exact .of_runs (Nat.le_refl _) (s.tokens.extends_add) rfl
  | childContext parent => exact .of_runs (Nat.le_refl _) (s.tokens.extends_addChild parent) rfl
  | token => exact .of_runs (Nat.le_refl _) (s.tokens.extends_add) rfl
  | cancel token => exact .of_runs (Nat.le_refl _) (s.tokens.extends_cancel token) rfl
  | pass time => exact .of_runs (Nat.le_max_left _ _) (.refl _) rfl
  | begin limits x source => exact s.later_begin limits x source
  | keep i => exact .of_runs (Nat.le_refl _) (.refl _) rfl
  | enter i => exact s.later_enter i
  | turn i limit b => exact s.later_turn i limit b
  | leave i => exact s.later_leave i
  | drop i => exact s.later_drop i
  | dropHost =>
    unfold perform dropHost
    dsimp only
    split
    · exact .of_runs (Nat.le_refl _) (.refl _) rfl
    · exact .refl s
  | shutdown => exact s.later_shutdown

/-- A context that is done stays done. -/
theorem done_of_later (h : Later s s') (hdone : (s.done x).isSome) : (s'.done x).isSome :=
  Context.done_mono h.tokens h.now hdone

/-! ### What evaluations were called for with -/

theorem exists_run_put (hr : s.runs[i]? = some r) (j : Nat) (st : Stage) :
    ∃ st', (s.put j st).runs[i]? = some { r with stage := st' } := by
  rw [getElem?_put, hr]
  split_ifs
  · exact ⟨st, rfl⟩
  · exact ⟨r.stage, rfl⟩

/-- No operation changes anything of an evaluation but how far it has come. -/
theorem exists_run_perform (hr : s.runs[i]? = some r) (op : Operation) :
    ∃ st, (s.perform op).runs[i]? = some { r with stage := st } := by
  have hstill : ∃ st, s.runs[i]? = some { r with stage := st } := ⟨r.stage, hr⟩
  cases op with
  | context | childContext | token | cancel | pass | keep => exact hstill
  | begin limits x source =>
    have hlt : i < s.runs.size := (Array.getElem?_eq_some_iff.mp hr).1
    refine ⟨r.stage, ?_⟩
    unfold perform begin
    dsimp only
    rw [Array.getElem?_push, if_neg (Nat.ne_of_lt hlt), hr]
  | enter j =>
    unfold perform enter
    dsimp only
    split
    next =>
      split
      next => exact exists_run_put hr j _
      next =>
        have hr' : (s.create j).runs[i]? = some r := hr
        exact exists_run_put hr' j _
    next => exact hstill
  | turn j limit b =>
    unfold perform turn
    dsimp only
    split
    next limits x source p hj =>
      cases b with
      | guest =>
        unfold turnGuest
        dsimp only
        generalize (s.within limits).runUntil (min limit x.deadline) (awaken s.now p) = p'
        have hrelease (time : Nat) :
            ({ s with now := max s.now time }.release j).runs[i]? = some r := hr
        have hpass (time : Nat) :
            ({ s with now := max s.now time } : Session).runs[i]? = some r := hr
        cases p' with
        | ended ended => exact exists_run_put (hrelease _) j _
        | running g =>
          dsimp only
          split_ifs
          · exact exists_run_put (hrelease _) j _
          · exact exists_run_put (hpass _) j _
      | deadline | cancellation =>
        dsimp only
        split_ifs
        · exact exists_run_put hr j _
        · exact hstill
    next => exact hstill
  | leave j =>
    unfold perform leave
    dsimp only
    split
    next holds result _ =>
      have hleft : (if holds then s.release j else s).runs[i]? = some r := by
        split_ifs
        · exact hr
        · exact hr
      exact exists_run_put hleft j _
    next => exact hstill
  | drop j =>
    have hleft : (if (s.stage j).holds then s.release j else s).runs[i]? = some r := by
      split_ifs
      · exact hr
      · exact hr
    unfold perform drop
    dsimp only
    split_ifs at hleft ⊢
    · exact hstill
    · exact hstill
    · exact exists_run_put hleft j _
    · exact exists_run_put hleft j _
  | dropHost =>
    obtain ⟨hosted, handles, hdrop⟩ := s.exists_dropHost_eq
    rw [perform, hdrop]
    exact hstill
  | shutdown =>
    obtain ⟨now, hosted, handles, hshutdown⟩ := s.exists_shutdown_eq
    rw [perform, hshutdown]
    exact hstill

/-! ### Completed evaluations -/

/-- Whether an evaluation was polled and not dropped. -/
def IsActive (st : Stage) : Prop := st ≠ .fresh ∧ st ≠ .dropped

/-- Whether the result of an evaluation is there. -/
def IsSettled (st : Stage) : Prop :=
  (∃ holds result, st = .decided holds result) ∨ ∃ result, st = .returned result

theorem isActive_enter (h : s.runs[i]? = some r) (hst : r.stage ≠ .dropped) :
    IsActive ((s.enter i).stage i) := by
  unfold enter
  split
  next hr =>
    split
    next => exact ⟨by simp [stage_put_self hr], by simp [stage_put_self hr]⟩
    next =>
      have hr' : (s.create i).runs[i]? = some _ := hr
      exact ⟨by simp [stage_put_self hr'], by simp [stage_put_self hr']⟩
  next hno =>
    -- an evaluation that was polled before
    rw [IsActive, stage_eq h]
    refine ⟨fun hfresh => ?_, hst⟩
    obtain ⟨limits, x, source, st⟩ := r
    dsimp only at hfresh
    exact hno limits x source (hfresh ▸ h)

/-- A turn of the deadline or of the token keeps an evaluation active. -/
theorem isActive_turn (limit : Nat) (b : Branch) (hb : b ≠ .guest) (h : IsActive (s.stage i)) :
    IsActive ((s.turn i limit b).stage i) := by
  unfold turn
  split
  next hr =>
    cases b with
    | guest => exact absurd rfl hb
    | deadline =>
      dsimp only
      split
      · exact ⟨by simp [stage_put_self hr], by simp [stage_put_self hr]⟩
      · exact h
    | cancellation =>
      dsimp only
      split
      · exact ⟨by simp [stage_put_self hr], by simp [stage_put_self hr]⟩
      · exact h
  next => exact h

/-- A turn of the guest up to the deadline settles the evaluation. -/
theorem isSettled_turnGuest (h : s.runs[i]? = some r) (hlimit : r.context.deadline ≤ limit)
    (hactive : IsActive (s.stage i)) : IsSettled ((s.turn i limit .guest).stage i) := by
  unfold turn
  split
  next limits x source p hr =>
    obtain rfl := Option.some.inj (h.symm.trans hr)
    unfold turnGuest
    dsimp only
    generalize (s.within limits).runUntil (min limit x.deadline) (awaken s.now p) = p'
    cases p' with
    | ended e =>
      -- neither the time nor the release touches the evaluations
      have hr' : ({ s with now := max s.now e.clock }.release i).runs[i]? = some _ := hr
      exact .inl ⟨_, _, stage_put_self hr'⟩
    | running g =>
      dsimp only at hlimit ⊢
      rw [if_pos hlimit]
      have hr' : ({ s with now := max s.now (min limit x.deadline) }.release i).runs[i]? =
        some _ := hr
      exact .inl ⟨_, _, stage_put_self hr'⟩
  next hno =>
    rw [stage_eq h] at hactive ⊢
    obtain ⟨limits, x, source, st⟩ := r
    cases st with
    | fresh => exact absurd rfl hactive.1
    | racing p => exact absurd h (hno limits x source p)
    | decided holds result => exact .inl ⟨_, _, rfl⟩
    | returned result => exact .inr ⟨_, rfl⟩
    | dropped => exact absurd rfl hactive.2

theorem exists_returned_leave (h : IsSettled (s.stage i)) :
    ∃ result, (s.leave i).stage i = .returned result := by
  rcases h with ⟨holds, result, h⟩ | ⟨result, h⟩
  · obtain ⟨r, hr, -⟩ := exists_run (s := s) (i := i) (by simp [h])
    refine ⟨result, ?_⟩
    unfold leave
    rw [h]
    cases holds with
    | true =>
      have hr' : (s.release i).runs[i]? = some r := hr
      exact stage_put_self hr'
    | false => exact stage_put_self hr
  · refine ⟨result, ?_⟩
    unfold leave
    rw [h]
    exact h

/-- An evaluation that is polled up to its deadline has returned, unless it was dropped before. -/
theorem exists_returned_poll (h : s.runs[i]? = some r) (hst : r.stage ≠ .dropped)
    (hlimit : r.context.deadline ≤ limit) :
    ∃ result, (s.poll i limit).stage i = .returned result := by
  -- the first steps keep the evaluation active, so that the guest's turn settles it
  have henter := isActive_enter h hst
  have hcancel := isActive_turn limit .cancellation (by decide) henter
  have hdeadline := isActive_turn limit .deadline (by decide) hcancel
  have hlater := ((later_enter s i).trans (later_turn _ i limit .cancellation)).trans
    (later_turn _ i limit .deadline)
  obtain ⟨r', hr', hx⟩ := hlater.runs i r h
  unfold poll
  exact exists_returned_leave (isSettled_turnGuest hr' (hx ▸ hlimit) hdeadline)

/-- A completed evaluation has returned, and what it has returned is the result. -/
theorem stage_complete (h : s.runs[i]? = some r) (hst : r.stage ≠ .dropped) :
    (s.complete i).2.stage i = .returned (s.complete i).1 := by
  obtain ⟨result, hresult⟩ := exists_returned_poll h hst (Nat.le_refl _)
  unfold complete
  rw [h]
  dsimp only [Option.elim]
  generalize s.poll i r.context.deadline = s₁ at hresult ⊢
  rw [result?, hresult]
  rfl

end ScriptSandbox.Sandbox.Session
