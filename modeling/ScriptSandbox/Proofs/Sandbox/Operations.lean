import Mathlib.Tactic.Common
import ScriptSandbox.Sandbox.Session

/-!
# Operations on sessions

All that can happen to a session is a sequence of operations, in any order: contexts are made and
canceled, time passes, evaluations are called for and take single steps, and the host comes to its
end. Polls and whole evaluations are such sequences.

## Main definitions

* `Sandbox.Operation`, `Sandbox.Session.perform`: the operations
* `Sandbox.Session.performAll`, `Sandbox.Session.Reaches`: sequences of them
* `Sandbox.Session.Effect`: what an operation does to instances and evaluations

## Main results

* `Sandbox.Session.effect_perform`: every operation has such an effect
* `Sandbox.Session.reaches_evaluate` and others: polls and evaluations are sequences of operations
-/

namespace ScriptSandbox.Sandbox

/-- What can happen to a session. -/
inductive Operation where
  | context (deadline : Nat)
  | childContext (parent deadline : Nat)
  | token
  | cancel (token : Nat)
  /-- Time passes up to some point. -/
  | pass (time : Nat)
  | begin (limits : Limits) (x : Context) (source : String)
  | keep (i : Nat)
  | enter (i : Nat)
  | turn (i limit : Nat) (b : Branch)
  | leave (i : Nat)
  | drop (i : Nat)
  | dropHost
  | shutdown

namespace Stage

@[simp] theorem holds_fresh : fresh.holds = false := rfl

@[simp] theorem holds_returned (r : Evaluation.Result) : (returned r).holds = false := rfl

theorem holds_of_isOver {st : Stage} (h : st.isOver = true) : st.holds = false := by
  cases st with
  | returned | dropped => rfl
  | fresh | racing | decided => cases h

end Stage

namespace Session

variable {s s' s'' : Session} {i j : Nat} {x : Context} {r : Run} {st : Stage}

/-- One operation. -/
def perform (s : Session) : Operation → Session
  | .context deadline => (s.context deadline).2
  | .childContext parent deadline => (s.childContext parent deadline).2
  | .token => s.token.2
  | .cancel token => s.cancel token
  | .pass time => { s with now := max s.now time }
  | .begin limits x source => (s.begin limits x source).2
  | .keep i => { s with kept := s.kept.push i }
  | .enter i => s.enter i
  | .turn i limit b => s.turn i limit b
  | .leave i => s.leave i
  | .drop i => s.drop i
  | .dropHost => s.dropHost.2
  | .shutdown => s.shutdown.2

/-- Operations one after the other. -/
def performAll (s : Session) (ops : List Operation) : Session := ops.foldl perform s

@[simp] theorem performAll_nil : s.performAll [] = s := rfl

@[simp] theorem performAll_cons (op : Operation) (ops : List Operation) :
    s.performAll (op :: ops) = (s.perform op).performAll ops := rfl

theorem performAll_append (ops ops' : List Operation) :
    s.performAll (ops ++ ops') = (s.performAll ops).performAll ops' := List.foldl_append

/-- Some operations lead from one session to the other. -/
def Reaches (s s' : Session) : Prop := ∃ ops, s.performAll ops = s'

theorem Reaches.refl (s : Session) : s.Reaches s := ⟨[], rfl⟩

theorem Reaches.trans (h : s.Reaches s') (h' : s'.Reaches s'') : s.Reaches s'' := by
  obtain ⟨ops, rfl⟩ := h
  obtain ⟨ops', rfl⟩ := h'
  exact ⟨ops ++ ops', performAll_append ops ops'⟩

theorem reaches_poll (s : Session) (i limit : Nat) : s.Reaches (s.poll i limit) :=
  ⟨[.enter i, .turn i limit .cancellation, .turn i limit .deadline, .turn i limit .guest,
    .leave i], by simp only [performAll_cons, performAll_nil, perform, poll]⟩

theorem reaches_complete (s : Session) (i : Nat) : s.Reaches (s.complete i).2 := by
  unfold complete
  dsimp only
  exact s.reaches_poll i _

theorem reaches_begin (s : Session) (limits : Limits) (x : Context) (source : String) :
    s.Reaches (s.begin limits x source).2 :=
  ⟨[.begin limits x source], rfl⟩

theorem evaluateWithin_eq (s : Session) (limits : Limits) (x : Context) (source : String) :
    s.evaluateWithin limits x source = (s.begin limits x source).2.complete s.runs.size := by
  unfold evaluateWithin begin
  rfl

theorem reaches_evaluateWithin (s : Session) (limits : Limits) (x : Context) (source : String) :
    s.Reaches (s.evaluateWithin limits x source).2 := by
  rw [evaluateWithin_eq]
  exact (s.reaches_begin limits x source).trans (reaches_complete _ _)

theorem reaches_evaluate (s : Session) (x : Context) (source : String) :
    s.Reaches (s.evaluate x source).2 :=
  s.reaches_evaluateWithin s.evaluator.limits x source

theorem reaches_evaluateCanceled (s : Session) (x : Context) (source : String) (cancelAt : Nat) :
    s.Reaches (s.evaluateCanceled x source cancelAt).2 := by
  have hbegin := s.reaches_begin s.evaluator.limits x source
  unfold evaluateCanceled
  generalize s.begin s.evaluator.limits x source = b at hbegin ⊢
  obtain ⟨i, s₁⟩ := b
  have hpoll := s₁.reaches_poll i cancelAt
  dsimp only at hbegin ⊢
  generalize s₁.poll i cancelAt = s₂ at hpoll ⊢
  cases s₂.result? i with
  | some r => exact hbegin.trans hpoll
  | none =>
    have hcancel : s₂.Reaches (s₂.cancel x.token) := ⟨[.cancel x.token], rfl⟩
    exact (hbegin.trans hpoll).trans (hcancel.trans (reaches_complete _ i))

theorem reaches_start (s : Session) (x : Context) (source : String) :
    s.Reaches (s.start x source).2 := by
  have hbegin := s.reaches_begin s.evaluator.limits x source
  unfold start
  generalize s.begin s.evaluator.limits x source = b at hbegin ⊢
  obtain ⟨i, s₁⟩ := b
  have hkeep : s₁.Reaches { s₁ with kept := s₁.kept.push i } := ⟨[.keep i], rfl⟩
  dsimp only at hbegin ⊢
  exact (hbegin.trans hkeep).trans (reaches_poll _ i _)

theorem reaches_cancelRun (s : Session) (n : Nat) : s.Reaches (s.cancelRun n).2 := by
  unfold cancelRun
  cases (s.run? n).bind (s.runs[·]?) with
  | none => exact .refl s
  | some r => exact ⟨[.cancel r.context.token], rfl⟩

theorem reaches_finish (s : Session) (n : Nat) : s.Reaches (s.finish n).2 := by
  unfold finish
  cases s.run? n with
  | none => exact .refl s
  | some i =>
    have hcomplete := s.reaches_complete i
    dsimp only
    generalize s.complete i = c at hcomplete ⊢
    obtain ⟨result, s₁⟩ := c
    exact hcomplete

theorem reaches_dropRun (s : Session) (n : Nat) : s.Reaches (s.dropRun n).2 := by
  unfold dropRun
  cases s.run? n with
  | none => exact .refl s
  | some i => exact ⟨[.drop i], rfl⟩

/-! ### Stages -/

theorem stage_eq (h : s.runs[i]? = some r) : s.stage i = r.stage := by
  rw [stage, h]
  rfl

theorem exists_run (h : s.stage i ≠ .fresh) : ∃ r, s.runs[i]? = some r ∧ r.stage = s.stage i := by
  rw [stage] at h ⊢
  cases hr : s.runs[i]? with
  | none => simp [hr] at h
  | some r => exact ⟨r, rfl, rfl⟩

theorem getElem?_put (s : Session) (i j : Nat) (st : Stage) : (s.put i st).runs[j]? =
    if i = j then (s.runs[j]?).map fun r => { r with stage := st } else s.runs[j]? :=
  Array.getElem?_modify

theorem stage_put_self (h : s.runs[i]? = some r) : (s.put i st).stage i = st := by
  rw [stage, getElem?_put, if_pos rfl, h]
  rfl

theorem stage_put_of_ne (h : j ≠ i) : (s.put i st).stage j = s.stage j := by
  rw [stage, getElem?_put, if_neg h.symm, stage]

theorem stage_begin (s : Session) (limits : Limits) (x : Context) (source : String) (j : Nat) :
    (s.begin limits x source).2.stage j = s.stage j := by
  rw [stage, stage, begin, Array.getElem?_push]
  split_ifs with h
  · rw [h, Array.getElem?_eq_none (Nat.le_refl _)]
    rfl
  · rfl

/-! ### Effects on instances -/

/-- What an operation on the evaluation `i` may do to instances. It creates the instance of `i`, if
that was not polled and its context is not done. It releases the instance of `i`, if that holds it.
Or it only changes how far `i` has come, if that is not over. No other evaluation changes. -/
inductive Effect (i : Nat) (s s' : Session) : Prop where
  | quiet (hledger : s'.ledger = s.ledger) (hstage : ∀ j, s'.stage j = s.stage j)
  | created (hfresh : s.stage i = .fresh)
      (hrun : ∃ r, s.runs[i]? = some r ∧ s.done r.context = none)
      (hledger : s'.ledger = s.ledger.create i) (hholds : (s'.stage i).holds = true)
      (hother : ∀ j, j ≠ i → s'.stage j = s.stage j)
  | released (hholds : (s.stage i).holds = true) (hledger : s'.ledger = s.ledger.release i)
      (hdone : (s'.stage i).holds = false) (hbegun : s'.stage i ≠ .fresh)
      (hother : ∀ j, j ≠ i → s'.stage j = s.stage j)
  | moved (hover : (s.stage i).isOver = false) (hledger : s'.ledger = s.ledger)
      (hholds : (s'.stage i).holds = (s.stage i).holds) (hbegun : s'.stage i ≠ .fresh)
      (hother : ∀ j, j ≠ i → s'.stage j = s.stage j)

theorem Effect.refl (i : Nat) (s : Session) : Effect i s s := .quiet rfl fun _ => rfl

/-- Noting how far an evaluation has come, perhaps at a later time. -/
theorem effect_put {s₁ : Session} (hruns : s₁.runs = s.runs) (hledger : s₁.ledger = s.ledger)
    (hr : s.runs[i]? = some r) (hover : r.stage.isOver = false) (hst : st.holds = r.stage.holds)
    (hbegun : st ≠ .fresh) : Effect i s (s₁.put i st) := by
  have hr₁ : s₁.runs[i]? = some r := hruns ▸ hr
  refine .moved ?_ hledger ?_ ?_ fun j hj => ?_
  · rwa [stage_eq hr]
  · rw [stage_put_self hr₁, stage_eq hr, hst]
  · rwa [stage_put_self hr₁]
  · rw [stage_put_of_ne hj, stage, stage, hruns]

/-- Releasing the instance that an evaluation holds, perhaps at a later time. -/
theorem effect_release_put {s₁ : Session} (hruns : s₁.runs = s.runs)
    (hledger : s₁.ledger = s.ledger) (hr : s.runs[i]? = some r) (hholds : r.stage.holds = true)
    (hst : st.holds = false) (hbegun : st ≠ .fresh) : Effect i s ((s₁.release i).put i st) := by
  have hr₁ : (s₁.release i).runs[i]? = some r := hruns ▸ hr
  refine .released ?_ ?_ ?_ ?_ fun j hj => ?_
  · rwa [stage_eq hr]
  · exact congrArg (·.release i) hledger
  · rwa [stage_put_self hr₁]
  · rwa [stage_put_self hr₁]
  · rw [stage_put_of_ne hj, stage, stage, release, hruns]

theorem effect_enter (s : Session) (i : Nat) : Effect i s (s.enter i) := by
  unfold enter
  split
  next limits x source hr =>
    -- a context that is done ends the evaluation at once, without an instance
    split
    next reason hdone => exact effect_put rfl rfl hr rfl rfl (by simp)
    next hdone =>
      have hr' : (s.create i).runs[i]? = some ⟨limits, x, source, .fresh⟩ := hr
      refine .created (stage_eq hr) ⟨_, hr, hdone⟩ rfl ?_ fun j hj => stage_put_of_ne hj
      rw [stage_put_self hr']
      rfl
  next => exact .refl i s

theorem effect_turnGuest {limits : Limits} {source : String} {p : Progress} (limit : Nat)
    (hr : s.runs[i]? = some ⟨limits, x, source, .racing p⟩) :
    Effect i s (s.turnGuest i limits x p limit) := by
  unfold turnGuest
  dsimp only
  generalize (s.within limits).runUntil (min limit x.deadline) (awaken s.now p) = p'
  cases p' with
  | ended e => exact effect_release_put rfl rfl hr rfl rfl (by simp)
  | running g =>
    -- the guest is interrupted at its deadline, or it goes on later
    dsimp only
    split
    · exact effect_release_put rfl rfl hr rfl rfl (by simp)
    · exact effect_put rfl rfl hr rfl rfl (by simp)

theorem effect_turn (s : Session) (i limit : Nat) (b : Branch) : Effect i s (s.turn i limit b) := by
  unfold turn
  split
  next limits x source p hr =>
    cases b with
    | guest => exact effect_turnGuest limit hr
    | deadline =>
      dsimp only
      split
      · exact effect_put rfl rfl hr rfl rfl (by simp)
      · exact .refl i s
    | cancellation =>
      dsimp only
      split
      · exact effect_put rfl rfl hr rfl rfl (by simp)
      · exact .refl i s
  next => exact .refl i s

theorem effect_leave (s : Session) (i : Nat) : Effect i s (s.leave i) := by
  unfold leave
  split
  next holds result hst =>
    obtain ⟨r, hr, hrst⟩ := exists_run (s := s) (i := i) (by simp [hst])
    rw [hst] at hrst
    -- the guest's end has released the instance already, the other branches have not
    cases holds with
    | true => exact effect_release_put rfl rfl hr (by rw [hrst]; rfl) rfl (by simp)
    | false => exact effect_put rfl rfl hr (by rw [hrst]; rfl) (by rw [hrst]; rfl) (by simp)
  next => exact .refl i s

theorem effect_drop (s : Session) (i : Nat) : Effect i s (s.drop i) := by
  unfold drop
  dsimp only
  split_ifs with hover hholds
  · exact .refl i s
  · have hbegun : s.stage i ≠ .fresh := fun h => by simp [h] at hholds
    obtain ⟨r, hr, hrst⟩ := exists_run hbegun
    exact effect_release_put rfl rfl hr (hrst ▸ hholds) rfl (by simp)
  · -- there may be no such evaluation, and then nothing happens
    cases hr : s.runs[i]? with
    | none =>
      refine .quiet rfl fun j => ?_
      rw [stage, getElem?_put]
      split_ifs with hj
      · rw [← hj, hr, stage, hr]
        rfl
      · rfl
    | some r =>
      rw [stage_eq hr] at hover hholds
      rw [Bool.not_eq_true] at hover hholds
      exact effect_put rfl rfl hr hover hholds.symm (by simp)

/-- The host is dropped, and nothing else is. -/
theorem exists_dropHost_eq (s : Session) :
    ∃ hosted handles, s.dropHost.2 = { s with hosted, handles } := by
  unfold dropHost
  split_ifs
  · exact ⟨_, _, rfl⟩
  · exact ⟨s.hosted, s.handles, rfl⟩

/-- A shutdown drops the host, and takes time. -/
theorem exists_shutdown_eq (s : Session) :
    ∃ now hosted handles, s.shutdown.2 = { s with now, hosted, handles } := by
  unfold shutdown
  split_ifs
  · generalize Shutdown.run s.now s.live = answer
    exact ⟨_, _, _, rfl⟩
  · exact ⟨s.now, s.hosted, s.handles, rfl⟩

/-- Every operation has such an effect. -/
theorem effect_perform (s : Session) (op : Operation) : ∃ i, Effect i s (s.perform op) := by
  cases op with
  | context | childContext | token | cancel | pass | keep =>
    exact ⟨0, .quiet rfl fun _ => rfl⟩
  | begin limits x source => exact ⟨0, .quiet rfl (s.stage_begin limits x source)⟩
  | enter i => exact ⟨i, s.effect_enter i⟩
  | turn i limit b => exact ⟨i, s.effect_turn i limit b⟩
  | leave i => exact ⟨i, s.effect_leave i⟩
  | drop i => exact ⟨i, s.effect_drop i⟩
  | dropHost =>
    obtain ⟨hosted, handles, hdrop⟩ := s.exists_dropHost_eq
    rw [perform, hdrop]
    exact ⟨0, .quiet rfl fun _ => rfl⟩
  | shutdown =>
    obtain ⟨now, hosted, handles, hshutdown⟩ := s.exists_shutdown_eq
    rw [perform, hshutdown]
    exact ⟨0, .quiet rfl fun _ => rfl⟩

end Session

end ScriptSandbox.Sandbox
