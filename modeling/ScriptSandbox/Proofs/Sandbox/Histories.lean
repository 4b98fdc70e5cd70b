import ScriptSandbox.Proofs.Sandbox.Courses
import ScriptSandbox.Proofs.Sandbox.Operations

/-!
# Histories of sessions

Through the operations on a session, every evaluation that has begun takes its own course. What an
evaluation returns is what its course has come to, unless the evaluation was interrupted.

## Main definitions

* `Sandbox.Session.course`: the course that an evaluation has taken after some operations
* `Sandbox.Accords`: how far an evaluation has come is in accord with its course

## Main results

* `Sandbox.Session.accords_course`: it is in accord after all operations
* `Sandbox.Session.of_returned`, `Sandbox.Session.exists_ended_of_returned`: what an evaluation has
  returned
-/

namespace ScriptSandbox.Sandbox

open Evaluation (Interrupt)

/-! ### Evaluators -/

namespace Evaluator

/-- What the instance of an evaluation is created with. -/
def settingsWithin (e : Evaluator) (limits : Limits) : Settings := { e with limits }.settings

end Evaluator

/-! ### Courses of evaluations -/

namespace Session

variable {s : Session} {i j : Nat} {op : Operation} {k? : Option Course}

/-- The course of an evaluation after its first poll. -/
def enterCourse (s : Session) (i : Nat) (k? : Option Course) : Option Course :=
  match s.runs[i]? with
  | some ⟨limits, x, source, .fresh⟩ =>
    match s.done x with
    | some _ => k?
    | none => some <| .begun (s.evaluator.settingsWithin limits) s.evaluator.host.guest
        (Utf8.encode source) s.now
  | _ => k?

/-- The course of an evaluation after a turn of its guest. -/
def turnCourse (s : Session) (i limit : Nat) (k? : Option Course) : Option Course :=
  match s.runs[i]? with
  | some ⟨limits, x, _, .racing _⟩ =>
    k?.map fun k => (k.wait s.now).runUntil (s.evaluator.settingsWithin limits)
      s.evaluator.host.guest (min limit x.deadline)
  | _ => k?

/-- The course of the evaluation `i` after an operation. -/
def extend (s : Session) (i : Nat) (k? : Option Course) : Operation → Option Course
  | .enter j => if j = i then s.enterCourse i k? else k?
  | .turn j limit .guest => if j = i then s.turnCourse i limit k? else k?
  | _ => k?

/-- The course of the evaluation `i` after some operations. -/
def extendAll (s : Session) (i : Nat) (k? : Option Course) : List Operation → Option Course
  | [] => k?
  | op :: ops => (s.perform op).extendAll i (s.extend i k? op) ops

/-- The course that the evaluation `i` of an evaluator has taken after some operations; none if it
has created no instance. -/
def course (e : Evaluator) (ops : List Operation) (i : Nat) : Option Course :=
  (ofEvaluator e).extendAll i none ops

/-- The moments of the evaluation `i` after some operations, the latest first. -/
def moments (e : Evaluator) (ops : List Operation) (i : Nat) : List Moment :=
  (course e ops i).elim [] (·.moments)

end Session

/-! ### Accord with courses -/

/-- A result is that of a course that has come to its end, or that of an interrupt. -/
def Accounted (k? : Option Course) (r : Evaluation.Result) : Prop :=
  (∃ k e, k? = some k ∧ k.progress = .ended e ∧ r = e.result) ∨
    ∃ reason, r = .error (.ofInterrupt reason)

/-- How far an evaluation has come is in accord with its course. -/
inductive Accords (c : Settings) (g : Guest) (source : List UInt8) :
    Stage → Option Course → Prop
  | fresh : Accords c g source .fresh none
  | racing {k : Course} (hk : k.Of c g source) : Accords c g source (.racing k.progress) (some k)
  | decided {k? : Option Course} (hk : ∀ k ∈ k?, k.Of c g source) (holds : Bool)
    {r : Evaluation.Result} (hr : Accounted k? r) : Accords c g source (.decided holds r) k?
  | returned {k? : Option Course} (hk : ∀ k ∈ k?, k.Of c g source) {r : Evaluation.Result}
    (hr : Accounted k? r) : Accords c g source (.returned r) k?
  | dropped {k? : Option Course} (hk : ∀ k ∈ k?, k.Of c g source) :
    Accords c g source .dropped k?

namespace Accords

variable {c : Settings} {g : Guest} {source : List UInt8} {st : Stage} {k? : Option Course}

/-- Whatever has become of an evaluation, its course is one that the runs of the guest can take. -/
theorem of (h : Accords c g source st k?) : ∀ k ∈ k?, k.Of c g source := by
  cases h with
  | fresh => nofun
  | racing hk =>
    intro k hmem
    obtain rfl := Option.some.inj hmem
    exact hk
  | decided hk | returned hk | dropped hk => exact hk

end Accords

namespace Session

variable {s s' : Session} {e : Evaluator} {i j : Nat} {k? : Option Course}

/-- An evaluation is in accord with its course; one that was not called for has none. -/
def Follows (s : Session) (i : Nat) (k? : Option Course) : Prop :=
  match s.runs[i]? with
  | none => k? = none
  | some r => Accords (s.evaluator.settingsWithin r.limits) s.evaluator.host.guest
      (Utf8.encode r.source) r.stage k?

theorem Follows.accords (h : s.Follows i k?) {r : Run} (hr : s.runs[i]? = some r) :
    Accords (s.evaluator.settingsWithin r.limits) s.evaluator.host.guest (Utf8.encode r.source)
      r.stage k? := by
  unfold Follows at h
  rw [hr] at h
  exact h

/-- What does not concern an evaluation leaves it in accord. -/
theorem Follows.of_runs (h : s.Follows i k?) (hevaluator : s'.evaluator = s.evaluator)
    (hruns : s'.runs[i]? = s.runs[i]?) : s'.Follows i k? := by
  unfold Follows at h ⊢
  rw [hevaluator, hruns]
  exact h

theorem follows_put {r : Run} {st : Stage} (hr : s.runs[i]? = some r)
    (hevaluator : s'.evaluator = s.evaluator) (hruns : s'.runs = s.runs)
    (h : Accords (s.evaluator.settingsWithin r.limits) s.evaluator.host.guest
      (Utf8.encode r.source) st k?) : (s'.put i st).Follows i k? := by
  have hput : (s'.put i st).runs[i]? = some { r with stage := st } := by
    rw [getElem?_put, if_pos rfl, hruns, hr]
    rfl
  unfold Follows
  rw [hput]
  change Accords (s'.evaluator.settingsWithin r.limits) s'.evaluator.host.guest _ st k?
  rw [hevaluator]
  exact h

/-! ### What single operations do to other evaluations -/

theorem getElem?_put_of_ne {st : Stage} (h : i ≠ j) : (s.put j st).runs[i]? = s.runs[i]? := by
  rw [getElem?_put, if_neg h.symm]

theorem getElem?_enter_of_ne (h : i ≠ j) : (s.enter j).runs[i]? = s.runs[i]? := by
  unfold enter
  split
  next =>
    split
    next => exact getElem?_put_of_ne h
    next => exact getElem?_put_of_ne h
  next => rfl

theorem getElem?_turn_of_ne (limit : Nat) (b : Branch) (h : i ≠ j) :
    (s.turn j limit b).runs[i]? = s.runs[i]? := by
  unfold turn
  split
  next limits x source p hr =>
    cases b with
    | guest =>
      dsimp only [turnGuest]
      split
      next => exact getElem?_put_of_ne h
      next =>
        split_ifs
        · exact getElem?_put_of_ne h
        · exact getElem?_put_of_ne h
    | deadline =>
      dsimp only
      split_ifs
      · exact getElem?_put_of_ne h
      · rfl
    | cancellation =>
      dsimp only
      split_ifs
      · exact getElem?_put_of_ne h
      · rfl
  next => rfl

theorem getElem?_leave_of_ne (h : i ≠ j) : (s.leave j).runs[i]? = s.runs[i]? := by
  unfold leave
  split
  next holds _ _ =>
    cases holds with
    | true => exact getElem?_put_of_ne h
    | false => exact getElem?_put_of_ne h
  next => rfl

theorem getElem?_drop_of_ne (h : i ≠ j) : (s.drop j).runs[i]? = s.runs[i]? := by
  unfold drop
  dsimp only
  split_ifs
  · rfl
  · exact getElem?_put_of_ne h
  · exact getElem?_put_of_ne h

/-! ### The evaluator -/

/-- No operation changes the evaluator. -/
theorem evaluator_perform (s : Session) (op : Operation) :
    (s.perform op).evaluator = s.evaluator := by
  cases op with
  | context | childContext | token | cancel | pass | begin | keep => rfl
  | enter i =>
    unfold perform enter
    dsimp only
    split
    next =>
      split
      next => rfl
      next => rfl
    next => rfl
  | turn i limit b =>
    unfold perform turn
    dsimp only
    split
    next limits x source p hr =>
      cases b with
      | guest =>
        dsimp only [turnGuest]
        split
        next => rfl
        next =>
          split_ifs
          · rfl
          · rfl
      | deadline =>
        dsimp only
        split_ifs
        · rfl
        · rfl
      | cancellation =>
        dsimp only
        split_ifs
        · rfl
        · rfl
    next => rfl
  | leave i =>
    unfold perform leave
    dsimp only
    split
    next holds _ _ =>
      cases holds with
      | true => rfl
      | false => rfl
    next => rfl
  | drop i =>
    unfold perform drop
    dsimp only
    split_ifs
    · rfl
    · rfl
    · rfl
  | dropHost =>
    obtain ⟨hosted, handles, hdrop⟩ := s.exists_dropHost_eq
    rw [perform, hdrop]
  | shutdown =>
    obtain ⟨now, hosted, handles, hshutdown⟩ := s.exists_shutdown_eq
    rw [perform, hshutdown]

theorem evaluator_performAll (s : Session) (ops : List Operation) :
    (s.performAll ops).evaluator = s.evaluator := by
  induction ops generalizing s with
  | nil => rfl
  | cons op ops ih => exact (ih _).trans (s.evaluator_perform op)

/-! ### What holds after all operations -/

/-- What holds of a session and of the course that an evaluation has taken through any operation,
holds of them after all operations. -/
theorem course_induct {P : Session → Option Course → Prop} (hnew : P (ofEvaluator e) none)
    (hperform : ∀ s k? op, s.evaluator = e → P s k? → P (s.perform op) (s.extend i k? op))
    (ops : List Operation) : P ((ofEvaluator e).performAll ops) (course e ops i) := by
  have hall : ∀ s k?, s.evaluator = e → P s k? → P (s.performAll ops) (s.extendAll i k? ops) := by
    induction ops with
    | nil => exact fun _ _ _ h => h
    | cons op ops ih =>
      intro s k? hs h
      exact ih _ _ ((s.evaluator_perform op).trans hs) (hperform s k? op hs h)
  exact hall _ _ rfl hnew

/-- What holds of a course before an operation, and after a first poll or a turn of the guest, holds
of it after the operation. -/
theorem of_extend {P : Option Course → Prop} (h : P k?) (henter : P (s.enterCourse i k?))
    (hturn : ∀ limit, P (s.turnCourse i limit k?)) (op : Operation) : P (s.extend i k? op) := by
  unfold extend
  split
  next =>
    split_ifs
    · exact henter
    · exact h
  next =>
    split_ifs
    · exact hturn _
    · exact h
  next => exact h

/-! ### Accord through operations -/

theorem Follows.begin (h : s.Follows i k?) (limits : Limits) (x : Context) (source : String) :
    (s.begin limits x source).2.Follows i k? := by
  by_cases hi : i = s.runs.size
  · -- the evaluation that is called for has no course yet
    subst hi
    have hnone : s.runs[s.runs.size]? = none := Array.getElem?_eq_none (Nat.le_refl _)
    unfold Follows at h
    rw [hnone] at h
    have hrun : (s.begin limits x source).2.runs[s.runs.size]? =
        some { limits, context := x, source } := Array.getElem?_push_size
    unfold Follows
    rw [hrun, h]
    exact .fresh
  · refine h.of_runs rfl ?_
    rw [Session.begin, Array.getElem?_push, if_neg hi]

theorem Follows.enter (h : s.Follows i k?) : (s.enter i).Follows i (s.enterCourse i k?) := by
  unfold Session.enter enterCourse
  cases hr : s.runs[i]? with
  | none => exact h
  | some r =>
    obtain ⟨limits, x, source, st⟩ := r
    cases st with
    | fresh =>
      dsimp only
      cases hdone : s.done x with
      | some reason =>
        exact follows_put hr rfl rfl (.returned (h.accords hr).of (.inr ⟨reason, rfl⟩))
      | none => exact follows_put hr rfl rfl (.racing (.begun s.now))
    | racing | decided | returned | dropped => exact h

theorem Follows.turnGuest {limits : Limits} {x : Context} {source : String} {k : Course}
    (hr : s.runs[i]? = some ⟨limits, x, source, .racing k.progress⟩)
    (hk : k.Of (s.evaluator.settingsWithin limits) s.evaluator.host.guest (Utf8.encode source))
    (limit : Nat) :
    (s.turnGuest i limits x k.progress limit).Follows i (s.turnCourse i limit (some k)) := by
  unfold turnCourse
  rw [hr]
  dsimp only [Option.map]
  generalize hk' : (k.wait s.now).runUntil (s.evaluator.settingsWithin limits)
    s.evaluator.host.guest (min limit x.deadline) = k'
  have hof : k'.Of (s.evaluator.settingsWithin limits) s.evaluator.host.guest
      (Utf8.encode source) := hk' ▸ (hk.wait s.now).runUntil _
  -- the course comes to where the guest's turn leads
  have hprogress : (s.within limits).runUntil (min limit x.deadline) (awaken s.now k.progress) =
      k'.progress := by
    rw [← hk', Course.progress_runUntil]
    rfl
  have hmem : ∀ k ∈ some k', k.Of (s.evaluator.settingsWithin limits) s.evaluator.host.guest
      (Utf8.encode source) := by
    intro k hk
    obtain rfl := Option.some.inj hk
    exact hof
  unfold Session.turnGuest
  dsimp only
  rw [hprogress]
  cases hp : k'.progress with
  | ended e =>
    refine follows_put hr rfl rfl (.decided hmem false (.inl ⟨k', e, rfl, hp, rfl⟩))
  | running g =>
    dsimp only
    split_ifs
    · exact follows_put hr rfl rfl (.decided hmem false (.inr ⟨_, rfl⟩))
    · exact follows_put hr rfl rfl (hp ▸ .racing hof)

theorem Follows.turn (h : s.Follows i k?) (limit : Nat) (b : Branch) :
    (s.turn i limit b).Follows i (s.extend i k? (.turn i limit b)) := by
  unfold Session.turn
  split
  next limits x source p hr =>
    have haccords := h.accords hr
    cases b with
    | guest =>
      cases haccords with
      | racing hk =>
        simp only [extend, if_true]
        exact Follows.turnGuest hr hk limit
    | deadline =>
      dsimp only [extend]
      split_ifs
      · exact follows_put hr rfl rfl (.decided haccords.of true (.inr ⟨_, rfl⟩))
      · exact h
    | cancellation =>
      dsimp only [extend]
      split_ifs
      · exact follows_put hr rfl rfl (.decided haccords.of true (.inr ⟨_, rfl⟩))
      · exact h
  next hno =>
    cases b with
    | guest =>
      simp only [extend, if_true, turnCourse]
      exact h
    | deadline | cancellation => exact h

theorem Follows.leave (h : s.Follows i k?) : (s.leave i).Follows i k? := by
  unfold Session.leave
  split
  next holds result hst =>
    obtain ⟨r, hr, hrst⟩ := exists_run (s := s) (i := i) (by simp [hst])
    have haccords := h.accords hr
    rw [hrst, hst] at haccords
    cases haccords with
    | decided hk _ hresult =>
      cases holds with
      | true => exact follows_put hr rfl rfl (.returned hk hresult)
      | false => exact follows_put hr rfl rfl (.returned hk hresult)
  next => exact h

theorem Follows.drop (h : s.Follows i k?) : (s.drop i).Follows i k? := by
  unfold Session.drop
  dsimp only
  cases hr : s.runs[i]? with
  | none =>
    -- there is no such evaluation, and so nothing to drop
    have hruns : ∀ s' : Session, s'.runs = s.runs → (s'.put i .dropped).runs[i]? = none := by
      intro s' hs'
      rw [getElem?_put, if_pos rfl, hs', hr]
      rfl
    split_ifs
    · exact h
    · exact h.of_runs rfl ((hruns _ rfl).trans hr.symm)
    · exact h.of_runs rfl ((hruns _ rfl).trans hr.symm)
  | some r =>
    have hof := (h.accords hr).of
    split_ifs
    · exact h
    · exact follows_put hr rfl rfl (.dropped hof)
    · exact follows_put hr rfl rfl (.dropped hof)

/-- Every operation leaves every evaluation in accord with its course. -/
theorem Follows.perform (h : s.Follows i k?) (op : Operation) :
    (s.perform op).Follows i (s.extend i k? op) := by
  cases op with
  | context | childContext | token | cancel | pass | keep => exact h
  | begin limits x source => exact h.begin limits x source
  | enter j =>
    by_cases hj : j = i
    · subst hj
      simp only [extend, if_true]
      exact h.enter
    · simp only [extend, if_neg hj]
      exact h.of_runs (s.evaluator_perform (.enter j)) (getElem?_enter_of_ne (Ne.symm hj))
  | turn j limit b =>
    by_cases hj : j = i
    · subst hj
      exact h.turn limit b
    · have hsame : s.extend i k? (.turn j limit b) = k? := by
        cases b with
        | guest => exact if_neg hj
        | deadline | cancellation => rfl
      rw [hsame]
      exact h.of_runs (s.evaluator_perform (.turn j limit b))
        (getElem?_turn_of_ne limit b (Ne.symm hj))
  | leave j =>
    by_cases hj : j = i
    · subst hj
      exact h.leave
    · exact h.of_runs (s.evaluator_perform (.leave j)) (getElem?_leave_of_ne (Ne.symm hj))
  | drop j =>
    by_cases hj : j = i
    · subst hj
      exact h.drop
    · exact h.of_runs (s.evaluator_perform (.drop j)) (getElem?_drop_of_ne (Ne.symm hj))
  | dropHost =>
    obtain ⟨hosted, handles, hdrop⟩ := s.exists_dropHost_eq
    rw [Session.perform, hdrop]
    exact h
  | shutdown =>
    obtain ⟨now, hosted, handles, hshutdown⟩ := s.exists_shutdown_eq
    rw [Session.perform, hshutdown]
    exact h

theorem follows_course (e : Evaluator) (ops : List Operation) (i : Nat) :
    ((ofEvaluator e).performAll ops).Follows i (course e ops i) :=
  course_induct (P := fun s k? => s.Follows i k?) rfl (fun _ _ op _ h => h.perform op) ops

/-- After all operations, an evaluation is in accord with its course. -/
theorem accords_course {ops : List Operation} {r : Run}
    (hr : ((ofEvaluator e).performAll ops).runs[i]? = some r) :
    Accords (e.settingsWithin r.limits) e.host.guest (Utf8.encode r.source) r.stage
      (course e ops i) := by
  have haccords := (follows_course e ops i).accords hr
  rw [evaluator_performAll] at haccords
  exact haccords

/-- The course of an evaluation is one that the runs of the guest can take. -/
theorem exists_run_of_course {ops : List Operation} {k : Course} (h : course e ops i = some k) :
    ∃ r, ((ofEvaluator e).performAll ops).runs[i]? = some r ∧
      k.Of (e.settingsWithin r.limits) e.host.guest (Utf8.encode r.source) := by
  cases hr : ((ofEvaluator e).performAll ops).runs[i]? with
  | none =>
    -- an evaluation that was not called for has no course
    have hfollows := follows_course e ops i
    unfold Follows at hfollows
    rw [hr] at hfollows
    rw [hfollows] at h
    cases h
  | some r => exact ⟨r, rfl, (accords_course hr).of k h⟩

/-- What an evaluation has returned is what its course has come to, or tells of an interrupt. -/
theorem of_returned {ops : List Operation} {result : Evaluation.Result}
    (h : ((ofEvaluator e).performAll ops).stage i = .returned result) :
    ∃ r, ((ofEvaluator e).performAll ops).runs[i]? = some r ∧
      (∀ k ∈ course e ops i,
        k.Of (e.settingsWithin r.limits) e.host.guest (Utf8.encode r.source)) ∧
      Accounted (course e ops i) result := by
  obtain ⟨r, hr, hstage⟩ := exists_run (s := (ofEvaluator e).performAll ops) (i := i) (by simp [h])
  have haccords := accords_course hr
  rw [hstage, h] at haccords
  cases haccords with
  | returned hk hresult => exact ⟨r, hr, hk, hresult⟩

/-- What an evaluation has returned that was not interrupted. -/
theorem exists_ended_of_returned {ops : List Operation} {result : Evaluation.Result}
    (h : ((ofEvaluator e).performAll ops).stage i = .returned result)
    (hresult : ∀ reason, result ≠ .error (.ofInterrupt reason)) :
    ∃ r k ended, ((ofEvaluator e).performAll ops).runs[i]? = some r ∧
      course e ops i = some k ∧
      k.Of (e.settingsWithin r.limits) e.host.guest (Utf8.encode r.source) ∧
      k.progress = .ended ended ∧ result = ended.result := by
  obtain ⟨r, hr, hof, haccounted⟩ := of_returned h
  rcases haccounted with ⟨k, ended, hk, hended, rfl⟩ | ⟨reason, rfl⟩
  · exact ⟨r, k, ended, hr, hk, hof k hk, hended, rfl⟩
  · exact absurd rfl (hresult reason)

theorem moments_eq {ops : List Operation} {k : Course} (h : course e ops i = some k) :
    moments e ops i = k.moments := by
  rw [moments, h]
  rfl

/-! ### Courses that have come to their end -/

/-- A course that has come to its end stays as it is. -/
theorem extend_of_ended {k : Course} {ended : Ended} (h : s.Follows i (some k))
    (hended : k.progress = .ended ended) (op : Operation) :
    s.extend i (some k) op = some k := by
  cases op with
  | enter j =>
    by_cases hj : j = i
    · subst hj
      simp only [extend, if_true, enterCourse]
      split
      next limits x source hr =>
        -- an evaluation that was not polled has no course
        cases h.accords hr
      next => rfl
    · exact if_neg hj
  | turn j limit b =>
    cases b with
    | guest =>
      by_cases hj : j = i
      · subst hj
        have hwait : k.wait s.now = k := by
          obtain ⟨moments, progress⟩ := k
          obtain rfl : progress = .ended ended := hended
          rfl
        simp only [extend, if_true, turnCourse, Option.map_some, hwait]
        split
        next => rw [Course.runUntil, Course.advance_of_ended hended]
        next => rfl
      · exact if_neg hj
    | deadline | cancellation => rfl
  | context | childContext | token | cancel | pass | begin | keep | leave | drop | dropHost
    | shutdown => rfl

/-- What is found of a compiled guest holds of some host. -/
theorem exists_compiled {image : List UInt8} {options : Options} {P : Host → Bool}
    (h : (Host.compile image options).toOption.any P = true) :
    ∃ host, Host.compile image options = .ok host ∧ P host = true := by
  cases hhost : Host.compile image options with
  | error e =>
    rw [hhost] at h
    cases h
  | ok host =>
    rw [hhost] at h
    exact ⟨host, rfl, h⟩

/-- An evaluator that gives a guest one page of memory and little time. -/
def onePage (h : Host) : Evaluator := { host := h, limits := ⟨1, 5000⟩ }

/-- An evaluation from its beginning to its end. -/
def wholeRun : List Operation :=
  [.begin ⟨1, 5000⟩ ⟨5000, 0⟩ "", .enter 0, .turn 0 5000 .guest, .leave 0]

end Session

end ScriptSandbox.Sandbox
