import ScriptSandbox.Proofs.Sandbox.Histories
import ScriptSandbox.Proofs.Sandbox.Later

/-!
# Evaluations that nothing disturbs

An evaluation whose context is not done is run up to its deadline by a single poll. In a new session
in which nothing else happens, its course is that of a run which begins at time 0 and never waits.

## Main definitions

* `Sandbox.Session.alone`: all that happens in a session with a single evaluation
* `Sandbox.Session.evaluateAlone`, `Sandbox.Session.courseAlone`: its result and its course

## Main results

* `Sandbox.Session.stage_poll_of_not_done`: what a first poll up to the deadline comes to
* `Sandbox.Session.course_alone`, `Sandbox.Session.evaluateAlone_of_pos`: what comes of a single
  evaluation
-/

namespace ScriptSandbox.Sandbox.Session

variable {s : Session} {i : Nat} {limits : Limits} {x : Context} {code : String}

/-! ### Polls of a context that is not done -/

theorem not_isCanceled_of_not_done (h : s.done x = none) :
    s.tokens.isCanceled x.token = false ∧ s.now < x.deadline := by
  unfold done Context.done at h
  split_ifs at h with hcanceled hle
  exact ⟨Bool.eq_false_of_not_eq_true hcanceled, Nat.lt_of_not_le hle⟩

/-- As long as its context is not done, an evaluation is not interrupted. -/
theorem turn_of_not_done (h : s.done x = none) {p : Progress}
    (hr : s.runs[i]? = some ⟨limits, x, code, .racing p⟩) (limit : Nat) {b : Branch}
    (hb : b ≠ .guest) : s.turn i limit b = s := by
  obtain ⟨hcanceled, hlt⟩ := not_isCanceled_of_not_done h
  unfold turn
  rw [hr]
  cases b with
  | guest => exact absurd rfl hb
  | deadline => exact if_neg (Nat.not_le.mpr hlt)
  | cancellation => exact if_neg (by rw [hcanceled]; exact Bool.false_ne_true)

/-- An evaluation that has created its instance. -/
def entered (s : Session) (i : Nat) (limits : Limits) (code : String) : Session :=
  (s.create i).put i (.racing ((s.within limits).create code s.now))

theorem enter_of_not_done (h : s.done x = none) (hr : s.runs[i]? = some ⟨limits, x, code, .fresh⟩) :
    s.enter i = s.entered i limits code := by
  unfold enter
  rw [hr]
  dsimp only
  rw [h]
  rfl

theorem getElem?_entered (hr : s.runs[i]? = some ⟨limits, x, code, .fresh⟩) :
    (s.entered i limits code).runs[i]? =
      some ⟨limits, x, code, .racing ((s.within limits).create code s.now)⟩ := by
  have hr' : (s.create i).runs[i]? = some ⟨limits, x, code, .fresh⟩ := hr
  rw [entered, getElem?_put, if_pos rfl, hr']
  rfl

/-- The first poll of an evaluation whose context is not done is a turn of its guest. -/
theorem poll_of_not_done (h : s.done x = none) (hr : s.runs[i]? = some ⟨limits, x, code, .fresh⟩)
    (limit : Nat) :
    s.poll i limit = ((s.entered i limits code).turn i limit .guest).leave i := by
  have hrun := getElem?_entered hr
  have hdone : (s.entered i limits code).done x = none := h
  unfold poll
  dsimp only
  rw [enter_of_not_done h hr, turn_of_not_done hdone hrun limit (by decide),
    turn_of_not_done hdone hrun limit (by decide)]

/-- The operations that a poll consists of. -/
def polling (i limit : Nat) : List Operation :=
  [.enter i, .turn i limit .cancellation, .turn i limit .deadline, .turn i limit .guest, .leave i]

theorem performAll_polling (s : Session) (i limit : Nat) :
    s.performAll (polling i limit) = s.poll i limit := by
  simp only [polling, performAll_cons, performAll_nil, perform, poll]

/-- The course of an evaluation that was polled once. -/
theorem extendAll_polling (h : s.done x = none)
    (hr : s.runs[i]? = some ⟨limits, x, code, .fresh⟩) (limit : Nat) :
    s.extendAll i none (polling i limit) =
      some (((Course.begun (s.evaluator.settingsWithin limits) s.evaluator.host.guest
          (Utf8.encode code) s.now).wait s.now).runUntil (s.evaluator.settingsWithin limits)
        s.evaluator.host.guest (min limit x.deadline)) := by
  have hrun := getElem?_entered hr
  have hdone : (s.entered i limits code).done x = none := h
  have henter : s.enterCourse i none = some (.begun (s.evaluator.settingsWithin limits)
      s.evaluator.host.guest (Utf8.encode code) s.now) := by
    unfold enterCourse
    rw [hr]
    dsimp only
    rw [h]
  simp only [polling, extendAll, extend, if_true, perform, henter]
  rw [enter_of_not_done h hr, turn_of_not_done hdone hrun limit (by decide),
    turn_of_not_done hdone hrun limit (by decide)]
  unfold turnCourse
  rw [hrun]
  rfl

/-- What an evaluation returns at its deadline. -/
def resultAt (p : Progress) : Evaluation.Result :=
  match p with
  | .ended e => e.result
  | .running _ => .error (.ofInterrupt .deadlineExceeded)

theorem stage_turnGuest {p : Progress} (hr : s.runs[i]? = some ⟨limits, x, code, .racing p⟩) :
    (s.turnGuest i limits x p x.deadline).stage i =
      .decided false (resultAt ((s.within limits).runUntil x.deadline (awaken s.now p))) := by
  unfold turnGuest
  dsimp only
  rw [Nat.min_self]
  cases (s.within limits).runUntil x.deadline (awaken s.now p) with
  | ended e =>
    -- neither the time nor the release touches the evaluations
    have hr' : ({ s with now := max s.now e.clock }.release i).runs[i]? = some _ := hr
    exact stage_put_self hr'
  | running g =>
    dsimp only
    rw [if_pos (Nat.le_refl _)]
    have hr' : ({ s with now := max s.now x.deadline }.release i).runs[i]? = some _ := hr
    exact stage_put_self hr'

theorem stage_leave {r : Evaluation.Result} (h : s.stage i = .decided false r) :
    (s.leave i).stage i = .returned r := by
  obtain ⟨run, hrun, -⟩ := exists_run (s := s) (i := i) (by simp [h])
  unfold leave
  rw [h]
  exact stage_put_self hrun

/-- An evaluation whose context is not done runs up to its deadline. -/
theorem stage_poll_of_not_done (h : s.done x = none)
    (hr : s.runs[i]? = some ⟨limits, x, code, .fresh⟩) :
    (s.poll i x.deadline).stage i = .returned (resultAt
      ((s.within limits).runUntil x.deadline
        (awaken s.now ((s.within limits).create code s.now)))) := by
  rw [poll_of_not_done h hr, turn, getElem?_entered hr]
  exact stage_leave (stage_turnGuest (getElem?_entered hr))

/-! ### Evaluations alone -/

theorem awaken_zero (p : Progress) : awaken 0 p = p := by
  cases p with
  | running i => rw [awaken, Nat.max_zero]
  | ended e => rfl

theorem wait_zero (k : Course) : k.wait 0 = k := by rw [Course.wait, awaken_zero]

/-- All that happens in a session with a single evaluation. -/
def alone (limits : Limits) (code : String) (deadline : Nat) : List Operation :=
  .context deadline :: .begin limits ⟨deadline, 0⟩ code :: polling 0 deadline

/-- What a single evaluation returns in a new session. -/
def evaluateAlone (e : Evaluator) (limits : Limits) (code : String) (deadline : Nat) :
    Evaluation.Result :=
  let (x, s) := (ofEvaluator e).context deadline
  (s.evaluateWithin limits x code).1

/-- A new session in which an evaluation has been called for. -/
def called (e : Evaluator) (limits : Limits) (code : String) (deadline : Nat) : Session :=
  (((ofEvaluator e).context deadline).2.begin limits ⟨deadline, 0⟩ code).2

section

variable {e : Evaluator} {deadline : Nat}

theorem getElem?_called (e : Evaluator) (limits : Limits) (code : String) (deadline : Nat) :
    (called e limits code deadline).runs[0]? = some ⟨limits, ⟨deadline, 0⟩, code, .fresh⟩ := rfl

/-- Its context is not done yet. -/
theorem done_called (hpos : 0 < deadline) :
    (called e limits code deadline).done ⟨deadline, 0⟩ = none := by
  have hcanceled : (called e limits code deadline).tokens.isCanceled 0 = false := by
    have htoken : (called e limits code deadline).tokens.tokens[0]? = some ⟨none, false⟩ := rfl
    rw [Tokens.isCanceled, htoken]
    rfl
  unfold done Context.done
  dsimp only
  rw [hcanceled, if_neg Bool.false_ne_true]
  exact if_neg (Nat.not_le.mpr hpos)

theorem performAll_alone : (ofEvaluator e).performAll (alone limits code deadline) =
    (called e limits code deadline).poll 0 deadline := by
  rw [alone, performAll_cons, performAll_cons, performAll_polling]
  rfl

theorem evaluateAlone_eq : evaluateAlone e limits code deadline =
    ((called e limits code deadline).complete 0).1 := rfl

/-- What a single evaluation returns is what has become of it. -/
theorem stage_alone : ((ofEvaluator e).performAll (alone limits code deadline)).stage 0 =
    .returned (evaluateAlone e limits code deadline) := by
  have hpoll : ((called e limits code deadline).complete 0).2 =
      (called e limits code deadline).poll 0 deadline := by
    unfold complete
    rw [getElem?_called]
    dsimp only [Option.elim]
  rw [performAll_alone, evaluateAlone_eq, ← hpoll]
  exact stage_complete (getElem?_called e limits code deadline) (by simp)

/-- The course of a single evaluation: a run up to the deadline. -/
def courseAlone (e : Evaluator) (limits : Limits) (code : String) (deadline : Nat) : Course :=
  (Course.begun (e.settingsWithin limits) e.host.guest (Utf8.encode code) 0).runUntil
    (e.settingsWithin limits) e.host.guest deadline

theorem course_alone (hpos : 0 < deadline) :
    course e (alone limits code deadline) 0 = some (courseAlone e limits code deadline) := by
  have hcourse : course e (alone limits code deadline) 0 =
      (called e limits code deadline).extendAll 0 none (polling 0 deadline) := by
    rw [course, alone, extendAll, extendAll]
    rfl
  have hnow : (called e limits code deadline).now = 0 := rfl
  rw [hcourse, extendAll_polling (done_called hpos) (getElem?_called e limits code deadline),
    Nat.min_self, hnow, wait_zero]
  rfl

theorem evaluateAlone_of_pos (hpos : 0 < deadline) : evaluateAlone e limits code deadline =
    resultAt (courseAlone e limits code deadline).progress := by
  have hstage := stage_poll_of_not_done (done_called hpos) (getElem?_called e limits code deadline)
  rw [← performAll_alone, stage_alone] at hstage
  have hnow : (called e limits code deadline).now = 0 := rfl
  rw [Stage.returned.inj hstage, courseAlone, Course.progress_runUntil, hnow, awaken_zero]
  rfl

end

end ScriptSandbox.Sandbox.Session
