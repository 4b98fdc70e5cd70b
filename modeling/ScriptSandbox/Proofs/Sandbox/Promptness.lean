import ScriptSandbox.Proofs.Sandbox.Interruptions
import ScriptSandbox.Proofs.Sandbox.Likeness

/-!
# Evaluations that are given enough time

A guest that observes neither clocks nor random bytes runs in the same way at any time. So wherever
its evaluation stands, it has no more before it than a run that begins now, and a poll that is long
enough for such a run is long enough for the evaluation.

## Main definitions

* `Sandbox.Session.IsAhead`: the course of an evaluation is no later than a run that begins now

## Main results

* `Sandbox.Session.isAhead_course`: this holds of every course of a guest that observes nothing
* `Sandbox.Session.stage_poll_of_ended`: a poll that is long enough
-/

namespace ScriptSandbox.Sandbox

variable {e : Evaluator} {g : Guest} {c : Settings} {k : Course} {i limit n : Nat}

namespace Course

/-- What ends in some time for a later run ends by then for an earlier one. -/
theorem Like.exists_ended_runUntil {source : List UInt8} {clock n' : Nat} {ended : Ended}
    (h : ((Course.go c g)^[n] (begun c g source clock)).Like k)
    (hobs : ∀ m : Moment, ¬ m.Observes g)
    (hended : ((Course.go c g)^[n'] (begun c g source clock)).progress = .ended ended)
    (hpos : 0 < limit) (hle : ended.clock ≤ limit) :
    ∃ ended', (k.runUntil c g limit).progress = .ended ended' ∧
      ended'.result = ended.result := by
  -- both runs make as many steps more as the later one takes from its beginning
  have hlike : ((Course.go c g)^[n' + n] (begun c g source clock)).Like
      ((Course.go c g)^[n'] k) := by
    rw [Function.iterate_add_apply]
    exact h.iterate (w := c.world) hobs n'
  have hsame : (Course.go c g)^[n' + n] (begun c g source clock) =
      (Course.go c g)^[n'] (begun c g source clock) := by
    rw [Nat.add_comm, Function.iterate_add_apply, iterate_of_ended hended]
  rw [hsame] at hlike
  have htimely : ((Course.go c g)^[n'] (begun c g source clock)).Timely limit := by
    refine ⟨hpos, fun m hm => ?_⟩
    have hclock := clock_le_of_mem_iterate hm
    rw [hended] at hclock
    exact Nat.lt_of_le_of_lt (Nat.le_trans hclock hle) (Nat.lt_add_of_pos_right (by decide))
  obtain ⟨ended', hended', hresult⟩ := hlike.exists_ended hended
  obtain ⟨-, hstop⟩ := (hlike.timely htimely).suffix_runUntil (Nat.le_refl limit)
  exact ⟨ended', by rw [hstop ended' hended', hended'], hresult⟩

end Course

namespace Session

variable {s : Session} {r : Run} {k? : Option Course}

/-- The run of an evaluation, if it began now. -/
def begunNow (s : Session) (r : Run) : Course :=
  .begun (s.evaluator.settingsWithin r.limits) s.evaluator.host.guest (Utf8.encode r.source) s.now

/-- The course of an evaluation is no later than a run that begins now. -/
def IsAhead (s : Session) (i : Nat) (k? : Option Course) : Prop :=
  ∀ k ∈ k?, ∃ r n, s.runs[i]? = some r ∧
    ((Course.go (s.evaluator.settingsWithin r.limits) s.evaluator.host.guest)^[n]
      (s.begunNow r)).Like k

section

variable (hobs : ∀ m : Moment, ¬ m.Observes s.evaluator.host.guest)
include hobs

theorem isAhead_enterCourse (h : s.IsAhead i k?) : s.IsAhead i (s.enterCourse i k?) := by
  unfold enterCourse
  split
  next limits x source hr =>
    cases s.done x with
    | some reason => exact h
    | none =>
      intro k hk
      obtain rfl := Option.some.inj hk
      refine ⟨_, 0, hr, ?_⟩
      exact Course.like_begun (w := (s.evaluator.settingsWithin limits).world) (Nat.le_refl _)
        fun m _ => hobs m
  next => exact h

theorem isAhead_turnCourse (h : s.IsAhead i k?) (limit : Nat) :
    s.IsAhead i (s.turnCourse i limit k?) := by
  unfold turnCourse
  split
  next limits x source p hr =>
    intro k' hk'
    obtain ⟨k, hk, rfl⟩ := Option.map_eq_some_iff.mp hk'
    obtain ⟨r, n, hr', hlike⟩ := h k hk
    obtain rfl := Option.some.inj (hr.symm.trans hr')
    obtain ⟨n', hn', -⟩ := (k.wait s.now).exists_iterate_runUntil
      (c := s.evaluator.settingsWithin limits) (g := s.evaluator.host.guest) (min limit x.deadline)
    -- a run that begins now has not come to an earlier time
    have hwait := hlike.wait_of_le (Course.le_clock_iterate_begun s.now n)
    refine ⟨_, n' + n, hr, ?_⟩
    rw [Function.iterate_add_apply, hn']
    exact hwait.iterate (w := (s.evaluator.settingsWithin limits).world) hobs n'
  next => exact h

/-- No operation lets an evaluation fall behind. -/
theorem IsAhead.perform (h : s.IsAhead i k?) (op : Operation) :
    (s.perform op).IsAhead i (s.extend i k? op) := by
  have hextend : s.IsAhead i (s.extend i k? op) :=
    of_extend h (isAhead_enterCourse hobs h) (isAhead_turnCourse hobs h) op
  intro k hk
  obtain ⟨r, n, hr, hlike⟩ := hextend k hk
  obtain ⟨st, hr'⟩ := exists_run_perform hr op
  refine ⟨_, n, hr', ?_⟩
  -- what begins later is later all the way
  have hnow : s.now ≤ (s.perform op).now := (s.later_perform op).now
  have hbegun : ((s.perform op).begunNow { r with stage := st }).Like (s.begunNow r) := by
    unfold begunNow
    rw [evaluator_perform]
    exact Course.like_begun (w := (s.evaluator.settingsWithin r.limits).world) hnow
      fun m _ => hobs m
  rw [evaluator_perform]
  exact (hbegun.iterate (w := (s.evaluator.settingsWithin r.limits).world) hobs n).trans hlike

end

theorem isAhead_course (hobs : ∀ m : Moment, ¬ m.Observes e.host.guest) (ops : List Operation)
    (i : Nat) : ((ofEvaluator e).performAll ops).IsAhead i (course e ops i) :=
  course_induct (P := fun s k? => s.IsAhead i k?) nofun
    (fun _ _ op hs h => h.perform (hs ▸ hobs) op) ops

/-! ### Polls that are long enough -/

section

variable {limits : Limits} {x : Context} {source : String} {ended : Ended}

/-- An evaluation that was polled before goes on where it was. -/
theorem enter_of_not_fresh (hr : s.runs[i]? = some r) (hst : r.stage ≠ .fresh) :
    s.enter i = s := by
  unfold enter
  split
  next limits x source hr' =>
    obtain rfl := Option.some.inj (hr.symm.trans hr')
    exact absurd rfl hst
  next => rfl

theorem poll_of_racing {p : Progress} (hr : s.runs[i]? = some ⟨limits, x, source, .racing p⟩)
    (hdone : s.done x = none) (limit : Nat) : s.poll i limit = (s.turn i limit .guest).leave i := by
  unfold poll
  dsimp only
  rw [enter_of_not_fresh hr nofun, turn_of_not_done hdone hr limit (by decide),
    turn_of_not_done hdone hr limit (by decide)]

/-- A poll of an evaluation whose result is there does not change it. -/
theorem stage_poll_of_isSettled {result : Evaluation.Result} (hr : s.runs[i]? = some r)
    (hresult : r.stage.outcome? = some result) (limit : Nat) :
    (s.poll i limit).stage i = .returned result := by
  have hfresh : r.stage ≠ .fresh := by
    intro hst
    rw [hst] at hresult
    cases hresult
  have hracing (p : Progress) : s.stage i ≠ .racing p := by
    intro hst
    rw [stage_eq hr] at hst
    rw [hst] at hresult
    cases hresult
  unfold poll
  dsimp only
  rw [enter_of_not_fresh hr hfresh, turn_of_not_racing hracing, turn_of_not_racing hracing,
    turn_of_not_racing hracing]
  unfold leave
  rw [stage_eq hr]
  cases hst : r.stage with
  | decided holds result' =>
    rw [hst] at hresult
    obtain rfl := Option.some.inj hresult
    have hleft : (if holds then s.release i else s).runs[i]? = some r := by
      split_ifs
      · exact hr
      · exact hr
    exact stage_put_self hleft
  | returned result' =>
    rw [hst] at hresult
    obtain rfl := Option.some.inj hresult
    exact (stage_eq hr).trans hst
  | fresh | racing | dropped =>
    rw [hst] at hresult
    cases hresult

/-- The guest's turn up to its end, before the deadline. -/
theorem stage_turn_of_ended {p : Progress}
    (hr : s.runs[i]? = some ⟨limits, x, source, .racing p⟩) (hlimit : limit ≤ x.deadline)
    (hended : (s.within limits).runUntil limit (awaken s.now p) = .ended ended) :
    (s.turn i limit .guest).stage i = .decided false ended.result := by
  unfold turn
  rw [hr]
  unfold turnGuest
  dsimp only
  rw [Nat.min_eq_left hlimit, hended]
  -- neither the time nor the release touches the evaluations
  have hr' : ({ s with now := max s.now ended.clock }.release i).runs[i]? = some _ := hr
  exact stage_put_self hr'

variable (hobs : ∀ m : Moment, ¬ m.Observes s.evaluator.host.guest)
  (hdone : s.done x = none) (hpos : 0 < limit) (hlimit : limit ≤ x.deadline)
  (hended : ((Course.go (s.evaluator.settingsWithin limits) s.evaluator.host.guest)^[n]
    (.begun (s.evaluator.settingsWithin limits) s.evaluator.host.guest (Utf8.encode source)
      s.now)).progress = .ended ended)
  (hle : ended.clock ≤ limit)
include hobs hdone hpos hlimit hended hle

theorem stage_poll_of_racing
    (hr : s.runs[i]? = some ⟨limits, x, source, .racing k.progress⟩)
    (h : s.IsAhead i (some k)) : (s.poll i limit).stage i = .returned ended.result := by
  obtain ⟨r, n', hr', hlike⟩ := h k rfl
  obtain rfl := Option.some.inj (hr.symm.trans hr')
  have hwait := hlike.wait_of_le (Course.le_clock_iterate_begun s.now n')
  obtain ⟨ended', hended', hresult⟩ := hwait.exists_ended_runUntil hobs hended hpos hle
  have hrun : (s.within limits).runUntil limit (awaken s.now k.progress) = .ended ended' := by
    rw [← hended', Course.progress_runUntil]
    rfl
  rw [poll_of_racing hr hdone, ← hresult]
  exact stage_leave (stage_turn_of_ended hr hlimit hrun)

/-- The first poll is long enough if it is for a run that begins now. -/
theorem stage_poll_of_fresh (hr : s.runs[i]? = some ⟨limits, x, source, .fresh⟩) :
    (s.poll i limit).stage i = .returned ended.result := by
  have hrun := getElem?_entered hr
  have hahead : (s.entered i limits source).IsAhead i (some (.begun
      (s.evaluator.settingsWithin limits) s.evaluator.host.guest (Utf8.encode source) s.now)) := by
    intro k hk
    obtain rfl := Option.some.inj hk
    refine ⟨_, 0, hrun, ?_⟩
    exact Course.like_begun (w := (s.evaluator.settingsWithin limits).world) (Nat.le_refl _)
      fun m _ => hobs m
  have hentered := stage_poll_of_racing (s := s.entered i limits source) hobs hdone hpos hlimit
    hended hle hrun hahead
  rw [poll_of_racing hrun hdone] at hentered
  rw [poll_of_not_done hdone hr]
  exact hentered

end

/-- If a run that began now would end in some time, an evaluation that is polled for as long returns
what that run comes to, wherever it stands. -/
theorem stage_poll_of_ended {ops : List Operation} {ended : Ended}
    (hobs : ∀ m : Moment, ¬ m.Observes e.host.guest)
    (hr : ((ofEvaluator e).performAll ops).runs[i]? = some r) (hst : r.stage ≠ .dropped)
    (hdone : ((ofEvaluator e).performAll ops).done r.context = none) (hpos : 0 < limit)
    (hlimit : limit ≤ r.context.deadline)
    (hended : ((Course.go (e.settingsWithin r.limits) e.host.guest)^[n]
      (.begun (e.settingsWithin r.limits) e.host.guest (Utf8.encode r.source)
        ((ofEvaluator e).performAll ops).now)).progress = .ended ended)
    (hle : ended.clock ≤ limit) :
    (((ofEvaluator e).performAll ops).poll i limit).stage i = .returned ended.result := by
  have hahead := isAhead_course hobs ops i
  have hevaluator : ((ofEvaluator e).performAll ops).evaluator = e := evaluator_performAll _ ops
  cases hresult : r.stage.outcome? with
  | some result =>
    -- the result is there, and it can only be that of the guest
    rw [stage_poll_of_isSettled hr hresult]
    obtain ⟨hcanceled, hlt⟩ := not_isCanceled_of_not_done hdone
    cases justifies_course e ops i r hr result hresult with
    | @completed k ended' hk hended' =>
      obtain ⟨r', n', hr', hlike⟩ := hahead k hk
      obtain rfl := Option.some.inj (hr.symm.trans hr')
      rw [begunNow, hevaluator] at hlike
      obtain ⟨ended'', hended'', hsame⟩ := hlike.exists_ended_runUntil hobs hended hpos hle
      rw [Course.runUntil, Course.advance_of_ended hended'] at hended''
      obtain rfl := Progress.ended.inj (hended'.symm.trans hended'')
      rw [hsame]
    | late h => exact absurd h (Nat.not_le.mpr hlt)
    | canceled h =>
      rw [hcanceled] at h
      cases h
  | none =>
    have haccords := accords_course hr
    obtain ⟨limits, x, source, st⟩ := r
    have hobs' (m : Moment) :
        ¬ m.Observes ((ofEvaluator e).performAll ops).evaluator.host.guest := by
      rw [hevaluator]
      exact hobs m
    have hended' : ((Course.go (((ofEvaluator e).performAll ops).evaluator.settingsWithin limits)
        ((ofEvaluator e).performAll ops).evaluator.host.guest)^[n]
        (.begun (((ofEvaluator e).performAll ops).evaluator.settingsWithin limits)
          ((ofEvaluator e).performAll ops).evaluator.host.guest (Utf8.encode source)
          ((ofEvaluator e).performAll ops).now)).progress = .ended ended := by
      rw [hevaluator]
      exact hended
    cases st with
    | fresh => exact stage_poll_of_fresh hobs' hdone hpos hlimit hended' hle hr
    | racing p =>
      generalize course e ops i = k? at haccords hahead
      cases haccords with
      | racing => exact stage_poll_of_racing hobs' hdone hpos hlimit hended' hle hr hahead
    | decided | returned => cases hresult
    | dropped => exact absurd rfl hst

end Session

end ScriptSandbox.Sandbox
