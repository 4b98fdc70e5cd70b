import ScriptSandbox.Proofs.Sandbox.Alone
import ScriptSandbox.Proofs.Sandbox.Exits
import ScriptSandbox.Proofs.Sandbox.Likeness

/-!
# Isolation of evaluations

What an evaluation does and returns does not depend on other evaluations. It keeps to its own
deadline, and nothing that the session shares reaches it but the time. If its guest does not observe
that, it does the same as alone in a new session, and no later there than among the others.

## Main definitions

* `Sandbox.Session.KeepsTime`: the course of an evaluation keeps to the deadline of its context

## Main results

* `Sandbox.Session.keepsTime_course`: all courses do
* `Sandbox.Session.isolated`: an evaluation does and returns what it does and returns alone
-/

namespace ScriptSandbox.Sandbox

/-- The same evaluator in another world. -/
def Evaluator.inWorld (e : Evaluator) (w : Wasi.World) : Evaluator :=
  { e with host := { e.host with world := w } }

namespace Session

variable {s : Session} {i : Nat}

/-! ### Deadlines -/

/-- The course of an evaluation keeps to the deadline of its context. -/
def KeepsTime (s : Session) (i : Nat) (k? : Option Course) : Prop :=
  ∀ k ∈ k?, ∃ r, s.runs[i]? = some r ∧ k.Timely r.context.deadline

theorem keepsTime_enterCourse {k? : Option Course} (h : s.KeepsTime i k?) :
    s.KeepsTime i (s.enterCourse i k?) := by
  unfold enterCourse
  split
  next limits x source hr =>
    cases hdone : s.done x with
    | some reason => exact h
    | none =>
      intro k hk
      obtain rfl := Option.some.inj hk
      exact ⟨_, hr, Course.timely_begun (not_isCanceled_of_not_done hdone).2⟩
  next => exact h

theorem keepsTime_turnCourse {k? : Option Course} (h : s.KeepsTime i k?) (limit : Nat) :
    s.KeepsTime i (s.turnCourse i limit k?) := by
  unfold turnCourse
  split
  next limits x source p hr =>
    intro k' hk'
    obtain ⟨k, hk, rfl⟩ := Option.map_eq_some_iff.mp hk'
    obtain ⟨r, hr', htimely⟩ := h k hk
    obtain rfl := Option.some.inj (hr.symm.trans hr')
    have hwait : (k.wait s.now).Timely x.deadline := ⟨htimely.pos, htimely.clock⟩
    exact ⟨_, hr, hwait.advance (Nat.min_le_right _ _) _⟩
  next => exact h

theorem KeepsTime.perform {k? : Option Course} (h : s.KeepsTime i k?) (op : Operation) :
    (s.perform op).KeepsTime i (s.extend i k? op) := by
  have hextend : s.KeepsTime i (s.extend i k? op) :=
    of_extend h (keepsTime_enterCourse h) (keepsTime_turnCourse h) op
  -- no operation binds an evaluation to another context
  intro k hk
  obtain ⟨r, hr, htimely⟩ := hextend k hk
  obtain ⟨r', hr', hcontext⟩ := (s.later_perform op).runs i r hr
  exact ⟨r', hr', hcontext ▸ htimely⟩

theorem keepsTime_course (e : Evaluator) (ops : List Operation) (i : Nat) :
    ((ofEvaluator e).performAll ops).KeepsTime i (course e ops i) :=
  course_induct (P := fun s k? => s.KeepsTime i k?) nofun (fun _ _ op _ h => h.perform op) ops

/-! ### Evaluations among others -/

/-- What an evaluation has done, it does alone as well, in any world and by the same deadline. If it
has come to its end, it does no more than that alone. -/
theorem course_alone_of_course {e : Evaluator} {ops : List Operation} {i : Nat} {k : Course}
    {r : Run} (hk : course e ops i = some k)
    (hr : ((ofEvaluator e).performAll ops).runs[i]? = some r)
    (hobs : ∀ m ∈ k.moments, ¬ m.Observes e.host.guest) (w : Wasi.World) {deadline : Nat}
    (hle : r.context.deadline ≤ deadline) :
    0 < deadline ∧ ∃ k', k.Like k' ∧
      k'.moments <:+ (courseAlone (e.inWorld w) r.limits r.source deadline).moments ∧
      ∀ ended, k'.progress = .ended ended →
        courseAlone (e.inWorld w) r.limits r.source deadline = k' := by
  obtain ⟨r', hr', hof⟩ := exists_run_of_course hk
  obtain ⟨r'', hr'', htimely⟩ := keepsTime_course e ops i k hk
  obtain rfl := Option.some.inj (hr.symm.trans hr')
  obtain rfl := Option.some.inj (hr.symm.trans hr'')
  obtain ⟨n, hlike⟩ := hof.exists_like hobs w
  exact ⟨Nat.lt_of_lt_of_le htimely.pos hle, _, hlike,
    (hlike.timely htimely).suffix_runUntil hle⟩

/-- Among whatever other evaluations, and whatever becomes of them, an evaluation that observes
neither clocks nor random bytes does what it does alone in a new session of the same guest with the
same options, moment by moment: each of its moments finds the same memories, globals, unread input
and captured output. Unless it is interrupted, it returns what it returns alone, given as much
time. -/
theorem isolated (e : Evaluator) (w : Wasi.World) (ops : List Operation) (i : Nat) (r : Run)
    (hr : ((ofEvaluator e).performAll ops).runs[i]? = some r)
    (hobs : ∀ m ∈ moments e ops i, ¬ m.Observes e.host.guest) (deadline : Nat)
    (hle : r.context.deadline ≤ deadline) :
    (∃ ms, ms <:+ moments (e.inWorld w) (alone r.limits r.source deadline) 0 ∧
      List.Forall₂ Moment.Like (moments e ops i) ms) ∧
    ∀ result, r.stage = .returned result → (∀ reason, result ≠ .error (.ofInterrupt reason)) →
      evaluateAlone (e.inWorld w) r.limits r.source deadline = result ∧
      List.Forall₂ Moment.Like (moments e ops i)
        (moments (e.inWorld w) (alone r.limits r.source deadline) 0) := by
  cases hk : course e ops i with
  | none =>
    have hnone : moments e ops i = [] := by rw [moments, hk]; rfl
    rw [hnone]
    refine ⟨⟨[], List.nil_suffix, .nil⟩, fun result hresult huninterrupted => ?_⟩
    -- an evaluation without a course can only have been interrupted
    obtain ⟨-, k, -, -, hk', -⟩ :=
      exists_ended_of_returned ((stage_eq hr).trans hresult) huninterrupted
    rw [hk] at hk'
    cases hk'
  | some k =>
    rw [moments_eq hk] at hobs ⊢
    obtain ⟨hpos, k', hlike, hsuffix, hended⟩ := course_alone_of_course hk hr hobs w hle
    rw [moments_eq (course_alone hpos)]
    refine ⟨⟨k'.moments, hsuffix, hlike.moments⟩, fun result hresult huninterrupted => ?_⟩
    obtain ⟨-, k₁, ended, -, hk₁, -, hprogress, rfl⟩ :=
      exists_ended_of_returned ((stage_eq hr).trans hresult) huninterrupted
    obtain rfl := Option.some.inj (hk.symm.trans hk₁)
    obtain ⟨ended', hprogress', hresults⟩ := hlike.exists_ended hprogress
    rw [evaluateAlone_of_pos hpos, hended ended' hprogress']
    refine ⟨?_, hlike.moments⟩
    rw [hprogress']
    exact hresults

/-- An evaluation among others, of which one is interrupted and one is dropped. -/
def crowded : List Operation :=
  [.begin ⟨1, 5000⟩ ⟨5000, 0⟩ "", .begin ⟨2, 20⟩ ⟨20, 0⟩ "1", .begin ⟨0, 90⟩ ⟨90, 0⟩ "", .enter 1,
   .enter 2, .turn 1 20 .guest, .enter 0, .drop 2, .turn 0 5000 .guest, .leave 0]

/-- Whether the first evaluation has returned an error, while the guest cannot observe anything. -/
def failsUnobserved (error : Evaluation.Error) (h : Host) : Bool :=
  error? (((ofEvaluator (onePage h)).performAll crowded).stage 0) = some error &&
    h.guest.imports.all fun f => f ≠ .clockTimeGet && f ≠ .randomGet && f ≠ .pollOneoff

set_option maxRecDepth 100000 in
/-- A guest that exits does so alone as well. -/
theorem isolated_crowded : ∃ h r, Host.compile (exiting 7) ⟨1, 1, 1000⟩ = .ok h ∧
    ((ofEvaluator (onePage h)).performAll crowded).runs[0]? = some r ∧
    r.stage = .returned (.error (.executionExit 7 "")) ∧
    evaluateAlone ((onePage h).inWorld {}) r.limits r.source r.context.deadline =
      .error (.executionExit 7 "") := by
  have hrun : (Host.compile (exiting 7) ⟨1, 1, 1000⟩).toOption.any
      (failsUnobserved (.executionExit 7 "")) = true := by
    decide +kernel
  obtain ⟨h, hh, hrun⟩ := exists_compiled hrun
  simp only [failsUnobserved, Bool.and_eq_true, Array.all_eq_true', decide_eq_true_eq] at hrun
  obtain ⟨herror, himports⟩ := hrun
  have hstage := stage_of_error? herror
  obtain ⟨r, hr, hrst⟩ := exists_run (i := 0) (by rw [hstage]; nofun)
  rw [hstage] at hrst
  have hobs : ∀ m ∈ moments (onePage h) crowded 0, ¬ m.Observes h.guest := by
    refine fun m _ => Moment.not_observes (fun f hf => ?_) m
    obtain ⟨⟨hclock, hrandom⟩, hpoll⟩ := himports f hf
    exact ⟨hclock, hrandom, hpoll⟩
  obtain ⟨-, hreturns⟩ := isolated (onePage h) {} crowded 0 r hr hobs _ (Nat.le_refl _)
  exact ⟨h, r, hh, hr, hrst, (hreturns _ hrst nofun).1⟩

end Session

end ScriptSandbox.Sandbox
