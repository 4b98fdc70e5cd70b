import ScriptSandbox.Proofs.Sandbox.Courses

/-!
# Runs that are the same but for the time

A run is created from a source and limits of its own. Nothing else reaches it but the time: when it
begins, and how long it waits in between. A guest that observes neither clocks nor random bytes does
not notice that, and runs in the same way at any time and in any world, moment by moment.

## Main definitions

* `Sandbox.Moment.Observes`: a moment at which the guest observes a clock or random bytes
* `Sandbox.Moment.Like`, `Sandbox.Progress.Like`, `Sandbox.Course.Like`: the same, but perhaps
  earlier

## Main results

* `Sandbox.Moment.not_observes`: a guest that imports no function for it observes nothing
* `Sandbox.Moment.Like.progress`: from such moments, runs go on in the same way
* `Sandbox.Course.Of.exists_like`: whatever course a run takes, it takes it without waiting as well
-/

namespace ScriptSandbox.Sandbox

open Wasm (Store Value)

variable {c : Settings} {g : Guest} {source : List UInt8} {k k' k'' : Course}
  {m m' m'' : Moment} {w : Wasi.World} {r : Wasi.Resources} {starting : Bool} {clock clock' : Nat}

/-! ### Observations -/

namespace Moment

/-- The guest observes a clock or random bytes. -/
def Observes (g : Guest) (m : Moment) : Prop :=
  ∃ f args p, m.call? g = some ⟨f, args, some p⟩ ∧ f.Observes args p

/-- A guest that imports no function for it observes neither clocks nor random bytes. -/
theorem not_observes (h : ∀ f ∈ g.imports, f ≠ .clockTimeGet ∧ f ≠ .randomGet ∧ f ≠ .pollOneoff)
    (m : Moment) : ¬ m.Observes g := by
  rintro ⟨f, args, p, hcall?, hobserves⟩
  obtain ⟨index, s, i, -, hf, -⟩ := of_call?_eq_some hcall?
  obtain ⟨hclock, hrandom, hpoll⟩ := h f (Array.mem_of_getElem? hf)
  unfold Wasi.Function.Observes at hobserves
  split at hobserves
  · exact hclock rfl
  · exact hrandom rfl
  · exact hpoll rfl
  · exact hobserves

/-- The second moment is the same as the first one, but it may be earlier. -/
structure Like (m m' : Moment) : Prop where
  resources : m'.resources = m.resources
  starting : m'.starting = m.starting
  step : m'.step = m.step
  clock : m'.clock ≤ m.clock

end Moment

/-! ### Likeness -/

/-- Two runs go on in the same way, or have ended in the same way, the second one perhaps
earlier. -/
inductive Progress.Like : Progress → Progress → Prop
  | running (s : Wasm.State) (r : Wasi.Resources) (starting : Bool) {clock clock' : Nat}
    (h : clock' ≤ clock) :
    Like (.running ⟨s, r, starting, clock⟩) (.running ⟨s, r, starting, clock'⟩)
  | ended (outcome : Evaluation.Outcome) (stdout stderr : List UInt8) {clock clock' : Nat}
    (h : clock' ≤ clock) :
    Like (.ended ⟨outcome, stdout, stderr, clock⟩) (.ended ⟨outcome, stdout, stderr, clock'⟩)

/-- The same moments in the same order, and the same way on, all of it perhaps earlier. -/
structure Course.Like (k k' : Course) : Prop where
  moments : List.Forall₂ Moment.Like k.moments k'.moments
  progress : k.progress.Like k'.progress

theorem Moment.Like.trans (h : m.Like m') (h' : m'.Like m'') : m.Like m'' where
  resources := h'.resources.trans h.resources
  starting := h'.starting.trans h.starting
  step := h'.step.trans h.step
  clock := Nat.le_trans h'.clock h.clock

theorem Progress.Like.trans {p p' p'' : Progress} (h : p.Like p') (h' : p'.Like p'') :
    p.Like p'' := by
  cases h with
  | running s r starting htime =>
    cases h' with
    | running _ _ _ htime' => exact .running s r starting (Nat.le_trans htime' htime)
  | ended outcome stdout stderr htime =>
    cases h' with
    | ended _ _ _ htime' => exact .ended outcome stdout stderr (Nat.le_trans htime' htime)

theorem Course.Like.trans (h : k.Like k') (h' : k'.Like k'') : k.Like k'' := by
  refine ⟨?_, h.progress.trans h'.progress⟩
  have hall : ∀ {ms ms' ms'' : List Moment}, List.Forall₂ Moment.Like ms ms' →
      List.Forall₂ Moment.Like ms' ms'' → List.Forall₂ Moment.Like ms ms'' := by
    intro ms ms' ms'' hms
    induction hms generalizing ms'' with
    | nil => exact id
    | cons hm _ ih =>
      rintro (_ | ⟨hm', hms'⟩)
      exact .cons (hm.trans hm') (ih hms')
  exact hall h.moments h'.moments

/-- The same settings in another world. -/
def Settings.inWorld (c : Settings) (w : Wasi.World) : Settings := { c with world := w }

/-! ### Single moments -/

section

variable (htime : clock' ≤ clock)
include htime

theorem like_endRun (r : Wasi.Resources) (outcome : Evaluation.Outcome) :
    (endRun r clock outcome).Like (endRun r clock' outcome) := .ended _ _ _ htime

/-- A host function answers alike at any time and in any world, if the guest observes nothing by
it. -/
theorem like_callHost {index : Nat} {args : List Value} {s : Wasm.State}
    (hobs : ¬ Moment.Observes g ⟨r, starting, clock, .host index args s⟩) :
    (callHost c g ⟨s, r, starting, clock⟩ index args).Like
      (callHost (c.inWorld w) g ⟨s, r, starting, clock'⟩ index args) := by
  unfold callHost
  dsimp only
  cases hf : g.imports[index]? with
  | none => exact like_endRun htime _ _
  | some f =>
    cases hfound : g.memory?.bind fun m => (s.store.memories[m]?).map (m, ·) with
    | none => exact like_endRun htime _ _
    | some found =>
      obtain ⟨i, memory⟩ := found
      dsimp only
      have hcall : ¬ f.Observes args { r with memory, clock } := by
        intro hobserves
        obtain ⟨i', hi, hfound⟩ := Option.bind_eq_some_iff.mp hfound
        obtain ⟨memory', hmemory, heq⟩ := Option.map_eq_some_iff.mp hfound
        obtain ⟨rfl, rfl⟩ := Prod.mk.inj heq
        exact hobs ⟨f, args, _, by simp [Moment.call?, hf, hi, hmemory], hobserves⟩
      have hsame :
          Wasi.SameButEarlier { r with memory, clock } { r with memory, clock := clock' } :=
        ⟨rfl, rfl, htime⟩
      have halike : Wasi.Alike Wasi.SameButEarlier
          (Wasi.call c.world f args { r with memory, clock })
          (Wasi.call w f args { r with memory, clock := clock' }) :=
        Wasi.alike_call_of_not_observes hcall hsame
      have hworld : (c.inWorld w).world = w := rfl
      have hleft : Wasi.leftBehind w f args { r with memory, clock := clock' } =
          Wasi.leftBehind c.world f args { r with memory, clock } :=
        Wasi.leftBehind_of_not_observes hcall hsame
      rw [hworld, hleft]
      generalize Wasi.call c.world f args _ = answer, Wasi.call w f args _ = answer' at halike
      cases halike with
      | aborted a => exact like_endRun htime _ _
      | @answered results q q' hq =>
        dsimp only
        rw [hq.resources, hq.memory]
        exact .running _ _ _ hq.clock

theorem like_proceed {step : Wasm.Step} (hobs : ¬ Moment.Observes g ⟨r, starting, clock, step⟩) :
    (proceed c g r starting clock step).Like
      (proceed (c.inWorld w) g r starting clock' step) := by
  cases step with
  | next s => exact .running _ _ _ htime
  | host index args s => exact like_callHost htime hobs
  | trapped t s => exact like_endRun htime _ _
  | stuck => exact like_endRun htime _ _
  | returned store results => exact like_endRun htime _ _

theorem like_callStart {store : Store}
    (hobs : ∀ m, startCall? g r clock store = some m → ¬ m.Observes g) :
    (callStart c g r clock store).Like (callStart (c.inWorld w) g r clock' store) := by
  unfold startCall? at hobs
  unfold callStart
  cases hstart : g.start? with
  | none => exact like_endRun htime _ _
  | some f =>
    rw [hstart] at hobs
    dsimp only at hobs ⊢
    cases hmismatch : (g.module.functionType? f).bind startMismatch? with
    | some message => exact like_endRun htime _ _
    | none =>
      rw [hmismatch] at hobs
      exact like_proceed htime (hobs _ rfl)

theorem forall₂_startCall? (g : Guest) (r : Wasi.Resources) (store : Store) :
    List.Forall₂ Moment.Like (startCall? g r clock store).toList
      (startCall? g r clock' store).toList := by
  unfold startCall?
  cases g.start? with
  | none => exact .nil
  | some f =>
    dsimp only
    cases (g.module.functionType? f).bind startMismatch? with
    | some message => exact .nil
    | none => exact .cons ⟨rfl, rfl, rfl, htime⟩ .nil

/-- After the same step, two runs go on in the same way. -/
theorem like_afterStep {step : Wasm.Step}
    (hobs : ∀ m ∈ Course.withNext g ⟨r, starting, clock, step⟩, ¬ m.Observes g) :
    (afterStep c g r starting clock step).Like
      (afterStep (c.inWorld w) g r starting clock' step) := by
  have hlast : ¬ Moment.Observes g ⟨r, starting, clock, step⟩ :=
    hobs _ (Course.mem_withNext g _)
  cases starting with
  | false => exact like_proceed htime hlast
  | true =>
    cases step with
    | returned store results =>
      refine like_callStart htime fun m hm => hobs m (List.mem_append_left _ ?_)
      exact Option.mem_toList.mpr hm
    | next => exact .running _ _ _ htime
    | host => exact like_callHost htime hlast
    | trapped | stuck => exact like_endRun htime _ _

end

namespace Moment

theorem Like.progress (hm : m.Like m') (hobs : ∀ m₁ ∈ Course.withNext g m, ¬ m₁.Observes g) :
    (m.progress c g).Like (m'.progress (c.inWorld w) g) := by
  unfold Moment.progress
  rw [hm.resources, hm.starting, hm.step]
  exact like_afterStep hm.clock hobs

theorem Like.next? (hm : m.Like m') :
    List.Forall₂ Moment.Like (m.next? g).toList (m'.next? g).toList := by
  unfold Moment.next?
  rw [hm.resources, hm.starting, hm.step]
  split
  next => exact forall₂_startCall? hm.clock g _ _
  next => exact .nil

theorem Like.withNext (hm : m.Like m') :
    List.Forall₂ Moment.Like (Course.withNext g m) (Course.withNext g m') :=
  List.rel_append hm.next? (.cons hm .nil)

end Moment

/-! ### Courses -/

namespace Course

theorem forall₂_first? (w : Wasi.World) (htime : clock' ≤ clock) :
    List.Forall₂ Moment.Like (first? c g source clock).toList
      (first? (c.inWorld w) g source clock').toList := by
  have hworld : first? (c.inWorld w) g source clock' = first? c g source clock' := rfl
  rw [hworld]
  unfold first?
  dsimp only
  cases Wasm.instantiate g.module c.pageLimit with
  | error e => exact .nil
  | ok store =>
    cases g.module.start with
    | some f => exact .cons ⟨rfl, rfl, rfl, htime⟩ .nil
    | none => exact forall₂_startCall? htime g _ _

theorem like_create (htime : clock' ≤ clock)
    (hobs : ∀ m ∈ (begun c g source clock).moments, ¬ m.Observes g) :
    (Instance.create c g source clock).Like (Instance.create (c.inWorld w) g source clock') := by
  have hwithin : Wasm.instantiate g.module (c.inWorld w).pageLimit =
      Wasm.instantiate g.module c.pageLimit := rfl
  unfold begun first? at hobs
  unfold Instance.create
  rw [hwithin]
  dsimp only at hobs ⊢
  cases hstore : Wasm.instantiate g.module c.pageLimit with
  | error e => exact like_endRun htime _ _
  | ok store =>
    rw [hstore] at hobs
    cases hstart : g.module.start with
    | some f =>
      rw [hstart] at hobs
      refine like_afterStep htime fun m hm => hobs m ?_
      exact List.mem_flatMap_of_mem (List.mem_singleton_self _) hm
    | none =>
      rw [hstart] at hobs
      refine like_callStart htime fun m hm => hobs m ?_
      exact List.mem_flatMap_of_mem (Option.mem_toList.mpr hm) (mem_withNext g m)

/-- A run begins in the same way at any time and in any world. -/
theorem like_begun (htime : clock' ≤ clock)
    (hobs : ∀ m ∈ (begun c g source clock).moments, ¬ m.Observes g) :
    (begun c g source clock).Like (begun (c.inWorld w) g source clock') :=
  ⟨List.rel_flatMap (forall₂_first? w htime) fun _ _ hm => hm.withNext, like_create htime hobs⟩

theorem Like.go (h : k.Like k') (hobs : ∀ m ∈ (k.go c g).moments, ¬ m.Observes g) :
    (k.go c g).Like (k'.go (c.inWorld w) g) := by
  obtain ⟨moments, progress⟩ := k
  obtain ⟨moments', progress'⟩ := k'
  obtain ⟨hmoments, hprogress⟩ := h
  cases hprogress with
  | ended _ _ _ htime => exact ⟨hmoments, .ended _ _ _ htime⟩
  | @running s r starting clock clock' htime =>
    have hm : Moment.Like (Instance.moment g ⟨s, r, starting, clock⟩)
        (Instance.moment g ⟨s, r, starting, clock'⟩) :=
      ⟨rfl, rfl, rfl, Nat.add_le_add_right htime _⟩
    refine ⟨List.rel_append hm.withNext hmoments, hm.progress fun m hmem => hobs m ?_⟩
    exact List.mem_append_left _ hmem

theorem Like.wait (h : k.Like k') (time : Nat) : (k.wait time).Like k' := by
  obtain ⟨moments, progress⟩ := k
  obtain ⟨moments', progress'⟩ := k'
  obtain ⟨hmoments, hprogress⟩ := h
  refine ⟨hmoments, ?_⟩
  cases hprogress with
  | ended _ _ _ htime => exact .ended _ _ _ htime
  | running _ _ _ htime => exact .running _ _ _ (le_max_of_le_left htime)

theorem Like.iterate (h : k.Like k') (hobs : ∀ m : Moment, ¬ m.Observes g) (n : Nat) :
    ((Course.go c g)^[n] k).Like ((Course.go (c.inWorld w) g)^[n] k') := by
  induction n with
  | zero => exact h
  | succ n ih =>
    rw [Function.iterate_succ_apply', Function.iterate_succ_apply']
    exact ih.go fun m _ => hobs m

/-- A run that waits for no longer than a later one has taken stays earlier. -/
theorem Like.wait_of_le (h : k.Like k') {time : Nat} (hle : time ≤ k.progress.clock) :
    k.Like (k'.wait time) := by
  obtain ⟨moments, progress⟩ := k
  obtain ⟨moments', progress'⟩ := k'
  obtain ⟨hmoments, hprogress⟩ := h
  refine ⟨hmoments, ?_⟩
  cases hprogress with
  | ended _ _ _ htime => exact .ended _ _ _ htime
  | running _ _ _ htime => exact .running _ _ _ (max_le htime hle)

/-- Whatever course a run takes, it takes the same course, and no later, when it begins at time 0
and never has to wait. -/
theorem Of.exists_like (h : k.Of c g source) (hobs : ∀ m ∈ k.moments, ¬ m.Observes g)
    (w : Wasi.World) :
    ∃ n, k.Like ((Course.go (c.inWorld w) g)^[n] (Course.begun (c.inWorld w) g source 0)) := by
  induction h with
  | begun clock => exact ⟨0, like_begun (Nat.zero_le clock) hobs⟩
  | @go k _ ih =>
    obtain ⟨n, hn⟩ := ih fun m hm => hobs m ((suffix_go k).subset hm)
    refine ⟨n + 1, ?_⟩
    rw [Function.iterate_succ_apply']
    exact hn.go hobs
  | wait time _ ih =>
    obtain ⟨n, hn⟩ := ih hobs
    exact ⟨n, hn.wait time⟩

/-- Two runs that end in the same way have the same result. -/
theorem Like.exists_ended (h : k.Like k') {e : Ended} (hk : k.progress = .ended e) :
    ∃ e', k'.progress = .ended e' ∧ e'.result = e.result := by
  obtain ⟨moments, progress⟩ := k
  obtain ⟨moments', progress'⟩ := k'
  obtain ⟨-, hprogress⟩ := h
  cases hprogress with
  | running => cases hk
  | ended outcome stdout stderr =>
    obtain rfl := Progress.ended.inj hk
    exact ⟨_, rfl, rfl⟩

theorem Like.timely (h : k.Like k') {deadline : Nat} (hk : k.Timely deadline) :
    k'.Timely deadline := by
  have hall : ∀ {ms ms' : List Moment}, List.Forall₂ Moment.Like ms ms' →
      (∀ m ∈ ms, m.clock < deadline + stepTime) → ∀ m ∈ ms', m.clock < deadline + stepTime := by
    intro ms ms' hms
    induction hms with
    | nil => exact fun _ => nofun
    | cons hm _ ih =>
      intro hclock
      obtain ⟨hfirst, hrest⟩ := List.forall_mem_cons.mp hclock
      exact List.forall_mem_cons.mpr ⟨Nat.lt_of_le_of_lt hm.clock hfirst, ih hrest⟩
  exact ⟨hk.pos, hall h.moments hk.clock⟩

end Course

end ScriptSandbox.Sandbox
