import ScriptSandbox.Proofs.Wasi.Calls
import ScriptSandbox.Sandbox.Instance

/-!
# Moments of runs

A moment of a run is what there is after a step of its machine: what the instance holds and what the
step was. From there the run goes on: the machine runs on by itself, a host function answers or ends
the guest, `_start` is called after the start section, or the run has ended.

## Main definitions

* `Sandbox.Moment`: a moment of a run
* `Sandbox.Moment.call?`: the call of a host function that is then made
* `Sandbox.MachineOutcome`: what the machine comes to by itself
* `Sandbox.Moment.Leads`: how a run goes on from a moment

## Main results

* `Sandbox.Moment.leads_progress`: there are no other ways to go on
* `Sandbox.Moment.le_clock_progress`: no way to go on leads back in time
-/

namespace ScriptSandbox.Sandbox

open Wasm (Memory Store Value)

variable {c : Settings} {g : Guest}

/-- A moment of a run: what the instance holds besides the state of its machine, whether `_start` is
still to be called, the time, and the step that the machine has just made. -/
structure Moment where
  resources : Wasi.Resources
  starting : Bool
  clock : Nat
  step : Wasm.Step

/-- A call of a host function. -/
structure Call where
  function : Wasi.Function
  args : List Wasm.Value
  /-- What the function acts on, if the guest exports a memory. -/
  process? : Option Wasi.Process

/-- How a run ends whose guest no host function ends: it completes or fails. -/
inductive MachineOutcome : Evaluation.Outcome → Prop
  | completed : MachineOutcome (.ok ())
  | failed (message : String) (contexts : List String) : MachineOutcome (failure message contexts)

/-- The call of `_start`, if there is one and it can be made. -/
def startCall? (g : Guest) (r : Wasi.Resources) (clock : Nat) (store : Store) : Option Moment :=
  match g.start? with
  | none => none
  | some f =>
    match (g.module.functionType? f).bind startMismatch? with
    | some _ => none
    | none => some ⟨r, false, clock, Wasm.invoke g.program store f []⟩

namespace Moment

variable {m m' : Moment}

/-- How the run goes on. -/
def progress (c : Settings) (g : Guest) (m : Moment) : Progress :=
  afterStep c g m.resources m.starting m.clock m.step

/-- The call of `_start` that comes at once, when the start section has returned. -/
def next? (g : Guest) (m : Moment) : Option Moment :=
  match m.starting, m.step with
  | true, .returned store _ => startCall? g m.resources m.clock store
  | _, _ => none

/-- The call of a host function that is made. -/
def call? (g : Guest) (m : Moment) : Option Call :=
  match m.step with
  | .host index args s =>
    (g.imports[index]?).map fun f =>
      ⟨f, args, (g.memory?.bind (s.store.memories[·]?)).map fun memory =>
        { m.resources with memory, clock := m.clock }⟩
  | _ => none

/-- How a run goes on from a moment, unless `_start` is called first. -/
inductive Leads (c : Settings) (g : Guest) (m : Moment) : Progress → Prop
  /-- The machine runs on by itself. -/
  | runs {s : Wasm.State} (hstep : m.step = .next s) :
    Leads c g m (.running ⟨s, m.resources, m.starting, m.clock⟩)
  /-- A host function answers. -/
  | answered {index i : Nat} {args results : List Value} {s : Wasm.State} {f : Wasi.Function}
      {p q : Wasi.Process} (hstep : m.step = .host index args s)
      (hcall? : m.call? g = some ⟨f, args, some p⟩) (hi : s.store.memories[i]? = some p.memory)
      (hcall : Wasi.call c.world f args p = .ok (results, q)) :
    Leads c g m (.running
      ⟨{ s with store := s.store.modifyMemory i fun _ => q.memory }.resume results,
        q.toResources, m.starting, q.clock⟩)
  /-- A host function ends the guest. -/
  | aborted {index : Nat} {args : List Value} {s : Wasm.State} {f : Wasi.Function}
      {p : Wasi.Process} {a : Wasi.Abort} (hstep : m.step = .host index args s)
      (hcall? : m.call? g = some ⟨f, args, some p⟩)
      (hcall : Wasi.call c.world f args p = .error a) :
    Leads c g m (endRun (Wasi.leftBehind c.world f args p) m.clock (abortOutcome c g s a))
  /-- A host function is not found, or not the memory it acts on. -/
  | missing {index : Nat} {args : List Value} {s : Wasm.State} (hstep : m.step = .host index args s)
      (hcall? : ∀ f args p, m.call? g ≠ some ⟨f, args, some p⟩) :
    Leads c g m (endRun m.resources m.clock (abortOutcome c g s .noMemory))
  /-- The machine has stopped. -/
  | stops (outcome : Evaluation.Outcome) (houtcome : MachineOutcome outcome)
      (hstep : ∀ index args s, m.step ≠ .host index args s) :
    Leads c g m (endRun m.resources m.clock outcome)

/-- A host function acts on what the instance holds. -/
theorem of_call?_eq_some {f : Wasi.Function} {args : List Value} {p : Wasi.Process}
    (h : m.call? g = some ⟨f, args, some p⟩) :
    ∃ index s i, m.step = .host index args s ∧ g.imports[index]? = some f ∧ g.memory? = some i ∧
      s.store.memories[i]? = some p.memory ∧ p.toResources = m.resources ∧ p.clock = m.clock := by
  unfold call? at h
  split at h
  next index args' s hstep =>
    obtain ⟨f', hf, hcall⟩ := Option.map_eq_some_iff.mp h
    obtain ⟨rfl, rfl, hprocess⟩ := Call.mk.inj hcall
    obtain ⟨memory, hmemory, rfl⟩ := Option.map_eq_some_iff.mp hprocess
    obtain ⟨i, hi, hmemory⟩ := Option.bind_eq_some_iff.mp hmemory
    exact ⟨index, s, i, hstep, hf, hi, hmemory, rfl, rfl⟩
  next => cases h

theorem call?_eq_none_of_not_host (h : ∀ index args s, m.step ≠ .host index args s) :
    m.call? g = none := by
  unfold call?
  split
  next index args s hstep => exact absurd hstep (h index args s)
  next => rfl

theorem leads_callHost {index : Nat} {args : List Value} {s : Wasm.State}
    (hstep : m.step = .host index args s) :
    m.Leads c g (callHost c g ⟨s, m.resources, m.starting, m.clock⟩ index args) := by
  unfold callHost
  dsimp only
  split
  next f i memory hf hfound =>
    obtain ⟨i', hi, hfound⟩ := Option.bind_eq_some_iff.mp hfound
    obtain ⟨memory', hmemory, heq⟩ := Option.map_eq_some_iff.mp hfound
    obtain ⟨rfl, rfl⟩ := Prod.mk.inj heq
    have hcall? : m.call? g =
        some ⟨f, args, some { m.resources with memory := memory', clock := m.clock }⟩ := by
      simp [call?, hstep, hf, hi, hmemory]
    split
    next hcall => exact .answered hstep hcall? hmemory hcall
    next hcall => exact .aborted hstep hcall? hcall
  next hnone =>
    refine .missing hstep fun f args' p hcall? => ?_
    obtain ⟨index', s', i, hstep', hf, hi, hmemory, -⟩ := of_call?_eq_some hcall?
    obtain ⟨rfl, rfl, rfl⟩ := Wasm.Step.host.inj (hstep.symm.trans hstep')
    exact hnone f i p.memory hf (by simp [hi, hmemory])

/-- A run that cannot call `_start` has ended. -/
theorem callStart_of_startCall?_eq_none {r : Wasi.Resources} {clock : Nat} {store : Store}
    (h : startCall? g r clock store = none) :
    ∃ outcome, MachineOutcome outcome ∧ callStart c g r clock store = endRun r clock outcome := by
  unfold startCall? at h
  unfold callStart
  split
  next => exact ⟨_, .completed, rfl⟩
  next f hstart =>
    split
    next message hmismatch => exact ⟨_, .failed message [], rfl⟩
    next hmismatch => simp [hstart, hmismatch] at h

/-- There are no other ways to go on. -/
theorem leads_progress (h : m.next? g = none) : m.Leads c g (m.progress c g) := by
  unfold progress afterStep
  split
  next store results hstarting hstep =>
    -- the start section has returned, but there is no `_start` to call
    unfold next? at h
    rw [hstarting, hstep] at h
    obtain ⟨outcome, houtcome, hend⟩ := callStart_of_startCall?_eq_none (c := c) h
    rw [hend]
    exact .stops outcome houtcome (by simp [hstep])
  next =>
    cases hstep : m.step with
    | next s => exact .runs hstep
    | host index args s => exact leads_callHost hstep
    | trapped t s => exact .stops _ (.failed _ _) (by simp [hstep])
    | stuck => exact .stops _ (.failed _ _) (by simp [hstep])
    | returned store results => exact .stops _ .completed (by simp [hstep])

/-! ### Calls of `_start` -/

theorem clock_of_startCall? {r : Wasi.Resources} {clock : Nat} {store : Store}
    (h : startCall? g r clock store = some m) : m.clock = clock := by
  unfold startCall? at h
  split at h
  next => cases h
  next =>
    split at h
    next => cases h
    next => rw [← Option.some.inj h]

theorem of_startCall?_eq_some {r : Wasi.Resources} {clock : Nat} {store : Store}
    (h : startCall? g r clock store = some m) :
    ∃ f, m = ⟨r, false, clock, Wasm.invoke g.program store f []⟩ ∧
      callStart c g r clock store = m.progress c g := by
  unfold startCall? at h
  split at h
  next => cases h
  next f hstart =>
    split at h
    next => cases h
    next hmismatch =>
      obtain rfl := Option.some.inj h
      refine ⟨f, rfl, ?_⟩
      simp only [callStart, hstart, hmismatch]
      rfl

/-- `_start` is called at once when the start section has returned, with what that has left. -/
theorem of_next?_eq_some (h : m.next? g = some m') :
    ∃ store results f, m.starting = true ∧ m.step = .returned store results ∧
      m' = ⟨m.resources, false, m.clock, Wasm.invoke g.program store f []⟩ ∧
      m.progress c g = m'.progress c g := by
  unfold next? at h
  split at h
  next store results hstarting hstep =>
    obtain ⟨f, hm', hprogress⟩ := of_startCall?_eq_some (c := c) h
    refine ⟨store, results, f, hstarting, hstep, hm', ?_⟩
    rw [← hprogress, progress, hstarting, hstep]
    rfl
  next => cases h

/-- `_start` is called at the time at which the start section has returned. -/
theorem clock_of_next? (h : m.next? g = some m') : m'.clock = m.clock := by
  unfold next? at h
  split at h
  next => exact clock_of_startCall? h
  next => cases h

theorem next?_eq_none_of_not_starting (h : m.starting = false) : m.next? g = none := by
  unfold next?
  rw [h]

theorem le_clock_of_leads {p : Progress} (h : m.Leads c g p) : m.clock ≤ p.clock := by
  cases h with
  | runs | aborted | missing | stops => exact Nat.le_refl _
  | answered _ hcall? _ hcall =>
    obtain ⟨-, -, -, -, -, -, -, -, hclock⟩ := of_call?_eq_some hcall?
    exact hclock ▸ Wasi.le_clock_of_call hcall

/-- A run does not go back in time. -/
theorem le_clock_progress (m : Moment) : m.clock ≤ (m.progress c g).clock := by
  cases hnext : m.next? g with
  | none => exact le_clock_of_leads (leads_progress hnext)
  | some m' =>
    -- the call of `_start` comes at the same time
    obtain ⟨store, results, f, -, -, hm', hprogress⟩ := of_next?_eq_some (c := c) hnext
    have hclock : m'.clock = m.clock := by rw [hm']
    have hlast : m'.next? g = none := next?_eq_none_of_not_starting (by rw [hm'])
    rw [hprogress, ← hclock]
    exact le_clock_of_leads (leads_progress hlast)

end Moment

end ScriptSandbox.Sandbox
