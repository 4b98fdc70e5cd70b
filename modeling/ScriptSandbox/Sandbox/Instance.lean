import ScriptSandbox.Evaluation.Outcome
import ScriptSandbox.Sandbox.Guest
import ScriptSandbox.Wasi.Call
import ScriptSandbox.Wasm.Trace

/-!
# Instances

An instance is one run of a guest: its own memory, globals, streams and descriptors. Its start
section runs first and then the function exported as `_start`, if there are any. Time passes with
every step, and faster while the guest waits.

## Main definitions

* `Sandbox.Settings`: what an instance is created with
* `Sandbox.Instance`: a run that is under way
* `Sandbox.Progress`: a run that is under way or has ended
* `Sandbox.Instance.create`: a new run
* `Sandbox.Instance.advance`: steps up to the next call of a host function
* `Sandbox.Progress.runUntil`: all that happens up to a point in time
-/

namespace ScriptSandbox.Sandbox

open Evaluation (Outcome RunError Stop)
open Wasm (State Store Trap)

/-- What an instance is created with. -/
structure Settings where
  /-- The most pages of a memory. -/
  pageLimit : Nat
  /-- The capacity of each output stream. -/
  maxOutputBytes : Nat
  /-- Whether failures tell where in the module they occurred. -/
  traces : Bool := false
  world : Wasi.World := {}

/-- A run that is under way. -/
structure Instance where
  state : State
  resources : Wasi.Resources
  /-- Whether `_start` is still to be called. -/
  starting : Bool
  /-- The time, in nanoseconds. -/
  clock : Nat

/-- A run that has ended, with what it left. -/
structure Ended where
  outcome : Outcome
  stdout : List UInt8
  stderr : List UInt8
  clock : Nat

/-- A run that is under way or has ended. -/
inductive Progress where
  | running (i : Instance)
  | ended (e : Ended)

/-- The result of an ended run. -/
def Ended.result (e : Ended) : Evaluation.Result :=
  Evaluation.classify e.outcome e.stdout e.stderr

/-! ### Ends -/

/-- Ends a run. -/
def endRun (r : Wasi.Resources) (clock : Nat) (outcome : Outcome) : Progress :=
  .ended ⟨outcome, r.output.content.toList, r.error.content.toList, clock⟩

/-- A failure inside contexts, the innermost first. -/
def failure (message : String) (contexts : List String) : Outcome :=
  .error ⟨.failure message, contexts⟩

/-- The context that tells where a state stands. -/
def traceContexts (c : Settings) (g : Guest) (s : State) : List String :=
  let sites := s.sites
  if c.traces && !sites.isEmpty then [Wasm.traceText g.module sites] else []

/-- How a guest ends that trapped. Its contexts are the access to memory that could not be made and
where the guest stands. -/
def trapOutcome (c : Settings) (g : Guest) (t : Trap) (s : State) : Outcome :=
  let fault := match t, s.fault? with
    | .memoryOutOfBounds, some f => if c.traces then [f.text] else []
    | _, _ => []
  failure ("wasm trap: " ++ t.message) (fault ++ traceContexts c g s)

/-- How a guest ends that a host function ended. -/
def abortOutcome (c : Settings) (g : Guest) (s : State) (a : Wasi.Abort) : Outcome :=
  match a, a.words? with
  | .exit code, _ => .error ⟨.exit code.toInt32, []⟩
  | _, some (cause, contexts) => failure cause (contexts ++ traceContexts c g s)
  | _, none => failure "" []

/-- Why a function cannot be called without arguments and results. -/
def startMismatch? (t : Wasm.FuncType) : Option String :=
  if t.params.length ≠ 0 then
    some s!"type mismatch with parameters: expected 0 types, found {t.params.length}"
  else if t.results.length ≠ 0 then
    some s!"type mismatch with results: expected 0 types, found {t.results.length}"
  else none

/-! ### Steps -/

/-- The time that a step takes, in nanoseconds. -/
def stepTime : Nat := 20

/-- Answers a call of a host function. -/
def callHost (c : Settings) (g : Guest) (i : Instance) (index : Nat) (args : List Wasm.Value) :
    Progress :=
  let s := i.state
  match g.imports[index]?, g.memory?.bind fun m => (s.store.memories[m]?).map (m, ·) with
  | some f, some (m, memory) =>
    let process : Wasi.Process := { i.resources with memory, clock := i.clock }
    match Wasi.call c.world f args process with
    | .ok (results, p) =>
      let s := { s with store := s.store.modifyMemory m fun _ => p.memory }
      .running { i with state := s.resume results, resources := p.toResources, clock := p.clock }
    | .error a =>
      endRun (Wasi.leftBehind c.world f args process) i.clock (abortOutcome c g s a)
  | _, _ => endRun i.resources i.clock (abortOutcome c g s .noMemory)

/-- Goes on with an instance after a step of its machine, unless the step was the last one. -/
def proceed (c : Settings) (g : Guest) (r : Wasi.Resources) (starting : Bool) (clock : Nat) :
    Wasm.Step → Progress
  | .next state => .running ⟨state, r, starting, clock⟩
  | .host index args state => callHost c g ⟨state, r, starting, clock⟩ index args
  | .trapped t s => endRun r clock (trapOutcome c g t s)
  | .stuck => endRun r clock (failure "invalid module" [])
  | .returned _ _ => endRun r clock (.ok ())

/-- Calls `_start`, if there is one. -/
def callStart (c : Settings) (g : Guest) (r : Wasi.Resources) (clock : Nat) (store : Store) :
    Progress :=
  match g.start? with
  | none => endRun r clock (.ok ())
  | some f =>
    match (g.module.functionType? f).bind startMismatch? with
    | some message => endRun r clock (failure message [])
    | none => proceed c g r false clock (Wasm.invoke g.program store f [])

/-- Goes on after a step of the machine. When the start section has returned, `_start` is called. -/
def afterStep (c : Settings) (g : Guest) (r : Wasi.Resources) (starting : Bool) (clock : Nat)
    (step : Wasm.Step) : Progress :=
  match starting, step with
  | true, .returned store _ => callStart c g r clock store
  | _, _ => proceed c g r starting clock step

namespace Instance

/-- A new run of a guest: memories and segments are set up, and the first call is made. -/
def create (c : Settings) (g : Guest) (source : List UInt8) (clock : Nat) : Progress :=
  let r := Wasi.Resources.fresh source c.maxOutputBytes
  match Wasm.instantiate g.module c.pageLimit with
  | .error e => endRun r clock (failure e.message [])
  | .ok store =>
    match g.module.start with
    | some f => afterStep c g r true clock (Wasm.invoke g.program store f [])
    | none => callStart c g r clock store

/-- Up to `n` steps, but no step after a call of a host function. -/
def advance (c : Settings) (g : Guest) (n : Nat) (i : Instance) : Progress :=
  let ⟨state, r, starting, clock⟩ := i
  let (left, last) := Wasm.run g.program n state
  afterStep c g r starting (clock + stepTime * (n - left)) last

end Instance

namespace Progress

/-- The time. -/
def clock : Progress → Nat
  | .running i => i.clock
  | .ended e => e.clock

/-- Goes on until the run has ended, the time `limit` has come or `fuel` parts of it were run, each
up to a call of a host function. -/
def advance (c : Settings) (g : Guest) (limit : Nat) : (fuel : Nat) → Progress → Progress
  | 0, p => p
  | _, .ended e => .ended e
  | fuel + 1, .running i =>
    if limit ≤ i.clock then .running i
    else advance c g limit fuel (i.advance c g ((limit - i.clock - 1) / stepTime + 1))

/-- Goes on until the run has ended or the time `limit` has come. Every part takes time, so that no
more parts than nanoseconds are run. -/
def runUntil (c : Settings) (g : Guest) (limit : Nat) (p : Progress) : Progress :=
  p.advance c g limit (limit - p.clock)

end Progress

end ScriptSandbox.Sandbox
