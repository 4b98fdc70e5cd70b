import ScriptSandbox.Sandbox.Handles
import ScriptSandbox.Sandbox.Ledger
import ScriptSandbox.Sandbox.Shutdown

/-!
# Sessions

A session is an evaluator in use: contexts are made and canceled, evaluations are started, go on,
end or are dropped, and the host is shut down. Evaluations only go on while they are polled.

At its first poll an evaluation creates its instance, unless its context is done. From then on three
branches race: the guest goes on and may end, the deadline may come, or the token may be canceled.
The guest's end drops the instance by itself. The evaluation returns when a branch has decided its
result, and drops the instance then if it still holds it. Dropping an evaluation under way drops
what it holds as well.

## Main definitions

* `Sandbox.Stage`, `Sandbox.Run`: an evaluation and how far it has come
* `Sandbox.Session`: an evaluator in use
* `Sandbox.Session.context`, `Sandbox.Session.cancel`: contexts
* `Sandbox.Session.begin`, `Sandbox.Session.enter`, `Sandbox.Session.turn`, `Sandbox.Session.leave`,
  `Sandbox.Session.drop`: the steps in the life of an evaluation
* `Sandbox.Session.poll`, `Sandbox.Session.evaluate`: a poll, and an evaluation from its beginning
  to its end
* `Sandbox.Session.start`, `Sandbox.Session.finish`, `Sandbox.Session.dropRun`: evaluations that are
  kept under way
* `Sandbox.Session.shutdown`: the end of the host
-/

namespace ScriptSandbox.Sandbox

open Evaluation (Interrupt)

/-- How far an evaluation has come. -/
inductive Stage where
  /-- It was not polled yet. -/
  | fresh
  /-- It holds an instance, and its branches race. -/
  | racing (p : Progress)
  /-- A branch has decided its result. It may still hold its instance. -/
  | decided (holds : Bool) (r : Evaluation.Result)
  | returned (r : Evaluation.Result)
  | dropped

/-- Whether an evaluation holds an instance. -/
def Stage.holds : Stage → Bool
  | .racing _ => true
  | .decided holds _ => holds
  | _ => false

/-- Whether an evaluation has returned or was dropped. -/
def Stage.isOver : Stage → Bool
  | .returned _ | .dropped => true
  | _ => false

/-- An evaluation. -/
structure Run where
  limits : Limits
  context : Context
  source : String
  stage : Stage := .fresh

/-- What an evaluation races, once it has an instance. -/
inductive Branch where
  | guest
  | deadline
  | cancellation
  deriving Repr, DecidableEq

/-- An evaluator in use. -/
structure Session where
  evaluator : Evaluator
  /-- The time, in nanoseconds. -/
  now : Nat
  tokens : Tokens
  ledger : Ledger
  /-- All evaluations, in the order of their beginning. -/
  runs : Array Run
  /-- The numbers of the evaluations that were started to be kept under way. -/
  kept : Array Nat
  handles : Handles
  /-- Whether the host has neither been dropped nor shut down. -/
  hosted : Bool

namespace Session

/-- A new session: the host has a handle and the evaluator another one. -/
def ofEvaluator (e : Evaluator) : Session where
  evaluator := e
  now := 0
  tokens := {}
  ledger := {}
  runs := #[]
  kept := #[]
  handles := Handles.fresh.acquire
  hosted := true

/-- The number of live instances. -/
def live (s : Session) : Nat := s.ledger.live.toNat

/-! ### Contexts -/

/-- A context with a deadline. -/
def context (s : Session) (deadline : Nat) : Context × Session :=
  let (token, tokens) := s.tokens.add
  (⟨deadline, token⟩, { s with tokens })

/-- A context with a deadline that is also canceled with a token. -/
def childContext (s : Session) (parent deadline : Nat) : Context × Session :=
  let (token, tokens) := s.tokens.addChild parent
  (⟨deadline, token⟩, { s with tokens })

/-- A new token. -/
def token (s : Session) : Nat × Session :=
  let (token, tokens) := s.tokens.add
  (token, { s with tokens })

/-- Cancels a token. -/
def cancel (s : Session) (token : Nat) : Session := { s with tokens := s.tokens.cancel token }

/-- The deadline of an evaluation that starts now. -/
def deadline (s : Session) : Nat := s.now + s.evaluator.limits.deadline

/-- Why a context can no longer run anything, if so. -/
def done (s : Session) (x : Context) : Option Interrupt := x.done s.tokens s.now

/-! ### The life of an evaluation -/

/-- The evaluator with other limits. -/
def within (s : Session) (limits : Limits) : Evaluator := { s.evaluator with limits }

/-- How far an evaluation has come. -/
def stage (s : Session) (i : Nat) : Stage := (s.runs[i]?).elim .fresh (·.stage)

/-- Notes how far an evaluation has come. -/
def put (s : Session) (i : Nat) (stage : Stage) : Session :=
  { s with runs := s.runs.modify i fun r => { r with stage } }

/-- Creates the instance of an evaluation. -/
def create (s : Session) (i : Nat) : Session :=
  { s with ledger := s.ledger.create i, handles := s.handles.acquire }

/-- Releases the instance of an evaluation. -/
def release (s : Session) (i : Nat) : Session :=
  { s with ledger := s.ledger.release i, handles := s.handles.drop }

/-- An evaluation is called for. It only begins with its first poll. -/
def begin (s : Session) (limits : Limits) (x : Context) (source : String) : Nat × Session :=
  (s.runs.size, { s with runs := s.runs.push { limits, context := x, source } })

/-- The beginning of the first poll. An evaluation whose context is done returns at once, any other
one creates its instance. -/
def enter (s : Session) (i : Nat) : Session :=
  match s.runs[i]? with
  | some ⟨limits, x, source, .fresh⟩ =>
    match s.done x with
    | some reason => s.put i (.returned (.error (.ofInterrupt reason)))
    | none => (s.create i).put i (.racing ((s.within limits).create source s.now))
  | _ => s

/-- The time at which a run goes on: an instance may sleep beyond the present. -/
def awaken (now : Nat) : Progress → Progress
  | .running i => .running { i with clock := max i.clock now }
  | .ended e => .ended e

/-- The guest goes on up to a point in time. At its end, and when it is interrupted at its deadline,
the instance is dropped. -/
def turnGuest (s : Session) (i : Nat) (limits : Limits) (x : Context) (p : Progress) (limit : Nat) :
    Session :=
  -- what lies beyond the deadline is not run, however far the poll goes
  let stop := min limit x.deadline
  match (s.within limits).runUntil stop (awaken s.now p) with
  | .ended e => ({ s with now := max s.now e.clock }.release i).put i (.decided false e.result)
  | .running g =>
    let s := { s with now := max s.now stop }
    -- a tick at the deadline or after it interrupts the guest
    if x.deadline ≤ limit then
      (s.release i).put i (.decided false (.error (.ofInterrupt .deadlineExceeded)))
    else s.put i (.racing (.running g))

/-- One of the branches of an evaluation gets its turn, the guest's up to a point in time. -/
def turn (s : Session) (i : Nat) (limit : Nat) (b : Branch) : Session :=
  match s.runs[i]? with
  | some ⟨limits, x, _, .racing p⟩ =>
    match b with
    | .guest => s.turnGuest i limits x p limit
    | .deadline =>
      if x.deadline ≤ s.now then
        s.put i (.decided true (.error (.ofInterrupt .deadlineExceeded)))
      else s
    | .cancellation =>
      if s.tokens.isCanceled x.token then
        s.put i (.decided true (.error (.ofInterrupt .canceled)))
      else s
  | _ => s

/-- An evaluation whose result is decided returns it and drops what it still holds. -/
def leave (s : Session) (i : Nat) : Session :=
  match s.stage i with
  | .decided holds r => (if holds then s.release i else s).put i (.returned r)
  | _ => s

/-- Drops an evaluation with what it holds. Nothing happens to one that is over. -/
def drop (s : Session) (i : Nat) : Session :=
  let stage := s.stage i
  if stage.isOver then s else (if stage.holds then s.release i else s).put i .dropped

/-- Polls an evaluation and lets it go on up to a point in time. A cancellation counts before the
deadline, and both before what the guest does. -/
def poll (s : Session) (i : Nat) (limit : Nat) : Session :=
  let s := s.enter i
  let s := s.turn i limit .cancellation
  let s := s.turn i limit .deadline
  let s := s.turn i limit .guest
  s.leave i

/-- The result of an evaluation, if it has returned. -/
def result? (s : Session) (i : Nat) : Option Evaluation.Result :=
  match s.stage i with
  | .returned r => some r
  | _ => none

/-- Polls an evaluation until it has returned, which it has at its deadline. -/
def complete (s : Session) (i : Nat) : Evaluation.Result × Session :=
  let s := s.poll i ((s.runs[i]?).elim 0 (·.context.deadline))
  ((s.result? i).getD (.error (.ofInterrupt .deadlineExceeded)), s)

/-- An evaluation from its beginning to its end. -/
def evaluateWithin (s : Session) (limits : Limits) (x : Context) (source : String) :
    Evaluation.Result × Session :=
  let (i, s) := s.begin limits x source
  s.complete i

/-- An evaluation with the limits of the evaluator. -/
def evaluate (s : Session) (x : Context) (source : String) : Evaluation.Result × Session :=
  s.evaluateWithin s.evaluator.limits x source

/-- An evaluation whose context is canceled at some time. -/
def evaluateCanceled (s : Session) (x : Context) (source : String) (cancelAt : Nat) :
    Evaluation.Result × Session :=
  let (i, s) := s.begin s.evaluator.limits x source
  let s := s.poll i cancelAt
  match s.result? i with
  | some r => (r, s)
  | none => (s.cancel x.token).complete i

/-! ### Evaluations kept under way -/

/-- Starts an evaluation and polls it once, for one tick. The result is there if it is then over. -/
def start (s : Session) (x : Context) (source : String) : Option Evaluation.Result × Session :=
  let (i, s) := s.begin s.evaluator.limits x source
  let s := { s with kept := s.kept.push i }.poll i (s.now + s.evaluator.host.options.tick)
  (s.result? i, s)

/-- The number of a kept evaluation, if it is under way. -/
def run? (s : Session) (n : Nat) : Option Nat :=
  match s.kept[n]? with
  | some i => if (s.stage i).isOver then none else some i
  | none => none

/-- Cancels the context of an evaluation and tells why it is done; nothing if it is over. -/
def cancelRun (s : Session) (n : Nat) : Option (Option Interrupt) × Session :=
  match (s.run? n).bind (s.runs[·]?) with
  | none => (none, s)
  | some r =>
    let s := s.cancel r.context.token
    (some (s.done r.context), s)

/-- Lets an evaluation go on to its end; nothing if it is over. -/
def finish (s : Session) (n : Nat) : Option Evaluation.Result × Session :=
  match s.run? n with
  | none => (none, s)
  | some i =>
    let (result, s) := s.complete i
    (some result, s)

/-- Drops an evaluation and tells whether it was under way. -/
def dropRun (s : Session) (n : Nat) : Bool × Session :=
  match s.run? n with
  | none => (false, s)
  | some i => (true, s.drop i)

/-! ### The end of the host -/

/-- Drops the host and tells whether it was there. -/
def dropHost (s : Session) : Bool × Session :=
  if s.hosted then (true, { s with hosted := false, handles := s.handles.drop }) else (false, s)

/-- Shuts the host down, while no evaluation goes on; nothing if it is gone. -/
def shutdown (s : Session) : Option (Except TeardownError Unit) × Session :=
  if s.hosted then
    let (r, now) := Shutdown.run s.now s.live
    -- a host that still has instances is dropped like any other
    let handles := match r with
      | .ok () => s.handles.shutdown
      | .error _ => s.handles.drop
    (some r, { s with now, hosted := false, handles })
  else (none, s)

end Session

end ScriptSandbox.Sandbox
