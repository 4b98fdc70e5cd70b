import ScriptSandbox.Sandbox.Evaluator

/-!
# Shutting down

A host that is shut down looks at the number of live instances every ten milliseconds. It is done
when there is none; after two seconds it gives up and reports how many there are then.

## Main definitions

* `Sandbox.Shutdown`: a shutdown that is under way or done
* `Sandbox.Shutdown.step`: one step, with the instances that are live at that time
* `Sandbox.Shutdown.run`: a shutdown during which no instance goes on
-/

namespace ScriptSandbox.Sandbox

/-- Why a shutdown failed. -/
inductive TeardownError where
  | instancesInFlight (count : Nat)
  deriving Repr, DecidableEq

/-- The wording of a failed shutdown. -/
def TeardownError.message : TeardownError → String
  | .instancesInFlight count => s!"{count} execution instance(s) still running at shutdown"

/-- How long a shutdown waits for instances. -/
def drainTime : Nat := 2000 * nanosPerMilli

/-- How long a shutdown waits between looks at the instances. -/
def drainInterval : Nat := 10 * nanosPerMilli

/-- A shutdown that is under way or done. -/
inductive Shutdown where
  /-- The live instances are to be counted. -/
  | looking (deadline : Nat)
  /-- The next look is at the time `wake`. -/
  | waiting (wake deadline : Nat)
  /-- The time is over; the instances that are left are to be counted. -/
  | expired
  | done (r : Except TeardownError Unit)

namespace Shutdown

/-- A shutdown that starts at some time. -/
def start (now : Nat) : Shutdown := .looking (now + drainTime)

/-- One step at the time `now`, when `live` instances are live. -/
def step (now live : Nat) : Shutdown → Shutdown
  | .looking deadline =>
    if live = 0 then .done (.ok ()) else .waiting (now + drainInterval) deadline
  | .waiting wake deadline =>
    if wake ≤ now then .looking deadline
    else if deadline ≤ now then .expired
    else .waiting wake deadline
  | .expired => .done (.error (.instancesInFlight live))
  | .done r => .done r

/-- The time at which the next step is due. -/
def due (now : Nat) : Shutdown → Nat
  | .waiting wake deadline => max now (min wake deadline)
  | _ => now

/-- At most `fuel` steps during which the number of live instances stays the same. -/
def steps (live : Nat) : (fuel : Nat) → (now : Nat) → Shutdown → Shutdown × Nat
  | 0, now, s => (s, now)
  | fuel + 1, now, s =>
    let now := s.due now
    steps live fuel now (s.step now live)

/-- The number of steps that a shutdown takes at most. -/
def maxSteps : Nat := 2 * (drainTime / drainInterval) + 4

/-- A shutdown during which the number of live instances stays the same, and the time it ends. -/
def run (now live : Nat) : Except TeardownError Unit × Nat :=
  match steps live maxSteps now (start now) with
  | (.done r, now) => (r, now)
  | (_, now) => (.error (.instancesInFlight live), now)

end Shutdown

end ScriptSandbox.Sandbox
