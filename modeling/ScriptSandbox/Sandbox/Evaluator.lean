import ScriptSandbox.Sandbox.Context
import ScriptSandbox.Sandbox.Instance

/-!
# Evaluators

A host keeps one compiled guest and the limits that hold for every run of it. An evaluator asks for
limits of its own, which are clamped to those of the host.

## Main definitions

* `Sandbox.Options`, `Sandbox.Host`: what holds for every run
* `Sandbox.Limits`, `Sandbox.Evaluator`: what an evaluator asks for
* `Sandbox.Host.effectivePages`: the clamped page limit
-/

namespace ScriptSandbox.Sandbox

/-- Nanoseconds in a millisecond. -/
def nanosPerMilli : Nat := 1000000

/-- Settings that hold for every run of a guest. -/
structure Options where
  /-- The most pages that a memory of any run may have. -/
  memoryLimitPages : Nat
  /-- The capacity of each output stream. -/
  maxOutputBytes : Nat
  /-- How often a running guest yields, in nanoseconds. -/
  tick : Nat
  deriving Repr, DecidableEq

/-- A compiled guest with the settings that hold for every run of it. -/
structure Host where
  guest : Guest
  options : Options
  world : Wasi.World := {}

namespace Host

/-- Compiles a guest. -/
def compile (image : List UInt8) (options : Options) : Except CompileError Host := do
  return { guest := ← Guest.compile image, options }

/-- The most pages that a memory of any run may have: no more than can be addressed. -/
def ceilingPages (h : Host) : Nat := min h.options.memoryLimitPages Wasm.maxPages

/-- A number of pages, clamped to the ceiling. -/
def effectivePages (h : Host) (pages : Nat) : Nat := min pages h.ceilingPages

/-- The most bytes that a memory may have that asks for a number of pages. -/
def limitBytes (h : Host) (pages : Nat) : Nat := h.effectivePages pages * Wasm.pageBytes

end Host

/-- The limits an evaluator asks for. -/
structure Limits where
  memoryLimitPages : Nat
  /-- The time an evaluation may take, in nanoseconds. -/
  deadline : Nat
  deriving Repr, DecidableEq

/-- Evaluates sources by runs of one guest. -/
structure Evaluator where
  host : Host
  limits : Limits
  /-- Whether failures tell where in the module they occurred. -/
  traces : Bool := false

namespace Evaluator

/-- The most pages that a memory of a run has. -/
def pageLimit (e : Evaluator) : Nat := e.host.effectivePages e.limits.memoryLimitPages

/-- What an instance is created with. -/
def settings (e : Evaluator) : Settings where
  pageLimit := e.pageLimit
  maxOutputBytes := e.host.options.maxOutputBytes
  traces := e.traces
  world := e.host.world

/-- A new run. -/
def create (e : Evaluator) (source : String) (now : Nat) : Progress :=
  Instance.create e.settings e.host.guest (Utf8.encode source) now

/-- A run up to a point in time. -/
def runUntil (e : Evaluator) (limit : Nat) (p : Progress) : Progress :=
  p.runUntil e.settings e.host.guest limit

end Evaluator

end ScriptSandbox.Sandbox
