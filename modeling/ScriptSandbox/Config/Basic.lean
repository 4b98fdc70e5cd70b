import ScriptSandbox.Report
import ScriptSandbox.Sandbox.Evaluator

/-!
# Configuration

A configuration has a section for the server and one for the engine. Every field has a default.
What the sandbox is given is derived from the fields; the memory limit is given in mebibytes and
handed on in pages.

## Main definitions

* `Config.Server`, `Config.Engine`, `Config.Settings`: the sections and the configuration
* `Config.Fault`, `Config.Settings.fault?`: why a configuration is refused
* `Config.Engine.memoryLimitPages?`: the memory limit in pages, unless it overflows
* `Config.Engine.options?`, `Config.Engine.limits?`: what the sandbox is given
-/

namespace ScriptSandbox.Config

/-- How requests are received. -/
structure Server where
  host : String := "0.0.0.0"
  port : UInt16 := 12040
  maxBodyBytes : UInt64 := 1048576
  requestTimeoutMs : UInt64 := 10000
  deriving Repr, DecidableEq

/-- How sources are evaluated. -/
structure Engine where
  path : String := "$\x7bHOME\x7d/.cargo/bin/js-eval-boa.wasm"
  maxImageSizeMib : UInt64 := 16
  memoryLimitMib : UInt32 := 64
  timeoutMs : UInt64 := 100
  maxOutputBytes : UInt64 := 8388608
  epochTickMs : UInt64 := 10
  deriving Repr, DecidableEq

/-- A configuration. -/
structure Settings where
  server : Server := {}
  engine : Engine := {}
  deriving Repr, DecidableEq

/-! ### Derived limits -/

/-- Pages in a mebibyte. -/
def pagesPerMib : Nat := 16

namespace Engine

/-- The memory limit in pages; `none` if it needs more than 32 bits. -/
def memoryLimitPages? (e : Engine) : Option UInt32 :=
  let pages := e.memoryLimitMib.toNat * pagesPerMib
  if pages < UInt32.size then some pages.toUInt32 else none

/-- The settings that hold for every run. -/
def options? (e : Engine) : Option Sandbox.Options :=
  e.memoryLimitPages?.map fun pages => {
    memoryLimitPages := pages.toNat
    maxOutputBytes := e.maxOutputBytes.toNat
    tick := e.epochTickMs.toNat * Sandbox.nanosPerMilli }

/-- The limits of an evaluator. -/
def limits? (e : Engine) : Option Sandbox.Limits :=
  e.memoryLimitPages?.map fun pages => {
    memoryLimitPages := pages.toNat
    deadline := e.timeoutMs.toNat * Sandbox.nanosPerMilli }

end Engine

/-- The limits on requests. -/
structure TransportLimits where
  maxBodyBytes : Nat
  /-- The time a request may take, in nanoseconds. -/
  requestTimeout : Nat
  deriving Repr, DecidableEq

/-- The limits on requests to a server. -/
def Server.transportLimits (s : Server) : TransportLimits where
  maxBodyBytes := s.maxBodyBytes.toNat
  requestTimeout := s.requestTimeoutMs.toNat * Sandbox.nanosPerMilli

/-! ### Faults -/

/-- Why a configuration is refused. -/
inductive Fault where
  | noMemory
  | tooMuchMemory (mib : UInt32)
  | noTime
  | noImage
  | noTick
  | noBody
  deriving Repr, DecidableEq

/-- The wording of a fault. -/
def Fault.message : Fault → String
  | .noMemory => "memory limit must be at least 1 MiB"
  | .tooMuchMemory mib =>
    s!"memory limit of {mib} MiB exceeds the 4096 MiB a 32-bit wasm memory can address"
  | .noTime => "execution timeout must be greater than zero"
  | .noImage => "maximum wasm size must be at least 1 MiB"
  | .noTick => "epoch tick must be greater than zero"
  | .noBody => "maximum request body size must be greater than zero"

/-- The first fault of a configuration. -/
def Settings.fault? (s : Settings) : Option Fault :=
  let e := s.engine
  if e.memoryLimitMib = 0 then some .noMemory
  else if Wasm.maxPages < e.memoryLimitMib.toNat * pagesPerMib then
    some (.tooMuchMemory e.memoryLimitMib)
  else if e.timeoutMs = 0 then some .noTime
  else if e.maxImageSizeMib = 0 then some .noImage
  else if e.epochTickMs = 0 then some .noTick
  else if s.server.maxBodyBytes = 0 then some .noBody
  else none

end ScriptSandbox.Config
