import ScriptSandbox.Wasi.Function
import ScriptSandbox.Wasi.Process
import ScriptSandbox.Wasm.Value

/-!
# Calls of host functions

What every host function does. Most of them need something a guest does not have, such as a file, a
directory or a socket, and so only report why they failed.

## Main definitions

* `Wasi.Output`: a result of a host function
* `Wasi.readInput`, `Wasi.writeOutput`: input and output
* `Wasi.awaitEvents`: waiting
* `Wasi.Function.run`: the action of a host function
* `Wasi.call`: a call of a host function
* `Wasi.leftBehind`: what a call leaves behind that ends the guest
-/

namespace ScriptSandbox.Wasi

open Wasm (Value)

/-- A result of a host function: its name, and the record that is written to an address. -/
structure Output where
  name : String
  address : Nat
  fields : List Field
  deriving Repr, DecidableEq

/-- A number of four bytes as a result. -/
def sizeOutput (address : UInt32) (n : Nat) : Output := ⟨"size", address.toNat, [⟨0, 4, n⟩]⟩

/-- A time as a result. -/
def timeOutput (address : UInt32) (n : Nat) : Output := ⟨"timestamp", address.toNat, [⟨0, 8, n⟩]⟩

/-! ### Input and output -/

/-- Reads from the standard input into the first buffer that is not empty. At the end of the input
nothing is read; before it, a call without a buffer is interrupted. -/
def readInput (fd list count result : UInt32) : Action (List Output) := do
  Action.guard ((← Action.stream fd) = .input) .badDescriptor
  let r := (← Action.buffer list count).getD ⟨0, 0⟩
  let unread := (← get).unread
  if unread.isEmpty then return [sizeOutput result 0]
  else if r.length = 0 then throw .interrupted
  else
    let chunk := unread.take r.length
    modify fun p => { p with unread := unread.drop r.length }
    Action.writeAll r.start chunk
    return [sizeOutput result chunk.length]

/-- Writes bytes to an output stream and tells whether it has not become full. -/
def Process.writeTo (p : Process) (s : Stream) (bytes : List UInt8) : Bool × Process :=
  match s with
  | .input => (false, p)
  | .output =>
    let (c, open_) := p.output.write bytes
    (open_, { p with output := c })
  | .error =>
    let (c, open_) := p.error.write bytes
    (open_, { p with error := c })

/-- Writes the first buffer that is not empty to an output stream. -/
def writeOutput (fd list count result : UInt32) : Action (List Output) := do
  let s ← Action.stream fd
  Action.guard (s ≠ .input) .badDescriptor
  match ← Action.buffer list count with
  | none => return [sizeOutput result 0]
  | some r =>
    let bytes ← Action.bytes r
    Action.guard (← modifyGet (·.writeTo s bytes)) .inputOutput
    return [sizeOutput result r.length]

/-- Closes a descriptor. -/
def closeDescriptor (fd : UInt32) : Action Unit := do
  let _ ← Action.stream fd
  modify fun p => { p with descriptors := p.descriptors.filter (·.1 ≠ fd.toNat) }

/-- Gives a descriptor another number, under which nothing else stays open. -/
def moveDescriptor (fd to_ : UInt32) : Action Unit := do
  let s ← Action.stream fd
  modify fun p => { p with
    descriptors := (to_.toNat, s) ::
      p.descriptors.filter fun d => d.1 ≠ fd.toNat ∧ d.1 ≠ to_.toNat }

/-- The rights of a stream: reading or writing. -/
def Stream.rights : Stream → Nat
  | .input => 2
  | .output | .error => 64

/-- Describes a descriptor: an unknown kind, no flags, and its rights twice. -/
def describeDescriptor (fd result : UInt32) : Action (List Output) := do
  let rights := (← Action.stream fd).rights
  return [⟨"fdstat", result.toNat, [⟨0, 1, 0⟩, ⟨2, 2, 0⟩, ⟨8, 8, rights⟩, ⟨16, 8, rights⟩]⟩]

/-- Describes what a descriptor stands for: an unknown kind, without size or times. -/
def describeFile (fd result : UInt32) : Action (List Output) := do
  let _ ← Action.stream fd
  return [⟨"filestat", result.toNat,
    [⟨0, 8, 0⟩, ⟨8, 8, 0⟩, ⟨16, 1, 0⟩, ⟨24, 8, 0⟩, ⟨32, 8, 0⟩, ⟨40, 8, 0⟩, ⟨48, 8, 0⟩,
     ⟨56, 8, 0⟩]⟩]

/-! ### Clocks and random numbers -/

/-- The clocks. -/
inductive Clock where
  | realtime
  | monotonic
  | process
  | thread
  deriving Repr, DecidableEq

/-- The clock with a number. -/
def Clock.ofNumber? (n : Nat) : Option Clock := [realtime, monotonic, process, thread][n]?

/-- The clock with a number, of which only the first two can be read. -/
def clock (id : UInt32) : Action Clock := do
  match Clock.ofNumber? id.toNat with
  | none => throw .invalid
  | some c => do
    Action.guard (c = .realtime ∨ c = .monotonic) .badDescriptor
    return c

/-- What a clock shows. -/
def Clock.now (w : World) (p : Process) : Clock → Nat
  | .realtime => w.startOfDay + p.clock
  | _ => p.clock

/-- Reads a clock. -/
def readClock (w : World) (id result : UInt32) : Action (List Output) := do
  let c ← clock id
  return [timeOutput result (c.now w (← get))]

/-- The resolution of a clock: one nanosecond. -/
def clockResolution (id result : UInt32) : Action (List Output) := do
  let _ ← clock id
  return [timeOutput result 1]

/-- Draws random bytes. No address is too large for none of them. -/
def drawRandom (w : World) (start length : UInt32) : Action Unit := do
  if length = 0 then return
  Action.ofPointer (checkRegion (← get).memory ⟨start.toNat, length.toNat⟩)
  let drawn := (← get).drawn
  let bytes := (List.range length.toNat).map fun i => w.entropy (drawn + i)
  modify fun p => { p with drawn := drawn + length.toNat }
  Action.writeAll start.toNat bytes

/-! ### Waiting -/

/-- What a subscription asks for. -/
inductive Request where
  /-- A time of a clock, or a number of nanoseconds from now. -/
  | time (c : Clock) (timeout : Nat) (absolute : Bool)
  | readable (fd : UInt32)
  | writable (fd : UInt32)
  deriving Repr, DecidableEq

/-- Something to wait for, with the mark under which it is reported. -/
structure Subscription where
  mark : Nat
  request : Request
  deriving Repr, DecidableEq

/-- The bytes of a subscription. -/
def subscriptionBytes : Nat := 48

/-- The bytes of an event. -/
def eventBytes : Nat := 32

/-- The request for a time at an address. -/
def timeRequest (address : Nat) : Action Request := do
  let id ← Action.read address 4
  let some c := Clock.ofNumber? id | throw .invalid
  let timeout ← Action.read (address + 8) 8
  let _ ← Action.read (address + 16) 8
  let flags ← Action.read (address + 24) 2
  Action.code .subClockFlags flags
  return .time c timeout (flags = 1)

/-- The subscription at an address. -/
def subscription (address : Nat) : Action Subscription := do
  Action.ofPointer (checkAddress address)
  let mark ← Action.read address 8
  let kind ← Action.read (address + 8) 1
  Action.code .eventType kind
  if kind = 0 then return ⟨mark, ← timeRequest (address + 16)⟩
  else
    let fd := (← Action.read (address + 16) 4).toUInt32
    return ⟨mark, if kind = 1 then .readable fd else .writable fd⟩

/-- Succeeds if a descriptor is that of the input, or of an output. -/
def Request.checkStream : Request → Action Unit
  | .time .. => pure ()
  | .readable fd => do Action.guard ((← Action.stream fd) = .input) .badDescriptor
  | .writable fd => do Action.guard ((← Action.stream fd) ≠ .input) .badDescriptor

/-- The unit in which a guest waits: a millisecond, in nanoseconds. -/
def waitUnit : Nat := 1000000

/-- How long a request waits: whole milliseconds for a time, and not at all for a stream. Only two
clocks can be waited for. -/
def Request.delay (w : World) : Request → Action Nat
  | .time c timeout absolute => do
    Action.guard (c = .realtime ∨ c = .monotonic) .invalid
    let now := c.now w (← get)
    let rest := if absolute then timeout - now else timeout
    return (rest + waitUnit - 1) / waitUnit * waitUnit
  | r => do
    r.checkStream
    return 0

/-- The fields of the event that reports a subscription. -/
def Subscription.event (s : Subscription) : List Field :=
  let (kind, ready) : Nat × Nat := match s.request with
    | .time .. => (0, 0)
    | .readable _ => (1, 1)
    | .writable _ => (2, 1)
  [⟨0, 8, s.mark⟩, ⟨8, 2, 0⟩, ⟨10, 1, kind⟩, ⟨16, 8, ready⟩, ⟨24, 2, 0⟩]

/-- The delays of subscriptions in a row. -/
def delays (w : World) (address : Nat) : (count : Nat) → Action (List Nat)
  | 0 => return []
  | count + 1 => do
    let delay ← (← subscription address).request.delay w
    return delay :: (← delays w (address + subscriptionBytes) count)

/-- Writes an event for every subscription whose wait is over. A subscription is read just before
its event is written, so that events may change what later ones report. -/
def writeEvents (subscriptions events : Nat) : (elapsed : List Bool) → Action Unit
  | [] => return
  | false :: elapsed => writeEvents (subscriptions + subscriptionBytes) events elapsed
  | true :: elapsed => do
    let s ← subscription subscriptions
    Action.ofPointer (checkAddress events)
    s.request.checkStream
    Action.writeFields events s.event
    writeEvents (subscriptions + subscriptionBytes) (events + eventBytes) elapsed

/-- Waits for the first of the subscriptions and reports all that are then ready. -/
def awaitEvents (w : World) (start events count result : UInt32) : Action (List Output) := do
  Action.guard (count ≠ 0) .invalid
  let delays ← delays w start.toNat count.toNat
  let delay := delays.foldl min (delays.headD 0)
  modify fun p => { p with clock := p.clock + delay }
  let elapsed := delays.map (decide <| · ≤ delay)
  writeEvents start.toNat events.toNat elapsed
  return [sizeOutput result (elapsed.countP id)]

/-! ### Files and directories -/

/-- A time of a file cannot both be given and be that of the call. -/
def checkTimes (flags : UInt32) : Action Unit :=
  Action.guard (flags &&& 3 ≠ 3 ∧ flags &&& 12 ≠ 12) .invalid

/-! ### All functions -/

/-- Fails with `e` on open descriptors and as usual on others. -/
def refuseOpen (fd : UInt32) (e : Errno) : Action (List Output) := do
  let _ ← Action.stream fd
  throw e

/-- Fails with `e` on open descriptors of some streams and as on others otherwise. -/
def refuseStream (fd : UInt32) (p : Stream → Bool) (e : Errno) : Action (List Output) := do
  let s ← Action.stream fd
  throw (if p s then e else .badDescriptor)

/-- An action without results. -/
def silently (a : Action Unit) : Action (List Output) := do
  a
  return []

/-- The action of a host function on its arguments, with its results. -/
def Function.run (w : World) (f : Function) (args : List Value) : Action (List Output) :=
  match f, args with
  | .fdRead, [.i32 fd, .i32 list, .i32 count, .i32 result] => readInput fd list count result
  | .fdWrite, [.i32 fd, .i32 list, .i32 count, .i32 result] => writeOutput fd list count result
  | .argsSizesGet, [.i32 count, .i32 size]
  | .environSizesGet, [.i32 count, .i32 size] => return [sizeOutput count 0, sizeOutput size 0]
  | .argsGet, _ | .environGet, _ | .schedYield, _ => return []
  | .clockResGet, [.i32 id, .i32 result] => clockResolution id result
  | .clockTimeGet, [.i32 id, .i64 _, .i32 result] => readClock w id result
  | .randomGet, [.i32 start, .i32 length] => silently (drawRandom w start length)
  | .pollOneoff, [.i32 start, .i32 events, .i32 count, .i32 result] =>
    awaitEvents w start events count result
  | .fdClose, [.i32 fd] => silently (closeDescriptor fd)
  | .fdRenumber, [.i32 fd, .i32 to_] => silently (moveDescriptor fd to_)
  | .fdFdstatGet, [.i32 fd, .i32 result] => describeDescriptor fd result
  | .fdFilestatGet, [.i32 fd, .i32 result] => describeFile fd result
  | .fdFilestatSetTimes, [_, _, _, .i32 flags]
  | .pathFilestatSetTimes, [_, _, _, _, _, _, .i32 flags] => do
    checkTimes flags
    throw .badDescriptor
  | .fdSeek, .i32 fd :: _ | .fdTell, .i32 fd :: _ => refuseOpen fd .notSeekable
  | .fdPread, .i32 fd :: _ => refuseStream fd (· = .input) .notSeekable
  | .fdPwrite, .i32 fd :: _ => refuseStream fd (· ≠ .input) .notSeekable
  | .fdPrestatDirName, .i32 fd :: _ => refuseOpen fd .notDirectory
  | .sockAccept, .i32 fd :: _
  | .sockRecv, .i32 fd :: _
  | .sockSend, .i32 fd :: _
  | .sockShutdown, .i32 fd :: _ => refuseOpen fd .notSocket
  | .procRaise, _ => throw .notSupported
  | .procExit, [.i32 code] =>
    Action.abort (if code < 126 then .exit code else .exitOutOfRange)
  | .pathOpen, _ :: _ :: .i32 start :: .i32 length :: _ => do
    Action.text ⟨start.toNat, length.toNat⟩
    throw .badDescriptor
  | _, _ => throw .badDescriptor

/-- Succeeds if every parameter takes its argument. -/
def Function.checkArguments (f : Function) (args : List Value) : Except Abort Unit :=
  (f.params.zip args).forM fun (p, v) => (p.check v).mapError fun (d, e) => .argument f d e

/-- Writes the results of a host function. -/
def Function.writeOutputs (f : Function) (outputs : List Output) (m : Wasm.Memory) :
    Except Abort Wasm.Memory :=
  outputs.foldlM (fun m o => (writeRecord o.address o.fields m).mapError (.result f o.name)) m

/-- A call of a host function: its results and the process after it. -/
def call (w : World) (f : Function) (args : List Value) (p : Process) :
    Except Abort (List Value × Process) := do
  f.checkArguments args
  match ← (f.run w args).run p with
  | (.ok outputs, p) => return ([.i32 0], { p with memory := ← f.writeOutputs outputs p.memory })
  | (.error e, p) => return ([.i32 e.code], p)

/-- The resources that a call leaves behind which ends the guest. The action comes first, so that a
call whose results cannot be written has acted all the same. -/
def leftBehind (w : World) (f : Function) (args : List Value) (p : Process) : Resources :=
  match f.checkArguments args, (f.run w args).run p with
  | .ok (), .ok (_, q) => q.toResources
  | _, _ => p.toResources

end ScriptSandbox.Wasi
