import ScriptSandbox.Text.Utf8
import ScriptSandbox.Wasi.Errno
import ScriptSandbox.Wasi.Function
import ScriptSandbox.Wasi.Pointer
import ScriptSandbox.Wasi.Stream

/-!
# Guest processes

What host functions act on: the guest's memory, its streams and descriptors, and its clock. A guest
starts with the three standard streams as descriptors 0, 1 and 2 and with nothing else: no
arguments, no environment, no files and no sockets.

## Main definitions

* `Wasi.World`: what the guest can observe of its surroundings
* `Wasi.Resources`: what a guest holds besides its memory
* `Wasi.Process`: the state of a guest process during a call
* `Wasi.Abort`: why a host function ends the guest
* `Wasi.Action`: a computation of a host function
-/

namespace ScriptSandbox.Wasi

open Wasm (Memory)

/-- What a guest can observe of its surroundings. -/
structure World where
  /-- The time of day at the start, in nanoseconds. -/
  startOfDay : Nat := 0
  /-- The random bytes, in the order in which they are drawn. -/
  entropy : Nat → UInt8 := fun _ => 0

/-- What a guest holds besides its memory. -/
structure Resources where
  /-- The input that was not read yet. -/
  unread : List UInt8
  output : Capture
  error : Capture
  /-- The open descriptors. -/
  descriptors : List (Nat × Stream)
  /-- The number of random bytes drawn. -/
  drawn : Nat
  deriving Inhabited

/-- The state of a guest process during a call. -/
structure Process extends Resources where
  memory : Memory
  /-- The nanoseconds since the start. -/
  clock : Nat

/-- The descriptors a guest starts with. -/
def standardDescriptors : List (Nat × Stream) := [(0, .input), (1, .output), (2, .error)]

/-- What a guest starts with: some input, and output streams of some capacity. -/
def Resources.fresh (input : List UInt8) (capacity : Nat) : Resources where
  unread := input
  output := ⟨capacity, #[]⟩
  error := ⟨capacity, #[]⟩
  descriptors := standardDescriptors
  drawn := 0

/-- Why a host function ends the guest. -/
inductive Abort where
  /-- The guest asked to end. -/
  | exit (code : UInt32)
  /-- The guest asked to end with a code that is out of range. -/
  | exitOutOfRange
  /-- An address cannot be used. -/
  | pointer (e : PointerError)
  /-- An argument is not what its parameter takes. -/
  | argument (f : Function) (d : Domain) (e : CodeError)
  /-- A result cannot be written. -/
  | result (f : Function) (name : String) (e : PointerError)
  | noMemory
  deriving Repr, DecidableEq

/-- A failure between guest and host, with the place in the call where it occurred. -/
def boundaryMessage (f : Function) (place message : String) : String :=
  s!"In func {origin}::{f.name} at {place}: {message}"

/-- Why a host function ends the guest, in words: the first cause, and the contexts in which it
counts, the innermost first. Nothing when the guest asked to end. -/
def Abort.words? : Abort → Option (String × List String)
  | .exit _ => none
  | .exitOutOfRange => some ("exit with invalid exit status outside of [0..126)", [])
  | .pointer e => some (e.message, [])
  | .argument f d e =>
    let outer := boundaryMessage f ("convert " ++ d.name) e.message
    match e.cause? with
    | none => some (e.message, [outer])
    | some cause => some (cause, [e.message, outer])
  | .result f name e => some (e.message, [boundaryMessage f ("write " ++ name) e.message])
  | .noMemory => some ("missing required memory export", [])

/-- A computation of a host function: it acts on the process and gives a value or an error number,
or it ends the guest. -/
abbrev Action (α : Type) := ExceptT Errno (StateT Process (Except Abort)) α

namespace Action

/-- Ends the guest. -/
def abort {α : Type} (a : Abort) : Action α :=
  ExceptT.mk fun _ => Except.error a

/-- A use of a pointer, which ends the guest if the pointer cannot be used. -/
def ofPointer {α : Type} : Except PointerError α → Action α
  | .ok a => pure a
  | .error e => abort (.pointer e)

/-- Succeeds if a condition holds. -/
def guard (c : Bool) (e : Errno) : Action Unit := if c then pure () else throw e

/-- The stream of a descriptor. -/
def stream (fd : UInt32) : Action Stream := do
  match (← get).descriptors.lookup fd.toNat with
  | some s => return s
  | none => throw .badDescriptor

/-- A number in guest memory. -/
def read (address size : Nat) : Action Nat := do
  ofPointer (readNumber (← get).memory address size)

/-- Writes a number to guest memory. -/
def write (address size value : Nat) : Action Unit := do
  let memory ← ofPointer (writeNumber (← get).memory address size value)
  modify fun p => { p with memory }

/-- Writes the fields of a record to guest memory. -/
def writeFields (address : Nat) (fields : List Field) : Action Unit := do
  let memory ← ofPointer (writeRecord address fields (← get).memory)
  modify fun p => { p with memory }

/-- Writes bytes to guest memory. -/
def writeAll (address : Nat) (bytes : List UInt8) : Action Unit := do
  let memory ← ofPointer (writeRegion (← get).memory address bytes)
  modify fun p => { p with memory }

/-- The first buffer of a list that is not empty. -/
def buffer (list count : UInt32) : Action (Option Region) := do
  ofPointer (firstBuffer (← get).memory list.toNat count.toNat)

/-- The bytes of a region. -/
def bytes (r : Region) : Action (List UInt8) := do
  ofPointer (readRegion (← get).memory r)

/-- Succeeds if the bytes of a region are well-formed UTF-8. -/
def text (r : Region) : Action Unit := do
  guard (Utf8.decode? (← bytes r)).isSome .badText

/-- Succeeds if a number read from memory is a code. -/
def code (d : Domain) (n : Nat) : Action Unit :=
  match d.check n with
  | .ok () => pure ()
  | .error (.notMember _) => throw .invalid
  | .error _ => throw .overflow

end Action

end ScriptSandbox.Wasi
