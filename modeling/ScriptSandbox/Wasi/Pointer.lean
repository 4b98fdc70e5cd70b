import ScriptSandbox.Wasm.Memory

/-!
# Pointers into guest memory

Host functions are given addresses of the guest's memory. A run of bytes must lie inside the memory,
and a number must lie at a multiple of its size; anything else ends the guest.

## Main definitions

* `Wasi.Region`: a run of bytes
* `Wasi.PointerError`: why an address cannot be used
* `Wasi.readNumber`, `Wasi.writeNumber`: numbers of one, two, four or eight bytes
* `Wasi.readRegion`, `Wasi.writeRegion`: runs of bytes
-/

namespace ScriptSandbox.Wasi

open Wasm (Memory)

/-- A run of bytes. -/
structure Region where
  start : Nat
  length : Nat
  deriving Repr, DecidableEq

/-- A region in words. -/
def Region.text (r : Region) : String :=
  s!"Region \x7b start: {r.start}, len: {r.length} \x7d"

/-- Why an address cannot be used. -/
inductive PointerError where
  | outOfBounds (r : Region)
  | notAligned (alignment : Nat) (r : Region)
  /-- The address is beyond the 32-bit address space. -/
  | overflow
  deriving Repr, DecidableEq

/-- The wording of a pointer error. -/
def PointerError.message : PointerError → String
  | .outOfBounds r => s!"Pointer out of bounds: {r.text}"
  | .notAligned alignment r => s!"Pointer not aligned to {alignment}: {r.text}"
  | .overflow => "Pointer overflow"

/-- Succeeds if an address can be used. -/
def checkAddress (address : Nat) : Except PointerError Unit :=
  if address < UInt32.size then .ok () else .error .overflow

/-- Succeeds if a run of bytes lies inside a memory. -/
def checkRegion (m : Memory) (r : Region) : Except PointerError Unit := do
  checkAddress r.start
  if m.inBounds r.start r.length then return else throw (.outOfBounds r)

/-- Succeeds if a number of `size` bytes can be read or written at an address. -/
def checkNumber (m : Memory) (address size : Nat) : Except PointerError Unit := do
  let r : Region := ⟨address, size⟩
  checkRegion m r
  if address % size = 0 then return else throw (.notAligned size r)

/-- The number of `size` bytes at an address. -/
def readNumber (m : Memory) (address size : Nat) : Except PointerError Nat := do
  checkNumber m address size
  return m.readNat address size

/-- Writes a number of `size` bytes at an address. -/
def writeNumber (m : Memory) (address size value : Nat) : Except PointerError Memory := do
  checkNumber m address size
  return m.writeNat address size value

/-- A number of a record: its distance from the start of the record, its size and its value. -/
structure Field where
  distance : Nat
  size : Nat
  value : Nat
  deriving Repr, DecidableEq

/-- Writes the fields of a record at an address. -/
def writeRecord (address : Nat) : List Field → Memory → Except PointerError Memory
  | [], m => .ok m
  | f :: fields, m => do
    writeRecord address fields (← writeNumber m (address + f.distance) f.size f.value)

/-- A run of bytes. -/
def readRegion (m : Memory) (r : Region) : Except PointerError (List UInt8) := do
  checkRegion m r
  return m.readBytes r.start r.length

/-- Writes a run of bytes. -/
def writeRegion (m : Memory) (start : Nat) (bytes : List UInt8) : Except PointerError Memory := do
  checkRegion m ⟨start, bytes.length⟩
  return m.writeBytes start bytes

/-- The bytes of an entry of a buffer list: an address and a length. -/
def bufferBytes : Nat := 8

/-- The first buffer of a list that is not empty. -/
def firstBuffer (m : Memory) (list : Nat) : (count : Nat) → Except PointerError (Option Region)
  | 0 => .ok none
  | count + 1 => do
    checkAddress list
    let start ← readNumber m list 4
    let length ← readNumber m (list + 4) 4
    if length = 0 then firstBuffer m (list + bufferBytes) count
    else return some ⟨start, length⟩

end ScriptSandbox.Wasi
