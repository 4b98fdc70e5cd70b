import ScriptSandbox.Wasm.Type

/-!
# Linear memory

A memory is a sequence of pages. A page that was never written holds no bytes and reads as zeros, so
that a memory costs what is written to it. Numbers are stored with the least significant byte first.

## Main definitions

* `Wasm.Memory`: a memory, with its number of pages `Wasm.Memory.pageCount`
* `Wasm.Memory.get`, `Wasm.Memory.set`: single bytes
* `Wasm.Memory.readBytes`, `Wasm.Memory.writeBytes`: runs of bytes
* `Wasm.Memory.readNat`, `Wasm.Memory.writeNat`: numbers
* `Wasm.Memory.grow`: more pages
-/

namespace ScriptSandbox.Wasm

/-- A linear memory. -/
structure Memory where
  pages : Array ByteArray
  /-- The number of pages that the module allows. -/
  maximum : Option Nat
  /-- Whether threads share it. -/
  shared : Bool
  deriving Inhabited

namespace Memory

/-- A page of zeros. -/
def zeroPage : ByteArray := ⟨Array.replicate pageBytes 0⟩

/-- A memory of zeros. -/
def zeros (pages : Nat) (maximum : Option Nat) (shared : Bool) : Memory :=
  ⟨Array.replicate pages ByteArray.empty, maximum, shared⟩

/-- The number of pages. -/
def pageCount (m : Memory) : Nat := m.pages.size

/-- The number of bytes. -/
def size (m : Memory) : Nat := m.pageCount * pageBytes

/-- The byte at an address; zero beyond the end. -/
def get (m : Memory) (address : Nat) : UInt8 :=
  let page := m.pages.getD (address / pageBytes) ByteArray.empty
  let offset := address % pageBytes
  if h : offset < page.size then page[offset] else 0

/-- A page with one byte changed. -/
def setInPage (page : ByteArray) (offset : Nat) (b : UInt8) : ByteArray :=
  let page := if page.size = 0 then zeroPage else page
  if h : offset < page.size then page.set offset b else page

/-- Changes the byte at an address; nothing beyond the end. -/
def set (m : Memory) (address : Nat) (b : UInt8) : Memory :=
  { m with pages := m.pages.modify (address / pageBytes) fun page =>
      setInPage page (address % pageBytes) b }

/-- Whether a run of bytes lies inside the memory. -/
def inBounds (m : Memory) (address length : Nat) : Bool := address + length ≤ m.size

/-- A run of bytes, in front of `rest`. -/
def readList (m : Memory) (address : Nat) : (length : Nat) → (rest : List UInt8) → List UInt8
  | 0, rest => rest
  | n + 1, rest => m.readList address n (m.get (address + n) :: rest)

/-- A run of bytes. -/
def readBytes (m : Memory) (address length : Nat) : List UInt8 := m.readList address length []

/-- Writes a run of bytes. -/
def writeBytes (m : Memory) (address : Nat) : List UInt8 → Memory
  | [] => m
  | b :: bs => (m.set address b).writeBytes (address + 1) bs

/-- The number held by a run of bytes. -/
def readNat (m : Memory) (address : Nat) : (length : Nat) → Nat
  | 0 => 0
  | n + 1 => (m.get address).toNat + 256 * m.readNat (address + 1) n

/-- Writes a number to a run of bytes. -/
def writeNat (m : Memory) (address : Nat) : (length : Nat) → (value : Nat) → Memory
  | 0, _ => m
  | n + 1, value => (m.set address value.toUInt8).writeNat (address + 1) n (value / 256)

/-- Writes the same byte to a run of addresses. -/
def fill (m : Memory) (address : Nat) (b : UInt8) : (length : Nat) → Memory
  | 0 => m
  | n + 1 => (m.set address b).fill (address + 1) b n

/-- Adds pages, if no more than `limit` pages and no more than the module allows result. -/
def grow (m : Memory) (pages limit : Nat) : Option Memory :=
  let total := m.pageCount + pages
  if total ≤ min limit (m.maximum.getD maxPages) then
    some { m with pages := m.pages ++ Array.replicate pages ByteArray.empty }
  else none

end Memory

end ScriptSandbox.Wasm
