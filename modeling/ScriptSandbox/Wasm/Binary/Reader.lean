import ScriptSandbox.Text.Utf8

/-!
# Reading binary modules: primitives

A decoder consumes bytes from the front of its input, which knows how many came before. Numbers are
LEB128: seven bits to a byte, the least significant first, in no more bytes than their width needs
and with no bit beyond it set.

## Main definitions

* `Binary.Malformed`: why bytes are not a module
* `Binary.Input`, `Binary.Decoder`: the bytes that are left, and a decoder
* `Binary.unsigned`, `Binary.signed`: LEB128 numbers
* `Binary.vector`: a counted sequence
-/

namespace ScriptSandbox.Wasm.Binary

/-- Why bytes are not a module. -/
inductive Malformed where
  | unexpectedEnd
  | badHeader
  | numberTooLong
  | badText
  | badSection (id : UInt8)
  | badType (code : UInt8)
  | badFlags (flags : Nat)
  | badOpcode (code : Nat)
  | tooMany (count : Nat)
  | leftover
  | lengthsDiffer
  deriving Repr, DecidableEq

/-- The bytes that are left and the number of bytes before them. -/
structure Input where
  rest : List UInt8
  position : Nat
  deriving Repr, DecidableEq

/-- A decoder: consumes bytes and gives a value, or says why it cannot. -/
abbrev Decoder (α : Type) := StateT Input (Except Malformed) α

/-- Fails. -/
def refuse {α : Type} (e : Malformed) : Decoder α := fun _ => .error e

/-- The next byte. -/
def byte : Decoder UInt8
  | ⟨[], _⟩ => .error .unexpectedEnd
  | ⟨b :: rest, position⟩ => .ok (b, ⟨rest, position + 1⟩)

/-- The number of bytes read. -/
def position : Decoder Nat := fun s => .ok (s.position, s)

/-- Whether all bytes have been read. -/
def atEnd : Decoder Bool := fun s => .ok (s.rest.isEmpty, s)

/-- The next `n` bytes. -/
def bytes (n : Nat) : Decoder (List UInt8) := fun s =>
  let (front, rest) := s.rest.splitAt n
  if front.length < n then .error .unexpectedEnd else .ok (front, ⟨rest, s.position + n⟩)

/-- An unsigned number of at most `width` bits. -/
def unsigned (width : Nat) : Decoder Nat := do
  let n := (← byte).toNat
  if n < 128 then
    if n < Nat.pow 2 width then return n else refuse .numberTooLong
  else if h : 7 < width then
    let m ← unsigned (width - 7)
    return 128 * m + (n - 128)
  else refuse .numberTooLong
termination_by width

/-- A signed number of at most `width` bits. -/
def signed (width : Nat) : Decoder Int := do
  let n := (← byte).toNat
  if n < 64 then
    if n < Nat.pow 2 (width - 1) then return n else refuse .numberTooLong
  else if n < 128 then
    if 128 - n ≤ Nat.pow 2 (width - 1) then return n - 128 else refuse .numberTooLong
  else if h : 7 < width then
    let m ← signed (width - 7)
    return 128 * m + (n - 128)
  else refuse .numberTooLong
termination_by width

/-- An index or count. -/
def u32 : Decoder Nat := unsigned 32

/-- A count of at most `limit`. -/
def count (limit : Nat) : Decoder Nat := do
  let n ← u32
  if n ≤ limit then return n else refuse (.tooMany n)

/-- `n` items in a row, behind those already read. -/
def repeated {α : Type} (item : Decoder α) (found : List α) : (n : Nat) → Decoder (List α)
  | 0 => return found.reverse
  | n + 1 => do
    let x ← item
    repeated item (x :: found) n

/-- A counted sequence of at most `limit` items. -/
def vector {α : Type} (limit : Nat) (item : Decoder α) : Decoder (List α) := do
  repeated item [] (← count limit)

/-- Items up to the end of the bytes, behind those already read. Every item takes a byte, so `fuel`
may be the number of bytes. -/
def toEnd {α : Type} (item : Decoder α) : (fuel : Nat) → (found : List α) → Decoder (List α)
  | 0, found => do if ← atEnd then return found.reverse else refuse .leftover
  | fuel + 1, found => do
    if ← atEnd then return found.reverse
    let x ← item
    toEnd item fuel (x :: found)

/-- The value of a decoder that takes up exactly the given bytes. -/
def exactly {α : Type} (d : Decoder α) (s : Input) : Except Malformed α :=
  match d s with
  | .ok (x, ⟨[], _⟩) => .ok x
  | .ok (_, ⟨_ :: _, _⟩) => .error .leftover
  | .error e => .error e

/-- A part that announces its size in bytes. -/
def sized {α : Type} (d : Decoder α) : Decoder α := do
  let size ← u32
  let start ← position
  let s ← bytes size
  liftM (exactly d ⟨s, start⟩)

/-- The longest name. -/
def maxNameBytes : Nat := 100000

/-- A name: a counted sequence of bytes that are well-formed UTF-8. -/
def name : Decoder String := do
  match Utf8.decode? (← bytes (← count maxNameBytes)) with
  | some s => return s
  | none => refuse .badText

end ScriptSandbox.Wasm.Binary
