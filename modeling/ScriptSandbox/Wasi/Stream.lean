/-!
# Standard streams

A guest reads its standard input once, from the front. What it writes is kept up to a capacity; a
write that reaches the capacity fills the stream and fails.

## Main definitions

* `Wasi.Stream`: the three standard streams
* `Wasi.Capture`: what was written to a stream
* `Wasi.Capture.write`: a write in blocks
-/

namespace ScriptSandbox.Wasi

/-- A standard stream. -/
inductive Stream where
  | input
  | output
  | error
  deriving Repr, DecidableEq

/-- What was written to a stream. -/
structure Capture where
  /-- The greatest number of bytes that is kept. -/
  capacity : Nat
  content : Array UInt8 := #[]
  deriving Repr, DecidableEq, Inhabited

namespace Capture

/-- The number of bytes that still fit. -/
def space (c : Capture) : Nat := c.capacity - c.content.size

/-- Keeps the bytes that fit. -/
def append (c : Capture) (bytes : List UInt8) : Capture :=
  { c with content := c.content ++ bytes.take c.space }

/-- The most bytes that are written at once. -/
def blockBytes : Nat := 4096

/-- Writes bytes in blocks. A full stream ends the write, even behind the last block, and then the
result tells so. `fuel` may be the number of bytes. -/
def writeBlocks (c : Capture) : (fuel : Nat) → List UInt8 → Capture × Bool
  | 0, bytes => (c, bytes.isEmpty)
  | _, [] => (c, true)
  | fuel + 1, bytes =>
    let block := bytes.take blockBytes
    if block.length < c.space then
      writeBlocks (c.append block) fuel (bytes.drop blockBytes)
    else (c.append block, false)

/-- Writes bytes and tells whether the stream has not become full. -/
def write (c : Capture) (bytes : List UInt8) : Capture × Bool := c.writeBlocks bytes.length bytes

end Capture

end ScriptSandbox.Wasi
