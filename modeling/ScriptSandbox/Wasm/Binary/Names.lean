import ScriptSandbox.Wasm.Binary.Reader
import ScriptSandbox.Wasm.Module

/-!
# Reading binary modules: names

A section of names has parts with a number and a size. One part names the module, one its functions,
and the others name what no message shows. Names are a help for readers only: at the first fault the
section is given up, what it has named up to there keeps its name, and the module is none the worse.

## Main definitions

* `Binary.readNames`: the names in a section, added to those of the sections before
-/

namespace ScriptSandbox.Wasm.Binary

/-- The names found and whether reading can go on. -/
abbrev NamesFound := Names × Bool

/-- Reads the names of `n` functions, of which there are `known`; others are passed over. Nothing may
follow. -/
def functionNames (known : Nat) : (n : Nat) → Input → Names → NamesFound
  | 0, s, found => (found, s.rest.isEmpty)
  | n + 1, s, found =>
    let entry : Decoder (Nat × String) := do return (← u32, ← name)
    match entry s with
    | .error _ => (found, false)
    | .ok ((i, x), s) =>
      functionNames known n s
        (if i < known then { found with functions := (i, x) :: found.functions } else found)

/-- Reads the part of a section that has the given number. Parts up to the eleventh are sequences, of
which at least the length must be readable. -/
def namesPart (known number : Nat) (s : Input) (found : Names) : NamesFound :=
  match number with
  | 0 =>
    match exactly name s with
    | .ok x => ({ found with module? := some x }, true)
    | .error _ => (found, false)
  | 1 =>
    match u32 s with
    | .ok (n, s) => functionNames known n s found
    | .error _ => (found, false)
  | _ => (found, 11 < number || (u32 s).toBool)

/-- A part: its number, which has seven bits, and its bytes. -/
def numberedPart : Decoder (Nat × Input) := do
  let number ← byte
  if 128 ≤ number.toNat then refuse .numberTooLong
  let size ← u32
  let start ← position
  return (number.toNat, ⟨← bytes size, start⟩)

/-- Reads the names in a section of a module that has `known` functions. Every part takes a byte, so
`fuel` may be the number of bytes. -/
def readNames (known : Nat) : (fuel : Nat) → Input → Names → Names
  | 0, _, found => found
  | fuel + 1, s, found =>
    match numberedPart s with
    | .error _ => found
    | .ok ((number, part), s) =>
      match namesPart known number part found with
      | (found, true) => readNames known fuel s found
      | (found, false) => found

end ScriptSandbox.Wasm.Binary
