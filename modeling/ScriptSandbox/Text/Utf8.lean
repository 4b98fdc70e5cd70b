/-!
# UTF-8 decoding

Bytes are read one at a time. Every byte either completes a character, continues one, or shows that
what was begun can be no character; the bytes given up at that point form one *ill-formed part*, and
the byte that showed it is read again as a first byte.

## Main definitions

* `Utf8.pieces`: the characters and ill-formed parts of a byte string, in order
* `Utf8.decode?`: the text of a byte string that has no ill-formed part
* `Utf8.wellFormedLength`: the number of bytes before the first ill-formed part
* `Utf8.lossy`: the text with `U+FFFD` for every ill-formed part
-/

namespace ScriptSandbox.Utf8

/-- A character of which some bytes are still owed: how many, the range of the next one, and the
bits read so far. -/
structure Unfinished where
  owed : Nat
  low : UInt8
  high : UInt8
  bits : Nat
  deriving Repr, DecidableEq

/-- What a first byte does. -/
inductive First where
  /-- It is a character by itself. -/
  | complete (c : Char)
  /-- It opens a longer character. -/
  | opens (u : Unfinished)
  /-- No character starts with it. -/
  | refused
  deriving Repr, DecidableEq

/-- The role of a byte at the start of a character. The range of the second byte excludes overlong
forms (after `E0` and `F0`), surrogates (after `ED`) and code points above `U+10FFFF` (after
`F4`). -/
def first (b : UInt8) : First :=
  let n := b.toNat
  if n < 0x80 then .complete (Char.ofNat n)
  else if n < 0xC2 then .refused
  else if n < 0xE0 then .opens ⟨1, 0x80, 0xBF, n - 0xC0⟩
  else if n < 0xF0 then
    .opens ⟨2, if n = 0xE0 then 0xA0 else 0x80, if n = 0xED then 0x9F else 0xBF, n - 0xE0⟩
  else if n < 0xF5 then
    .opens ⟨3, if n = 0xF0 then 0x90 else 0x80, if n = 0xF4 then 0x8F else 0xBF, n - 0xF0⟩
  else .refused

/-- The state of decoding between two bytes: the character that is open, if any, and the pieces
found so far, `none` for an ill-formed part. -/
structure Decoder where
  unfinished : Option Unfinished := none
  pieces : Array (Option Char) := #[]
  deriving Repr

namespace Decoder

/-- Reads a byte that can only start a character. -/
def start (d : Decoder) (b : UInt8) : Decoder :=
  match first b with
  | .complete c => { unfinished := none, pieces := d.pieces.push (some c) }
  | .opens u => { unfinished := some u, pieces := d.pieces }
  | .refused => { unfinished := none, pieces := d.pieces.push none }

/-- Reads one byte. -/
def push (d : Decoder) (b : UInt8) : Decoder :=
  match d.unfinished with
  | none => d.start b
  | some u =>
    if u.low ≤ b ∧ b ≤ u.high then
      let bits := u.bits * 64 + (b.toNat - 0x80)
      if u.owed ≤ 1 then
        { unfinished := none, pieces := d.pieces.push (some (Char.ofNat bits)) }
      else
        { unfinished := some ⟨u.owed - 1, 0x80, 0xBF, bits⟩, pieces := d.pieces }
    else start { unfinished := none, pieces := d.pieces.push none } b

/-- The pieces at the end of the bytes: an unfinished character is an ill-formed part. -/
def finish (d : Decoder) : Array (Option Char) :=
  match d.unfinished with
  | none => d.pieces
  | some _ => d.pieces.push none

end Decoder

/-- The characters of `bytes` in order, with `none` for every maximal ill-formed part. -/
def pieces (bytes : List UInt8) : List (Option Char) :=
  (bytes.foldl Decoder.push {}).finish.toList

/-- The text of well-formed bytes; `none` if any part of them is ill-formed. -/
def decode? (bytes : List UInt8) : Option String :=
  let ps := pieces bytes
  if ps.all Option.isSome then some (String.ofList (ps.filterMap id)) else none

/-- The number of bytes before the first ill-formed part. -/
def wellFormedLength (bytes : List UInt8) : Nat :=
  ((pieces bytes).takeWhile Option.isSome).foldl (fun n c => n + (c.map Char.utf8Size).getD 0) 0

/-- The text of any bytes, with one `U+FFFD` for every ill-formed part. -/
def lossy (bytes : List UInt8) : String :=
  String.ofList ((pieces bytes).map (·.getD '\uFFFD'))

/-- The bytes of a text. -/
def encode (s : String) : List UInt8 := s.toUTF8.toList

end ScriptSandbox.Utf8
