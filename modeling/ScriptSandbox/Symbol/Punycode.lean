/-!
# Punycode

Text in ASCII characters. The ASCII characters of the text come first; then, for every other
character in the order of code points, the distance to it from the one before, counted over all
places of all code points between them. Distances are numbers with digits of varying weight.

## Main definitions

* `Punycode.decode?`: the text of a pair of ASCII characters and distances
-/

namespace ScriptSandbox.Symbol.Punycode

/-- The number of digits. -/
def base : Nat := 36

/-- The value of a digit: letters come first. -/
def digitValue? (c : Char) : Option Nat :=
  if 'a' ≤ c ∧ c ≤ 'z' then some (c.toNat - 'a'.toNat)
  else if c.isDigit then some (26 + (c.toNat - '0'.toNat))
  else none

/-- The least value of a digit in place `k` behind which another digit follows. -/
def threshold (k bias : Nat) : Nat := min (max (k - bias) 1) 26

/-- A number, with the digits behind it. It must have 64 bits. -/
def distance? (bias : Nat) : (place weight sum : Nat) → List Char → Option (Nat × List Char)
  | _, _, _, [] => none
  | place, weight, sum, c :: rest => do
    let d ← digitValue? c
    let place := place + base
    let t := threshold place bias
    let sum := sum + d * weight
    if UInt64.size ≤ sum then none
    else if d < t then return (sum, rest)
    else if UInt64.size ≤ weight * (base - t) then none
    else distance? bias place (weight * (base - t)) sum rest

/-- Divides until at most 455 is left, and counts the digits that takes. -/
def scaled (delta k : Nat) : Nat × Nat :=
  if 455 < delta then scaled (delta / 35) (k + base) else (delta, k)
termination_by delta
decreasing_by exact Nat.div_lt_self (by omega) (by omega)

/-- The bias after a distance, so that the next one, which is likely to be similar, has few
digits. -/
def adapted (delta length damp : Nat) : Nat :=
  let delta := delta / damp
  let (delta, k) := scaled (delta + delta / length) 0
  k + base * delta / (delta + 38)

/-- Inserts the characters whose distances are given into text. The last inserted one had code point
`code` and stood before `place`. Every distance has a digit, so `fuel` may be their number. -/
def insertAll : (fuel bias damp place code : Nat) → (text distances : List Char) →
    Option (List Char)
  | 0, _, _, _, _, _, _ => none
  | fuel + 1, bias, damp, place, code, text, distances => do
    let (delta, rest) ← distance? bias 0 1 0 distances
    let length := text.length + 1
    let code := code + (place + delta) / length
    let place := (place + delta) % length
    if !code.isValidChar then none
    let text := text.insertIdx place (Char.ofNat code)
    if rest.isEmpty then return text
    else insertAll fuel (adapted delta length damp) 2 (place + 1) code text rest

/-- The text of ASCII characters and distances. There must be distances. -/
def decode? (ascii distances : List Char) : Option (List Char) :=
  insertAll distances.length 72 700 0 128 ascii distances

end ScriptSandbox.Symbol.Punycode
