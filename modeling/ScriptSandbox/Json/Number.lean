import ScriptSandbox.Json.Basic

/-!
# Reading JSON numbers

A number token is its sign, the digits of its whole part, the digits of its fraction and its
written exponent. A token without fraction and exponent denotes an integer when that integer lies
between `-2^63` and `2^64 - 1` and is not a negative zero; every other token denotes a double.

A double is computed from at most 64 bits of significand: the leading digits as long as they fit,
scaled by one multiplication or division with a power of ten. The result may differ from the
nearest double by a unit in the last place.

## Main definitions

* `Json.Token`: the parts of a number as written
* `Json.Token.number`: the number a token denotes, if it is in the range of doubles
-/

namespace ScriptSandbox.Json

/-- The written exponent of a number. -/
structure Exponent where
  negative : Bool
  digits : List Nat
  deriving Repr, DecidableEq

/-- A number as written. Digits are values from 0 to 9. -/
structure Token where
  negative : Bool
  whole : List Nat
  fraction : List Nat
  exponent : Option Exponent
  deriving Repr, DecidableEq

/-- Leading digits gathered into a significand, and the digits that no longer fit. -/
def gather (significand : Nat) : List Nat → Nat × List Nat
  | [] => (significand, [])
  | d :: ds =>
    if significand * 10 + d < UInt64.size then gather (significand * 10 + d) ds
    else (significand, d :: ds)

/-- A number limited to the 32-bit range. -/
def saturate (n : Int) : Int := max (-0x80000000) (min n 0x7FFFFFFF)

/-- The double nearest to `10 ^ k`. -/
def powerOfTen (k : Nat) : Float := OfScientific.ofScientific 1 false k

/-- `x / 10 ^ k`, in steps of `10 ^ 308`. A significand of 64 bits is zero after two full steps, so
`steps` need not exceed three. -/
def scaleDown : (steps : Nat) → (x : Float) → (k : Nat) → Float
  | 0, x, _ => x
  | steps + 1, x, k =>
    if k ≤ 308 then x / powerOfTen k
    else if x == 0 then x
    else scaleDown steps (x / powerOfTen 308) (k - 308)

/-- `significand · 10 ^ exponent` as a double; `none` when it is infinite. -/
def scale (significand : Nat) (exponent : Int) : Option Float :=
  let x := significand.toUInt64.toFloat
  if exponent < 0 then some (scaleDown 3 x exponent.natAbs)
  else if exponent ≤ 308 then
    let y := x * powerOfTen exponent.natAbs
    if y.isInf then none else some y
  else if x == 0 then some x else none

/-- The value of exponent digits after those that are worth `n`. Where it comes to exceed 32 bits,
the number of digits that are then left. -/
def exponentFrom (n : Nat) : List Nat → Except Nat Nat
  | [] => .ok n
  | d :: ds => if n * 10 + d < 0x80000000 then exponentFrom (n * 10 + d) ds else .error ds.length

/-- The value of written exponent digits. -/
def exponentValue (digits : List Nat) : Except Nat Nat := exponentFrom 0 digits

/-- A double with the sign of the token. -/
def signed (negative : Bool) (x : Float) : Float := if negative then -x else x

/-- A number that is out of the range of doubles, with the number of exponent digits that need not
be read to see that. -/
structure OutOfRange where
  unreadDigits : Option Nat
  deriving Repr, DecidableEq

/-- A double, or a number out of range that was read to its end. -/
def inRange : Option Float → Except OutOfRange Float
  | some x => .ok x
  | none => .error ⟨none⟩

/-- The double a token denotes. -/
def Token.double (t : Token) : Except OutOfRange Float :=
  let (significand, late) := gather 0 t.whole
  let (significand', lost) := gather significand t.fraction
  let shift : Int := late.length - (t.fraction.length - lost.length : Nat)
  match t.exponent with
  | none => inRange ((scale significand' shift).map (signed t.negative))
  | some e =>
    match exponentValue e.digits with
    | .error left =>
      if significand' = 0 ∨ e.negative then .ok (signed t.negative 0) else .error ⟨some left⟩
    | .ok k =>
      let exponent := saturate (if e.negative then shift - k else shift + k)
      inRange ((scale significand' exponent).map (signed t.negative))

/-- The integer a token denotes, if it has neither fraction nor exponent and lies in range. -/
def Token.integer? (t : Token) : Option Int :=
  match t.fraction, t.exponent, gather 0 t.whole with
  | [], none, (n, []) =>
    if !t.negative then some n
    else if 0 < n ∧ n ≤ 0x8000000000000000 then some (-(n : Int))
    else none
  | _, _, _ => none

/-- The number a token denotes. -/
def Token.number (t : Token) : Except OutOfRange Number :=
  match t.integer? with
  | some n => .ok (.integer n)
  | none => return .double (← t.double)

end ScriptSandbox.Json
