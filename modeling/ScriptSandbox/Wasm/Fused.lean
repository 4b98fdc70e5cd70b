import ScriptSandbox.Wasm.Numeric

/-!
# Multiplication and addition in one

The sum of a product and a third number, rounded once. Finite floats are decoded into integers times
powers of two, so that the sum is exact before it is rounded to the nearest float, the even one of
two.

## Main definitions

* `Wasm.Width.round`: the nearest float of an integer times a power of two
* `Wasm.Width.multiplyAdd`: a product added to a third number
-/

namespace ScriptSandbox.Wasm

namespace Width

/-- The number of bits of a significand. -/
def precision : Width → Nat
  | .w32 => 24
  | .w64 => 53

/-- The exponent of the last place of the least floats. -/
def leastExponent : Width → Int
  | .w32 => -149
  | .w64 => -1074

/-- The bits of infinity, which are above those of all finite floats. -/
def infinity : Width → Nat
  | .w32 => 0x7F800000
  | .w64 => 0x7FF0000000000000

/-- The bit of the sign. -/
def signBit (w : Width) : Nat := Nat.pow 2 (w.bits - 1)

/-- The bits of a float without its sign. -/
def magnitude (w : Width) (bits : Nat) : Nat := bits % w.signBit

/-- Whether bits are negative. -/
def isNegative (w : Width) (bits : Nat) : Bool := w.signBit ≤ bits

/-- The significand, with its sign, and the exponent of a finite float. -/
def decode (w : Width) (bits : Nat) : Int × Int :=
  let unit := Nat.pow 2 (w.precision - 1)
  let fraction := w.magnitude bits % unit
  let biased := w.magnitude bits / unit
  let (m, e) := if biased = 0 then (fraction, w.leastExponent)
    else (unit + fraction, w.leastExponent + (biased - 1))
  (if w.isNegative bits then -Int.ofNat m else Int.ofNat m, e)

/-- The bits of the float that is nearest to `n · 2 ^ e`. -/
def round (w : Width) (n : Nat) (e : Int) : Nat :=
  if n = 0 then 0 else
  let shift := max (Int.ofNat (n.log2 + 1) - w.precision) (w.leastExponent - e)
  let m :=
    if shift ≤ 0 then n <<< shift.natAbs
    else
      let unit := Nat.pow 2 shift.natAbs
      let (down, rest) := (n / unit, n % unit)
      if 2 * rest < unit ∨ 2 * rest = unit ∧ down % 2 = 0 then down else down + 1
  let place := (e + shift - w.leastExponent).toNat
  min w.infinity (place <<< (w.precision - 1) + m)

/-- A finite product added to a finite number. -/
def multiplyAddFinite (w : Width) (a b c : Nat) : Nat :=
  let (ma, ea) := w.decode a
  let (mb, eb) := w.decode b
  let (mc, ec) := w.decode c
  let e := min (ea + eb) ec
  let sum := ma * mb * Int.ofNat (1 <<< (ea + eb - e).toNat) + mc * Int.ofNat (1 <<< (ec - e).toNat)
  let negative :=
    if sum = 0 then (w.isNegative a != w.isNegative b) && w.isNegative c else decide (sum < 0)
  w.round sum.natAbs e + if negative then w.signBit else 0

/-- Whether bits are not a number. -/
def isNaN (w : Width) (bits : Nat) : Bool := w.infinity < w.magnitude bits

/-- The bit that is set in what is quietly not a number. -/
def quietBit (w : Width) : Nat := Nat.pow 2 (w.precision - 2)

/-- A product of numbers, perhaps with the other sign, added to a third one. Where one of the three
is not finite, rounding does not matter. -/
def multiplyAddNumbers (w : Width) (negative : Bool) (a b c : Nat) : Nat :=
  let a := if negative then Nat.xor a w.signBit else a
  if [a, b, c].all fun x => w.magnitude x < w.infinity then w.multiplyAddFinite a b c
  else
    match w with
    | .w32 =>
      let product := FloatBinary.mul.evalBits32 a.toUInt32 b.toUInt32
      (FloatBinary.add.evalBits32 product c.toUInt32).toNat
    | .w64 =>
      let product := FloatBinary.mul.evalBits64 a.toUInt64 b.toUInt64
      (FloatBinary.add.evalBits64 product c.toUInt64).toNat

/-- A product, perhaps with the other sign, added to a third number. Of operands that are not numbers
the second comes first, and then the first; the sign of the product does not concern them. -/
def multiplyAdd (w : Width) (negative : Bool) (a b c : Nat) : Nat :=
  match [b, a, c].find? w.isNaN with
  | some x => Nat.lor x w.quietBit
  | none => w.multiplyAddNumbers negative a b c

end Width

end ScriptSandbox.Wasm
