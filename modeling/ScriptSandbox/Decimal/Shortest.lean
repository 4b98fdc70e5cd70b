/-!
# Shortest decimals of doubles

A positive finite double is `m · 2 ^ q`. The reals that round to it form an interval around it,
whose ends belong to it exactly when `m` is even. Its shortest decimal is the point of that interval
with the fewest significant digits and, among those, the nearest to the double.

## Main definitions

* `Decimal.Binary`: a double as `m · 2 ^ q`
* `Decimal.Digits`: a decimal as digits and the exponent of the first one
* `Decimal.shortest`: the shortest decimal of a double
-/

namespace ScriptSandbox.Decimal

/-- The positive number `significand · 2 ^ exponent`. -/
structure Binary where
  significand : Nat
  exponent : Int
  deriving Repr, DecidableEq

/-- The significands of doubles above the least binade start here: they have 52 bits below a one. -/
def leadingBit : Nat := 0x10000000000000

/-- The sign of a double stands above 63 other bits. -/
def signBit : Nat := 0x8000000000000000

/-- The magnitude of a finite double, from its bits: 52 bits of fraction below 11 of exponent. -/
def Binary.ofBits (bits : UInt64) : Binary :=
  let fraction := bits.toNat % leadingBit
  let biased := bits.toNat / leadingBit % 0x800
  -- a subnormal number lacks the leading bit, and has the least exponent
  if biased = 0 then ⟨fraction, -1074⟩ else ⟨leadingBit + fraction, Int.ofNat biased - 1075⟩

/-- A decimal `d.ddd · 10 ^ exponent`, with its digits as one number of `count` digits. -/
structure Digits where
  digits : Nat
  count : Nat
  exponent : Int
  deriving Repr, DecidableEq

/-- Numerator and denominator of `n · b ^ e`. -/
def power (n b : Nat) (e : Int) : Nat × Nat :=
  if e < 0 then (n, Nat.pow b e.natAbs) else (n * Nat.pow b e.natAbs, 1)

/-- The interval of reals that round to a double, as numerators over one denominator: the double
itself and the half-way points to its neighbours. The lower neighbour is nearer when the significand
is the least of its binade. -/
structure Interval where
  low : Nat
  value : Nat
  high : Nat
  denominator : Nat
  /-- Whether the ends belong to the interval. -/
  closed : Bool

/-- The rounding interval of `m · 2 ^ q`, in quarters of its unit in the last place. -/
def Interval.of (b : Binary) : Interval :=
  let m := b.significand
  let narrow := m = leadingBit ∧ -1074 < b.exponent
  let (scale, denominator) := power 1 2 (b.exponent - 2)
  { low := (4 * m - if narrow then 1 else 2) * scale
    value := 4 * m * scale
    high := (4 * m + 2) * scale
    denominator
    closed := m % 2 = 0 }

/-- Whether `n / d` lies in the interval. -/
def Interval.contains (i : Interval) (n d : Nat) : Bool :=
  let lowSide := i.low * d
  let highSide := i.high * d
  let x := n * i.denominator
  if i.closed then lowSide ≤ x ∧ x ≤ highSide else lowSide < x ∧ x < highSide

/-- The exponent of the first decimal digit of `n / d`, found by counting digits of the quotient and
then correcting by at most one. -/
def leadingExponent (n d : Nat) : Int :=
  let guess : Int := (Nat.toDigits 10 n).length - (Nat.toDigits 10 d).length
  let (p, r) := power 1 10 guess
  -- a power of ten beyond the quotient was one too many
  if n * r < p * d then guess - 1 else guess

/-- The point with `count` significant digits that lies in the interval, if any: of the two
neighbours of the value on that grid the one inside, the nearer if both are, the even one on a
tie. -/
def candidate (i : Interval) (leading : Int) (count : Nat) : Option Nat :=
  let (p, r) := power 1 10 (leading - (count - 1 : Nat))
  -- both sides are multiplied so that only whole numbers are compared
  let unit := p * i.denominator
  let scaled := i.value * r
  let down := scaled / unit
  let up := down + 1
  let inside (k : Nat) : Bool := i.contains (k * p) r
  match inside down, inside up with
  | true, true =>
    let rest := scaled % unit
    if 2 * rest < unit then some down
    else if unit < 2 * rest then some up
    else if down % 2 = 0 then some down else some up
  | true, false => some down
  | false, true => some up
  | false, false => none

/-- Removes trailing zeros. -/
def stripZeros : (fuel : Nat) → Nat → Nat
  | 0, n => n
  | fuel + 1, n => if n % 10 = 0 ∧ n ≠ 0 then stripZeros fuel (n / 10) else n

/-- The first count of digits, from `count` on, on whose grid a point of the interval lies.
Seventeen digits always suffice. -/
def search (i : Interval) (leading : Int) : (fuel : Nat) → (count : Nat) → Nat × Nat
  | 0, count => (0, count)
  | fuel + 1, count =>
    match candidate i leading count with
    | some n => (n, count)
    | none => search i leading fuel (count + 1)

/-- The shortest decimal that rounds to a positive double. -/
def shortest (b : Binary) : Digits :=
  let i := Interval.of b
  let leading := leadingExponent i.value i.denominator
  let (n, count) := search i leading 17 1
  -- rounding up may have carried into one more digit
  let carried := (Nat.toDigits 10 n).length - count
  let digits := stripZeros 17 n
  { digits, count := (Nat.toDigits 10 digits).length, exponent := leading + carried }

end ScriptSandbox.Decimal
