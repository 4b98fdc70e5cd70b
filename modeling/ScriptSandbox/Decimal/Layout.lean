import ScriptSandbox.Decimal.Shortest

/-!
# Layouts of decimals

## Main definitions

* `Decimal.Layout`: how a decimal is laid out
* `Decimal.doubleChars`: a double in a layout
-/

namespace ScriptSandbox.Decimal

/-- How a decimal is laid out. -/
structure Layout where
  /-- The least exponent written positionally. -/
  leastPositional : Int
  /-- The greatest exponent written positionally. -/
  greatestPositional : Int
  /-- Whether a positive exponent has its sign written. -/
  plusSign : Bool
  deriving Repr, DecidableEq

/-- The text of a positive decimal. A positional one has at least one digit after the point. -/
def decimalChars (layout : Layout) (d : Digits) : List Char :=
  let digits := Nat.toDigits 10 d.digits
  if layout.leastPositional ≤ d.exponent ∧ d.exponent ≤ layout.greatestPositional then
    if d.exponent < 0 then
      -- the first digit stands behind the point, after as many zeros as it takes
      '0' :: '.' :: List.replicate (d.exponent.natAbs - 1) '0' ++ digits
    else
      let whole := d.exponent.natAbs + 1
      -- zeros fill the places before the point that have no digit
      let padded := digits ++ List.replicate (whole - digits.length) '0'
      let fraction := padded.drop whole
      padded.take whole ++ '.' :: if fraction.isEmpty then ['0'] else fraction
  else
    let mantissa := match digits with
      | [] => []
      | [c] => [c]
      | c :: cs => c :: '.' :: cs
    let sign := if d.exponent < 0 then ['-'] else if layout.plusSign then ['+'] else []
    mantissa ++ 'e' :: sign ++ Nat.toDigits 10 d.exponent.natAbs

/-- The text of a finite double. -/
def doubleChars (layout : Layout) (x : Float) : List Char :=
  let bits := x.toBits
  let sign := if signBit ≤ bits.toNat then ['-'] else []
  let b := Binary.ofBits bits
  if b.significand = 0 then sign ++ ['0', '.', '0']
  else sign ++ decimalChars layout (shortest b)

end ScriptSandbox.Decimal
