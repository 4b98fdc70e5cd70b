import ScriptSandbox.Toml.Text

/-!
# TOML numbers and times

Underscores stand between digits only. Integers fit 64 bits; those in another base have no sign.
Floats are rounded to the nearest double, and one that rounds to positive infinity is refused. Of
dates and times only the form and the range of the parts matter.

## Main definitions

* `Toml.readMoment`: a date, a time or both
* `Toml.readFloat`, `Toml.readInteger`: numbers
-/

namespace ScriptSandbox.Toml

open Reader

/-- A decimal digit. -/
def isDigit (c : Char) : Bool := '0' ≤ c && c ≤ '9'

/-! ### Dates and times -/

/-- A number of two digits from `low` to `high`. -/
def readPair (low high : Nat) : Reader Nat :=
  checked (takeExactly 2 isDigit) fun ds =>
    let n := ofDigits 10 ds
    if low ≤ n ∧ n ≤ high then .ok n else .error .outOfRange

/-- The number of days in a month. -/
def daysIn (year month : Nat) : Nat :=
  if month = 2 then
    if year % 4 = 0 ∧ (year % 100 ≠ 0 ∨ year % 400 = 0) then 29 else 28
  else if month ∈ [4, 6, 9, 11] then 30 else 31

/-- A date. -/
def readDate : Reader Unit := do
  let year := ofDigits 10 (← takeExactly 4 isDigit)
  expect '-'
  commit do
    let month ← readPair 1 12
    expect '-'
    checked (readPair 1 31) fun day =>
      if day ≤ daysIn year month then .ok () else .error .outOfRange

/-- A time of day. -/
def readTime : Reader Unit := do
  let _ ← readPair 0 23
  expect ':'
  commit do
    let _ ← readPair 0 59
    expect ':'
    let _ ← readPair 0 60
    let _ ← attempt (expect '.' *> takeSome isDigit)

/-- An offset from universal time. -/
def readOffset : Reader Unit := part .offset <|
  orElse (one (· ∈ ['Z', 'z']) *> return ()) do
    let _ ← one (· ∈ ['+', '-'])
    commit do
      let _ ← readPair 0 23
      expect ':'
      let _ ← readPair 0 59

/-- A time that may follow a date, with its offset. -/
def readTimeOfDate : Reader Unit := do
  let _ ← one (· ∈ ['T', 't', ' '])
  readTime
  let _ ← attempt readOffset

/-- A date, a time or both. -/
def readMoment : Reader Unit :=
  orElse (part .dateTime (readDate *> (attempt readTimeOfDate) *> return ())) (part .time readTime)

/-! ### Digits -/

/-- Digits of a kind behind those found, which are reversed. Underscores between digits are left
out. -/
def readDigitsTail (p : Char → Bool) : (fuel : Nat) → (found : List Char) → Reader (List Char)
  | 0, found => return found.reverse
  | fuel + 1, found => do
    match ← attempt (orElse (one p) (expect '_' *> expecting [.digit] (commit (one p)))) with
    | some c => readDigitsTail p fuel (c :: found)
    | none => return found.reverse

/-- Digits of a kind, at least one, of which the first is of the kind `first`. -/
def readDigits (first p : Char → Bool) : Reader (List Char) := do
  let c ← one first
  readDigitsTail p (← remaining) [c]

/-- A sign; `true` for a minus. -/
def readSign : Reader Bool := return (← attempt (one (· ∈ ['+', '-']))) = some '-'

/-- A sign and the whole part of a decimal number: a lone zero, or digits that start with another
one. -/
def readWhole : Reader (Bool × List Char) := part .integer do
  let negative ← readSign
  let ds ← orElse (readDigits (fun c => isDigit c && c ≠ '0') isDigit) (return [← one isDigit])
  return (negative, ds)

/-! ### Floats -/

/-- A written exponent. -/
def readExponent : Reader Int := do
  let _ ← one (· ∈ ['e', 'E'])
  let negative ← readSign
  let ds ← commit (readDigits isDigit isDigit)
  return if negative then -Int.ofNat (ofDigits 10 ds) else Int.ofNat (ofDigits 10 ds)

/-- The digits behind a decimal point. -/
def readFraction : Reader (List Char) := do
  expect '.'
  expecting [.digit] (commit (readDigits isDigit isDigit))

/-- A float as written: `digits · 10 ^ exponent`. -/
structure Written where
  negative : Bool
  digits : Nat
  exponent : Int
  deriving Repr, DecidableEq

/-- The double nearest to a float as written. Exponents far out of range need no power of ten. -/
def Written.toFloat (w : Written) : Float :=
  let size := (Nat.toDigits 10 w.digits).length
  let magnitude : Float :=
    if w.digits = 0 ∨ w.exponent + size < -400 then 0
    else if 400 < w.exponent + size then 1 / 0
    else OfScientific.ofScientific w.digits (w.exponent < 0) w.exponent.natAbs
  if w.negative then -magnitude else magnitude

/-- A float that has an exponent, a fraction or both. -/
def readWritten : Reader Written := do
  let (negative, whole) ← readWhole
  orElse (return ⟨negative, ofDigits 10 whole, ← readExponent⟩) do
    let fraction ← readFraction
    let e := (← attempt readExponent).getD 0
    return ⟨negative, ofDigits 10 (whole ++ fraction), e - fraction.length⟩

/-- Infinity. -/
def readInfinity : Reader Float := word "inf" *> return 1 / 0

/-- What is not a number. -/
def readNotANumber : Reader Float := word "nan" *> return 0 / 0

/-- Infinity or not a number, with a sign. -/
def readSpecial : Reader Float := do
  let negative ← readSign
  let x ← orElse readInfinity readNotANumber
  return if negative then -x else x

/-- A float. -/
def readFloat : Reader Float :=
  let finite : Reader Float := do
    let start ← get
    let x := (← readWritten).toFloat
    if x.isInf ∧ 0 < x then commit (refuseAt start) else return x
  part .float (orElse finite readSpecial)

/-! ### Integers -/

/-- An integer of 64 bits. -/
def bounded (n : Int) : Except Cause Int :=
  if 0x7FFFFFFFFFFFFFFF < n then .error .tooLarge
  else if n < -0x8000000000000000 then .error .tooSmall
  else .ok n

/-- Digits of a base behind its mark. -/
def readBased (p : Part) (mark : String) (base : Nat) : Reader Nat :=
  let isOne (c : Char) : Bool := (hexDigit? c).any (· < base)
  part p do
    word mark
    return ofDigits base (← commit (readDigits isOne isOne))

/-- An integer. -/
def readInteger : Reader Int := do
  let start ← get
  let fits (n : Int) : Reader Int :=
    match bounded n with
    | .ok n => return n
    | .error cause => commit (refuseAt start cause)
  match start.rest with
  | '0' :: 'x' :: _ => fits (Int.ofNat (← readBased .hexadecimal "0x" 16))
  | '0' :: 'o' :: _ => fits (Int.ofNat (← readBased .octal "0o" 8))
  | '0' :: 'b' :: _ => fits (Int.ofNat (← readBased .binary "0b" 2))
  | _ =>
    let (negative, ds) ← readWhole
    fits (if negative then -Int.ofNat (ofDigits 10 ds) else Int.ofNat (ofDigits 10 ds))

end ScriptSandbox.Toml
