import ScriptSandbox.Decimal.Shortest
import ScriptSandbox.Wasm.Instruction
import ScriptSandbox.Wasm.Value

/-!
# Operations on numbers

Integers wrap around. Division by zero, quotients out of range and truncations out of range trap.
Operations on 32-bit floats are those on 64-bit floats, rounded once more: with 53 bits of
significand against 24 the second rounding never changes the result. What is not a number stays the
same but becomes quiet when it goes through an operation; the one that an operation on numbers gives
is quiet, negative and otherwise empty.

## Main definitions

* `Wasm.Numeric.eval`: applies an operation to the operands on top of a stack
-/

namespace ScriptSandbox.Wasm

/-! ### Integers -/

/-- The number of zero bits above the highest set bit. -/
def leadingZeros (width n : Nat) : Nat := if n = 0 then width else width - 1 - n.log2

/-- The number of zero bits below the lowest set bit. -/
def trailingZeros (width n : Nat) : Nat :=
  ((List.range width).find? n.testBit).getD width

/-- The number of set bits. -/
def bitCount (width n : Nat) : Nat := (List.range width).countP n.testBit

/-- An operation with one operand, on 32 bits. -/
def IntUnary.eval32 (op : IntUnary) (a : UInt32) : UInt32 :=
  match op with
  | .clz => (leadingZeros 32 a.toNat).toUInt32
  | .ctz => (trailingZeros 32 a.toNat).toUInt32
  | .popcnt => (bitCount 32 a.toNat).toUInt32
  | .extend8 => a.toUInt8.toInt8.toInt32.toUInt32
  | .extend16 => a.toUInt16.toInt16.toInt32.toUInt32
  | .extend32 => a

/-- An operation with one operand, on 64 bits. -/
def IntUnary.eval64 (op : IntUnary) (a : UInt64) : UInt64 :=
  match op with
  | .clz => (leadingZeros 64 a.toNat).toUInt64
  | .ctz => (trailingZeros 64 a.toNat).toUInt64
  | .popcnt => (bitCount 64 a.toNat).toUInt64
  | .extend8 => a.toUInt8.toInt8.toInt64.toUInt64
  | .extend16 => a.toUInt16.toInt16.toInt64.toUInt64
  | .extend32 => a.toUInt32.toInt32.toInt64.toUInt64

/-- An operation with two operands, on 32 bits. -/
@[inline] def IntBinary.eval32 (op : IntBinary) (a b : UInt32) : Except Trap UInt32 :=
  match op with
  | .add => .ok (a + b)
  | .sub => .ok (a - b)
  | .mul => .ok (a * b)
  | .div .signed =>
    if b = 0 then .error .divideByZero
    else if a = 0x80000000 ∧ b = 0xFFFFFFFF then .error .integerOverflow
    else .ok (a.toInt32 / b.toInt32).toUInt32
  | .div .unsigned => if b = 0 then .error .divideByZero else .ok (a / b)
  | .rem .signed =>
    if b = 0 then .error .divideByZero
    else if b = 0xFFFFFFFF then .ok 0
    else .ok (a.toInt32 % b.toInt32).toUInt32
  | .rem .unsigned => if b = 0 then .error .divideByZero else .ok (a % b)
  | .and => .ok (a &&& b)
  | .or => .ok (a ||| b)
  | .xor => .ok (a ^^^ b)
  | .shl => .ok (a <<< b)
  | .shr .signed => .ok (a.toInt32 >>> (b % 32).toInt32).toUInt32
  | .shr .unsigned => .ok (a >>> b)
  | .rotl => .ok (a <<< b ||| a >>> (32 - b % 32))
  | .rotr => .ok (a >>> b ||| a <<< (32 - b % 32))

/-- An operation with two operands, on 64 bits. -/
@[inline] def IntBinary.eval64 (op : IntBinary) (a b : UInt64) : Except Trap UInt64 :=
  match op with
  | .add => .ok (a + b)
  | .sub => .ok (a - b)
  | .mul => .ok (a * b)
  | .div .signed =>
    if b = 0 then .error .divideByZero
    else if a = 0x8000000000000000 ∧ b = 0xFFFFFFFFFFFFFFFF then .error .integerOverflow
    else .ok (a.toInt64 / b.toInt64).toUInt64
  | .div .unsigned => if b = 0 then .error .divideByZero else .ok (a / b)
  | .rem .signed =>
    if b = 0 then .error .divideByZero
    else if b = 0xFFFFFFFFFFFFFFFF then .ok 0
    else .ok (a.toInt64 % b.toInt64).toUInt64
  | .rem .unsigned => if b = 0 then .error .divideByZero else .ok (a % b)
  | .and => .ok (a &&& b)
  | .or => .ok (a ||| b)
  | .xor => .ok (a ^^^ b)
  | .shl => .ok (a <<< b)
  | .shr .signed => .ok (a.toInt64 >>> (b % 64).toInt64).toUInt64
  | .shr .unsigned => .ok (a >>> b)
  | .rotl => .ok (a <<< b ||| a >>> (64 - b % 64))
  | .rotr => .ok (a >>> b ||| a <<< (64 - b % 64))

/-- A comparison on 32 bits. -/
def IntCompare.eval32 (op : IntCompare) (a b : UInt32) : Bool :=
  match op with
  | .eq => a = b
  | .ne => a ≠ b
  | .lt .signed => a.toInt32 < b.toInt32
  | .lt .unsigned => a < b
  | .gt .signed => b.toInt32 < a.toInt32
  | .gt .unsigned => b < a
  | .le .signed => a.toInt32 ≤ b.toInt32
  | .le .unsigned => a ≤ b
  | .ge .signed => b.toInt32 ≤ a.toInt32
  | .ge .unsigned => b ≤ a

/-- A comparison on 64 bits. -/
def IntCompare.eval64 (op : IntCompare) (a b : UInt64) : Bool :=
  match op with
  | .eq => a = b
  | .ne => a ≠ b
  | .lt .signed => a.toInt64 < b.toInt64
  | .lt .unsigned => a < b
  | .gt .signed => b.toInt64 < a.toInt64
  | .gt .unsigned => b < a
  | .le .signed => a.toInt64 ≤ b.toInt64
  | .le .unsigned => a ≤ b
  | .ge .signed => b.toInt64 ≤ a.toInt64
  | .ge .unsigned => b ≤ a

/-! ### Floats -/

/-- A float given by 64 bits. -/
def float64 (bits : UInt64) : Float := Float.ofBits bits

/-- A float given by 32 bits. -/
def float32 (bits : UInt32) : Float := (Float32.ofBits bits).toFloat

/-- The 32 bits of a float rounded to single precision. -/
def bits32 (x : Float) : UInt32 := x.toFloat32.toBits

/-- `x` with the sign of `y`. -/
def withSignOf (x y : Float) : Float :=
  Float.ofBits (x.abs.toBits ||| (y.toBits &&& 0x8000000000000000))

/-- The nearest integer, the even one of two. -/
def nearestInteger (x : Float) : Float :=
  if x.isNaN || x.isInf then x
  else
    let down := x.floor
    let rest := x - down
    let half := down / 2
    let r :=
      if rest < 0.5 then down
      else if 0.5 < rest then down + 1
      else if half.floor == half then down else down + 1
    withSignOf r x

/-- An operation with one operand. -/
def FloatUnary.eval (op : FloatUnary) (x : Float) : Float :=
  match op with
  | .abs => x.abs
  | .neg => -x
  | .ceil => withSignOf x.ceil x
  | .floor => withSignOf x.floor x
  | .trunc => withSignOf (if x < 0 then x.ceil else x.floor) x
  | .nearest => nearestInteger x
  | .sqrt => x.sqrt

/-- The smaller of two numbers, and the negative one of two zeros. -/
def minimum (x y : Float) : Float :=
  if x < y then x
  else if y < x then y
  else Float.ofBits (x.toBits ||| y.toBits)

/-- The greater of two numbers, and the positive one of two zeros. -/
def maximum (x y : Float) : Float :=
  if x < y then y
  else if y < x then x
  else Float.ofBits (x.toBits &&& y.toBits)

/-- An operation with two operands. -/
def FloatBinary.eval (op : FloatBinary) (x y : Float) : Float :=
  match op with
  | .add => x + y
  | .sub => x - y
  | .mul => x * y
  | .div => x / y
  | .min => minimum x y
  | .max => maximum x y
  | .copysign => withSignOf x y

/-- A comparison. -/
def FloatCompare.eval (op : FloatCompare) (x y : Float) : Bool :=
  match op with
  | .eq => x == y
  | .ne => x != y
  | .lt => x < y
  | .gt => y < x
  | .le => x ≤ y
  | .ge => y ≤ x

/-- Whether 64 bits are not a number. -/
def isNaN64 (bits : UInt64) : Bool := 0x7FF0000000000000 < bits &&& 0x7FFFFFFFFFFFFFFF

/-- Whether 32 bits are not a number. -/
def isNaN32 (bits : UInt32) : Bool := 0x7F800000 < bits &&& 0x7FFFFFFF

/-- What is not a number, made quiet. -/
def quiet64 (bits : UInt64) : UInt64 := bits ||| 0x0008000000000000

/-- What is not a number, made quiet. -/
def quiet32 (bits : UInt32) : UInt32 := bits ||| 0x00400000

/-- The bits of a 64-bit result of an operation on numbers. -/
def resultBits64 (x : Float) : UInt64 := if x.isNaN then 0xFFF8000000000000 else x.toBits

/-- The bits of a 32-bit result of an operation on numbers. -/
def resultBits32 (x : Float) : UInt32 := if x.isNaN then 0xFFC00000 else bits32 x

/-- An operation on the bits of a 64-bit float. The sign operations keep what is not a number. -/
def FloatUnary.evalBits64 (op : FloatUnary) (bits : UInt64) : UInt64 :=
  match op with
  | .abs => bits &&& 0x7FFFFFFFFFFFFFFF
  | .neg => bits ^^^ 0x8000000000000000
  | op => if isNaN64 bits then quiet64 bits else resultBits64 (op.eval (float64 bits))

/-- An operation on the bits of a 32-bit float. The sign operations keep what is not a number. -/
def FloatUnary.evalBits32 (op : FloatUnary) (bits : UInt32) : UInt32 :=
  match op with
  | .abs => bits &&& 0x7FFFFFFF
  | .neg => bits ^^^ 0x80000000
  | op => if isNaN32 bits then quiet32 bits else resultBits32 (op.eval (float32 bits))

/-- Whether the second operand counts first where both are not numbers. -/
def FloatBinary.secondFirst : FloatBinary → Bool
  | .min | .max => true
  | _ => false

/-- An operation on the bits of 64-bit floats. -/
def FloatBinary.evalBits64 (op : FloatBinary) (a b : UInt64) : UInt64 :=
  match op with
  | .copysign => a &&& 0x7FFFFFFFFFFFFFFF ||| b &&& 0x8000000000000000
  | op =>
    let (first, second) := if op.secondFirst then (b, a) else (a, b)
    if isNaN64 first then quiet64 first
    else if isNaN64 second then quiet64 second
    else resultBits64 (op.eval (float64 a) (float64 b))

/-- An operation on the bits of 32-bit floats. -/
def FloatBinary.evalBits32 (op : FloatBinary) (a b : UInt32) : UInt32 :=
  match op with
  | .copysign => a &&& 0x7FFFFFFF ||| b &&& 0x80000000
  | op =>
    let (first, second) := if op.secondFirst then (b, a) else (a, b)
    if isNaN32 first then quiet32 first
    else if isNaN32 second then quiet32 second
    else resultBits32 (op.eval (float32 a) (float32 b))

/-- A 64-bit float rounded to 32 bits. What is not a number keeps its sign and its first bits. -/
def demoteBits (a : UInt64) : UInt32 :=
  if isNaN64 a then
    let sign : UInt64 := a >>> 32
    let first : UInt64 := a >>> 29
    quiet32 ((sign &&& 0x80000000) ||| 0x7F800000 ||| (first &&& 0x007FFFFF)).toUInt32
  else bits32 (float64 a)

/-- A 32-bit float as one of 64 bits. -/
def promoteBits (a : UInt32) : UInt64 :=
  if isNaN32 a then
    let sign : UInt64 := a.toUInt64 <<< 32
    let rest : UInt64 := a.toUInt64 <<< 29
    quiet64 ((sign &&& 0x8000000000000000) ||| 0x7FF0000000000000 ||| (rest &&& 0x000FFFFFFFFFFFFF))
  else (float32 a).toBits

/-! ### Conversions -/

/-- The integer part of a finite float. -/
def integerPart (x : Float) : Int :=
  let b := Decimal.Binary.ofBits x.toBits
  let n := b.significand <<< b.exponent.toNat >>> (-b.exponent).toNat
  if Decimal.signBit ≤ x.toBits.toNat then -n else n

/-- The least and the greatest integer of a width. -/
def Width.range (w : Width) : Sign → Int × Int
  | .signed => (-Nat.pow 2 (w.bits - 1), Nat.pow 2 (w.bits - 1) - 1)
  | .unsigned => (0, Nat.pow 2 w.bits - 1)

/-- The integer part of a float in the range of a width. Out of range it is the nearest end when
saturating, else a trap; what is not a number counts as zero or traps. -/
def truncate (x : Float) (target : Width) (s : Sign) (saturating : Bool) : Except Trap Int :=
  let (low, high) := target.range s
  if x.isNaN then if saturating then .ok 0 else .error .badConversion
  else if x.isInf then
    if saturating then .ok (if x < 0 then low else high) else .error .integerOverflow
  else
    let n := integerPart x
    if low ≤ n ∧ n ≤ high then .ok n
    else if saturating then .ok (max low (min n high))
    else .error .integerOverflow

/-- An integer as a value of a width. -/
def Width.value (w : Width) (n : Int) : Value :=
  match w with
  | .w32 => .i32 (Int32.ofInt n).toUInt32
  | .w64 => .i64 (Int64.ofInt n).toUInt64

/-- A conversion of a value. -/
def Conversion.eval (c : Conversion) (v : Value) : Except Trap (Option Value) :=
  match c, v with
  | .wrap, .i64 a => .ok (some (.i32 a.toUInt32))
  | .extend .signed, .i32 a => .ok (some (.i64 a.toInt32.toInt64.toUInt64))
  | .extend .unsigned, .i32 a => .ok (some (.i64 a.toUInt64))
  | .trunc target .w32 s saturating, .f32 a => do
    return some (target.value (← truncate (float32 a) target s saturating))
  | .trunc target .w64 s saturating, .f64 a => do
    return some (target.value (← truncate (float64 a) target s saturating))
  | .convert .w32 .w32 .signed, .i32 a => .ok (some (.f32 a.toInt32.toFloat32.toBits))
  | .convert .w32 .w32 .unsigned, .i32 a => .ok (some (.f32 a.toFloat32.toBits))
  | .convert .w32 .w64 .signed, .i64 a => .ok (some (.f32 a.toInt64.toFloat32.toBits))
  | .convert .w32 .w64 .unsigned, .i64 a => .ok (some (.f32 a.toFloat32.toBits))
  | .convert .w64 .w32 .signed, .i32 a => .ok (some (.f64 a.toInt32.toFloat.toBits))
  | .convert .w64 .w32 .unsigned, .i32 a => .ok (some (.f64 a.toFloat.toBits))
  | .convert .w64 .w64 .signed, .i64 a => .ok (some (.f64 a.toInt64.toFloat.toBits))
  | .convert .w64 .w64 .unsigned, .i64 a => .ok (some (.f64 a.toFloat.toBits))
  | .demote, .f64 a => .ok (some (.f32 (demoteBits a)))
  | .promote, .f32 a => .ok (some (.f64 (promoteBits a)))
  | .toBits .w32, .f32 a => .ok (some (.i32 a))
  | .toBits .w64, .f64 a => .ok (some (.i64 a))
  | .ofBits .w32, .i32 a => .ok (some (.f32 a))
  | .ofBits .w64, .i64 a => .ok (some (.f64 a))
  | _, _ => .ok none

/-! ### Operations -/

/-- A truth value. -/
def truth (b : Bool) : Value := .i32 (if b then 1 else 0)

/-- Applies an operation to the operands on top of a stack, of which the last is on top. There is
no result when the operands are not of the operation's types. -/
@[inline] def Numeric.eval (op : Numeric) (stack : List Value) : Except Trap (Option (List Value)) :=
  match op, stack with
  | .intBinary .w32 op, .i32 b :: .i32 a :: s => do return some (.i32 (← op.eval32 a b) :: s)
  | .intBinary .w64 op, .i64 b :: .i64 a :: s => do return some (.i64 (← op.eval64 a b) :: s)
  | .intCompare .w32 op, .i32 b :: .i32 a :: s => .ok (some (truth (op.eval32 a b) :: s))
  | .intCompare .w64 op, .i64 b :: .i64 a :: s => .ok (some (truth (op.eval64 a b) :: s))
  | .intTest .w32, .i32 a :: s => .ok (some (truth (a = 0) :: s))
  | .intTest .w64, .i64 a :: s => .ok (some (truth (a = 0) :: s))
  | .intUnary .w32 op, .i32 a :: s => .ok (some (.i32 (op.eval32 a) :: s))
  | .intUnary .w64 op, .i64 a :: s => .ok (some (.i64 (op.eval64 a) :: s))
  | .floatUnary .w32 op, .f32 a :: s => .ok (some (.f32 (op.evalBits32 a) :: s))
  | .floatUnary .w64 op, .f64 a :: s => .ok (some (.f64 (op.evalBits64 a) :: s))
  | .floatBinary .w32 op, .f32 b :: .f32 a :: s => .ok (some (.f32 (op.evalBits32 a b) :: s))
  | .floatBinary .w64 op, .f64 b :: .f64 a :: s => .ok (some (.f64 (op.evalBits64 a b) :: s))
  | .floatCompare .w32 op, .f32 b :: .f32 a :: s =>
    .ok (some (truth (op.eval (float32 a) (float32 b)) :: s))
  | .floatCompare .w64 op, .f64 b :: .f64 a :: s =>
    .ok (some (truth (op.eval (float64 a) (float64 b)) :: s))
  | .conversion c, a :: s => do return (← c.eval a).map (· :: s)
  | _, _ => .ok none

end ScriptSandbox.Wasm
