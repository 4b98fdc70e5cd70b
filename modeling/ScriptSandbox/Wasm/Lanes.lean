import ScriptSandbox.Wasm.Fused
import ScriptSandbox.Wasm.Vector

/-!
# Operations on vectors

A vector is taken apart into its lanes, each a number of so many bits, and put together again. No
operation on vectors traps.

## Main definitions

* `Wasm.lanes`, `Wasm.ofLanes`: the lanes of a vector, and the vector with some lanes
* `Wasm.VectorOp.eval`: applies an operation to the operands on top of a stack
* `Wasm.VectorLoad.vector`: the vector that is loaded as some bytes
-/

namespace ScriptSandbox.Wasm

/-- A vector. -/
abbrev Vector128 := BitVec vectorBits

/-- The lanes of a vector, the first one first. -/
def lanes (bits : Nat) (v : Vector128) : List Nat :=
  (List.range (vectorBits / bits)).map fun i => v.toNat >>> (i * bits) % Nat.pow 2 bits

/-- The vector with some lanes, of which the missing ones are zero. -/
def ofLanes (bits : Nat) (ls : List Nat) : Vector128 :=
  BitVec.ofNat _ (ls.foldr (fun l n => n * Nat.pow 2 bits + l % Nat.pow 2 bits) 0)

/-- A vector changed lane by lane. -/
def mapLanes (bits : Nat) (f : Nat → Nat) (v : Vector128) : Vector128 :=
  ofLanes bits ((lanes bits v).map f)

/-- Two vectors combined lane by lane. -/
def zipLanes (bits : Nat) (f : Nat → Nat → Nat) (v w : Vector128) : Vector128 :=
  ofLanes bits (List.zipWith f (lanes bits v) (lanes bits w))

/-! ### Integers -/

/-- The signed number that is written as `n` in some bits. -/
def signedOf (bits n : Nat) : Int :=
  if Nat.pow 2 (bits - 1) ≤ n then Int.ofNat n - Nat.pow 2 bits else n

/-- A number wrapped to some bits. -/
def wrapTo (bits : Nat) (n : Int) : Nat := (n % Int.ofNat (Nat.pow 2 bits)).toNat

/-- The number that is written as `n` in some bits. -/
def Sign.read (s : Sign) (bits n : Nat) : Int :=
  match s with
  | .signed => signedOf bits n
  | .unsigned => n

/-- The nearest number of some bits, as it is written. -/
def Sign.saturate (s : Sign) (bits : Nat) (n : Int) : Nat :=
  let half := Int.ofNat (Nat.pow 2 (bits - 1))
  match s with
  | .signed => wrapTo bits (max (-half) (min n (half - 1)))
  | .unsigned => (max 0 (min n (2 * half - 1))).toNat

/-- An operation on a lane. -/
def LaneUnary.eval (op : LaneUnary) (bits a : Nat) : Nat :=
  match op with
  | .abs => wrapTo bits (signedOf bits a).natAbs
  | .neg => wrapTo bits (-a)
  | .popcnt => bitCount bits a

/-- The product of fractions with 15 bits behind the point, rounded half up. -/
def fractionProduct (bits a b : Nat) : Int :=
  (signedOf bits a * signedOf bits b + 0x4000).fdiv 0x8000

/-- An operation on two lanes. -/
def LaneBinary.eval (op : LaneBinary) (bits a b : Nat) : Nat :=
  match op with
  | .add => wrapTo bits (a + b)
  | .sub => wrapTo bits (Int.ofNat a - b)
  | .mul => wrapTo bits (a * b)
  | .addSat s => s.saturate bits (s.read bits a + s.read bits b)
  | .subSat s => s.saturate bits (s.read bits a - s.read bits b)
  | .min s => if s.read bits a ≤ s.read bits b then a else b
  | .max s => if s.read bits a ≤ s.read bits b then b else a
  | .average => (a + b + 1) / 2
  | .fraction => Sign.signed.saturate bits (fractionProduct bits a b)
  | .relaxedFraction => wrapTo bits (fractionProduct bits a b)

/-- All ones if a comparison holds, else zero. -/
def mask (bits : Nat) (b : Bool) : Nat := if b then Nat.pow 2 bits - 1 else 0

/-- A comparison of two lanes. -/
def IntCompare.evalLane (op : IntCompare) (bits a b : Nat) : Bool :=
  match op with
  | .eq => a = b
  | .ne => a ≠ b
  | .lt s => s.read bits a < s.read bits b
  | .gt s => s.read bits b < s.read bits a
  | .le s => s.read bits a ≤ s.read bits b
  | .ge s => s.read bits b ≤ s.read bits a

/-- A shift of a lane. The distance counts modulo the width. -/
def LaneShift.eval (op : LaneShift) (bits distance a : Nat) : Nat :=
  let distance := distance % bits
  match op with
  | .left => a <<< distance % Nat.pow 2 bits
  | .right s => wrapTo bits (s.read bits a >>> distance)

/-- A half of a list of lanes. -/
def Half.of (h : Half) (ls : List Nat) : List Nat :=
  match h with
  | .low => ls.take (ls.length / 2)
  | .high => ls.drop (ls.length / 2)

/-- The lanes of a half of a vector, as numbers. -/
def halfLanes (w : LaneWidth) (h : Half) (s : Sign) (v : Vector128) : List Int :=
  (h.of (lanes w.bits v)).map (s.read w.bits)

/-- The sums of neighbours. -/
def pairSums : List Int → List Int
  | a :: b :: rest => (a + b) :: pairSums rest
  | _ => []

/-- A vector with lanes twice as wide as `w`. -/
def widened (w : LaneWidth) (ls : List Int) : Vector128 :=
  ofLanes (2 * w.bits) (ls.map (wrapTo (2 * w.bits)))

/-- The products of lanes, as numbers. -/
def products (w : LaneWidth) (s t : Sign) (v u : Vector128) : List Int :=
  List.zipWith (· * ·) ((lanes w.bits v).map (s.read w.bits)) ((lanes w.bits u).map (t.read w.bits))

/-- The sums of products of neighbours, of which the second ones are unsigned. -/
def smallDot (v u : Vector128) : List Nat :=
  (pairSums (products .w8 .signed .unsigned v u)).map (Sign.signed.saturate 16)

/-- The lanes of 8 bits picked from a list by the lanes of a vector; zero out of range. -/
def picked (source : List Nat) (indices : List Nat) : Vector128 :=
  ofLanes 8 (indices.map fun i => source.getD i 0)

/-- The places that a relaxed pick reads: the highest bit asks for zero, and the next three do not
count. -/
def relaxedIndex (i : Nat) : Nat := if 0x80 ≤ i then i else i % 16

/-! ### Floats -/

/-- An operation on the bits of a float. -/
def FloatUnary.evalLane (op : FloatUnary) (w : Width) (a : Nat) : Nat :=
  match w with
  | .w32 => (op.evalBits32 a.toUInt32).toNat
  | .w64 => (op.evalBits64 a.toUInt64).toNat

/-- A comparison of the bits of floats. -/
def FloatCompare.evalLane (op : FloatCompare) (w : Width) (a b : Nat) : Bool :=
  match w with
  | .w32 => op.eval (float32 a.toUInt32) (float32 b.toUInt32)
  | .w64 => op.eval (float64 a.toUInt64) (float64 b.toUInt64)

/-- What is not a number and has no sign: all bits of the exponent, and the first one behind. -/
def Width.quietNaN (w : Width) : Nat := w.infinity + w.quietBit

/-- An operation on the bits of floats. The smaller of two is negative where either is not a number;
the greater is then negative if either is. -/
def LaneFloat.eval (op : LaneFloat) (w : Width) (a b : Nat) : Nat :=
  let nan := w.isNaN a || w.isNaN b
  let less := FloatCompare.lt.evalLane w
  match op with
  | .plain op =>
    match op, nan, w with
    | .min, true, _ => w.signBit + w.quietNaN
    | .max, true, _ =>
      (if w.isNegative a || w.isNegative b then w.signBit else 0) + w.quietNaN
    | op, _, .w32 => (op.evalBits32 a.toUInt32 b.toUInt32).toNat
    | op, _, .w64 => (op.evalBits64 a.toUInt64 b.toUInt64).toNat
  | .pickMin => if less b a then b else a
  | .pickMax => if less a b then b else a
  | .relaxedMin => if less a b then a else b
  | .relaxedMax => if less b a then a else b

/-- The float of some bits as one of 64 bits. -/
def Width.toFloat (w : Width) (a : Nat) : Float :=
  match w with
  | .w32 => float32 a.toUInt32
  | .w64 => float64 a.toUInt64

/-- The integer part of a float in 32 bits. Out of range it is the nearest end. -/
def truncLane (source : Width) (s : Sign) (a : Nat) : Nat :=
  match truncate (source.toFloat a) .w32 s true with
  | .ok n => wrapTo 32 n
  | .error _ => 0

/-- The integer part of a float in 32 bits. Out of the range of signed numbers it is the least. -/
def relaxedTruncLane (source : Width) (s : Sign) (a : Nat) : Nat :=
  match s with
  | .unsigned => truncLane source s a
  | .signed =>
    match truncate (source.toFloat a) .w32 s false with
    | .ok n => wrapTo 32 n
    | .error _ => 0x80000000

/-- An integer of 32 bits as a float. -/
def convertLane (target : Width) (s : Sign) (a : Nat) : Nat :=
  let n := s.read 32 a
  (if n < 0 then target.signBit else 0) + target.round n.natAbs 0

/-- A conversion of vectors. Where lanes get narrower, the upper ones become zero; where they get
wider, only the lower ones count. -/
def LaneConversion.eval (c : LaneConversion) (v : Vector128) : Vector128 :=
  match c with
  | .truncSat source s => ofLanes 32 ((lanes source.bits v).map (truncLane source s))
  | .convert target s => ofLanes target.bits ((lanes 32 v).map (convertLane target s))
  | .demote => ofLanes 32 ((lanes 64 v).map fun a => (demoteBits a.toUInt64).toNat)
  | .promote => ofLanes 64 ((lanes 32 v).map fun a => (promoteBits a.toUInt32).toNat)

/-! ### Operations -/

/-- An operation on the bits of vectors. -/
def BitwiseOp.eval (op : BitwiseOp) (v w : Vector128) : Vector128 :=
  match op with
  | .and => v &&& w
  | .andNot => v &&& ~~~w
  | .or => v ||| w
  | .xor => v ^^^ w

/-- A lane as a value. -/
def Lane.value (l : Lane) (s : Sign) (n : Nat) : Value :=
  match l with
  | .int .w64 => .i64 n.toUInt64
  | .int w => .i32 (wrapTo 32 (s.read w.bits n)).toUInt32
  | .float .w32 => .f32 n.toUInt32
  | .float .w64 => .f64 n.toUInt64

/-- The number that stands for a value that fills a lane. -/
def Lane.ofValue? (l : Lane) (v : Value) : Option Nat :=
  match l, v with
  | .int .w64, .i64 n | .float .w64, .f64 n => some n.toNat
  | .int _, .i32 n | .float .w32, .f32 n => some (n.toNat % Nat.pow 2 l.bits)
  | _, _ => none

/-- An operation on one vector. -/
def VectorOp.eval1 (op : VectorOp) (v : Vector128) : Option Value :=
  match op with
  | .not => some (.v128 (~~~v))
  | .anyTrue => some (truth (v ≠ 0))
  | .allTrue w => some (truth ((lanes w.bits v).all (· ≠ 0)))
  | .bitmask w =>
    let bits := (lanes w.bits v).map fun l => if signedOf w.bits l < 0 then 1 else 0
    some (.i32 (bits.foldr (fun b n => 2 * n + b) 0).toUInt32)
  | .extract l s lane => (lanes l.bits v)[lane]?.map (l.value s)
  | .unary w op => some (.v128 (mapLanes w.bits (op.eval w.bits) v))
  | .extend w h s => some (.v128 (widened w (halfLanes w h s v)))
  | .pairSum w s => some (.v128 (widened w (pairSums ((lanes w.bits v).map (s.read w.bits)))))
  | .floatUnary w op => some (.v128 (mapLanes w.bits (op.evalLane w) v))
  | .conversion c => some (.v128 (c.eval v))
  | .relaxedTrunc source s =>
    some (.v128 (ofLanes 32 ((lanes source.bits v).map (relaxedTruncLane source s))))
  | _ => none

/-- An operation on two vectors. -/
def VectorOp.eval2 (op : VectorOp) (v u : Vector128) : Option Vector128 :=
  match op with
  | .bitwise op => some (op.eval v u)
  | .shuffle indices => some (picked (lanes 8 v ++ lanes 8 u) indices)
  | .swizzle relaxed =>
    let indices := lanes 8 u
    some (picked (lanes 8 v) (if relaxed then indices.map relaxedIndex else indices))
  | .binary w op => some (zipLanes w.bits (op.eval w.bits) v u)
  | .compare w op => some (zipLanes w.bits (fun a b => mask w.bits (op.evalLane w.bits a b)) v u)
  | .narrow w s =>
    let narrowed (v : Vector128) : List Nat :=
      (lanes w.bits v).map fun l => s.saturate (w.bits / 2) (signedOf w.bits l)
    some (ofLanes (w.bits / 2) (narrowed v ++ narrowed u))
  | .extendMul w h s =>
    some (widened w (List.zipWith (· * ·) (halfLanes w h s v) (halfLanes w h s u)))
  | .dot => some (widened .w16 (pairSums (products .w16 .signed .signed v u)))
  | .relaxedDot => some (ofLanes 16 (smallDot v u))
  | .floatBinary w op => some (zipLanes w.bits (op.eval w) v u)
  | .floatCompare w op => some (zipLanes w.bits (fun a b => mask w.bits (op.evalLane w a b)) v u)
  | _ => none

/-- An operation on three vectors. -/
def VectorOp.eval3 (op : VectorOp) (v u t : Vector128) : Option Vector128 :=
  match op with
  | .bitSelect => some (v &&& t ||| u &&& ~~~t)
  | .laneSelect w =>
    let pick (a b choice : Nat) : Nat := if signedOf w.bits choice < 0 then a else b
    let terms := (lanes w.bits v).zip ((lanes w.bits u).zip (lanes w.bits t))
    some (ofLanes w.bits (terms.map fun (a, b, c) => pick a b c))
  | .relaxedDotAdd =>
    let sums := pairSums ((smallDot v u).map (signedOf 16))
    some (ofLanes 32 (List.zipWith (fun a c => wrapTo 32 (a + Int.ofNat c)) sums (lanes 32 t)))
  | .multiplyAdd w negative =>
    let terms := (lanes w.bits v).zip ((lanes w.bits u).zip (lanes w.bits t))
    some (ofLanes w.bits (terms.map fun (a, b, c) => w.multiplyAdd negative a b c))
  | _ => none

/-- Applies an operation to the operands on top of a stack, of which the last is on top. There is
no result when the operands are not of the operation's types. -/
def VectorOp.eval (op : VectorOp) (stack : List Value) : Option (List Value) :=
  match op, stack with
  | .splat l, x :: s => do
    let n ← l.ofValue? x
    return .v128 (ofLanes l.bits (List.replicate l.count n)) :: s
  | .replace l lane, x :: .v128 v :: s => do
    return .v128 (ofLanes l.bits ((lanes l.bits v).set lane (← l.ofValue? x))) :: s
  | .shift w op, .i32 distance :: .v128 v :: s =>
    some (.v128 (mapLanes w.bits (op.eval w.bits distance.toNat) v) :: s)
  | op, .v128 t :: s =>
    match op.eval1 t, s with
    | some r, s => some (r :: s)
    | none, .v128 u :: s =>
      match op.eval2 u t, s with
      | some r, s => some (.v128 r :: s)
      | none, .v128 v :: s => (op.eval3 v u t).map (.v128 · :: s)
      | none, _ => none
    | none, _ => none
  | _, _ => none

/-- The vector that is loaded as a number of some bytes. -/
def VectorLoad.vector (op : VectorLoad) (n : Nat) : Vector128 :=
  match op with
  | .extend w s => widened w ((Half.low.of (lanes w.bits (BitVec.ofNat _ n))).map (s.read w.bits))
  | .splat w => ofLanes w.bits (List.replicate (vectorBits / w.bits) n)
  | .zero _ => BitVec.ofNat _ n

end ScriptSandbox.Wasm
