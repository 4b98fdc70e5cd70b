import ScriptSandbox.Wasm.Number

/-!
# Vector instructions

A vector has 128 bits. Most instructions divide it into lanes of one width, of which the first is in
the lowest bits, and treat every lane as an integer or a float.

## Main definitions

* `Wasm.LaneWidth`, `Wasm.Lane`: what vectors are divided into
* `Wasm.VectorOp`: the operations on vectors
* `Wasm.VectorOp.type`: their operand and result types
* `Wasm.VectorLoad`: the ways to load a vector from fewer bytes
-/

namespace ScriptSandbox.Wasm

/-- The width of an integer lane. -/
inductive LaneWidth where
  | w8
  | w16
  | w32
  | w64
  deriving Repr, DecidableEq

/-- The number of bits of a lane. -/
def LaneWidth.bits : LaneWidth → Nat
  | .w8 => 8
  | .w16 => 16
  | .w32 => 32
  | .w64 => 64

/-- The number of bits of a vector. -/
def vectorBits : Nat := 128

/-- What a lane holds. -/
inductive Lane where
  | int (w : LaneWidth)
  | float (w : Width)
  deriving Repr, DecidableEq

namespace Lane

/-- The number of bits of a lane. -/
def bits : Lane → Nat
  | .int w => w.bits
  | .float w => w.bits

/-- The number of lanes of a vector. -/
def count (l : Lane) : Nat := vectorBits / l.bits

/-- The type of a lane on its own. Short integers are widened. -/
def scalar : Lane → ValType
  | .int .w64 => .i64
  | .int _ => .i32
  | .float w => w.float

end Lane

/-- Operations on the bits of vectors. -/
inductive BitwiseOp where
  | and
  | andNot
  | or
  | xor
  deriving Repr, DecidableEq

/-- Operations on integer lanes with one operand. -/
inductive LaneUnary where
  | abs
  | neg
  | popcnt
  deriving Repr, DecidableEq

/-- Operations on integer lanes with two operands. -/
inductive LaneBinary where
  | add
  | sub
  | mul
  | addSat (s : Sign)
  | subSat (s : Sign)
  | min (s : Sign)
  | max (s : Sign)
  /-- The average, rounded up. -/
  | average
  /-- The product of fractions with 15 bits behind the point, rounded. -/
  | fraction
  /-- As `fraction`, but wrapped around where the product is one. -/
  | relaxedFraction
  deriving Repr, DecidableEq

/-- Shifts of integer lanes. -/
inductive LaneShift where
  | left
  | right (s : Sign)
  deriving Repr, DecidableEq

/-- Operations on float lanes with two operands. -/
inductive LaneFloat where
  | plain (op : FloatBinary)
  /-- The second operand if it is smaller, else the first. -/
  | pickMin
  /-- The second operand if it is greater, else the first. -/
  | pickMax
  /-- The first operand if it is smaller, else the second. -/
  | relaxedMin
  /-- The first operand if it is greater, else the second. -/
  | relaxedMax
  deriving Repr, DecidableEq

/-- A half of a vector. -/
inductive Half where
  | low
  | high
  deriving Repr, DecidableEq

/-- Conversions between lanes. -/
inductive LaneConversion where
  /-- Floats to integers of 32 bits, the nearest ends of the range included. -/
  | truncSat (source : Width) (s : Sign)
  /-- Integers of 32 bits to floats. -/
  | convert (target : Width) (s : Sign)
  | demote
  | promote
  deriving Repr, DecidableEq

/-- The operations on vectors. -/
inductive VectorOp where
  | not
  | bitwise (op : BitwiseOp)
  | bitSelect
  /-- Lanes of one vector where the highest bit of a lane of the third is set, else of the other. -/
  | laneSelect (w : LaneWidth)
  | anyTrue
  | allTrue (w : LaneWidth)
  | bitmask (w : LaneWidth)
  /-- Lanes of 8 bits picked from two vectors. -/
  | shuffle (lanes : List Nat)
  /-- Lanes of 8 bits picked by those of another vector. -/
  | swizzle (relaxed : Bool)
  | splat (l : Lane)
  | extract (l : Lane) (s : Sign) (lane : Nat)
  | replace (l : Lane) (lane : Nat)
  | unary (w : LaneWidth) (op : LaneUnary)
  | binary (w : LaneWidth) (op : LaneBinary)
  | compare (w : LaneWidth) (op : IntCompare)
  | shift (w : LaneWidth) (op : LaneShift)
  /-- Two vectors of lanes of width `w` to one of lanes half as wide. -/
  | narrow (w : LaneWidth) (s : Sign)
  /-- A half of the lanes, of width `w`, to lanes twice as wide. -/
  | extend (w : LaneWidth) (h : Half) (s : Sign)
  /-- The products of a half of the lanes, of width `w`, in lanes twice as wide. -/
  | extendMul (w : LaneWidth) (h : Half) (s : Sign)
  /-- The sums of neighbours among lanes of width `w`, in lanes twice as wide. -/
  | pairSum (w : LaneWidth) (s : Sign)
  /-- The sums of products of neighbours among signed lanes of 16 bits. -/
  | dot
  /-- The sums of products of neighbours among lanes of 8 bits, of which the second are small. -/
  | relaxedDot
  /-- As `relaxedDot`, with the sums of neighbours among the results added to a third operand. -/
  | relaxedDotAdd
  | floatUnary (w : Width) (op : FloatUnary)
  | floatBinary (w : Width) (op : LaneFloat)
  | floatCompare (w : Width) (op : FloatCompare)
  /-- A product, or its negative, added to a third operand and rounded once. -/
  | multiplyAdd (w : Width) (negative : Bool)
  | conversion (c : LaneConversion)
  /-- Truncations for which out of range is the least signed or greatest unsigned number. -/
  | relaxedTrunc (source : Width) (s : Sign)
  deriving Repr, DecidableEq

/-- The operand and result types of an operation on vectors. -/
def VectorOp.type : VectorOp → FuncType
  | .not | .unary .. | .extend .. | .pairSum .. | .floatUnary .. | .conversion _
  | .relaxedTrunc .. => ⟨[.v128], [.v128]⟩
  | .bitwise _ | .shuffle _ | .swizzle _ | .binary .. | .compare .. | .narrow .. | .extendMul ..
  | .dot | .relaxedDot | .floatBinary .. | .floatCompare .. => ⟨[.v128, .v128], [.v128]⟩
  | .bitSelect | .laneSelect _ | .relaxedDotAdd | .multiplyAdd .. => ⟨[.v128, .v128, .v128], [.v128]⟩
  | .anyTrue | .allTrue _ | .bitmask _ => ⟨[.v128], [.i32]⟩
  | .splat l => ⟨[l.scalar], [.v128]⟩
  | .extract l _ _ => ⟨[.v128], [l.scalar]⟩
  | .replace l _ => ⟨[.v128, l.scalar], [.v128]⟩
  | .shift .. => ⟨[.v128, .i32], [.v128]⟩

/-- Whether the lanes that an operation names exist. -/
def VectorOp.lanesExist : VectorOp → Bool
  | .shuffle lanes => lanes.all (· < 32)
  | .extract l _ lane | .replace l lane => lane < l.count
  | _ => true

/-- The ways to load a vector from fewer bytes than it has. -/
inductive VectorLoad where
  /-- Lanes of width `w` to lanes twice as wide. -/
  | extend (w : LaneWidth) (s : Sign)
  /-- One number to all lanes. -/
  | splat (w : LaneWidth)
  /-- One number to the first lane, and zero to the others. -/
  | zero (w : LaneWidth)
  deriving Repr, DecidableEq

/-- The number of bytes that a load reads. -/
def VectorLoad.bytes : VectorLoad → Nat
  | .extend .. => 8
  | .splat w | .zero w => w.bits / 8

end ScriptSandbox.Wasm
