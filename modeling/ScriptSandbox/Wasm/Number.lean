import ScriptSandbox.Wasm.Type

/-!
# Number instructions

The operations on integers and floats of 32 and 64 bits.

## Main definitions

* `Wasm.Numeric`: the operations on numbers
* `Wasm.Numeric.type`: their operand and result types
-/

namespace ScriptSandbox.Wasm

/-- The width of a number. -/
inductive Width where
  | w32
  | w64
  deriving Repr, DecidableEq

/-- The integer type of a width. -/
def Width.int : Width → ValType
  | .w32 => .i32
  | .w64 => .i64

/-- The float type of a width. -/
def Width.float : Width → ValType
  | .w32 => .f32
  | .w64 => .f64

/-- The number of bits of a width. -/
def Width.bits : Width → Nat
  | .w32 => 32
  | .w64 => 64

/-- Whether an integer operation reads its operands as signed. -/
inductive Sign where
  | signed
  | unsigned
  deriving Repr, DecidableEq

/-- Integer operations with one operand. -/
inductive IntUnary where
  | clz
  | ctz
  | popcnt
  | extend8
  | extend16
  | extend32
  deriving Repr, DecidableEq

/-- Integer operations with two operands. -/
inductive IntBinary where
  | add
  | sub
  | mul
  | div (s : Sign)
  | rem (s : Sign)
  | and
  | or
  | xor
  | shl
  | shr (s : Sign)
  | rotl
  | rotr
  deriving Repr, DecidableEq

/-- Integer comparisons. -/
inductive IntCompare where
  | eq
  | ne
  | lt (s : Sign)
  | gt (s : Sign)
  | le (s : Sign)
  | ge (s : Sign)
  deriving Repr, DecidableEq

/-- Float operations with one operand. -/
inductive FloatUnary where
  | abs
  | neg
  | ceil
  | floor
  | trunc
  | nearest
  | sqrt
  deriving Repr, DecidableEq

/-- Float operations with two operands. -/
inductive FloatBinary where
  | add
  | sub
  | mul
  | div
  | min
  | max
  | copysign
  deriving Repr, DecidableEq

/-- Float comparisons. -/
inductive FloatCompare where
  | eq
  | ne
  | lt
  | gt
  | le
  | ge
  deriving Repr, DecidableEq

/-- Conversions between number types. -/
inductive Conversion where
  | wrap
  | extend (s : Sign)
  | trunc (target : Width) (source : Width) (s : Sign) (saturating : Bool)
  | convert (target : Width) (source : Width) (s : Sign)
  | demote
  | promote
  /-- The bits of a float of this width as an integer. -/
  | toBits (w : Width)
  /-- The float of this width with the bits of an integer. -/
  | ofBits (w : Width)
  deriving Repr, DecidableEq

/-- The operations on numbers. -/
inductive Numeric where
  | intUnary (w : Width) (op : IntUnary)
  | intBinary (w : Width) (op : IntBinary)
  | intTest (w : Width)
  | intCompare (w : Width) (op : IntCompare)
  | floatUnary (w : Width) (op : FloatUnary)
  | floatBinary (w : Width) (op : FloatBinary)
  | floatCompare (w : Width) (op : FloatCompare)
  | conversion (c : Conversion)
  deriving Repr, DecidableEq

/-- The operand and result types of an operation on numbers. -/
def Numeric.type : Numeric → FuncType
  | .intUnary w _ => ⟨[w.int], [w.int]⟩
  | .intBinary w _ => ⟨[w.int, w.int], [w.int]⟩
  | .intTest w => ⟨[w.int], [.i32]⟩
  | .intCompare w _ => ⟨[w.int, w.int], [.i32]⟩
  | .floatUnary w _ => ⟨[w.float], [w.float]⟩
  | .floatBinary w _ => ⟨[w.float, w.float], [w.float]⟩
  | .floatCompare w _ => ⟨[w.float, w.float], [.i32]⟩
  | .conversion .wrap => ⟨[.i64], [.i32]⟩
  | .conversion (.extend _) => ⟨[.i32], [.i64]⟩
  | .conversion (.trunc target source _ _) => ⟨[source.float], [target.int]⟩
  | .conversion (.convert target source _) => ⟨[source.int], [target.float]⟩
  | .conversion .demote => ⟨[.f64], [.f32]⟩
  | .conversion .promote => ⟨[.f32], [.f64]⟩
  | .conversion (.toBits w) => ⟨[w.float], [w.int]⟩
  | .conversion (.ofBits w) => ⟨[w.int], [w.float]⟩

end ScriptSandbox.Wasm
