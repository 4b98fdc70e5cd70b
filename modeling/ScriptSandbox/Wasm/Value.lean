import ScriptSandbox.Wasm.Type

/-!
# Runtime values and traps
-/

namespace ScriptSandbox.Wasm

/-- A value. Floats are their bits; a reference is an index, or null. -/
inductive Value where
  | i32 (v : UInt32)
  | i64 (v : UInt64)
  | f32 (bits : UInt32)
  | f64 (bits : UInt64)
  | v128 (bits : BitVec 128)
  | func (f : Option Nat)
  | external (x : Option Nat)
  deriving Repr, DecidableEq, Inhabited

/-- The zero or null of a type. -/
def Value.default : ValType → Value
  | .i32 => .i32 0
  | .i64 => .i64 0
  | .f32 => .f32 0
  | .f64 => .f64 0
  | .v128 => .v128 0
  | .funcref => .func none
  | .externref => .external none

/-- The null, or the reference to an index, of a reference type. -/
def Value.reference (t : ValType) (index : Option Nat) : Value :=
  if t = .externref then .external index else .func index

/-- The index a reference holds. -/
def Value.index : Value → Option Nat
  | .func i | .external i => i
  | _ => none

/-- Why a computation cannot go on. -/
inductive Trap where
  | unreachable
  | divideByZero
  | integerOverflow
  | badConversion
  | memoryOutOfBounds
  | tableOutOfBounds
  | uninitializedElement
  | indirectTypeMismatch
  | stackExhausted
  | misalignedAtomic
  | waitNotShared
  deriving Repr, DecidableEq

/-- The wording of a trap. -/
def Trap.message : Trap → String
  | .unreachable => "wasm `unreachable` instruction executed"
  | .divideByZero => "integer divide by zero"
  | .integerOverflow => "integer overflow"
  | .badConversion => "invalid conversion to integer"
  | .memoryOutOfBounds => "out of bounds memory access"
  | .tableOutOfBounds => "undefined element: out of bounds table access"
  | .uninitializedElement => "uninitialized element"
  | .indirectTypeMismatch => "indirect call type mismatch"
  | .stackExhausted => "call stack exhausted"
  | .misalignedAtomic => "unaligned atomic"
  | .waitNotShared => "atomic wait on non-shared memory"

end ScriptSandbox.Wasm
