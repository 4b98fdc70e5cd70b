import ScriptSandbox.Wasm.Number

/-!
# Atomic instructions

Accesses to memory that threads may share. Every one of them needs an address that is a multiple of
its size. Numbers narrower than their type are extended with zeros.

## Main definitions

* `Wasm.AtomicOp`: the atomic accesses
* `Wasm.AtomicOp.type`: their operand and result types
-/

namespace ScriptSandbox.Wasm

/-- What an update writes, from the old number and an operand. -/
inductive AtomicUpdate where
  | add
  | sub
  | and
  | or
  | xor
  | exchange
  deriving Repr, DecidableEq

/-- Atomic accesses to memory, with the type of the number and the bytes that it has in memory. -/
inductive AtomicOp where
  /-- Wakes threads that wait at an address. -/
  | notify
  /-- Waits at an address while it holds a number. -/
  | wait (w : Width)
  | load (w : Width) (bytes : Nat)
  | store (w : Width) (bytes : Nat)
  | update (op : AtomicUpdate) (w : Width) (bytes : Nat)
  | compareExchange (w : Width) (bytes : Nat)
  deriving Repr, DecidableEq

/-- The operand and result types of an atomic access. -/
def AtomicOp.type : AtomicOp → FuncType
  | .notify => ⟨[.i32, .i32], [.i32]⟩
  | .wait w => ⟨[.i32, w.int, .i64], [.i32]⟩
  | .load w _ => ⟨[.i32], [w.int]⟩
  | .store w _ => ⟨[.i32, w.int], []⟩
  | .update _ w _ => ⟨[.i32, w.int], [w.int]⟩
  | .compareExchange w _ => ⟨[.i32, w.int, w.int], [w.int]⟩

/-- The number of bytes that an atomic access touches. -/
def AtomicOp.bytes : AtomicOp → Nat
  | .notify => 4
  | .wait w => w.bits / 8
  | .load _ bytes | .store _ bytes | .update _ _ bytes | .compareExchange _ bytes => bytes

/-- The number an update writes, in a word of some bits. -/
def AtomicUpdate.eval (op : AtomicUpdate) (bits old operand : Nat) : Nat :=
  let range := Nat.pow 2 bits
  match op with
  | .add => (old + operand) % range
  | .sub => (old + range - operand % range) % range
  | .and => Nat.land old operand % range
  | .or => Nat.lor old operand % range
  | .xor => Nat.xor old operand % range
  | .exchange => operand % range

end ScriptSandbox.Wasm
