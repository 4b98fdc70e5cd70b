import ScriptSandbox.Wasm.Atomic
import ScriptSandbox.Wasm.Vector

/-!
# WebAssembly instructions

Instructions come in two shapes. The *flat* shape, `Op`, is that of the binary format: blocks are
opened and closed by instructions of their own. The *nested* shape, `Code`, is that of execution:
a block holds its body.

## Main definitions

* `Wasm.Instr`: the instructions that open no block
* `Wasm.Op`, `Wasm.Code`: flat and nested code
* `Wasm.Code.ofOps?`: the nested shape of flat code
-/

namespace ScriptSandbox.Wasm

/-- How a value is loaded: its type, the bytes read, and whether a short integer is extended with
its sign. -/
structure LoadOp where
  type : ValType
  bytes : Nat
  sign : Sign
  deriving Repr, DecidableEq

/-- How a value is stored: its type and the bytes written. -/
structure StoreOp where
  type : ValType
  bytes : Nat
  deriving Repr, DecidableEq

/-- The memory operand of a load or store. -/
structure MemArg where
  /-- The exponent of the promised alignment. -/
  align : Nat
  memory : Nat
  offset : Nat
  deriving Repr, DecidableEq

/-- The instructions that open no block. -/
inductive Instr where
  | unreachable
  | nop
  | br (label : Nat)
  | brIf (label : Nat)
  | brTable (labels : List Nat) (default : Nat)
  | ret
  | call (f : Nat)
  | callIndirect (table : Nat) (type : Nat)
  | tailCall (f : Nat)
  | tailCallIndirect (table : Nat) (type : Nat)
  | drop
  | select (type : Option ValType)
  | localGet (i : Nat)
  | localSet (i : Nat)
  | localTee (i : Nat)
  | globalGet (i : Nat)
  | globalSet (i : Nat)
  | tableGet (t : Nat)
  | tableSet (t : Nat)
  | tableSize (t : Nat)
  | tableGrow (t : Nat)
  | tableFill (t : Nat)
  | tableCopy (target source : Nat)
  | tableInit (t segment : Nat)
  | elemDrop (segment : Nat)
  | load (op : LoadOp) (arg : MemArg)
  | store (op : StoreOp) (arg : MemArg)
  | vectorLoad (op : VectorLoad) (arg : MemArg)
  | laneLoad (w : LaneWidth) (lane : Nat) (arg : MemArg)
  | laneStore (w : LaneWidth) (lane : Nat) (arg : MemArg)
  | atomic (op : AtomicOp) (arg : MemArg)
  | fence
  | memorySize (m : Nat)
  | memoryGrow (m : Nat)
  | memoryFill (m : Nat)
  | memoryCopy (target source : Nat)
  | memoryInit (m segment : Nat)
  | dataDrop (segment : Nat)
  | i32Const (v : UInt32)
  | i64Const (v : UInt64)
  | f32Const (bits : UInt32)
  | f64Const (bits : UInt64)
  | v128Const (bits : BitVec vectorBits)
  | refNull (t : ValType)
  | refIsNull
  | refFunc (f : Nat)
  | numeric (op : Numeric)
  | vector (op : VectorOp)
  deriving Repr, DecidableEq

/-- Flat code, one instruction of the binary format at a time. An instruction that opens no block
knows at which byte of the module it stands. -/
inductive Op where
  | block (t : BlockType)
  | loop (t : BlockType)
  | branch (t : BlockType)
  | otherwise
  | close
  | plain (position : Nat) (i : Instr)
  deriving Repr, DecidableEq

/-- Nested code. -/
inductive Code where
  | plain (position : Nat) (i : Instr)
  | block (t : BlockType) (body : List Code)
  | loop (t : BlockType) (body : List Code)
  | branch (t : BlockType) (yes no : List Code)
  deriving Repr, Inhabited

/-! ### Nesting -/

/-- An open construct while flat code is read: what opened it, the code before it and, past the
middle of a two-way branch, the first arm. Code is kept last instruction first. -/
inductive Open where
  | block (t : BlockType) (before : List Code)
  | loop (t : BlockType) (before : List Code)
  | yes (t : BlockType) (before : List Code)
  | no (t : BlockType) (before yes : List Code)

/-- Reads flat code with the constructs in `opens` around it, the innermost first, and the code
`done` behind it. The function's own end must be the last instruction. -/
def Code.nest (opens : List Open) (done : List Code) : List Op → Option (List Code)
  | [] => none
  | .block t :: ops => nest (.block t done :: opens) [] ops
  | .loop t :: ops => nest (.loop t done :: opens) [] ops
  | .branch t :: ops => nest (.yes t done :: opens) [] ops
  | .plain position i :: ops => nest opens (.plain position i :: done) ops
  | .otherwise :: ops =>
    match opens with
    | .yes t before :: opens => nest (.no t before done.reverse :: opens) [] ops
    | _ => none
  | .close :: ops =>
    match opens with
    | [] => if ops.isEmpty then some done.reverse else none
    | .block t before :: opens => nest opens (.block t done.reverse :: before) ops
    | .loop t before :: opens => nest opens (.loop t done.reverse :: before) ops
    | .yes t before :: opens => nest opens (.branch t done.reverse [] :: before) ops
    | .no t before yes :: opens => nest opens (.branch t yes done.reverse :: before) ops

/-- The nested shape of a function's flat code, which ends with the function's own end. -/
def Code.ofOps? (ops : List Op) : Option (List Code) := Code.nest [] [] ops

end ScriptSandbox.Wasm
