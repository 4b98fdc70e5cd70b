import ScriptSandbox.Wasm.Binary.Reader
import ScriptSandbox.Wasm.Instruction

/-!
# Reading binary modules: vector and atomic instructions

Opcodes behind the bytes `0xFD`, for vectors, and `0xFE`, for memory that threads share.

## Main definitions

* `Binary.vectorInstr`: an instruction on vectors
* `Binary.atomicInstr`: an instruction on shared memory
-/

namespace ScriptSandbox.Wasm.Binary

/-- A memory operand. Bit 6 of the alignment announces a memory index. -/
def memArg : Decoder MemArg := do
  let flags ← u32
  let (align, memory) ←
    if flags / 64 % 2 = 1 then do
      pure (flags - 64, ← u32)
    else pure (flags, 0)
  if 64 ≤ align then refuse (.badFlags align)
  return ⟨align, memory, ← u32⟩

/-! ### Vectors -/

/-- The number of a lane. -/
def laneIndex : Decoder Nat := do return (← byte).toNat

/-- The bits of a vector. -/
def vectorConstant : Decoder (BitVec vectorBits) := do
  return BitVec.ofNat _ ((← bytes 16).foldr (fun b n => 256 * n + b.toNat) 0)

/-- Loads of vectors from fewer bytes, by opcode from 1. -/
def vectorLoads : List VectorLoad :=
  [.extend .w8 .signed, .extend .w8 .unsigned, .extend .w16 .signed, .extend .w16 .unsigned,
   .extend .w32 .signed, .extend .w32 .unsigned, .splat .w8, .splat .w16, .splat .w32, .splat .w64]

/-- The lanes, in the order of their opcodes. -/
def laneKinds : List Lane :=
  [.int .w8, .int .w16, .int .w32, .int .w64, .float .w32, .float .w64]

/-- The widths of lanes, in the order of their opcodes. -/
def laneWidths : List LaneWidth := [.w8, .w16, .w32, .w64]

/-- The comparisons of integer lanes of up to 32 bits, in the order of their opcodes. -/
def laneCompares (w : LaneWidth) : List VectorOp :=
  [IntCompare.eq, .ne, .lt .signed, .lt .unsigned, .gt .signed, .gt .unsigned, .le .signed,
   .le .unsigned, .ge .signed, .ge .unsigned].map (.compare w)

/-- The comparisons of integer lanes of 64 bits, in the order of their opcodes. -/
def longCompares : List VectorOp :=
  [IntCompare.eq, .ne, .lt .signed, .gt .signed, .le .signed, .ge .signed].map (.compare .w64)

/-- The comparisons of float lanes, in the order of their opcodes. -/
def laneFloatCompares (w : Width) : List VectorOp :=
  [FloatCompare.eq, .ne, .lt, .gt, .le, .ge].map (.floatCompare w)

/-- The shifts of a width, in the order of their opcodes. -/
def laneShifts (w : LaneWidth) : List VectorOp :=
  [LaneShift.left, .right .signed, .right .unsigned].map (.shift w)

/-- Additions or subtractions of a width and their saturating forms, in the order of opcodes. -/
def saturatingOps (w : LaneWidth) (plain : LaneBinary) (saturating : Sign → LaneBinary) :
    List VectorOp :=
  [plain, saturating .signed, saturating .unsigned].map (.binary w)

/-- The least and the greatest of lanes, in the order of their opcodes. -/
def laneExtremes (w : LaneWidth) : List VectorOp :=
  [LaneBinary.min .signed, .min .unsigned, .max .signed, .max .unsigned].map (.binary w)

/-- Operations on a half of the lanes, in the order of their opcodes. -/
def halves (f : Half → Sign → VectorOp) : List VectorOp :=
  [f .low .signed, f .high .signed, f .low .unsigned, f .high .unsigned]

/-- Operations on float lanes with two operands, in the order of their opcodes. -/
def laneFloats (w : Width) : List VectorOp :=
  [LaneFloat.plain .add, .plain .sub, .plain .mul, .plain .div, .plain .min, .plain .max, .pickMin,
   .pickMax].map (.floatBinary w)

/-- The operations on vectors without operands of their own, by opcode. -/
def vectorOps : List (Nat × List VectorOp) :=
  [(14, [.swizzle false]),
   (15, laneKinds.map .splat),
   (35, laneCompares .w8),
   (45, laneCompares .w16),
   (55, laneCompares .w32),
   (65, laneFloatCompares .w32),
   (71, laneFloatCompares .w64),
   (77, [.not, .bitwise .and, .bitwise .andNot, .bitwise .or, .bitwise .xor, .bitSelect, .anyTrue]),
   (94, [.conversion .demote, .conversion .promote]),
   (96, [.unary .w8 .abs, .unary .w8 .neg, .unary .w8 .popcnt, .allTrue .w8, .bitmask .w8,
     .narrow .w16 .signed, .narrow .w16 .unsigned]),
   (103, [FloatUnary.ceil, .floor, .trunc, .nearest].map (.floatUnary .w32)),
   (107, laneShifts .w8),
   (110, saturatingOps .w8 .add .addSat),
   (113, saturatingOps .w8 .sub .subSat),
   (116, [FloatUnary.ceil, .floor].map (.floatUnary .w64)),
   (118, laneExtremes .w8),
   (122, [.floatUnary .w64 .trunc, .binary .w8 .average]),
   (124, [.pairSum .w8 .signed, .pairSum .w8 .unsigned, .pairSum .w16 .signed,
     .pairSum .w16 .unsigned]),
   (128, [.unary .w16 .abs, .unary .w16 .neg, .binary .w16 .fraction, .allTrue .w16, .bitmask .w16,
     .narrow .w32 .signed, .narrow .w32 .unsigned]),
   (135, halves (.extend .w8)),
   (139, laneShifts .w16),
   (142, saturatingOps .w16 .add .addSat),
   (145, saturatingOps .w16 .sub .subSat),
   (148, [.floatUnary .w64 .nearest, .binary .w16 .mul]),
   (150, laneExtremes .w16),
   (155, [.binary .w16 .average]),
   (156, halves (.extendMul .w8)),
   (160, [.unary .w32 .abs, .unary .w32 .neg]),
   (163, [.allTrue .w32, .bitmask .w32]),
   (167, halves (.extend .w16)),
   (171, laneShifts .w32),
   (174, [.binary .w32 .add]),
   (177, [.binary .w32 .sub]),
   (181, [.binary .w32 .mul]),
   (182, laneExtremes .w32),
   (186, [.dot]),
   (188, halves (.extendMul .w16)),
   (192, [.unary .w64 .abs, .unary .w64 .neg]),
   (195, [.allTrue .w64, .bitmask .w64]),
   (199, halves (.extend .w32)),
   (203, laneShifts .w64),
   (206, [.binary .w64 .add]),
   (209, [.binary .w64 .sub]),
   (213, [.binary .w64 .mul]),
   (214, longCompares),
   (220, halves (.extendMul .w32)),
   (224, [.floatUnary .w32 .abs, .floatUnary .w32 .neg]),
   (227, [.floatUnary .w32 .sqrt]),
   (228, laneFloats .w32),
   (236, [.floatUnary .w64 .abs, .floatUnary .w64 .neg]),
   (239, [.floatUnary .w64 .sqrt]),
   (240, laneFloats .w64),
   (248, [LaneConversion.truncSat .w32 .signed, .truncSat .w32 .unsigned, .convert .w32 .signed,
     .convert .w32 .unsigned, .truncSat .w64 .signed, .truncSat .w64 .unsigned,
     .convert .w64 .signed, .convert .w64 .unsigned].map .conversion),
   (256, [.swizzle true, .relaxedTrunc .w32 .signed, .relaxedTrunc .w32 .unsigned,
     .relaxedTrunc .w64 .signed, .relaxedTrunc .w64 .unsigned, .multiplyAdd .w32 false,
     .multiplyAdd .w32 true, .multiplyAdd .w64 false, .multiplyAdd .w64 true, .laneSelect .w8,
     .bitSelect, .laneSelect .w32, .laneSelect .w64, .floatBinary .w32 .relaxedMin,
     .floatBinary .w32 .relaxedMax, .floatBinary .w64 .relaxedMin, .floatBinary .w64 .relaxedMax,
     .binary .w16 .relaxedFraction, .relaxedDot, .relaxedDotAdd])]

/-- The operation on vectors with an opcode. -/
def vectorOp? (code : Nat) : Option VectorOp :=
  vectorOps.findSome? fun (first, ops) => if first ≤ code then ops[code - first]? else none

/-- The lane of an extraction or replacement with an opcode from 21, and what is done with it. -/
def laneAccess? (code lane : Nat) : Option VectorOp :=
  [VectorOp.extract (.int .w8) .signed lane, .extract (.int .w8) .unsigned lane,
   .replace (.int .w8) lane, .extract (.int .w16) .signed lane,
   .extract (.int .w16) .unsigned lane, .replace (.int .w16) lane,
   .extract (.int .w32) .unsigned lane, .replace (.int .w32) lane,
   .extract (.int .w64) .unsigned lane, .replace (.int .w64) lane,
   .extract (.float .w32) .unsigned lane, .replace (.float .w32) lane,
   .extract (.float .w64) .unsigned lane, .replace (.float .w64) lane][code - 21]?

/-- An instruction behind the byte `0xFD`. -/
def vectorInstr : Decoder Instr := do
  let code ← u32
  if code = 0 then return .load ⟨.v128, 16, .unsigned⟩ (← memArg)
  else if code = 11 then return .store ⟨.v128, 16⟩ (← memArg)
  else if code = 12 then return .v128Const (← vectorConstant)
  else if code = 13 then return .vector (.shuffle (← repeated laneIndex [] 16))
  else if code < 11 then
    match vectorLoads[code - 1]? with
    | some op => return .vectorLoad op (← memArg)
    | none => refuse (.badOpcode code)
  else if 21 ≤ code ∧ code < 35 then
    match laneAccess? code (← laneIndex) with
    | some op => return .vector op
    | none => refuse (.badOpcode code)
  else if 84 ≤ code ∧ code < 92 then
    match laneWidths[(code - 84) % 4]? with
    | some w =>
      let arg ← memArg
      let lane ← laneIndex
      return if code < 88 then .laneLoad w lane arg else .laneStore w lane arg
    | none => refuse (.badOpcode code)
  else if code = 92 then return .vectorLoad (.zero .w32) (← memArg)
  else if code = 93 then return .vectorLoad (.zero .w64) (← memArg)
  else
    match vectorOp? code with
    | some op => return .vector op
    | none => refuse (.badOpcode code)

/-! ### Shared memory -/

/-- The types and sizes of atomic accesses, in the order of their opcodes. -/
def atomicSizes : List (Width × Nat) :=
  [(.w32, 4), (.w64, 8), (.w32, 1), (.w32, 2), (.w64, 1), (.w64, 2), (.w64, 4)]

/-- The atomic accesses, by opcode from `0x10`. -/
def atomicOps : Array AtomicOp :=
  let each (f : Width → Nat → AtomicOp) : List AtomicOp := atomicSizes.map fun (w, n) => f w n
  (each .load ++ each .store ++
    [AtomicUpdate.add, .sub, .and, .or, .xor, .exchange].flatMap (fun op => each (.update op)) ++
    each .compareExchange).toArray

/-- An instruction behind the byte `0xFE`. -/
def atomicInstr : Decoder Instr := do
  let code ← u32
  match code with
  | 0 => return .atomic .notify (← memArg)
  | 1 => return .atomic (.wait .w32) (← memArg)
  | 2 => return .atomic (.wait .w64) (← memArg)
  | 3 => if (← byte) = 0 then return .fence else refuse (.badOpcode 3)
  | _ =>
    match if code < 0x10 then none else atomicOps[code - 0x10]? with
    | some op => return .atomic op (← memArg)
    | none => refuse (.badOpcode code)

end ScriptSandbox.Wasm.Binary
