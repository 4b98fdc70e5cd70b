import ScriptSandbox.Wasm.Binary.Vector

/-!
# Reading binary modules: code

Opcodes and their operands. An opcode stands for one instruction of the flat shape.

## Main definitions

* `Binary.op`: one instruction
* `Binary.constant`: the code of an initial value, up to its end
* `Binary.ops`: the code of a function body
-/

namespace ScriptSandbox.Wasm.Binary

/-- The value type with a code. -/
def valTypeOf (code : UInt8) : Option ValType :=
  match code with
  | 0x7F => some .i32
  | 0x7E => some .i64
  | 0x7D => some .f32
  | 0x7C => some .f64
  | 0x7B => some .v128
  | 0x70 => some .funcref
  | 0x6F => some .externref
  | _ => none

/-- A value type. -/
def valType : Decoder ValType := do
  let b ← byte
  match valTypeOf b with
  | some t => return t
  | none => refuse (.badType b)

/-- A reference type. -/
def refType : Decoder ValType := do
  let t ← valType
  if t.isReference then return t else refuse (.badType 0)

/-- A block type: one byte for nothing or a value type, else the index of a function type. -/
def blockType : Decoder BlockType := fun s => do
  let (b, r) ← byte s
  if b = 0x40 then return (.empty, r)
  else if b &&& 0xC0 = 0x40 then
    match valTypeOf b with
    | some t => return (.value t, r)
    | none => .error (.badType b)
  else
    let (n, r) ← signed 33 s
    if n < 0 then .error (.badType b) else return (.index n.toNat, r)

/-- Four bytes as a number, the least significant first. -/
def fixed32 : Decoder UInt32 := do
  return (← bytes 4).foldr (fun b n => n <<< 8 ||| b.toUInt32) 0

/-- Eight bytes as a number, the least significant first. -/
def fixed64 : Decoder UInt64 := do
  return (← bytes 8).foldr (fun b n => n <<< 8 ||| b.toUInt64) 0

/-- Loads, by opcode from `0x28`. -/
def loads : List LoadOp :=
  [⟨.i32, 4, .unsigned⟩, ⟨.i64, 8, .unsigned⟩, ⟨.f32, 4, .unsigned⟩, ⟨.f64, 8, .unsigned⟩,
   ⟨.i32, 1, .signed⟩, ⟨.i32, 1, .unsigned⟩, ⟨.i32, 2, .signed⟩, ⟨.i32, 2, .unsigned⟩,
   ⟨.i64, 1, .signed⟩, ⟨.i64, 1, .unsigned⟩, ⟨.i64, 2, .signed⟩, ⟨.i64, 2, .unsigned⟩,
   ⟨.i64, 4, .signed⟩, ⟨.i64, 4, .unsigned⟩]

/-- Stores, by opcode from `0x36`. -/
def stores : List StoreOp :=
  [⟨.i32, 4⟩, ⟨.i64, 8⟩, ⟨.f32, 4⟩, ⟨.f64, 8⟩, ⟨.i32, 1⟩, ⟨.i32, 2⟩, ⟨.i64, 1⟩, ⟨.i64, 2⟩,
   ⟨.i64, 4⟩]

/-- The integer comparisons of a width, in the order of their opcodes. -/
def intCompares (w : Width) : List Numeric :=
  [.intTest w, .intCompare w .eq, .intCompare w .ne, .intCompare w (.lt .signed),
   .intCompare w (.lt .unsigned), .intCompare w (.gt .signed), .intCompare w (.gt .unsigned),
   .intCompare w (.le .signed), .intCompare w (.le .unsigned), .intCompare w (.ge .signed),
   .intCompare w (.ge .unsigned)]

/-- The float comparisons of a width, in the order of their opcodes. -/
def floatCompares (w : Width) : List Numeric :=
  [FloatCompare.eq, .ne, .lt, .gt, .le, .ge].map (.floatCompare w)

/-- The integer operations of a width, in the order of their opcodes. -/
def intOps (w : Width) : List Numeric :=
  [IntUnary.clz, .ctz, .popcnt].map (.intUnary w) ++
  [IntBinary.add, .sub, .mul, .div .signed, .div .unsigned, .rem .signed, .rem .unsigned, .and, .or,
   .xor, .shl, .shr .signed, .shr .unsigned, .rotl, .rotr].map (.intBinary w)

/-- The float operations of a width, in the order of their opcodes. -/
def floatOps (w : Width) : List Numeric :=
  [FloatUnary.abs, .neg, .ceil, .floor, .trunc, .nearest, .sqrt].map (.floatUnary w) ++
  [FloatBinary.add, .sub, .mul, .div, .min, .max, .copysign].map (.floatBinary w)

/-- Truncations to an integer width, in the order of their opcodes. -/
def truncations (target : Width) (saturating : Bool) : List Conversion :=
  [.trunc target .w32 .signed saturating, .trunc target .w32 .unsigned saturating,
   .trunc target .w64 .signed saturating, .trunc target .w64 .unsigned saturating]

/-- Conversions of integers to a float width, in the order of their opcodes. -/
def converts (target : Width) : List Conversion :=
  [.convert target .w32 .signed, .convert target .w32 .unsigned, .convert target .w64 .signed,
   .convert target .w64 .unsigned]

/-- The conversions, in the order of their opcodes. -/
def conversions : List Conversion :=
  [Conversion.wrap] ++ truncations .w32 false ++
  [Conversion.extend .signed, .extend .unsigned] ++ truncations .w64 false ++
  converts .w32 ++ [Conversion.demote] ++ converts .w64 ++
  [Conversion.promote, .toBits .w32, .toBits .w64, .ofBits .w32, .ofBits .w64]

/-- The sign extensions, in the order of their opcodes. -/
def extensions : List Numeric :=
  [.intUnary .w32 .extend8, .intUnary .w32 .extend16, .intUnary .w64 .extend8,
   .intUnary .w64 .extend16, .intUnary .w64 .extend32]

/-- The operations on numbers, by opcode from `0x45`. -/
def numerics : Array Numeric :=
  (intCompares .w32 ++ intCompares .w64 ++ floatCompares .w32 ++ floatCompares .w64 ++
    intOps .w32 ++ intOps .w64 ++ floatOps .w32 ++ floatOps .w64 ++
    conversions.map Numeric.conversion ++ extensions).toArray

/-- The saturating truncations, by second opcode. -/
def saturating : Array Numeric :=
  ((truncations .w32 true ++ truncations .w64 true).map Numeric.conversion).toArray

/-- The longest table of branch targets. -/
def maxBranchTargets : Nat := 7654321

/-- An instruction behind the opcode `0xFC`. -/
def prefixedOp : Decoder Instr := do
  let code ← u32
  match code with
  | 8 => do let segment ← u32; return .memoryInit (← u32) segment
  | 9 => return .dataDrop (← u32)
  | 10 => do let target ← u32; return .memoryCopy target (← u32)
  | 11 => return .memoryFill (← u32)
  | 12 => do let segment ← u32; return .tableInit (← u32) segment
  | 13 => return .elemDrop (← u32)
  | 14 => do let target ← u32; return .tableCopy target (← u32)
  | 15 => return .tableGrow (← u32)
  | 16 => return .tableSize (← u32)
  | 17 => return .tableFill (← u32)
  | _ =>
    match saturating[code]? with
    | some n => return .numeric n
    | none => refuse (.badOpcode (0xFC00 + code))

/-- An instruction that opens no block, with the given opcode. -/
def plainOp (code : UInt8) : Decoder Instr := do
  match code with
  | 0x00 => return .unreachable
  | 0x01 => return .nop
  | 0x0C => return .br (← u32)
  | 0x0D => return .brIf (← u32)
  | 0x0E => do let labels ← vector maxBranchTargets u32; return .brTable labels (← u32)
  | 0x0F => return .ret
  | 0x10 => return .call (← u32)
  | 0x11 => do let type ← u32; return .callIndirect (← u32) type
  | 0x12 => return .tailCall (← u32)
  | 0x13 => do let type ← u32; return .tailCallIndirect (← u32) type
  | 0x1A => return .drop
  | 0x1B => return .select none
  | 0x1C => do
    match ← vector 1 valType with
    | [t] => return .select (some t)
    | _ => refuse (.badOpcode 0x1C)
  | 0x20 => return .localGet (← u32)
  | 0x21 => return .localSet (← u32)
  | 0x22 => return .localTee (← u32)
  | 0x23 => return .globalGet (← u32)
  | 0x24 => return .globalSet (← u32)
  | 0x25 => return .tableGet (← u32)
  | 0x26 => return .tableSet (← u32)
  | 0x3F => return .memorySize (← u32)
  | 0x40 => return .memoryGrow (← u32)
  | 0x41 => return .i32Const (Int32.ofInt (← signed 32)).toUInt32
  | 0x42 => return .i64Const (Int64.ofInt (← signed 64)).toUInt64
  | 0x43 => return .f32Const (← fixed32)
  | 0x44 => return .f64Const (← fixed64)
  | 0xD0 => return .refNull (← refType)
  | 0xD1 => return .refIsNull
  | 0xD2 => return .refFunc (← u32)
  | 0xFC => prefixedOp
  | 0xFD => vectorInstr
  | 0xFE => atomicInstr
  | _ =>
    let n := code.toNat
    if 0x28 ≤ n ∧ n < 0x36 then
      match loads[n - 0x28]? with
      | some l => return .load l (← memArg)
      | none => refuse (.badOpcode n)
    else if 0x36 ≤ n ∧ n < 0x3F then
      match stores[n - 0x36]? with
      | some s => return .store s (← memArg)
      | none => refuse (.badOpcode n)
    else if 0x45 ≤ n then
      match numerics[n - 0x45]? with
      | some o => return .numeric o
      | none => refuse (.badOpcode n)
    else refuse (.badOpcode n)

/-- One instruction. -/
def op : Decoder Op := do
  let start ← position
  let code ← byte
  match code with
  | 0x02 => return .block (← blockType)
  | 0x03 => return .loop (← blockType)
  | 0x04 => return .branch (← blockType)
  | 0x05 => return .otherwise
  | 0x0B => return .close
  | _ => return .plain start (← plainOp code)

/-- Instructions up to and with the first end, behind those already read. -/
def constantOps : (fuel : Nat) → (found : List Op) → Decoder (List Op)
  | 0, _ => refuse .unexpectedEnd
  | fuel + 1, found => do
    match ← op with
    | .close => return (.close :: found).reverse
    | o => constantOps fuel (o :: found)

/-- The code of an initial value or an offset. -/
def constant : Decoder (List Op) := fun s => constantOps s.rest.length [] s

/-- Instructions up to the end of the bytes. -/
def ops : Decoder (List Op) := fun s => toEnd op s.rest.length [] s

end ScriptSandbox.Wasm.Binary
