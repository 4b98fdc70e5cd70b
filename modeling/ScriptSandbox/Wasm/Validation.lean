import ScriptSandbox.Wasm.Module

/-!
# Validation of modules

Code is checked in one pass that keeps the types of the operands of the innermost open construct
and, for every construct around it, the operands it was opened above. After an instruction that
never falls through, operands of any type may be taken.

## Main definitions

* `Wasm.Checker`: the state of checking flat code
* `Wasm.checkBody`: whether the code of a function body is valid
* `Wasm.checkConstant`: whether the code of an initial value is valid
* `Wasm.Module.valid`: whether a module is valid
-/

namespace ScriptSandbox.Wasm

/-- The type of an operand; `none` when it may have any. -/
abbrev OperandType := Option ValType

/-- What opened a construct. -/
inductive Opener where
  | function
  | block
  | loop
  | yes
  | no
  deriving Repr, DecidableEq

/-- An open construct: its type and the operands below it. -/
structure Construct where
  opener : Opener
  type : FuncType
  outer : List OperandType
  /-- Whether the code around it had become unreachable. -/
  outerUnreachable : Bool
  deriving Repr, DecidableEq

/-- The types of the operands that a branch to a construct takes. -/
def Construct.labelTypes (c : Construct) : List ValType :=
  if c.opener = .loop then c.type.params else c.type.results

/-- The state of checking. Operands and constructs are kept innermost first. -/
structure Checker where
  operands : List OperandType
  unreachable : Bool
  opens : List Construct
  deriving Repr, DecidableEq

/-- What the code of a function may refer to. -/
structure Surroundings where
  module : Module
  functionTypes : Array Nat
  tables : Array TableType
  memories : Nat
  globals : Array GlobalType
  locals : Array ValType
  results : List ValType
  /-- The functions of which references may be taken. -/
  declared : Array Bool

/-- The type of a function. -/
def Surroundings.functionType? (e : Surroundings) (f : Nat) : Option FuncType := do
  e.module.types[← e.functionTypes[f]?]?

namespace Checker

/-- Takes an operand of any type. -/
def pop (c : Checker) : Option (OperandType × Checker) :=
  match c.operands with
  | t :: ts => some (t, { c with operands := ts })
  | [] => if c.unreachable then some (none, c) else none

/-- Takes an operand of the given type. -/
def take (c : Checker) (t : ValType) : Option Checker := do
  let (t', c) ← c.pop
  if t' = none ∨ t' = some t then some c else none

/-- Takes operands of the given types, of which the last is on top. -/
def takeAll (c : Checker) (ts : List ValType) : Option Checker :=
  ts.reverse.foldlM take c

/-- Adds an operand. -/
def push (c : Checker) (t : OperandType) : Checker := { c with operands := t :: c.operands }

/-- Adds operands of the given types. -/
def pushAll (c : Checker) (ts : List ValType) : Checker :=
  { c with operands := (ts.map some).reverse ++ c.operands }

/-- The state after an instruction that never falls through. -/
def stop (c : Checker) : Checker := { c with operands := [], unreachable := true }

/-- Replaces operands of one list of types by operands of another. -/
def apply (c : Checker) (params results : List ValType) : Option Checker := do
  return (← c.takeAll params).pushAll results

/-- The operand types of a branch. -/
def labelTypes (c : Checker) (label : Nat) : Option (List ValType) :=
  c.opens[label]?.map Construct.labelTypes

/-- Opens a construct. -/
def enter (c : Checker) (opener : Opener) (type : FuncType) : Option Checker := do
  let c ← c.takeAll type.params
  return {
    operands := (type.params.map some).reverse
    unreachable := false
    opens := ⟨opener, type, c.operands, c.unreachable⟩ :: c.opens }

/-- Takes the results of the innermost construct, below which nothing may be left. -/
def finish (c : Checker) : Option (Construct × Checker) :=
  match c.opens with
  | [] => none
  | k :: opens => do
    let c ← c.takeAll k.type.results
    if c.operands.isEmpty then some (k, { c with opens }) else none

/-- Goes on to the second arm of a two-way branch. -/
def switch (c : Checker) : Option Checker := do
  let (k, c) ← c.finish
  if k.opener = .yes then
    some {
      operands := (k.type.params.map some).reverse
      unreachable := false
      opens := { k with opener := .no } :: c.opens }
  else none

/-- Closes the innermost construct. Without a second arm, a two-way branch leaves its operands as
they are. -/
def leave (c : Checker) : Option Checker := do
  let (k, c) ← c.finish
  if k.opener = .yes ∧ k.type.params ≠ k.type.results then none
  else
    some { operands := (k.type.results.map some).reverse ++ k.outer
           unreachable := k.outerUnreachable
           opens := c.opens }

/-- Takes the operands of a branch and puts them back, as every target of a table does. -/
def passes (c : Checker) (ts : List ValType) : Bool := (c.takeAll ts).isSome

/-- Checks a branch table: all targets take equally many operands of fitting types. -/
def branchTable (c : Checker) (labels : List Nat) (default : Nat) : Option Checker := do
  let c ← c.take .i32
  let expected ← c.labelTypes default
  for label in labels do
    let ts ← c.labelTypes label
    if ts.length ≠ expected.length ∨ !c.passes ts then none
  return (← c.takeAll expected).stop

/-- Checks a selection of operands whose type is not given. -/
def untypedSelect (c : Checker) : Option Checker := do
  let c ← c.take .i32
  let (a, c) ← c.pop
  let (b, c) ← c.pop
  let numeric (t : OperandType) : Bool := t.all fun t => !t.isReference
  if numeric a ∧ numeric b ∧ (a = none ∨ b = none ∨ a = b) then
    some (c.push (if a = none then b else a))
  else none

/-- Checks the operands of a call. -/
def call (c : Checker) (t : FuncType) : Option Checker := c.apply t.params t.results

/-- Checks a call whose results are those of the function around it. -/
def tailCall (c : Checker) (e : Surroundings) (t : FuncType) : Option Checker := do
  if t.results ≠ e.results then none
  else return (← c.takeAll t.params).stop

/-- The function type of an indirect call through a table. -/
def indirectType (e : Surroundings) (table type : Nat) : Option FuncType := do
  if (← e.tables[table]?).element = .funcref then e.module.types[type]? else none

/-- Succeeds if a memory exists. -/
def memory (e : Surroundings) (m : Nat) : Option Unit := if m < e.memories then some () else none

/-- Succeeds if a memory operand names a memory and promises no more than natural alignment. -/
def memArg (e : Surroundings) (a : MemArg) (bytes : Nat) : Option Unit :=
  if a.memory < e.memories ∧ Nat.pow 2 a.align ≤ bytes then some () else none

/-- Succeeds if a memory operand names a memory and promises exactly natural alignment. -/
def atomicArg (e : Surroundings) (a : MemArg) (bytes : Nat) : Option Unit :=
  if a.memory < e.memories ∧ Nat.pow 2 a.align = bytes then some () else none

/-- Succeeds if the lane of an access to a part of a vector exists. -/
def laneArg (w : LaneWidth) (lane : Nat) : Option Unit :=
  if lane < (Lane.int w).count then some () else none

/-- Succeeds if a data segment exists; their number must have been announced. -/
def dataSegment (e : Surroundings) (segment : Nat) : Option Unit := do
  if segment < (← e.module.dataCount) then some () else none

/-- Checks an instruction that opens no block. -/
def instr (e : Surroundings) (c : Checker) : Instr → Option Checker
  | .unreachable => some c.stop
  | .nop => some c
  -- behind a jump nothing is reached, and operands may have any type
  | .br label => do return (← c.takeAll (← c.labelTypes label)).stop
  | .brIf label => do
    let ts ← c.labelTypes label
    (← c.take .i32).apply ts ts
  | .brTable labels default => c.branchTable labels default
  | .ret => do return (← c.takeAll e.results).stop
  | .call f => do c.call (← e.functionType? f)
  | .callIndirect table type => do (← c.take .i32).call (← indirectType e table type)
  | .tailCall f => do c.tailCall e (← e.functionType? f)
  | .tailCallIndirect table type => do
    (← c.take .i32).tailCall e (← indirectType e table type)
  | .drop => do return (← c.pop).2
  | .select none => c.untypedSelect
  | .select (some t) => c.apply [t, t, .i32] [t]
  | .localGet i => do return c.push (← e.locals[i]?)
  | .localSet i => do c.take (← e.locals[i]?)
  | .localTee i => do
    let t ← e.locals[i]?
    c.apply [t] [t]
  | .globalGet i => do return c.push (← e.globals[i]?).value
  | .globalSet i => do
    let g ← e.globals[i]?
    if g.mutable then c.take g.value else none
  | .tableGet t => do c.apply [.i32] [(← e.tables[t]?).element]
  | .tableSet t => do c.apply [.i32, (← e.tables[t]?).element] []
  | .tableSize t => do
    let _ ← e.tables[t]?
    return c.push (some .i32)
  | .tableGrow t => do c.apply [(← e.tables[t]?).element, .i32] [.i32]
  | .tableFill t => do c.apply [.i32, (← e.tables[t]?).element, .i32] []
  | .tableCopy target source => do
    -- references are only copied between tables of one type
    if (← e.tables[target]?).element = (← e.tables[source]?).element then
      c.apply [.i32, .i32, .i32] []
    else none
  | .tableInit t segment => do
    if (← e.tables[t]?).element = (← e.module.elements[segment]?).type then
      c.apply [.i32, .i32, .i32] []
    else none
  | .elemDrop segment => do
    let _ ← e.module.elements[segment]?
    return c
  | .load op arg => do
    memArg e arg op.bytes
    c.apply [.i32] [op.type]
  | .store op arg => do
    memArg e arg op.bytes
    c.apply [.i32, op.type] []
  | .vectorLoad op arg => do
    memArg e arg op.bytes
    c.apply [.i32] [.v128]
  | .laneLoad w lane arg => do
    memArg e arg (w.bits / 8)
    laneArg w lane
    c.apply [.i32, .v128] [.v128]
  | .laneStore w lane arg => do
    memArg e arg (w.bits / 8)
    laneArg w lane
    c.apply [.i32, .v128] []
  | .atomic op arg => do
    atomicArg e arg op.bytes
    c.apply op.type.params op.type.results
  | .fence => some c
  | .memorySize m => do
    memory e m
    return c.push (some .i32)
  | .memoryGrow m => do
    memory e m
    c.apply [.i32] [.i32]
  | .memoryFill m => do
    memory e m
    c.apply [.i32, .i32, .i32] []
  | .memoryCopy target source => do
    memory e target
    memory e source
    c.apply [.i32, .i32, .i32] []
  | .memoryInit m segment => do
    memory e m
    dataSegment e segment
    c.apply [.i32, .i32, .i32] []
  | .dataDrop segment => do
    dataSegment e segment
    return c
  | .i32Const _ => some (c.push (some .i32))
  | .i64Const _ => some (c.push (some .i64))
  | .f32Const _ => some (c.push (some .f32))
  | .f64Const _ => some (c.push (some .f64))
  | .v128Const _ => some (c.push (some .v128))
  | .refNull t => some (c.push (some t))
  | .refIsNull => do
    let (t, c) ← c.pop
    if t.all ValType.isReference then some (c.push (some .i32)) else none
  -- code may only refer to functions that the module declares for it
  | .refFunc f => if (e.declared[f]?).getD false then some (c.push (some .funcref)) else none
  | .numeric op => c.apply op.type.params op.type.results
  | .vector op => if op.lanesExist then c.apply op.type.params op.type.results else none

/-- Checks one instruction of flat code. None may follow the function's own end. -/
def op (e : Surroundings) (c : Checker) (o : Op) : Option Checker :=
  if c.opens.isEmpty then none
  else
    match o with
    | .block t => do c.enter .block (← e.module.blockType? t)
    | .loop t => do c.enter .loop (← e.module.blockType? t)
    | .branch t => do (← c.take .i32).enter .yes (← e.module.blockType? t)
    | .otherwise => c.switch
    | .close => c.leave
    | .plain _ i => c.instr e i

end Checker

/-- Whether the code of a function body is valid. It leaves exactly the function's results. -/
def checkBody (e : Surroundings) (ops : List Op) : Bool :=
  let start : Checker := ⟨[], false, [⟨.function, ⟨[], e.results⟩, [], false⟩]⟩
  match ops.foldlM (Checker.op e) start with
  | some c => c.opens.isEmpty
  | none => false

/-- Checks one instruction of an initial value, on the types of the values computed so far. Only
constants, references, immutable imported globals and integer sums and products may occur. -/
def checkConstantOp (m : Module) (functions : Nat) (types : List ValType) :
    Op → Option (List ValType)
  | .plain _ (.i32Const _) => some (.i32 :: types)
  | .plain _ (.i64Const _) => some (.i64 :: types)
  | .plain _ (.f32Const _) => some (.f32 :: types)
  | .plain _ (.f64Const _) => some (.f64 :: types)
  | .plain _ (.v128Const _) => some (.v128 :: types)
  | .plain _ (.refNull t) => some (t :: types)
  | .plain _ (.refFunc f) => if f < functions then some (.funcref :: types) else none
  | .plain _ (.globalGet i) => do
    let g ← m.importedGlobals[i]?
    if g.mutable then none else some (g.value :: types)
  | .plain _ (.numeric (.intBinary w op)) =>
    match types with
    | a :: b :: types =>
      if (op = .add ∨ op = .sub ∨ op = .mul) ∧ a = w.int ∧ b = w.int then some (a :: types)
      else none
    | _ => none
  | .close => some types
  | _ => none

/-- Whether code computes one value of the given type. -/
def checkConstant (m : Module) (functions : Nat) (type : ValType) (ops : List Op) : Bool :=
  ops.foldlM (checkConstantOp m functions) [] = some [type]

/-- The functions that code takes references of. -/
def referenced (ops : List Op) : List Nat :=
  ops.filterMap fun
    | .plain _ (.refFunc f) => some f
    | _ => none

/-- Whether limits are ordered and within a bound. -/
def Limits.valid (l : Limits) (bound : Nat) : Bool :=
  l.minimum ≤ bound && l.maximum.all (fun n => l.minimum ≤ n)

/-- The greatest number of elements a table starts with. -/
def maxTableElements : Nat := 10000000

namespace Module

/-- Whether memory limits are valid: minimum and maximum fit a 32-bit address space. -/
def memoryValid (t : MemoryType) : Bool :=
  t.limits.valid maxPages && t.limits.maximum.all (fun n => n ≤ maxPages)

/-- Whether an import is valid. -/
def importValid (m : Module) (i : Import) : Bool :=
  match i.kind with
  | .function t => t < m.types.size
  | .table t => t.limits.valid maxTableElements
  | .memory t => memoryValid t
  | .global _ => true

/-- The functions of which references may be taken in code: those that exports, element segments or
initial values mention. -/
def declared (m : Module) (functions : Nat) : Array Bool :=
  let exported := m.exports.toList.filterMap fun e => match e.kind with
    | .function f => some f
    | _ => none
  let segments := m.elements.toList.flatMap fun s => s.items.flatMap referenced
  let globals := m.globals.toList.flatMap fun g => referenced g.init
  (exported ++ segments ++ globals).foldl (fun a f => a.setIfInBounds f true)
    (Array.replicate functions false)

/-- Whether an export names something that exists. -/
def exportValid (m : Module) (functions : Nat) (e : Export) : Bool :=
  match e.kind with
  | .function i => i < functions
  | .table i => i < m.tableTypes.size
  | .memory i => i < m.memoryTypes.size
  | .global i => i < m.globalTypes.size

/-- Whether no two exports share a name. -/
def exportsDistinct (m : Module) : Bool :=
  let names := (m.exports.map (·.name)).toList.mergeSort fun a b => decide (a ≤ b)
  (names.zip names.tail).all fun (a, b) => a ≠ b

/-- Whether a segment's offset is valid for a target of the given number. -/
def modeValid (m : Module) (functions targets : Nat) : SegmentMode → Bool
  | .active target offset => target < targets && checkConstant m functions .i32 offset
  | .passive | .declarative => true

/-- Whether an element segment is valid: an active one holds references of its table's type. -/
def elementValid (m : Module) (functions : Nat) (s : ElementSegment) : Bool :=
  let fits : Bool := match s.mode with
    | .active target _ => (m.tableTypes[target]?).any (·.element = s.type)
    | _ => true
  fits && modeValid m functions m.tableTypes.size s.mode &&
    s.items.all (checkConstant m functions s.type)

/-- The greatest number of local variables of a function, its parameters among them. -/
def maxLocals : Nat := 50000

/-- Whether the body of the function with a type is valid. -/
def bodyValid (m : Module) (e : Surroundings) (type : Nat) (b : Body) : Bool :=
  match m.types[type]? with
  | none => false
  | some t =>
    t.params.length + b.localCount ≤ maxLocals &&
      -- the parameters are the first locals
      checkBody { e with locals := (t.params ++ b.localTypes).toArray, results := t.results } b.ops

/-- Whether a module is valid. -/
def valid (m : Module) : Bool :=
  let functionTypes := m.functionTypes
  let functions := functionTypes.size
  let e : Surroundings := {
    module := m
    functionTypes
    tables := m.tableTypes
    memories := m.memoryTypes.size
    globals := m.globalTypes
    locals := #[]
    results := []
    declared := m.declared functions }
  m.imports.all (importValid m) &&
  functionTypes.all (· < m.types.size) &&
  m.tables.all (·.limits.valid maxTableElements) &&
  m.memories.all memoryValid &&
  m.globals.all (fun g => checkConstant m functions g.type.value g.init) &&
  m.exports.all (exportValid m functions) &&
  m.exportsDistinct &&
  -- the function at the start neither takes nor gives anything
  m.start.all (fun f => m.functionType? f = some ⟨[], []⟩) &&
  m.elements.all (elementValid m functions) &&
  m.data.all (fun s => modeValid m functions e.memories s.mode) &&
  (m.functions.zip m.bodies).all fun (t, b) => bodyValid m e t b

end Module

end ScriptSandbox.Wasm
