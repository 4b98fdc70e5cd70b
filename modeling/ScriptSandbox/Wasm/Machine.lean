import ScriptSandbox.Wasm.Lanes
import ScriptSandbox.Wasm.Memory
import ScriptSandbox.Wasm.Module
import ScriptSandbox.Wasm.Numeric

/-!
# The abstract machine

A running module is its store (memories, tables, globals, segments) and a stack of activations. Each
activation has its locals, its operand stack, the code still to run and the labels of the blocks
that are open. One step runs one instruction, leaves a block, or returns from a function. Calls of
imported functions are handed out, to be answered by whoever runs the machine.

## Main definitions

* `Wasm.Program`: a module made ready to run
* `Wasm.Store`, `Wasm.State`: what changes while it runs
* `Wasm.step`: one step
* `Wasm.run`: steps up to the next event
* `Wasm.invoke`: the start of a call from outside
* `Wasm.State.resume`: the answer to a call of an imported function
-/

namespace ScriptSandbox.Wasm

/-- A function made ready to run. -/
inductive Function where
  /-- An imported function, by its place among the imports. -/
  | imported (index : Nat) (type : FuncType)
  | defined (type : FuncType) (locals : List ValType) (body : List Code)
  deriving Inhabited

/-- The type of a function. -/
def Function.type : Function → FuncType
  | .imported _ t => t
  | .defined t _ _ => t

/-- A module made ready to run. -/
structure Program where
  types : Array FuncType
  functions : Array Function
  deriving Inhabited

/-- A table of references. -/
structure Table where
  type : ValType
  elements : Array (Option Nat)
  maximum : Option Nat
  deriving Inhabited

/-- The most elements that a table can have: as many as there are indices. -/
def tableIndexLimit : Nat := 0xFFFFFFFF

/-- Adds elements, if the table's type allows it. -/
def Table.grow (t : Table) (count : Nat) (r : Option Nat) : Option Table :=
  if t.elements.size + count ≤ t.maximum.getD tableIndexLimit then
    some { t with elements := t.elements ++ Array.replicate count r }
  else none

/-- Writes references from an index on. -/
def Table.write (t : Table) (index : Nat) : List (Option Nat) → Table
  | [] => t
  | r :: rs => Table.write { t with elements := t.elements.setIfInBounds index r } (index + 1) rs

/-- The parts of a running module that outlive a call. A dropped segment is empty. -/
structure Store where
  /-- The most pages that a memory may grow to. -/
  pageLimit : Nat
  memories : Array Memory
  tables : Array Table
  globals : Array Value
  elements : Array (List Value)
  data : Array (List UInt8)
  deriving Inhabited

/-- An open block. -/
structure Label where
  /-- The number of operands that a branch to the block carries. -/
  arity : Nat
  /-- The code that a branch goes on with. -/
  target : List Code
  /-- The code behind the end of the block. -/
  after : List Code
  /-- The operands below the block. -/
  below : List Value

/-- An activation that waits for a call to return. The call is the first instruction of its code. -/
structure Frame where
  function : Nat
  locals : Array Value
  stack : List Value
  code : List Code
  labels : List Label
  /-- The number of results. -/
  arity : Nat

/-- A running module: the store, the parts of the current activation and the waiting ones. -/
structure State where
  store : Store
  function : Nat
  locals : Array Value
  stack : List Value
  code : List Code
  labels : List Label
  arity : Nat
  callers : List Frame
  /-- How many more activations the call stack can hold. -/
  room : Nat

/-- The number of activations that the call stack can hold. -/
def maxActivations : Nat := 16384

/-- The result of a step. -/
inductive Step where
  | next (s : State)
  /-- The outermost call has returned. -/
  | returned (store : Store) (results : List Value)
  /-- An imported function is called, with its first argument first. -/
  | host (index : Nat) (args : List Value) (s : State)
  /-- The first instruction of the state's code cannot be run. -/
  | trapped (t : Trap) (s : State)
  /-- The state is not one of a valid module. -/
  | stuck

/-! ### Calls -/

/-- The first `n` of some operands, put on top of others. -/
def carry : (n : Nat) → (stack below : List Value) → List Value
  | 0, _, below => below
  | n + 1, v :: stack, below => v :: carry n stack below
  | _ + 1, [], below => below

/-- The arguments of a call, first one first, and the operands below them. -/
def arguments (n : Nat) (stack : List Value) : List Value × List Value :=
  ((stack.take n).reverse, stack.drop n)

/-- Starts an activation of a defined function. -/
def activate (s : State) (callers : List Frame) (function : Nat) (type : FuncType)
    (locals : List ValType) (body : List Code) (args : List Value) : Step :=
  if s.room = 0 then .trapped .stackExhausted s
  else .next { s with
    function
    locals := (args ++ locals.map Value.default).toArray
    stack := []
    code := body
    labels := []
    arity := type.results.length
    callers
    room := s.room - 1 }

/-- Calls a function with the arguments on top of the stack. -/
def call (p : Program) (s : State) (f : Nat) : Step :=
  match p.functions[f]? with
  | none => .stuck
  | some (.imported index type) =>
    let (args, stack) := arguments type.params.length s.stack
    .host index args { s with stack }
  | some (.defined type locals body) =>
    let (args, stack) := arguments type.params.length s.stack
    let caller : Frame := ⟨s.function, s.locals, stack, s.code, s.labels, s.arity⟩
    activate s (caller :: s.callers) f type locals body args

/-- Calls a function in place of the current activation. -/
def tailCall (p : Program) (s : State) (f : Nat) : Step :=
  match p.functions[f]? with
  | none => .stuck
  | some (.imported index type) =>
    let (args, _) := arguments type.params.length s.stack
    .host index args { s with stack := [], code := [], labels := [] }
  | some (.defined type locals body) =>
    let (args, _) := arguments type.params.length s.stack
    activate { s with room := s.room + 1 } s.callers f type locals body args

/-- The function that an indirect call reaches through a table. -/
def lookup (p : Program) (s : State) (table type : Nat) (i : UInt32) : Except Step Nat :=
  match s.store.tables[table]?, p.types[type]? with
  | some t, some expected =>
    match t.elements[i.toNat]? with
    | none => .error (.trapped .tableOutOfBounds s)
    | some none => .error (.trapped .uninitializedElement s)
    | some (some f) =>
      match p.functions[f]? with
      | none => .error .stuck
      | some g => if g.type = expected then .ok f else .error (.trapped .indirectTypeMismatch s)
  | _, _ => .error .stuck

/-- Returns from the current activation with the results on top of the stack. -/
def ret (s : State) : Step :=
  match s.callers with
  | [] => .returned s.store (s.stack.take s.arity).reverse
  | c :: callers => .next { s with
    function := c.function
    locals := c.locals
    stack := carry s.arity s.stack c.stack
    code := c.code.tail
    labels := c.labels
    arity := c.arity
    callers
    room := s.room + 1 }

/-- Continues after a call of an imported function with its results, first one first. -/
def State.resume (s : State) (results : List Value) : State :=
  { s with stack := results.reverse ++ s.stack, code := s.code.tail }

/-! ### Blocks -/

/-- Branches to an open block, or returns when the label is that of the function. -/
def branch (s : State) (label : Nat) : Step :=
  match s.labels.drop label with
  | [] => ret s
  | l :: labels => .next { s with
    stack := carry l.arity s.stack l.below
    code := l.target
    labels }

/-- Runs the end of the innermost block, or of the function. -/
def leave (s : State) : Step :=
  match s.labels with
  | [] => ret s
  | l :: labels => .next { s with
    stack := if s.stack.isEmpty then l.below else s.stack ++ l.below
    code := l.after
    labels }

/-- The numbers of operands and results of a block. -/
def blockArity (p : Program) : BlockType → Nat × Nat
  | .empty => (0, 0)
  | .value _ => (0, 1)
  | .index i =>
    match p.types[i]? with
    | some t => (t.params.length, t.results.length)
    | none => (0, 0)

/-- Opens a block with the given body, before the code `after` it. A branch to it carries `arity`
operands and goes on with `target`. -/
def enter (s : State) (params arity : Nat) (body target after : List Code) : Step :=
  .next { s with
    stack := carry params s.stack []
    code := body
    labels := ⟨arity, target, after, s.stack.drop params⟩ :: s.labels }

/-! ### Memories and tables -/

/-- The value that `n`, read from memory, stands for. -/
def loaded (op : LoadOp) (n : Nat) : Value :=
  let range := Nat.pow 2 (8 * op.bytes)
  let signed : Int := if range / 2 ≤ n then n - range else n
  match op.type, op.sign with
  | .i64, .signed => Width.w64.value signed
  | .i64, .unsigned => .i64 n.toUInt64
  | .f32, _ => .f32 n.toUInt32
  | .f64, _ => .f64 n.toUInt64
  | .v128, _ => .v128 (BitVec.ofNat _ n)
  | _, .signed => Width.w32.value signed
  | _, .unsigned => .i32 n.toUInt32

/-- The number that stands for a value in memory. -/
def stored : Value → Nat
  | .i32 v | .f32 v => v.toNat
  | .i64 v | .f64 v => v.toNat
  | .v128 v => v.toNat
  | _ => 0

/-- Changes one memory of a store. -/
def Store.modifyMemory (s : Store) (m : Nat) (f : Memory → Memory) : Store :=
  { s with memories := s.memories.modify m f }

/-- Changes one table of a store. -/
def Store.modifyTable (s : Store) (t : Nat) (f : Table → Table) : Store :=
  { s with tables := s.tables.modify t f }

/-- Reads a value at an address. -/
def load (s : State) (op : LoadOp) (arg : MemArg) (code : List Code) : Step :=
  match s.stack, s.store.memories[arg.memory]? with
  | .i32 base :: stack, some m =>
    let address := base.toNat + arg.offset
    if m.inBounds address op.bytes then
      .next { s with stack := loaded op (m.readNat address op.bytes) :: stack, code }
    else .trapped .memoryOutOfBounds s
  | _, _ => .stuck

/-- Whether a run of bytes lies inside a memory; `none` without that memory. -/
def Store.reaches? (s : Store) (memory address length : Nat) : Option Bool :=
  s.memories[memory]?.map (·.inBounds address length)

/-- Writes a value at an address. -/
def store (s : State) (op : StoreOp) (arg : MemArg) (code : List Code) : Step :=
  match s.stack with
  | v :: .i32 base :: stack =>
    let address := base.toNat + arg.offset
    match s.store.reaches? arg.memory address op.bytes with
    | some true => .next { s with
        store := s.store.modifyMemory arg.memory (·.writeNat address op.bytes (stored v))
        stack
        code }
    | some false => .trapped .memoryOutOfBounds s
    | none => .stuck
  | _ => .stuck

/-- Reads a number at an address and replaces the operands by a vector. -/
def loadVector (s : State) (bytes : Nat) (arg : MemArg) (vector : Nat → BitVec vectorBits)
    (base : UInt32) (stack : List Value) (code : List Code) : Step :=
  match s.store.memories[arg.memory]? with
  | some m =>
    let address := base.toNat + arg.offset
    if m.inBounds address bytes then
      .next { s with stack := .v128 (vector (m.readNat address bytes)) :: stack, code }
    else .trapped .memoryOutOfBounds s
  | none => .stuck

/-- Reads a vector from fewer bytes than it has. -/
def vectorLoad (s : State) (op : VectorLoad) (arg : MemArg) (code : List Code) : Step :=
  match s.stack with
  | .i32 base :: stack => loadVector s op.bytes arg op.vector base stack code
  | _ => .stuck

/-- Reads one lane of a vector. -/
def laneLoad (s : State) (w : LaneWidth) (lane : Nat) (arg : MemArg) (code : List Code) : Step :=
  match s.stack with
  | .v128 v :: .i32 base :: stack =>
    let vector (n : Nat) : BitVec vectorBits := ofLanes w.bits ((lanes w.bits v).set lane n)
    loadVector s (w.bits / 8) arg vector base stack code
  | _ => .stuck

/-- Writes one lane of a vector. -/
def laneStore (s : State) (w : LaneWidth) (lane : Nat) (arg : MemArg) (code : List Code) : Step :=
  match s.stack with
  | .v128 v :: .i32 base :: stack =>
    let address := base.toNat + arg.offset
    let n := (lanes w.bits v).getD lane 0
    match s.store.reaches? arg.memory address (w.bits / 8) with
    | some true => .next { s with
        store := s.store.modifyMemory arg.memory (·.writeNat address (w.bits / 8) n)
        stack
        code }
    | some false => .trapped .memoryOutOfBounds s
    | none => .stuck
  | _ => .stuck

/-- A number of a width, as a value. -/
def Width.number (w : Width) (n : Nat) : Value :=
  match w with
  | .w32 => .i32 n.toUInt32
  | .w64 => .i64 n.toUInt64

/-- How a wait at an address ends at once: the number there is another one, or no thread wakes it
before its time is over. -/
def waitResult (expected found : Nat) : UInt32 := if found = expected then 2 else 1

/-- What an atomic access does with the number at its address: the number that is written there, if
any, and the operands after it. The operands are those above the address. -/
def AtomicOp.apply (op : AtomicOp) (m : Memory) (old : Nat) (operands stack : List Value) :
    Except Trap (Option Nat × List Value) :=
  match op, operands with
  | .notify, _ => .ok (none, .i32 0 :: stack)
  | .wait w, [_, expected] =>
    if m.shared then .ok (none, .i32 (waitResult (stored expected % Nat.pow 2 w.bits) old) :: stack)
    else .error .waitNotShared
  | .store _ _, [v] => .ok (some (stored v), stack)
  | .update op w bytes, [v] =>
    .ok (some (op.eval (8 * bytes) old (stored v)), w.number old :: stack)
  | .compareExchange w bytes, [new, expected] =>
    let range := Nat.pow 2 (8 * bytes)
    let fits : Bool := old = stored expected % range
    .ok (if fits then some (stored new % range) else none, w.number old :: stack)
  | op, _ =>
    match op with
    | .load w _ => .ok (none, w.number old :: stack)
    | _ => .ok (none, stack)

/-- Runs an atomic access. -/
def atomic (s : State) (op : AtomicOp) (arg : MemArg) (code : List Code) : Step :=
  let above := op.type.params.length - 1
  match s.stack.drop above, s.store.memories[arg.memory]? with
  | .i32 base :: stack, some m =>
    let address := base.toNat + arg.offset
    if address % op.bytes ≠ 0 then .trapped .misalignedAtomic s
    else if !m.inBounds address op.bytes then .trapped .memoryOutOfBounds s
    else
      match op.apply m (m.readNat address op.bytes) (s.stack.take above) stack with
      | .error t => .trapped t s
      | .ok (none, stack) => .next { s with stack, code }
      | .ok (some n, stack) => .next { s with
          store := s.store.modifyMemory arg.memory (·.writeNat address op.bytes n)
          stack
          code }
  | _, _ => .stuck

/-- The number of pages of a memory. -/
def memorySize (s : State) (m : Nat) (code : List Code) : Step :=
  match s.store.memories[m]? with
  | some mem => .next { s with stack := .i32 mem.pageCount.toUInt32 :: s.stack, code }
  | none => .stuck

/-- The number that stands for a failed growth. -/
def growthRefused : UInt32 := 0xFFFFFFFF

/-- Adds pages to a memory and gives its old number of pages, or `growthRefused`. -/
def memoryGrow (s : State) (m : Nat) (code : List Code) : Step :=
  match s.stack, s.store.memories[m]? with
  | .i32 pages :: stack, some mem =>
    match mem.grow pages.toNat s.store.pageLimit with
    | some grown => .next { s with
        store := s.store.modifyMemory m fun _ => grown
        stack := .i32 mem.pageCount.toUInt32 :: stack
        code }
    | none => .next { s with stack := .i32 growthRefused :: stack, code }
  | _, _ => .stuck

/-- Writes one byte to a run of addresses. -/
def memoryFill (s : State) (m : Nat) (code : List Code) : Step :=
  match s.stack with
  | .i32 length :: .i32 b :: .i32 address :: stack =>
    match s.store.reaches? m address.toNat length.toNat with
    | some true => .next { s with
        store := s.store.modifyMemory m (·.fill address.toNat b.toUInt8 length.toNat)
        stack
        code }
    | some false => .trapped .memoryOutOfBounds s
    | none => .stuck
  | _ => .stuck

/-- Copies a run of bytes from one memory to another. -/
def memoryCopy (s : State) (target source : Nat) (code : List Code) : Step :=
  match s.stack, s.store.memories[source]? with
  | .i32 length :: .i32 start :: .i32 address :: stack, some from_ =>
    match s.store.reaches? target address.toNat length.toNat with
    | some true =>
      if from_.inBounds start.toNat length.toNat then
        let bytes := from_.readBytes start.toNat length.toNat
        .next { s with
          store := s.store.modifyMemory target (·.writeBytes address.toNat bytes)
          stack
          code }
      else .trapped .memoryOutOfBounds s
    | some false => .trapped .memoryOutOfBounds s
    | none => .stuck
  | _, _ => .stuck

/-- Copies a part of a data segment to a memory; `none` if either is too short. -/
def Store.initMemory (s : Store) (m : Nat) (bytes : List UInt8) (address start length : Nat) :
    Option Store :=
  if start + length ≤ bytes.length ∧ s.reaches? m address length = some true then
    some (s.modifyMemory m (·.writeBytes address ((bytes.drop start).take length)))
  else none

/-- Copies a part of an element segment to a table; `none` if either is too short. -/
def Store.initTable (s : Store) (t : Nat) (items : List Value) (index start length : Nat) :
    Option Store :=
  match s.tables[t]? with
  | none => none
  | some table =>
    if start + length ≤ items.length ∧ index + length ≤ table.elements.size then
      some (s.modifyTable t (·.write index (((items.drop start).take length).map Value.index)))
    else none

/-- Copies a part of a data segment to a memory. -/
def memoryInit (s : State) (m segment : Nat) (code : List Code) : Step :=
  match s.stack, s.store.data[segment]? with
  | .i32 length :: .i32 start :: .i32 address :: stack, some bytes =>
    match s.store.initMemory m bytes address.toNat start.toNat length.toNat with
    | some store => .next { s with store, stack, code }
    | none => .trapped .memoryOutOfBounds s
  | _, _ => .stuck

/-- Empties a data segment. -/
def dataDrop (s : State) (segment : Nat) (code : List Code) : Step :=
  .next { s with
    store := { s.store with data := s.store.data.setIfInBounds segment [] }
    code }

/-- The reference at an index of a table. -/
def tableGet (s : State) (t : Nat) (code : List Code) : Step :=
  match s.stack, s.store.tables[t]? with
  | .i32 i :: stack, some table =>
    match table.elements[i.toNat]? with
    | some r => .next { s with stack := Value.reference table.type r :: stack, code }
    | none => .trapped .tableOutOfBounds s
  | _, _ => .stuck

/-- Writes a reference to a run of indices of a table. -/
def tableWrite (s : State) (t index length : Nat) (r : Value) (stack : List Value)
    (code : List Code) : Step :=
  match s.store.tables[t]? with
  | some table =>
    if index + length ≤ table.elements.size then
      .next { s with
        store := s.store.modifyTable t (·.write index (List.replicate length r.index))
        stack
        code }
    else .trapped .tableOutOfBounds s
  | none => .stuck

/-- The number of elements of a table. -/
def tableSize (s : State) (t : Nat) (code : List Code) : Step :=
  match s.store.tables[t]? with
  | some table => .next { s with stack := .i32 table.elements.size.toUInt32 :: s.stack, code }
  | none => .stuck

/-- Adds elements to a table and gives its old number of elements, or `growthRefused`. -/
def tableGrow (s : State) (t : Nat) (code : List Code) : Step :=
  match s.stack, s.store.tables[t]? with
  | .i32 count :: r :: stack, some table =>
    match table.grow count.toNat r.index with
    | some grown => .next { s with
        store := s.store.modifyTable t fun _ => grown
        stack := .i32 table.elements.size.toUInt32 :: stack
        code }
    | none => .next { s with stack := .i32 growthRefused :: stack, code }
  | _, _ => .stuck

/-- Copies a run of references from one table to another. -/
def tableCopy (s : State) (target source : Nat) (code : List Code) : Step :=
  match s.stack, s.store.tables[target]?, s.store.tables[source]? with
  | .i32 length :: .i32 start :: .i32 index :: stack, some into, some from_ =>
    if start.toNat + length.toNat ≤ from_.elements.size ∧
        index.toNat + length.toNat ≤ into.elements.size then
      let items := (from_.elements.extract start.toNat (start.toNat + length.toNat)).toList
      .next { s with
        store := s.store.modifyTable target (·.write index.toNat items)
        stack
        code }
    else .trapped .tableOutOfBounds s
  | _, _, _ => .stuck

/-- Copies a part of an element segment to a table. -/
def tableInit (s : State) (t segment : Nat) (code : List Code) : Step :=
  match s.stack, s.store.elements[segment]? with
  | .i32 length :: .i32 start :: .i32 index :: stack, some items =>
    match s.store.initTable t items index.toNat start.toNat length.toNat with
    | some store => .next { s with store, stack, code }
    | none => .trapped .tableOutOfBounds s
  | _, _ => .stuck

/-- Empties an element segment. -/
def elemDrop (s : State) (segment : Nat) (code : List Code) : Step :=
  .next { s with
    store := { s.store with elements := s.store.elements.setIfInBounds segment [] }
    code }

/-! ### Steps -/

/-- Runs an instruction that opens no block; `code` is what follows it. -/
def execute (p : Program) (s : State) (code : List Code) : Instr → Step
  | .localGet i =>
    match s.locals[i]? with
    | some v => .next { s with stack := v :: s.stack, code }
    | none => .stuck
  | .i32Const v => .next { s with stack := .i32 v :: s.stack, code }
  | .numeric op =>
    match op.eval s.stack with
    | .ok (some stack) => .next { s with stack, code }
    | .ok none => .stuck
    | .error t => .trapped t s
  | .localSet i =>
    match s.stack with
    | v :: stack => .next { s with locals := s.locals.setIfInBounds i v, stack, code }
    | [] => .stuck
  | .localTee i =>
    match s.stack with
    | v :: _ => .next { s with locals := s.locals.setIfInBounds i v, code }
    | [] => .stuck
  | .br label => branch s label
  | .brIf label =>
    match s.stack with
    | .i32 c :: stack =>
      if c = 0 then .next { s with stack, code } else branch { s with stack } label
    | _ => .stuck
  | .brTable labels default =>
    match s.stack with
    -- an index beyond the labels takes the default
    | .i32 i :: stack => branch { s with stack } (labels.getD i.toNat default)
    | _ => .stuck
  | .load op arg => load s op arg code
  | .store op arg => store s op arg code
  | .call f => call p s f
  | .vector op =>
    match op.eval s.stack with
    | some stack => .next { s with stack, code }
    | none => .stuck
  | .vectorLoad op arg => vectorLoad s op arg code
  | .laneLoad w lane arg => laneLoad s w lane arg code
  | .laneStore w lane arg => laneStore s w lane arg code
  | .atomic op arg => atomic s op arg code
  | .fence => .next { s with code }
  | .callIndirect table type =>
    match s.stack with
    | .i32 i :: stack =>
      match lookup p s table type i with
      | .ok f => call p { s with stack } f
      | .error e => e
    | _ => .stuck
  | .tailCall f => tailCall p s f
  | .tailCallIndirect table type =>
    match s.stack with
    | .i32 i :: stack =>
      match lookup p s table type i with
      | .ok f => tailCall p { s with stack } f
      | .error e => e
    | _ => .stuck
  | .ret => ret s
  | .unreachable => .trapped .unreachable s
  | .nop => .next { s with code }
  | .drop =>
    match s.stack with
    | _ :: stack => .next { s with stack, code }
    | [] => .stuck
  | .select _ =>
    match s.stack with
    -- the lower one of the two values is taken unless the condition is zero
    | .i32 c :: b :: a :: stack => .next { s with stack := (if c = 0 then b else a) :: stack, code }
    | _ => .stuck
  | .globalGet i =>
    match s.store.globals[i]? with
    | some v => .next { s with stack := v :: s.stack, code }
    | none => .stuck
  | .globalSet i =>
    match s.stack with
    | v :: stack => .next { s with
        store := { s.store with globals := s.store.globals.setIfInBounds i v }
        stack
        code }
    | [] => .stuck
  | .tableGet t => tableGet s t code
  | .tableSet t =>
    match s.stack with
    | r :: .i32 i :: stack => tableWrite s t i.toNat 1 r stack code
    | _ => .stuck
  | .tableSize t => tableSize s t code
  | .tableGrow t => tableGrow s t code
  | .tableFill t =>
    match s.stack with
    | .i32 length :: r :: .i32 i :: stack => tableWrite s t i.toNat length.toNat r stack code
    | _ => .stuck
  | .tableCopy target source => tableCopy s target source code
  | .tableInit t segment => tableInit s t segment code
  | .elemDrop segment => elemDrop s segment code
  | .memorySize m => memorySize s m code
  | .memoryGrow m => memoryGrow s m code
  | .memoryFill m => memoryFill s m code
  | .memoryCopy target source => memoryCopy s target source code
  | .memoryInit m segment => memoryInit s m segment code
  | .dataDrop segment => dataDrop s segment code
  | .i64Const v => .next { s with stack := .i64 v :: s.stack, code }
  | .f32Const bits => .next { s with stack := .f32 bits :: s.stack, code }
  | .f64Const bits => .next { s with stack := .f64 bits :: s.stack, code }
  | .v128Const bits => .next { s with stack := .v128 bits :: s.stack, code }
  | .refNull t => .next { s with stack := Value.reference t none :: s.stack, code }
  | .refIsNull =>
    match s.stack with
    | r :: stack => .next { s with stack := truth r.index.isNone :: stack, code }
    | [] => .stuck
  | .refFunc f => .next { s with stack := .func (some f) :: s.stack, code }

/-- One step: an instruction, the start of a block, or the end of a block or function. -/
def step (p : Program) (s : State) : Step :=
  match s.code with
  | [] => leave s
  | .plain _ i :: code => execute p s code i
  | .block t body :: code =>
    let (params, results) := blockArity p t
    enter s params results body code code
  | .loop t body :: code =>
    let (params, _) := blockArity p t
    -- a branch to a loop goes on at its beginning, one to a block behind it
    enter s params params body s.code code
  | .branch t yes no :: code =>
    match s.stack with
    | .i32 c :: stack =>
      let (params, results) := blockArity p t
      enter { s with stack } params results (if c = 0 then no else yes) code code
    | _ => .stuck

/-- Up to `n` steps, as long as the module runs on by itself. With the number of steps that are left
comes the last one of those that were made. -/
def run (p : Program) : (n : Nat) → State → Nat × Step
  | 0, s => (0, .next s)
  | n + 1, s =>
    match step p s with
    | .next s => run p n s
    | last => (n, last)

/-- A call from outside, with the first argument first. -/
def invoke (p : Program) (store : Store) (f : Nat) (args : List Value) : Step :=
  let idle (arity : Nat) : State :=
    { store, function := f, locals := #[], stack := [], code := [], labels := [], arity,
      callers := [], room := maxActivations }
  match p.functions[f]? with
  | some (.imported index type) => .host index args (idle type.results.length)
  | some (.defined type locals body) => activate (idle 0) [] f type locals body args
  | none => .stuck

end ScriptSandbox.Wasm
