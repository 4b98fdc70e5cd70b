import ScriptSandbox.Wasm.Machine

/-!
# Instantiation of modules

A valid module whose only imports are functions becomes a program, which is the same for every run,
and a store, which is new for every run. The memories of a store start at their declared minimum, if
the limit allows that; then the active element segments and the active data segments are copied.

## Main definitions

* `Wasm.Program.ofModule?`: the program of a module
* `Wasm.Refusal`: why a module cannot be instantiated
* `Wasm.instantiate`: the store with which a module starts
-/

namespace ScriptSandbox.Wasm

/-! ### Programs -/

/-- The imported functions among imports, with their places. -/
def importedFunctions? (m : Module) : Option (Array Function) :=
  m.imports.foldlM (fun fs i => match i.kind with
    | .function t => do return fs.push (.imported fs.size (← m.types[t]?))
    | _ => none) #[]

/-- A defined function made ready to run. -/
def Function.ofBody? (m : Module) (type : Nat) (b : Body) : Option Function := do
  return .defined (← m.types[type]?) b.localTypes (← Code.ofOps? b.ops)

/-- The program of a module whose imports are all functions. -/
def Program.ofModule? (m : Module) : Option Program := do
  let imported ← importedFunctions? m
  let defined ← (m.functions.zip m.bodies).mapM fun (t, b) => Function.ofBody? m t b
  return { types := m.types, functions := imported ++ defined }

/-! ### Initial values -/

/-- Runs one instruction of an initial value on the values computed so far. -/
def constantStep (stack : List Value) : Op → Option (List Value)
  | .plain _ (.i32Const v) => some (.i32 v :: stack)
  | .plain _ (.i64Const v) => some (.i64 v :: stack)
  | .plain _ (.f32Const bits) => some (.f32 bits :: stack)
  | .plain _ (.f64Const bits) => some (.f64 bits :: stack)
  | .plain _ (.v128Const bits) => some (.v128 bits :: stack)
  | .plain _ (.refNull t) => some (Value.reference t none :: stack)
  | .plain _ (.refFunc f) => some (.func (some f) :: stack)
  | .plain _ (.numeric op) =>
    match op.eval stack with
    | .ok stack => stack
    | .error _ => none
  | .close => some stack
  | _ => none

/-- The value that constant code computes. -/
def constant? (ops : List Op) : Option Value := do
  match ← ops.foldlM constantStep [] with
  | [v] => some v
  | _ => none

/-- The address or index that constant code computes. -/
def offset? (ops : List Op) : Option Nat := do
  match ← constant? ops with
  | .i32 n => some n.toNat
  | _ => none

/-! ### Stores -/

/-- Why a module cannot be instantiated. -/
inductive Refusal where
  /-- The minimum of a memory exceeds the limit. -/
  | memoryTooLarge (pages : Nat)
  | trapped (t : Trap)
  /-- The module is not valid. -/
  | invalid
  deriving Repr, DecidableEq

/-- The wording of a refusal. -/
def Refusal.message : Refusal → String
  | .memoryTooLarge pages => s!"memory minimum size of {pages} pages exceeds memory limits"
  | .trapped t => s!"wasm trap: {t.message}"
  | .invalid => "invalid module"

/-- A value, or a refusal without it. -/
def orRefuse {α : Type} (r : Refusal) : Option α → Except Refusal α
  | some a => .ok a
  | none => .error r

/-- The memories with which a module starts. -/
def startMemories (m : Module) (pageLimit : Nat) : Except Refusal (Array Memory) :=
  m.memories.mapM fun ⟨l, shared⟩ =>
    if l.minimum ≤ pageLimit then .ok (Memory.zeros l.minimum l.maximum shared)
    else .error (.memoryTooLarge l.minimum)

/-- A table of nulls. -/
def Table.ofType (t : TableType) : Table :=
  ⟨t.element, Array.replicate t.limits.minimum none, t.limits.maximum⟩

/-- The references of an element segment. -/
def ElementSegment.values? (s : ElementSegment) : Option (List Value) := s.items.mapM constant?

/-- Copies an active element segment to its table. -/
def copyElements (store : Store) (s : ElementSegment) : Except Refusal Store :=
  match s.mode with
  | .active t offset => do
    let index ← orRefuse .invalid (offset? offset)
    let items ← orRefuse .invalid s.values?
    orRefuse (.trapped .tableOutOfBounds) (store.initTable t items index 0 items.length)
  | _ => .ok store

/-- Copies an active data segment to its memory. -/
def copyData (store : Store) (s : DataSegment) : Except Refusal Store :=
  match s.mode with
  | .active m offset => do
    let address ← orRefuse .invalid (offset? offset)
    orRefuse (.trapped .memoryOutOfBounds)
      (store.initMemory m s.bytes address 0 s.bytes.length)
  | _ => .ok store

/-- The segments that code may still copy from: the passive ones. -/
def passiveElements (s : ElementSegment) : Except Refusal (List Value) :=
  match s.mode with
  | .passive => orRefuse .invalid s.values?
  | _ => .ok []

/-- The store with which a module starts, its memories bounded by `pageLimit` pages each. -/
def instantiate (m : Module) (pageLimit : Nat) : Except Refusal Store := do
  let memories ← startMemories m pageLimit
  let globals ← m.globals.mapM fun g => orRefuse .invalid (constant? g.init)
  let elements ← m.elements.mapM passiveElements
  let store : Store := {
    pageLimit
    memories
    tables := m.tables.map Table.ofType
    globals
    elements
    -- what is active is copied below, and is not there for code to copy
    data := m.data.map fun s => match s.mode with
      | .passive => s.bytes
      | _ => [] }
  -- tables are filled before memories, either in the order of the segments
  let store ← m.elements.foldlM copyElements store
  m.data.foldlM copyData store

end ScriptSandbox.Wasm
