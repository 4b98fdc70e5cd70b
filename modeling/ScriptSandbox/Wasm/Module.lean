import ScriptSandbox.Wasm.Instruction

/-!
# WebAssembly modules

A module as its binary form describes it, with the names it gives to its parts, and the index spaces
in which imports come before definitions.
-/

namespace ScriptSandbox.Wasm

/-- What an import stands for. -/
inductive ImportKind where
  | function (type : Nat)
  | table (t : TableType)
  | memory (t : MemoryType)
  | global (t : GlobalType)
  deriving Repr, DecidableEq

/-- An import: where it comes from and what is wanted. -/
structure Import where
  origin : String
  name : String
  kind : ImportKind
  deriving Repr, DecidableEq

/-- What an export gives out. -/
inductive ExportKind where
  | function (i : Nat)
  | table (i : Nat)
  | memory (i : Nat)
  | global (i : Nat)
  deriving Repr, DecidableEq

/-- An export. -/
structure Export where
  name : String
  kind : ExportKind
  deriving Repr, DecidableEq

/-- A global with the code of its initial value. -/
structure Global where
  type : GlobalType
  init : List Op
  deriving Repr, DecidableEq

/-- How a segment is used. -/
inductive SegmentMode where
  /-- Copied into a table or memory at instantiation, at the offset its code computes. -/
  | active (target : Nat) (offset : List Op)
  | passive
  /-- Only declares functions whose references may be taken. -/
  | declarative
  deriving Repr, DecidableEq

/-- An element segment: the code of each reference. -/
structure ElementSegment where
  type : ValType
  items : List (List Op)
  mode : SegmentMode
  deriving Repr, DecidableEq

/-- A data segment. -/
structure DataSegment where
  bytes : List UInt8
  mode : SegmentMode
  deriving Repr, DecidableEq

/-- A function body: runs of local variables of one type, and its code. -/
structure Body where
  locals : List (Nat × ValType)
  ops : List Op
  deriving Repr, DecidableEq

/-- The number of local variables of a body. -/
def Body.localCount (b : Body) : Nat := b.locals.foldl (fun n l => n + l.1) 0

/-- The types of the local variables of a body. -/
def Body.localTypes (b : Body) : List ValType := b.locals.flatMap fun (n, t) => List.replicate n t

/-- The names that a module gives to itself and to its functions. -/
structure Names where
  module? : Option String := none
  /-- The functions that have a name, the one named last first. -/
  functions : List (Nat × String) := []
  deriving Repr, DecidableEq

/-- The name of a function: the last one it was given. -/
def Names.function? (n : Names) (i : Nat) : Option String := n.functions.lookup i

/-- A module. -/
structure Module where
  types : Array FuncType := #[]
  imports : Array Import := #[]
  /-- The type index of every defined function. -/
  functions : Array Nat := #[]
  tables : Array TableType := #[]
  memories : Array MemoryType := #[]
  globals : Array Global := #[]
  exports : Array Export := #[]
  start : Option Nat := none
  elements : Array ElementSegment := #[]
  /-- The announced number of data segments. -/
  dataCount : Option Nat := none
  bodies : Array Body := #[]
  data : Array DataSegment := #[]
  names : Names := {}
  /-- Whether it holds descriptions of its source for debuggers. -/
  describesSource : Bool := false
  deriving Repr, DecidableEq

namespace Module

/-- The type indices of all functions, imported ones first. -/
def functionTypes (m : Module) : Array Nat :=
  m.imports.filterMap (fun i => match i.kind with
    | .function t => some t
    | _ => none) ++ m.functions

/-- The types of all tables, imported ones first. -/
def tableTypes (m : Module) : Array TableType :=
  m.imports.filterMap (fun i => match i.kind with
    | .table t => some t
    | _ => none) ++ m.tables

/-- The types of all memories, imported ones first. -/
def memoryTypes (m : Module) : Array MemoryType :=
  m.imports.filterMap (fun i => match i.kind with
    | .memory t => some t
    | _ => none) ++ m.memories

/-- The types of the imported globals. -/
def importedGlobals (m : Module) : Array GlobalType :=
  m.imports.filterMap fun i => match i.kind with
    | .global t => some t
    | _ => none

/-- The types of all globals, imported ones first. -/
def globalTypes (m : Module) : Array GlobalType :=
  m.importedGlobals ++ m.globals.map (·.type)

/-- The type of a function. -/
def functionType? (m : Module) (i : Nat) : Option FuncType := do
  m.types[← m.functionTypes[i]?]?

/-- What is exported under a name. -/
def export? (m : Module) (name : String) : Option ExportKind :=
  (m.exports.find? (·.name = name)).map (·.kind)

/-- The type a block type stands for. -/
def blockType? (m : Module) : BlockType → Option FuncType
  | .empty => some ⟨[], []⟩
  | .value t => some ⟨[], [t]⟩
  | .index i => m.types[i]?

end Module

end ScriptSandbox.Wasm
