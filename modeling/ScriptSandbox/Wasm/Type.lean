/-!
# WebAssembly types

The types of values, functions, tables, memories and globals, with the text in which type
disagreements are reported.
-/

namespace ScriptSandbox.Wasm

/-- The type of a value. -/
inductive ValType where
  | i32
  | i64
  | f32
  | f64
  | v128
  | funcref
  | externref
  deriving Repr, DecidableEq, Inhabited

namespace ValType

/-- The name of a value type. -/
def text : ValType → String
  | .i32 => "i32"
  | .i64 => "i64"
  | .f32 => "f32"
  | .f64 => "f64"
  | .v128 => "v128"
  | .funcref => "funcref"
  | .externref => "externref"

/-- Whether values of the type are references. -/
def isReference : ValType → Bool
  | .funcref | .externref => true
  | _ => false

end ValType

/-- The type of a function. -/
structure FuncType where
  params : List ValType
  results : List ValType
  deriving Repr, DecidableEq, Inhabited

/-- A function type as text: parameters and results are mentioned only if there are any. -/
def FuncType.text (t : FuncType) : String :=
  let part (name : String) (ts : List ValType) : String :=
    if ts.isEmpty then "" else " (" ++ " ".intercalate (name :: ts.map ValType.text) ++ ")"
  "(func" ++ part "param" t.params ++ part "result" t.results ++ ")"

/-- A size between a minimum and an optional maximum. -/
structure Limits where
  minimum : Nat
  maximum : Option Nat
  deriving Repr, DecidableEq, Inhabited

/-- The type of a table. -/
structure TableType where
  element : ValType
  limits : Limits
  deriving Repr, DecidableEq, Inhabited

/-- The type of a global. -/
structure GlobalType where
  value : ValType
  mutable : Bool
  deriving Repr, DecidableEq, Inhabited

/-- The type of a block: nothing, one result, or a function type of the module. -/
inductive BlockType where
  | empty
  | value (t : ValType)
  | index (i : Nat)
  deriving Repr, DecidableEq, Inhabited

/-- The type of a memory: its size in pages, and whether threads share it. -/
structure MemoryType where
  limits : Limits
  shared : Bool
  deriving Repr, DecidableEq, Inhabited

/-- The greatest number of pages of a 32-bit memory. -/
def maxPages : Nat := 65536

/-- The bytes of a page. -/
def pageBytes : Nat := 65536

end ScriptSandbox.Wasm
