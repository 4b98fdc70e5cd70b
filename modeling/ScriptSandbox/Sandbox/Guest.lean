import ScriptSandbox.Wasi.Function
import ScriptSandbox.Wasm.Binary.Module
import ScriptSandbox.Wasm.Instantiation
import ScriptSandbox.Wasm.Validation

/-!
# Compiled guests

A guest is compiled once, from a byte string, and then run any number of times. Its imports must be
host functions of the right types. Names are resolved first, in the order of the module, and types
are compared afterwards.

## Main definitions

* `Sandbox.LinkError`: why a module does not fit the host functions
* `Sandbox.Guest`: a compiled guest
* `Sandbox.Guest.compile`: the guest in a byte string
-/

namespace ScriptSandbox.Sandbox

open Wasm (FuncType Import ImportKind Module)

/-! ### Linking -/

/-- What an import wants to be given. -/
inductive Kind where
  | function
  | table
  | memory
  | global
  deriving Repr, DecidableEq

/-- The name of a kind. -/
def Kind.text : Kind → String
  | .function => "function"
  | .table => "table"
  | .memory => "memory"
  | .global => "global"

/-- Why an import does not fit the host function of its name. -/
inductive Mismatch where
  | kind (wanted : Kind)
  | type (wanted found : FuncType)
  deriving Repr, DecidableEq

/-- The wording of a mismatch. -/
def Mismatch.message : Mismatch → String
  | .kind wanted => "expected " ++ wanted.text ++ ", but found " ++ Kind.function.text
  | .type wanted found =>
    "types incompatible: expected type `" ++ wanted.text ++ "`, found type `" ++ found.text ++ "`"

/-- Why a module does not fit the host functions. -/
inductive LinkError where
  | unknown (origin name : String)
  | incompatible (origin name : String) (m : Mismatch)
  deriving Repr, DecidableEq

/-- The wording of a link error. -/
def LinkError.message : LinkError → String
  | .unknown origin name => s!"unknown import: `{origin}::{name}` has not been defined"
  | .incompatible origin name m =>
    s!"incompatible import type for `{origin}::{name}`: " ++ m.message

/-- The host function an import names. -/
def resolve (i : Import) : Except LinkError Wasi.Function :=
  match if i.origin = Wasi.origin then Wasi.Function.ofName? i.name else none with
  | some f => .ok f
  | none => .error (.unknown i.origin i.name)

/-- How an import differs from a host function. -/
def mismatch? (m : Module) (f : Wasi.Function) : ImportKind → Option Mismatch
  | .function t =>
    let wanted := (m.types[t]?).getD default
    if wanted = f.type then none else some (.type wanted f.type)
  | .table _ => some (.kind .table)
  | .memory _ => some (.kind .memory)
  | .global _ => some (.kind .global)

/-- Succeeds if an import fits a host function. -/
def fit (m : Module) (i : Import) (f : Wasi.Function) : Except LinkError Unit :=
  match mismatch? m f i.kind with
  | none => .ok ()
  | some d => .error (.incompatible i.origin i.name d)

/-- The host functions that a module imports. -/
def link (m : Module) : Except LinkError (Array Wasi.Function) := do
  let functions ← m.imports.mapM resolve
  (m.imports.zip functions).forM fun (i, f) => fit m i f
  return functions

/-! ### Compiling -/

/-- Why a byte string is not a guest. -/
inductive CompileError where
  /-- The bytes are not a valid module. -/
  | compileFailed
  | linkFailed (e : LinkError)
  deriving Repr, DecidableEq

/-- The wording of a link failure. -/
def linkFailure (e : LinkError) : String :=
  "failed to link wasm module against the host surface: " ++ e.message

/-- A compiled guest. -/
structure Guest where
  module : Module
  program : Wasm.Program
  /-- The imported functions, in order. -/
  imports : Array Wasi.Function

namespace Guest

/-- The guest in a byte string. -/
def compile (bytes : List UInt8) : Except CompileError Guest := do
  let m ← match Wasm.Binary.readModule bytes with
    | .ok m => pure m
    | .error _ => throw .compileFailed
  if !m.valid then throw .compileFailed
  let imports ← (link m).mapError .linkFailed
  match Wasm.Program.ofModule? m with
  | some program => return { module := m, program, imports }
  | none => throw .compileFailed

/-- The memory that host functions act on: the one exported as `memory`. -/
def memory? (g : Guest) : Option Nat :=
  match g.module.export? "memory" with
  | some (.memory i) => some i
  | _ => none

/-- The function that a run ends with: the one exported as `_start`. -/
def start? (g : Guest) : Option Nat :=
  match g.module.export? "_start" with
  | some (.function i) => some i
  | _ => none

end Guest

end ScriptSandbox.Sandbox
