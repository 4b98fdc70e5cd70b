import ScriptSandbox.Symbol.Readable
import ScriptSandbox.Wasm.Machine

/-!
# Traces

Where a running module stands: the instruction of every activation that is under way, the innermost
first, with the names that the module gives. When an access to memory cannot be made, the trace comes
with the address.

## Main definitions

* `Wasm.State.sites`: the instructions under way
* `Wasm.traceText`: their listing
* `Wasm.State.fault?`: the access to memory that cannot be made
-/

namespace ScriptSandbox.Wasm

/-- An instruction under way. -/
structure Site where
  function : Nat
  /-- Its place in the module, in bytes. -/
  position : Nat
  deriving Repr, DecidableEq

/-- The first instruction of code. -/
def siteOf (function : Nat) : List Code → Option Site
  | .plain position _ :: _ => some ⟨function, position⟩
  | _ => none

/-- The instructions under way, the innermost first. -/
def State.sites (s : State) : List Site :=
  ((s.function, s.code) :: s.callers.map fun c => (c.function, c.code)).filterMap fun (f, code) =>
    siteOf f code

/-- A number in hexadecimal. -/
def hex (n : Nat) : String := String.ofList ('0' :: 'x' :: Nat.toDigits 16 n)

/-- Text with blanks before it, up to a width. -/
def alignRight (width : Nat) (s : String) : String :=
  String.ofList (List.replicate (width - s.length) ' ') ++ s

/-- How a function is shown. -/
def functionText (n : Names) (f : Nat) : String :=
  match n.function? f with
  | some name => Symbol.readable name
  | none => s!"<wasm function {f}>"

/-- One line of a listing. -/
def siteLine (n : Names) (i : Nat) (s : Site) : String :=
  "  " ++ alignRight 3 (toString i) ++ ": " ++ alignRight 6 (hex s.position) ++ " - " ++
    n.module?.getD "<unknown>" ++ "!" ++ functionText n s.function

/-- Where to look for more than a listing tells. -/
def detailsNote : String :=
  "note: using the `WASMTIME_BACKTRACE_DETAILS=1` environment variable may show more debugging " ++
    "information"

/-- The listing of the instructions under way in a module. -/
def traceText (m : Module) (sites : List Site) : String :=
  "\n".intercalate
    ("error while executing at wasm backtrace:" ::
      sites.zipIdx.map (fun (s, i) => siteLine m.names i s) ++
      if m.describesSource then [detailsNote] else [])

/-! ### Faults -/

/-- An access to memory that cannot be made. -/
structure Fault where
  /-- The first byte that cannot be accessed. -/
  address : Nat
  /-- The size of the memory, in bytes. -/
  size : Nat
  deriving Repr, DecidableEq

/-- The wording of a fault. -/
def Fault.text (f : Fault) : String :=
  "memory fault at wasm address " ++ hex f.address ++ " in linear memory of size " ++ hex f.size

/-- An access to memory: how many operands are above its address, and the bytes it reaches. -/
structure Access where
  above : Nat
  arg : MemArg
  bytes : Nat
  deriving Repr, DecidableEq

/-- The access that an instruction makes. Waits and wake-ups are left to the host. -/
def Instr.access? : Instr → Option Access
  | .load op arg => some ⟨0, arg, op.bytes⟩
  | .store op arg => some ⟨1, arg, op.bytes⟩
  | .vectorLoad op arg => some ⟨0, arg, op.bytes⟩
  | .laneLoad w _ arg => some ⟨1, arg, w.bits / 8⟩
  | .laneStore w _ arg => some ⟨1, arg, w.bits / 8⟩
  | .atomic op arg =>
    match op with
    | .notify | .wait _ => none
    | op => some ⟨op.type.params.length - 1, arg, op.bytes⟩
  | _ => none

/-- The addresses that are set aside for a memory. -/
def reservedBytes : Nat := 0x100000000

/-- The addresses behind them, at which no memory ever is. -/
def guardBytes : Nat := 0x80000000

/-- Whether an access is tried, so that its fault is one of the machine. It is not where it could
reach beyond the addresses behind the memory, and then is not within those set aside for it. -/
def isTried (base reach : Nat) : Bool :=
  reach ≤ reservedBytes && (reach ≤ guardBytes + 1 || base + reach ≤ reservedBytes)

/-- The access to memory with which the code of a state begins, as one that cannot be made. -/
def State.fault? (s : State) : Option Fault := do
  match s.code with
  | .plain _ i :: _ =>
    let a ← i.access?
    match s.stack.drop a.above with
    | .i32 base :: _ =>
      let size := (← s.store.memories[a.arg.memory]?).size
      if isTried base.toNat (a.arg.offset + a.bytes) then
        return ⟨max (base.toNat + a.arg.offset) size, size⟩
      else none
    | _ => none
  | _ => none

end ScriptSandbox.Wasm
