import ScriptSandbox.Config.Basic
import ScriptSandbox.Config.Usage

/-!
# Command line flags

Every flag takes one value, attached behind an equals sign or given as the next argument. A value
that is an argument of its own does not start with a dash, and it is examined when the next known
flag comes or the arguments end; an argument that is not known is refused first. No other arguments
are taken.

## Main definitions

* `Config.Flags`: the values given
* `Config.Stop`: why reading ends without values
* `Config.Flags.read`: the values that arguments give
* `Config.Settings.apply`: the configuration that the values override
-/

namespace ScriptSandbox.Config

/-- The values given; `none` for a flag that is absent. -/
structure Flags where
  config : Option String := none
  port : Option UInt16 := none
  host : Option String := none
  engine : Option String := none
  memory : Option UInt32 := none
  timeout : Option UInt64 := none
  imageSize : Option UInt64 := none
  deriving Repr, DecidableEq

/-- Why reading ends without values. -/
inductive Stop where
  | help
  | version
  | refused (e : UsageError)
  deriving Repr, DecidableEq

/-! ### Values -/

/-- Digits behind the number `n`, up to `max`. -/
def readDigits (max : Nat) (tooFar : NumberFault) (n : Nat) : List Char → Except NumberFault Nat
  | [] => .ok n
  | c :: s =>
    if '0' ≤ c ∧ c ≤ '9' then
      let m := n * 10 + (c.toNat - '0'.toNat)
      if m ≤ max then readDigits max tooFar m s else .error tooFar
    else .error .digit

/-- An integer of 64 bits with an optional sign. -/
def readSigned : List Char → Except NumberFault Int
  | [] => .error .empty
  | ['+'] | ['-'] => .error .digit
  | '+' :: s => (readDigits 0x7FFFFFFFFFFFFFFF .tooLarge 0 s).map Int.ofNat
  | '-' :: s => (readDigits 0x8000000000000000 .tooSmall 0 s).map fun n => -Int.ofNat n
  | s => (readDigits 0x7FFFFFFFFFFFFFFF .tooLarge 0 s).map Int.ofNat

/-- An integer from 0 to `max`, first read as one of 64 bits. -/
def readBelow (max : Nat) (s : List Char) : Except NumberFault Nat := do
  let n ← readSigned s
  if 0 ≤ n ∧ n ≤ max then return n.toNat else throw (.outside n max)

/-- A natural number of 64 bits with an optional plus sign. -/
def readUnsigned : List Char → Except NumberFault Nat
  | [] => .error .empty
  | ['+'] => .error .digit
  | '+' :: s => readDigits (UInt64.size - 1) .tooLarge 0 s
  | s => readDigits (UInt64.size - 1) .tooLarge 0 s

namespace Flags

/-- Whether a flag has a value. -/
def has (v : Flags) : Flag → Bool
  | .config => v.config.isSome
  | .port => v.port.isSome
  | .host => v.host.isSome
  | .engine => v.engine.isSome
  | .memory => v.memory.isSome
  | .timeout => v.timeout.isSome
  | .imageSize => v.imageSize.isSome

/-- The values with the one of `f` read from a text. -/
def store (v : Flags) (f : Flag) (value : String) : Except UsageError Flags :=
  let number (r : Except NumberFault Nat) : Except UsageError Nat :=
    r.mapError (.invalidNumber f value)
  match f with
  | .config => if value = "" then .error (.missingValue f) else .ok { v with config := some value }
  | .port => do
    let n ← number (readBelow (UInt16.size - 1) value.toList)
    return { v with port := some n.toUInt16 }
  | .host => .ok { v with host := some value }
  | .engine => .ok { v with engine := some value }
  | .memory => do
    let n ← number (readBelow (UInt32.size - 1) value.toList)
    return { v with memory := some n.toUInt32 }
  | .timeout => do
    let n ← number (readUnsigned value.toList)
    return { v with timeout := some n.toUInt64 }
  | .imageSize => do
    let n ← number (readUnsigned value.toList)
    return { v with imageSize := some n.toUInt64 }

/-- The values with that of a flag, which must not have one yet. -/
def give (v : Flags) (f : Flag) (value : String) : Except UsageError Flags :=
  if v.has f then .error (.repeated f) else v.store f value

end Flags

/-! ### Arguments -/

/-- The forms of an argument. -/
inductive Argument where
  /-- Two dashes alone: no flags come behind them. -/
  | escape
  /-- A name behind two dashes, with the value behind the first equals sign. -/
  | long (name : String) (value? : Option String)
  /-- A character behind a dash. -/
  | short (c : Char)
  | plain (text : String)
  deriving Repr, DecidableEq

/-- The form of an argument. -/
def Argument.ofString (s : String) : Argument :=
  match s.toList with
  | ['-', '-'] => .escape
  | '-' :: '-' :: r =>
    let name := r.takeWhile (· ≠ '=')
    let value? := if '=' ∈ r then some (String.ofList (r.drop (name.length + 1))) else none
    .long (String.ofList name) value?
  | '-' :: c :: _ => .short c
  | _ => .plain s

/-- What has been read: the values, the flags that were given, in their order, and the last flag with
its value if that is not yet examined. -/
structure Reading where
  flags : Flags := {}
  given : List Flag := []
  pending : Option (Flag × Option String) := none
  deriving Repr, DecidableEq

namespace Reading

/-- Examines a value and adds it. -/
def give (r : Reading) (f : Flag) (value : String) : Except Stop Reading := do
  let flags ← (r.flags.give f value).mapError .refused
  return { flags, given := r.given ++ [f] }

/-- Examines the value of the last flag. -/
def settle (r : Reading) : Except Stop Reading :=
  match r.pending with
  | none => .ok r
  | some (f, none) => .error (.refused (.missingValue f))
  | some (f, some value) => r.give f value

/-- The flags given so far, whatever their values are worth. A repetition takes a flag back. -/
def used (r : Reading) : List Flag :=
  match r.pending with
  | none | some (_, none) => r.given
  | some (f, some _) => if f ∈ r.given then r.given.erase f else r.given ++ [f]

/-- Ends reading with help or the version. -/
def finish (r : Reading) (s : Stop) : Except Stop Reading := do
  let _ ← r.settle
  throw s

/-- Reads a name behind two dashes. -/
def long (r : Reading) (name : String) (value? : Option String) : Except Stop Reading :=
  match Switch.ofName? name, value? with
  | some (.flag f), some value => do (← r.settle).give f value
  | some (.flag f), none => do return { ← r.settle with pending := some (f, none) }
  | some .help, none => r.finish .help
  | some .version, none => r.finish .version
  | some s, some value => .error (.refused (.unexpectedValue s value r.given))
  | none, _ => .error (.refused (.unknownSwitch name r.used))

/-- Reads a character behind a dash. -/
def short (r : Reading) (c : Char) : Except Stop Reading :=
  if c = 'h' then r.finish .help
  else if c = 'V' then r.finish .version
  else .error (.refused (.unexpectedArgument (String.ofList ['-', c])))

/-- Reads an argument that is a value or nothing. -/
def plain (r : Reading) (text : String) : Except Stop Reading :=
  match r.pending with
  | some (f, none) => .ok { r with pending := some (f, some text) }
  | _ => .error (.refused (.unexpectedArgument text))

/-- Reads all arguments. -/
def run (r : Reading) : List String → Except Stop Flags
  | [] => r.settle.map (·.flags)
  | a :: rest =>
    match Argument.ofString a with
    | .escape =>
      match rest with
      | [] => r.settle.map (·.flags)
      | b :: _ => .error (.refused (.unexpectedArgument b))
    | .long name value? => (r.long name value?).bind fun r => r.run rest
    | .short c => (r.short c).bind fun r => r.run rest
    | .plain text => (r.plain text).bind fun r => r.run rest

end Reading

/-- The values that arguments give. -/
def Flags.read (arguments : List String) : Except Stop Flags := ({} : Reading).run arguments

/-- A configuration with the fields that flags override. -/
def Settings.apply (s : Settings) (v : Flags) : Settings where
  server := { s.server with
    port := v.port.getD s.server.port
    host := v.host.getD s.server.host }
  engine := { s.engine with
    path := v.engine.getD s.engine.path
    memoryLimitMib := v.memory.getD s.engine.memoryLimitMib
    timeoutMs := v.timeout.getD s.engine.timeoutMs
    maxImageSizeMib := v.imageSize.getD s.engine.maxImageSizeMib }

end ScriptSandbox.Config
