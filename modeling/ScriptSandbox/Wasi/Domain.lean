import ScriptSandbox.Wasm.Value

/-!
# Coded numbers

Some numbers that a guest hands over stand for something else: a member of an enumeration, or a set
of flags, of which each is one bit. They come in words that are wider than their codes.

## Main definitions

* `Wasi.Domain`: what the codes of some width stand for
* `Wasi.CodeError`: why a number is not a code
* `Wasi.Domain.check`: whether a number is a code
-/

namespace ScriptSandbox.Wasi

/-- What the numbers of a domain stand for. -/
inductive Coding where
  | number
  | enumeration
  | flags
  deriving Repr, DecidableEq

/-- A domain of coded numbers: those below `size`, in words of `bits` bits. -/
structure Domain where
  name : String
  coding : Coding
  bits : Nat
  size : Nat
  deriving Repr, DecidableEq

namespace Domain

/-- The clocks. -/
def clockId : Domain := ⟨"Clockid", .enumeration, 32, 4⟩

/-- The points that a position counts from. -/
def whence : Domain := ⟨"Whence", .enumeration, 8, 3⟩

/-- The kinds of advice on the use of a file. -/
def advice : Domain := ⟨"Advice", .enumeration, 8, 6⟩

/-- The signals. -/
def signal : Domain := ⟨"Signal", .enumeration, 8, 31⟩

/-- The kinds of subscriptions and events. -/
def eventType : Domain := ⟨"Eventtype", .enumeration, 8, 3⟩

/-- The flags of a descriptor. -/
def fdFlags : Domain := ⟨"Fdflags", .flags, 16, 0x20⟩

/-- The flags that tell which times of a file are set. -/
def fstFlags : Domain := ⟨"Fstflags", .flags, 16, 0x10⟩

/-- The flags of a path lookup. -/
def lookupFlags : Domain := ⟨"Lookupflags", .flags, 32, 2⟩

/-- The flags of opening a file. -/
def oFlags : Domain := ⟨"Oflags", .flags, 16, 0x10⟩

/-- The rights of a descriptor. -/
def rights : Domain := ⟨"Rights", .flags, 64, 0x40000000⟩

/-- The flags of receiving from a socket. -/
def riFlags : Domain := ⟨"Riflags", .flags, 16, 4⟩

/-- The flags of sending to a socket, none of which is defined. -/
def siFlags : Domain := ⟨"u16", .number, 16, UInt16.size⟩

/-- The directions in which a socket is shut down. -/
def sdFlags : Domain := ⟨"Sdflags", .flags, 8, 4⟩

/-- The flags of a subscription to a clock. -/
def subClockFlags : Domain := ⟨"Subclockflags", .flags, 16, 2⟩

end Domain

/-- Why a number is not a code. -/
inductive CodeError where
  /-- The number does not fit the words of the domain. -/
  | tooLarge
  /-- The number is negative. -/
  | tooSmall
  | notMember (d : Domain)
  deriving Repr, DecidableEq

namespace CodeError

/-- The wording of a code error. -/
def message : CodeError → String
  | .tooLarge => "Int conversion error: TryFromIntError(PosOverflow)"
  | .tooSmall => "Int conversion error: TryFromIntError(NegOverflow)"
  | .notMember d => match d.coding with
    | .flags => "Invalid flag value " ++ d.name
    | _ => "Invalid enum value " ++ d.name

/-- What lies behind a code error. -/
def cause? : CodeError → Option String
  | .tooLarge => some "number too large to fit in target type"
  | .tooSmall => some "number too small to fit in target type"
  | .notMember _ => none

end CodeError

/-- Succeeds if a number is a code of a domain. -/
def Domain.check (d : Domain) (n : Int) : Except CodeError Unit :=
  if n < 0 then .error .tooSmall
  else if Nat.pow 2 d.bits ≤ n.toNat then .error .tooLarge
  else if d.size ≤ n.toNat then .error (.notMember d)
  else .ok ()

end ScriptSandbox.Wasi
