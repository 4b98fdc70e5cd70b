/-!
# Socket addresses

An address names a machine, by four octets or by eight groups of sixteen bits and a scope, and a
port on it.

The text of eight groups leaves out the first longest run of two or more zero groups and shows an
address that embeds four octets in dotted form.

## Main definitions

* `Net.Ipv4`, `Net.Ipv6`, `Net.Host`: the name of a machine
* `Net.SocketAddress`: a machine and a port
* `Net.Host.text`, `Net.SocketAddress.text`: how they are written
-/

namespace ScriptSandbox.Net

/-- Four octets, the first one written first. -/
structure Ipv4 where
  first : UInt8
  second : UInt8
  third : UInt8
  fourth : UInt8
  deriving Repr, DecidableEq

/-- Eight groups, the first one written first. -/
structure Ipv6 where
  groups : List UInt16
  length_groups : groups.length = 8 := by rfl
  deriving Repr, DecidableEq

/-- The name of a machine. A scope of zero is no scope. -/
inductive Host where
  | v4 (ip : Ipv4)
  | v6 (ip : Ipv6) (scope : UInt32)
  deriving Repr, DecidableEq

/-- A machine and a port. -/
structure SocketAddress where
  host : Host
  port : UInt16
  deriving Repr, DecidableEq

/-! ### Text -/

namespace Ipv4

/-- The octets in order. -/
def octets (ip : Ipv4) : List UInt8 := [ip.first, ip.second, ip.third, ip.fourth]

/-- The octets as two groups. -/
def groups (ip : Ipv4) : List UInt16 :=
  [ip.first.toUInt16 * 256 + ip.second.toUInt16, ip.third.toUInt16 * 256 + ip.fourth.toUInt16]

/-- The octets that two groups stand for. -/
def ofGroups (high low : UInt16) : Ipv4 :=
  ⟨(high / 256).toUInt8, (high % 256).toUInt8, (low / 256).toUInt8, (low % 256).toUInt8⟩

/-- Decimal octets between points. -/
def text (ip : Ipv4) : List Char :=
  ['.'].intercalate (ip.octets.map fun b => Nat.toDigits 10 b.toNat)

end Ipv4

namespace Ipv6

/-- The octets embedded behind five zero groups and a group of ones. -/
def embedded? (ip : Ipv6) : Option Ipv4 :=
  match ip.groups with
  | [0, 0, 0, 0, 0, 0xFFFF, high, low] => some (Ipv4.ofGroups high low)
  | _ => none

/-- A run of groups: the index of the first one and their number. -/
structure Run where
  start : Nat
  length : Nat
  deriving Repr, DecidableEq

/-- The first longest run of zero groups, given the run that ends at `index` and the longest one so
far. -/
def longestZeros (index : Nat) (current longest : Run) : List UInt16 → Run
  | [] => longest
  | g :: gs =>
    if g = 0 then
      let run : Run :=
        if current.length = 0 then ⟨index, 1⟩ else ⟨current.start, current.length + 1⟩
      longestZeros (index + 1) run (if longest.length < run.length then run else longest) gs
    else longestZeros (index + 1) ⟨index, 0⟩ longest gs

/-- Hexadecimal groups between colons. -/
def colonSeparated (groups : List UInt16) : List Char :=
  [':'].intercalate (groups.map fun g => Nat.toDigits 16 g.toNat)

/-- The written groups. -/
def text (ip : Ipv6) : List Char :=
  match ip.embedded? with
  | some v4 => "::ffff:".toList ++ v4.text
  | none =>
    let zeros := longestZeros 0 ⟨0, 0⟩ ⟨0, 0⟩ ip.groups
    if 1 < zeros.length then
      colonSeparated (ip.groups.take zeros.start) ++ [':', ':'] ++
        colonSeparated (ip.groups.drop (zeros.start + zeros.length))
    else colonSeparated ip.groups

end Ipv6

/-- The written name: groups stand between brackets, before a scope that is not zero. -/
def Host.text : Host → List Char
  | .v4 ip => ip.text
  | .v6 ip scope =>
    let shown := if scope = 0 then [] else '%' :: Nat.toDigits 10 scope.toNat
    '[' :: ip.text ++ shown ++ [']']

/-- The machine and, behind a colon, the port. -/
def SocketAddress.text (a : SocketAddress) : List Char :=
  a.host.text ++ ':' :: Nat.toDigits 10 a.port.toNat

end ScriptSandbox.Net
