import ScriptSandbox.Net.Address
import ScriptSandbox.Os.Failure

/-!
# Listening

A listener is bound on a machine none of whose interfaces has an address. Such a machine takes every
four octets for its own. Of the addresses by groups it accepts the unspecified one and those that
embed four octets.

## Main definitions

* `Net.Interfaces`: the interfaces of a machine
* `Net.Interfaces.refusal?`: why a listener cannot be bound, if it cannot
-/

namespace ScriptSandbox.Net

namespace Ipv6

/-- All groups are zero. -/
def isUnspecified (ip : Ipv6) : Bool := ip.groups.all (· = 0)

/-- The address of a group of machines. -/
def isMulticast (ip : Ipv6) : Bool := (ip.groups.headD 0) / 0x100 = 0xFF

/-- An address that is valid on one link only, so that it needs a scope. -/
def isLinkLocal (ip : Ipv6) : Bool := (ip.groups.headD 0) / 0x40 = 0x3FA

end Ipv6

/-- The numbers of the interfaces of a machine, none of which has an address. -/
structure Interfaces where
  numbers : List Nat := [1]
  deriving Repr, DecidableEq

/-- Why a listener cannot be bound, if it cannot. -/
def Interfaces.refusal? (i : Interfaces) (host : Host) : Option Os.Failure :=
  match host with
  | .v4 _ => none
  | .v6 ip scope =>
    if ip.isMulticast then some .invalidArgument
    else if ip.isLinkLocal ∧ scope = 0 then some .invalidArgument
    else if ip.isLinkLocal ∧ scope.toNat ∉ i.numbers then some .noDevice
    else if ip.isUnspecified ∨ ip.embedded?.isSome then none
    else some .addressNotAvailable

end ScriptSandbox.Net
