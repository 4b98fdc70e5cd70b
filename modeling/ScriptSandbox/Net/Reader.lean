import ScriptSandbox.Net.Address

/-!
# Reading socket addresses

Every part is read at the start of the characters, and the characters after it are kept. Octets have
at most three digits and no leading zero; groups have at most four; scope and port have any number
of digits. The last two groups that are wanted may be given by four octets.

## Main definitions

* `Net.readIpv4`, `Net.readIpv6`, `Net.readHost`: the name of a machine
* `Net.SocketAddress.ofText?`: the address that a text is
-/

namespace ScriptSandbox.Net

/-- The value of a decimal or hexadecimal digit. -/
def digit? (radix : Nat) (c : Char) : Option Nat :=
  let value? : Option Nat :=
    if '0' ≤ c ∧ c ≤ '9' then some (c.toNat - '0'.toNat)
    else if 'a' ≤ c ∧ c ≤ 'f' then some (c.toNat - 'a'.toNat + 10)
    else if 'A' ≤ c ∧ c ≤ 'F' then some (c.toNat - 'A'.toNat + 10)
    else none
  value?.filter (· < radix)

/-- The leading digits and the characters after them. -/
def digits (radix : Nat) : List Char → List Nat × List Char
  | [] => ([], [])
  | c :: s =>
    match digit? radix c with
    | some d =>
      let (ds, rest) := digits radix s
      (d :: ds, rest)
    | none => ([], c :: s)

/-- The number that digits stand for. -/
def ofDigits (radix : Nat) (ds : List Nat) : Nat := ds.foldl (fun n d => n * radix + d) 0

/-- A decimal number of any number of digits that is less than `bound`. -/
def readDecimal (bound : Nat) (s : List Char) : Option (Nat × List Char) :=
  let (ds, rest) := digits 10 s
  let n := ofDigits 10 ds
  if ds ≠ [] ∧ n < bound then some (n, rest) else none

/-- A decimal octet. -/
def readOctet (s : List Char) : Option (UInt8 × List Char) :=
  let (ds, rest) := digits 10 s
  let n := ofDigits 10 ds
  if ds ≠ [] ∧ ds.length ≤ 3 ∧ (ds.head? = some 0 → ds.length = 1) ∧ n < 256 then
    some (n.toUInt8, rest)
  else none

/-- A hexadecimal group. -/
def readGroup (s : List Char) : Option (UInt16 × List Char) :=
  let (ds, rest) := digits 16 s
  if ds ≠ [] ∧ ds.length ≤ 4 then some ((ofDigits 16 ds).toUInt16, rest) else none

/-- The characters after `c`. -/
def after (c : Char) : List Char → Option (List Char)
  | [] => none
  | d :: s => if d = c then some s else none

/-- Four octets between points. -/
def readIpv4 (s : List Char) : Option (Ipv4 × List Char) := do
  let (a, s) ← readOctet s
  let (b, s) ← readOctet (← after '.' s)
  let (c, s) ← readOctet (← after '.' s)
  let (d, s) ← readOctet (← after '.' s)
  return (⟨a, b, c, d⟩, s)

/-- Groups that were read. -/
structure Groups where
  groups : List UInt16
  /-- Whether the last two were given by octets. -/
  endsInOctets : Bool
  rest : List Char
  deriving Repr, DecidableEq

/-- At most `limit` groups between colons; a colon comes first unless they start the run. -/
def readGroups : (limit : Nat) → (starts : Bool) → List Char → Groups
  | 0, _, s => ⟨[], false, s⟩
  | limit + 1, starts, s =>
    let here := if starts then some s else after ':' s
    match if limit = 0 then none else here.bind readIpv4 with
    | some (ip, rest) => ⟨ip.groups, true, rest⟩
    | none =>
      match here.bind readGroup with
      | none => ⟨[], false, s⟩
      | some (g, rest) =>
        let more := readGroups limit false rest
        { more with groups := g :: more.groups }

/-- Eight groups, or fewer with a double colon in place of one or more zero groups. -/
def readIpv6 (s : List Char) : Option (Ipv6 × List Char) := do
  let head := readGroups 8 true s
  if h : head.groups.length = 8 then return (⟨head.groups, h⟩, head.rest)
  if head.endsInOctets then none
  let s ← after ':' (← after ':' head.rest)
  let tail := readGroups (7 - head.groups.length) true s
  let zeros := List.replicate (8 - head.groups.length - tail.groups.length) 0
  let groups := head.groups ++ zeros ++ tail.groups
  if h : groups.length = 8 then return (⟨groups, h⟩, tail.rest) else none

/-- A percent sign and a number; zero without them. -/
def readScope (s : List Char) : UInt32 × List Char :=
  match (after '%' s).bind (readDecimal UInt32.size) with
  | some (n, rest) => (n.toUInt32, rest)
  | none => (0, s)

/-- Groups and a scope between brackets. -/
def readBracketed (s : List Char) : Option (Host × List Char) := do
  let (ip, s) ← readIpv6 (← after '[' s)
  let (scope, s) := readScope s
  return (.v6 ip scope, ← after ']' s)

/-- The name of a machine. -/
def readHost (s : List Char) : Option (Host × List Char) :=
  match readIpv4 s with
  | some (ip, rest) => some (.v4 ip, rest)
  | none => readBracketed s

/-- The address that a text is: a machine, a colon and a port. -/
def SocketAddress.ofText? (s : List Char) : Option SocketAddress := do
  let (host, s) ← readHost s
  let (port, s) ← readDecimal UInt16.size (← after ':' s)
  if s = [] then return ⟨host, port.toUInt16⟩ else none

end ScriptSandbox.Net
