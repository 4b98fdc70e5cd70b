/-!
# Targets of requests

A request names what it is about by a target: a path, a star, a whole address with a scheme and an
authority, or an authority alone. Only an authority alone has no path.

## Main definitions

* `Http.Target`: targets
* `Http.TargetFault`: why a text is no target
* `Http.Target.ofText?`: the target that a text is
* `Http.Target.path?`: the path of a target
-/

namespace ScriptSandbox.Http

/-- What a request is about. -/
inductive Target where
  /-- A path, of this server or of an address. -/
  | resource (path : String)
  /-- The server itself. -/
  | authority (name : String)
  deriving Repr, DecidableEq

/-- Why a text is no target. -/
inductive TargetFault where
  | empty
  | tooLong
  | longScheme
  | badCharacter
  | badAuthority
  | badForm
  deriving Repr, DecidableEq

namespace Target

/-- The greatest number of bytes of a target. -/
def maxLength : Nat := 65534

/-- The greatest number of characters of a scheme. -/
def maxScheme : Nat := 64

/-- Whether a character may stand in a scheme. -/
def isSchemeChar (c : Char) : Bool := c.isAlphanum || c ∈ ['+', '-', '.']

/-- Whether a character may stand in an authority. A percent sign may too, but not everywhere. -/
def isAuthorityChar (c : Char) : Bool := c.isAlphanum || c ∈ "!$&'()*+,-.:;=@[]_~".toList

/-- Whether a character may stand in a path. -/
def isPathChar (c : Char) : Bool := c ∉ [' ', '#', '<', '>', '?', '`'] && 0x20 < c.toNat

/-- Whether a character may stand in a query. -/
def isQueryChar (c : Char) : Bool := c ∉ [' ', '"', '#', '<', '>'] && 0x20 < c.toNat

/-! ### Authorities -/

/-- What has been seen of an authority. -/
structure AuthorityScan where
  /-- The colons since the last user name or bracket. -/
  colons : Nat := 0
  opened : Bool := false
  closed : Bool := false
  /-- Whether there was a percent sign since the last user name or bracket. -/
  percent : Bool := false
  /-- Whether the last character ended a user name. -/
  afterUser : Bool := false

/-- What has been seen of an authority after one more character. -/
def AuthorityScan.next (s : AuthorityScan) (c : Char) : Except TargetFault AuthorityScan :=
  let s' := { s with afterUser := false }
  if c = ':' then
    if s.colons < 8 then .ok { s' with colons := s.colons + 1 } else .error .badAuthority
  else if c = '[' then
    if s.percent ∨ s.opened then .error .badAuthority else .ok { s' with opened := true }
  else if c = ']' then
    if !s.opened ∨ s.closed then .error .badAuthority
    else .ok { s' with closed := true, colons := 0, percent := false }
  else if c = '@' then .ok { s with colons := 0, percent := false, afterUser := true }
  else if c = '%' then .ok { s' with percent := true }
  else if isAuthorityChar c then .ok s'
  else .error .badCharacter

/-- Refuses what is no authority. -/
def checkAuthority (cs : List Char) : Except TargetFault Unit := do
  let s ← cs.foldlM AuthorityScan.next {}
  if s.opened ≠ s.closed ∨ 1 < s.colons ∨ s.afterUser ∨ s.percent then throw .badAuthority

/-- Splits a text after its authority. -/
def splitAuthority (cs : List Char) : List Char × List Char :=
  cs.span fun c => c ∉ ['/', '?', '#']

/-! ### Paths -/

/-- The path at the start of a text, behind which a query and a fragment may stand. An empty path is
the root. -/
def resourceOf? (cs : List Char) : Except TargetFault Target := do
  let (path, rest) := cs.span fun c => c ∉ ['?', '#']
  let query := match rest with
    | '?' :: query => query.takeWhile (· ≠ '#')
    | _ => []
  if path.all isPathChar ∧ query.all isQueryChar then
    return .resource (if path.isEmpty then "/" else String.ofList path)
  else throw .badCharacter

/-! ### Targets -/

/-- A text without its scheme, if it has one. -/
def afterScheme? (cs : List Char) : Except TargetFault (Option (List Char)) :=
  match cs.span isSchemeChar with
  | (scheme, ':' :: '/' :: '/' :: rest) =>
    if 3 < cs.length then
      if maxScheme < scheme.length then .error .longScheme else .ok (some rest)
    else .ok none
  | _ => .ok none

/-- The target that a text is. -/
def ofText? (s : String) : Except TargetFault Target := do
  if s.isEmpty then throw .empty
  if maxLength < s.utf8ByteSize then throw .tooLong
  match s.toList with
  | ['*'] => return .resource "*"
  | '/' :: cs => resourceOf? ('/' :: cs)
  | cs =>
    match ← afterScheme? cs with
    | none =>
      let (name, rest) := splitAuthority cs
      checkAuthority name
      if rest.isEmpty then return .authority s
      else throw (if cs.length = 1 then .badCharacter else .badForm)
    | some cs =>
      let (name, rest) := splitAuthority cs
      checkAuthority name
      if name.isEmpty then throw .badForm
      resourceOf? rest

/-- The path of a target. -/
def path? : Target → Option String
  | .resource path => some path
  | .authority _ => none

end Target

end ScriptSandbox.Http
