import ScriptSandbox.Config.Basic
import ScriptSandbox.Text.Alphanumeric

/-!
# References to the environment

A path may begin with a tilde for the home directory and may refer to variables of the environment,
as `$NAME`, as a name between braces, or as a name and a default between braces. It is cut into
pieces once, from left to right; what is put in for a piece is not looked at again.

## Main definitions

* `Config.Piece`: a part of a path
* `Config.pieces`, `Config.template`: the parts of a path
* `Config.expand`: the path with every reference replaced
-/

namespace ScriptSandbox.Config

/-- The variables of the environment by name. -/
abbrev Environment := List (String × String)

/-- A part of a path. -/
inductive Piece where
  /-- The home directory. -/
  | home
  | literal (c : Char)
  /-- The value of a variable, or else the default. -/
  | variable (name : List Char) (default? : Option (List Char))
  deriving Repr, DecidableEq

/-- A character of a name without braces. -/
def isNameChar (c : Char) : Bool := Text.isAlphanumeric c || c = '_'

/-- What comes before and after the first `:-`, if there is one. -/
def splitDefault? : List Char → Option (List Char × List Char)
  | [] => none
  | c :: s =>
    match c, s with
    | ':', '-' :: after => some ([], after)
    | _, _ => (splitDefault? s).map fun (before, after) => (c :: before, after)

/-- The reference that braces enclose. A default needs a name before it. -/
def braced (inner : List Char) : Piece :=
  match splitDefault? inner with
  | some (c :: name, default) => .variable (c :: name) (some default)
  | _ => .variable inner none

/-- The piece that the characters after a dollar sign complete, with the number of those
characters. -/
def reference? (s : List Char) : Option (Piece × Nat) :=
  match s with
  | [] => none
  | c :: r =>
    if c = '$' then some (.literal '$', 1)
    else if c = '\x7b' then
      let inner := r.takeWhile (· ≠ '\x7d')
      if '\x7d' ∈ r then some (braced inner, inner.length + 2) else none
    else if isNameChar c then
      let name := (c :: r).takeWhile isNameChar
      some (.variable name none, name.length)
    else none

/-- The pieces of the characters behind the next `skip` ones. A dollar sign that starts no reference
stands for itself. -/
def pieces : (skip : Nat) → List Char → List Piece
  | _, [] => []
  | skip + 1, _ :: s => pieces skip s
  | 0, c :: s =>
    if c = '$' then
      match reference? s with
      | some (p, n) => p :: pieces n s
      | none => .literal c :: pieces 0 s
    else .literal c :: pieces 0 s

/-- The pieces of a path. Only a tilde that is alone or before a slash is the home directory. -/
def template (path : List Char) : List Piece :=
  match path with
  | ['~'] => [.home]
  | '~' :: '/' :: s => .home :: pieces 0 ('/' :: s)
  | s => pieces 0 s

/-- The text of a piece; the name of the variable if it is unset and there is no default. Without a
home directory a tilde stands for itself. -/
def Piece.fill (env : Environment) : Piece → Except String String
  | .home => .ok ((env.lookup "HOME").getD "~")
  | .literal c => .ok (String.singleton c)
  | .variable name default? =>
    match env.lookup (String.ofList name), default? with
    | some value, _ => .ok value
    | none, some default => .ok (String.ofList default)
    | none, none => .error (String.ofList name)

/-- The path with every reference replaced; the name of the leftmost unset variable if there is
one. -/
def expand (env : Environment) (path : String) : Except String String :=
  ((template path.toList).mapM (Piece.fill env)).map String.join

/-- The path of the engine. -/
def Engine.expandedPath (e : Engine) (env : Environment) : Except Report String :=
  (expand env e.path).mapError fun name => {
    message := "failed to expand engine path " ++ e.path
    causes := [
      "error looking key '" ++ name ++ "' up: environment variable not found",
      "environment variable not found"] }

end ScriptSandbox.Config
