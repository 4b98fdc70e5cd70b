import ScriptSandbox.Toml.Refusal

/-!
# Reading TOML text

A reader takes characters from the front of the text and keeps count of their bytes. It stops at the
first place where no document goes on. Where a text could be read in several ways, they are tried in
turn, until one of them commits itself: then it has to succeed.

## Main definitions

* `Toml.Reader`: a computation that takes characters
* `Toml.Reader.commit`, `Toml.Reader.attempt`, `Toml.Reader.orElse`: the choice between readings
* `Toml.Reader.part`, `Toml.Reader.expecting`: what a refusal tells
* `Toml.Reader.checked`: a condition on what was read
-/

namespace ScriptSandbox.Toml

/-- The characters that remain, and the number of bytes before them. -/
structure Cursor where
  place : Nat
  rest : List Char
  deriving Repr, DecidableEq

/-- A computation that takes characters. -/
abbrev Reader := StateT Cursor (Except Refusal)

/-- The number of bytes of some characters. -/
def byteCount : List Char → Nat
  | [] => 0
  | c :: s => c.utf8Size + byteCount s

namespace Reader

/-! ### Refusals and choices -/

/-- Stops at the place of a cursor. -/
def refuseAt {α : Type} (c : Cursor) (cause : Option Cause := none) : Reader α :=
  throw { place := c.place, cause }

/-- Stops. -/
def refuse {α : Type} : Reader α := do refuseAt (← get)

/-- A reader with its refusals changed. -/
def mapRefusal {α : Type} (f : Refusal → Refusal) (r : Reader α) : Reader α :=
  fun c => (r c).mapError f

/-- A reader that has to succeed. -/
def commit {α : Type} (r : Reader α) : Reader α := r.mapRefusal fun e => { e with final := true }

/-- A reader of a part. The innermost part counts. -/
def part {α : Type} (p : Part) (r : Reader α) : Reader α :=
  r.mapRefusal fun e => { e with part := e.part.or (some p) }

/-- A reader where something could have stood. -/
def expecting {α : Type} (xs : List Expected) (r : Reader α) : Reader α :=
  r.mapRefusal fun e => { e with expected := e.expected ++ xs }

/-- The result of a reader, or none if it refuses before it commits itself; then nothing is taken. -/
def attempt {α : Type} (r : Reader α) : Reader (Option α) := fun c =>
  match r c with
  | .ok (a, c') => .ok (some a, c')
  | .error e => if e.final then .error e else .ok (none, c)

/-- The result of the first reader, or of the second one if the first refuses before it commits
itself. -/
def orElse {α : Type} (r s : Reader α) : Reader α := do
  match ← attempt r with
  | some a => return a
  | none => s

/-- A reader that takes nothing. If it refuses, it is at the place where it began. -/
def ahead {α : Type} (r : Reader α) : Reader α := fun c =>
  match r c with
  | .ok (a, _) => .ok (a, c)
  | .error e => .error { e with place := c.place }

/-- A reader whose result has to pass a check. If it does not, the refusal is at the place where the
reader began. -/
def checked {α β : Type} (r : Reader α) (f : α → Except Cause β) : Reader β := do
  let start ← get
  match f (← r) with
  | .ok b => return b
  | .error cause => refuseAt start cause

/-! ### Characters -/

/-- The number of bytes taken. -/
def place : Reader Nat := return (← get).place

/-- A bound on how many more characters can be taken. -/
def remaining : Reader Nat := return (← get).rest.length

/-- The next character, which stays. -/
def peek : Reader (Option Char) := return (← get).rest.head?

/-- Takes the next character. -/
def next : Reader Char := do
  let c ← get
  match c.rest with
  | [] => refuse
  | x :: rest =>
    set (⟨c.place + x.utf8Size, rest⟩ : Cursor)
    return x

/-- Takes a character of a kind. -/
def one (p : Char → Bool) : Reader Char := do
  match ← peek with
  | some x => if p x then next else refuse
  | none => refuse

/-- Takes a character that must be `x`. -/
def expect (x : Char) : Reader Unit := do
  let _ ← one (· = x)

/-- Takes the next character if it is `x`. -/
def accept (x : Char) : Reader Bool := return (← attempt (expect x)).isSome

/-- Takes the characters of a word. -/
def word (w : String) : Reader Unit := do
  let c ← get
  if w.toList.isPrefixOf c.rest then
    set (⟨c.place + w.utf8ByteSize, c.rest.drop w.length⟩ : Cursor)
  else refuse

/-- Takes all next characters of a kind. -/
def takeWhile (p : Char → Bool) : Reader (List Char) := do
  let c ← get
  let taken := c.rest.takeWhile p
  set (⟨c.place + byteCount taken, c.rest.drop taken.length⟩ : Cursor)
  return taken

/-- Takes all next characters of a kind, of which there must be one. -/
def takeSome (p : Char → Bool) : Reader (List Char) := do
  let taken ← takeWhile p
  if taken.isEmpty then refuse else return taken

/-- Takes characters of a kind, as many as told. -/
def takeExactly (count : Nat) (p : Char → Bool) : Reader (List Char) := do
  let c ← get
  let taken := (c.rest.take count).takeWhile p
  if taken.length = count then
    set (⟨c.place + byteCount taken, c.rest.drop count⟩ : Cursor)
    return taken
  else refuse

/-! ### Blanks, line ends and comments -/

/-- A space or a tab. -/
def isBlank (c : Char) : Bool := c = ' ' || c = '\t'

/-- A character that may stand in a comment. -/
def isCommentChar (c : Char) : Bool := c = '\t' || (0x20 ≤ c.toNat && c.toNat ≠ 0x7F)

/-- Takes blanks. -/
def blanks : Reader Unit := do
  let _ ← takeWhile isBlank

/-- Takes a line end, which may have a carriage return. -/
def newline : Reader Unit := orElse (expect '\n') do
  expect '\r'
  expect '\n'

/-- Takes a line end or stands at the end of the text. -/
def newlineOrEnd : Reader Unit := orElse newline do
  if (← peek).isSome then refuse

/-- Takes a comment. -/
def comment : Reader Unit := do
  expect '#'
  let _ ← takeWhile isCommentChar

/-- Takes what may stand behind a key and its value or a header, up to the end of the line or of the
text. -/
def lineEnd : Reader Unit := expecting [.newline, .text "#"] do
  blanks
  let _ ← attempt comment
  newlineOrEnd

/-- Takes blanks, comments and line ends. -/
def skipLines : (fuel : Nat) → Reader Unit
  | 0 => return ()
  | fuel + 1 => do
    blanks
    match ← peek with
    | some '#' =>
      comment
      newline
      skipLines fuel
    | some '\n' | some '\r' =>
      newline
      skipLines fuel
    | _ => return ()

end Reader

end ScriptSandbox.Toml
