import ScriptSandbox.Toml.Node
import ScriptSandbox.Toml.Quantity

/-!
# TOML keys and values

Arrays may span lines and may have a comma behind the last element; tables between braces may not.
At most 79 arrays and tables are nested, and a dotted key has at most 79 parts.

## Main definitions

* `Toml.readKey`: a key, dotted or not
* `Toml.readValue`: a value
-/

namespace ScriptSandbox.Toml

open Reader

/-- The least nesting, and the least number of parts of a key, that is refused. -/
def depthLimit : Nat := 80

/-! ### Keys -/

/-- The name of a key without its stretch of text. -/
def readName : Reader String := do
  match ← peek with
  | some '"' => readQuoted
  | some '\'' => readLiteral
  | _ => return String.ofList (← takeSome isBareChar)

/-- A part of a key, with the blanks around it. -/
def readKeyPart : Reader Key := do
  blanks
  let start ← place
  let name ← readName
  let stop ← place
  blanks
  return ⟨name, ⟨start, stop⟩⟩

/-- The parts of a key behind those found, which are reversed. -/
def readKeyTail : (fuel : Nat) → (found : List Key) → Reader (List Key)
  | 0, found => return found.reverse
  | fuel + 1, found => do
    match ← attempt (expect '.' *> readKeyPart) with
    | some k => readKeyTail fuel (k :: found)
    | none => return found.reverse

/-- A key, dotted or not. -/
def readKey : Reader (List Key) :=
  let parts : Reader (List Key) := part .key do
    let k ← readKeyPart
    readKeyTail (← remaining) [k]
  checked parts fun ks => if depthLimit ≤ ks.length then .error .tooDeep else .ok ks

/-- Takes the sign between a key and its value, with the blanks behind it. -/
def readEquals : Reader Unit := do
  expecting [.text ".", .text "="] (expect '=')
  blanks

/-! ### Values -/

/-- A reader of a value that is taken for a string without marks. -/
def unquoted {α : Type} (r : Reader α) : Reader α :=
  expecting [.text "\"", .text "'"] (part .string r)

/-- A value without parts. -/
def readScalar : Reader Scalar := do
  match ← peek with
  | none => refuse
  | some '"' | some '\'' => return .text (← readString)
  | some 't' => unquoted (commit (word "true") *> return .boolean true)
  | some 'f' => unquoted (commit (word "false") *> return .boolean false)
  | some 'i' => unquoted (return .float (← readInfinity))
  | some 'n' => unquoted (return .float (← readNotANumber))
  | some '_' => expecting [.leadingDigit] (return .integer (← readInteger))
  | some '.' => expecting [.leadingDigit] (return .float (← readFloat))
  | some c =>
    if isDigit c ∨ c = '+' ∨ c = '-' then
      orElse (readMoment *> return .moment) <|
        orElse (return .float (← readFloat)) (return .integer (← readInteger))
    else unquoted refuse

mutual

/-- A value inside `depth` others, with the stretch of text it was read from. -/
def readValue : (fuel : Nat) → (depth : Nat) → Reader (Span × Node)
  | 0, _ => refuse
  | fuel + 1, depth => do
    let start ← get
    let deeper : Reader Unit :=
      if depthLimit ≤ depth + 1 then commit (refuseAt start (some .tooDeep)) else next *> return ()
    let node ← match ← peek with
      | some '[' => do
        deeper
        commit do
          let elements ← readElements fuel (depth + 1)
          expecting [.text "]"] (part .array (expect ']'))
          return .array elements
      | some '\x7b' => do
        deeper
        commit do
          let members ← readMembers fuel (depth + 1)
          expecting [.text "\x7d"] (part .braces (expect '\x7d'))
          return .table .braces members
      | _ => pure (.scalar (← readScalar))
    return (⟨start.place, ← place⟩, node)

/-- The elements of an array, with what stands behind them. -/
def readElements : (fuel : Nat) → (depth : Nat) → Reader (List (Span × Node))
  | 0, _ => refuse
  | fuel + 1, depth => do
    if (← peek) = some ']' then return []
    let some first ← attempt (readElement fuel depth) | skipLines (← remaining) *> return []
    let elements ← moreElements fuel depth [first]
    let _ ← accept ','
    skipLines (← remaining)
    return elements

/-- An element of an array, with what stands around it. -/
def readElement : (fuel : Nat) → (depth : Nat) → Reader (Span × Node)
  | 0, _ => refuse
  | fuel + 1, depth => do
    skipLines (← remaining)
    let v ← readValue fuel depth
    skipLines (← remaining)
    return v

/-- The elements behind those found, which are reversed. -/
def moreElements : (fuel : Nat) → (depth : Nat) → (found : List (Span × Node)) →
    Reader (List (Span × Node))
  | 0, _, _ => refuse
  | fuel + 1, depth, found => do
    match ← attempt (expect ',' *> readElement fuel depth) with
    | some v => moreElements fuel depth (v :: found)
    | none => return found.reverse

/-- The members of a table between braces, with the blanks behind them. -/
def readMembers : (fuel : Nat) → (depth : Nat) → Reader Entries
  | 0, _ => refuse
  | fuel + 1, depth => do
    let members : Reader (List (List Key × Span × Node)) := do
      let found ← match ← attempt (readMember fuel depth) with
        | some first => moreMembers fuel depth [first]
        | none => pure []
      blanks
      return found
    checked members (List.foldlM (fun es (key, v) => es.putDotted none v key) [])

/-- A member of a table between braces, with the blanks behind it. -/
def readMember : (fuel : Nat) → (depth : Nat) → Reader (List Key × Span × Node)
  | 0, _ => refuse
  | fuel + 1, depth => do
    let key ← readKey
    commit do
      readEquals
      let v ← readValue fuel depth
      blanks
      return (key, v)

/-- The members behind those found, which are reversed. -/
def moreMembers : (fuel : Nat) → (depth : Nat) → (found : List (List Key × Span × Node)) →
    Reader (List (List Key × Span × Node))
  | 0, _, _ => refuse
  | fuel + 1, depth, found => do
    match ← attempt (expect ',' *> readMember fuel depth) with
    | some m => moreMembers fuel depth (m :: found)
    | none => return found.reverse

end

end ScriptSandbox.Toml
