import ScriptSandbox.Symbol.Hashed
import ScriptSandbox.Symbol.Itanium.Vocabulary

/-!
# Reading symbols of the Itanium binary interface

Every kind of term starts with characters of its own, or is tried in a fixed order. Names, types and
parts of names are kept in a table, by whose numbers they can be named again. What a try that comes
to nothing has put into the table stays there.

## Main definitions

* `Itanium.Reader`: a reader of terms
* `Itanium.name`, `Itanium.type`, `Itanium.expression`, `Itanium.encoding`: the terms
* `Itanium.read?`: the entity that a symbol names
-/

namespace ScriptSandbox.Symbol.Itanium

/-! ### Readers -/

/-- The characters that are left, and the terms that have a number. -/
structure State where
  rest : List Char
  table : Array Node := #[]
  /-- Whether the type that is read is the one a conversion is named by. -/
  inConversion : Bool := false

/-- Why a term cannot be read. -/
inductive Fault where
  | mismatch
  | tooDeep
  deriving Repr, DecidableEq

/-- A reader. -/
abbrev Reader (α : Type) := ExceptT Fault (StateM State) α

/-- The most terms around a term. -/
def maxDepth : Nat := 96

/-- Gives up. -/
def mismatch {α : Type} : Reader α := throw .mismatch

/-- Tries a reader. -/
def attempt {α : Type} (r : Reader α) : Reader (Option α) := do
  let rest := (← get).rest
  tryCatch (some <$> r) fun
    | .tooDeep => throw .tooDeep
    | .mismatch => do
      modify fun s => { s with rest }
      return none

/-- The first of several readers that reads anything. -/
def oneOf {α : Type} : List (Reader α) → Reader α
  | [] => mismatch
  | r :: rs => do
    match ← attempt r with
    | some x => return x
    | none => oneOf rs

/-- As many terms as can be read. Every term takes a character, so `fuel` may be their number. -/
def many {α : Type} (r : Reader α) : (fuel : Nat) → Reader (List α)
  | 0 => return []
  | fuel + 1 => do
    match ← attempt r with
    | some x => return x :: (← many r fuel)
    | none => return []

/-- As many terms as can be read. -/
def all {α : Type} (r : Reader α) : Reader (List α) := do many r (← get).rest.length

/-- As many terms as can be read, of which there is at least one. -/
def atLeastOne {α : Type} (r : Reader α) : Reader (List α) := do
  let x ← r
  return x :: (← all r)

/-- Goes on with an answer until there is no further one. -/
def iterate {α : Type} (step : α → Reader (Option α)) : (fuel : Nat) → α → Reader α
  | 0, x => return x
  | fuel + 1, x => do
    match ← step x with
    | some y => iterate step fuel y
    | none => return x

/-- The next character, if there is one. It is not taken. -/
def peek : Reader (Option Char) := do return (← get).rest.head?

/-- Takes some text if it comes next. -/
def took (text : String) : Reader Bool := do
  let s ← get
  if text.toList.isPrefixOf s.rest then
    set { s with rest := s.rest.drop text.length }
    return true
  return false

/-- Takes the first of some texts that comes next. -/
def tookOne : List String → Reader Bool
  | [] => return false
  | t :: ts => do if ← took t then return true else tookOne ts

/-- Takes some text. -/
def expect (text : String) : Reader Unit := do
  if !(← took text) then mismatch

/-- The entry of a table whose code comes next. -/
def coded {α : Type} (table : List (String × α)) : Reader α :=
  oneOf (table.map fun (code, x) => do
    expect code
    return x)

/-- Puts a term into the table. -/
def save (n : Node) : Reader Node := do
  modify fun s => { s with table := s.table.push n }
  return n

/-- Puts a part of a name into the table unless it is the last one. -/
def saveInner (n : Node) : Reader Node := do
  if (← peek) = some 'E' then return n else save n

/-! ### Numbers and names -/

/-- Characters of a class, of which there is at least one. -/
def run (p : Char → Bool) : Reader (List Char) := do
  let s ← get
  let front := s.rest.takeWhile p
  if front.isEmpty then mismatch
  set { s with rest := s.rest.drop front.length }
  return front

/-- Whether a number is written with the least number of digits. -/
def isPlain (digits : List Char) : Bool := digits.length = 1 || digits.head? ≠ some '0'

/-- A number. -/
def number : Reader Nat := do
  let digits ← run (·.isDigit)
  let n := Hashed.digitsValue digits
  if isPlain digits && n < 0x8000000000000000 then return n else mismatch

/-- A number that may be negative, and how it is written. -/
def signed : Reader String := do
  let sign := if ← took "n" then "-" else ""
  return sign ++ toString (← number)

/-- The number of a place in a table, in base 36. -/
def place : Reader Nat := do
  let digits ← run fun c => c.isDigit || c.isUpper
  let value (c : Char) : Nat :=
    if c.isDigit then c.toNat - '0'.toNat else 10 + (c.toNat - 'A'.toNat)
  let n := digits.foldl (fun n c => 36 * n + value c) 0
  if isPlain digits && n < 0x8000000000000000 then return n else mismatch

/-- The place that a number in front of an underscore means: none is the first one. -/
def placeOf (number : Reader Nat) : Reader Nat := do
  let n ← attempt number
  expect "_"
  return match n with
    | some n => n + 1
    | none => 0

/-- Whether a character may stand in a name. -/
def isNameChar (c : Char) : Bool := c.isAlphanum || c = '_' || c = '$' || c = '.'

/-- Whether a name is one for all that is visible in its file only. -/
def isAnonymous (s : List Char) : Bool :=
  ["_GLOBAL_.N", "_GLOBAL__N", "_GLOBAL_$N"].any fun t => t.toList.isPrefixOf s

/-- A name behind its length. -/
def sourceName : Reader String := do
  let length ← number
  let s ← get
  let front := s.rest.take length
  if length = 0 || front.length < length || !front.all isNameChar then mismatch
  set { s with rest := s.rest.drop length }
  return if isAnonymous front then "(anonymous namespace)" else String.ofList front

/-- A number behind an underscore that tells entities of one name apart. Two digits or more stand
between underscores. -/
def discriminator : Reader Unit := do
  expect "_"
  if ← took "_" then
    if (← number) < 10 then mismatch
    expect "_"
  else
    let s ← get
    match s.rest with
    | c :: rest => if c.isDigit then set { s with rest } else mismatch
    | [] => mismatch

/-- Adds the marks behind a name to it. -/
def withTags (n : Node) : Reader Node := do
  let tags ← all do
    expect "B"
    sourceName
  return tags.foldl (fun n tag => .tagged n tag) n

/-- Qualifiers, in a fixed order. -/
def qualifiers : Reader Qualifiers := do
  let restrict ← took "r"
  let volatile ← took "V"
  return { restrict, volatile, const := ← took "K" }

/-- The kind of objects that a method is for. -/
def receiver? : Reader (Option Reference) := do
  if ← took "R" then return some .left
  if ← took "O" then return some .right
  return none

/-- A constructor or a destructor. -/
def structor : Reader Node :=
  coded [("C1", .constructor), ("C2", .constructor), ("C3", .constructor), ("C4", .constructor),
    ("D0", .destructor), ("D1", .destructor), ("D2", .destructor), ("D4", .destructor)]

/-- A type that a code stands for. -/
def builtinType : Reader Node :=
  oneOf [
    do return .word (← coded builtinTypes),
    do
      expect "DF"
      let n ← number
      if ← took "_" then return .word s!"_Float{n}"
      expect "x"
      return .word s!"_Float{n}x",
    do
      expect "DB"
      let n ← number
      expect "_"
      return .word s!"signed _BitInt({n})",
    do
      expect "DU"
      let n ← number
      expect "_"
      return .word s!"unsigned _BitInt({n})",
    do
      expect "u"
      return .word (← sourceName)]

/-- A term that came before. -/
def substitution : Reader Node :=
  oneOf [coded abbreviations, do
    expect "S"
    let i ← placeOf place
    match (← get).table[i]? with
    | some n => return n
    | none => mismatch]

/-- A parameter of a template. -/
def templateParameter : Reader Node := do
  expect "T"
  return .parameter (← placeOf number)

/-- A parameter of a function. -/
def functionParameter : Reader Node := do
  if ← took "fL" then
    let _ ← number
    expect "p"
  else expect "fp"
  if ← took "T" then return .word "this"
  let _ ← qualifiers
  return .word s!"\x7bparm#{(← placeOf number) + 1}\x7d"

/-- The type of a constant and its digits. -/
def literal (type : Node) (digits : List Char) : Node :=
  let text := String.ofList (match digits with
    | 'n' :: rest => '-' :: rest
    | s => s)
  let cast (value : String) : Node := .sequence [.word "(", type, .word (")" ++ value)]
  match type with
  | .word t =>
    if t = "bool" && text = "0" then .word "false"
    else if t = "bool" && text = "1" then .word "true"
    else if floatTypes.contains t then
      match digits with
      | 'n' :: rest => cast ("-[" ++ String.ofList rest ++ "]")
      | s => cast ("[" ++ String.ofList s ++ "]")
    else match integerEndings.lookup t with
      | some ending => .word (text ++ ending)
      | none => cast text
  | _ => cast text

/-- Parts with a comma between them. -/
def commaSeparated (parts : List Node) : List Node := parts.intersperse (.word ", ")

/-- A term between brackets. -/
def bracketed (before : String) (n : Node) (after : String := ")") : Node :=
  .sequence [.word before, n, .word after]

/-- The use of an operator, each operand in parentheses. -/
def operation (symbol : String) : List Node → Node
  | [a] => .sequence [.word symbol, bracketed "(" a]
  | [a, b] => .sequence [bracketed "(" a, .word symbol, bracketed "(" b]
  | [a, b, c] => .sequence [bracketed "(" a, .word "?", bracketed "(" b, .word " : ", bracketed "(" c]
  | _ => .word symbol

/-! ### Terms -/

mutual

/-- A name. -/
def name : (fuel : Nat) → Reader Node
  | 0 => throw .tooDeep
  | fuel + 1 => do
    if let some n ← attempt (nestedName fuel) then return n
    if let some n ← attempt (unscopedName fuel) then
      if (← peek) = some 'I' then return .template (← save n) (← templateArguments fuel)
      return n
    if let some n ← attempt substitution then return .template n (← templateArguments fuel)
    localName fuel

/-- A name outside of all scopes but that of the standard library. -/
def unscopedName : (fuel : Nat) → Reader Node
  | 0 => throw .tooDeep
  | fuel + 1 => do
    if ← took "St" then return .nested (.word "std") (← unqualifiedName fuel)
    unqualifiedName fuel

/-- A name with the scopes around it. -/
def nestedName : (fuel : Nat) → Reader Node
  | 0 => throw .tooDeep
  | fuel + 1 => do
    expect "N"
    let q ← qualifiers
    let r ← receiver?
    let n? ← iterate (fun n? => do return (← nextPart fuel n?).map some) (← get).rest.length none
    expect "E"
    let n ← match n? with
      | some (.nested scope n) => pure (.nested scope n)
      | some (.template n arguments) => pure (.template n arguments)
      | _ => mismatch
    return if q.isEmpty && r.isNone then n else .method q r n

/-- A name with one more part at its end; none at the end of the name. -/
def nextPart : (fuel : Nat) → (current : Option Node) → Reader (Option Node)
  | 0, _ => throw .tooDeep
  | fuel + 1, current => do
    let within (n : Node) : Node :=
      match current with
      | some scope => .nested scope n
      | none => n
    match ← peek, current with
    | some 'E', some _ => return none
    | some 'S', _ => return some (← substitution)
    | some 'T', _ => return some (← saveInner (← templateParameter))
    | some 'I', some n =>
      if !n.takesArguments then mismatch
      return some (← saveInner (.template n (← templateArguments fuel)))
    | some 'D', _ => do
      -- the letter begins the type of an expression, or a destructor
      if let some n ← attempt (decltype fuel) then return some (← saveInner n)
      return some (← saveInner (within (← unqualifiedName fuel)))
    -- the part names the initializer of a data member, which is not written
    | some 'M', some n => do
      expect "M"
      return some n
    | _, _ => return some (← saveInner (within (← unqualifiedName fuel)))

/-- A name without scopes. -/
def unqualifiedName : (fuel : Nat) → Reader Node
  | 0 => throw .tooDeep
  | fuel + 1 => do
    if let some n ← attempt (operatorName fuel) then return ← withTags n
    if let some n ← attempt structor then return ← withTags n
    if ← took "L" then
      -- an entity that other files do not see may be told apart by a number
      let n ← sourceName
      let _ ← attempt discriminator
      return ← withTags (.word n)
    if let some n ← attempt sourceName then return ← withTags (.word n)
    if let some n ← attempt (closure fuel) then return ← withTags n
    expect "Ut"
    let n ← attempt number
    expect "_"
    withTags (.unnamed (match n with
      | some n => n + 1
      | none => 1))

/-- The name of an operator. -/
def operatorName : (fuel : Nat) → Reader Node
  | 0 => throw .tooDeep
  | fuel + 1 => do
    let codes := operators.map fun o => (o.code, Node.operatorName o.symbol)
    if let some n ← attempt (coded codes) then return n
    if ← took "cv" then
      -- in the target type, arguments may belong to the conversion itself
      let outer := (← get).inConversion
      modify fun s => { s with inConversion := true }
      let t ← attempt (type fuel)
      modify fun s => { s with inConversion := outer }
      match t with
      | some t => return .conversion t
      | none => mismatch
    if ← took "li" then
      return .sequence [.word "operator", .word (← sourceName), .word "::operator \"\""]
    -- an operator of a vendor has the number of its operands and a name
    expect "v"
    let s ← get
    match s.rest with
    | c :: rest =>
      if !c.isDigit then mismatch
      set { s with rest }
      return .sequence [.word "operator", .word (← sourceName), .word s!"::operator {c}"]
    | [] => mismatch

/-- A function without a name. -/
def closure : (fuel : Nat) → Reader Node
  | 0 => throw .tooDeep
  | fuel + 1 => do
    expect "Ul"
    let parameters ← if ← took "v" then pure [] else atLeastOne (type fuel)
    expect "E"
    -- the first one has no number, the second one has zero
    let n ← attempt number
    expect "_"
    return .closure parameters (match n with
      | some n => n + 2
      | none => 1)

/-- An entity inside of a function. -/
def localName : (fuel : Nat) → Reader Node
  | 0 => throw .tooDeep
  | fuel + 1 => do
    expect "Z"
    let f ← encoding fuel
    expect "E"
    if ← took "s" then
      let _ ← attempt discriminator
      return .localEntity f (.word "string literal")
    if ← took "d" then
      -- the entity is inside of a default argument
      let _ ← attempt number
      expect "_"
      return .localEntity f (← name fuel)
    let n ← name fuel
    let _ ← attempt discriminator
    return .localEntity f n

/-- The arguments of a template. -/
def templateArguments : (fuel : Nat) → Reader (List Node)
  | 0 => throw .tooDeep
  | fuel + 1 => do
    expect "I"
    let arguments ← all (templateArgument fuel)
    expect "E"
    return arguments

/-- An argument of a template. -/
def templateArgument : (fuel : Nat) → Reader Node
  | 0 => throw .tooDeep
  | fuel + 1 => do
    if ← took "X" then
      let e ← expression fuel
      expect "E"
      return e
    if let some e ← attempt (constant fuel) then return e
    if let some t ← attempt (type fuel) then return t
    if !(← tookOne ["J", "I"]) then mismatch
    let arguments ← all (templateArgument fuel)
    expect "E"
    return .pack arguments

/-- A constant: a type and digits, or an entity that has a symbol. -/
def constant : (fuel : Nat) → Reader Node
  | 0 => throw .tooDeep
  | fuel + 1 => do
    expect "L"
    if let some t ← attempt (type fuel) then
      let s ← get
      -- whatever stands there, the digits go up to the end mark
      let digits := s.rest.takeWhile (· ≠ 'E')
      set { s with rest := s.rest.drop digits.length }
      expect "E"
      return literal t digits
    if !(← tookOne ["_Z", "__Z"]) then mismatch
    let n ← encoding fuel
    expect "E"
    return n

/-- The type of an expression. -/
def decltype : (fuel : Nat) → Reader Node
  | 0 => throw .tooDeep
  | fuel + 1 => do
    if !(← tookOne ["Dt", "DT"]) then mismatch
    let e ← expression fuel
    expect "E"
    return bracketed "decltype (" e

/-- A type. -/
def type : (fuel : Nat) → Reader Node
  | 0 => throw .tooDeep
  | fuel + 1 => do
    if let some t ← attempt builtinType then return t
    if let some t ← attempt (classType fuel) then return ← save t
    if let some t ← attempt do
        let t ← substitution
        -- with arguments behind it, it is a template and comes later
        if (← peek) = some 'I' then mismatch
        return t
      then return t
    if let some t ← attempt (compoundType fuel) then return ← save t
    if let some t ← attempt (parameterType fuel) then return ← save t
    if let some t ← attempt do
        let t ← oneOf [substitution, do save (← templateParameter)]
        return Node.template t (← templateArguments fuel)
      then return ← save t
    if let some t ← attempt (decltype fuel) then return ← save t
    save (← modifiedType fuel)

/-- A type that is a name. -/
def classType : (fuel : Nat) → Reader Node
  | 0 => throw .tooDeep
  | fuel + 1 => do
    if let some n ← attempt (name fuel) then return n
    let kind ← coded [("Ts", "class "), ("Tu", "union "), ("Te", "enum ")]
    return .sequence [.word kind, ← name fuel]

/-- A type of functions, arrays, vectors or pointers to members. -/
def compoundType : (fuel : Nat) → Reader Node
  | 0 => throw .tooDeep
  | fuel + 1 => oneOf [
    do
      let q ← qualifiers
      if ← took "DO" then
        let _ ← expression fuel
        expect "E"
      else if ← took "Dw" then
        let _ ← all (type fuel)
        expect "E"
      else let _ ← took "Do"
      let _ ← took "Dx"
      expect "F"
      let _ ← took "Y"
      let types ← atLeastOne (type fuel)
      let r ← receiver?
      expect "E"
      return .functionType q r types,
    do
      expect "A"
      if let some n ← attempt number then
        expect "_"
        return .array (some (.word (toString n))) (← type fuel)
      if let some e ← attempt (expression fuel) then
        expect "_"
        return .array (some e) (← type fuel)
      expect "_"
      return .array none (← type fuel),
    do
      expect "Dv"
      let length ← oneOf [do return .word (toString (← number)), do
        expect "_"
        expression fuel]
      expect "_"
      return .sequence [← type fuel, .word " __vector(", length, .word ")"],
    do
      expect "M"
      let owner ← type fuel
      return .memberPointer owner (← type fuel)]

/-- A parameter of a template in the place of a type. What follows it may be its arguments; in the
name of a conversion they are so only if the arguments of the conversion follow. -/
def parameterType : (fuel : Nat) → Reader Node
  | 0 => throw .tooDeep
  | fuel + 1 => do
    let t ← templateParameter
    if (← peek) ≠ some 'I' then return t
    let s ← get
    if !s.inConversion then mismatch
    let found ← attempt (templateArguments fuel)
    let next ← peek
    -- the arguments were read to see what follows them, and are given back
    set s
    if found.isNone || next = some 'I' then mismatch
    return t

/-- A type made from one other type. -/
def modifiedType : (fuel : Nat) → Reader Node
  | 0 => throw .tooDeep
  | fuel + 1 => do
    let q ← qualifiers
    if !q.isEmpty then return .qualified q (← type fuel)
    if ← took "P" then return .pointer (← type fuel)
    if ← took "R" then return .reference .left (← type fuel)
    if ← took "O" then return .reference .right (← type fuel)
    if ← took "C" then return .sequence [← type fuel, .word " complex"]
    if ← took "G" then return .sequence [← type fuel, .word " imaginary"]
    if ← took "U" then
      let n := Node.word (" " ++ (← sourceName))
      let n ← match ← attempt (templateArguments fuel) with
        | some arguments => pure (.template n arguments)
        | none => pure n
      return .sequence [← type fuel, n]
    expect "Dp"
    return .expansion (← type fuel)

/-- An expression. -/
def expression : (fuel : Nat) → Reader Node
  | 0 => throw .tooDeep
  | fuel + 1 => do
    if let some n ← attempt templateParameter then return n
    if let some n ← attempt functionParameter then return n
    if let some n ← attempt (constant fuel) then return n
    if ← took "st" then return bracketed "sizeof (" (← type fuel)
    if ← took "sz" then return bracketed "sizeof (" (← expression fuel)
    if ← took "at" then return bracketed "alignof (" (← type fuel)
    if ← took "az" then return bracketed "alignof (" (← expression fuel)
    if ← took "nx" then return bracketed "noexcept (" (← expression fuel)
    if ← took "sZ" then
      return bracketed "sizeof...(" (← oneOf [templateParameter, functionParameter])
    if ← took "sp" then return .sequence [← expression fuel, .word "..."]
    if ← took "tr" then return .word "throw"
    if ← took "tw" then return .sequence [.word "throw ", ← expression fuel]
    if ← took "cl" then
      let f ← expression fuel
      let arguments ← all (expression fuel)
      expect "E"
      return .sequence ([f, .word "("] ++ commaSeparated arguments ++ [.word ")"])
    if ← took "cv" then
      let t ← type fuel
      if ← took "_" then
        let arguments ← all (expression fuel)
        expect "E"
        return .sequence ([.word "(", t, .word ")("] ++ commaSeparated arguments ++ [.word ")"])
      return .sequence [.word "(", t, .word ")(", ← expression fuel, .word ")"]
    if ← took "tl" then
      let t ← type fuel
      let arguments ← all (expression fuel)
      expect "E"
      return .sequence ([t, .word "\x7b"] ++ commaSeparated arguments ++ [.word "\x7d"])
    if ← took "il" then
      let arguments ← all (expression fuel)
      expect "E"
      return .sequence ([.word "\x7b"] ++ commaSeparated arguments ++ [.word "\x7d"])
    if ← took "dt" then
      let e ← expression fuel
      return .sequence [e, .word ".", ← unresolvedName fuel]
    if let some n ← attempt do
        expect "pt"
        let e ← expression fuel
        return Node.sequence [e, .word "->", ← unresolvedName fuel]
      then return n
    if let some o ← attempt (coded (operators.map fun o => (o.code, o))) then
      let first ← expression fuel
      let others ← (List.replicate (o.arity - 1) ()).mapM fun _ => expression fuel
      return operation o.symbol (first :: others)
    unresolvedName fuel

/-- A name in an expression, whose scope may be a type that is not known yet. -/
def unresolvedName : (fuel : Nat) → Reader Node
  | 0 => throw .tooDeep
  | fuel + 1 => do
    if ← took "sr" then
      let t ← type fuel
      return .nested t (← unresolvedName fuel)
    if ← took "dn" then return .sequence [.word "~", .word (← sourceName)]
    let n ← if ← took "on" then operatorName fuel else do return .word (← sourceName)
    match ← attempt (templateArguments fuel) with
    | some arguments => return .template n arguments
    | none => return n

/-- An entity: a function with its types, any other thing with a name, or one that is made from
another. -/
def encoding : (fuel : Nat) → Reader Node
  | 0 => throw .tooDeep
  | fuel + 1 => do
    if let some n ← attempt (name fuel) then
      -- only a function has types behind its name
      match ← attempt (atLeastOne (type fuel)) with
      | some types => return .function n types
      | none => return n
    specialEntity fuel

/-- How far away an object is for which a function stands in a table. -/
def offset : (fuel : Nat) → Reader String
  | 0 => throw .tooDeep
  | _ + 1 => do
    if ← took "h" then
      let n ← signed
      expect "_"
      return "\x7boffset(" ++ n ++ ")\x7d"
    expect "v"
    let n ← signed
    expect "_"
    let m ← signed
    expect "_"
    return "\x7bvirtual offset(" ++ n ++ ", " ++ m ++ ")\x7d"

/-- An entity that is made from another. -/
def specialEntity : (fuel : Nat) → Reader Node
  | 0 => throw .tooDeep
  | fuel + 1 => do
    if ← took "TV" then return bracketed "\x7bvtable(" (← type fuel) ")\x7d"
    if ← took "TT" then return bracketed "\x7bvtt(" (← type fuel) ")\x7d"
    if ← took "TI" then return .sequence [.word "typeinfo for ", ← type fuel]
    if ← took "TS" then return .sequence [.word "typeinfo name for ", ← type fuel]
    if ← took "TF" then return .sequence [.word "typeinfo fn for ", ← type fuel]
    if ← took "TH" then return .sequence [.word "TLS init function for ", ← name fuel]
    if ← took "TW" then return .sequence [.word "TLS wrapper function for ", ← name fuel]
    if ← took "TC" then
      let part ← type fuel
      let _ ← number
      expect "_"
      return .sequence [.word "construction vtable for ", part, .word "-in-", ← type fuel]
    if ← took "Tc" then
      let first ← offset fuel
      let second ← offset fuel
      return bracketed ("\x7bvirtual override thunk(" ++ first ++ ", " ++ second ++ ", ")
        (← encoding fuel) ")\x7d"
    if ← took "GV" then return .sequence [.word "guard variable for ", ← name fuel]
    if ← took "GR" then
      let n ← name fuel
      let i ← placeOf place
      return .sequence [.word s!"reference temporary #{i} for ", n]
    if ← took "GTt" then return .sequence [.word "transaction clone for ", ← encoding fuel]
    if ← took "GTn" then return .sequence [.word "non-transaction clone for ", ← encoding fuel]
    expect "T"
    let o ← offset fuel
    return bracketed ("\x7bvirtual override thunk(" ++ o ++ ", ") (← encoding fuel) ")\x7d"

end

/-! ### Symbols -/

/-- A copy of a function: the kind of copy, and numbers. -/
def cloneSuffix : Reader Node := do
  expect "."
  let kind ← run fun c => c.isAlphanum || c = '_' || c = '$'
  let numbers ← all do
    expect "."
    number
  let text := String.join (numbers.map fun n => "." ++ toString n)
  return .word (" [clone ." ++ String.ofList kind ++ text ++ "]")

/-- The name of a block of code inside of a function. -/
def blockSuffix : Reader Unit := do
  expect "_block_invoke"
  if ← tookOne ["_", "."] then
    let _ ← number

/-- A symbol: an entity with its copies, a block of code inside of it, what runs before or after the
program for it, or a type. -/
def symbol : (fuel : Nat) → Reader Node
  | 0 => throw .tooDeep
  | fuel + 1 => do
    if ← tookOne ["_Z", "__Z"] then
      let n ← encoding fuel
      return .sequence (n :: (← all cloneSuffix))
    if ← tookOne ["___Z", "____Z"] then
      let n ← encoding fuel
      blockSuffix
      return .sequence [.word "invocation function for block in ", n]
    if ← took "_GLOBAL_" then
      if !(← tookOne ["_", ".", "$"]) then mismatch
      let kind ← coded [("I", "constructors"), ("D", "destructors")]
      expect "_"
      return .sequence [.word s!"global {kind} keyed to ", ← symbol fuel]
    type fuel

/-- The entity that a symbol names. -/
def read? (s : List Char) : Option Node :=
  match (symbol maxDepth).run ⟨s, #[], false⟩ with
  | (.ok n, ⟨[], _, _⟩) => some n
  | _ => none

end ScriptSandbox.Symbol.Itanium
