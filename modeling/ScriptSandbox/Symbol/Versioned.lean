import ScriptSandbox.Symbol.Hashed
import ScriptSandbox.Symbol.Punycode
import ScriptSandbox.Text.Quoted
import ScriptSandbox.Text.Utf8

/-!
# Symbols with a grammar

A symbol of this scheme is a path in a compact prefix form: every kind of path, type and constant
has a letter, and a part that occurred before is given by its place. Such a symbol is written out
while it is read. A fault does not end the writing: it leaves its name in the text, and what would
have followed is left out or a question mark.

## Main definitions

* `Versioned.Cursor`, `Versioned.Reader`: a place in a symbol and readers from there
* `Versioned.Writer`: reading and writing at once
* `Versioned.path`, `Versioned.type`, `Versioned.const`: the parts of a symbol
* `Versioned.read?`: the text of a symbol, and what follows it
-/

namespace ScriptSandbox.Symbol.Versioned

/-! ### Reading -/

/-- Why a symbol cannot be read on. -/
inductive Fault where
  | invalid
  | tooDeep
  deriving Repr, DecidableEq

/-- How a fault shows. -/
def Fault.message : Fault → String
  | .invalid => "\x7binvalid syntax\x7d"
  | .tooDeep => "\x7brecursion limit reached\x7d"

/-- A place in a symbol: the characters from there on, and the parts around it. -/
structure Cursor where
  rest : List Char
  depth : Nat
  deriving Repr, DecidableEq

/-- Reads from a place on. -/
abbrev Reader (α : Type) := StateT Cursor (Except Fault) α

/-- The most parts around a part. -/
def maxDepth : Nat := 500

/-- Enters a part. -/
def deepen : Reader Unit := do
  let c ← get
  if c.depth < maxDepth then set { c with depth := c.depth + 1 } else throw .tooDeep

/-- The next character. -/
def next : Reader Char := do
  let c ← get
  match c.rest with
  | [] => throw .invalid
  | x :: rest => do
    set { c with rest }
    return x

/-- Reads a character if it is the given one. -/
def eat (x : Char) : Reader Bool := do
  let c ← get
  match c.rest with
  | y :: rest => if x = y then do set { c with rest }; return true else return false
  | [] => return false

/-- The characters of a class that come next. -/
def run (p : Char → Bool) : Reader (List Char) := do
  let c ← get
  set { c with rest := c.rest.dropWhile p }
  return c.rest.takeWhile p

/-- Reads an underscore. -/
def underscore : Reader Unit := do
  if !(← eat '_') then throw .invalid

/-- The value of a digit in base 62: digits, small letters, capital letters. -/
def digitValue62 (c : Char) : Nat :=
  if c.isDigit then c.toNat - '0'.toNat
  else if c.isLower then 10 + (c.toNat - 'a'.toNat)
  else 36 + (c.toNat - 'A'.toNat)

/-- A number in base 62, one less than it means, with an underscore behind it. Without digits it is
zero. -/
def number62 : Reader Nat := do
  let digits ← run (·.isAlphanum)
  underscore
  let n := digits.foldl (fun n c => 62 * n + digitValue62 c) 0
  if digits.isEmpty then return 0
  if n + 1 < UInt64.size then return n + 1 else throw .invalid

/-- A number behind a letter, and zero without it. -/
def optionalNumber62 (tag : Char) : Reader Nat := do
  if !(← eat tag) then return 0
  let n ← number62
  if n + 1 < UInt64.size then return n + 1 else throw .invalid

/-- The number that tells parts of one name apart. -/
def disambiguator : Reader Nat := optionalNumber62 's'

/-- The capital letter of a namespace whose members need not have a name, or none. -/
def namespaceLetter? : Reader (Option Char) := do
  let c ← next
  if c.isUpper then return some c
  else if c.isLower then return none
  else throw .invalid

/-- Digits in hexadecimal, with an underscore behind them. -/
def nibbles : Reader (List Char) := do
  let digits ← run fun c => (Hashed.hexDigit? c).isSome
  underscore
  return digits

/-- A name: ASCII characters and, where it has others, their distances in Punycode. -/
structure Name where
  ascii : List Char
  distances : List Char
  deriving Repr, DecidableEq

/-- The number of characters in front of a name. It has no zero in front. -/
def nameLength : Reader Nat := do
  let c ← next
  if !c.isDigit then throw .invalid
  if c = '0' then return 0
  return Hashed.digitsValue (c :: (← run (·.isDigit)))

/-- The parts before and after the last underscore of a name; all of a name without underscore is
the second part. -/
def splitAtLastUnderscore (s : List Char) : List Char × List Char :=
  let after := (s.reverse.takeWhile (· ≠ '_')).reverse
  (s.take (s.length - after.length - 1), after)

/-- A name. An underscore may stand before it. -/
def name : Reader Name := do
  let coded ← eat 'u'
  let length ← nameLength
  let _ ← eat '_'
  let c ← get
  if c.rest.length < length then throw .invalid
  set { c with rest := c.rest.drop length }
  let s := c.rest.take length
  if !coded then return ⟨s, []⟩
  let (ascii, distances) := splitAtLastUnderscore s
  if distances.isEmpty then throw .invalid
  return ⟨ascii, distances⟩

/-- The longest name that is decoded. -/
def maxDecoded : Nat := 128

/-- The text of a name. -/
def Name.text (n : Name) : String :=
  if n.distances.isEmpty then String.ofList n.ascii
  else
    match (Punycode.decode? n.ascii n.distances).filter (·.length ≤ maxDecoded) with
    | some s => String.ofList s
    | none =>
      let front := if n.ascii.isEmpty then [] else n.ascii ++ ['-']
      "punycode\x7b" ++ String.ofList (front ++ n.distances) ++ "\x7d"

/-- Whether a name has no characters. -/
def Name.isEmpty (n : Name) : Bool := n.ascii.isEmpty && n.distances.isEmpty

/-! ### Writing -/

/-- The text written so far, and its size in bytes. -/
structure Page where
  text : String := ""
  size : Nat := 0
  deriving Repr, DecidableEq

/-- The most bytes that are written. -/
def maxSize : Nat := 1000000

/-- The state of reading and writing: the place, unless there was a fault, the text, unless it is
not wanted, and the number of lifetimes that have a name here. -/
structure State where
  cursor : Except Fault Cursor
  page : Option Page
  lifetimes : Nat := 0

/-- Why writing ends. -/
inductive Exit where
  /-- The part that is under way is given up. -/
  | part
  /-- The text has become too long. -/
  | full
  deriving Repr, DecidableEq

/-- Reads a symbol, whose characters are given, and writes it. -/
abbrev Writer (α : Type) := ReaderT (List Char) (ExceptT Exit (StateM State)) α

/-- Writes text. -/
def write (s : String) : Writer Unit := do
  let st ← get
  match st.page with
  | none => return
  | some p =>
    let size := p.size + s.utf8ByteSize
    if size ≤ maxSize then set { st with page := some ⟨p.text ++ s, size⟩ } else throw .full

/-- Leaves the mark of a fault and gives up a part. -/
def fail {α : Type} (f : Fault) : Writer α := do
  write f.message
  modify fun st => { st with cursor := .error f }
  throw .part

/-- Reads. After a fault a question mark stands for what would have been read. -/
def read {α : Type} (r : Reader α) : Writer α := do
  match (← get).cursor with
  | .error _ => do
    write "?"
    throw .part
  | .ok c =>
    match r c with
    | .ok (x, c) => do
      modify fun st => { st with cursor := .ok c }
      return x
    | .error f => fail f

/-- Reads a character if it is the given one and there was no fault. -/
def ate (x : Char) : Writer Bool := do
  match (← get).cursor with
  | .error _ => return false
  | .ok c =>
    match eat x c with
    | .ok (b, c) => do
      modify fun st => { st with cursor := .ok c }
      return b
    | .error _ => return false

/-- Whether there was a fault. -/
def faulty : Writer Bool := do
  match (← get).cursor with
  | .error _ => return true
  | .ok _ => return false

/-- Whether text is wanted. -/
def wanted : Writer Bool := do return (← get).page.isSome

/-- A part, which may be given up without giving up the parts around it. Its answer is then the
default. -/
def recovering {α : Type} (default : α) (w : Writer α) : Writer α :=
  tryCatch w fun
    | .part => return default
    | .full => throw .full

/-- A part, which may be given up without giving up the parts around it. -/
def part (w : Writer Unit) : Writer Unit := recovering () w

/-- Leaves a part. -/
def leave : Writer Unit :=
  modify fun st => { st with cursor := st.cursor.map fun c => { c with depth := c.depth - 1 } }

/-- Reads a part without writing it. -/
def silently (w : Writer Unit) : Writer Unit := do
  let page := (← get).page
  modify fun st => { st with page := none }
  part w
  modify fun st => { st with page }

/-- The cursor for a part at an earlier place, whose number stands behind its letter. -/
def earlier (symbol : List Char) : Reader Cursor := do
  let place := symbol.length - (← get).rest.length - 1
  let i ← number62
  if place ≤ i then throw .invalid
  let (_, c) ← (deepen.run ⟨symbol.drop i, (← get).depth⟩ : Except Fault (Unit × Cursor))
  return c

/-- Writes a part at an earlier place. -/
def repeated {α : Type} (default : α) (w : Writer α) : Writer α := recovering default do
  let c ← read (earlier (← ReaderT.read))
  if !(← wanted) then return default
  let cursor := (← get).cursor
  modify fun st => { st with cursor := .ok c }
  let x ← recovering default w
  modify fun st => { st with cursor }
  return x

/-- Writes parts up to the end mark, with a separator between them, and counts them. Every part takes
a character, so `fuel` may be their number. -/
def separated (separator : String) (w : Writer Unit) : (fuel found : Nat) → Writer Nat
  | 0, found => return found
  | fuel + 1, found => do
    if ← faulty then return found
    if ← ate 'E' then return found
    if found ≠ 0 then write separator
    w
    separated separator w fuel (found + 1)

/-- Writes parts up to the end mark, with a separator between them, and counts them. -/
def list (separator : String) (w : Writer Unit) : Writer Nat := do
  separated separator (part w) ((← ReaderT.read).length + 1) 0

/-! ### Lifetimes -/

/-- Writes the lifetime that is the `n`-th from the last named one; zero is a lifetime without name.
Names are letters as long as there are letters. -/
def lifetime (n : Nat) : Writer Unit := part do
  if !(← wanted) then return
  write "'"
  if n = 0 then write "_"
  else
    let named := (← get).lifetimes
    if named < n then fail .invalid
    else if named - n < 26 then
      write (String.singleton (Char.ofNat ('a'.toNat + (named - n))))
    else write s!"_{named - n}"

/-- Names more lifetimes. -/
def nameLifetimes (first : Bool) : (n : Nat) → Writer Unit
  | 0 => return
  | n + 1 => do
    if !first then write ", "
    modify fun st => { st with lifetimes := st.lifetimes + 1 }
    lifetime 1
    nameLifetimes false n

/-- Writes a part in which more lifetimes have a name. -/
def binding (w : Writer Unit) : Writer Unit := do
  let n ← read (optionalNumber62 'G')
  if !(← wanted) then w
  else
    if 0 < n then
      write "for<"
      nameLifetimes true n
      write "> "
    w
    modify fun st => { st with lifetimes := st.lifetimes - n }

/-! ### Leaves -/

/-- The types that are one letter. -/
def basicType? : Char → Option String
  | 'b' => some "bool"
  | 'c' => some "char"
  | 'e' => some "str"
  | 'u' => some "()"
  | 'a' => some "i8"
  | 's' => some "i16"
  | 'l' => some "i32"
  | 'x' => some "i64"
  | 'n' => some "i128"
  | 'i' => some "isize"
  | 'h' => some "u8"
  | 't' => some "u16"
  | 'm' => some "u32"
  | 'y' => some "u64"
  | 'o' => some "u128"
  | 'j' => some "usize"
  | 'f' => some "f32"
  | 'd' => some "f64"
  | 'z' => some "!"
  | 'p' => some "_"
  | 'v' => some "..."
  | _ => none

/-- The value of digits in hexadecimal, if it has 64 bits. -/
def nibblesValue? (s : List Char) : Option Nat :=
  let digits := s.dropWhile (· = '0')
  if 16 < digits.length then none
  else some (digits.foldl (fun n c => 16 * n + (Hashed.hexDigit? c).getD 0) 0)

/-- The bytes that pairs of digits are. -/
def nibblesBytes? : List Char → Option (List UInt8)
  | [] => some []
  | [_] => none
  | a :: b :: rest => do
    let byte := 16 * (Hashed.hexDigit? a).getD 0 + (Hashed.hexDigit? b).getD 0
    return byte.toUInt8 :: (← nibblesBytes? rest)

/-- A character as it is written between quotes of a kind. -/
def escapedWithin (quote c : Char) : List Char :=
  if c = quote then ['\\', c]
  else if c = '"' then [c]
  else Text.escapeQuoted c

/-- Characters between quotes of a kind. -/
def quotedWith (quote : Char) (s : List Char) : String :=
  String.ofList (quote :: s.flatMap (escapedWithin quote) ++ [quote])

/-- Writes an integer with its type. One that has more than 64 bits stays as it is. -/
def integer (type : Char) : Writer Unit := do
  let digits ← read nibbles
  match nibblesValue? digits with
  | some n => write (toString n)
  | none => write ("0x" ++ String.ofList digits)
  write ((basicType? type).getD "")

/-- Writes a string. -/
def stringLiteral : Writer Unit := do
  match (nibblesBytes? (← read nibbles)).bind Utf8.decode? with
  | some s => write (quotedWith '"' s.toList)
  | none => fail .invalid

/-- Writes the name of a calling convention. Underscores stand for hyphens. -/
def convention (s : List Char) : Writer Unit := do
  write "extern \""
  write (String.ofList (s.map fun c => if c = '_' then '-' else c))
  write "\" "

/-- The calling convention of a function type, if it is not the usual one. -/
def convention? : Writer (Option (List Char)) := do
  if !(← ate 'K') then return none
  if ← ate 'C' then return some ['C']
  let n ← read name
  if n.ascii.isEmpty || !n.distances.isEmpty then fail .invalid
  return some n.ascii

/-- Writes a name in a namespace, whose letter says what has no name of its own. -/
def member (letter? : Option Char) (n : Name) (number : Nat) : Writer Unit := do
  match letter? with
  | some letter => do
    write "::\x7b"
    write (match letter with
      | 'C' => "closure"
      | 'S' => "shim"
      | letter => String.singleton letter)
    if !n.isEmpty then
      write ":"
      write n.text
    write "#"
    write (toString number)
    write "\x7d"
  | none =>
    if !n.isEmpty then
      write "::"
      write n.text

/-- Writes a constant that needs braces unless it stands in an expression. -/
def braced (inExpression : Bool) (w : Writer Unit) : Writer Unit := do
  if inExpression then w
  else
    write "\x7b"
    w
    write "\x7d"

/-! ### Paths, types and constants -/

mutual

/-- Writes a path. Inside of an expression arguments stand behind two colons. -/
def path (inExpression : Bool) : (fuel : Nat) → Writer Unit
  | 0 => fail .tooDeep
  | fuel + 1 => part do
    read deepen
    match ← read next with
    | 'C' => do
      -- crates of one name are told apart by a number
      let number ← read disambiguator
      write (← read name).text
      if number ≠ 0 then write s!"[{String.ofList (Nat.toDigits 16 number)}]"
    | 'N' => do
      let letter? ← read namespaceLetter?
      path inExpression fuel
      -- a fault inside of the scope does not hide that something follows it
      if ← faulty then write "::"
      let number ← read disambiguator
      member letter? (← read name) number
    | 'M' => do
      implementation fuel
      write "<"
      type fuel
      write ">"
    | 'X' => do
      implementation fuel
      traitMember fuel
    | 'Y' => traitMember fuel
    | 'I' => do
      path inExpression fuel
      if inExpression then write "::"
      write "<"
      let _ ← list ", " (argument fuel)
      write ">"
    | 'B' => repeated () (path inExpression fuel)
    | _ => fail .invalid
    leave

/-- Reads the path of an implementation, which is not written. -/
def implementation : (fuel : Nat) → Writer Unit
  | 0 => fail .tooDeep
  | fuel + 1 => do
    let _ ← read disambiguator
    silently (path false fuel)

/-- Writes a type as one of a trait. -/
def traitMember : (fuel : Nat) → Writer Unit
  | 0 => fail .tooDeep
  | fuel + 1 => do
    write "<"
    type fuel
    write " as "
    path false fuel
    write ">"

/-- Writes an argument: a lifetime, a constant or a type. -/
def argument : (fuel : Nat) → Writer Unit
  | 0 => fail .tooDeep
  | fuel + 1 => part do
    if ← ate 'L' then lifetime (← read number62)
    else if ← ate 'K' then const false fuel
    else type fuel

/-- Writes a type. -/
def type : (fuel : Nat) → Writer Unit
  | 0 => fail .tooDeep
  | fuel + 1 => part do
    let tag ← read next
    match basicType? tag with
    | some s => write s
    | none => do
      read deepen
      match tag with
      | 'R' => reference "" fuel
      | 'Q' => reference "mut " fuel
      | 'P' => do
        write "*const "
        type fuel
      | 'O' => do
        write "*mut "
        type fuel
      | 'A' => do
        write "["
        type fuel
        write "; "
        const true fuel
        write "]"
      | 'S' => do
        write "["
        type fuel
        write "]"
      | 'T' => do
        write "("
        let n ← list ", " (type fuel)
        write (if n = 1 then ",)" else ")")
      | 'F' => part (binding (part (function fuel)))
      | 'D' => do
        write "dyn "
        part (binding do
          let _ ← list " + " (bound fuel))
        if !(← ate 'L') then fail .invalid
        -- the lifetime of a trait object is there even if it is not written
        let n ← read number62
        if n ≠ 0 then
          write " + "
          lifetime n
      | 'B' => repeated () (type fuel)
      | tag => do
        -- any other letter begins the path of a type with a name
        modify fun st => { st with cursor := st.cursor.map fun c => { c with rest := tag :: c.rest } }
        path false fuel
      leave

/-- Writes a reference. -/
def reference (mutability : String) : (fuel : Nat) → Writer Unit
  | 0 => fail .tooDeep
  | fuel + 1 => do
    write "&"
    if ← ate 'L' then
      let n ← read number62
      if n ≠ 0 then
        lifetime n
        write " "
    write mutability
    type fuel

/-- Writes a function type. The result is left out where there is none. -/
def function : (fuel : Nat) → Writer Unit
  | 0 => fail .tooDeep
  | fuel + 1 => do
    let isUnsafe ← ate 'U'
    let abi ← convention?
    if isUnsafe then write "unsafe "
    if let some s := abi then convention s
    write "fn("
    let _ ← list ", " (type fuel)
    write ")"
    if !(← ate 'u') then
      write " -> "
      type fuel

/-- Writes a path, and leaves its arguments open for more. The answer tells whether they are. -/
def openPath : (fuel : Nat) → Writer Bool
  | 0 => fail .tooDeep
  | fuel + 1 => do
    if ← ate 'B' then repeated false (openPath fuel)
    else if ← ate 'I' then
      path false fuel
      write "<"
      let _ ← list ", " (argument fuel)
      return true
    else
      path false fuel
      return false

/-- Writes the types that a bound fixes, and the end of its arguments. -/
def fixedTypes (opened : Bool) (fuel : Nat) : (steps : Nat) → Writer Unit
  | 0 => return
  | steps + 1 => do
    if ← ate 'p' then
      write (if opened then ", " else "<")
      write (← read name).text
      write " = "
      type fuel
      fixedTypes true fuel steps
    else if opened then write ">"

/-- Writes a bound: a path, and the types it fixes among its arguments. -/
def bound : (fuel : Nat) → Writer Unit
  | 0 => fail .tooDeep
  | fuel + 1 => part do
    let opened ← openPath fuel
    fixedTypes opened fuel ((← ReaderT.read).length + 1)

/-- Writes a field of a constant. -/
def field : (fuel : Nat) → Writer Unit
  | 0 => fail .tooDeep
  | fuel + 1 => part do
    let _ ← read disambiguator
    write (← read name).text
    write ": "
    const true fuel

/-- Writes a constant. -/
def const (inExpression : Bool) : (fuel : Nat) → Writer Unit
  | 0 => fail .tooDeep
  | fuel + 1 => part do
    let tag ← read next
    read deepen
    match tag with
    | 'p' => write "_"
    | 'h' | 't' | 'm' | 'y' | 'o' | 'j' => integer tag
    | 'a' | 's' | 'l' | 'x' | 'n' | 'i' => do
      if ← ate 'n' then write "-"
      integer tag
    | 'b' => do
      match nibblesValue? (← read nibbles) with
      | some 0 => write "false"
      | some 1 => write "true"
      | _ => fail .invalid
    | 'c' => do
      -- not every number is one of a character
      match (nibblesValue? (← read nibbles)).filter (·.isValidChar) with
      | some n => write (quotedWith '\'' [Char.ofNat n])
      | none => fail .invalid
    | 'e' => braced inExpression do
        write "*"
        part stringLiteral
    | 'R' =>
      if ← ate 'e' then part stringLiteral
      else braced inExpression do
        write "&"
        const true fuel
    | 'Q' => braced inExpression do
        write "&mut "
        const true fuel
    | 'A' => braced inExpression do
        write "["
        let _ ← list ", " (const true fuel)
        write "]"
    | 'T' => braced inExpression do
        write "("
        let n ← list ", " (const true fuel)
        write (if n = 1 then ",)" else ")")
    | 'V' => braced inExpression (variant fuel)
    | 'B' => repeated () (const inExpression fuel)
    | _ => fail .invalid
    leave

/-- Writes a constant of a type with fields: its name, and the fields, if it has any. -/
def variant : (fuel : Nat) → Writer Unit
  | 0 => fail .tooDeep
  | fuel + 1 => do
    path true fuel
    match ← read next with
    | 'U' => return
    | 'T' => do
      write "("
      let _ ← list ", " (const true fuel)
      write ")"
    | 'S' => do
      write " \x7b "
      let _ ← list ", " (field fuel)
      write " \x7d"
    | _ => fail .invalid

end

/-! ### Symbols -/

/-- What a symbol starts with. Tools take away an underscore or add one. -/
def openings : List (List Char) := ["_R".toList, "R".toList, "__R".toList]

/-- More than the calls that a part within `maxDepth` parts takes. -/
def maxCalls : Nat := 8 * maxDepth

/-- Reads a path without writing it, and gives the characters behind it. -/
def skipPath (symbol : List Char) (c : Cursor) : Except Fault Cursor :=
  (path false maxCalls symbol ⟨.ok c, none, 0⟩).2.cursor

/-- Whether a path begins here. -/
def atPath (s : List Char) : Bool := (s.head?.map (·.isUpper)).getD false

/-- The text of a symbol. -/
def text (symbol : List Char) : String :=
  let (result, st) := path true maxCalls symbol ⟨.ok ⟨symbol, 0⟩, some {}, 0⟩
  let written := (st.page.map (·.text)).getD ""
  match result with
  | .error .full => written ++ "\x7bsize limit reached\x7d"
  | _ => written

/-- The text of a symbol, and the characters behind it. All of it is ASCII; behind the path there may
be the one that it was made for. -/
def read? (s : List Char) : Option (String × List Char) := do
  let symbol ← Hashed.behindOpening? openings s
  if !atPath symbol || symbol.any fun c => 128 ≤ c.toNat then none
  let c ← (skipPath symbol ⟨symbol, 0⟩).toOption
  let c ← if atPath c.rest then (skipPath symbol c).toOption else some c
  return (text symbol, c.rest)

end ScriptSandbox.Symbol.Versioned
