import ScriptSandbox.Json.Number
import ScriptSandbox.Text.Utf8

/-!
# Reading JSON

The reader accepts the RFC 8259 grammar over bytes: blanks are space, tab, line feed and carriage
return; strings are well-formed UTF-8 without raw control characters; surrogate escapes come in
pairs; at most 127 arrays and objects are nested. It stops at the first byte that cannot continue a
document and says why.

## Main definitions

* `Json.Reason`, `Json.Failure`: why and where reading stopped
* `Json.readValue`: a value at the start of the bytes, with the bytes after it
* `Json.read`: a document that takes up all the bytes
-/

namespace ScriptSandbox.Json

/-- Why bytes are not a document. -/
inductive Reason where
  | endInList
  | endInObject
  | endInString
  | endInValue
  | expectedColon
  | expectedListCommaOrEnd
  | expectedObjectCommaOrEnd
  | expectedIdent
  | expectedValue
  | invalidEscape
  | invalidNumber
  | numberOutOfRange
  | invalidCodePoint
  | controlCharacter
  | keyMustBeString
  | loneSurrogate
  | trailingComma
  | trailingCharacters
  | endInHexEscape
  | tooDeep
  deriving Repr, DecidableEq

namespace Reason

/-- The bytes end where a longer document could go on. -/
def isEnd : Reason → Bool
  | .endInList | .endInObject | .endInString | .endInValue => true
  | _ => false

/-- The wording of a reason. -/
def message : Reason → String
  | .endInList => "EOF while parsing a list"
  | .endInObject => "EOF while parsing an object"
  | .endInString => "EOF while parsing a string"
  | .endInValue => "EOF while parsing a value"
  | .expectedColon => "expected `:`"
  | .expectedListCommaOrEnd => "expected `,` or `]`"
  | .expectedObjectCommaOrEnd => "expected `,` or `\x7d`"
  | .expectedIdent => "expected ident"
  | .expectedValue => "expected value"
  | .invalidEscape => "invalid escape"
  | .invalidNumber => "invalid number"
  | .numberOutOfRange => "number out of range"
  | .invalidCodePoint => "invalid unicode code point"
  | .controlCharacter => "control character (\\u0000-\\u001F) found while parsing a string"
  | .keyMustBeString => "key must be a string"
  | .loneSurrogate => "lone leading surrogate in hex escape"
  | .trailingComma => "trailing comma"
  | .trailingCharacters => "trailing characters"
  | .endInHexEscape => "unexpected end of hex escape"
  | .tooDeep => "recursion limit exceeded"

end Reason

/-- A reason with the bytes that were left unread when it was found. -/
structure Failure where
  reason : Reason
  unread : List UInt8
  deriving Repr, DecidableEq

/-- What was read, with the bytes after it. -/
abbrev Taken (α : Type) := α × List UInt8

/-- A failure at the next byte, which counts as read. -/
def failAt {α : Type} (reason : Reason) (s : List UInt8) : Except Failure α :=
  .error ⟨reason, s.tail⟩

/-- A failure after the bytes read so far. -/
def failBefore {α : Type} (reason : Reason) (s : List UInt8) : Except Failure α :=
  .error ⟨reason, s⟩

/-- Space, tab, line feed and carriage return. -/
def isBlank (b : UInt8) : Bool := b = 0x20 ∨ b = 0x09 ∨ b = 0x0A ∨ b = 0x0D

/-- The bytes after leading blanks. -/
def skipBlanks (s : List UInt8) : List UInt8 := s.dropWhile isBlank

/-- The value of a decimal digit. -/
def digit? (b : UInt8) : Option Nat :=
  if 0x30 ≤ b ∧ b ≤ 0x39 then some (b.toNat - 0x30) else none

/-- The value of a hexadecimal digit. -/
def hexDigit? (b : UInt8) : Option Nat :=
  if 0x30 ≤ b ∧ b ≤ 0x39 then some (b.toNat - 0x30)
  else if 0x41 ≤ b ∧ b ≤ 0x46 then some (b.toNat - 0x41 + 10)
  else if 0x61 ≤ b ∧ b ≤ 0x66 then some (b.toNat - 0x61 + 10)
  else none

/-- The leading digits and the bytes after them, behind the digits already found. -/
def digits (found : List Nat) : List UInt8 → List Nat × List UInt8
  | [] => (found.reverse, [])
  | b :: s =>
    match digit? b with
    | some d => digits (d :: found) s
    | none => (found.reverse, b :: s)

/-! ### Numbers -/

/-- The whole part of a number: a lone zero, or digits that start with another one. -/
def readWhole : List UInt8 → Except Failure (Taken (List Nat))
  | [] => failBefore .endInValue []
  | b :: s =>
    match digit? b with
    | none => failBefore .invalidNumber s
    | some 0 =>
      match s with
      | c :: _ => if (digit? c).isSome then failAt .invalidNumber s else .ok ([0], s)
      | [] => .ok ([0], s)
    | some d => .ok (digits [d] s)

/-- The fraction, if a point comes next; it has at least one digit. -/
def readFraction : List UInt8 → Except Failure (Taken (List Nat))
  | 0x2E :: s =>
    match digits [] s with
    | ([], []) => failAt .endInValue []
    | ([], r) => failAt .invalidNumber r
    | (ds, r) => .ok (ds, r)
  | s => .ok ([], s)

/-- The digits of an exponent, of which there is at least one. -/
def readExponentDigits (negative : Bool) : List UInt8 → Except Failure (Taken (Option Exponent))
  | [] => failBefore .endInValue []
  | b :: s =>
    match digit? b with
    | none => failBefore .invalidNumber s
    | some d =>
      let (ds, r) := digits [d] s
      .ok (some ⟨negative, ds⟩, r)

/-- The exponent, if an `e` comes next. -/
def readExponent : List UInt8 → Except Failure (Taken (Option Exponent))
  | [] => .ok (none, [])
  | b :: s =>
    if b = 0x65 ∨ b = 0x45 then
      match s with
      | 0x2B :: r => readExponentDigits false r
      | 0x2D :: r => readExponentDigits true r
      | r => readExponentDigits false r
    else .ok (none, b :: s)

/-- A number token. -/
def readToken (s : List UInt8) : Except Failure (Taken Token) := do
  let (negative, s) := match s with
    | 0x2D :: r => (true, r)
    | r => (false, r)
  let (whole, s) ← readWhole s
  let (fraction, s) ← readFraction s
  let (exponent, s) ← readExponent s
  return (⟨negative, whole, fraction, exponent⟩, s)

/-- A number. Out of range, it fails at the exponent digit that shows it, or else at the byte after
the number. -/
def readNumber (s : List UInt8) : Except Failure (Taken Number) := do
  let (token, r) ← readToken s
  match token.number with
  | .ok n => return (n, r)
  | .error ⟨none⟩ => failAt .numberOutOfRange r
  | .error ⟨some left⟩ => failBefore .numberOutOfRange (s.drop (s.length - r.length - left))

/-! ### Strings -/

/-- The value of four hexadecimal digits. -/
def readHex4 : List UInt8 → Except Failure (Taken Nat)
  | a :: b :: c :: d :: s =>
    match hexDigit? a, hexDigit? b, hexDigit? c, hexDigit? d with
    | some a, some b, some c, some d => .ok (((a * 16 + b) * 16 + c) * 16 + d, s)
    | _, _, _, _ => failBefore .invalidEscape s
  | _ => failBefore .endInString []

/-- The character of a `\u` escape whose digits come next. A leading surrogate is followed by the
escape of a trailing one. -/
def readUnicodeEscape (s : List UInt8) : Except Failure (Taken Char) := do
  let (n, s) ← readHex4 s
  if 0xDC00 ≤ n ∧ n ≤ 0xDFFF then failBefore .loneSurrogate s
  else if n < 0xD800 ∨ 0xDBFF < n then return (Char.ofNat n, s)
  else
    match s with
    | [] => failBefore .endInString []
    | 0x5C :: 0x75 :: s =>
      let (m, s) ← readHex4 s
      if m < 0xDC00 ∨ 0xDFFF < m then failBefore .loneSurrogate s
      else return (Char.ofNat ((n - 0xD800) * 0x400 + (m - 0xDC00) + 0x10000), s)
    | 0x5C :: [] => failBefore .endInString []
    | 0x5C :: _ :: s => failBefore .endInHexEscape s
    | _ :: s => failBefore .endInHexEscape s

/-- The character a one-letter escape stands for. -/
def shortEscape? (b : UInt8) : Option Char :=
  if b = 0x22 then some '"'
  else if b = 0x5C then some '\\'
  else if b = 0x2F then some '/'
  else if b = 0x62 then some '\x08'
  else if b = 0x66 then some '\x0c'
  else if b = 0x6E then some '\n'
  else if b = 0x72 then some '\r'
  else if b = 0x74 then some '\t'
  else none

/-- A character behind a backslash. -/
def readEscape : List UInt8 → Except Failure (Taken Char)
  | [] => failBefore .endInString []
  | e :: s =>
    if e = 0x75 then readUnicodeEscape s
    else
      match shortEscape? e with
      | some c => .ok (c, s)
      | none => failBefore .invalidEscape s

/-- Succeeds with the text of bytes without escapes, which are followed by `s`, or fails at the
first byte of their first ill-formed part. -/
def readPlain (bytes : List UInt8) (s : List UInt8) : Except Failure String :=
  match Utf8.decode? bytes with
  | some text => .ok text
  | none => failAt .invalidCodePoint (bytes.drop (Utf8.wellFormedLength bytes) ++ s)

/-- The rest of a string up to and with its closing quote. `found` is its text up to the last
escape, and `plain` holds the bytes behind it, last first. Every round reads a byte, so `fuel` may
be the number of bytes. -/
def readStringRest :
    (fuel : Nat) → (found : String) → (plain : List UInt8) → List UInt8 →
      Except Failure (Taken String)
  | 0, _, _, s => failBefore .endInString s
  | _, _, _, [] => failBefore .endInString []
  | fuel + 1, found, plain, b :: s =>
    if b = 0x22 then do return (found ++ (← readPlain plain.reverse (b :: s)), s)
    else if b = 0x5C then do
      let text ← readPlain plain.reverse (b :: s)
      let (c, s) ← readEscape s
      readStringRest fuel ((found ++ text).push c) [] s
    else if b < 0x20 then failBefore .controlCharacter s
    else readStringRest fuel found (b :: plain) s

/-- A string of which the opening quote has been read. -/
def readString (fuel : Nat) (s : List UInt8) : Except Failure (Taken String) :=
  readStringRest fuel "" [] s

/-! ### Documents -/

/-- The bytes after a literal's remaining letters. -/
def readIdent : (letters : List UInt8) → List UInt8 → Except Failure (List UInt8)
  | [], s => .ok s
  | _ :: _, [] => failBefore .endInValue []
  | l :: ls, b :: s => if b = l then readIdent ls s else failBefore .expectedIdent s

/-- The items of an array up to its bracket, each read by `item`. `found` holds the items so far,
last first; it is empty before the first one. -/
def readItems (item : List UInt8 → Except Failure (Taken Value)) :
    (fuel : Nat) → (found : List Value) → List UInt8 → Except Failure (Taken (List Value))
  | 0, _, s => failBefore .endInList s
  | fuel + 1, found, s =>
    match skipBlanks s with
    | [] => failAt .endInList []
    | 0x5D :: s => .ok (found.reverse, s)
    | b :: s =>
      if found.isEmpty then do
        let (v, s) ← item (b :: s)
        readItems item fuel [v] s
      else if b = 0x2C then
        match skipBlanks s with
        | [] => failAt .endInValue []
        | 0x5D :: s => failBefore .trailingComma s
        | s => do
          let (v, s) ← item s
          readItems item fuel (v :: found) s
      else failBefore .expectedListCommaOrEnd s

/-- One member: its name, of which the opening quote has been read, a colon and its value. -/
def readMember (item : List UInt8 → Except Failure (Taken Value)) (fuel : Nat) (s : List UInt8) :
    Except Failure (Taken (String × Value)) := do
  let (name, s) ← readString fuel s
  match skipBlanks s with
  | [] => failAt .endInObject []
  | 0x3A :: s =>
    let (v, s) ← item s
    return ((name, v), s)
  | s => failAt .expectedColon s

/-- The members of an object up to its brace. -/
def readMembers (item : List UInt8 → Except Failure (Taken Value)) :
    (fuel : Nat) → (found : List (String × Value)) → List UInt8 →
      Except Failure (Taken (List (String × Value)))
  | 0, _, s => failBefore .endInObject s
  | fuel + 1, found, s =>
    match skipBlanks s with
    | [] => failAt .endInObject []
    | 0x7D :: s => .ok (found.reverse, s)
    | b :: s =>
      if found.isEmpty then
        if b = 0x22 then do
          let (m, s) ← readMember item (fuel + 1) s
          readMembers item fuel [m] s
        else failBefore .keyMustBeString s
      else if b = 0x2C then
        match skipBlanks s with
        | [] => failAt .endInValue []
        | 0x22 :: s => do
          let (m, s) ← readMember item (fuel + 1) s
          readMembers item fuel (m :: found) s
        | 0x7D :: s => failBefore .trailingComma s
        | s => failAt .keyMustBeString s
      else failBefore .expectedObjectCommaOrEnd s

/-- A value after leading blanks, with the bytes after it. `depth` is how many arrays and objects
may still be opened; `fuel` bounds the rounds of every loop, each of which reads a byte. -/
def readValue (fuel : Nat) : (depth : Nat) → List UInt8 → Except Failure (Taken Value)
  | depth, s =>
    match skipBlanks s with
    | [] => failAt .endInValue []
    | b :: s =>
      if b = 0x6E then do return (.null, ← readIdent [0x75, 0x6C, 0x6C] s)
      else if b = 0x74 then do return (.bool true, ← readIdent [0x72, 0x75, 0x65] s)
      else if b = 0x66 then do return (.bool false, ← readIdent [0x61, 0x6C, 0x73, 0x65] s)
      else if b = 0x2D ∨ (digit? b).isSome then do
        let (n, s) ← readNumber (b :: s)
        return (.number n, s)
      else if b = 0x22 then do
        let (t, s) ← readString fuel s
        return (.string t, s)
      else if b = 0x5B then
        match depth with
        | 0 => failBefore .tooDeep s
        | depth + 1 => do
          let (vs, s) ← readItems (readValue fuel depth) fuel [] s
          return (.array vs, s)
      else if b = 0x7B then
        match depth with
        | 0 => failBefore .tooDeep s
        | depth + 1 => do
          let (ms, s) ← readMembers (readValue fuel depth) fuel [] s
          return (.object ms, s)
      else failBefore .expectedValue s

/-- The number of arrays and objects that may be nested. -/
def maxDepth : Nat := 127

/-- A value at the start of the bytes and the bytes after it. -/
def readPrefix (bytes : List UInt8) : Except Failure (Taken Value) :=
  readValue (bytes.length + 1) maxDepth bytes

/-- Nothing but blanks is left. -/
def expectEnd (s : List UInt8) : Except Failure Unit :=
  match skipBlanks s with
  | [] => .ok ()
  | s => failAt .trailingCharacters s

/-- The document that the bytes are, members in the order of the text. -/
def read (bytes : List UInt8) : Except Failure Value := do
  let (v, s) ← readPrefix bytes
  expectEnd s
  return v

/-! ### Positions -/

/-- A place in a text: its line, from 1, and how many bytes of the line come up to it. -/
structure Position where
  line : Nat
  column : Nat
  deriving Repr, DecidableEq

/-- The place after the given bytes. -/
def Position.after (bytes : List UInt8) : Position :=
  bytes.foldl (fun p b => if b = 0x0A then ⟨p.line + 1, 0⟩ else ⟨p.line, p.column + 1⟩) ⟨1, 0⟩

/-- Where in `bytes` a failure was found. -/
def Failure.position (f : Failure) (bytes : List UInt8) : Position :=
  .after (bytes.take (bytes.length - f.unread.length))

/-- The wording of a failure in `bytes`. -/
def Failure.message (f : Failure) (bytes : List UInt8) : String :=
  let p := f.position bytes
  s!"{f.reason.message} at line {p.line} column {p.column}"

end ScriptSandbox.Json
