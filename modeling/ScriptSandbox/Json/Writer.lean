import ScriptSandbox.Json.Basic
import ScriptSandbox.Decimal.Layout

/-!
# Writing JSON

Documents are written without blanks. Strings escape the quote, the backslash and control
characters below `U+0020`, nothing else. Integers are written in full, doubles with the fewest
digits that read back, positional when the exponent of the first digit lies between -5 and 15.

## Main definitions

* `Json.quoteChars`: a string as a JSON string
* `Json.Number.chars`: a number as a JSON number
* `Json.Value.text`: a document as text
-/

namespace ScriptSandbox.Json

/-- A hexadecimal digit in lower case. -/
def hexDigit (n : Nat) : Char := if n < 10 then Char.ofNat (0x30 + n) else Char.ofNat (0x57 + n)

/-- A character as it stands inside a JSON string. -/
def escape (c : Char) : List Char :=
  if c = '"' then ['\\', '"']
  else if c = '\\' then ['\\', '\\']
  else if c = '\x08' then ['\\', 'b']
  else if c = '\t' then ['\\', 't']
  else if c = '\n' then ['\\', 'n']
  else if c = '\x0c' then ['\\', 'f']
  else if c = '\r' then ['\\', 'r']
  else if c.toNat < 0x20 then
    ['\\', 'u', '0', '0', hexDigit (c.toNat / 16), hexDigit (c.toNat % 16)]
  else [c]

/-- The characters of a text as a JSON string. -/
def quoteChars (s : String) : List Char := '"' :: s.toList.flatMap escape ++ ['"']

/-- Doubles in JSON are positional from `1e-5` up to below `1e16`; other exponents carry their
sign. -/
def layout : Decimal.Layout := ⟨-5, 15, true⟩

/-- The text of an integer. -/
def intChars (n : Int) : List Char :=
  if n < 0 then '-' :: Nat.toDigits 10 n.natAbs else Nat.toDigits 10 n.natAbs

/-- The text of a number. A double that is not finite is written `null`. -/
def Number.chars : Number → List Char
  | .integer n => intChars n
  | .double x => if x.isNaN || x.isInf then ['n', 'u', 'l', 'l'] else Decimal.doubleChars layout x

mutual

/-- The characters of a document's text. -/
def Value.chars : Value → List Char
  | .null => ['n', 'u', 'l', 'l']
  | .bool true => ['t', 'r', 'u', 'e']
  | .bool false => ['f', 'a', 'l', 's', 'e']
  | .number n => n.chars
  | .string s => quoteChars s
  | .array items => '[' :: itemsChars items
  | .object members => '\x7b' :: membersChars members

/-- Items separated by commas, and the closing bracket. -/
def itemsChars : List Value → List Char
  | [] => [']']
  | [v] => v.chars ++ [']']
  | v :: vs => v.chars ++ ',' :: itemsChars vs

/-- Members separated by commas, and the closing brace. -/
def membersChars : List (String × Value) → List Char
  | [] => ['\x7d']
  | [(k, v)] => quoteChars k ++ ':' :: v.chars ++ ['\x7d']
  | (k, v) :: ms => quoteChars k ++ ':' :: v.chars ++ ',' :: membersChars ms

end

/-- The text of a document. -/
def Value.text (v : Value) : String := String.ofList v.chars

end ScriptSandbox.Json
