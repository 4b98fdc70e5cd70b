import ScriptSandbox.Toml.Cursor

/-!
# TOML strings

Strings stand between quotation marks, with escapes, or between apostrophes, without. Three marks
open a string that may span lines; a line end behind them is dropped, and line ends inside are
single line feeds. Up to two marks in a row belong to such a string, also right before its end.

## Main definitions

* `Toml.readQuoted`, `Toml.readLiteral`: strings on one line
* `Toml.readString`: a string of any form
-/

namespace ScriptSandbox.Toml

open Reader

/-! ### Escapes -/

/-- The value of a hexadecimal digit. -/
def hexDigit? (c : Char) : Option Nat :=
  if '0' ≤ c ∧ c ≤ '9' then some (c.toNat - '0'.toNat)
  else if 'a' ≤ c ∧ c ≤ 'f' then some (c.toNat - 'a'.toNat + 10)
  else if 'A' ≤ c ∧ c ≤ 'F' then some (c.toNat - 'A'.toNat + 10)
  else none

/-- The number that digits stand for. -/
def ofDigits (base : Nat) (ds : List Char) : Nat :=
  ds.foldl (fun n c => n * base + (hexDigit? c).getD 0) 0

/-- A character given by its code point, which is not a surrogate. -/
def readCodePoint (digits : Nat) : Reader Char :=
  checked (takeExactly digits fun c => (hexDigit? c).isSome) fun ds =>
    let n := ofDigits 16 ds
    if n.isValidChar then .ok (Char.ofNat n) else .error .outOfRange

/-- What may stand behind a backslash. -/
def escapeChars : List Expected :=
  ["b", "f", "n", "r", "t", "u", "U", "\\", "\""].map .text

/-- A character that is given by a backslash and what stands behind it. -/
def readEscape : Reader Char := do
  expect '\\'
  match ← next with
  | 'b' => return '\x08'
  | 'f' => return '\x0c'
  | 'n' => return '\n'
  | 'r' => return '\r'
  | 't' => return '\t'
  | 'u' => part .shortCodePoint (commit (readCodePoint 4))
  | 'U' => part .longCodePoint (commit (readCodePoint 8))
  | '\\' => return '\\'
  | '"' => return '"'
  | _ => expecting escapeChars (part .escape (commit refuse))

/-! ### Strings on one line -/

/-- A character that stands for itself in a string with escapes. -/
def isPlainChar (c : Char) : Bool := isCommentChar c && c ≠ '"' && c ≠ '\\'

/-- A character that stands for itself in a string without escapes. -/
def isLiteralChar (c : Char) : Bool := isCommentChar c && c ≠ '\''

/-- Characters of a string with escapes, at least one. -/
def readPlain : Reader (List Char) :=
  orElse (takeSome isPlainChar) (return [← readEscape])

/-- All characters of a string with escapes, behind those found, which are reversed. -/
def readPlains : (fuel : Nat) → (found : List Char) → Reader (List Char)
  | 0, found => return found.reverse
  | fuel + 1, found => do
    match ← attempt readPlain with
    | some cs => readPlains fuel (cs.reverse ++ found)
    | none => return found.reverse

/-- A string on one line with escapes. -/
def readQuoted : Reader String := do
  expect '"'
  let s ← readPlains (← remaining) []
  part .basicString (commit (expect '"'))
  return String.ofList s

/-- A string on one line without escapes. -/
def readLiteral : Reader String := part .literalString do
  expect '\''
  let s ← takeWhile isLiteralChar
  commit (expect '\'')
  return String.ofList s

/-! ### Strings that may span lines -/

/-- Blanks and line ends. -/
def skipEmptyLines : (fuel : Nat) → Reader Unit
  | 0 => return ()
  | fuel + 1 => do
    blanks
    if (← attempt newline).isSome then skipEmptyLines fuel

/-- A backslash at the end of a line, with all blanks and line ends behind it. -/
def readContinuation : Reader Unit := do
  expect '\\'
  blanks
  newline
  skipEmptyLines (← remaining)

/-- Characters of a string that may span lines, other than its marks. -/
def readLine (escapes : Bool) : Reader (List Char) := do
  let lineFeed : Reader (List Char) := do
    newline
    return ['\n']
  if escapes then
    orElse (takeSome isPlainChar) <| orElse (readContinuation *> return []) <|
      orElse (return [← readEscape]) lineFeed
  else orElse (takeSome isLiteralChar) lineFeed

/-- The rest of a string that may span lines, behind the characters found, which are reversed. Fewer
than three marks in a row belong to it if it goes on behind them; of more, the last three end it. -/
def readLinesTail (mark : Char) (escapes : Bool) :
    (fuel : Nat) → (found : List Char) → Reader String
  | 0, _ => refuse
  | fuel + 1, found => do
    -- at most two marks of the text may stand before the three that end it
    let marks := (((← get).rest.takeWhile (· = mark)).take 5).length
    let readMarks := takeExactly marks (· = mark)
    if 3 ≤ marks then
      let _ ← readMarks
      return String.ofList (List.replicate (marks - 3) mark ++ found).reverse
    else
      let more := if marks = 0 then readLine escapes else readMarks <* ahead (readLine escapes)
      match ← attempt more with
      | some cs => readLinesTail mark escapes fuel (cs.reverse ++ found)
      | none => refuse

/-- A string that may span lines. -/
def readLines (mark : Char) (escapes : Bool) : Reader String := do
  let _ ← takeExactly 3 (· = mark)
  let _ ← attempt newline
  commit (readLinesTail mark escapes ((← remaining) + 1) [])

/-- A string of any form. -/
def readString : Reader String :=
  orElse (part .basicLines (readLines '"' true)) <| orElse readQuoted <|
    orElse (part .literalLines (readLines '\'' false)) readLiteral

end ScriptSandbox.Toml
