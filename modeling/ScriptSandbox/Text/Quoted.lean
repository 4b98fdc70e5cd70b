import ScriptSandbox.Text.Printable

/-!
# Quoted text

Text between double quotes, as messages show it: quotes, backslashes and line ends are written with
a backslash, and what is not printable as a code point in braces.
-/

namespace ScriptSandbox.Text

/-- A character as it is written between quotes. -/
def escapeQuoted (c : Char) : List Char :=
  if c = '"' then ['\\', '"']
  else if c = '\\' then ['\\', '\\']
  else if c = '\n' then ['\\', 'n']
  else if c = '\r' then ['\\', 'r']
  else if c = '\t' then ['\\', 't']
  else if c.toNat = 0 then ['\\', '0']
  else if isPrintable c then [c]
  else ['\\', 'u', '\x7b'] ++ Nat.toDigits 16 c.toNat ++ ['\x7d']

/-- Text between quotes. -/
def quoted (s : String) : String := String.ofList ('"' :: s.toList.flatMap escapeQuoted ++ ['"'])

end ScriptSandbox.Text
