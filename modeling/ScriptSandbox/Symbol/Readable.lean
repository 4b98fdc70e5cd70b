import ScriptSandbox.Symbol.Itanium.Printer
import ScriptSandbox.Symbol.Itanium.Reader
import ScriptSandbox.Symbol.Versioned

/-!
# Readable names

Compilers give functions names that linkers can handle. A name that follows one of three schemes is
shown as what the programmer wrote, and any other name as it is.

## Main definitions

* `Symbol.path?`: the path that a symbol of one of two schemes stands for
* `Symbol.readable`: a name as it is shown
-/

namespace ScriptSandbox.Symbol

/-- What marks a copy that an optimiser has made. Behind it are capital digits in hexadecimal. -/
def copyMark : List Char := ".llvm.".toList

/-- Whether a character may stand behind the mark of a copy. -/
def isCopyDigit (c : Char) : Bool := c.isDigit || 'A' ≤ c && c ≤ 'F' || c = '@'

/-- The parts of a text before and behind the first place where another one stands. -/
def splitAtFirst? (mark : List Char) : List Char → Option (List Char × List Char)
  | [] => if mark.isEmpty then some ([], []) else none
  | c :: s =>
    if mark.isPrefixOf (c :: s) then some ([], (c :: s).drop mark.length)
    else (splitAtFirst? mark s).map fun (before, behind) => (c :: before, behind)

/-- A symbol without the mark of a copy. -/
def withoutCopyMark (s : List Char) : List Char :=
  match splitAtFirst? copyMark s with
  | some (before, behind) => if behind.all isCopyDigit then before else s
  | none => s

/-- Whether text may be kept behind a symbol: words behind points, in visible ASCII characters. -/
def isKept (suffix : List Char) : Bool :=
  suffix.isEmpty || suffix.head? = some '.' && suffix.all fun c => 0x20 < c.toNat && c.toNat < 0x7F

/-- The path that a symbol stands for, with what may be kept behind it. -/
def path? (s : List Char) : Option String := do
  let s := withoutCopyMark s
  let (text, suffix) ←
    ((Hashed.read? s).map fun h => (h.text, h.suffix)).or (Versioned.read? s)
  if isKept suffix then return text ++ String.ofList suffix else none

/-- A name as it is shown. -/
def readable (name : String) : String :=
  let s := name.toList
  ((path? s).or ((Itanium.read? s).bind (·.text?))).getD name

end ScriptSandbox.Symbol
