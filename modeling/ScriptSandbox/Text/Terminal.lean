/-!
# Text without control sequences

Control sequences of a terminal begin with an escape character. Of a text only what a terminal
prints is kept: characters outside of such sequences, without control characters other than blanks
and line ends. A blank or line end inside a sequence ends it, unless the sequence holds a text of
its own. Outside of ASCII, a character ends a sequence too, and of its bytes the first one is lost.

## Main definitions

* `Text.Sequence`: what is known of the sequence that is being read
* `Text.printed`: the printed characters
-/

namespace ScriptSandbox.Text

/-- The control sequence that is being read. -/
inductive Sequence where
  /-- There is none. -/
  | none
  /-- An escape character has come. -/
  | escape
  /-- Intermediate characters have come behind the escape character. -/
  | intermediate
  /-- The parameters of a control function. -/
  | parameters
  /-- A text of its own, which a bell may end. -/
  | text (bell : Bool)
  deriving Repr, DecidableEq

namespace Sequence

/-- A control character that is a blank or ends a line. -/
def isSpacing (c : Char) : Bool := c ∈ ['\t', '\n', '\x0c', '\r']

/-- What is read behind an escape character. -/
def afterEscape (c : Char) : Sequence :=
  if 0x20 ≤ c.toNat ∧ c.toNat < 0x30 then .intermediate
  else if c = '[' then .parameters
  else if c = ']' then .text true
  else if c ∈ ['P', 'X', '^', '_'] then .text false
  else .none

/-- The sequence behind a character of ASCII that is printed in no sequence. -/
def next (s : Sequence) (c : Char) : Sequence :=
  if c = '\x1b' then .escape
  else if c = '\x18' ∨ c = '\x1a' then .none
  else if c = '\x07' ∧ s = .text true then .none
  else if c.toNat < 0x20 ∨ c.toNat = 0x7F then s
  else match s with
    | .none => .none
    | .escape => afterEscape c
    | .intermediate => if c.toNat < 0x30 then s else .none
    | .parameters => if c.toNat < 0x40 then s else .none
    | .text _ => s

end Sequence

/-- What stands for the bytes of a character whose first byte is lost. -/
def broken (c : Char) : List Char := List.replicate (c.utf8Size - 1) '\uFFFD'

/-- The printed characters behind a part of a sequence. -/
def printedIn (s : Sequence) : List Char → List Char
  | [] => []
  | c :: cs =>
    match s with
    | .none =>
      if Sequence.isSpacing c ∨ 0x20 ≤ c.toNat ∧ c.toNat ≠ 0x7F then c :: printedIn .none cs
      else printedIn (s.next c) cs
    | .text _ =>
      if 0x80 ≤ c.toNat then broken c ++ printedIn .none cs else printedIn (s.next c) cs
    | _ =>
      if 0x80 ≤ c.toNat then broken c ++ printedIn .none cs
      else if Sequence.isSpacing c then c :: printedIn .none cs
      else printedIn (s.next c) cs

/-- The characters of a text that a terminal prints. -/
def printed (s : String) : String := String.ofList (printedIn .none s.toList)

end ScriptSandbox.Text
