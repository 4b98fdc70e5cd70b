/-!
# Symbols with a hash

A symbol of this scheme is a list of identifiers between `_ZN` and `E`, each after its length; the
last one is a hash. Characters that identifiers cannot have are spelt out between dollar signs, and
two points stand for two colons.

## Main definitions

* `Hashed.Symbol`: the identifiers of a symbol, and what follows them
* `Hashed.read?`: the symbol in a text
* `Hashed.Symbol.text`: the path it stands for
-/

namespace ScriptSandbox.Symbol.Hashed

/-- The identifiers of a symbol, and what follows them. -/
structure Symbol where
  identifiers : List (List Char)
  suffix : List Char
  deriving Repr, DecidableEq

/-! ### Reading -/

/-- What a symbol starts with. Tools take away an underscore or add one. -/
def openings : List (List Char) := ["_ZN".toList, "ZN".toList, "__ZN".toList]

/-- The rest of a text behind the first one of some openings that it has. -/
def behindOpening? (openings : List (List Char)) (s : List Char) : Option (List Char) :=
  openings.findSome? fun o => if o.isPrefixOf s then some (s.drop o.length) else none

/-- The number that digits are. -/
def digitsValue (ds : List Char) : Nat := ds.foldl (fun n d => 10 * n + (d.toNat - '0'.toNat)) 0

/-- Identifiers up to the end mark, and the text behind it. Every identifier has a digit, so `fuel`
may be the number of characters. -/
def identifiers? : (fuel : Nat) → List Char → Option (List (List Char) × List Char)
  | _, 'E' :: rest => some ([], rest)
  | 0, _ => none
  | fuel + 1, s =>
    let (digits, rest) := s.span (·.isDigit)
    let length := digitsValue digits
    if digits.isEmpty || rest.length ≤ length then none
    else (identifiers? fuel (rest.drop length)).map fun (found, suffix) =>
      (rest.take length :: found, suffix)

/-- The symbol in a text. All of it is ASCII. -/
def read? (s : List Char) : Option Symbol := do
  let s ← behindOpening? openings s
  if s.any fun c => 128 ≤ c.toNat then none
  let (identifiers, suffix) ← identifiers? s.length s
  return ⟨identifiers, suffix⟩

/-! ### Writing -/

/-- The characters with a name, by their names. -/
def namedCharacters : List (String × Char) :=
  [("SP", '@'), ("BP", '*'), ("RF", '&'), ("LT", '<'), ("GT", '>'), ("LP", '('), ("RP", ')'),
    ("C", ',')]

/-- The value of a digit in hexadecimal, with small letters. -/
def hexDigit? (c : Char) : Option Nat :=
  if c.isDigit then some (c.toNat - '0'.toNat)
  else if 'a' ≤ c ∧ c ≤ 'f' then some (10 + (c.toNat - 'a'.toNat))
  else none

/-- Whether a character controls a terminal and is no text. -/
def isControl (c : Char) : Bool := c.toNat < 0x20 || 0x7F ≤ c.toNat && c.toNat < 0xA0

/-- The character with a code point in hexadecimal, unless it is a control character. -/
def codedCharacter? (digits : List Char) : Option Char := do
  if digits.isEmpty then none
  let ds ← digits.mapM hexDigit?
  let n := ds.foldl (fun n d => 16 * n + d) 0
  if n.isValidChar ∧ !isControl (Char.ofNat n) then some (Char.ofNat n) else none

/-- The character that is spelt out between dollar signs. -/
def spelt? (s : List Char) : Option Char :=
  (namedCharacters.lookup (String.ofList s)).or
    (match s with
    | 'u' :: digits => codedCharacter? digits
    | _ => none)

/-- What an identifier stands for. From a dollar sign on that spells out no character, it is written
as it is. -/
def unescape : (s : List Char) → List Char
  | [] => []
  | '.' :: '.' :: rest => ':' :: ':' :: unescape rest
  | c :: rest =>
    if c = '$' then
      match rest.span (· ≠ '$'), spelt? (rest.takeWhile (· ≠ '$')) with
      | (_, _ :: _), some x => x :: unescape (rest.dropWhile (· ≠ '$')).tail
      | _, _ => c :: rest
    else c :: unescape rest
termination_by s => s.length
decreasing_by
  all_goals simp only [List.length_cons, List.length_tail]
  · omega
  · have := (List.dropWhile_suffix (l := rest) (· ≠ '$')).length_le
    omega
  · omega

/-- The text of an identifier. An underscore makes one that starts with a dollar sign a proper
identifier. -/
def identifierText (s : List Char) : List Char :=
  match s with
  | '_' :: '$' :: rest => unescape ('$' :: rest)
  | s => unescape s

/-- The path that a symbol stands for. -/
def Symbol.text (s : Symbol) : String :=
  "::".intercalate (s.identifiers.map fun i => String.ofList (identifierText i))

end ScriptSandbox.Symbol.Hashed
