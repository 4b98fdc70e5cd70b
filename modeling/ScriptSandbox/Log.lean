import ScriptSandbox.Text.Alphanumeric

/-!
# Logging

A record has a level and the component it comes from. A filter is a list of directives, each of
which gives the least severe level that is shown for the components whose names start with a text,
perhaps only for records with some fields or inside of a span. Of the directives that can be decided
for a record by itself, the most specific one decides.

## Main definitions

* `Log.Record`: a record
* `Log.Filter.ofText?`: the filter that a text describes
* `Log.Filter.shows`: whether a record is shown
-/

namespace ScriptSandbox.Log

/-- How severe a record is. -/
inductive Level where
  | error
  | warn
  | info
  | debug
  | trace
  deriving Repr, DecidableEq

namespace Level

/-- One for the most severe level, five for the least severe one. -/
def rank : Level → Nat
  | .error => 1
  | .warn => 2
  | .info => 3
  | .debug => 4
  | .trace => 5

/-- The name of a level. -/
def name : Level → String
  | .error => "ERROR"
  | .warn => "WARN"
  | .info => "INFO"
  | .debug => "DEBUG"
  | .trace => "TRACE"

end Level

/-- A record. -/
structure Record where
  level : Level
  component : String
  message : String
  deriving Repr, DecidableEq

/-! ### Records as they are shown -/

/-- A character of a message as it is shown: control characters that a terminal acts on are spelt
out. -/
def shownChar (c : Char) : List Char :=
  match c with
  | '\x07' => "\\x07".toList
  | '\x08' => "\\x08".toList
  | '\x0c' => "\\x0c".toList
  | '\x1b' => "\\x1b".toList
  | '\x7f' => "\\x7f".toList
  | c =>
    if 0x80 ≤ c.toNat ∧ c.toNat < 0xA0 then
      "\\u\x7b".toList ++ Nat.toDigits 16 c.toNat ++ ['\x7d']
    else [c]

/-- A record as it is shown. -/
def Record.line (r : Record) : String :=
  r.level.name ++ " " ++ r.component ++ ": " ++ String.ofList (r.message.toList.flatMap shownChar)

/-! ### Levels of filters -/

/-- A number of 64 bits in decimal digits with an optional plus sign. -/
def number? (s : List Char) : Option Nat :=
  let ds : List Char := match s with
    | '+' :: ds => ds
    | ds => ds
  let n : Nat := ds.foldl (fun n c => 10 * n + (c.toNat - '0'.toNat)) 0
  if ds.isEmpty ∨ !ds.all Char.isDigit ∨ UInt64.size ≤ n then none else some n

/-- The greatest rank that a word allows: a level in any case or its rank, zero for nothing at
all. -/
def rank? (word : List Char) : Option Nat :=
  match number? word with
  | some n => if n ≤ Level.trace.rank then some n else none
  | none =>
    match (String.ofList word).toLower with
    | "off" => some 0
    | "error" => some 1
    | "warn" => some 2
    | "info" => some 3
    | "debug" => some 4
    | "trace" => some 5
    | _ => none

/-! ### Directives -/

/-- A field that a directive asks for, with a value if it must have one. -/
structure Field where
  name : String
  value : Option String
  deriving Repr, DecidableEq

/-- What is shown for some components: the greatest rank, zero for nothing. A directive may be for
records with some fields only, or inside of a span only. -/
structure Directive where
  component : Option String := none
  span : Option String := none
  fields : List Field := []
  rank : Nat := Level.trace.rank
  deriving Repr, DecidableEq

namespace Directive

/-- The characters of a text from one place up to another. -/
def piece (text : List Char) (start stop : Nat) : List Char := (text.take stop).drop start

/-- A field: a name and, behind an equals sign, a value, up to another such sign. -/
def field (s : List Char) : Field :=
  let name := s.takeWhile (· ≠ '=')
  ⟨String.ofList name,
    match s.drop name.length with
    | '=' :: value => some (String.ofList (value.takeWhile (· ≠ '=')))
    | _ => none⟩

/-! Directives are read without the blanks around them. Their words, however, are cut out of the text
with the blanks, at the places where they stand without. -/

/-- The directive with the level that may stand behind it, given the rest from the place `start`. -/
def withLevel? (text : List Char) (d : Directive) (start : Nat) : List Char → Option Directive
  | [] => some d
  | '=' :: _ =>
    match text.drop (start + 1) with
    | [] => some d
    | level => (rank? level).map ({ d with rank := · })
  | _ => none

/-- The directive with a span or a field, given the rest behind the opening bracket, from the place
`start`. -/
def withSpan? (text : List Char) (d : Directive) (start : Nat) (rest : List Char) :
    Option Directive :=
  let name := rest.takeWhile fun c => c ≠ ']' ∧ c ≠ '\x7b'
  let stop := start + name.length
  let span := String.ofList (piece text start stop)
  match rest.drop name.length with
  | ']' :: rest => withLevel? text { d with span := some span } (stop + 1) rest
  | '\x7b' :: rest =>
    let inner := rest.takeWhile (· ≠ '\x7d')
    let fieldStop := stop + 1 + inner.length
    match rest.drop inner.length with
    | '\x7d' :: ']' :: rest =>
      let fields := [field (piece text (stop + 1) fieldStop)]
      let span := if span.isEmpty then none else some span
      if inner.isEmpty then none else withLevel? text { d with span, fields } (fieldStop + 2) rest
    | _ => none
  | _ => none

/-- A blank character or the end of a line. -/
def isBlank (c : Char) : Bool :=
  c = ' ' || ('\t' ≤ c && c ≤ '\r') || c ∈ ['\u0085', '\u00a0', '\u1680', '\u2028', '\u2029',
    '\u202f', '\u205f', '\u3000'] || ('\u2000' ≤ c && c ≤ '\u200a')

/-- A text without the blanks around it. -/
def trimmed (s : List Char) : List Char :=
  ((s.dropWhile isBlank).reverse.dropWhile isBlank).reverse

/-- Whether a directive may begin with a character. -/
def isStart (c : Char) : Bool := c ∈ ['-', ':', '_'] || Text.isAlphanumeric c

/-- The directive that a text describes: a level, or a component, a span or a field with an optional
level. -/
def ofText? (text : List Char) : Option Directive :=
  match trimmed text with
  | [] => none
  | '[' :: rest => withSpan? text {} 1 rest
  | c :: rest =>
    if !isStart c then none
    else
      let name := (c :: rest).takeWhile fun c => c ≠ '=' ∧ c ≠ '['
      let d : Directive := { component := some (String.ofList (piece text 0 name.length)) }
      match (c :: rest).drop name.length with
      | [] =>
        some ((rank? text).elim { d with component := some (String.ofList text) }
          fun rank => { rank })
      | '[' :: rest => withSpan? text d (name.length + 1) rest
      | rest => withLevel? text d name.length rest

/-- Whether a directive can be decided for a record by itself: it asks for no span and for no values
of fields. -/
def isStatic (d : Directive) : Bool := d.span.isNone && d.fields.all (·.value.isNone)

/-- Whether a directive is about spans. -/
def isDynamic (d : Directive) : Bool := d.span.isSome || !d.fields.isEmpty

/-- Whether a directive is about a record. A record has one field, its message. -/
def concerns (d : Directive) (r : Record) : Bool :=
  d.component.all (fun c => r.component.startsWith c) && d.fields.all (·.name = "message")

/-- How specific a directive is: the length of its component, and the number of its fields. -/
def weight (d : Directive) : Nat × Nat :=
  (d.component.elim 0 (·.utf8ByteSize + 1), d.fields.length)

/-- Whether a directive decides rather than an earlier one. -/
def outweighs (d e : Directive) : Bool :=
  e.weight.1 < d.weight.1 || e.weight.1 = d.weight.1 && e.weight.2 ≤ d.weight.2

end Directive

/-! ### Filters -/

/-- A list of directives. -/
abbrev Filter := List Directive

namespace Filter

/-- The filter that a text describes, as directives between commas. Without any, only errors are
shown. -/
def ofText? (text : String) : Option Filter :=
  match (text.splitOn ",").filter (· ≠ "") with
  | [] => some [{ rank := Level.error.rank }]
  | parts => parts.mapM fun part => Directive.ofText? part.toList

/-- The directive that decides about a record: of the most specific ones, the last. -/
def directive? (f : Filter) (r : Record) : Option Directive :=
  (f.filter fun d => d.isStatic && d.concerns r).foldl (fun best d =>
    if best.all d.outweighs then some d else best) none

/-- Whether a record is shown. -/
def shows (f : Filter) (r : Record) : Bool := (f.directive? r).any fun d => r.level.rank ≤ d.rank

end Filter

end ScriptSandbox.Log
