import ScriptSandbox.Decimal.Layout
import ScriptSandbox.Text.Quoted
import ScriptSandbox.Toml.Refusal

/-!
# TOML documents

A document is a table. Every value is kept with the stretch of text it was read from. A table knows
how it came about, since that decides what may still be added to it: a table with a header of its
own or between braces is complete, a table that only dotted keys made can be extended by dotted
keys, and a table that is only a part of other headers may still get a header of its own.

## Main definitions

* `Toml.Node`: scalars, arrays and tables
* `Toml.Node.mention`: a value as a complaint mentions it
* `Toml.Entries.putDotted`: a value put at the end of a dotted key
* `Toml.Entries.within`: a change of the table that a header is below
-/

namespace ScriptSandbox.Toml

/-- A stretch of text, in bytes. -/
structure Span where
  start : Nat
  stop : Nat
  deriving Repr, DecidableEq

/-- A value without parts. -/
inductive Scalar where
  | text (s : String)
  | integer (n : Int)
  | float (x : Float)
  | boolean (b : Bool)
  /-- A date, a time or both. -/
  | moment
  deriving Repr

/-- How a table came about. -/
inductive Origin where
  /-- It has a header of its own. -/
  | header
  /-- It is a part of other headers. -/
  | implied
  /-- It is a part of dotted keys. -/
  | dotted
  /-- It is written between braces. -/
  | braces
  deriving Repr, DecidableEq

/-- A value. -/
inductive Node where
  | scalar (s : Scalar)
  | array (elements : List (Span × Node))
  /-- Tables that have headers between double brackets. -/
  | tables (elements : List (Span × Node))
  | table (origin : Origin) (entries : List (String × Span × Node))
  deriving Repr

/-- The keys of a table with their values, in order. -/
abbrev Entries := List (String × Span × Node)

/-- A key with the stretch of text it was read from. -/
structure Key where
  name : String
  span : Span
  deriving Repr, DecidableEq

/-! ### Complaints -/

/-- Floats are always positional in complaints. -/
def floatLayout : Decimal.Layout := ⟨-1000, 1000, false⟩

/-- The text of a float. -/
def floatText (x : Float) : String :=
  if x.isNaN then "NaN"
  else if x.isInf then (if x < 0 then "-inf" else "inf")
  else String.ofList (Decimal.doubleChars floatLayout x)

/-- A value as a complaint mentions it. -/
def Node.mention : Node → String
  | .scalar (.text s) => "string " ++ Text.quoted s
  | .scalar (.integer n) => s!"integer `{n}`"
  | .scalar (.float x) => "floating point `" ++ floatText x ++ "`"
  | .scalar (.boolean b) => "boolean `" ++ (if b then "true" else "false") ++ "`"
  | .scalar .moment => "map"
  | .array _ | .tables _ => "sequence"
  | .table .. => "map"

/-! ### Keys in complaints -/

/-- The kind of a value. -/
def Node.kind : Node → String
  | .scalar (.text _) => "string"
  | .scalar (.integer _) => "integer"
  | .scalar (.float _) => "float"
  | .scalar (.boolean _) => "boolean"
  | .scalar .moment => "datetime"
  | .array _ | .tables _ => "array"
  | .table .. => "inline table"

/-- A character of a key without marks. -/
def isBareChar (c : Char) : Bool :=
  ('a' ≤ c && c ≤ 'z') || ('A' ≤ c && c ≤ 'Z') || ('0' ≤ c && c ≤ '9') || c = '-' || c = '_'

/-- A character of a string between quotation marks. -/
def escaped (c : Char) : List Char :=
  match c with
  | '\x08' => ['\\', 'b']
  | '\t' => ['\\', 't']
  | '\n' => ['\\', 'n']
  | '\x0c' => ['\\', 'f']
  | '\r' => ['\\', 'r']
  | '"' => ['\\', '"']
  | '\\' => ['\\', '\\']
  | c =>
    if c.toNat < 0x20 ∨ c.toNat = 0x7F then
      ['\\', 'u', '0', '0', Nat.digitChar (c.toNat / 16), (Nat.digitChar (c.toNat % 16)).toUpper]
    else [c]

/-- A key as it can be written: without marks, between quotation marks or, if that saves escapes,
between apostrophes. -/
def keyText (name : String) : String :=
  let cs := name.toList
  let plain := cs.all fun c => (escaped c).length = 1
  let literal := cs.all fun c => c ≠ '\'' ∧ (c ∈ ['"', '\\', '\t'] ∨ (escaped c).length = 1)
  if !cs.isEmpty ∧ cs.all isBareChar then name
  else if !plain ∧ literal then "'" ++ name ++ "'"
  else "\"" ++ String.ofList (cs.flatMap escaped) ++ "\""

/-! ### Building tables -/

namespace Entries

/-- Whether a key is present. -/
def has (es : Entries) (name : String) : Bool := es.any (·.1 = name)

/-- The entries with the value of a key replaced. -/
def set (es : Entries) (name : String) (value : Span × Node) : Entries :=
  es.map fun e => if e.1 = name then (name, value) else e

/-- The last table of several. -/
def lastTable? (elements : List (Span × Node)) :
    Option (List (Span × Node) × Span × Origin × Entries) :=
  match elements.getLast? with
  | some (span, .table origin es) => some (elements.dropLast, span, origin, es)
  | _ => none

/-- The entries with a value at a key below a path of dotted keys. `table` is the path of the table
with the given entries, none for a table between braces; `seen` are the keys before the path. -/
def putBelow (table : Option (List String)) (leaf : Key) (value : Span × Node) :
    (seen : List String) → List Key → Entries → Except Cause Entries
  | _, [], es =>
    if es.has leaf.name then .error (.repeatedKey leaf.name table)
    else .ok (es ++ [(leaf.name, value)])
  | seen, k :: path, es =>
    let seen := seen ++ [k.name]
    match es.lookup k.name with
    | none => do
      let sub ← putBelow table leaf value seen path []
      return es ++ [(k.name, k.span, .table .dotted sub)]
    | some (span, .table origin sub) =>
      -- a table is complete if it stands between braces or has a header of its own
      if origin = .braces ∧ table.isSome then .error (.notTable seen (Node.table origin sub).kind)
      else if origin = .braces ∨ origin = .header then .error (.repeatedKey k.name none)
      -- what headers have only led through may be gone through, but gets no entry from outside
      else if origin = .implied ∧ path.isEmpty then .error (.repeatedKey leaf.name none)
      else do
        let sub ← putBelow table leaf value seen path sub
        return es.set k.name (span, .table origin sub)
    | some (span, .tables elements) =>
      match lastTable? elements with
      | some (before, place, origin, sub) =>
        if path.isEmpty then .error (.repeatedKey leaf.name none)
        else do
          let sub ← putBelow table leaf value seen path sub
          return es.set k.name (span, .tables (before ++ [(place, .table origin sub)]))
      | none => .error (.notTable seen (Node.tables elements).kind)
    | some (_, n) => .error (.notTable seen n.kind)

/-- The entries with a value at the end of a dotted key. Tables on the way are made. The key must not
be taken, and it must not lead into a table that is complete. -/
def putDotted (table : Option (List String)) (value : Span × Node) (path : List Key)
    (es : Entries) : Except Cause Entries :=
  match path.getLast? with
  | some leaf => putBelow table leaf value [] path.dropLast es
  | none => .ok es

/-- Changes the table at the end of a path of headers. Tables on the way are made, and of several
tables the last one is entered. The path must not lead through another value. -/
def within {α : Type} (change : Entries → Except Cause (α × Entries)) :
    (seen : List String) → List Key → Entries → Except Cause (α × Entries)
  | _, [], es => change es
  | seen, k :: path, es =>
    let seen := seen ++ [k.name]
    match es.lookup k.name with
    | none => do
      let (a, sub) ← within change seen path []
      return (a, es ++ [(k.name, k.span, .table .implied sub)])
    | some (span, .table origin sub) =>
      if origin = .braces then .error (.notTable seen (Node.table origin sub).kind)
      else do
        let (a, sub) ← within change seen path sub
        return (a, es.set k.name (span, .table origin sub))
    | some (span, .tables elements) =>
      match lastTable? elements with
      | some (before, place, origin, sub) => do
        let (a, sub) ← within change seen path sub
        return (a, es.set k.name (span, .tables (before ++ [(place, .table origin sub)])))
      | none => .error (.notTable seen (Node.tables elements).kind)
    | some (_, n) => .error (.notTable seen n.kind)

/-- A taken key at the end of a path of headers. -/
def taken (outer : List Key) (k : Key) : Cause :=
  .repeatedKey (keyText k.name) (some (outer.map (·.name)))

/-- Takes out the table that gets a header: a new one, or one that was only a part of others. -/
def takeTable (outer : List Key) (k : Key) (es : Entries) : Except Cause (Entries × Entries) :=
  match es.lookup k.name with
  | none => .ok ([], es)
  | some (_, .table .implied sub) => .ok (sub, es.filter (·.1 ≠ k.name))
  | some _ => .error (taken outer k)

/-- Refuses a header between double brackets whose key has another value than such tables. -/
def checkTables (outer : List Key) (k : Key) (es : Entries) : Except Cause (Unit × Entries) :=
  match es.lookup k.name with
  | none | some (_, .tables _) => .ok ((), es)
  | some _ => .error (taken outer k)

/-- Puts a table with a header behind the others. -/
def putTable (k : Key) (span : Span) (sub : Entries) (es : Entries) : Entries :=
  es ++ [(k.name, span, .table .header sub)]

/-- Adds a table to several. -/
def addTable (k : Key) (span : Span) (sub : Entries) (es : Entries) : Entries :=
  let element := (span, Node.table .header sub)
  match es.lookup k.name with
  | some (whole, .tables elements) =>
    es.set k.name (⟨whole.start, span.stop⟩, .tables (elements ++ [element]))
  | _ => es ++ [(k.name, span, .tables [element])]

end Entries

end ScriptSandbox.Toml
