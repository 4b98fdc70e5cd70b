import ScriptSandbox.Toml.Value

/-!
# TOML documents as text

A document is a sequence of lines: blank lines, headers, and keys with values. A key belongs to the
table whose header came last. A table is put into the document when it ends.

## Main definitions

* `Toml.Section`: the table that keys belong to
* `Toml.read`: the document that a text is
-/

namespace ScriptSandbox.Toml

open Reader

/-- The table that keys belong to. -/
structure Section where
  /-- The enclosing tables and the key in the innermost one; `none` for the document itself. -/
  header : Option (List Key × Key) := none
  /-- Whether the header is between double brackets. -/
  repeated : Bool := false
  span : Span := ⟨0, 0⟩
  entries : Entries := []

namespace Section

/-- The names of the keys in the header. -/
def path (s : Section) : List String :=
  match s.header with
  | none => []
  | some (outer, key) => (outer ++ [key]).map (·.name)

/-- The document with a section put into it. -/
def close (s : Section) (document : Entries) : Except Cause Entries :=
  match s.header with
  | none => .ok s.entries
  | some (outer, key) =>
    let put := if s.repeated then Entries.addTable else Entries.putTable
    (document.within (fun es => .ok ((), put key s.span s.entries es)) [] outer).map (·.2)

/-- A new section, with the document that remains without it. -/
def start (repeated : Bool) (span : Span) (outer : List Key) (key : Key) (document : Entries) :
    Except Cause (Section × Entries) :=
  if repeated then
    (document.within (Entries.checkTables outer key) [] outer).map fun (_, document) =>
      ({ header := some (outer, key), repeated, span }, document)
  else
    (document.within (Entries.takeTable outer key) [] outer).map fun (entries, document) =>
      ({ header := some (outer, key), span, entries }, document)

/-- A section with one more key. -/
def put (s : Section) (key : List Key) (span : Span) (v : Node) : Except Cause Section := do
  let entries ← s.entries.putDotted (some s.path) (span, v) key
  return { s with entries, span := ⟨s.span.start, span.stop⟩ }

end Section

/-- Reads a header and the rest of its line. -/
def readHeader (s : Section) (document : Entries) : Reader (Section × Entries) := part .header do
  let start ← place
  let repeated := (← ahead (takeExactly 2 fun _ => true)) = ['[', '[']
  let closing := if repeated then "]]" else "]"
  let line : Reader (List Key × Span) := do
    word (if repeated then "[[" else "[")
    let key ← readKey
    expecting [.text ".", .text closing] (word closing)
    let stop ← place
    lineEnd
    return (key, ⟨start, stop⟩)
  checked line fun (key, span) => do
    let document ← s.close document
    match key.getLast? with
    | some last => Section.start repeated span key.dropLast last document
    | none => return (s, document)

/-- Reads a key, its value and the rest of the line. -/
def readEntry (s : Section) : Reader Section :=
  let line : Reader (List Key × Span × Node) := do
    let key ← readKey
    readEquals
    let v ← readValue (4 * (← remaining) + 4) 0
    lineEnd
    return (key, v)
  checked line fun (key, span, v) => s.put key span v

/-- Reads all lines. -/
def readDocument : (fuel : Nat) → Section → Entries → Reader Entries
  | 0, _, _ => refuse
  | fuel + 1, s, document => do
    blanks
    match ← peek with
    | none => checked (return ()) fun _ => s.close document
    | some '#' =>
      comment
      newlineOrEnd
      readDocument fuel s document
    | some '\n' | some '\r' =>
      -- a carriage return by itself breaks no line
      if (← attempt newline).isNone then refuse
      readDocument fuel s document
    | some '[' =>
      let (s, document) ← readHeader s document
      readDocument fuel s document
    | some _ => readDocument fuel (← readEntry s) document

/-- The document that a text is. A byte order mark may come first. -/
def read (text : String) : Except Refusal Entries :=
  let all : Reader Entries := do
    let _ ← accept '\uFEFF'
    readDocument ((← remaining) + 1) {} []
  (all.run ⟨0, text.toList⟩).map (·.1)

end ScriptSandbox.Toml
