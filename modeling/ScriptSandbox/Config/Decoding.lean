import ScriptSandbox.Config.Basic
import ScriptSandbox.Toml.Document

/-!
# Configurations as documents

A section is a table, whose keys are the names of the fields, or an array with the values of the
first fields in their order. Fields that are absent keep their defaults; keys that are no fields and
further elements are ignored. The first value that does not fit is reported.

## Main definitions

* `Config.Complaint`: a value that does not fit
* `Config.Field`: a field of a section
* `Config.Settings.ofDocument`: the configuration of a document
* `Config.Settings.parse`: the configuration of a text
-/

namespace ScriptSandbox.Config

open Toml (Node Span Entries)

/-- A value that does not fit. -/
inductive Complaint where
  | wrongType (found : Node) (expected : String)
  | outOfRange (n : Int) (expected : String)

/-- The wording of a complaint. -/
def Complaint.message : Complaint → String
  | .wrongType found expected => "invalid type: " ++ found.mention ++ ", expected " ++ expected
  | .outOfRange n expected => s!"invalid value: integer `{n}`, expected {expected}"

/-- A complaint with the stretch of text it is about. -/
structure Misfit where
  span : Span
  complaint : Complaint

/-! ### Values -/

/-- The text of a string. -/
def asText : Node → Except Complaint String
  | .scalar (.text s) => .ok s
  | n => .error (.wrongType n "a string")

/-- A natural number below `bound`. -/
def asNatural (bound : Nat) (expected : String) : Node → Except Complaint Nat
  | .scalar (.integer n) =>
    if 0 ≤ n ∧ n < bound then .ok n.toNat else .error (.outOfRange n expected)
  | n => .error (.wrongType n expected)

/-! ### Sections -/

/-- A field of a section: its name, and how a value changes it. -/
structure Field (σ : Type) where
  name : String
  store : σ → Node → Except Complaint σ

/-- A field that holds a text. -/
def Field.text {σ : Type} (name : String) (put : σ → String → σ) : Field σ :=
  ⟨name, fun s n => (asText n).map (put s)⟩

/-- A field that holds a natural number. -/
def Field.natural {σ : Type} (name : String) (bound : Nat) (expected : String)
    (put : σ → Nat → σ) : Field σ :=
  ⟨name, fun s n => (asNatural bound expected n).map (put s)⟩

/-- The fields of the server section, in order. -/
def Server.fields : List (Field Server) :=
  [ .text "host" fun s v => { s with host := v },
    .natural "port" UInt16.size "u16" fun s n => { s with port := n.toUInt16 },
    .natural "max_body_bytes" UInt64.size "usize" fun s n => { s with maxBodyBytes := n.toUInt64 },
    .natural "request_timeout_ms" UInt64.size "u64" fun s n =>
      { s with requestTimeoutMs := n.toUInt64 } ]

/-- The fields of the engine section, in order. -/
def Engine.fields : List (Field Engine) :=
  [ .text "path" fun e v => { e with path := v },
    .natural "max_image_size_mib" UInt64.size "u64" fun e n =>
      { e with maxImageSizeMib := n.toUInt64 },
    .natural "memory_limit_mib" UInt32.size "u32" fun e n =>
      { e with memoryLimitMib := n.toUInt32 },
    .natural "timeout_ms" UInt64.size "u64" fun e n => { e with timeoutMs := n.toUInt64 },
    .natural "max_output_bytes" UInt64.size "usize" fun e n =>
      { e with maxOutputBytes := n.toUInt64 },
    .natural "epoch_tick_ms" UInt64.size "u64" fun e n => { e with epochTickMs := n.toUInt64 } ]

/-- A section with the value of a field. -/
def storeAt {σ : Type} (f : Field σ) (s : σ) (span : Span) (n : Node) : Except Misfit σ :=
  (f.store s n).mapError (⟨span, ·⟩)

/-- A section with the fields that a table names. -/
def storeEntries {σ : Type} (fields : List (Field σ)) (s : σ) (es : Entries) : Except Misfit σ :=
  es.foldlM (fun s (name, span, n) =>
    match fields.find? (·.name = name) with
    | some f => storeAt f s span n
    | none => .ok s) s

/-- A section with the fields that an array gives by position. -/
def storeElements {σ : Type} (fields : List (Field σ)) (s : σ) (vs : List (Span × Node)) :
    Except Misfit σ :=
  (fields.zip vs).foldlM (fun s (f, span, n) => storeAt f s span n) s

/-- A section with the fields that a value gives. A date has none of them. -/
def storeSection {σ : Type} (fields : List (Field σ)) (expected : String) (s : σ) (span : Span) :
    Node → Except Misfit σ
  | .table _ es => storeEntries fields s es
  | .array vs | .tables vs => storeElements fields s vs
  | .scalar .moment => .ok s
  | n => .error ⟨span, .wrongType n expected⟩

/-- The configuration of a document. -/
def Settings.ofDocument (document : Entries) : Except Misfit Settings :=
  document.foldlM (fun s (name, span, n) =>
    if name = "server" then
      (storeSection Server.fields "struct ServerConfig" {} span n).map ({ s with server := · })
    else if name = "engine" then
      (storeSection Engine.fields "struct EngineConfig" {} span n).map ({ s with engine := · })
    else .ok s) {}

/-- Why a text is no configuration. -/
inductive ParseError where
  /-- It is no document. -/
  | malformed (r : Toml.Refusal)
  /-- A value does not fit. -/
  | misfit (m : Misfit)

/-- The configuration of a text. -/
def Settings.parse (text : String) : Except ParseError Settings := do
  let document ← (Toml.read text).mapError .malformed
  (Settings.ofDocument document).mapError .misfit

/-! ### Reports -/

/-- A place in a text: the number of the line, the column, from zero on, and the line. -/
structure Position where
  line : Nat
  column : Nat
  content : String
  deriving Repr, DecidableEq

/-- The position of the byte number `index` of some characters; `line` is the number of their line
and `before` holds the reversed characters before them on it. Columns are counted in characters or,
for a byte inside a character, in bytes. -/
def locate (line : Nat) (before : List Char) (index : Nat) : List Char → Position
  | [] => ⟨line, before.length, String.ofList before.reverse⟩
  | c :: s =>
    if index < c.utf8Size then
      let column := if index + 1 = c.utf8Size then before.length
        else Toml.byteCount before + index
      ⟨line, column, String.ofList (before.reverse ++ (c :: s).takeWhile (· ≠ '\n'))⟩
    else if c = '\n' then locate (line + 1) [] (index - 1) s
    else locate line (c :: before) (index - c.utf8Size) s

/-- The position of a place in a text. The end is behind the last byte. -/
def positionOf (text : String) (place : Nat) : Position :=
  let last := text.utf8ByteSize - 1
  let p := locate 1 [] (min place last) text.toList
  { p with column := p.column + (place - last) }

/-- The stretch of a text that a message is about, marked on its first line, and the message. -/
def snippet (text : String) (span : Span) (message : String) : String :=
  let p := positionOf text span.start
  let blanks (n : Nat) : String := String.ofList (List.replicate n ' ')
  let margin := blanks ((toString p.line).length + 1)
  let width := min (span.stop - span.start) (p.content.utf8ByteSize - p.column)
  s!"TOML parse error at line {p.line}, column {p.column + 1}\n" ++
    margin ++ "|\n" ++
    s!"{p.line} | " ++ p.content ++ "\n" ++
    margin ++ "|" ++ blanks (p.column + 1) ++ String.ofList (List.replicate (max 1 width) '^') ++
    "\n" ++ message ++ "\n"

/-- The character behind a number of bytes, as a stretch of text. -/
def characterAt (text : String) (place : Nat) : Span :=
  ⟨place, place + sizeAt place text.toList⟩
where
  /-- The size of the character behind a number of bytes, zero at the end. -/
  sizeAt (index : Nat) : List Char → Nat
    | [] => 0
    | c :: s => if index = 0 then c.utf8Size else sizeAt (index - c.utf8Size) s

/-- The report of a text that is no configuration. -/
def ParseError.report (text : String) : ParseError → Report
  | .malformed r => { message := snippet text (characterAt text r.place) r.message }
  | .misfit m => { message := snippet text m.span m.complaint.message }

end ScriptSandbox.Config
