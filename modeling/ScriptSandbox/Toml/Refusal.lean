/-!
# Why a text is no TOML document

A refusal tells where reading stopped, which part of a document was being read, what could have
stood there instead, and what else was wrong.

## Main definitions

* `Toml.Part`: parts of documents
* `Toml.Expected`: what could have stood at a place
* `Toml.Cause`: what else can be wrong
* `Toml.Refusal`: refusals
* `Toml.Refusal.message`: the wording of a refusal
-/

namespace ScriptSandbox.Toml

/-- A part of a document that has a name. -/
inductive Part where
  | key
  | header
  | string
  | basicString
  | basicLines
  | literalString
  | literalLines
  | escape
  | shortCodePoint
  | longCodePoint
  | integer
  | hexadecimal
  | octal
  | binary
  | float
  | dateTime
  | time
  | offset
  | array
  | braces
  deriving Repr, DecidableEq

/-- The name of a part. -/
def Part.name : Part → String
  | .key => "key"
  | .header => "table header"
  | .string => "string"
  | .basicString => "basic string"
  | .basicLines => "multiline basic string"
  | .literalString => "literal string"
  | .literalLines => "multiline literal string"
  | .escape => "escape sequence"
  | .shortCodePoint => "unicode 4-digit hex code"
  | .longCodePoint => "unicode 8-digit hex code"
  | .integer => "integer"
  | .hexadecimal => "hexadecimal integer"
  | .octal => "octal integer"
  | .binary => "binary integer"
  | .float => "floating-point number"
  | .dateTime => "date-time"
  | .time => "time"
  | .offset => "time offset"
  | .array => "array"
  | .braces => "inline table"

/-- What could have stood at a place. -/
inductive Expected where
  | text (s : String)
  | newline
  | digit
  | leadingDigit
  deriving Repr, DecidableEq

/-- The wording of what was expected. -/
def Expected.name : Expected → String
  | .text s => "`" ++ s ++ "`"
  | .newline => "newline"
  | .digit => "digit"
  | .leadingDigit => "leading digit"

/-- What else can be wrong with a text. -/
inductive Cause where
  /-- A key is taken, in the table with the given path if that is known. -/
  | repeatedKey (key : String) (table : Option (List String))
  /-- A key leads through a value that is no table. -/
  | notTable (path : List String) (kind : String)
  | outOfRange
  | tooDeep
  | tooLarge
  | tooSmall
  deriving Repr, DecidableEq

/-- The wording of a cause. -/
def Cause.message : Cause → String
  | .repeatedKey key none => "duplicate key `" ++ key ++ "`"
  | .repeatedKey key (some []) => "duplicate key `" ++ key ++ "` in document root"
  | .repeatedKey key (some path) =>
    "duplicate key `" ++ key ++ "` in table `" ++ ".".intercalate path ++ "`"
  | .notTable path kind =>
    "dotted key `" ++ ".".intercalate path ++ "` attempted to extend non-table type (" ++ kind ++ ")"
  | .outOfRange => "value is out of range"
  | .tooDeep => "recursion limit exceeded"
  | .tooLarge => "number too large to fit in target type"
  | .tooSmall => "number too small to fit in target type"

/-- Why a text is no document. -/
structure Refusal where
  /-- The number of bytes before the place where reading stopped. -/
  place : Nat
  /-- The innermost part that was being read. -/
  part : Option Part := none
  expected : List Expected := []
  cause : Option Cause := none
  /-- Whether no other reading of the text is tried. -/
  final : Bool := false
  deriving Repr, DecidableEq

/-- The lines that tell why a text is no document. -/
def Refusal.lines (r : Refusal) : List String :=
  (r.part.map fun p => "invalid " ++ p.name).toList ++
    (if r.expected = [] then []
     else ["expected " ++ ", ".intercalate (r.expected.map Expected.name)]) ++
    (r.cause.map Cause.message).toList

/-- The wording of a refusal. -/
def Refusal.message (r : Refusal) : String := "\n".intercalate r.lines

end ScriptSandbox.Toml
