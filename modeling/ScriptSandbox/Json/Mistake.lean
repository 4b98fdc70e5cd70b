import ScriptSandbox.Json.Writer
import ScriptSandbox.Text.Quoted

/-!
# Mistakes in documents

A document that is well formed may still not have the shape that is wanted.
-/

namespace ScriptSandbox.Json

/-- A value as a mistake mentions it. -/
def Value.mention (v : Value) : String :=
  match v with
  | .null => "null"
  | .bool _ => "boolean `" ++ v.text ++ "`"
  | .number (.integer _) => "integer `" ++ v.text ++ "`"
  | .number (.double _) => "floating point `" ++ v.text ++ "`"
  | .string s => "string " ++ Text.quoted s
  | .array _ => "sequence"
  | .object _ => "map"

/-- How a document differs from the shape that is wanted. -/
inductive Mistake where
  | wrongType (found : Value) (expected : String)
  | missingField (name : String)
  | tooShort (length : Nat) (expected : String)
  | tooLong (length : Nat)

/-- The wording of a mistake. -/
def Mistake.message : Mistake → String
  | .wrongType found expected => "invalid type: " ++ found.mention ++ ", expected " ++ expected
  | .missingField name => "missing field `" ++ name ++ "`"
  | .tooShort length expected => s!"invalid length {length}, expected {expected}"
  | .tooLong length => s!"invalid length {length}, expected fewer elements in array"

/-- The text of a string. -/
def Value.asString (v : Value) : Except Mistake String :=
  match v with
  | .string s => .ok s
  | v => .error (.wrongType v "a string")

end ScriptSandbox.Json
