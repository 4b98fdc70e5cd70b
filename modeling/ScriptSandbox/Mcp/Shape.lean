import ScriptSandbox.Json.Basic

/-!
# Shapes of documents

A shape is a condition on a part of a document that may be absent. A record may be written in two
ways: as an object, in which each field stands at most once and other members do not matter, or as
an array of all its fields in their order.

## Main definitions

* `Mcp.Shape`: shapes
* `Mcp.Shape.optional`, `Mcp.Shape.listOf`, `Mcp.Shape.mapOf`: shapes made of another one
* `Mcp.Shape.oneOf`: names
* `Mcp.Shape.members`, `Mcp.Shape.record`: records
* `Mcp.Shape.tagged`: records of several kinds, told apart by a tag
-/

namespace ScriptSandbox.Mcp

open Json (Value)

/-- Members of an object, in the order of the text. -/
abbrev Members := List (String × Value)

/-- A condition on a part of a document that may be absent. -/
abbrev Shape := Option Value → Bool

namespace Shape

/-- Anything that is there. -/
def anything : Shape := Option.isSome

/-- A string. -/
def text : Shape
  | some (.string _) => true
  | _ => false

/-- A given string. -/
def word (s : String) : Shape
  | some (.string t) => t = s
  | _ => false

/-- A truth value. -/
def truth : Shape
  | some (.bool _) => true
  | _ => false

/-- A number. -/
def number : Shape
  | some (.number _) => true
  | _ => false

/-- An integer of 32 bits. -/
def integer : Shape := fun v => (v.bind Value.int32?).isSome

/-- An object. -/
def object : Shape
  | some (.object _) => true
  | _ => false

/-- A part that may be absent or null. -/
def optional (s : Shape) : Shape
  | none | some .null => true
  | v => s v

/-- An array of items of one shape. -/
def listOf (s : Shape) : Shape
  | some (.array items) => items.all fun v => s (some v)
  | _ => false

/-- An object of members of one shape. -/
def mapOf (s : Shape) : Shape
  | some (.object ms) => ms.all fun m => s (some m.2)
  | _ => false

/-- Null. -/
def null : Shape
  | some .null => true
  | _ => false

/-- Null or an empty object. -/
def blank : Shape
  | some .null | some (.object []) => true
  | _ => false

/-- One of some names: as a string, or as the name of the only member of an object, whose value has
the shape `value`. -/
def oneOf (names : List String) (value : Shape) : Shape
  | some (.string s) => s ∈ names
  | some (.object [(s, v)]) => s ∈ names && value (some v)
  | _ => false

/-! ### Records -/

/-- Whether members hold the fields of a record, none of them repeated. -/
def members (fields : List (String × Shape)) (ms : Members) : Bool :=
  fields.all fun (name, shape) =>
    match ms.filter (·.1 = name) with
    | [] => shape none
    | [(_, v)] => shape (some v)
    | _ => false

/-- Whether items are the fields of a record. -/
def items (fields : List (String × Shape)) (vs : List Value) : Bool :=
  fields.length = vs.length && (fields.zip vs).all fun ((_, shape), v) => shape (some v)

/-- A record: an object with its fields, or the array of them. -/
def record (fields : List (String × Shape)) : Shape
  | some (.object ms) => members fields ms
  | some (.array vs) => items fields vs
  | _ => false

/-- A kind of record, as its tag names it: by its name or by its place. -/
def kind? {α : Type} (kinds : List (String × α)) : Value → Option α
  | .string s => kinds.lookup s
  | .number (.integer n) => if n < 0 then none else kinds[n.toNat]?.map (·.2)
  | _ => none

/-- A record of one of several kinds, which the member `tag` tells, or the first item. -/
def tagged (tag : String) (kinds : List (String × List (String × Shape))) : Shape
  | some (.object ms) =>
    ((Json.only? ms tag).bind (kind? kinds)).any fun fields => members fields ms
  | some (.array (v :: vs)) => (kind? kinds v).any fun fields => items fields vs
  | _ => false

end Shape

end ScriptSandbox.Mcp
