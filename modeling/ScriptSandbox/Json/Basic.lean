/-!
# JSON values

A document is a tree whose objects keep their members in the order of the text, repeated names
included. The *merged* form of a value is what a reader that wants a mapping sees: the last of
repeated members, sorted by name.

## Main definitions

* `Json.Number`, `Json.Value`: numbers and documents
* `Json.Value.merged`: repeated members resolved, members sorted
* `Json.Value.get?`: the value of a member
* `Json.only?`: the value of a member that is not repeated
* `Json.Value.depth`: how deeply arrays and objects are nested
-/

namespace ScriptSandbox.Json

/-- A number is an exact integer or a double. -/
inductive Number where
  | integer (n : Int)
  | double (x : Float)
  deriving Inhabited

/-- A JSON document. -/
inductive Value where
  | null
  | bool (b : Bool)
  | number (n : Number)
  | string (s : String)
  | array (items : List Value)
  | object (members : List (String × Value))
  deriving Inhabited

namespace Value

/-- An integer as a document. -/
def int (n : Int) : Value := .number (.integer n)

/-- A natural number as a document. -/
def nat (n : Nat) : Value := .int n

/-- Keeps, of neighbouring members with one name, the last. -/
def keepLast : List (String × Value) → List (String × Value)
  | [] => []
  | [m] => [m]
  | m :: m' :: ms => if m.1 = m'.1 then keepLast (m' :: ms) else m :: keepLast (m' :: ms)

/-- Members sorted by name, the last of each name only. The sort is stable, so members of one name
keep their order. -/
def mergeMembers (ms : List (String × Value)) : List (String × Value) :=
  keepLast (ms.mergeSort fun a b => !decide (b.1 < a.1))

mutual

/-- The document with every object's members merged. -/
def merged : Value → Value
  | .null => .null
  | .bool b => .bool b
  | .number n => .number n
  | .string s => .string s
  | .array items => .array (mergedItems items)
  | .object members => .object (mergeMembers (mergedMembers members))

/-- Every item merged. -/
def mergedItems : List Value → List Value
  | [] => []
  | v :: vs => v.merged :: mergedItems vs

/-- Every member's value merged. -/
def mergedMembers : List (String × Value) → List (String × Value)
  | [] => []
  | (k, v) :: ms => (k, v.merged) :: mergedMembers ms

end

mutual

/-- The number of nested arrays and objects. -/
def depth : Value → Nat
  | .array items => itemsDepth items + 1
  | .object members => membersDepth members + 1
  | _ => 0

/-- The greatest depth of the items. -/
def itemsDepth : List Value → Nat
  | [] => 0
  | v :: vs => max v.depth (itemsDepth vs)

/-- The greatest depth of the members' values. -/
def membersDepth : List (String × Value) → Nat
  | [] => 0
  | (_, v) :: ms => max v.depth (membersDepth ms)

end

/-- The value of the first member called `name`, if the document is an object that has one. -/
def get? (v : Value) (name : String) : Option Value :=
  match v with
  | .object members => members.lookup name
  | _ => none

/-- The text of a string document. -/
def string? : Value → Option String
  | .string s => some s
  | _ => none

/-- The integer of an integer document. -/
def int? : Value → Option Int
  | .number (.integer n) => some n
  | _ => none

/-- An integer document of 32 bits. -/
def int32? (v : Value) : Option Int32 :=
  match v.int? with
  | some n => if -0x80000000 ≤ n ∧ n < 0x80000000 then some (Int32.ofInt n) else none
  | none => none

end Value

/-- The value of the only member called `name`; `none` when there is none or more than one. -/
def only? (members : List (String × Value)) (name : String) : Option Value :=
  match members.filter (·.1 = name) with
  | [(_, v)] => some v
  | _ => none

end ScriptSandbox.Json
