import ScriptSandbox.Wasm.Binary.Code
import ScriptSandbox.Wasm.Binary.Names

/-!
# Reading binary modules: sections

A module is a header and sections in a fixed order, each at most once. Custom sections may stand
anywhere. Of them only names are read, and those that describe interfaces are refused.

## Main definitions

* `Binary.readModule`: the module in a byte string
-/

namespace ScriptSandbox.Wasm.Binary

/-- The greatest number of entries of most sections. -/
def maxEntries : Nat := 1000000

/-- The greatest number of element or data segments. -/
def maxSegments : Nat := 100000

/-- The greatest number of parameters, and of results, of a function. -/
def maxParams : Nat := 1000

/-- The greatest number of tables, and of memories, of a module. -/
def maxTables : Nat := 100

/-- A function type. -/
def funcType : Decoder FuncType := do
  let b ← byte
  if b ≠ 0x60 then refuse (.badType b)
  let params ← vector maxParams valType
  return ⟨params, ← vector maxParams valType⟩

/-- The numbers of limits: the minimum, and the maximum if there is one. -/
def bounds (hasMaximum : Bool) : Decoder Limits := do
  let minimum ← u32
  if hasMaximum then return ⟨minimum, some (← u32)⟩ else return ⟨minimum, none⟩

/-- Limits: whether a maximum follows, the minimum, and the maximum. -/
def limits : Decoder Limits := do
  let flags ← byte
  if flags < 2 then bounds (flags = 1) else refuse (.badFlags flags.toNat)

/-- A memory type. Only with a maximum may it be shared. -/
def memoryType : Decoder MemoryType := do
  let flags ← byte
  if flags = 3 then return ⟨← bounds true, true⟩
  else if flags < 2 then return ⟨← bounds (flags = 1), false⟩
  else refuse (.badFlags flags.toNat)

/-- A table type. -/
def tableType : Decoder TableType := do
  let element ← refType
  return ⟨element, ← limits⟩

/-- A global type. -/
def globalType : Decoder GlobalType := do
  let value ← valType
  let mutability ← byte
  if mutability = 0 then return ⟨value, false⟩
  else if mutability = 1 then return ⟨value, true⟩
  else refuse (.badFlags mutability.toNat)

/-- An import. -/
def import_ : Decoder Import := do
  let origin ← name
  let field ← name
  let kind ← byte
  match kind with
  | 0 => return ⟨origin, field, .function (← u32)⟩
  | 1 => return ⟨origin, field, .table (← tableType)⟩
  | 2 => return ⟨origin, field, .memory (← memoryType)⟩
  | 3 => return ⟨origin, field, .global (← globalType)⟩
  | _ => refuse (.badType kind)

/-- An export. -/
def export_ : Decoder Export := do
  let field ← name
  let kind ← byte
  let index ← u32
  match kind with
  | 0 => return ⟨field, .function index⟩
  | 1 => return ⟨field, .table index⟩
  | 2 => return ⟨field, .memory index⟩
  | 3 => return ⟨field, .global index⟩
  | _ => refuse (.badType kind)

/-- A global. -/
def global : Decoder Global := do
  let type ← globalType
  return ⟨type, ← constant⟩

/-- The items of an element segment given as function indices. -/
def functionItems : Decoder (List (List Op)) := do
  return (← vector maxEntries u32).map fun f => [.plain 0 (.refFunc f), .close]

/-- The kind of an element segment given as function indices; there is only one. -/
def elementKind : Decoder Unit := do
  let b ← byte
  if b ≠ 0 then refuse (.badType b)

/-- An element segment. Its flags tell whether it is active, whether it names its table or kind, and
whether its items are given as code. -/
def elementSegment : Decoder ElementSegment := do
  let flags ← u32
  match flags with
  | 0 => do
    let offset ← constant
    return ⟨.funcref, ← functionItems, .active 0 offset⟩
  | 1 => do
    elementKind
    return ⟨.funcref, ← functionItems, .passive⟩
  | 2 => do
    let table ← u32
    let offset ← constant
    elementKind
    return ⟨.funcref, ← functionItems, .active table offset⟩
  | 3 => do
    elementKind
    return ⟨.funcref, ← functionItems, .declarative⟩
  | 4 => do
    let offset ← constant
    return ⟨.funcref, ← vector maxEntries constant, .active 0 offset⟩
  | 5 => do
    let type ← refType
    return ⟨type, ← vector maxEntries constant, .passive⟩
  | 6 => do
    let table ← u32
    let offset ← constant
    let type ← refType
    return ⟨type, ← vector maxEntries constant, .active table offset⟩
  | 7 => do
    let type ← refType
    return ⟨type, ← vector maxEntries constant, .declarative⟩
  | _ => refuse (.badFlags flags)

/-- A data segment. -/
def dataSegment : Decoder DataSegment := do
  let flags ← u32
  match flags with
  | 0 => do
    let offset ← constant
    return ⟨← bytes (← u32), .active 0 offset⟩
  | 1 => return ⟨← bytes (← u32), .passive⟩
  | 2 => do
    let memory ← u32
    let offset ← constant
    return ⟨← bytes (← u32), .active memory offset⟩
  | _ => refuse (.badFlags flags)

/-- A function body. -/
def body : Decoder Body := sized do
  let locals ← vector UInt32.size do
    let n ← u32
    return (n, ← valType)
  return ⟨locals, ← ops⟩

/-- The place of a section in the order of sections, by its id. -/
def sectionRank (id : UInt8) : Option Nat :=
  match id with
  | 1 => some 1
  | 2 => some 2
  | 3 => some 3
  | 4 => some 4
  | 5 => some 5
  | 6 => some 6
  | 7 => some 7
  | 8 => some 8
  | 9 => some 9
  | 12 => some 10
  | 10 => some 11
  | 11 => some 12
  | _ => none

/-- Adds a section's content to a module. -/
def sectionContent (m : Module) (id : UInt8) : Decoder Module := do
  match id with
  | 1 => return { m with types := (← vector maxEntries funcType).toArray }
  | 2 => return { m with imports := (← vector maxEntries import_).toArray }
  | 3 => return { m with functions := (← vector maxEntries u32).toArray }
  | 4 => return { m with tables := (← vector maxTables tableType).toArray }
  | 5 => return { m with memories := (← vector maxTables memoryType).toArray }
  | 6 => return { m with globals := (← vector maxEntries global).toArray }
  | 7 => return { m with exports := (← vector maxEntries export_).toArray }
  | 8 => return { m with start := some (← u32) }
  | 9 => return { m with elements := (← vector maxSegments elementSegment).toArray }
  | 12 => return { m with dataCount := some (← count maxSegments) }
  | 10 => return { m with bodies := (← vector maxEntries body).toArray }
  | 11 => return { m with data := (← vector maxSegments dataSegment).toArray }
  | _ => refuse (.badSection id)

/-- The custom sections that are refused: a module that has one is not a plain module. -/
def refusedSections : List String := ["webidl-bindings", "wasm-interface-types"]

/-- How the names of sections end that are to be split off into a file of their own. -/
def splitEnding : List Char := ".dwo".toList

/-- Text without a certain ending, however often it stands there, read backwards. `fuel` may be the
number of characters. -/
def withoutEndings (reversedEnding : List Char) : (fuel : Nat) → List Char → List Char
  | 0, s => s
  | fuel + 1, s =>
    if reversedEnding.isPrefixOf s then
      withoutEndings reversedEnding fuel (s.drop reversedEnding.length)
    else s

/-- Whether a custom section describes a module's source for debuggers. -/
def isDebugSection (title : String) : Bool :=
  let s := title.toList
  ".debug_".toList.isPrefixOf (withoutEndings splitEnding.reverse s.length s.reverse).reverse

/-- Adds a custom section to a module: a title and any bytes. -/
def customContent (m : Module) : Decoder Module := do
  let title ← name
  if refusedSections.contains title then refuse (.badSection 0)
  let s ← get
  let _ ← bytes s.rest.length
  if title = "name" then
    return { m with names := readNames m.functionTypes.size s.rest.length s m.names }
  return { m with describesSource := m.describesSource || isDebugSection title }

/-- The sections that are left, after sections up to `rank`. Every section takes a byte, so `fuel`
may be the number of bytes. -/
def sections : (fuel : Nat) → (rank : Nat) → Module → Decoder Module
  | 0, _, m => return m
  | fuel + 1, rank, m => do
    if ← atEnd then return m
    let id ← byte
    if id = 0 then
      let m ← sized (customContent m)
      sections fuel rank m
    else
      match sectionRank id with
      | none => refuse (.badSection id)
      | some r =>
        if r ≤ rank then refuse (.badSection id)
        let m ← sized (sectionContent m id)
        sections fuel r m

/-- The first bytes of a module. -/
def header : List UInt8 := [0x00, 0x61, 0x73, 0x6D, 0x01, 0x00, 0x00, 0x00]

/-- The module that the bytes are. Every declared function has a body, and an announced number of
data segments is kept. -/
def readModule (s : List UInt8) : Except Malformed Module := do
  let (front, rest) := s.splitAt header.length
  if front ≠ header then .error .badHeader
  let m ← exactly (sections (rest.length + 1) 0 {}) ⟨rest, header.length⟩
  if m.functions.size ≠ m.bodies.size then .error .lengthsDiffer
  if (m.dataCount.getD m.data.size) ≠ m.data.size then .error .lengthsDiffer
  return m

end ScriptSandbox.Wasm.Binary
