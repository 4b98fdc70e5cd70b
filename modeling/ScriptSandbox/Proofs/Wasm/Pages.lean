import Mathlib.Algebra.Order.BigOperators.Group.List
import Mathlib.Algebra.Order.Ring.Nat
import Mathlib.Tactic.Common
import ScriptSandbox.Proofs.Except
import ScriptSandbox.Wasm.Instantiation

/-!
# The sizes of memories

A memory gets its pages when a module is instantiated and when code asks for more, and either is
refused beyond the limit of the store. Everything else leaves the number of pages as it is.

## Main definitions

* `Wasm.Store.Within`: no memory of a store is beyond the limit
* `Wasm.Store.Keeps`: a later store of the same instance
* `Wasm.Step.store?`: the store after a step

## Main results

* `Wasm.keeps_step`: a step keeps all memories within the limit
* `Wasm.keeps_invoke`: so does a call from outside
* `Wasm.within_of_instantiate`: the memories are within the limit at the beginning
-/

namespace ScriptSandbox.Wasm

/-! ### Memories -/

namespace Memory

variable (m : Memory)

/-- The number of pages and how many the module allows: what a memory keeps when its bytes
change. -/
def extent : Nat × Option Nat := (m.pageCount, m.maximum)

@[simp] theorem extent_set (address : Nat) (b : UInt8) : (m.set address b).extent = m.extent := by
  simp [extent, set, pageCount]

@[simp] theorem extent_writeBytes (address : Nat) (bytes : List UInt8) :
    (m.writeBytes address bytes).extent = m.extent := by
  induction bytes generalizing m address with
  | nil => rfl
  | cons b bs ih => rw [writeBytes, ih, extent_set]

@[simp] theorem extent_writeNat (address length value : Nat) :
    (m.writeNat address length value).extent = m.extent := by
  induction length generalizing m address value with
  | zero => rfl
  | succ n ih => rw [writeNat, ih, extent_set]

@[simp] theorem extent_fill (address : Nat) (b : UInt8) (length : Nat) :
    (m.fill address b length).extent = m.extent := by
  induction length generalizing m address with
  | zero => rfl
  | succ n ih => rw [fill, ih, extent_set]

variable {m} in
theorem pageCount_of_extent {m' : Memory} (h : m'.extent = m.extent) :
    m'.pageCount = m.pageCount := congrArg Prod.fst h

variable {m} in
theorem maximum_of_extent {m' : Memory} (h : m'.extent = m.extent) : m'.maximum = m.maximum :=
  congrArg Prod.snd h

@[simp] theorem pageCount_set (address : Nat) (b : UInt8) :
    (m.set address b).pageCount = m.pageCount := pageCount_of_extent (m.extent_set _ _)

@[simp] theorem pageCount_writeBytes (address : Nat) (bytes : List UInt8) :
    (m.writeBytes address bytes).pageCount = m.pageCount :=
  pageCount_of_extent (m.extent_writeBytes _ _)

@[simp] theorem pageCount_writeNat (address length value : Nat) :
    (m.writeNat address length value).pageCount = m.pageCount :=
  pageCount_of_extent (m.extent_writeNat _ _ _)

theorem pageCount_zeros (pages : Nat) (maximum : Option Nat) (shared : Bool) :
    (zeros pages maximum shared).pageCount = pages := Array.size_replicate

section

variable {m} {grown : Memory} {pages limit : Nat}

/-- A memory grows exactly within the limit and what the module allows. -/
theorem grow_eq_some_iff : m.grow pages limit = some grown ↔
    (m.pageCount + pages ≤ limit ∧ m.pageCount + pages ≤ m.maximum.getD maxPages) ∧
      grown = { m with pages := m.pages ++ Array.replicate pages ByteArray.empty } := by
  unfold grow
  dsimp only
  rw [← Nat.le_min]
  split_ifs with hle
  · simp [hle, eq_comm]
  · simp [hle]

theorem pageCount_of_grow (h : m.grow pages limit = some grown) :
    grown.pageCount = m.pageCount + pages := by
  rw [(grow_eq_some_iff.mp h).2]
  simp [pageCount]

theorem pageCount_grow_le (h : m.grow pages limit = some grown) : grown.pageCount ≤ limit :=
  pageCount_of_grow h ▸ (grow_eq_some_iff.mp h).1.1

theorem maximum_of_grow (h : m.grow pages limit = some grown) : grown.maximum = m.maximum := by
  rw [(grow_eq_some_iff.mp h).2]

end

end Memory

/-! ### Stores -/

namespace Store

variable {s s' s'' : Store} {i : Nat}

/-- No memory of the store has more pages than its limit allows. -/
def Within (s : Store) : Prop := ∀ m ∈ s.memories, m.pageCount ≤ s.pageLimit

/-- How many pages the module allows for each memory. -/
def maxima (s : Store) : Array (Option Nat) := s.memories.map (·.maximum)

/-- The limit, the memories that there are and what the module allows for them are the same, and no
memory has gone beyond the limit. -/
structure Keeps (s s' : Store) : Prop where
  pageLimit : s'.pageLimit = s.pageLimit
  maxima : s'.maxima = s.maxima
  within : s.Within → s'.Within

theorem Keeps.refl (s : Store) : s.Keeps s := ⟨rfl, rfl, id⟩

theorem Keeps.trans (h : s.Keeps s') (h' : s'.Keeps s'') : s.Keeps s'' :=
  ⟨h'.pageLimit.trans h.pageLimit, h'.maxima.trans h.maxima, h'.within ∘ h.within⟩

theorem Keeps.size (h : s.Keeps s') : s'.memories.size = s.memories.size := by
  simpa [Store.maxima] using congrArg Array.size h.maxima

/-- What does not touch memories keeps them. -/
theorem Keeps.of_memories (hlimit : s'.pageLimit = s.pageLimit)
    (hmemories : s'.memories = s.memories) : s.Keeps s' := by
  refine ⟨hlimit, by rw [Store.maxima, hmemories, Store.maxima], fun h => ?_⟩
  rw [Within, hlimit, hmemories]
  exact h

/-- A memory may be changed if the module allows as many pages as before, and their number stays the
same or within the limit. -/
theorem keeps_modifyMemory {f : Memory → Memory}
    (hmaximum : ∀ m, s.memories[i]? = some m → (f m).maximum = m.maximum)
    (hf : ∀ m, s.memories[i]? = some m →
      (f m).pageCount = m.pageCount ∨ (f m).pageCount ≤ s.pageLimit) :
    s.Keeps (s.modifyMemory i f) := by
  refine ⟨rfl, ?_, fun h m' hm' => ?_⟩
  · apply Array.ext_getElem?
    intro j
    rw [maxima, maxima, modifyMemory, Array.getElem?_map, Array.getElem?_map, Array.getElem?_modify]
    split_ifs with hij
    · subst hij
      cases hm : s.memories[i]? with
      | none => rfl
      | some m => exact congrArg some (hmaximum m hm)
    · rfl
  · obtain ⟨j, hj⟩ := Array.mem_iff_getElem?.mp hm'
    rw [modifyMemory, Array.getElem?_modify] at hj
    split_ifs at hj with hij
    · subst hij
      obtain ⟨m, hm, rfl⟩ := Option.map_eq_some_iff.mp hj
      have hle : m.pageCount ≤ s.pageLimit := h m (Array.mem_of_getElem? hm)
      rcases hf m hm with heq | hgrown
      · exact heq ▸ hle
      · exact hgrown
    · exact h m' (Array.mem_of_getElem? hj)

/-- The bytes of a memory may be changed. -/
theorem keeps_write {f : Memory → Memory}
    (hf : ∀ m, s.memories[i]? = some m → (f m).extent = m.extent) :
    s.Keeps (s.modifyMemory i f) :=
  keeps_modifyMemory (fun m hm => Memory.maximum_of_extent (hf m hm)) fun m hm =>
    .inl (Memory.pageCount_of_extent (hf m hm))

theorem keeps_initMemory {bytes : List UInt8} {address start length : Nat}
    (h : s.initMemory i bytes address start length = some s') : s.Keeps s' := by
  unfold initMemory at h
  split_ifs at h
  rw [← Option.some.inj h]
  exact keeps_write fun m _ => m.extent_writeBytes _ _

theorem keeps_initTable {items : List Value} {index start length : Nat}
    (h : s.initTable i items index start length = some s') : s.Keeps s' := by
  unfold initTable at h
  split at h
  next => cases h
  next =>
    split_ifs at h
    rw [← Option.some.inj h]
    exact .of_memories rfl rfl

end Store

/-! ### Steps -/

namespace Step

variable {s : Store} {t : State} {st : Step}

/-- The store after a step. -/
def store? : Step → Option Store
  | .next s | .host _ _ s | .trapped _ s => some s.store
  | .returned store _ => some store
  | .stuck => none

/-- The store after a step is a later store of the same instance. -/
def Keeps (s : Store) (st : Step) : Prop := ∀ s', st.store? = some s' → s.Keeps s'

theorem Keeps.next (h : s.Keeps t.store) : Step.Keeps s (.next t) := fun _ hs =>
  Option.some.inj hs ▸ h

theorem Keeps.trapped (trap : Trap) (t : State) : Step.Keeps t.store (.trapped trap t) :=
  fun _ hs => Option.some.inj hs ▸ .refl _

theorem Keeps.host (index : Nat) (args : List Value) (h : s.Keeps t.store) :
    Step.Keeps s (.host index args t) := fun _ hs => Option.some.inj hs ▸ h

theorem Keeps.returned (s : Store) (results : List Value) :
    Step.Keeps s (.returned s results) := fun _ hs => Option.some.inj hs ▸ .refl _

theorem Keeps.stuck : Step.Keeps s .stuck := nofun

end Step

section

open Step

variable (p : Program) (s : State)

theorem keeps_activate (callers : List Frame) (function : Nat) (type : FuncType)
    (locals : List ValType) (body : List Code) (args : List Value) :
    Step.Keeps s.store (activate s callers function type locals body args) := by
  unfold activate
  split_ifs
  · exact .trapped _ s
  · exact .next (.refl _)

theorem keeps_call (f : Nat) : Step.Keeps s.store (call p s f) := by
  unfold call
  split
  next => exact .stuck
  next => exact .host _ _ (.refl _)
  next => exact keeps_activate s _ _ _ _ _ _

theorem keeps_tailCall (f : Nat) : Step.Keeps s.store (tailCall p s f) := by
  unfold tailCall
  split
  next => exact .stuck
  next => exact .host _ _ (.refl _)
  next => exact keeps_activate { s with room := s.room + 1 } _ _ _ _ _ _

/-- An indirect call that reaches no function stops the machine where it stands. -/
theorem keeps_of_lookup {table type : Nat} {i : UInt32} {st : Step}
    (h : lookup p s table type i = .error st) : Step.Keeps s.store st := by
  unfold lookup at h
  split at h
  next =>
    split at h
    next => exact Except.error.inj h ▸ .trapped _ s
    next => exact Except.error.inj h ▸ .trapped _ s
    next =>
      split at h
      next => exact Except.error.inj h ▸ .stuck
      next =>
        split_ifs at h
        exact Except.error.inj h ▸ .trapped _ s
  next => exact Except.error.inj h ▸ .stuck

theorem keeps_ret : Step.Keeps s.store (ret s) := by
  unfold ret
  split
  next => exact .returned _ _
  next => exact .next (.refl _)

theorem keeps_branch (label : Nat) : Step.Keeps s.store (branch s label) := by
  unfold branch
  split
  next => exact keeps_ret s
  next => exact .next (.refl _)

theorem keeps_leave : Step.Keeps s.store (leave s) := by
  unfold leave
  split
  next => exact keeps_ret s
  next => exact .next (.refl _)

theorem keeps_load (op : LoadOp) (arg : MemArg) (code : List Code) :
    Step.Keeps s.store (load s op arg code) := by
  unfold load
  split
  next =>
    dsimp only
    split_ifs
    · exact .next (.refl _)
    · exact .trapped _ s
  next => exact .stuck

theorem keeps_loadVector (bytes : Nat) (arg : MemArg) (vector : Nat → BitVec vectorBits)
    (base : UInt32) (stack : List Value) (code : List Code) :
    Step.Keeps s.store (loadVector s bytes arg vector base stack code) := by
  unfold loadVector
  split
  next =>
    dsimp only
    split_ifs
    · exact .next (.refl _)
    · exact .trapped _ s
  next => exact .stuck

theorem keeps_vectorLoad (op : VectorLoad) (arg : MemArg) (code : List Code) :
    Step.Keeps s.store (vectorLoad s op arg code) := by
  unfold vectorLoad
  split
  next => exact keeps_loadVector s _ _ _ _ _ _
  next => exact .stuck

theorem keeps_laneLoad (w : LaneWidth) (lane : Nat) (arg : MemArg) (code : List Code) :
    Step.Keeps s.store (laneLoad s w lane arg code) := by
  unfold laneLoad
  split
  next => exact keeps_loadVector s _ _ _ _ _ _
  next => exact .stuck

theorem keeps_store (op : StoreOp) (arg : MemArg) (code : List Code) :
    Step.Keeps s.store (store s op arg code) := by
  unfold store
  split
  next =>
    dsimp only
    split
    next => exact .next (Store.keeps_write fun m _ => m.extent_writeNat _ _ _)
    next => exact .trapped _ s
    next => exact .stuck
  next => exact .stuck

theorem keeps_laneStore (w : LaneWidth) (lane : Nat) (arg : MemArg) (code : List Code) :
    Step.Keeps s.store (laneStore s w lane arg code) := by
  unfold laneStore
  split
  next =>
    dsimp only
    split
    next => exact .next (Store.keeps_write fun m _ => m.extent_writeNat _ _ _)
    next => exact .trapped _ s
    next => exact .stuck
  next => exact .stuck

theorem keeps_atomic (op : AtomicOp) (arg : MemArg) (code : List Code) :
    Step.Keeps s.store (atomic s op arg code) := by
  unfold atomic
  dsimp only
  split
  next =>
    split_ifs
    · exact .trapped _ s
    · exact .trapped _ s
    · split
      next => exact .trapped _ s
      next => exact .next (.refl _)
      next => exact .next (Store.keeps_write fun m _ => m.extent_writeNat _ _ _)
  next => exact .stuck

theorem keeps_memorySize (m : Nat) (code : List Code) :
    Step.Keeps s.store (memorySize s m code) := by
  unfold memorySize
  split
  next => exact .next (.refl _)
  next => exact .stuck

/-- The one step that adds pages asks for the limit. -/
theorem keeps_memoryGrow (m : Nat) (code : List Code) :
    Step.Keeps s.store (memoryGrow s m code) := by
  unfold memoryGrow
  split
  next pages _ mem _ hmem =>
    split
    next grown hgrow =>
      refine .next (Store.keeps_modifyMemory (fun m' hm' => ?_) fun _ _ => .inr ?_)
      · obtain rfl := Option.some.inj (hmem.symm.trans hm')
        exact Memory.maximum_of_grow hgrow
      · exact Memory.pageCount_grow_le hgrow
    next => exact .next (.refl _)
  next => exact .stuck

theorem keeps_memoryFill (m : Nat) (code : List Code) :
    Step.Keeps s.store (memoryFill s m code) := by
  unfold memoryFill
  split
  next =>
    split
    next => exact .next (Store.keeps_write fun m _ => m.extent_fill _ _ _)
    next => exact .trapped _ s
    next => exact .stuck
  next => exact .stuck

theorem keeps_memoryCopy (target source : Nat) (code : List Code) :
    Step.Keeps s.store (memoryCopy s target source code) := by
  unfold memoryCopy
  split
  next =>
    split
    next =>
      split_ifs
      · exact .next (Store.keeps_write fun m _ => m.extent_writeBytes _ _)
      · exact .trapped _ s
    next => exact .trapped _ s
    next => exact .stuck
  next => exact .stuck

theorem keeps_memoryInit (m segment : Nat) (code : List Code) :
    Step.Keeps s.store (memoryInit s m segment code) := by
  unfold memoryInit
  split
  next =>
    split
    next _ hinit => exact .next (Store.keeps_initMemory hinit)
    next => exact .trapped _ s
  next => exact .stuck

theorem keeps_tableGet (t : Nat) (code : List Code) : Step.Keeps s.store (tableGet s t code) := by
  unfold tableGet
  split
  next =>
    split
    next => exact .next (.refl _)
    next => exact .trapped _ s
  next => exact .stuck

theorem keeps_tableWrite (t index length : Nat) (r : Value) (stack : List Value)
    (code : List Code) : Step.Keeps s.store (tableWrite s t index length r stack code) := by
  unfold tableWrite
  split
  next =>
    split_ifs
    · exact .next (.of_memories rfl rfl)
    · exact .trapped _ s
  next => exact .stuck

theorem keeps_tableSize (t : Nat) (code : List Code) : Step.Keeps s.store (tableSize s t code) := by
  unfold tableSize
  split
  next => exact .next (.refl _)
  next => exact .stuck

theorem keeps_tableGrow (t : Nat) (code : List Code) : Step.Keeps s.store (tableGrow s t code) := by
  unfold tableGrow
  split
  next =>
    split
    next => exact .next (.of_memories rfl rfl)
    next => exact .next (.refl _)
  next => exact .stuck

theorem keeps_tableCopy (target source : Nat) (code : List Code) :
    Step.Keeps s.store (tableCopy s target source code) := by
  unfold tableCopy
  split
  next =>
    split_ifs
    · exact .next (.of_memories rfl rfl)
    · exact .trapped _ s
  next => exact .stuck

theorem keeps_tableInit (t segment : Nat) (code : List Code) :
    Step.Keeps s.store (tableInit s t segment code) := by
  unfold tableInit
  split
  next =>
    split
    next _ hinit => exact .next (Store.keeps_initTable hinit)
    next => exact .trapped _ s
  next => exact .stuck

/-- An instruction keeps all memories within the limit: one case for every instruction. -/
theorem keeps_execute (code : List Code) (i : Instr) : Step.Keeps s.store (execute p s code i) := by
  cases i with
  | load op arg => exact keeps_load s op arg code
  | store op arg => exact keeps_store s op arg code
  | vectorLoad op arg => exact keeps_vectorLoad s op arg code
  | laneLoad w lane arg => exact keeps_laneLoad s w lane arg code
  | laneStore w lane arg => exact keeps_laneStore s w lane arg code
  | atomic op arg => exact keeps_atomic s op arg code
  | memorySize m => exact keeps_memorySize s m code
  | memoryGrow m => exact keeps_memoryGrow s m code
  | memoryFill m => exact keeps_memoryFill s m code
  | memoryCopy target source => exact keeps_memoryCopy s target source code
  | memoryInit m segment => exact keeps_memoryInit s m segment code
  | tableGet t => exact keeps_tableGet s t code
  | tableSize t => exact keeps_tableSize s t code
  | tableGrow t => exact keeps_tableGrow s t code
  | tableCopy target source => exact keeps_tableCopy s target source code
  | tableInit t segment => exact keeps_tableInit s t segment code
  | call f => exact keeps_call p s f
  | tailCall f => exact keeps_tailCall p s f
  | br label => exact keeps_branch s label
  | ret => exact keeps_ret s
  | unreachable => exact .trapped _ s
  | nop | fence | i32Const | i64Const | f32Const | f64Const | v128Const | refNull | refFunc =>
    exact .next (.refl _)
  | dataDrop | elemDrop => exact .next (.of_memories rfl rfl)
  | localGet | localSet | localTee | drop | select | refIsNull | globalGet =>
    simp only [execute]
    split
    next => exact .next (.refl _)
    next => exact .stuck
  | globalSet =>
    simp only [execute]
    split
    next => exact .next (.of_memories rfl rfl)
    next => exact .stuck
  | numeric op =>
    simp only [execute]
    split
    next => exact .next (.refl _)
    next => exact .stuck
    next => exact .trapped _ s
  | vector op =>
    simp only [execute]
    split
    next => exact .next (.refl _)
    next => exact .stuck
  | brIf label =>
    simp only [execute]
    split
    next =>
      split_ifs
      · exact .next (.refl _)
      · exact keeps_branch { s with stack := _ } label
    next => exact .stuck
  | brTable labels default =>
    simp only [execute]
    split
    next => exact keeps_branch { s with stack := _ } _
    next => exact .stuck
  | callIndirect table type =>
    simp only [execute]
    split
    next =>
      split
      next => exact keeps_call p { s with stack := _ } _
      next _ h => exact keeps_of_lookup p s h
    next => exact .stuck
  | tailCallIndirect table type =>
    simp only [execute]
    split
    next =>
      split
      next => exact keeps_tailCall p { s with stack := _ } _
      next _ h => exact keeps_of_lookup p s h
    next => exact .stuck
  | tableSet t =>
    simp only [execute]
    split
    next => exact keeps_tableWrite s _ _ _ _ _ _
    next => exact .stuck
  | tableFill t =>
    simp only [execute]
    split
    next => exact keeps_tableWrite s _ _ _ _ _ _
    next => exact .stuck

/-- A step keeps all memories within the limit. -/
theorem keeps_step : Step.Keeps s.store (step p s) := by
  unfold step
  split
  next => exact keeps_leave s
  next => exact keeps_execute p s _ _
  next => exact .next (.refl _)
  next => exact .next (.refl _)
  next =>
    split
    next => exact .next (.refl _)
    next => exact .stuck

/-- A call from outside begins with the store that it is given. -/
theorem keeps_invoke (store : Store) (f : Nat) (args : List Value) :
    Step.Keeps store (invoke p store f args) := by
  unfold invoke
  dsimp only
  split
  next => exact .host _ _ (.refl _)
  next => exact keeps_activate _ _ _ _ _ _ _
  next => exact .stuck

end

/-! ### Instantiation -/

theorem orRefuse_eq_ok {α : Type} {r : Refusal} {o : Option α} {a : α}
    (h : orRefuse r o = .ok a) : o = some a := by
  unfold orRefuse at h
  split at h
  next => rw [Except.ok.inj h]
  next => cases h

theorem keeps_copyElements {s s' : Store} {segment : ElementSegment}
    (h : copyElements s segment = .ok s') : s.Keeps s' := by
  unfold copyElements at h
  split at h
  next =>
    obtain ⟨index, -, h⟩ := bind_eq_ok_iff.mp h
    obtain ⟨items, -, h⟩ := bind_eq_ok_iff.mp h
    exact Store.keeps_initTable (orRefuse_eq_ok h)
  next => exact Except.ok.inj h ▸ .refl s

theorem keeps_copyData {s s' : Store} {segment : DataSegment}
    (h : copyData s segment = .ok s') : s.Keeps s' := by
  unfold copyData at h
  split at h
  next =>
    obtain ⟨address, -, h⟩ := bind_eq_ok_iff.mp h
    exact Store.keeps_initMemory (orRefuse_eq_ok h)
  next => exact Except.ok.inj h ▸ .refl s

/-- Copying segments, of either kind, keeps all memories within the limit. -/
theorem keeps_foldlM {α : Type} {copy : Store → α → Except Refusal Store} {segments : Array α}
    (hcopy : ∀ s a s', copy s a = .ok s' → s.Keeps s') {s s' : Store}
    (h : segments.foldlM copy s = .ok s') : s.Keeps s' := by
  rw [← Array.foldlM_toList] at h
  exact rel_of_foldlM_eq_ok (R := Store.Keeps) .refl (fun _ _ _ => .trans) hcopy h

/-- The memory of a type that a module starts with. -/
def Memory.ofType (t : MemoryType) : Memory := zeros t.limits.minimum t.limits.maximum t.shared

section

variable {m : Module} {limit : Nat}

theorem startMemories_of_le (h : ∀ t ∈ m.memories, t.limits.minimum ≤ limit) :
    startMemories m limit = .ok (m.memories.map Memory.ofType) := by
  have hall : ∀ t ∈ m.memories.toList, (if t.limits.minimum ≤ limit then
      Except.ok (Memory.zeros t.limits.minimum t.limits.maximum t.shared)
      else .error (Refusal.memoryTooLarge t.limits.minimum)) = .ok (Memory.ofType t) :=
    fun t ht => if_pos (h t (Array.mem_toList_iff.mp ht))
  unfold startMemories
  rw [Array.mapM_eq_mapM_toList, mapM_eq_ok_of_forall hall]
  change Except.ok (m.memories.toList.map Memory.ofType).toArray = _
  rw [← Array.toList_map]

/-- Memories start at their minimum, unless that is beyond the limit for one of them. -/
theorem startMemories_eq_ok_iff {memories : Array Memory} : startMemories m limit = .ok memories ↔
    (∀ t ∈ m.memories, t.limits.minimum ≤ limit) ∧ memories = m.memories.map Memory.ofType := by
  constructor
  · intro h
    have hl : m.memories.toList.mapM _ = Except.ok memories.toList :=
      Array.toList_mapM.symm.trans (congrArg (Array.toList <$> ·) h)
    have hall := forall₂_of_mapM_eq_ok hl
    have hle : ∀ t ∈ m.memories, t.limits.minimum ≤ limit := by
      intro t ht
      obtain ⟨i, hi, rfl⟩ := List.mem_iff_getElem.mp (Array.mem_toList_iff.mpr ht)
      have hstart := hall.get hi (hall.length_eq ▸ hi)
      simp only [List.get_eq_getElem] at hstart
      split_ifs at hstart with hmin
      exact hmin
    rw [startMemories_of_le hle] at h
    exact ⟨hle, (Except.ok.inj h).symm⟩
  · rintro ⟨hle, rfl⟩
    exact startMemories_of_le hle

/-- At the beginning, no memory of an instance is beyond the limit, however large the module wants
it to be. -/
theorem within_of_instantiate {s : Store} (h : instantiate m limit = .ok s) :
    s.Within ∧ s.pageLimit = limit ∧ s.maxima = m.memories.map (·.limits.maximum) := by
  unfold instantiate at h
  obtain ⟨memories, hmemories, h⟩ := bind_eq_ok_iff.mp h
  obtain ⟨globals, -, h⟩ := bind_eq_ok_iff.mp h
  obtain ⟨elements, -, h⟩ := bind_eq_ok_iff.mp h
  obtain ⟨s₁, hs₁, h⟩ := bind_eq_ok_iff.mp h
  obtain ⟨hle, hstart⟩ := startMemories_eq_ok_iff.mp hmemories
  -- segments are copied to memories that are there
  have hkeeps := (keeps_foldlM (fun _ _ _ => keeps_copyElements) hs₁).trans
    (keeps_foldlM (fun _ _ _ => keeps_copyData) h)
  refine ⟨hkeeps.within fun memory hmemory => ?_, hkeeps.pageLimit, ?_⟩
  · obtain ⟨t, ht, rfl⟩ := Array.mem_map.mp (hstart ▸ hmemory)
    rw [Memory.ofType, Memory.pageCount_zeros]
    exact hle t ht
  · rw [hkeeps.maxima, Store.maxima, hstart, Array.map_map]
    rfl

end

end ScriptSandbox.Wasm
