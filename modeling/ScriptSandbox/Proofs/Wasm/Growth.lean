import ScriptSandbox.Proofs.Wasm.Memory

/-!
# Growing memories

A memory that grows keeps what it holds and reads as zeros from its old end on. Code that asks for
more pages gets them within the limit of the store and what the module allows; if it does not get
them, nothing has changed, and it goes on all the same. The limit matters to a module from the
beginning, but only for the minimum of its memories.

## Main definitions

* `Wasm.Memory.Extends`: a memory with more pages
* `Wasm.State.requested?`: how many pages code asks for
* `Wasm.State.answered`: what it goes on with
* `Wasm.Store.withLimit`: a store with another limit

## Main results

* `Wasm.Memory.extends_of_grow`: what growing leaves and what it adds
* `Wasm.step_of_requested`: the step of code that asks for more pages
* `Wasm.instantiate_withLimit`: any two limits that allow the minimum do the same
* `Wasm.exists_instantiate_eq_error_iff`: which limits refuse a module
-/

namespace ScriptSandbox.Wasm

/-! ### Memories with more pages -/

namespace Memory

variable {m grown : Memory} {pages limit address : Nat}

/-- A memory with more pages: it holds what it held before, and zeros from its old end on. -/
structure Extends (m grown : Memory) (pages : Nat) : Prop where
  pageCount : grown.pageCount = m.pageCount + pages
  maximum : grown.maximum = m.maximum
  kept : ∀ address < m.size, grown.get address = m.get address
  zeros : ∀ address, m.size ≤ address → grown.get address = 0

theorem inPage_empty (offset : Nat) : inPage ByteArray.empty offset = 0 :=
  inPage_of_size_eq_zero rfl offset

/-- From its end on, a memory reads as zeros. -/
theorem get_of_size_le (h : m.size ≤ address) : m.get address = 0 := by
  have hpage : m.pages.size ≤ address / pageBytes :=
    (Nat.le_div_iff_mul_le (by decide)).mpr h
  rw [get_eq, Array.getD_eq_getD_getElem?, Array.getElem?_eq_none hpage]
  exact inPage_empty _

/-- A page that is added reads like one that is not there. -/
theorem get_grow (h : m.grow pages limit = some grown) (address : Nat) :
    grown.get address = m.get address := by
  rw [(grow_eq_some_iff.mp h).2, get_eq, get_eq, Array.getD_eq_getD_getElem?,
    Array.getD_eq_getD_getElem?, Array.getElem?_append]
  split_ifs with hlt
  · rfl
  · -- there was no page before, and there is an empty one or still none
    rw [Array.getElem?_eq_none (Nat.not_lt.mp hlt), Array.getElem?_replicate]
    split_ifs
    · rfl
    · rfl

theorem extends_of_grow (h : m.grow pages limit = some grown) : m.Extends grown pages where
  pageCount := pageCount_of_grow h
  maximum := maximum_of_grow h
  kept address _ := get_grow h address
  zeros address hle := (get_grow h address).trans (get_of_size_le hle)

theorem grow_eq_none_iff : m.grow pages limit = none ↔
    ¬ (m.pageCount + pages ≤ limit ∧ m.pageCount + pages ≤ m.maximum.getD maxPages) := by
  rw [Option.eq_none_iff_forall_ne_some]
  constructor
  · intro hnone hle
    exact hnone _ (grow_eq_some_iff.mpr ⟨hle, rfl⟩)
  · intro hnot grown h
    exact hnot (grow_eq_some_iff.mp h).1

end Memory

/-! ### Code that asks for pages -/

namespace State

variable {s : State} {memory : Memory} {pages : UInt32}

/-- How many pages code asks to add to the first memory, if that is its next instruction. -/
def requested? (s : State) : Option UInt32 :=
  match s.code, s.stack with
  | .plain _ (.memoryGrow 0) :: _, .i32 pages :: _ => some pages
  | _, _ => none

/-- The state behind an instruction that has replaced the topmost operand by an answer, with a
single memory. -/
def answered (s : State) (memory : Memory) (answer : UInt32) : State :=
  { s with
    store := { s.store with memories := #[memory] }
    stack := .i32 answer :: s.stack.tail
    code := s.code.tail }

theorem requested?_eq_some_iff : s.requested? = some pages ↔ ∃ site code stack,
    s.code = .plain site (.memoryGrow 0) :: code ∧ s.stack = .i32 pages :: stack := by
  unfold requested?
  constructor
  · intro h
    split at h
    next site code _ stack hcode hstack =>
      exact ⟨site, code, stack, hcode, hstack.trans (by rw [Option.some.inj h])⟩
    next => cases h
  · rintro ⟨site, code, stack, hcode, hstack⟩
    rw [hcode, hstack]
    rfl

end State

/-- The answer to code that asks for more pages of the only memory there is. -/
theorem step_of_requested (p : Program) {s : State} {memory : Memory} {pages : UInt32}
    (hmemories : s.store.memories = #[memory]) (h : s.requested? = some pages) :
    step p s = .next (match memory.grow pages.toNat s.store.pageLimit with
      | some grown => s.answered grown memory.pageCount.toUInt32
      | none => s.answered memory growthRefused) := by
  obtain ⟨site, code, stack, hcode, hstack⟩ := State.requested?_eq_some_iff.mp h
  have hmemory : s.store.memories[0]? = some memory := by rw [hmemories]; rfl
  have hmodify (grown : Memory) : s.store.modifyMemory 0 (fun _ => grown) =
      { s.store with memories := #[grown] } := by
    rw [Store.modifyMemory, hmemories]
    rfl
  -- a memory that does not grow is the one that was there
  have hsame : s.store = { s.store with memories := #[memory] } := by rw [← hmemories]
  have hstep : step p s = memoryGrow s 0 code := by
    unfold step
    rw [hcode]
    rfl
  rw [hstep]
  unfold memoryGrow
  rw [hstack, hmemory]
  dsimp only
  cases memory.grow pages.toNat s.store.pageLimit with
  | some grown =>
    dsimp only [State.answered]
    rw [hmodify, hstack, hcode]
    rfl
  | none =>
    dsimp only [State.answered]
    rw [← hsame, hstack, hcode]
    rfl

/-! ### Limits -/

/-- A store with another limit. -/
def Store.withLimit (limit : Nat) (s : Store) : Store := { s with pageLimit := limit }

theorem map_orRefuse {α β : Type} (f : α → β) (r : Refusal) (o : Option α) :
    (orRefuse r o).map f = orRefuse r (o.map f) := by
  cases o with
  | none => rfl
  | some a => rfl

section

variable (limit : Nat) (s : Store)

theorem initTable_withLimit (t : Nat) (items : List Value) (index start length : Nat) :
    (s.initTable t items index start length).map (.withLimit limit) =
      (s.withLimit limit).initTable t items index start length := by
  unfold Store.initTable
  have htables : (s.withLimit limit).tables = s.tables := rfl
  rw [htables]
  cases s.tables[t]? with
  | none => rfl
  | some table => exact apply_ite (Option.map (Store.withLimit limit)) _ _ _

theorem initMemory_withLimit (m : Nat) (bytes : List UInt8) (address start length : Nat) :
    (s.initMemory m bytes address start length).map (.withLimit limit) =
      (s.withLimit limit).initMemory m bytes address start length := by
  unfold Store.initMemory
  exact apply_ite (Option.map (Store.withLimit limit)) _ _ _

theorem copyElements_withLimit (segment : ElementSegment) :
    (copyElements s segment).map (.withLimit limit) =
      copyElements (s.withLimit limit) segment := by
  unfold copyElements
  cases segment.mode with
  | active t offset =>
    dsimp only
    cases offset? offset with
    | none => rfl
    | some index =>
      cases segment.values? with
      | none => rfl
      | some items =>
        exact (map_orRefuse _ _ _).trans (congrArg _ (initTable_withLimit limit s _ _ _ _ _))
  | passive => rfl
  | declarative => rfl

theorem copyData_withLimit (segment : DataSegment) :
    (copyData s segment).map (.withLimit limit) = copyData (s.withLimit limit) segment := by
  unfold copyData
  cases segment.mode with
  | active m offset =>
    dsimp only
    cases offset? offset with
    | none => rfl
    | some address =>
      exact (map_orRefuse _ _ _).trans (congrArg _ (initMemory_withLimit limit s _ _ _ _ _))
  | passive => rfl
  | declarative => rfl

/-- Segments, of either kind, are copied alike under any limit. -/
theorem foldlM_withLimit {α : Type} {copy : Store → α → Except Refusal Store}
    (hcopy : ∀ s a, (copy s a).map (.withLimit limit) = copy (s.withLimit limit) a)
    (segments : Array α) :
    (segments.foldlM copy s).map (.withLimit limit) = segments.foldlM copy (s.withLimit limit) := by
  rw [← Array.foldlM_toList, ← Array.foldlM_toList]
  exact map_foldlM hcopy segments.toList s

theorem copySegments_withLimit (m : Module) :
    (m.elements.foldlM copyElements s >>= (m.data.foldlM copyData ·)).map (.withLimit limit) =
      m.elements.foldlM copyElements (s.withLimit limit) >>= (m.data.foldlM copyData ·) := by
  rw [← foldlM_withLimit limit s (copyElements_withLimit limit)]
  cases m.elements.foldlM copyElements s with
  | error r => rfl
  | ok s => exact foldlM_withLimit limit s (copyData_withLimit limit) m.data

end

/-- Two limits that allow the same memories make no difference to what a module starts with. -/
theorem instantiate_withLimit {m : Module} {limit limit' : Nat}
    (h : startMemories m limit = startMemories m limit') :
    (instantiate m limit).map (.withLimit limit') = instantiate m limit' := by
  unfold instantiate
  rw [h]
  cases startMemories m limit' with
  | error r => rfl
  | ok memories =>
    -- globals and passive segments are computed without a limit
    cases hglobals : m.globals.mapM fun g => orRefuse .invalid (constant? g.init) with
    | error r => rfl
    | ok globals =>
      cases helements : m.elements.mapM passiveElements with
      | error r => rfl
      | ok elements => exact copySegments_withLimit limit' _ m

/-- A module that can be instantiated at all can be if the limit allows its memories. -/
theorem instantiate_eq_ok_of_le {m : Module} {pages limit : Nat} {s : Store}
    (h : instantiate m pages = .ok s) (hle : ∀ t ∈ m.memories, t.limits.minimum ≤ limit) :
    instantiate m limit = .ok (s.withLimit limit) := by
  have hstart := h
  unfold instantiate at hstart
  obtain ⟨memories, hmemories, -⟩ := bind_eq_ok_iff.mp hstart
  have hmin : ∀ t ∈ m.memories, t.limits.minimum ≤ pages :=
    (startMemories_eq_ok_iff.mp hmemories).1
  rw [← instantiate_withLimit ((startMemories_of_le hmin).trans (startMemories_of_le hle).symm), h]
  rfl

/-- A module whose only memory starts beyond the limit is refused. -/
theorem instantiate_eq_error_of_lt {m : Module} {t : MemoryType} {limit : Nat}
    (h : m.memories = #[t]) (hlt : limit < t.limits.minimum) :
    instantiate m limit = .error (.memoryTooLarge t.limits.minimum) := by
  have hstart : startMemories m limit = .error (.memoryTooLarge t.limits.minimum) := by
    simp [startMemories, h, Nat.not_le.mpr hlt]
  unfold instantiate
  rw [hstart]
  rfl

/-- If a module with a single memory can be instantiated at all, the limit is the only reason to
refuse it. -/
theorem exists_instantiate_eq_error_iff {m : Module} {t : MemoryType} {limit : Nat}
    (h : m.memories = #[t]) (hstore : ∃ pages s, instantiate m pages = .ok s) :
    (∃ r, instantiate m limit = .error r) ↔ limit < t.limits.minimum := by
  obtain ⟨pages, s, hs⟩ := hstore
  constructor
  · rintro ⟨r, hr⟩
    apply Nat.lt_of_not_le
    intro hle
    have hall : ∀ t' ∈ m.memories, t'.limits.minimum ≤ limit := fun t' ht' => by
      rw [h, Array.mem_singleton] at ht'
      exact ht' ▸ hle
    rw [instantiate_eq_ok_of_le hs hall] at hr
    cases hr
  · intro hlt
    exact ⟨_, instantiate_eq_error_of_lt h hlt⟩

end ScriptSandbox.Wasm
