import ScriptSandbox.Proofs.Sandbox.Exchanges
import ScriptSandbox.Proofs.Wasi.Transfers

/-!
# A guest that echoes

A guest that copies its input to its output in rounds. A round fills a buffer from the input and
writes it to the output, as far as it was filled. The guest returns when there was nothing to fill
it with, or when the input cannot be read. Whether the output can be written it does not ask.

## Main definitions

* `Sandbox.Echo.module`, `Sandbox.Echo.image`: the module, and a byte string that it is read from
* `Sandbox.Echo.IsCompiled`: a guest that was compiled from any image of the module
* `Sandbox.Echo.inRound`: where the machine stands within a round

## Main results

* `Sandbox.Echo.IsCompiled.exists_eq`: what such a guest is
* `Sandbox.Echo.instantiate_module`: its instances
* `Sandbox.Echo.runs_offer`, `Sandbox.Echo.runs_look` and others: what its machine does between
  calls of host functions
-/

namespace ScriptSandbox.Sandbox.Echo

open Wasi (Capture Resources)
open Wasm (Code FuncType Instr Label MemArg Memory Module Names Op Program Runs State Store Value)

/-! ### The module -/

/-- A place in memory without a distance. -/
def here : MemArg := ⟨2, 0, 0⟩

/-- The instructions of a round, with the bytes of the image at which they stand. -/
def instructions : List (Nat × Instr) :=
  [ -- a buffer of 4096 bytes at address 64
    (133, .i32Const 0), (135, .i32Const 64), (138, .store ⟨.i32, 4⟩ here),
    (141, .i32Const 4), (143, .i32Const 4096), (146, .store ⟨.i32, 4⟩ here),
    -- is filled from the input
    (149, .i32Const 0), (151, .i32Const 0), (153, .i32Const 1), (155, .i32Const 8), (157, .call 0),
    (159, .brIf 1),
    -- as far as address 8 tells, if at all
    (161, .i32Const 8), (163, .load ⟨.i32, 4, .unsigned⟩ here), (166, .localSet 0),
    (168, .localGet 0), (170, .numeric (.intTest .w32)), (171, .brIf 1),
    -- and that far is written to the output
    (173, .i32Const 4), (175, .localGet 0), (177, .store ⟨.i32, 4⟩ here),
    (180, .i32Const 1), (182, .i32Const 0), (184, .i32Const 1), (186, .i32Const 12), (188, .call 1),
    (190, .drop),
    (191, .br 0)]

/-- The flat code of the guest: rounds in a loop, which a branch to the block around it leaves. -/
def operations : List Op :=
  [.block .empty, .loop .empty] ++ instructions.map (fun (position, i) => .plain position i) ++
    [.close, .close, .close]

/-- The type of the functions that read and write. -/
def transferType : FuncType := ⟨[.i32, .i32, .i32, .i32], [.i32]⟩

/-- The module, with whatever names it gives. -/
def module (names : Names) (describesSource : Bool) : Module where
  types := #[transferType, ⟨[], []⟩]
  imports := #[⟨Wasi.origin, "fd_read", .function 0⟩, ⟨Wasi.origin, "fd_write", .function 0⟩]
  functions := #[1]
  memories := #[⟨⟨1, none⟩, false⟩]
  exports := #[⟨"memory", .memory 0⟩, ⟨"_start", .function 2⟩]
  bodies := #[⟨[(1, .i32)], operations⟩]
  names
  describesSource

/-- The module without names, as a byte string. -/
def image : List UInt8 :=
  [0x00, 0x61, 0x73, 0x6d, 0x01, 0x00, 0x00, 0x00, 0x01, 0x0c, 0x02, 0x60, 0x04, 0x7f, 0x7f, 0x7f,
   0x7f, 0x01, 0x7f, 0x60, 0x00, 0x00, 0x02, 0x44, 0x02, 0x16, 0x77, 0x61, 0x73, 0x69, 0x5f, 0x73,
   0x6e, 0x61, 0x70, 0x73, 0x68, 0x6f, 0x74, 0x5f, 0x70, 0x72, 0x65, 0x76, 0x69, 0x65, 0x77, 0x31,
   0x07, 0x66, 0x64, 0x5f, 0x72, 0x65, 0x61, 0x64, 0x00, 0x00, 0x16, 0x77, 0x61, 0x73, 0x69, 0x5f,
   0x73, 0x6e, 0x61, 0x70, 0x73, 0x68, 0x6f, 0x74, 0x5f, 0x70, 0x72, 0x65, 0x76, 0x69, 0x65, 0x77,
   0x31, 0x08, 0x66, 0x64, 0x5f, 0x77, 0x72, 0x69, 0x74, 0x65, 0x00, 0x00, 0x03, 0x02, 0x01, 0x01,
   0x05, 0x03, 0x01, 0x00, 0x01, 0x07, 0x13, 0x02, 0x06, 0x6d, 0x65, 0x6d, 0x6f, 0x72, 0x79, 0x02,
   0x00, 0x06, 0x5f, 0x73, 0x74, 0x61, 0x72, 0x74, 0x00, 0x02, 0x0a, 0x48, 0x01, 0x46, 0x01, 0x01,
   0x7f, 0x02, 0x40, 0x03, 0x40, 0x41, 0x00, 0x41, 0xc0, 0x00, 0x36, 0x02, 0x00, 0x41, 0x04, 0x41,
   0x80, 0x20, 0x36, 0x02, 0x00, 0x41, 0x00, 0x41, 0x00, 0x41, 0x01, 0x41, 0x08, 0x10, 0x00, 0x0d,
   0x01, 0x41, 0x08, 0x28, 0x02, 0x00, 0x21, 0x00, 0x20, 0x00, 0x45, 0x0d, 0x01, 0x41, 0x04, 0x20,
   0x00, 0x36, 0x02, 0x00, 0x41, 0x01, 0x41, 0x00, 0x41, 0x01, 0x41, 0x0c, 0x10, 0x01, 0x1a, 0x0c,
   0x00, 0x0b, 0x0b, 0x0b]

set_option maxRecDepth 100000 in
theorem readModule_image : Wasm.Binary.readModule image = .ok (module {} false) := by
  with_unfolding_all decide

variable {names : Names} {describesSource : Bool}

/-! ### The compiled guest -/

/-- The nested code of a round. -/
def round : List Code := instructions.map fun (position, i) => .plain position i

/-- Rounds in a loop. -/
def loop : Code := .loop .empty round

/-- The module made ready to run. -/
def program : Program where
  types := #[transferType, ⟨[], []⟩]
  functions := #[.imported 0 transferType, .imported 1 transferType,
    .defined ⟨[], []⟩ [.i32] [.block .empty [loop]]]

/-- The compiled guest. -/
def guest (names : Names) (describesSource : Bool) : Guest :=
  ⟨module names describesSource, program, #[.fdRead, .fdWrite]⟩

/-- A guest that was compiled from an image of the module, whatever names are given there. -/
def IsCompiled (g : Guest) : Prop :=
  ∃ image names describesSource,
    Wasm.Binary.readModule image = .ok (module names describesSource) ∧ Guest.compile image = .ok g

theorem ofModule_module : Program.ofModule? (module names describesSource) = some program := by
  have himported : Wasm.importedFunctions? (module names describesSource) =
      some #[.imported 0 transferType, .imported 1 transferType] := by
    simp [Wasm.importedFunctions?, module]
  have hzip : (module names describesSource).functions.zip (module names describesSource).bodies =
      #[(1, ⟨[(1, .i32)], operations⟩)] := by simp [module]
  have hnested : Code.ofOps? operations = some [.block .empty [loop]] := rfl
  have hbody : Wasm.Function.ofBody? (module names describesSource) 1 ⟨[(1, .i32)], operations⟩ =
      some (.defined ⟨[], []⟩ [.i32] [.block .empty [loop]]) := by
    rw [Wasm.Function.ofBody?, hnested]
    rfl
  rw [Program.ofModule?, himported, hzip]
  simp [hbody]
  rfl

theorem link_module : link (module names describesSource) = .ok #[.fdRead, .fdWrite] := by
  have hnames : link (module names describesSource) = link (module {} false) := rfl
  rw [hnames]
  with_unfolding_all decide

theorem valid_module : (module names describesSource).valid = true := by
  have hdistinct : (module {} false).exportsDistinct = true := by
    simp [Module.exportsDistinct, module, List.mergeSort, List.MergeSort.Internal.splitInTwo]
  have hnames : (module names describesSource).valid = (module {} false).valid := rfl
  rw [hnames, Module.valid, hdistinct]
  with_unfolding_all decide

/-- Every image of the module is compiled to that guest. -/
theorem compile_of_readModule {image : List UInt8}
    (h : Wasm.Binary.readModule image = .ok (module names describesSource)) :
    Guest.compile image = .ok (guest names describesSource) := by
  have himports : (link (module names describesSource)).mapError CompileError.linkFailed =
      .ok #[.fdRead, .fdWrite] := by rw [link_module, Except.mapError]
  unfold Guest.compile
  rw [h]
  simp only [pure_bind, valid_module, Bool.not_true, Bool.false_eq_true, if_false, himports,
    ofModule_module]
  rfl

theorem IsCompiled.exists_eq {g : Guest} (h : IsCompiled g) :
    ∃ names describesSource, g = guest names describesSource := by
  obtain ⟨image, names, describesSource, hread, hcompile⟩ := h
  rw [compile_of_readModule hread] at hcompile
  exact ⟨names, describesSource, (Except.ok.inj hcompile).symm⟩

/-- The store in which the module runs: one memory, and nothing else. -/
def store (limit : Nat) (m : Memory) : Store := ⟨limit, #[m], #[], #[], #[], #[]⟩

theorem instantiate_module {limit : Nat} (h : 1 ≤ limit) :
    Wasm.instantiate (module names describesSource) limit =
      .ok (store limit (.zeros 1 none false)) := by
  have hmemories : Wasm.startMemories (module names describesSource) limit =
      .ok #[.zeros 1 none false] := by
    simp [Wasm.startMemories, module, h]
  rw [Wasm.instantiate, hmemories]
  simp [module]
  rfl

/-! ### Steps of the machine -/

/-- The labels of the loop and of the block around it. -/
def labels : List Label := [⟨0, [loop], [], []⟩, ⟨0, [], [], []⟩]

/-- A state of the machine in the loop: its memory, its local variable, its operands, and the code
that is still to run. -/
def inRound (limit : Nat) (m : Memory) (n : UInt32) (stack : List Value) (code : List Code) :
    State where
  store := store limit m
  function := 2
  locals := #[.i32 n]
  stack
  code
  labels
  arity := 0
  callers := []
  room := Wasm.maxActivations - 1

section

variable {limit : Nat} {m : Memory} {n a b : UInt32} {stack : List Value} {code : List Code}
  {position : Nat}

theorem modifyMemory_store (limit : Nat) (m : Memory) (f : Memory → Memory) :
    (store limit m).modifyMemory 0 f = store limit (f m) := by
  simp [Store.modifyMemory, store]

/-! #### Single instructions -/

theorem step_const (a : UInt32) (code : List Code) :
    Wasm.step program (inRound limit m n stack (.plain position (.i32Const a) :: code)) =
      .next (inRound limit m n (.i32 a :: stack) code) := rfl

theorem step_localGet (code : List Code) :
    Wasm.step program (inRound limit m n stack (.plain position (.localGet 0) :: code)) =
      .next (inRound limit m n (.i32 n :: stack) code) := rfl

theorem step_localSet (code : List Code) :
    Wasm.step program
        (inRound limit m n (.i32 a :: stack) (.plain position (.localSet 0) :: code)) =
      .next (inRound limit m a stack code) := rfl

theorem step_intTest (code : List Code) :
    Wasm.step program
        (inRound limit m n (.i32 a :: stack) (.plain position (.numeric (.intTest .w32)) :: code)) =
      .next (inRound limit m n (Wasm.truth (a = 0) :: stack) code) := rfl

theorem step_brIf_of_zero (code : List Code) :
    Wasm.step program (inRound limit m n (.i32 0 :: stack) (.plain position (.brIf 1) :: code)) =
      .next (inRound limit m n stack code) := rfl

theorem step_drop (v : Value) (code : List Code) :
    Wasm.step program (inRound limit m n (v :: stack) (.plain position .drop :: code)) =
      .next (inRound limit m n stack code) := rfl

theorem step_load (h : a.toNat + 4 ≤ m.size) (code : List Code) :
    Wasm.step program (inRound limit m n (.i32 a :: stack)
        (.plain position (.load ⟨.i32, 4, .unsigned⟩ here) :: code)) =
      .next (inRound limit m n (.i32 (m.readNat a.toNat 4).toUInt32 :: stack) code) := by
  have hbounds : m.inBounds a.toNat 4 = true := decide_eq_true h
  have hmemory : (store limit m).memories[0]? = some m := rfl
  have hloaded (k : Nat) : Wasm.loaded ⟨.i32, 4, .unsigned⟩ k = .i32 k.toUInt32 := rfl
  change Wasm.load (inRound limit m n (.i32 a :: stack) _) ⟨.i32, 4, .unsigned⟩ here code = _
  simp only [Wasm.load, inRound, here, hmemory, Nat.add_zero, hbounds, if_true, hloaded]

/-- A value is stored at an address inside the memory. -/
theorem store_of_reaches {s : State} {v : Value} {op : Wasm.StoreOp} {arg : MemArg}
    (hstack : s.stack = v :: .i32 a :: stack)
    (hreaches : s.store.reaches? arg.memory (a.toNat + arg.offset) op.bytes = some true) :
    Wasm.store s op arg code = .next { s with
      store := s.store.modifyMemory arg.memory
        (·.writeNat (a.toNat + arg.offset) op.bytes (Wasm.stored v))
      stack
      code } := by
  unfold Wasm.store
  rw [hstack]
  dsimp only
  rw [hreaches]

/-- A step that changes the memory. -/
theorem next_modifyMemory {s : State} (hs : s = inRound limit m n stack code)
    (f : Memory → Memory) (stack' : List Value) (code' : List Code) :
    Wasm.Step.next { s with
      store := s.store.modifyMemory 0 f, stack := stack', code := code' } =
      .next (inRound limit (f m) n stack' code') := by
  subst hs
  have hstore : (inRound limit m n stack code).store = store limit m := rfl
  rw [hstore, modifyMemory_store]
  rfl

theorem step_store (h : a.toNat + 4 ≤ m.size) (code : List Code) :
    Wasm.step program (inRound limit m n (.i32 b :: .i32 a :: stack)
        (.plain position (.store ⟨.i32, 4⟩ here) :: code)) =
      .next (inRound limit (m.writeNat a.toNat 4 b.toNat) n stack code) := by
  have hbounds : m.inBounds a.toNat 4 = true := decide_eq_true h
  have hmemory : (store limit m).memories[0]? = some m := rfl
  have hreaches : (store limit m).reaches? 0 a.toNat 4 = some true := by
    rw [Store.reaches?, hmemory, Option.map_some, hbounds]
  -- what is stored must not be computed, and so the state is not looked into
  generalize hs : inRound limit m n (.i32 b :: .i32 a :: stack)
    (.plain position (.store ⟨.i32, 4⟩ here) :: code) = s
  have hstep : Wasm.step program s = Wasm.store s ⟨.i32, 4⟩ here code := by
    subst hs
    rfl
  have hstack : s.stack = .i32 b :: .i32 a :: stack := by rw [← hs, inRound]
  have hstore : s.store = store limit m := by rw [← hs, inRound]
  rw [hstep, store_of_reaches hstack (hstore ▸ hreaches)]
  exact next_modifyMemory hs.symm (·.writeNat a.toNat 4 b.toNat) stack code

/-- A call of a host function, with its arguments. -/
theorem step_call {index : Nat} (hindex : index < 2) (a b c d : UInt32) (code : List Code) :
    Wasm.step program (inRound limit m n [.i32 d, .i32 c, .i32 b, .i32 a]
        (.plain position (.call index) :: code)) =
      .host index [.i32 a, .i32 b, .i32 c, .i32 d]
        (inRound limit m n [] (.plain position (.call index) :: code)) := by
  obtain rfl | rfl : index = 0 ∨ index = 1 := by omega
  · rfl
  · rfl

/-- After the answer of a host function the machine goes on behind the call. -/
theorem resume_inRound (call : Code) (results : List Value) (m' : Memory) (code : List Code) :
    { inRound limit m n [] (call :: code) with
      store := (inRound limit m n [] (call :: code)).store.modifyMemory 0 fun _ => m' }.resume
        results = inRound limit m' n results.reverse code := by
  have hstore : (inRound limit m n [] (call :: code)).store = store limit m := rfl
  rw [hstore, modifyMemory_store]
  change { inRound limit m' n (results.reverse ++ []) code with } = _
  rw [List.append_nil]

/-! #### From one call to the next -/

/-- The state in which the machine begins. -/
def initial (limit : Nat) (m : Memory) : State :=
  { inRound limit m 0 [] [.block .empty [loop]] with labels := [] }

theorem invoke_start : Wasm.invoke program (store limit m) 2 [] = .next (initial limit m) := rfl

theorem runs_initial : Runs program 2 (initial limit m) (inRound limit m 0 [] round) :=
  .step rfl <| .step rfl <| .refl _

/-- The buffer is offered to be filled. -/
theorem runs_offer (h : 8 ≤ m.size) :
    Runs program 10 (inRound limit m n [] round)
      (inRound limit ((m.writeNat 0 4 64).writeNat 4 4 4096) n
        [.i32 8, .i32 1, .i32 0, .i32 0] (round.drop 10)) := by
  have hfirst : (0 : UInt32).toNat + 4 ≤ m.size := Nat.le_trans (by decide) h
  have hsecond : (4 : UInt32).toNat + 4 ≤ (m.writeNat 0 4 64).size := by
    rwa [Memory.size_writeNat]
  exact .step (step_const 0 _) <| .step (step_const 64 _) <| .step (step_store hfirst _) <|
    .step (step_const 4 _) <| .step (step_const 4096 _) <| .step (step_store hsecond _) <|
    .step (step_const 0 _) <| .step (step_const 0 _) <| .step (step_const 1 _) <|
    .step (step_const 8 _) <| .refl _

/-- After a read, it is looked at how far the buffer was filled. -/
theorem runs_look (h : 12 ≤ m.size) :
    Runs program 6 (inRound limit m n [.i32 0] (round.drop 11))
      (inRound limit m (m.readNat 8 4).toUInt32
        [Wasm.truth ((m.readNat 8 4).toUInt32 = 0)] (round.drop 17)) := by
  have hsize : (8 : UInt32).toNat + 4 ≤ m.size := h
  exact .step (step_brIf_of_zero _) <| .step (step_const 8 _) <| .step (step_load hsize _) <|
    .step (step_localSet _) <| .step (step_localGet _) <| .step (step_intTest _) <| .refl _

/-- As much of the buffer as was filled is passed on. -/
theorem runs_pass (h : 8 ≤ m.size) (hne : n ≠ 0) :
    Runs program 8 (inRound limit m n [Wasm.truth (n = 0)] (round.drop 17))
      (inRound limit (m.writeNat 4 4 n.toNat) n
        [.i32 12, .i32 1, .i32 0, .i32 1] (round.drop 25)) := by
  have hsize : (4 : UInt32).toNat + 4 ≤ m.size := h
  have hfalse : Wasm.truth (n = 0) = .i32 0 := by
    rw [decide_eq_false hne]
    rfl
  rw [hfalse]
  exact .step (step_brIf_of_zero _) <| .step (step_const 4 _) <| .step (step_localGet _) <|
    .step (step_store hsize _) <| .step (step_const 1 _) <| .step (step_const 0 _) <|
    .step (step_const 1 _) <| .step (step_const 12 _) <| .refl _

/-- The next round begins, whatever was answered to the write. -/
theorem runs_again (v : Value) :
    Runs program 3 (inRound limit m n [v] (round.drop 26)) (inRound limit m n [] round) :=
  .step (step_drop v _) <| .step rfl <| .step rfl <| .refl _

/-- The state in which the machine has left the loop. -/
def final (limit : Nat) (m : Memory) (n : UInt32) : State :=
  { inRound limit m n [] [] with labels := [] }

/-- If nothing was filled, that was the last round. -/
theorem runs_final : Runs program 1 (inRound limit m 0 [Wasm.truth ((0 : UInt32) = 0)]
    (round.drop 17)) (final limit m 0) := .step rfl <| .refl _

theorem step_final : Wasm.step program (final limit m n) = .returned (store limit m) [] := rfl

end

end ScriptSandbox.Sandbox.Echo
