import ScriptSandbox.Proofs.Evaluation.Endings
import ScriptSandbox.Proofs.Sandbox.Alone
import ScriptSandbox.Proofs.Sandbox.LiveInstances
import ScriptSandbox.Proofs.Sandbox.MemoryLimits
import ScriptSandbox.Proofs.Wasm.Growth

/-!
# The growth of memories

A guest with a single memory is only refused if it wants to start beyond the limit: the least of
what the evaluation asks for, what the host allows and what can be addressed. Once it runs, it gets
more pages exactly up to the limit and to what it has declared itself, whatever it did before.

## Main definitions

* `Sandbox.Instance.answered`: an instance that was answered when it asked for pages

## Main results

* `Sandbox.Session.evaluateWithin_of_not_instantiated`: what comes of a refused guest
* `Sandbox.Course.Of.exists_memory`: the memory of a run at any point
* `Sandbox.Course.progress_go_of_requested`: the step of a run that asks for pages
* `Sandbox.Course.exists_progress_go_of_fits`, `Sandbox.Course.progress_go_of_not_fits`: when it
  gets them, and when it does not
* `Sandbox.Session.memory_growth`: when a memory grows, from the beginning of a run on
-/

namespace ScriptSandbox.Sandbox

open Wasm (Memory MemoryType)

variable {c : Settings} {g : Guest} {source : List UInt8} {k : Course} {i : Instance}
  {t : MemoryType} {memory : Memory} {pages : UInt32}

/-! ### Refused guests -/

/-- A guest that cannot be instantiated has ended at once. -/
theorem create_of_instantiate_eq_error {r : Wasm.Refusal} {clock : Nat}
    (h : Wasm.instantiate g.module c.pageLimit = .error r) :
    Instance.create c g source clock =
      endRun (.fresh source c.maxOutputBytes) clock (failure r.message []) := by
  unfold Instance.create
  dsimp only
  rw [h]

namespace Session

variable {s : Session} {x : Context}

/-- An evaluation whose context is not done is a run up to its deadline. -/
theorem evaluateWithin_of_not_done (h : s.done x = none) (limits : Limits) (code : String) :
    (s.evaluateWithin limits x code).1 = resultAt ((s.within limits).runUntil x.deadline
      (awaken s.now ((s.within limits).create code s.now))) := by
  have hr := s.getElem?_begin limits x code
  have hend := s.stage_evaluateWithin limits x code
  have hcomplete : ((s.begin limits x code).2.complete s.runs.size).2 =
      (s.begin limits x code).2.poll s.runs.size x.deadline := by
    unfold complete
    rw [hr]
    dsimp only [Option.elim]
  rw [evaluateWithin_eq] at hend ⊢
  rw [hcomplete, stage_poll_of_not_done (s := (s.begin limits x code).2) h hr] at hend
  exact (Stage.returned.inj hend).symm

/-- An evaluation whose guest cannot be instantiated tells why. -/
theorem evaluateWithin_of_not_instantiated (h : s.done x = none) {limits : Limits}
    {r : Wasm.Refusal} (hr : Wasm.instantiate s.evaluator.host.guest.module
      (s.evaluator.settingsWithin limits).pageLimit = .error r) (code : String) :
    (s.evaluateWithin limits x code).1 = .error (.instantiationFailure r.message) := by
  have hcreate : (s.within limits).create code s.now =
      endRun (.fresh (Utf8.encode code) _) s.now (failure r.message []) :=
    create_of_instantiate_eq_error hr
  rw [evaluateWithin_of_not_done h, hcreate]
  -- the run has ended before it could wait or go on
  change resultAt (Progress.runUntil _ _ _ (endRun _ _ _)) = _
  unfold endRun
  rw [Progress.runUntil_ended]
  exact (Evaluation.Ends.failure r.message).classify_eq [] []

end Session

/-! ### The memory of a run -/

/-- The stores of a guest with a single memory have a single memory, which may have the pages that
the guest has declared. -/
theorem IsStoreOf.exists_memory {s : Wasm.Store} (h : IsStoreOf c g s)
    (hg : g.module.memories = #[t]) :
    ∃ memory, s.memories = #[memory] ∧ memory.maximum = t.limits.maximum := by
  obtain ⟨initial, hinitial, hkeeps⟩ := h
  have hmaxima : s.memories.map (·.maximum) = #[t.limits.maximum] := by
    obtain ⟨-, -, hmaxima⟩ := Wasm.within_of_instantiate hinitial
    exact hkeeps.maxima.trans (hmaxima.trans (by simp [hg]))
  obtain ⟨memory, hmemory⟩ := Array.size_eq_one_iff.mp (show s.memories.size = 1 by
    simpa using congrArg Array.size hmaxima)
  refine ⟨memory, hmemory, ?_⟩
  rw [hmemory] at hmaxima
  simpa using hmaxima

/-- An instance that was answered when it asked for more pages, and the memory that it then has. -/
def Instance.answered (i : Instance) (memory : Memory) (answer : UInt32) : Instance :=
  { i with state := i.state.answered memory answer, clock := i.clock + stepTime }

namespace Course

/-- At any point of a run, the memory of the guest is within the limit. -/
theorem Of.exists_memory (h : k.Of c g source) (hi : k.progress = .running i)
    (hg : g.module.memories = #[t]) :
    ∃ memory, i.state.store.memories = #[memory] ∧ memory.maximum = t.limits.maximum ∧
      memory.pageCount ≤ c.pageLimit ∧ i.state.store.pageLimit = c.pageLimit := by
  have hstore : k.HasStore c g i.state.store := .running hi
  obtain ⟨memory, hmemory, hmaximum⟩ := (h.isStoreOf hstore).exists_memory hg
  have hbounded := h.bounded hstore
  have hle : memory.pageCount ≤ i.state.store.pageLimit :=
    hbounded.within memory (by rw [hmemory]; exact Array.mem_singleton.mpr rfl)
  exact ⟨memory, hmemory, hmaximum, hbounded.pageLimit ▸ hle, hbounded.pageLimit⟩

/-- A run whose guest asks for more pages goes on with an answer. -/
theorem progress_go_of_requested (hi : k.progress = .running i)
    (hmemory : i.state.store.memories = #[memory]) (h : i.state.requested? = some pages) :
    (k.go c g).progress =
      .running (match memory.grow pages.toNat i.state.store.pageLimit with
        | some grown => i.answered grown memory.pageCount.toUInt32
        | none => i.answered memory Wasm.growthRefused) := by
  rw [go_of_running hi]
  dsimp only
  rw [Instance.progress_moment_of_next (Wasm.step_of_requested g.program hmemory h)]
  cases memory.grow pages.toNat i.state.store.pageLimit with
  | some grown => rfl
  | none => rfl

/-- It gets the pages if they are within the limit and what the memory may have. -/
theorem exists_progress_go_of_fits (hi : k.progress = .running i)
    (hmemory : i.state.store.memories = #[memory]) (h : i.state.requested? = some pages)
    (hcount : memory.pageCount ≤ 65536)
    (hfits : memory.pageCount + pages.toNat ≤ i.state.store.pageLimit ∧
      memory.pageCount + pages.toNat ≤ memory.maximum.getD 65536) :
    ∃ grown answer, memory.Extends grown pages.toNat ∧ answer.toNat = memory.pageCount ∧
      (k.go c g).progress = .running (i.answered grown answer) := by
  obtain ⟨grown, hgrown⟩ : ∃ grown,
      memory.grow pages.toNat i.state.store.pageLimit = some grown :=
    ⟨_, Memory.grow_eq_some_iff.mpr ⟨hfits, rfl⟩⟩
  have hgo := progress_go_of_requested (c := c) (g := g) hi hmemory h
  rw [hgrown] at hgo
  -- the answer has 32 bits, which are enough for any count of pages
  have hanswer : memory.pageCount.toUInt32.toNat = memory.pageCount :=
    UInt32.toNat_ofNat_of_lt' (hcount.trans_lt (by decide))
  exact ⟨grown, _, Memory.extends_of_grow hgrown, hanswer, hgo⟩

/-- It is told that there are none if they are not. -/
theorem progress_go_of_not_fits (hi : k.progress = .running i)
    (hmemory : i.state.store.memories = #[memory]) (h : i.state.requested? = some pages)
    (hnot : ¬ (memory.pageCount + pages.toNat ≤ i.state.store.pageLimit ∧
      memory.pageCount + pages.toNat ≤ memory.maximum.getD 65536)) :
    (k.go c g).progress = .running (i.answered memory 0xFFFFFFFF) := by
  have hgo := progress_go_of_requested (c := c) (g := g) hi hmemory h
  rw [Memory.grow_eq_none_iff.mpr hnot] at hgo
  exact hgo

end Course

namespace Session

/-- A guest with a single memory, which could be instantiated if there were no limit, is refused if
its memory is to start beyond the limit, and only then; the evaluation tells so. Whenever it asks
for more pages, in whatever run, it gets them if the limit and its declaration allow as many in all;
it is told how many there were, and nothing it has stored is lost. Otherwise it is told that there
are none, its memory is as before, and it goes on. -/
theorem memory_growth (e : Evaluator) (limits : Limits)
    (hguest : e.host.guest.module.memories = #[t]) :
    let g := e.host.guest
    let c := e.settingsWithin limits
    let most := min limits.memoryLimitPages (min e.host.options.memoryLimitPages 65536)
    ((∃ pages store, Wasm.instantiate g.module pages = .ok store) →
      ((∃ r, Wasm.instantiate g.module c.pageLimit = .error r) ↔ most < t.limits.minimum)) ∧
    (most < t.limits.minimum → ∀ (s : Session) (x : Context) (code : String), s.evaluator = e →
      s.done x = none → (s.evaluateWithin limits x code).1 =
        .error (.instantiationFailure (Wasm.Refusal.memoryTooLarge t.limits.minimum).message)) ∧
    ∀ (source : List UInt8) (k : Course) (i : Instance), k.Of c g source →
      k.progress = .running i →
      ∃ memory, i.state.store.memories = #[memory] ∧ memory.pageCount ≤ most ∧
        memory.maximum = t.limits.maximum ∧
        ∀ pages, i.state.requested? = some pages →
          let total := memory.pageCount + pages.toNat
          let fits := total ≤ most ∧ total ≤ t.limits.maximum.getD 65536
          (fits → ∃ grown answer, memory.Extends grown pages.toNat ∧
            answer.toNat = memory.pageCount ∧
            (k.go c g).progress = .running (i.answered grown answer)) ∧
          (¬ fits → (k.go c g).progress = .running (i.answered memory 0xFFFFFFFF)) := by
  intro g c most
  have hlimit : c.pageLimit = most := rfl
  refine ⟨fun hstore => ?_, fun hlt s x code he hdone => ?_, fun source k i hk hi => ?_⟩
  · exact Wasm.exists_instantiate_eq_error_iff hguest hstore
  · subst he
    exact evaluateWithin_of_not_instantiated hdone (Wasm.instantiate_eq_error_of_lt hguest hlt) code
  · obtain ⟨memory, hmemory, hmaximum, hle, hstore⟩ := hk.exists_memory hi hguest
    rw [hlimit] at hle hstore
    have hcount : memory.pageCount ≤ 65536 :=
      hle.trans ((Nat.min_le_right _ _).trans (Nat.min_le_right _ _))
    refine ⟨memory, hmemory, hle, hmaximum, fun pages hpages => ?_⟩
    rw [← hmaximum, ← hstore]
    exact ⟨Course.exists_progress_go_of_fits hi hmemory hpages hcount,
      Course.progress_go_of_not_fits hi hmemory hpages⟩

/-- A guest that starts with one page of three and asks for another one twice. -/
def growing : List UInt8 :=
  [0x00, 0x61, 0x73, 0x6d, 0x01, 0x00, 0x00, 0x00, 0x01, 0x04, 0x01, 0x60, 0x00, 0x00, 0x03, 0x02,
   0x01, 0x00, 0x05, 0x04, 0x01, 0x01, 0x01, 0x03, 0x08, 0x01, 0x00, 0x0a, 0x0e, 0x01, 0x0c, 0x00,
   0x41, 0x01, 0x40, 0x00, 0x1a, 0x41, 0x01, 0x40, 0x00, 0x1a, 0x0b]

/-- The run of an evaluator after some steps. -/
def courseAfter (e : Evaluator) (n : Nat) : Course :=
  (Course.go e.settings e.host.guest)^[n] (.begun e.settings e.host.guest [] 0)

theorem courseAfter_succ (e : Evaluator) (n : Nat) :
    courseAfter e (n + 1) = (courseAfter e n).go e.settings e.host.guest :=
  Function.iterate_succ_apply' _ _ _

theorem of_courseAfter (e : Evaluator) (n : Nat) :
    (courseAfter e n).Of e.settings e.host.guest [] := Course.Of.iterate (.begun 0) n

/-- How many pages a run asks for, and how many its memories have. -/
def requestOf? (k : Course) : Option (UInt32 × List Nat) :=
  match k.progress with
  | .running i => i.state.requested?.map ((·, i.state.store.memories.toList.map (·.pageCount)))
  | .ended _ => none

theorem exists_of_requestOf? {counts : List Nat} (h : requestOf? k = some (pages, counts)) :
    ∃ i, k.progress = .running i ∧ i.state.requested? = some pages ∧
      i.state.store.memories.toList.map (·.pageCount) = counts := by
  unfold requestOf? at h
  split at h
  next i hi =>
    obtain ⟨pages', hpages, h⟩ := Option.map_eq_some_iff.mp h
    obtain ⟨rfl, rfl⟩ := Prod.mk.inj h
    exact ⟨i, hi, hpages, rfl⟩
  next => cases h

set_option maxRecDepth 100000 in
/-- With a limit of two pages it gets the first one and not the second. -/
theorem memory_growth_growing : ∃ h : Host, Host.compile growing ⟨16, 16, 1000⟩ = .ok h ∧
    (∃ (i : Instance) (grown : Memory) (answer : UInt32), grown.pageCount = 2 ∧ answer.toNat = 1 ∧
      (courseAfter (twoPages h) 2).progress = .running (i.answered grown answer)) ∧
    ∃ (i : Instance) (memory : Memory), memory.pageCount = 2 ∧
      (courseAfter (twoPages h) 5).progress = .running (i.answered memory 0xFFFFFFFF) := by
  have hrun : (Host.compile growing ⟨16, 16, 1000⟩).toOption.any (fun h =>
      h.guest.module.memories = #[⟨⟨1, some 3⟩, false⟩] && (h.options.memoryLimitPages = 16 &&
        (requestOf? (courseAfter (twoPages h) 1) = some (1, [1]) &&
          requestOf? (courseAfter (twoPages h) 4) = some (1, [2])))) = true := by
    decide +kernel
  obtain ⟨h, hh, hrun⟩ := exists_compiled hrun
  simp only [Bool.and_eq_true, decide_eq_true_eq] at hrun
  obtain ⟨hguest, hoptions, hfirst, hsecond⟩ := hrun
  obtain ⟨-, -, hgrowth⟩ := memory_growth (twoPages h) ⟨2, 1000⟩ hguest
  have hmost : min 2 (min h.options.memoryLimitPages 65536) = 2 := by
    rw [hoptions]
    decide
  refine ⟨h, hh, ?_, ?_⟩
  · obtain ⟨i, hi, hpages, hcounts⟩ := exists_of_requestOf? hfirst
    obtain ⟨memory, hmemory, -, -, hgrows⟩ := hgrowth [] _ i (of_courseAfter (twoPages h) 1) hi
    have hcount : memory.pageCount = 1 := by simpa [hmemory] using hcounts
    obtain ⟨grown, answer, hextends, hanswer, hgo⟩ := (hgrows 1 hpages).1 (by
      rw [hcount]
      exact ⟨Nat.le_of_eq hmost.symm, by decide⟩)
    refine ⟨i, grown, answer, ?_, hanswer.trans hcount, ?_⟩
    · rw [hextends.pageCount, hcount]
      rfl
    · rw [courseAfter_succ]
      exact hgo
  · obtain ⟨i, hi, hpages, hcounts⟩ := exists_of_requestOf? hsecond
    obtain ⟨memory, hmemory, -, -, hgrows⟩ := hgrowth [] _ i (of_courseAfter (twoPages h) 4) hi
    have hcount : memory.pageCount = 2 := by simpa [hmemory] using hcounts
    refine ⟨i, memory, hcount, ?_⟩
    rw [courseAfter_succ]
    refine (hgrows 1 hpages).2 fun hfits => ?_
    have hle : memory.pageCount + 1 ≤ min 2 (min h.options.memoryLimitPages 65536) := hfits.1
    rw [hcount, hmost] at hle
    exact absurd hle (by decide)

end Session

end ScriptSandbox.Sandbox
