import ScriptSandbox.Evaluation.Response
import ScriptSandbox.Proofs.Sandbox.Exits
import ScriptSandbox.Proofs.Wasi.Writes

/-!
# Where errors come from

An error with a code of the guest's own choice comes from an exit of the guest. It is the last thing
that the guest has done, the code is the one it has asked for, between 1 and 125, and the message is
what it has written to the standard error. All other errors have the one code that no exit leads to.
So a guest cannot make its failure look like one of the host.

## Main definitions

* `Sandbox.Moment.complaint`: the bytes that a call passes to the standard error
* `Sandbox.Session.complaints`: all that an evaluation has passed to the standard error
* `Sandbox.Origin`: where an error of a run comes from

## Main results

* `Sandbox.Course.Of.hasOrigin`: every error of a run has an origin
* `Sandbox.Session.codes_of_errors`: what is reported of the errors of evaluations
-/

namespace ScriptSandbox.Sandbox

open Evaluation (Outcome Response)
open Wasi (Capture)

variable {c : Settings} {g : Guest} {source : List UInt8} {k : Course} {m : Moment}
  {ms : List Moment} {error : Evaluation.Error}

/-! ### The standard error -/

/-- The bytes that the guest passes to the standard error. -/
def Moment.complaint (g : Guest) (m : Moment) : List UInt8 :=
  match m.call? g with
  | some ⟨f, args, some p⟩ => f.passed args p .error
  | _ => []

theorem Moment.complaint_of_not_host (h : ∀ index args s, m.step ≠ .host index args s) :
    m.complaint g = [] := by
  unfold complaint
  rw [call?_eq_none_of_not_host h]

/-- All bytes that were passed to the standard error, in order. The latest moment comes first. -/
def complaintsOf (g : Guest) (ms : List Moment) : List UInt8 := ms.reverse.flatMap (·.complaint g)

@[simp] theorem complaintsOf_nil : complaintsOf g [] = [] := rfl

@[simp] theorem complaintsOf_cons :
    complaintsOf g (m :: ms) = complaintsOf g ms ++ m.complaint g := by
  simp [complaintsOf]

/-- What is kept of the standard error: what fits. -/
def keptError (c : Settings) (g : Guest) (ms : List Moment) : Capture :=
  Capture.append ⟨c.maxOutputBytes, #[]⟩ (complaintsOf g ms)

theorem keptError_cons : keptError c g (m :: ms) = (keptError c g ms).append (m.complaint g) := by
  rw [keptError, keptError, complaintsOf_cons, Capture.append_append]

/-- A moment at which nothing is written. -/
theorem keptError_cons_of_silent (h : m.complaint g = []) :
    keptError c g (m :: ms) = keptError c g ms := by
  rw [keptError_cons, h, Capture.append_nil]

/-! ### Origins -/

/-- Where an error of a run comes from, of which these are the moments. -/
inductive Origin (c : Settings) (g : Guest) (ms : List Moment) : Evaluation.Error → Prop
  /-- The guest has asked to exit, as the last thing it did. -/
  | exit {m : Moment} {status : UInt32} {p : Wasi.Process} (hlast : ms.head? = some m)
      (hexits : m.Exits g status (some p)) (hpos : 0 < status) (hlt : status < 126) :
    Origin c g ms
      (.executionExit status.toInt32 (Utf8.lossy (keptError c g ms).content.toList))
  /-- The host has ended the run, or could not begin it. -/
  | failure (cause : String) : Origin c g ms (.instantiationFailure cause)
  /-- The guest has completed without a document. -/
  | undecodable : Origin c g ms .outputDecodeFailure

namespace Origin

theorem of_decodeOutput {stdout : List UInt8} (h : Evaluation.decodeOutput stdout = .error error) :
    Origin c g ms error := by
  unfold Evaluation.decodeOutput at h
  split at h
  · cases h
  · obtain rfl := Except.error.inj h
    exact .undecodable

theorem of_failure {message : String} {contexts : List String} {stdout stderr : List UInt8}
    (h : Evaluation.classify (Sandbox.failure message contexts) stdout stderr = .error error) :
    Origin c g ms error := by
  obtain rfl := Except.error.inj h
  exact .failure _

/-- What the machine comes to by itself is not an exit. -/
theorem of_machineOutcome {outcome : Outcome} {stdout stderr : List UInt8}
    (houtcome : MachineOutcome outcome)
    (h : Evaluation.classify outcome stdout stderr = .error error) : Origin c g ms error := by
  cases houtcome with
  | completed => exact of_decodeOutput h
  | failed message contexts => exact of_failure h

/-- Nor is the end that a host function makes of the guest, unless the guest has asked for it. -/
theorem of_abortOutcome {s : Wasm.State} {a : Wasi.Abort} {stdout stderr : List UInt8}
    (ha : ∀ code, a ≠ .exit code)
    (h : Evaluation.classify (abortOutcome c g s a) stdout stderr = .error error) :
    Origin c g ms error := by
  unfold abortOutcome at h
  split at h
  next code => exact absurd rfl (ha code)
  next => exact of_failure h
  next => exact of_failure h

end Origin

/-! ### Runs -/

/-- What is known of a run that is under way or has ended: what was kept of its standard error, and
where its error comes from. -/
def Progress.HasOrigin (c : Settings) (g : Guest) (ms : List Moment) : Progress → Prop
  | .running i => i.resources.error = keptError c g ms
  | .ended e => ∀ error, e.result = .error error → Origin c g ms error

/-- A way to go on from a moment leads to an error only if that has an origin. -/
theorem Moment.hasOrigin_of_leads {p : Progress} (h : m.resources.error = keptError c g ms)
    (hleads : m.Leads c g p) : p.HasOrigin c g (m :: ms) := by
  cases hleads with
  | runs hstep =>
    have hsilent : m.complaint g = [] := complaint_of_not_host (by simp [hstep])
    exact h.trans (keptError_cons_of_silent hsilent).symm
  | @answered index i args results s f p q hstep hcall? hi hcall =>
    obtain ⟨-, -, -, -, -, -, -, hresources, -⟩ := of_call?_eq_some hcall?
    have hbefore : p.error = m.resources.error := congrArg (·.error) hresources
    have hcomplaint : m.complaint g = f.passed args p .error := by
      unfold complaint
      rw [hcall?]
    have hafter : q.error = p.error.append (f.passed args p .error) :=
      Wasi.captured_of_call_eq_append (s := .error) hcall nofun
    change q.error = keptError c g (m :: ms)
    rw [hafter, hbefore, h, keptError_cons, hcomplaint]
  | @aborted index args s f p a hstep hcall? hcall =>
    intro error herror
    change Evaluation.classify (abortOutcome c g s a) _ _ = .error error at herror
    by_cases ha : ∃ code, a = .exit code
    · obtain ⟨code, rfl⟩ := ha
      obtain ⟨-, -, -, -, -, -, -, hresources, -⟩ := of_call?_eq_some hcall?
      rw [Wasi.leftBehind_of_exit hcall, hresources] at herror
      obtain ⟨rfl, rfl, hlt⟩ := Wasi.of_call_eq_exit hcall
      change (if code.toInt32 = 0 then _ else _) = _ at herror
      by_cases hzero : code.toInt32 = 0
      · rw [if_pos hzero] at herror
        exact .of_decodeOutput herror
      · rw [if_neg hzero] at herror
        obtain rfl := Except.error.inj herror
        have hcomplaint : m.complaint g = [] := by
          unfold complaint
          rw [hcall?]
          exact Wasi.passed_of_exit hcall
        have hpos : 0 < code := UInt32.pos_iff_ne_zero.mpr fun heq => hzero (by rw [heq]; rfl)
        rw [h, ← keptError_cons_of_silent hcomplaint]
        exact .exit rfl hcall? hpos hlt
    · exact .of_abortOutcome (fun code heq => ha ⟨code, heq⟩) herror
  | @missing index args s hstep hcall? =>
    intro error herror
    exact .of_abortOutcome (s := s) (a := .noMemory) nofun herror
  | stops outcome houtcome hstep =>
    intro error herror
    exact .of_machineOutcome houtcome herror

/-- Every error of a run has an origin, and until then what is kept of the standard error is what
the guest has written to it. -/
theorem Course.Of.hasOrigin (h : k.Of c g source) : k.progress.HasOrigin c g k.moments := by
  refine h.induct (P := fun ms p => p.HasOrigin c g ms)
    (Q := fun m ms => m.resources.error = keptError c g ms) ?_ ?_ ?_ ?_ ?_ ?_
  · intro clock outcome houtcome error herror
    exact .of_machineOutcome houtcome herror
  · intro clock m hm
    obtain ⟨store, f, -, hresources, -⟩ := of_first?_eq_some hm
    rw [hresources]
    exact Capture.append_nil.symm
  · intro m m' ms hkept hnext
    obtain ⟨store, results, f, -, hstep, hm', -⟩ := Moment.of_next?_eq_some (c := c) hnext
    have hsilent : m.complaint g = [] := Moment.complaint_of_not_host (by simp [hstep])
    rw [hm', keptError_cons_of_silent hsilent]
    exact hkept
  · intro m ms hkept hnext
    exact Moment.hasOrigin_of_leads hkept (Moment.leads_progress hnext)
  · intro i ms hkept
    exact hkept
  · intro i ms clock hkept
    exact hkept

/-! ### Codes -/

/-- A code that a guest can exit with is not the one of other errors. -/
theorem toInt_toInt32_of_lt {status : UInt32} (h : status < 126) :
    status.toInt32.toInt = status.toNat := by
  have hlt : status.toNat < 126 := UInt32.lt_iff_toNat_lt.mp h
  exact BitVec.toInt_eq_toNat_of_lt (x := status.toBitVec) (by
    change 2 * status.toNat < 2 ^ 32
    omega)

namespace Session

/-- All bytes that an evaluation has passed to the standard error, in order. -/
def complaints (e : Evaluator) (ops : List Operation) (i : Nat) : List UInt8 :=
  complaintsOf e.host.guest (moments e ops i)

/-- An error that an evaluation has returned has an origin, or tells of an interrupt. -/
theorem origin_of_returned {e : Evaluator} {ops : List Operation} {i : Nat}
    (h : ((ofEvaluator e).performAll ops).stage i = .returned (.error error)) :
    ∃ c : Settings, c.maxOutputBytes = e.host.options.maxOutputBytes ∧
      Origin c e.host.guest (moments e ops i) error := by
  obtain ⟨r, hr, hof, haccounted⟩ := of_returned h
  refine ⟨e.settingsWithin r.limits, rfl, ?_⟩
  rcases haccounted with ⟨k, ended, hk, hended, hresult⟩ | ⟨reason, hreason⟩
  · have horigin := (hof k hk).hasOrigin
    rw [hended] at horigin
    rw [moments_eq hk]
    exact horigin error hresult.symm
  · obtain rfl := Except.error.inj hreason
    exact .failure _

/-- What is reported of an error that an evaluation has returned. Its code is not 0. It is -1 if and
only if the run has failed or has completed without a document, and then the message is that of a
run without a document, or begins with the words for a failure. Any other code is the status,
between 1 and 125, that the guest has asked to exit with as the last thing it did, and the message
is what the guest has written to the standard error, up to the capacity. -/
theorem codes_of_errors (e : Evaluator) (ops : List Operation) (i : Nat) (error : Evaluation.Error)
    (h : ((ofEvaluator e).performAll ops).stage i = .returned (.error error)) :
    ∃ code message, Response.ofResult (.error error) = .error code message ∧ code ≠ 0 ∧
      (code = -1 ↔ (∃ cause, error = .instantiationFailure cause) ∨
        error = .outputDecodeFailure) ∧
      (code = -1 → message = "failed to parse successful execution output" ∨
        "execution failed: ".toList <+: message.toList) ∧
      (code ≠ -1 → ∃ m status p, (moments e ops i).head? = some m ∧
        m.Exits e.host.guest status (some p) ∧ 0 < status ∧ status < 126 ∧
        code.toInt = status.toNat ∧
        message = Utf8.lossy ((complaints e ops i).take e.host.options.maxOutputBytes)) := by
  obtain ⟨c, hc, horigin⟩ := origin_of_returned h
  cases horigin with
  | @exit m status p hlast hexits hpos hlt =>
    have hcode : status.toInt32.toInt = status.toNat := toInt_toInt32_of_lt hlt
    have hnat : 0 < status.toNat := UInt32.lt_iff_toNat_lt.mp hpos
    have hzero : status.toInt32 ≠ 0 := by
      intro heq
      rw [heq] at hcode
      exact absurd hcode (by change (0 : Int) ≠ _; omega)
    have hne : status.toInt32 ≠ -1 := by
      intro heq
      rw [heq] at hcode
      exact absurd hcode (by change (-1 : Int) ≠ _; omega)
    have hmessage : (keptError c e.host.guest (moments e ops i)).content.toList =
        (complaints e ops i).take e.host.options.maxOutputBytes := by
      rw [keptError, Capture.toList_append, hc]
      rfl
    refine ⟨_, _, rfl, hzero, ⟨fun heq => absurd heq hne, ?_⟩, fun heq => absurd heq hne,
      fun _ => ?_⟩
    · rintro (⟨cause, heq⟩ | heq)
      · cases heq
      · cases heq
    · exact ⟨m, status, p, hlast, hexits, hpos, hlt, hcode, congrArg Utf8.lossy hmessage⟩
  | failure cause =>
    have hresponse : Response.ofResult (.error (.instantiationFailure cause)) =
        .error (-1) ("execution failed: " ++ cause) := rfl
    have hprefix : "execution failed: ".toList <+: ("execution failed: " ++ cause).toList :=
      ⟨cause.toList, String.toList_append.symm⟩
    refine ⟨-1, _, hresponse, by decide, ⟨fun _ => .inl ⟨cause, rfl⟩, fun _ => rfl⟩,
      fun _ => .inr hprefix, fun hne => absurd rfl hne⟩
  | undecodable =>
    exact ⟨-1, _, rfl, by decide, ⟨fun _ => .inr rfl, fun _ => rfl⟩, fun _ => .inl rfl,
      fun hne => absurd rfl hne⟩

/-! ### A guest that complains -/

/-- A guest that writes two letters to the standard error and exits with status 3. -/
def complaining : List UInt8 :=
  [0x00, 0x61, 0x73, 0x6d, 0x01, 0x00, 0x00, 0x00, 0x01, 0x10, 0x03, 0x60, 0x04, 0x7f, 0x7f, 0x7f,
   0x7f, 0x01, 0x7f, 0x60, 0x01, 0x7f, 0x00, 0x60, 0x00, 0x00, 0x02, 0x46, 0x02, 0x16, 0x77, 0x61,
   0x73, 0x69, 0x5f, 0x73, 0x6e, 0x61, 0x70, 0x73, 0x68, 0x6f, 0x74, 0x5f, 0x70, 0x72, 0x65, 0x76,
   0x69, 0x65, 0x77, 0x31, 0x08, 0x66, 0x64, 0x5f, 0x77, 0x72, 0x69, 0x74, 0x65, 0x00, 0x00, 0x16,
   0x77, 0x61, 0x73, 0x69, 0x5f, 0x73, 0x6e, 0x61, 0x70, 0x73, 0x68, 0x6f, 0x74, 0x5f, 0x70, 0x72,
   0x65, 0x76, 0x69, 0x65, 0x77, 0x31, 0x09, 0x70, 0x72, 0x6f, 0x63, 0x5f, 0x65, 0x78, 0x69, 0x74,
   0x00, 0x01, 0x03, 0x02, 0x01, 0x02, 0x05, 0x03, 0x01, 0x00, 0x01, 0x07, 0x0a, 0x01, 0x06, 0x6d,
   0x65, 0x6d, 0x6f, 0x72, 0x79, 0x02, 0x00, 0x08, 0x01, 0x02, 0x0a, 0x13, 0x01, 0x11, 0x00, 0x41,
   0x02, 0x41, 0x00, 0x41, 0x01, 0x41, 0x08, 0x10, 0x00, 0x1a, 0x41, 0x03, 0x10, 0x01, 0x0b, 0x0b,
   0x18, 0x01, 0x00, 0x41, 0x00, 0x0b, 0x12, 0x10, 0x00, 0x00, 0x00, 0x02, 0x00, 0x00, 0x00, 0x00,
   0x00, 0x00, 0x00, 0x00, 0x00, 0x00, 0x00, 0x6e, 0x6f]

set_option maxRecDepth 100000 in
/-- With space for one of the letters, status 3 and this letter are reported. -/
theorem codes_of_errors_complaining : ∃ h m p,
    Host.compile complaining ⟨1, 1, 1000⟩ = .ok h ∧
    ((ofEvaluator (onePage h)).performAll wholeRun).stage 0 =
      .returned (.error (.executionExit 3 "n")) ∧
    (moments (onePage h) wholeRun 0).head? = some m ∧ m.Exits h.guest 3 (some p) ∧
    Utf8.lossy ((complaints (onePage h) wholeRun 0).take h.options.maxOutputBytes) = "n" := by
  have hrun : (Host.compile complaining ⟨1, 1, 1000⟩).toOption.any
      (exitsWith 3 (.executionExit 3 "n")) = true := by
    decide +kernel
  obtain ⟨h, -, -, hh, -, -, hstage⟩ := of_exitsWith hrun
  obtain ⟨code, message, hresponse, -, -, -, hexit⟩ :=
    codes_of_errors (onePage h) wholeRun 0 (.executionExit 3 "n") hstage
  obtain ⟨rfl, rfl⟩ := Response.error.inj hresponse
  obtain ⟨m, status, p, hlast, hexits, -, -, hcode, hmessage⟩ := hexit (by decide)
  have hthree : (3 : Int) = status.toNat := hcode
  obtain rfl : status = 3 := UInt32.toNat_inj.mp (by change status.toNat = 3; omega)
  exact ⟨h, m, p, hh, hstage, hlast, hexits, hmessage.symm⟩

end Session

end ScriptSandbox.Sandbox
