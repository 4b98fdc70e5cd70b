import ScriptSandbox.Proofs.Wasi.Actions
import ScriptSandbox.Wasi.Call

/-!
# Why host functions end guests

A host function ends its guest when an argument is outside its domain, when an address cannot be
used, or when its results cannot be written. Only the one by which a guest exits also ends it on
request.

## Main definitions

* `Wasi.Action.Faults`: an action ends a guest only because an address cannot be used

## Main results

* `Wasi.faults_run`: so does every host function but one
* `Wasi.of_call_eq_exit`: a guest exits only when it asks to
-/

namespace ScriptSandbox.Wasi

open Wasm (Memory Value)

variable {α β : Type} {w : World} {f : Function} {args : List Value} {p : Process}

namespace Action

/-- Whatever the process, the action ends the guest only because an address cannot be used. -/
def Faults (a : Action α) : Prop := ∀ p e, a.run p = .error e → ∃ fault, e = .pointer fault

/-! ### Single actions -/

theorem faults_pure (x : α) : Faults (pure x) := by
  intro p e h
  cases h

theorem faults_throw (e : Errno) : Faults (throw e : Action α) := by
  intro p e h
  cases h

theorem faults_modify (f : Process → Process) : Faults (modify f : Action Unit) := by
  intro p e h
  cases h

theorem faults_modifyGet (f : Process → α × Process) :
    Faults (modifyGet f : Action α) := by
  intro p e h
  cases h

theorem faults_get : Faults (get : Action Process) := by
  intro p e h
  cases h

/-- One action after another ends the guest for no other reason than either of them. -/
theorem Faults.bind {a : Action α} {f : α → Action β} (ha : Faults a) (hf : ∀ x, Faults (f x)) :
    Faults (a >>= f) := by
  intro p e h
  rw [run_bind] at h
  cases hrun : a.run p with
  | error e' =>
    rw [hrun] at h
    obtain rfl := Except.error.inj h
    exact ha p e' hrun
  | ok y =>
    obtain ⟨x | x, q⟩ := y
    · rw [hrun] at h
      cases h
    · rw [hrun] at h
      exact hf x q e h

theorem faults_ofPointer (x : Except PointerError α) : Faults (ofPointer x) := by
  intro p e h
  cases x with
  | ok a => cases h
  | error fault => exact ⟨fault, (Except.error.inj h).symm⟩

theorem faults_guard (c : Bool) (e : Errno) : Faults (guard c e) := by
  cases c with
  | true => exact faults_pure ()
  | false => exact faults_throw e

theorem faults_code (d : Domain) (n : Nat) : Faults (code d n) := by
  unfold code
  split
  · exact faults_pure ()
  · exact faults_throw _
  · exact faults_throw _

theorem faults_memory (x : Memory → Except PointerError α) :
    Faults (do ofPointer (x (← get).memory)) := faults_get.bind fun _ => faults_ofPointer _

theorem faults_read (address size : Nat) : Faults (read address size) :=
  faults_memory (readNumber · address size)

theorem faults_buffer (list count : UInt32) : Faults (buffer list count) :=
  faults_memory (firstBuffer · list.toNat count.toNat)

theorem faults_bytes (r : Region) : Faults (bytes r) := faults_memory (readRegion · r)

theorem faults_text (r : Region) : Faults (text r) :=
  (faults_bytes r).bind fun _ => faults_guard _ _

theorem faults_stream (fd : UInt32) : Faults (stream fd) := by
  refine faults_get.bind fun p => ?_
  split
  · exact faults_pure _
  · exact faults_throw _

theorem faults_setMemory (x : Memory → Except PointerError Memory) :
    Faults (do
      let memory ← ofPointer (x (← get).memory)
      modify fun p => { p with memory }) :=
  faults_get.bind fun _ => (faults_ofPointer _).bind fun _ => faults_modify _

theorem faults_writeFields (address : Nat) (fields : List Field) :
    Faults (writeFields address fields) := faults_setMemory (writeRecord address fields ·)

theorem faults_writeAll (address : Nat) (bytes : List UInt8) :
    Faults (writeAll address bytes) := faults_setMemory (writeRegion · address bytes)

end Action

open Action

/-! ### Host functions -/

theorem faults_readInput (fd list count result : UInt32) :
    Faults (readInput fd list count result) := by
  refine (faults_stream fd).bind fun s => (faults_guard _ _).bind fun _ => ?_
  refine (faults_buffer list count).bind fun r => faults_get.bind fun p => ?_
  dsimp only
  split_ifs
  · exact faults_pure _
  · exact faults_throw _
  · exact (faults_modify _).bind fun _ => (faults_writeAll _ _).bind fun _ => faults_pure _

theorem faults_writeOutput (fd list count result : UInt32) :
    Faults (writeOutput fd list count result) := by
  refine (faults_stream fd).bind fun s => (faults_guard _ _).bind fun _ => ?_
  refine (faults_buffer list count).bind fun r => ?_
  split
  · exact faults_pure _
  · refine (faults_bytes _).bind fun bytes => (faults_modifyGet _).bind fun room => ?_
    exact (faults_guard _ _).bind fun _ => faults_pure _

theorem faults_drawRandom (start length : UInt32) : Faults (drawRandom w start length) := by
  unfold drawRandom
  split_ifs
  · exact faults_pure ()
  · refine (faults_memory (checkRegion · _)).bind fun _ => faults_get.bind fun p => ?_
    exact (faults_modify _).bind fun _ => faults_writeAll _ _

theorem faults_clock (id : UInt32) : Faults (clock id) := by
  unfold clock
  split
  · exact faults_throw _
  · exact (faults_guard _ _).bind fun _ => faults_pure _

theorem faults_timeRequest (address : Nat) : Faults (timeRequest address) := by
  refine (faults_read _ _).bind fun id => ?_
  split
  · refine (faults_read _ _).bind fun timeout => (faults_read _ _).bind fun _ => ?_
    exact (faults_read _ _).bind fun flags => (faults_code _ _).bind fun _ => faults_pure _
  · exact faults_throw _

theorem faults_subscription (address : Nat) : Faults (subscription address) := by
  refine (faults_ofPointer _).bind fun _ => (faults_read _ _).bind fun mark => ?_
  refine (faults_read _ _).bind fun kind => (faults_code _ _).bind fun _ => ?_
  split
  · exact (faults_timeRequest _).bind fun _ => faults_pure _
  · exact (faults_read _ _).bind fun _ => faults_pure _

theorem faults_checkStream (r : Request) : Faults r.checkStream := by
  cases r with
  | time => exact faults_pure ()
  | readable fd => exact (faults_stream fd).bind fun _ => faults_guard _ _
  | writable fd => exact (faults_stream fd).bind fun _ => faults_guard _ _

theorem faults_delay (r : Request) : Faults (r.delay w) := by
  cases r with
  | time c timeout absolute =>
    exact (faults_guard _ _).bind fun _ => faults_get.bind fun _ => faults_pure _
  | readable fd => exact (faults_checkStream _).bind fun _ => faults_pure _
  | writable fd => exact (faults_checkStream _).bind fun _ => faults_pure _

theorem faults_delays (address count : Nat) : Faults (delays w address count) := by
  induction count generalizing address with
  | zero => exact faults_pure []
  | succ n ih =>
    refine (faults_subscription _).bind fun s => (faults_delay _).bind fun delay => ?_
    exact (ih _).bind fun _ => faults_pure _

theorem faults_writeEvents (subscriptions events : Nat) (elapsed : List Bool) :
    Faults (writeEvents subscriptions events elapsed) := by
  induction elapsed generalizing subscriptions events with
  | nil => exact faults_pure ()
  | cons due elapsed ih =>
    cases due with
    | false => exact ih _ _
    | true =>
      refine (faults_subscription _).bind fun s => (faults_ofPointer _).bind fun _ => ?_
      refine (faults_checkStream _).bind fun _ => (faults_writeFields _ _).bind fun _ => ?_
      exact ih _ _

theorem faults_awaitEvents (start events count result : UInt32) :
    Faults (awaitEvents w start events count result) := by
  refine (faults_guard _ _).bind fun _ => (faults_delays _ _).bind fun ds => ?_
  exact (faults_modify _).bind fun _ => (faults_writeEvents _ _ _).bind fun _ => faults_pure _

theorem faults_refuseOpen (fd : UInt32) (e : Errno) : Faults (refuseOpen fd e) :=
  (faults_stream fd).bind fun _ => faults_throw _

theorem faults_refuseStream (fd : UInt32) (select : Stream → Bool) (e : Errno) :
    Faults (refuseStream fd select e) := (faults_stream fd).bind fun _ => faults_throw _

/-- Only one host function ends guests on request. -/
theorem faults_run (hf : f ≠ .procExit) : Faults (f.run w args) := by
  unfold Function.run
  split
  next => exact faults_readInput _ _ _ _
  next => exact faults_writeOutput _ _ _ _
  next => exact faults_pure _
  next => exact faults_pure _
  next => exact faults_pure _
  next => exact faults_pure _
  next => exact faults_pure _
  next => exact (faults_clock _).bind fun _ => faults_pure _
  next => exact (faults_clock _).bind fun _ => faults_get.bind fun _ => faults_pure _
  next => exact (faults_drawRandom _ _).bind fun _ => faults_pure _
  next => exact faults_awaitEvents _ _ _ _
  next => exact ((faults_stream _).bind fun _ => faults_modify _).bind fun _ => faults_pure _
  next => exact ((faults_stream _).bind fun _ => faults_modify _).bind fun _ => faults_pure _
  next => exact (faults_stream _).bind fun _ => faults_pure _
  next => exact (faults_stream _).bind fun _ => faults_pure _
  next => exact (faults_guard _ _).bind fun _ => faults_throw _
  next => exact (faults_guard _ _).bind fun _ => faults_throw _
  next => exact faults_refuseOpen _ _
  next => exact faults_refuseOpen _ _
  next => exact faults_refuseStream _ _ _
  next => exact faults_refuseStream _ _ _
  next => exact faults_refuseOpen _ _
  next => exact faults_refuseOpen _ _
  next => exact faults_refuseOpen _ _
  next => exact faults_refuseOpen _ _
  next => exact faults_refuseOpen _ _
  next => exact faults_throw _
  next => exact absurd rfl hf
  next => exact (faults_text _).bind fun _ => faults_throw _
  next => exact faults_throw _

theorem of_run_procExit {code : UInt32}
    (h : (Function.procExit.run w args).run p = .error (.exit code)) :
    args = [.i32 code] ∧ code < 126 := by
  unfold Function.run at h
  split at h
  case h_28 code' _ =>
    have habort : (if code' < 126 then Abort.exit code' else .exitOutOfRange) = .exit code :=
      Except.error.inj h
    split_ifs at habort with hlt
    · obtain rfl := Abort.exit.inj habort
      exact ⟨rfl, hlt⟩
  case h_30 => cases h
  all_goals contradiction

/-- Arguments that are outside their domains. -/
theorem of_checkArguments_eq_error {a : Abort} (h : f.checkArguments args = .error a) :
    ∃ d e, a = .argument f d e := by
  unfold Function.checkArguments at h
  generalize f.params.zip args = xs at h
  induction xs with
  | nil => cases h
  | cons x xs ih =>
    rw [List.forM_eq_forM, List.forM_cons] at h
    rcases bind_eq_error_iff.mp h with hx | ⟨-, -, hxs⟩
    · obtain ⟨⟨d, e⟩, -, rfl⟩ := mapError_eq_error_iff.mp hx
      exact ⟨d, e, rfl⟩
    · exact ih hxs

/-- Results that cannot be written. -/
theorem of_writeOutputs_eq_error {outputs : List Output} {m : Memory} {a : Abort}
    (h : f.writeOutputs outputs m = .error a) : ∃ name e, a = .result f name e := by
  unfold Function.writeOutputs at h
  induction outputs generalizing m with
  | nil => cases h
  | cons o outputs ih =>
    rw [List.foldlM_cons] at h
    rcases bind_eq_error_iff.mp h with ho | ⟨m', -, hrest⟩
    · obtain ⟨e, -, rfl⟩ := mapError_eq_error_iff.mp ho
      exact ⟨o.name, e, rfl⟩
    · exact ih hrest

/-- A guest exits only when it asks to. -/
theorem of_call_eq_exit {code : UInt32} (h : call w f args p = .error (.exit code)) :
    f = .procExit ∧ args = [.i32 code] ∧ code < 126 := by
  rcases bind_eq_error_iff.mp h with hcheck | ⟨-, -, h⟩
  · obtain ⟨d, e, heq⟩ := of_checkArguments_eq_error hcheck
    cases heq
  rcases bind_eq_error_iff.mp h with hrun | ⟨⟨outcome, q⟩, -, h⟩
  · by_cases hf : f = .procExit
    · subst hf
      obtain ⟨hargs, hlt⟩ := of_run_procExit hrun
      exact ⟨rfl, hargs, hlt⟩
    · obtain ⟨fault, heq⟩ := faults_run hf p _ hrun
      cases heq
  · cases outcome with
    | error e => cases h
    | ok outputs =>
      change (f.writeOutputs outputs q.memory >>= _) = _ at h
      rcases bind_eq_error_iff.mp h with houtputs | ⟨m, -, hm⟩
      · obtain ⟨name, e, heq⟩ := of_writeOutputs_eq_error houtputs
        cases heq
      · cases hm

/-- A guest that exits leaves behind what it had. -/
theorem leftBehind_of_exit {code : UInt32} (h : call w f args p = .error (.exit code)) :
    leftBehind w f args p = p.toResources := by
  obtain ⟨rfl, rfl, -⟩ := of_call_eq_exit h
  rfl

end ScriptSandbox.Wasi
