import ScriptSandbox.Proofs.Wasm.Pages
import ScriptSandbox.Wasi.Process

/-!
# Actions on related processes

A relation between processes is carried through an action when the action, on related processes,
gives the same and leaves related processes. It is carried through sequences of actions when it is
carried through each of them. What an action leaves as it is, is the case of a relation that only
holds of a process and itself.

## Main definitions

* `Wasi.Alike`: two runs of an action give the same and leave related processes
* `Wasi.Sees`: related processes hold the same, except for the clock and the random bytes drawn
* `Wasi.Frame`: moreover, they stay related when the same is done to both
* `Wasi.Only`: the relation of just two processes
* `Wasi.Action.Relates`: a relation is carried through an action

## Main results

* `Wasi.Action.alike_bind`, `Wasi.Action.Relates.bind`: one action after another
* `Wasi.Action.relates_read`, `Wasi.Action.relates_writeAll` and others: the actions that the host
  functions are made of
-/

namespace ScriptSandbox.Wasi

open Wasm (Memory)

variable {α β : Type} {R S : Process → Process → Prop} {p p' : Process}

/-! ### What is written to memory -/

theorem extent_of_writeNumber {m m' : Memory} {address size value : Nat}
    (h : writeNumber m address size value = .ok m') : m'.extent = m.extent := by
  obtain ⟨-, -, h⟩ := bind_eq_ok_iff.mp h
  rw [← Except.ok.inj h, Memory.extent_writeNat]

theorem extent_of_writeRecord {address : Nat} {fields : List Field} {m m' : Memory}
    (h : writeRecord address fields m = .ok m') : m'.extent = m.extent := by
  induction fields generalizing m with
  | nil => rw [← Except.ok.inj h]
  | cons f fields ih =>
    obtain ⟨m₁, hm₁, h⟩ := bind_eq_ok_iff.mp h
    exact (ih h).trans (extent_of_writeNumber hm₁)

theorem extent_of_writeRegion {m m' : Memory} {start : Nat} {bytes : List UInt8}
    (h : writeRegion m start bytes = .ok m') : m'.extent = m.extent := by
  obtain ⟨-, -, h⟩ := bind_eq_ok_iff.mp h
  rw [← Except.ok.inj h, Memory.extent_writeBytes]

/-! ### Relations between processes -/

/-- Two runs end the guest for the same reason, or they give the same and leave related
processes. -/
inductive Alike (R : Process → Process → Prop) :
    Except Abort (α × Process) → Except Abort (α × Process) → Prop
  | aborted (a : Abort) : Alike R (.error a) (.error a)
  | answered (x : α) {p p' : Process} (h : R p p') : Alike R (.ok (x, p)) (.ok (x, p'))

/-- Related processes hold the same, except for the clock and the number of random bytes drawn. -/
structure Sees (R : Process → Process → Prop) : Prop where
  memory : ∀ {p p'}, R p p' → p'.memory = p.memory
  unread : ∀ {p p'}, R p p' → p'.unread = p.unread
  output : ∀ {p p'}, R p p' → p'.output = p.output
  error : ∀ {p p'}, R p p' → p'.error = p.error
  descriptors : ∀ {p p'}, R p p' → p'.descriptors = p.descriptors

/-- Related processes stay related when the same is done to both. What is written to the output
streams is left out, and so are changes of descriptors and what depends on the clock and on random
bytes. -/
structure Frame (R : Process → Process → Prop) : Prop extends Sees R where
  setMemory : ∀ {p p'} (m : Memory), R p p' → m.extent = p.memory.extent →
    R { p with memory := m } { p' with memory := m }
  setUnread : ∀ {p p'} (unread : List UInt8), R p p' → R { p with unread } { p' with unread }
  wait : ∀ {p p'} (delay : Nat), R p p' →
    R { p with clock := p.clock + delay } { p' with clock := p'.clock + delay }

/-- Only these two processes are related. -/
def Only (p p' : Process) (q q' : Process) : Prop := q = p ∧ q' = p'

theorem Only.rel (h : R p p') {q q' : Process} (hq : Only p p' q q') : R q q' := by
  obtain ⟨rfl, rfl⟩ := hq
  exact h

/-- Reading from two related processes, no others need to be thought of. -/
theorem Sees.only (hR : Sees R) (h : R p p') : Sees (Only p p') where
  memory := by
    rintro _ _ ⟨rfl, rfl⟩
    exact hR.memory h
  unread := by
    rintro _ _ ⟨rfl, rfl⟩
    exact hR.unread h
  output := by
    rintro _ _ ⟨rfl, rfl⟩
    exact hR.output h
  error := by
    rintro _ _ ⟨rfl, rfl⟩
    exact hR.error h
  descriptors := by
    rintro _ _ ⟨rfl, rfl⟩
    exact hR.descriptors h

namespace Action

/-- On related processes, two actions run alike. -/
def Relates (R : Process → Process → Prop) (a a' : Action α) : Prop :=
  ∀ p p', R p p' → Alike R (a.run p) (a'.run p')

/-! ### Sequences -/

theorem relates_pure (x : α) : Relates R (pure x) (pure x) := fun _ _ h => .answered _ h

theorem relates_throw (e : Errno) : Relates R (throw e : Action α) (throw e) :=
  fun _ _ h => .answered _ h

theorem relates_abort (a : Abort) : Relates R (abort a : Action α) (abort a) :=
  fun _ _ _ => .aborted a

theorem relates_modify {f f' : Process → Process} (hf : ∀ p p', R p p' → R (f p) (f' p')) :
    Relates R (modify f : Action Unit) (modify f') :=
  fun p p' h => .answered _ (hf p p' h)

/-- The second of two actions is run on what the first one leaves, unless that has failed. -/
theorem run_bind (a : Action α) (f : α → Action β) (p : Process) :
    (a >>= f).run p = match a.run p with
      | .error e => .error e
      | .ok (.ok x, q) => (f x).run q
      | .ok (.error e, q) => .ok (.error e, q) := by
  change Except.bind (a.run p) _ = _
  cases a.run p with
  | error e => rfl
  | ok y =>
    obtain ⟨x | x, q⟩ := y
    · rfl
    · rfl

/-- The second action may rely on what the first one gives, and on a closer relation after it. -/
theorem alike_bind {a a' : Action α} {f f' : α → Action β} (ha : Alike S (a.run p) (a'.run p'))
    (hS : ∀ {q q'}, S q q' → R q q')
    (hf : ∀ x q q', a.run p = .ok (.ok x, q) → S q q' →
      Alike R ((f x).run q) ((f' x).run q')) :
    Alike R ((a >>= f).run p) ((a' >>= f').run p') := by
  rw [run_bind, run_bind]
  generalize a.run p = r, a'.run p' = r' at ha hf
  cases ha with
  | aborted e => exact .aborted e
  | answered x h =>
    cases x with
    | ok x => exact hf x _ _ rfl h
    | error e => exact .answered _ (hS h)

theorem Relates.bind {a a' : Action α} {f f' : α → Action β} (ha : Relates R a a')
    (hf : ∀ x, Relates R (f x) (f' x)) : Relates R (a >>= f) (a' >>= f') :=
  fun p p' h => alike_bind (ha p p' h) id fun x _ _ _ hq => hf x _ _ hq

theorem relates_modifyGet {f f' : Process → α × Process}
    (hf : ∀ p p', R p p' → (f' p').1 = (f p).1 ∧ R (f p).2 (f' p').2) :
    Relates R (modifyGet f : Action α) (modifyGet f') := by
  intro p p' h
  obtain ⟨hx, hR⟩ := hf p p' h
  change Alike R (Except.ok (Except.ok (f p).1, (f p).2))
    (Except.ok (Except.ok (f' p').1, (f' p').2))
  rw [hx]
  exact .answered _ hR

/-- What is done may depend on the process. -/
theorem relates_get_bind {f f' : Process → Action β}
    (hf : ∀ p p', R p p' → Alike R ((f p).run p) ((f' p').run p')) :
    Relates R (get >>= f) (get >>= f') := fun p p' h => hf p p' h

/-! ### Single actions -/

theorem relates_ofPointer (x : Except PointerError α) : Relates R (ofPointer x) (ofPointer x) := by
  cases x with
  | ok a => exact relates_pure a
  | error e => exact relates_abort _

theorem relates_guard (c : Bool) (e : Errno) : Relates R (guard c e) (guard c e) := by
  cases c with
  | true => exact relates_pure ()
  | false => exact relates_throw e

theorem relates_code (d : Domain) (n : Nat) : Relates R (code d n) (code d n) := by
  unfold code
  split
  · exact relates_pure ()
  · exact relates_throw _
  · exact relates_throw _

/-- A use of a pointer into the memory, which is the same. -/
theorem relates_memory (hR : Sees R) (x : Memory → Except PointerError α) :
    Relates R (do ofPointer (x (← get).memory)) (do ofPointer (x (← get).memory)) := by
  refine relates_get_bind fun p p' h => ?_
  rw [hR.memory h]
  exact relates_ofPointer _ p p' h

theorem relates_read (hR : Sees R) (address size : Nat) :
    Relates R (read address size) (read address size) :=
  relates_memory hR (readNumber · address size)

theorem relates_buffer (hR : Sees R) (list count : UInt32) :
    Relates R (buffer list count) (buffer list count) :=
  relates_memory hR (firstBuffer · list.toNat count.toNat)

theorem relates_bytes (hR : Sees R) (r : Region) : Relates R (bytes r) (bytes r) :=
  relates_memory hR (readRegion · r)

theorem relates_text (hR : Sees R) (r : Region) : Relates R (text r) (text r) :=
  (relates_bytes hR r).bind fun _ => relates_guard _ _

theorem relates_stream (hR : Sees R) (fd : UInt32) : Relates R (stream fd) (stream fd) := by
  refine relates_get_bind fun p p' h => ?_
  rw [hR.descriptors h]
  split
  · exact relates_pure _ p p' h
  · exact relates_throw _ p p' h

/-- A change of the memory that leaves it as large as it was. -/
theorem relates_setMemory (hR : Frame R) {x : Memory → Except PointerError Memory}
    (hx : ∀ m m', x m = .ok m' → m'.extent = m.extent) :
    let change : Action Unit := do
      let memory ← ofPointer (x (← get).memory)
      modify fun p => { p with memory }
    Relates R change change := by
  refine relates_get_bind fun p p' h => ?_
  rw [hR.memory h]
  cases hm : x p.memory with
  | error e => exact .aborted _
  | ok m => exact .answered _ (hR.setMemory m h (hx p.memory m hm))

theorem relates_writeFields (hR : Frame R) (address : Nat) (fields : List Field) :
    Relates R (writeFields address fields) (writeFields address fields) :=
  relates_setMemory hR fun _ _ => extent_of_writeRecord

theorem relates_writeAll (hR : Frame R) (address : Nat) (bytes : List UInt8) :
    Relates R (writeAll address bytes) (writeAll address bytes) :=
  relates_setMemory hR fun _ _ => extent_of_writeRegion

end Action

end ScriptSandbox.Wasi
