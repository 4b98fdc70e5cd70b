import ScriptSandbox.Proofs.Wasi.Writes

/-!
# Buffers that guests hand over

A call that writes hands over a list of buffers for a descriptor. When the list is one buffer, its
bytes go to the stream for which the descriptor stands, as far as they fit, also if the call then
ends the guest because its result cannot be written.

## Main definitions

* `Wasi.Handover`: what a call that writes hands over
* `Wasi.Function.handedFor`, `Wasi.Function.handedTo`: the bytes for a descriptor and for a stream
* `Wasi.Function.HandsOne`: a call hands over one buffer if it writes

## Main results

* `Wasi.captured_leftBehind`: what a call leaves of a stream
* `Wasi.handedTo_eq_handedFor`: the descriptors that a guest starts with
-/

namespace ScriptSandbox.Wasi

open Wasm (Memory Value)

/-- What a call that writes hands over: a descriptor, and a list of buffers in memory. -/
structure Handover where
  descriptor : UInt32
  list : UInt32
  count : UInt32
  deriving Repr, DecidableEq

/-- The bytes of the buffer that an entry of a list tells of. -/
def readBuffer (m : Memory) (entry : Nat) : Except PointerError (List UInt8) := do
  checkAddress entry
  let start ← readNumber m entry 4
  let length ← readNumber m (entry + 4) 4
  readRegion m ⟨start, length⟩

/-- The bytes of a buffer that lies in the memory; of any other one there are none. -/
def bufferAt (m : Memory) (entry : Nat) : List UInt8 := (readBuffer m entry).toOption.getD []

/-- The bytes of all buffers. -/
def Handover.bytes (x : Handover) (m : Memory) : List UInt8 :=
  (List.range x.count.toNat).flatMap fun i => bufferAt m (x.list.toNat + i * bufferBytes)

namespace Function

/-- What a call hands over, if it writes. -/
def handover? (f : Function) (args : List Value) : Option Handover :=
  match f, args with
  | .fdWrite, [.i32 descriptor, .i32 list, .i32 count, .i32 _] => some ⟨descriptor, list, count⟩
  | _, _ => none

/-- The bytes that a call hands over for the descriptor with a number. -/
def handedFor (f : Function) (args : List Value) (p : Process) (n : Nat) : List UInt8 :=
  match f.handover? args with
  | some x => if x.descriptor.toNat = n then x.bytes p.memory else []
  | none => []

/-- The bytes that a call hands over for a descriptor that stands for a stream. -/
def handedTo (f : Function) (args : List Value) (p : Process) (s : Stream) : List UInt8 :=
  match f.handover? args with
  | some x => if p.descriptors.lookup x.descriptor.toNat = some s then x.bytes p.memory else []
  | none => []

/-- A call hands over one buffer if it writes. -/
def HandsOne (f : Function) (args : List Value) : Prop := ∀ x ∈ f.handover? args, x.count = 1

instance (f : Function) (args : List Value) : Decidable (f.HandsOne args) :=
  inferInstanceAs (Decidable (∀ x ∈ f.handover? args, x.count = 1))

end Function

variable {w : World} {f : Function} {args results : List Value} {p q : Process} {s : Stream}
  {m : Memory}

/-! ### Single buffers -/

theorem Handover.bytes_of_count_eq_one {x : Handover} (h : x.count = 1) :
    x.bytes m = bufferAt m x.list.toNat := by
  have hcount : x.count.toNat = 1 := congrArg UInt32.toNat h
  simp [bytes, hcount]

theorem bufferAt_of_eq_ok {entry : Nat} {bytes : List UInt8} (h : readBuffer m entry = .ok bytes) :
    bufferAt m entry = bytes := by rw [bufferAt, h]; rfl

theorem bufferAt_of_eq_error {entry : Nat} {e : PointerError} (h : readBuffer m entry = .error e) :
    bufferAt m entry = [] := by rw [bufferAt, h]; rfl

/-- No bytes are read of a buffer without any, wherever it may lie. -/
theorem eq_nil_of_readRegion {start : Nat} {bytes : List UInt8}
    (h : readRegion m ⟨start, 0⟩ = .ok bytes) : bytes = [] := by
  obtain ⟨-, -, h⟩ := bind_eq_ok_iff.mp h
  exact (Except.ok.inj h).symm

/-- What a write finds in a list of one buffer. -/
theorem firstBuffer_eq (m : Memory) (entry : Nat) :
    match firstBuffer m entry 1 with
    | .error e => readBuffer m entry = .error e
    | .ok none => bufferAt m entry = []
    | .ok (some r) => readBuffer m entry = readRegion m r := by
  unfold firstBuffer readBuffer
  cases hentry : checkAddress entry with
  | error e => rfl
  | ok =>
    cases hstart : readNumber m entry 4 with
    | error e => rfl
    | ok start =>
      cases hlength : readNumber m (entry + 4) 4 with
      | error e => rfl
      | ok length =>
        by_cases hzero : length = 0
        · subst hzero
          have hbuffer : readBuffer m entry = readRegion m ⟨start, 0⟩ := by
            rw [readBuffer, hentry, hstart, hlength]
            rfl
          change bufferAt m entry = []
          cases hbytes : readRegion m ⟨start, 0⟩ with
          | error e => exact bufferAt_of_eq_error (hbuffer.trans hbytes)
          | ok bytes =>
            rw [bufferAt_of_eq_ok (hbuffer.trans hbytes), eq_nil_of_readRegion hbytes]
        · change match (if length = 0 then firstBuffer m (entry + bufferBytes) 0
            else .ok (some ⟨start, length⟩)) with
            | .error e => readRegion m ⟨start, length⟩ = .error e
            | .ok none => bufferAt m entry = []
            | .ok (some r) => readRegion m ⟨start, length⟩ = readRegion m r
          rw [if_neg hzero]

/-! ### Streams after calls -/

/-- A call hands nothing to a stream to which it does not write. -/
theorem handedTo_of_not_writesTo (h : ¬ f.WritesTo args p s) : f.handedTo args p s = [] := by
  unfold Function.handedTo Function.handover?
  split
  next x hx =>
    split at hx
    next =>
      obtain rfl := Option.some.inj hx
      exact if_neg h
    next => cases hx
  next => rfl

/-- What a write of one buffer leaves of a stream. If it ends the guest before it has come to its
end, it has not found the buffer. -/
theorem captured_run_writeOutput {fd : UInt32} (list result : UInt32) (hs : s ≠ .input)
    (hfd : p.descriptors.lookup fd.toNat = some s) :
    match (writeOutput fd list 1 result).run p with
    | .ok (_, q) => q.captured s = (p.captured s).append (bufferAt p.memory list.toNat)
    | .error _ => bufferAt p.memory list.toNat = [] := by
  have hfirst := firstBuffer_eq p.memory list.toNat
  rw [run_writeOutput list 1 result hs hfd, show (1 : UInt32).toNat = 1 from rfl]
  generalize firstBuffer p.memory list.toNat 1 = buffer at hfirst ⊢
  rcases buffer with e | r?
  · exact bufferAt_of_eq_error hfirst
  rcases r? with _ | r
  · dsimp only at hfirst ⊢
    rw [hfirst, Capture.append_nil]
  · dsimp only at hfirst ⊢
    cases hbytes : readRegion p.memory r with
    | error e => exact bufferAt_of_eq_error (hfirst.trans hbytes)
    | ok bytes =>
      rw [bufferAt_of_eq_ok (hfirst.trans hbytes)]
      exact captured_capture_self hs

/-- A call whose arguments are accepted leaves behind what its action leaves. -/
theorem leftBehind_eq (hcheck : f.checkArguments args = .ok ()) :
    leftBehind w f args p = match (f.run w args).run p with
      | .ok (_, q) => q.toResources
      | .error _ => p.toResources := by
  rw [leftBehind, hcheck]
  cases (f.run w args).run p with
  | error a => rfl
  | ok x => rfl

/-- What a call that hands over one buffer leaves of a stream: what fits of the buffer is added to
it. -/
theorem captured_leftBehind (hs : s ≠ .input) (hone : f.HandsOne args) :
    (leftBehind w f args p).captured s = (p.captured s).append (f.handedTo args p s) := by
  by_cases hW : f.WritesTo args p s
  · unfold Function.WritesTo at hW
    split at hW
    next fd list count result =>
      obtain rfl : count = 1 := hone _ rfl
      have hhanded : Function.fdWrite.handedTo [.i32 fd, .i32 list, .i32 1, .i32 result] p s =
          bufferAt p.memory list.toNat :=
        (if_pos hW).trans (Handover.bytes_of_count_eq_one rfl)
      have hleft : leftBehind w .fdWrite [.i32 fd, .i32 list, .i32 1, .i32 result] p =
          match (writeOutput fd list 1 result).run p with
          | .ok (_, q) => q.toResources
          | .error _ => p.toResources := leftBehind_eq rfl
      have hcaptured := captured_run_writeOutput list result hs hW
      rw [hleft, hhanded]
      cases hrun : (writeOutput fd list 1 result).run p with
      | error a =>
        rw [hrun] at hcaptured
        rw [hcaptured, Capture.append_nil]
      | ok x =>
        rw [hrun] at hcaptured
        exact hcaptured
    next => exact hW.elim
  · rw [handedTo_of_not_writesTo hW, Capture.append_nil]
    cases hcheck : f.checkArguments args with
    | error a => rw [leftBehind, hcheck]
    | ok =>
      rw [leftBehind_eq hcheck]
      cases hrun : (f.run w args).run p with
      | error a => rfl
      | ok x => exact captured_of_run hW hrun

/-- A call that answers leaves the same behind. -/
theorem toResources_of_call (h : call w f args p = .ok (results, q)) :
    q.toResources = leftBehind w f args p := by
  obtain ⟨⟨⟩, hcheck, -⟩ := bind_eq_ok_iff.mp h
  obtain ⟨outcome, q', hrun, hq, -⟩ := exists_run_of_call h
  rw [hq, leftBehind_eq hcheck, hrun]

/-! ### Descriptors -/

/-- The number of the descriptor that stands for a stream at the start. -/
def Stream.number : Stream → Nat
  | .input => 0
  | .output => 1
  | .error => 2

theorem lookup_standardDescriptors_iff {n : Nat} :
    standardDescriptors.lookup n = some s ↔ n = s.number := by
  match n with
  | 0 | 1 | 2 => cases s <;> decide
  | n + 3 => cases s <;> simp [standardDescriptors, Stream.number, List.lookup_cons]

/-- While a guest has the descriptors that it has started with, what it hands over to a stream is
what it hands over for one descriptor. -/
theorem handedTo_eq_handedFor (h : p.descriptors = standardDescriptors) :
    f.handedTo args p s = f.handedFor args p s.number := by
  unfold Function.handedTo Function.handedFor
  cases f.handover? args with
  | none => rfl
  | some x => simp only [h, lookup_standardDescriptors_iff]

end ScriptSandbox.Wasi
