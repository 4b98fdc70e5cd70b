import ScriptSandbox.Proofs.Wasi.Writes
import ScriptSandbox.Proofs.Wasm.Memory

/-!
# Transfers between memory and streams

A guest that hands over a buffer in its memory and a place for the answer always gets one. A read
moves the next bytes of the input into the buffer, as many as it holds, and at the end of the input
none. A write moves all of the buffer to the output.

## Main results

* `Wasi.firstBuffer_one`: a list of one buffer
* `Wasi.call_fdRead`, `Wasi.call_fdWrite`: what the calls answer and leave behind
-/

namespace ScriptSandbox.Wasi

open Wasm (Memory Value)

variable {m m' : Memory} {address size value : Nat} {bytes : List UInt8} {r : Region} {w : World}
  {p : Process} {fd list count result : UInt32}

/-! ### Pointers -/

theorem checkRegion_eq_ok (haddress : r.start < UInt32.size) (hle : r.start + r.length ≤ m.size) :
    checkRegion m r = .ok () := by
  have hstart : checkAddress r.start = .ok () := if_pos haddress
  have hbounds : m.inBounds r.start r.length = true := decide_eq_true hle
  rw [checkRegion, hstart, hbounds]
  rfl

theorem checkNumber_eq_ok (haddress : address < UInt32.size) (hle : address + size ≤ m.size)
    (haligned : address % size = 0) : checkNumber m address size = .ok () := by
  have hregion : checkRegion m ⟨address, size⟩ = .ok () := checkRegion_eq_ok haddress hle
  rw [checkNumber, hregion]
  exact if_pos haligned

theorem readNumber_eq_ok (haddress : address < UInt32.size) (hle : address + size ≤ m.size)
    (haligned : address % size = 0) : readNumber m address size = .ok (m.readNat address size) := by
  rw [readNumber, checkNumber_eq_ok haddress hle haligned]
  rfl

theorem writeNumber_eq_ok (haddress : address < UInt32.size) (hle : address + size ≤ m.size)
    (haligned : address % size = 0) (value : Nat) :
    writeNumber m address size value = .ok (m.writeNat address size value) := by
  rw [writeNumber, checkNumber_eq_ok haddress hle haligned]
  rfl

/-- A list of one buffer that is not empty. -/
theorem firstBuffer_one {start length : Nat} (haddress : address + 4 < UInt32.size)
    (hle : address + bufferBytes ≤ m.size) (haligned : address % 4 = 0)
    (hstart : m.readNat address 4 = start) (hlength : m.readNat (address + 4) 4 = length)
    (hne : length ≠ 0) : firstBuffer m address 1 = .ok (some ⟨start, length⟩) := by
  unfold bufferBytes at hle
  have hlist : checkAddress address = .ok () := if_pos (by omega)
  have hfirst : readNumber m address 4 = .ok start :=
    hstart ▸ readNumber_eq_ok (by omega) (by omega) haligned
  have hsecond : readNumber m (address + 4) 4 = .ok length :=
    hlength ▸ readNumber_eq_ok (by omega) (by omega) (by omega)
  rw [firstBuffer, hlist, hfirst, hsecond]
  exact if_neg hne

/-- The size of a transfer is written as its result. -/
theorem writeOutputs_sizeOutput (f : Function) (hle : result.toNat + 4 ≤ m.size)
    (haligned : result.toNat % 4 = 0) (n : Nat) :
    f.writeOutputs [sizeOutput result n] m = .ok (m.writeNat result.toNat 4 n) := by
  have hwrite : writeNumber m (result.toNat + 0) 4 n = .ok (m.writeNat result.toNat 4 n) :=
    writeNumber_eq_ok result.toNat_lt hle haligned n
  rw [Function.writeOutputs, sizeOutput, List.foldlM_cons, writeRecord, hwrite]
  rfl

/-! ### Answers -/

/-- A call whose action gives results writes them to memory. -/
theorem call_of_run_ok {f : Function} {args : List Value} {outputs : List Output} {q : Process}
    (hcheck : f.checkArguments args = .ok ()) (hrun : (f.run w args).run p = .ok (.ok outputs, q))
    (hwrite : f.writeOutputs outputs q.memory = .ok m) :
    call w f args p = .ok ([.i32 0], { q with memory := m }) := by
  rw [call, hcheck]
  change ((f.run w args).run p >>= _) = _
  rw [hrun]
  change (f.writeOutputs outputs q.memory >>= _) = _
  rw [hwrite]
  rfl

/-- A call whose action fails is answered with the number of the error. -/
theorem call_of_run_error {f : Function} {args : List Value} {e : Errno} {q : Process}
    (hcheck : f.checkArguments args = .ok ()) (hrun : (f.run w args).run p = .ok (.error e, q)) :
    call w f args p = .ok ([.i32 e.code], q) := by
  rw [call, hcheck]
  change ((f.run w args).run p >>= _) = _
  rw [hrun]
  rfl

/-! ### Reads -/

theorem run_writeAll (h : writeRegion p.memory address bytes = .ok m) :
    (Action.writeAll address bytes).run p = .ok (.ok (), { p with memory := m }) := by
  change (Action.ofPointer (writeRegion p.memory address bytes) >>= fun memory =>
    modify fun p => { p with memory } : Action Unit).run p = _
  rw [h]
  rfl

/-- A read from the standard input. -/
theorem run_readInput (hfd : p.descriptors.lookup fd.toNat = some .input)
    (hbuffer : firstBuffer p.memory list.toNat count.toNat = .ok (some r)) (hne : r.length ≠ 0)
    (hstart : r.start < UInt32.size) (hle : r.start + r.length ≤ p.memory.size) :
    (readInput fd list count result).run p =
      .ok (.ok [sizeOutput result (p.unread.take r.length).length],
        { p with
          unread := p.unread.drop r.length
          memory := p.memory.writeBytes r.start (p.unread.take r.length) }) := by
  have hguard : (Action.guard true .badDescriptor).run p = .ok (.ok (), p) := rfl
  have hget : (get : Action Process).run p = .ok (.ok p, p) := rfl
  unfold readInput
  simp only [Action.run_bind, Action.run_stream, hfd, decide_true, hguard, run_buffer, hbuffer,
    Option.getD_some, hget]
  by_cases hend : p.unread = []
  · -- at the end of the input nothing changes
    have hsame : { p with unread := [] } = p := by rw [← hend]
    rw [hend, List.take_nil, List.drop_nil]
    change Except.ok (Except.ok [sizeOutput result 0], p) =
      .ok (.ok [sizeOutput result 0], { p with unread := [] })
    rw [hsame]
  · have hchunk : r.start + (p.unread.take r.length).length ≤ p.memory.size := by
      rw [List.length_take]
      omega
    have hregion : checkRegion p.memory ⟨r.start, (p.unread.take r.length).length⟩ = .ok () :=
      checkRegion_eq_ok hstart hchunk
    have hwrite : writeRegion { p with unread := p.unread.drop r.length }.memory r.start
        (p.unread.take r.length) = .ok (p.memory.writeBytes r.start (p.unread.take r.length)) := by
      rw [writeRegion, hregion]
      rfl
    rw [List.isEmpty_eq_false_iff.mpr hend, if_neg Bool.false_ne_true, if_neg hne,
      Action.run_bind]
    change (Action.writeAll r.start (p.unread.take r.length) >>= _ : Action _).run
      { p with unread := p.unread.drop r.length } = _
    rw [Action.run_bind, run_writeAll hwrite]
    rfl

/-- A read moves the next bytes of the input into the buffer. -/
theorem call_fdRead (hfd : p.descriptors.lookup fd.toNat = some .input)
    (hbuffer : firstBuffer p.memory list.toNat count.toNat = .ok (some r)) (hne : r.length ≠ 0)
    (hstart : r.start < UInt32.size) (hle : r.start + r.length ≤ p.memory.size)
    (hresult : result.toNat + 4 ≤ p.memory.size) (haligned : result.toNat % 4 = 0) :
    call w .fdRead [.i32 fd, .i32 list, .i32 count, .i32 result] p =
      .ok ([.i32 0], { p with
        unread := p.unread.drop r.length
        memory := (p.memory.writeBytes r.start (p.unread.take r.length)).writeNat result.toNat 4
          (p.unread.take r.length).length }) := by
  have hsize : result.toNat + 4 ≤
      (p.memory.writeBytes r.start (p.unread.take r.length)).size := by
    rwa [Memory.size_writeBytes]
  have hcheck : Function.fdRead.checkArguments [.i32 fd, .i32 list, .i32 count, .i32 result] =
      .ok () := rfl
  have hrun : (Function.fdRead.run w [.i32 fd, .i32 list, .i32 count, .i32 result]).run p = _ :=
    run_readInput hfd hbuffer hne hstart hle
  have hcall := call_of_run_ok hcheck hrun (writeOutputs_sizeOutput .fdRead hsize haligned _)
  exact hcall

/-! ### Writes -/

/-- A write moves all of the buffer to the standard output. If that leaves no space, it is answered
with a failure. -/
theorem call_fdWrite (hfd : p.descriptors.lookup fd.toNat = some .output)
    (hbuffer : firstBuffer p.memory list.toNat count.toNat = .ok (some r))
    (hstart : r.start < UInt32.size) (hle : r.start + r.length ≤ p.memory.size)
    (hresult : result.toNat + 4 ≤ p.memory.size) (haligned : result.toNat % 4 = 0) :
    let bytes := p.memory.readBytes r.start r.length
    let room : Bool := bytes.isEmpty || bytes.length < p.output.space
    call w .fdWrite [.i32 fd, .i32 list, .i32 count, .i32 result] p =
      .ok ([.i32 (if room then 0 else Errno.inputOutput.code)], { p with
        output := p.output.append bytes
        memory := if room then p.memory.writeNat result.toNat 4 r.length else p.memory }) := by
  intro bytes room
  have hregion : readRegion p.memory r = .ok bytes := by
    rw [readRegion, checkRegion_eq_ok hstart hle]
    rfl
  have hcheck : Function.fdWrite.checkArguments [.i32 fd, .i32 list, .i32 count, .i32 result] =
      .ok () := rfl
  have hrun : (Function.fdWrite.run w [.i32 fd, .i32 list, .i32 count, .i32 result]).run p =
      .ok (if room then .ok [sizeOutput result r.length] else .error .inputOutput,
        { p with output := p.output.append bytes }) := by
    have hwrite := run_writeOutput (s := .output) list count result nofun hfd
    rw [hbuffer] at hwrite
    dsimp only at hwrite
    rw [hregion] at hwrite
    exact hwrite
  cases hroom : room with
  | true =>
    rw [hroom, if_pos rfl] at hrun
    have hcall := call_of_run_ok hcheck hrun (writeOutputs_sizeOutput .fdWrite hresult haligned _)
    rw [if_pos rfl, if_pos rfl]
    exact hcall
  | false =>
    rw [hroom, if_neg Bool.false_ne_true] at hrun
    have hcall := call_of_run_error hcheck hrun
    rw [if_neg Bool.false_ne_true, if_neg Bool.false_ne_true]
    exact hcall

end ScriptSandbox.Wasi
