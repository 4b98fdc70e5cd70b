import ScriptSandbox.Proofs.Wasi.Aborts
import ScriptSandbox.Proofs.Wasi.Calls

/-!
# Writes to the output streams

A write keeps the bytes that still fit, behind everything that was kept before. The guest is told of
a full stream: a write that reaches the capacity fails, so also one of which every byte was kept.

## Main definitions

* `Wasi.Function.passed`: the bytes that a call passes to a stream
* `Wasi.Function.outgoing`: those that it passes to the standard output

## Main results

* `Wasi.Capture.write_eq`: what a write in blocks keeps and tells
* `Wasi.captured_of_call_eq_append`: what a call keeps of the bytes that it passes on
* `Wasi.results_of_call_of_full`: a call that does not find enough space is answered with a failure
-/

namespace ScriptSandbox.Wasi

open Wasm (Memory Value)

/-! ### Captures -/

namespace Capture

variable {c c' : Capture} {bytes : List UInt8}

@[simp] theorem append_nil : c.append [] = c := by simp [append]

@[simp] theorem capacity_append : (c.append bytes).capacity = c.capacity := rfl

@[simp] theorem toList_append :
    (c.append bytes).content.toList = c.content.toList ++ bytes.take c.space := by
  simp [append]

theorem eq_of_toList_eq (hcapacity : c.capacity = c'.capacity)
    (hcontent : c.content.toList = c'.content.toList) : c = c' := by
  obtain ⟨capacity, content⟩ := c
  obtain ⟨capacity', content'⟩ := c'
  obtain rfl : capacity = capacity' := hcapacity
  obtain rfl : content = content' := Array.toList_inj.mp hcontent
  rfl

theorem space_append : (c.append bytes).space = c.space - bytes.length := by
  have hsize : (c.append bytes).content.size = c.content.size + min c.space bytes.length := by
    rw [← Array.length_toList, toList_append, List.length_append, List.length_take,
      Array.length_toList]
  rw [space, hsize, capacity_append]
  unfold space
  omega

/-- Bytes and others behind them are kept like all of them at once. -/
theorem append_append {first second : List UInt8} :
    (c.append first).append second = c.append (first ++ second) := by
  refine eq_of_toList_eq rfl ?_
  rw [toList_append, toList_append, toList_append, space_append, List.append_assoc,
    List.take_append]

theorem writeBlocks_of_pos {fuel : Nat} (h : 0 < bytes.length) :
    c.writeBlocks (fuel + 1) bytes =
      if (bytes.take blockBytes).length < c.space then
        (c.append (bytes.take blockBytes)).writeBlocks fuel (bytes.drop blockBytes)
      else (c.append (bytes.take blockBytes), false) := by
  cases bytes with
  | nil => exact absurd h (Nat.lt_irrefl 0)
  | cons b bs => rfl

/-- A write in blocks: the induction is on the blocks, for which the number of bytes is fuel
enough. -/
theorem writeBlocks_eq {fuel : Nat} (h : bytes.length ≤ fuel) :
    c.writeBlocks fuel bytes = (c.append bytes, bytes.isEmpty || bytes.length < c.space) := by
  induction fuel generalizing c bytes with
  | zero =>
    obtain rfl := List.eq_nil_of_length_eq_zero (Nat.le_zero.mp h)
    simp [writeBlocks]
  | succ fuel ih =>
    rcases Nat.eq_zero_or_pos bytes.length with hzero | hpos
    · obtain rfl := List.eq_nil_of_length_eq_zero hzero
      simp [writeBlocks]
    · have hblock : (bytes.take blockBytes).length = min blockBytes bytes.length :=
        List.length_take
      have hrest : (bytes.drop blockBytes).length = bytes.length - blockBytes := List.length_drop
      have hsplit : bytes.take blockBytes ++ bytes.drop blockBytes = bytes :=
        List.take_append_drop _ _
      rw [writeBlocks_of_pos hpos, List.isEmpty_eq_false_iff_exists_mem.mpr ?_, Bool.false_or]
      split_ifs with hfits
      · -- the block fits, and the rest is written behind it
        have hblockBytes : 0 < blockBytes := by decide
        rw [ih (by omega), append_append, hsplit,
          space_append]
        refine Prod.ext rfl (Bool.eq_iff_iff.mpr ?_)
        simp only [Bool.or_eq_true, decide_eq_true_eq, List.isEmpty_iff_length_eq_zero]
        omega
      · -- the block fills the stream, and nothing behind it is kept
        refine Prod.ext (eq_of_toList_eq rfl ?_) ?_
        · rw [toList_append, toList_append, List.take_take, Nat.min_eq_left (by omega)]
        · symm
          rw [decide_eq_false_iff_not]
          omega
      · exact List.exists_mem_of_length_pos hpos

/-- A write keeps what fits, and fails if it reaches the capacity. -/
theorem write_eq : c.write bytes = (c.append bytes, bytes.isEmpty || bytes.length < c.space) :=
  writeBlocks_eq (Nat.le_refl _)

end Capture

/-! ### Calls -/

variable {w : World} {f : Function} {args results : List Value} {p q : Process} {s : Stream}

/-- The bytes that a call passes to a stream: those of the first buffer that is not empty. -/
def Function.passed (f : Function) (args : List Value) (p : Process) (s : Stream) : List UInt8 :=
  match f, args with
  | .fdWrite, [.i32 fd, .i32 list, .i32 count, .i32 _] =>
    if p.descriptors.lookup fd.toNat = some s then
      match firstBuffer p.memory list.toNat count.toNat with
      | .ok (some r) => p.memory.readBytes r.start r.length
      | _ => []
    else []
  | _, _ => []

/-- The bytes that a call passes to the standard output: those of the first buffer that is not
empty. -/
def Function.outgoing (f : Function) (args : List Value) (p : Process) : List UInt8 :=
  match f, args with
  | .fdWrite, [.i32 fd, .i32 list, .i32 count, .i32 _] =>
    if p.descriptors.lookup fd.toNat = some .output then
      match firstBuffer p.memory list.toNat count.toNat with
      | .ok (some r) => p.memory.readBytes r.start r.length
      | _ => []
    else []
  | _, _ => []

theorem passed_output : f.passed args p .output = f.outgoing args p := rfl

theorem outgoing_congr {p p' : Process} (hdescriptors : p'.descriptors = p.descriptors)
    (hmemory : p'.memory = p.memory) : f.outgoing args p' = f.outgoing args p := by
  unfold Function.outgoing
  rw [hdescriptors, hmemory]

theorem writeTo_eq {bytes : List UInt8} (hs : s ≠ .input) :
    p.writeTo s bytes = (bytes.isEmpty || bytes.length < (p.captured s).space,
      p.capture s ((p.captured s).append bytes)) := by
  cases s with
  | input => exact absurd rfl hs
  | output =>
    simp only [Process.writeTo, Capture.write_eq]
    rfl
  | error =>
    simp only [Process.writeTo, Capture.write_eq]
    rfl

theorem run_buffer {list count : UInt32} :
    (Action.buffer list count).run p =
      match firstBuffer p.memory list.toNat count.toNat with
      | .ok r => .ok (.ok r, p)
      | .error e => .error (.pointer e) := by
  change (Action.ofPointer (firstBuffer p.memory list.toNat count.toNat)).run p = _
  cases firstBuffer p.memory list.toNat count.toNat with
  | ok r => rfl
  | error e => rfl

theorem run_bytes {r : Region} :
    (Action.bytes r).run p =
      match readRegion p.memory r with
      | .ok bytes => .ok (.ok bytes, p)
      | .error e => .error (.pointer e) := by
  change (Action.ofPointer (readRegion p.memory r)).run p = _
  cases readRegion p.memory r with
  | ok bytes => rfl
  | error e => rfl

/-- A write to one of the output streams, in one piece. -/
theorem run_writeOutput {fd : UInt32} {s : Stream} (list count result : UInt32)
    (hs : s ≠ .input) (hfd : p.descriptors.lookup fd.toNat = some s) :
    (writeOutput fd list count result).run p =
      match firstBuffer p.memory list.toNat count.toNat with
      | .error e => .error (.pointer e)
      | .ok none => .ok (.ok [sizeOutput result 0], p)
      | .ok (some r) =>
        match readRegion p.memory r with
        | .error e => .error (.pointer e)
        | .ok bytes =>
          .ok (if bytes.isEmpty || bytes.length < (p.captured s).space
            then .ok [sizeOutput result r.length] else .error .inputOutput,
            p.capture s ((p.captured s).append bytes)) := by
  have hguard : (Action.guard (s ≠ .input) .badDescriptor).run p = .ok (.ok (), p) := by
    rw [decide_eq_true hs]
    rfl
  unfold writeOutput
  simp only [Action.run_bind, Action.run_stream, hfd, hguard, run_buffer]
  cases firstBuffer p.memory list.toNat count.toNat with
  | error e => rfl
  | ok r? =>
    cases r? with
    | none => rfl
    | some r =>
      simp only [Action.run_bind, run_bytes]
      cases readRegion p.memory r with
      | error e => rfl
      | ok bytes =>
        have hwrite : (modifyGet (·.writeTo s bytes) : Action Bool).run p =
            .ok (.ok (bytes.isEmpty || bytes.length < (p.captured s).space),
              p.capture s ((p.captured s).append bytes)) := by
          change Except.ok (Except.ok (p.writeTo s bytes).1, (p.writeTo s bytes).2) = _
          rw [writeTo_eq hs]
        simp only [hwrite]
        cases bytes.isEmpty || bytes.length < (p.captured s).space with
        | true => rfl
        | false => rfl

/-- A call passes nothing to a stream to which it does not write. -/
theorem passed_of_not_writesTo (h : ¬ f.WritesTo args p s) : f.passed args p s = [] := by
  unfold Function.passed
  split
  · exact if_neg h
  · rfl

/-- The number with which a call answers. -/
def answerCode (outcome : Except Errno (List Output)) : UInt32 :=
  match outcome with
  | .ok _ => 0
  | .error e => e.code

/-- A call answers with what has become of its action. Its results are written to memory only. -/
theorem exists_run_of_call (h : call w f args p = .ok (results, q)) :
    ∃ outcome q', (f.run w args).run p = .ok (outcome, q') ∧ q.toResources = q'.toResources ∧
      results = [.i32 (answerCode outcome)] := by
  obtain ⟨-, -, h⟩ := bind_eq_ok_iff.mp h
  obtain ⟨⟨outcome, q'⟩, hrun, h⟩ := bind_eq_ok_iff.mp h
  refine ⟨outcome, q', hrun, ?_⟩
  cases outcome with
  | error e =>
    obtain ⟨rfl, rfl⟩ := Prod.mk.inj (Except.ok.inj h)
    exact ⟨rfl, rfl⟩
  | ok outputs =>
    obtain ⟨m, -, h⟩ := bind_eq_ok_iff.mp h
    obtain ⟨rfl, rfl⟩ := Prod.mk.inj (Except.ok.inj h)
    exact ⟨rfl, rfl⟩

/-- What a write to an output stream leaves of it and answers. -/
theorem of_call_fdWrite {fd list count result : UInt32} (hs : s ≠ .input)
    (hfd : p.descriptors.lookup fd.toNat = some s)
    (h : call w .fdWrite [.i32 fd, .i32 list, .i32 count, .i32 result] p = .ok (results, q)) :
    let bytes := Function.fdWrite.passed [.i32 fd, .i32 list, .i32 count, .i32 result] p s
    q.captured s = (p.captured s).append bytes ∧
      results = [.i32 (if bytes.isEmpty || bytes.length < (p.captured s).space then 0
        else Errno.inputOutput.code)] := by
  obtain ⟨outcome, q', hrun, hq, rfl⟩ := exists_run_of_call h
  change (writeOutput fd list count result).run p = _ at hrun
  rw [run_writeOutput list count result hs hfd] at hrun
  simp only [hq, Function.passed, if_pos hfd]
  generalize firstBuffer p.memory list.toNat count.toNat = buffer at hrun ⊢
  rcases buffer with e | r? 
  · cases hrun
  rcases r? with _ | r
  · obtain ⟨rfl, rfl⟩ := Prod.mk.inj (Except.ok.inj hrun)
    exact ⟨Capture.append_nil.symm, rfl⟩
  · dsimp only at hrun ⊢
    cases hbytes : readRegion p.memory r with
    | error e =>
      rw [hbytes] at hrun
      cases hrun
    | ok bytes =>
      rw [hbytes] at hrun
      obtain ⟨rfl, rfl⟩ := Prod.mk.inj (Except.ok.inj hrun)
      obtain ⟨-, -, hread⟩ := bind_eq_ok_iff.mp hbytes
      obtain rfl := Except.ok.inj hread
      refine ⟨captured_capture_self hs, ?_⟩
      split_ifs with hroom
      · rfl
      · rfl

/-- A call keeps what fits of the bytes that it passes to a stream. -/
theorem captured_of_call_eq_append (h : call w f args p = .ok (results, q)) (hs : s ≠ .input) :
    q.captured s = (p.captured s).append (f.passed args p s) := by
  by_cases hW : f.WritesTo args p s
  · unfold Function.WritesTo at hW
    split at hW
    next => exact (of_call_fdWrite hs hW h).1
    next => exact hW.elim
  · rw [passed_of_not_writesTo hW, Capture.append_nil, captured_of_call hW h]

/-- A call keeps what fits of the bytes that it passes to the standard output. -/
theorem output_of_call_eq_append (h : call w f args p = .ok (results, q)) :
    q.output = p.output.append (f.outgoing args p) :=
  captured_of_call_eq_append (s := .output) h nofun

/-- A call that ends the guest because it exits passes nothing to any stream. -/
theorem passed_of_exit {code : UInt32} (h : call w f args p = .error (.exit code)) :
    f.passed args p s = [] := by
  obtain ⟨rfl, rfl, -⟩ := of_call_eq_exit h
  rfl

/-- The guest is told of a write that does not leave any space. -/
theorem results_of_call_of_full (h : call w f args p = .ok (results, q)) (hs : s ≠ .input)
    (hne : f.passed args p s ≠ []) (hfull : (p.captured s).space ≤ (f.passed args p s).length) :
    results = [.i32 Errno.inputOutput.code] := by
  by_cases hW : f.WritesTo args p s
  · unfold Function.WritesTo at hW
    split at hW
    next =>
      rw [(of_call_fdWrite hs hW h).2, if_neg]
      simp only [Bool.or_eq_true, List.isEmpty_iff, decide_eq_true_eq]
      exact not_or.mpr ⟨hne, Nat.not_lt.mpr hfull⟩
    next => exact hW.elim
  · exact absurd (passed_of_not_writesTo hW) hne

end ScriptSandbox.Wasi
