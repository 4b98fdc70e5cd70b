import ScriptSandbox.Proofs.Echo.Guest

/-!
# Rounds of the echo

Every round takes the next bytes of the input, as many as the buffer holds, and passes them to the
output. So the whole input comes through in order, and then a last round finds its end. What the
guest is answered to its writes makes no difference.

## Main definitions

* `Sandbox.Echo.transcript`: all calls of a run, with what they pass on
* `Sandbox.Echo.steps`: the number of its steps

## Main results

* `Sandbox.Echo.at_reads`, `Sandbox.Echo.at_writes`: the two halves of a round
* `Sandbox.Echo.of_rounds`: all rounds
* `Sandbox.Echo.of_begun`: the whole run
-/

namespace ScriptSandbox.Sandbox.Echo

open Course (At begun go)
open Wasi (Errno Resources World)
open Wasm (Code Memory Names Value)

variable {names : Names} {describesSource : Bool} {c : Settings} {k : Course} {m : Memory}
  {n : UInt32} {r : Resources} {w : World} {clock limit space : Nat} {chunk source : List UInt8}
  {xs : List Exchange}

/-! ### The memory of a round -/

/-- The most bytes that come through in one round. -/
def chunkBytes : Nat := 4096

/-- A memory with room for the buffer. -/
structure HasRoom (m : Memory) : Prop where
  isPaged : m.IsPaged
  size : 64 + chunkBytes ≤ m.size

theorem hasRoom_zeros : HasRoom (.zeros 1 none false) := ⟨Memory.isPaged_zeros _ _ _, by decide⟩

namespace HasRoom

theorem writeNat (h : HasRoom m) (address length value : Nat) :
    HasRoom (m.writeNat address length value) :=
  ⟨h.isPaged.writeNat _ _ _, by rw [Memory.size_writeNat]; exact h.size⟩

theorem writeBytes (h : HasRoom m) (address : Nat) (bytes : List UInt8) :
    HasRoom (m.writeBytes address bytes) :=
  ⟨h.isPaged.writeBytes _ _, by rw [Memory.size_writeBytes]; exact h.size⟩

end HasRoom

/-- The memory when the buffer is offered to be filled. -/
def offered (m : Memory) : Memory := (m.writeNat 0 4 64).writeNat 4 4 chunkBytes

/-- The memory after a read. -/
def filled (m : Memory) (chunk : List UInt8) : Memory :=
  ((offered m).writeBytes 64 chunk).writeNat 8 4 chunk.length

/-- The memory when as much of the buffer as was filled is passed on. -/
def passing (m : Memory) (chunk : List UInt8) : Memory :=
  (filled m chunk).writeNat 4 4 chunk.length

section

variable (h : HasRoom m)
include h

theorem hasRoom_offered : HasRoom (offered m) := (h.writeNat _ _ _).writeNat _ _ _

theorem hasRoom_filled (chunk : List UInt8) : HasRoom (filled m chunk) :=
  ((hasRoom_offered h).writeBytes _ _).writeNat _ _ _

theorem hasRoom_passing (chunk : List UInt8) : HasRoom (passing m chunk) :=
  (hasRoom_filled h chunk).writeNat _ _ _

/-- All of the buffer is offered. -/
theorem firstBuffer_offered : Wasi.firstBuffer (offered m) 0 1 = .ok (some ⟨64, chunkBytes⟩) := by
  have hsize := h.size
  have hsize' := (hasRoom_offered h).size
  unfold chunkBytes at hsize hsize'
  have hfirst : (m.writeNat 0 4 64).IsPaged := h.isPaged.writeNat _ _ _
  have hstart : (offered m).readNat 0 4 = 64 := by
    rw [offered, Memory.readNat_writeNat_of_disjoint hfirst (.inl (Nat.le_refl 4)),
      Memory.readNat_writeNat_of_lt h.isPaged (by omega) (by decide)]
  have hlength : (offered m).readNat 4 4 = chunkBytes := by
    rw [offered, Memory.readNat_writeNat_of_lt hfirst (by rw [Memory.size_writeNat]; omega)
      (by decide)]
  have hlist : 0 + Wasi.bufferBytes ≤ (offered m).size := Nat.le_trans (by decide) hsize'
  exact Wasi.firstBuffer_one (by decide) hlist rfl hstart hlength (by decide)

variable (hchunk : chunk.length ≤ chunkBytes)
include hchunk

/-- After a read, the guest can see how far the buffer was filled. -/
theorem readNat_filled : (filled m chunk).readNat 8 4 = chunk.length := by
  have hsize := (hasRoom_offered h).size
  have hpaged : ((offered m).writeBytes 64 chunk).IsPaged :=
    (hasRoom_offered h).isPaged.writeBytes _ _
  unfold chunkBytes at hsize hchunk
  rw [filled, Memory.readNat_writeNat_of_lt hpaged (by rw [Memory.size_writeBytes]; omega)
    (by omega)]

/-- As much of the buffer is passed on as was filled. -/
theorem firstBuffer_passing (hne : chunk ≠ []) :
    Wasi.firstBuffer (passing m chunk) 0 1 = .ok (some ⟨64, chunk.length⟩) := by
  have hsize := h.size
  have hsize' := (hasRoom_filled h chunk).size
  have hsize'' := (hasRoom_passing h chunk).size
  have hpos : chunk.length ≠ 0 := fun hzero => hne (List.eq_nil_of_length_eq_zero hzero)
  have hfilled : (filled m chunk).IsPaged := (hasRoom_filled h chunk).isPaged
  have hfirst : (m.writeNat 0 4 64).IsPaged := h.isPaged.writeNat _ _ _
  have hoffered : (offered m).IsPaged := (hasRoom_offered h).isPaged
  unfold chunkBytes at hsize hsize' hsize'' hchunk
  -- neither the bytes nor their number are written over the address of the buffer
  have hstart : (passing m chunk).readNat 0 4 = 64 := by
    rw [passing, Memory.readNat_writeNat_of_disjoint hfilled (.inl (by decide)), filled,
      Memory.readNat_writeNat_of_disjoint (hoffered.writeBytes _ _) (.inl (by decide)),
      Memory.readNat_writeBytes_of_disjoint hoffered (.inl (by decide)), offered,
      Memory.readNat_writeNat_of_disjoint hfirst (.inl (by decide)),
      Memory.readNat_writeNat_of_lt h.isPaged (by omega) (by decide)]
  have hlength : (passing m chunk).readNat 4 4 = chunk.length := by
    rw [passing, Memory.readNat_writeNat_of_lt hfilled (by omega) (by omega)]
  have hlist : 0 + Wasi.bufferBytes ≤ (passing m chunk).size := Nat.le_trans (by decide) hsize''
  exact Wasi.firstBuffer_one (by decide) hlist rfl hstart hlength hpos

/-- What is passed on is what was read. -/
theorem readBytes_passing : (passing m chunk).readBytes 64 chunk.length = chunk := by
  have hsize := (hasRoom_offered h).size
  have hfilled : (filled m chunk).IsPaged := (hasRoom_filled h chunk).isPaged
  have hoffered : (offered m).IsPaged := (hasRoom_offered h).isPaged
  unfold chunkBytes at hsize hchunk
  rw [passing, Memory.readBytes_writeNat_of_disjoint hfilled (.inr (by decide)), filled,
    Memory.readBytes_writeNat_of_disjoint (hoffered.writeBytes _ _) (.inr (by decide)),
    Memory.readBytes_writeBytes hoffered (by omega)]

end

/-! ### Single rounds -/

/-- A read that takes some bytes from the input. -/
def reading (chunk : List UInt8) : Exchange := ⟨.fdRead, chunk, [], [.i32 0]⟩

/-- A write that passes some bytes to an output with some space left. It fails if it leaves none. -/
def writing (space : Nat) (chunk : List UInt8) : Exchange :=
  ⟨.fdWrite, [], chunk, [.i32 (if chunk.length < space then 0 else Errno.inputOutput.code)]⟩

theorem take_sub_length_drop (bytes : List UInt8) (n : Nat) :
    bytes.take (bytes.length - (bytes.drop n).length) = bytes.take n := by
  rw [List.length_drop]
  rcases Nat.le_total n bytes.length with hle | hle
  · rw [Nat.sub_sub_self hle]
  · rw [Nat.sub_eq_zero_of_le hle, Nat.sub_zero, List.take_length, List.take_of_length_le hle]

/-- A call of a host function that answers. -/
theorem at_call {index position : Nat} {f : Wasi.Function} {x₁ x₂ x₃ x₄ : UInt32}
    {code : List Code} {results : List Value} {q : Wasi.Process} (hindex : index < 2)
    (hf : (guest names describesSource).imports[index]? = some f)
    (h : k.At c (guest names describesSource)
      (inRound limit m n [.i32 x₄, .i32 x₃, .i32 x₂, .i32 x₁]
        (.plain position (.call index) :: code)) r clock xs)
    (hcall : Wasi.call c.world f [.i32 x₁, .i32 x₂, .i32 x₃, .i32 x₄]
      { r with memory := m, clock := clock + stepTime } = .ok (results, q)) :
    (k.go c (guest names describesSource)).At c (guest names describesSource)
      (inRound limit q.memory n results.reverse code) q.toResources q.clock
      (xs ++ [{ function := f
                taken := r.unread.take (r.unread.length - q.unread.length)
                passed := f.outgoing [.i32 x₁, .i32 x₂, .i32 x₃, .i32 x₄]
                  { r with memory := m, clock := clock + stepTime }
                results }]) := by
  have hmemory : (guest names describesSource).memory? = some 0 := rfl
  have hstore : (inRound limit m n [] (.plain position (.call index) :: code)).store.memories[0]? =
      some m := rfl
  have hanswered := h.call (step_call hindex x₁ x₂ x₃ x₄ code) hf hmemory hstore hcall
  rw [resume_inRound] at hanswered
  exact hanswered

section

variable (hm : HasRoom m) (hr : r.descriptors = Wasi.standardDescriptors)
include hm hr

/-- A read moves the next bytes of the input to where the buffer is. -/
theorem call_read :
    Wasi.call w .fdRead [.i32 0, .i32 0, .i32 1, .i32 8] { r with memory := offered m, clock } =
      .ok ([.i32 0], { r with
        unread := r.unread.drop chunkBytes
        memory := filled m (r.unread.take chunkBytes)
        clock }) := by
  have hsize := (hasRoom_offered hm).size
  have hfd : r.descriptors.lookup (0 : UInt32).toNat = some .input := by rw [hr]; rfl
  have hbuffer : Wasi.firstBuffer (offered m) (0 : UInt32).toNat (1 : UInt32).toNat =
      .ok (some ⟨64, chunkBytes⟩) := firstBuffer_offered hm
  have hresult : (8 : UInt32).toNat + 4 ≤ (offered m).size := Nat.le_trans (by decide) hsize
  have hanswer : (8 : UInt32).toNat = 8 := rfl
  have hcall := Wasi.call_fdRead (w := w) (p := { r with memory := offered m, clock })
    hfd hbuffer (by decide) (by decide) hsize hresult rfl
  dsimp only at hcall
  rw [hanswer] at hcall
  rw [hcall, filled]

/-- The first half of a round: the next bytes of the input are read. -/
theorem at_reads
    (h : k.At c (guest names describesSource) (inRound limit m n [] round) r clock xs) :
    let chunk := r.unread.take chunkBytes
    ((go c (guest names describesSource))^[17] k).At c (guest names describesSource)
      (inRound limit (filled m chunk) chunk.length.toUInt32
        [Wasm.truth (chunk.length.toUInt32 = 0)] (round.drop 17))
      { r with unread := r.unread.drop chunkBytes } (clock + stepTime * 17)
      (xs ++ [reading chunk]) := by
  intro chunk
  have hchunk : chunk.length ≤ chunkBytes := List.length_take_le _ _
  have hoffer : 8 ≤ m.size := Nat.le_trans (by decide) hm.size
  have hlook : 12 ≤ (filled m chunk).size :=
    Nat.le_trans (by decide) (hasRoom_filled hm chunk).size
  -- the buffer is offered, filled, and looked at
  have hread := at_call (by decide) rfl (h.runs (runs_offer hoffer)) (call_read hm hr)
  rw [take_sub_length_drop] at hread
  have hlooked := hread.runs (runs_look hlook)
  have hclock : clock + stepTime * 10 + stepTime + stepTime * 6 = clock + stepTime * 17 := by omega
  rw [readNat_filled hm hchunk, hclock,
    ← Function.iterate_succ_apply' (go c (guest names describesSource)),
    ← Function.iterate_add_apply] at hlooked
  exact hlooked

variable (hchunk : chunk.length ≤ chunkBytes) (hne : chunk ≠ [])
include hchunk hne

/-- A write passes the buffer on, and leaves room for the next round. -/
theorem call_write (w : World) (clock : Nat) :
    ∃ m', HasRoom m' ∧
      Wasi.call w .fdWrite [.i32 1, .i32 0, .i32 1, .i32 12]
          { r with memory := passing m chunk, clock } =
        .ok ((writing r.output.space chunk).results,
          { r with output := r.output.append chunk, memory := m', clock }) := by
  have hsize := (hasRoom_passing hm chunk).size
  have hfd : r.descriptors.lookup (1 : UInt32).toNat = some .output := by rw [hr]; rfl
  have hbuffer : Wasi.firstBuffer (passing m chunk) (0 : UInt32).toNat (1 : UInt32).toNat =
      .ok (some ⟨64, chunk.length⟩) := firstBuffer_passing hm hchunk hne
  have hstart : 64 < UInt32.size := by decide
  have hle : 64 + chunk.length ≤ (passing m chunk).size := by omega
  have hresult : (12 : UInt32).toNat + 4 ≤ (passing m chunk).size :=
    Nat.le_trans (by decide) hsize
  have hcall := Wasi.call_fdWrite (w := w) (p := { r with memory := passing m chunk, clock })
    hfd hbuffer hstart hle hresult rfl
  have hempty : chunk.isEmpty = false := List.isEmpty_eq_false_iff.mpr hne
  dsimp only at hcall
  simp only [readBytes_passing hm hchunk, hempty, Bool.false_or, decide_eq_true_eq] at hcall
  refine ⟨_, ?_, hcall⟩
  split_ifs
  · exact (hasRoom_passing hm chunk).writeNat _ _ _
  · exact hasRoom_passing hm chunk

theorem outgoing_passing :
    Wasi.Function.fdWrite.outgoing [.i32 1, .i32 0, .i32 1, .i32 12]
      { r with memory := passing m chunk, clock } = chunk := by
  have hfd : r.descriptors.lookup (1 : UInt32).toNat = some .output := by rw [hr]; rfl
  have hbuffer : Wasi.firstBuffer (passing m chunk) (0 : UInt32).toNat (1 : UInt32).toNat =
      .ok (some ⟨64, chunk.length⟩) := firstBuffer_passing hm hchunk hne
  rw [Wasi.Function.outgoing]
  simp only [if_pos hfd, hbuffer, readBytes_passing hm hchunk]

/-- The second half of a round: what was read is written to the output. -/
theorem at_writes
    (h : k.At c (guest names describesSource) (inRound limit (filled m chunk) chunk.length.toUInt32
      [Wasm.truth (chunk.length.toUInt32 = 0)] (round.drop 17)) r clock xs) :
    ∃ m', HasRoom m' ∧
      ((go c (guest names describesSource))^[12] k).At c (guest names describesSource)
        (inRound limit m' chunk.length.toUInt32 [] round)
        { r with output := r.output.append chunk } (clock + stepTime * 12)
        (xs ++ [writing r.output.space chunk]) := by
  have hnumber : chunk.length.toUInt32.toNat = chunk.length :=
    UInt32.toNat_ofNat_of_lt' (Nat.lt_of_le_of_lt hchunk (by decide))
  have hzero : chunk.length.toUInt32 ≠ 0 := by
    intro hzero
    rw [hzero] at hnumber
    exact hne (List.eq_nil_of_length_eq_zero hnumber.symm)
  have hpass : 8 ≤ (filled m chunk).size :=
    Nat.le_trans (by decide) (hasRoom_filled hm chunk).size
  obtain ⟨m', hm', hcall⟩ :=
    call_write hm hr hchunk hne c.world (clock + stepTime * 8 + stepTime)
  -- as much as was filled is passed on, and the next round begins
  have hpassed := h.runs (runs_pass hpass hzero)
  rw [hnumber, ← passing] at hpassed
  have hwritten := at_call (by decide) rfl hpassed hcall
  have htaken : r.unread.take (r.unread.length - r.unread.length) = [] := by
    rw [Nat.sub_self, List.take_zero]
  rw [htaken, outgoing_passing hm hr hchunk hne] at hwritten
  have hnext := hwritten.runs (runs_again _)
  have hclock : clock + stepTime * 8 + stepTime + stepTime * 3 = clock + stepTime * 12 := by omega
  rw [hclock, ← Function.iterate_succ_apply' (go c (guest names describesSource)),
    ← Function.iterate_add_apply] at hnext
  exact ⟨m', hm', hnext⟩

end

/-- When there was nothing to read, that was the last round. -/
theorem of_last (h : k.At c (guest names describesSource) (inRound limit m 0
      [Wasm.truth ((0 : UInt32) = 0)] (round.drop 17)) r clock xs) :
    ((go c (guest names describesSource))^[2] k).progress =
        endRun r (clock + stepTime * 2) (.ok ()) ∧
      ((go c (guest names describesSource))^[2] k).exchanges c.world (guest names describesSource) =
        xs := (h.runs runs_final).returns step_final

/-! ### All rounds -/

/-- The calls of a run from a round on: the input that is left comes through in chunks, and then its
end is found. -/
def transcript (space : Nat) (source : List UInt8) : List Exchange :=
  if source = [] then [reading []]
  else
    reading (source.take chunkBytes) :: writing space (source.take chunkBytes) ::
      transcript (space - (source.take chunkBytes).length) (source.drop chunkBytes)
  termination_by source.length
  decreasing_by
    rename_i hne
    rw [List.length_drop]
    exact Nat.sub_lt (List.length_pos_of_ne_nil hne) (by decide)

/-- The number of steps from the beginning of a round to the end of the run, with some number of
bytes left in the input. -/
def roundSteps (length : Nat) : Nat := 29 * ((length + chunkBytes - 1) / chunkBytes) + 19

theorem roundSteps_zero : roundSteps 0 = 19 := rfl

theorem roundSteps_of_pos {length : Nat} (h : 0 < length) :
    roundSteps length = roundSteps (length - chunkBytes) + 29 := by
  unfold roundSteps chunkBytes
  omega

/-- From a round on, the run lasts as long as the input does, and all of it comes through. -/
theorem of_rounds
    (h : k.At c (guest names describesSource) (inRound limit m n [] round) r clock xs)
    (hm : HasRoom m) (hr : r.descriptors = Wasi.standardDescriptors) :
    let k' := (go c (guest names describesSource))^[roundSteps r.unread.length] k
    k'.progress = endRun { r with unread := [], output := r.output.append r.unread }
        (clock + stepTime * roundSteps r.unread.length) (.ok ()) ∧
      k'.exchanges c.world (guest names describesSource) =
        xs ++ transcript r.output.space r.unread := by
  generalize hspace : r.output.space = space, hsource : r.unread = source
  induction space, source using transcript.induct generalizing k m n r clock xs with
  | case1 space =>
    have hread := at_reads hm hr h
    rw [hsource, List.take_nil, List.drop_nil] at hread
    obtain ⟨hprogress, hexchanges⟩ := of_last hread
    have hclock : clock + stepTime * 17 + stepTime * 2 = clock + stepTime * 19 := by omega
    rw [← Function.iterate_add_apply] at hprogress hexchanges
    rw [hclock] at hprogress
    rw [List.length_nil, roundSteps_zero, Wasi.Capture.append_nil, transcript, if_pos rfl]
    exact ⟨hprogress, hexchanges⟩
  | case2 space source hne ih =>
    have hpos : 0 < source.length := List.length_pos_of_ne_nil hne
    have hchunk : source.take chunkBytes ≠ [] := by
      rw [Ne, List.take_eq_nil_iff, not_or]
      exact ⟨by decide, hne⟩
    -- a round, and from the next one on as many rounds as are left
    have hread := at_reads hm hr h
    rw [hsource] at hread
    have hr' : { r with unread := source.drop chunkBytes }.descriptors =
        Wasi.standardDescriptors := hr
    obtain ⟨m', hm', hwritten⟩ :=
      at_writes hm hr' (List.length_take_le chunkBytes source) hchunk hread
    have hspace' : (r.output.append (source.take chunkBytes)).space =
        space - (source.take chunkBytes).length := by rw [Wasi.Capture.space_append, hspace]
    obtain ⟨hprogress, hexchanges⟩ := ih hwritten hm' hr hspace' rfl
    have hsteps : roundSteps (source.length - chunkBytes) + 12 + 17 = roundSteps source.length :=
      (roundSteps_of_pos hpos).symm
    have hclock : clock + stepTime * 17 + stepTime * 12 +
        stepTime * roundSteps (source.length - chunkBytes) =
          clock + stepTime * roundSteps source.length := by
      rw [← hsteps, Nat.mul_add, Nat.mul_add]
      omega
    rw [List.length_drop, ← Function.iterate_add_apply, ← Function.iterate_add_apply, hsteps]
      at hprogress hexchanges
    rw [hclock, Wasi.Capture.append_append, List.take_append_drop] at hprogress
    rw [hspace, List.append_assoc, List.append_assoc] at hexchanges
    rw [transcript, if_neg hne]
    exact ⟨hprogress, hexchanges⟩

/-! ### The whole run -/

/-- The number of steps of a run. -/
def steps (length : Nat) : Nat := roundSteps length + 2

/-- The run begins at the first round, but for two steps. -/
theorem at_begun (h : 1 ≤ c.pageLimit) :
    (begun c (guest names describesSource) source clock).At c (guest names describesSource)
      (initial c.pageLimit (.zeros 1 none false)) (.fresh source c.maxOutputBytes) clock [] := by
  have hstore : Wasm.instantiate (guest names describesSource).module c.pageLimit =
      .ok (store c.pageLimit (.zeros 1 none false)) := instantiate_module h
  have hstart : (guest names describesSource).module.start = none := rfl
  have hcalled : (guest names describesSource).start? = some 2 := rfl
  have htype : ((guest names describesSource).module.functionType? 2).bind startMismatch? = none :=
    rfl
  have hinvoke : Wasm.invoke (guest names describesSource).program
      (store c.pageLimit (.zeros 1 none false)) 2 [] =
        .next (initial c.pageLimit (.zeros 1 none false)) := invoke_start
  have hfirst : Course.first? c (guest names describesSource) source clock =
      some ⟨.fresh source c.maxOutputBytes, false, clock,
        .next (initial c.pageLimit (.zeros 1 none false))⟩ := by
    rw [Course.first?, hstore, hstart]
    simp only [startCall?, hcalled, htype, hinvoke]
  have hcreate : Instance.create c (guest names describesSource) source clock =
      .running ⟨initial c.pageLimit (.zeros 1 none false), .fresh source c.maxOutputBytes, false,
        clock⟩ := by
    rw [Instance.create, hstore, hstart]
    simp only [callStart, hcalled, htype, hinvoke, proceed]
  refine ⟨hcreate, ?_⟩
  rw [Course.exchanges, begun, hfirst]
  rfl

/-- A run takes in all of the source and gives it back as far as there is room for it, in a number
of steps that only depends on how long the source is. -/
theorem of_begun (names : Names) (describesSource : Bool) (h : 1 ≤ c.pageLimit)
    (source : List UInt8) (clock : Nat) :
    let k := (go c (guest names describesSource))^[steps source.length]
      (begun c (guest names describesSource) source clock)
    k.progress = .ended ⟨.ok (), source.take c.maxOutputBytes, [],
        clock + stepTime * steps source.length⟩ ∧
      k.exchanges c.world (guest names describesSource) = transcript c.maxOutputBytes source := by
  have hbegun : (begun c (guest names describesSource) source clock).At c
      (guest names describesSource) (initial c.pageLimit (.zeros 1 none false))
      (.fresh source c.maxOutputBytes) clock [] := at_begun h
  obtain ⟨hprogress, hexchanges⟩ := of_rounds (hbegun.runs runs_initial) hasRoom_zeros rfl
  have hclock : clock + stepTime * 2 + stepTime * roundSteps source.length =
      clock + stepTime * steps source.length := by
    rw [steps, Nat.mul_add]
    omega
  have hspace : (Resources.fresh source c.maxOutputBytes).output.space = c.maxOutputBytes := rfl
  have hunread : (Resources.fresh source c.maxOutputBytes).unread = source := rfl
  rw [hunread, ← Function.iterate_add_apply] at hprogress hexchanges
  rw [hclock, endRun, Wasi.Capture.toList_append, hspace] at hprogress
  rw [hspace, List.nil_append] at hexchanges
  exact ⟨hprogress, hexchanges⟩

end ScriptSandbox.Sandbox.Echo
