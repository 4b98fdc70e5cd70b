import ScriptSandbox.Proofs.Evaluation.Endings
import ScriptSandbox.Proofs.Sandbox.CapturedOutput
import ScriptSandbox.Proofs.Wasi.Buffers

/-!
# Output streams

A guest that hands over one buffer with every write has what it writes to its two output streams
kept apart. At every moment and however the run ends, each stream holds the first of the bytes that
were handed over to it, up to the capacity, whatever was written to the other one. So how the bytes
were cut into writes does not matter for the result.

To which stream a buffer goes is up to the descriptor. Descriptors 1 and 2 stand for the standard
output and the standard error, until the guest closes them or gives others their numbers.

## Main definitions

* `Sandbox.handedTo`, `Sandbox.handedFor`: all bytes that were handed over to a stream, or for a
  descriptor
* `Sandbox.Progress.captured`: what is captured of a stream, under way or in the end

## Main results

* `Sandbox.Course.Of.holdsStreams`: what the streams hold all along a run
* `Sandbox.Session.captures_handed`: what they hold in an evaluation, and what its result depends on
* `Sandbox.Session.not_forall_handedFor`: descriptor 1 may not stand for the standard output
-/

namespace ScriptSandbox.Sandbox

open Evaluation (Ends)
open Wasi (Capture Stream)

variable {c : Settings} {g : Guest} {source : List UInt8} {k : Course} {m : Moment}
  {ms : List Moment} {s : Stream}

/-! ### What guests hand over -/

namespace Moment

/-- The bytes that the guest hands over to a stream. -/
def handedTo (g : Guest) (s : Stream) (m : Moment) : List UInt8 :=
  match m.call? g with
  | some ⟨f, args, some p⟩ => f.handedTo args p s
  | _ => []

/-- The bytes that the guest hands over for the descriptor with a number. -/
def handedFor (g : Guest) (n : Nat) (m : Moment) : List UInt8 :=
  match m.call? g with
  | some ⟨f, args, some p⟩ => f.handedFor args p n
  | _ => []

/-- The guest hands over one buffer if it writes. -/
def HandsOne (g : Guest) (m : Moment) : Prop := ∀ x ∈ m.call? g, x.function.HandsOne x.args

instance (g : Guest) (m : Moment) : Decidable (m.HandsOne g) :=
  inferInstanceAs (Decidable (∀ x ∈ m.call? g, x.function.HandsOne x.args))

/-- The guest closes a descriptor or gives one another number. -/
def Redirects (g : Guest) (m : Moment) : Prop := ∃ x ∈ m.call? g, x.function.Redirects

theorem handedTo_of_not_host (h : ∀ index args s, m.step ≠ .host index args s) (s : Stream) :
    m.handedTo g s = [] := by
  unfold handedTo
  rw [call?_eq_none_of_not_host h]

end Moment

/-- All bytes that were handed over to a stream, in order. The latest moment comes first. -/
def handedTo (g : Guest) (s : Stream) (ms : List Moment) : List UInt8 :=
  ms.reverse.flatMap (·.handedTo g s)

/-- All bytes that were handed over for the descriptor with a number, in order. -/
def handedFor (g : Guest) (n : Nat) (ms : List Moment) : List UInt8 :=
  ms.reverse.flatMap (·.handedFor g n)

@[simp] theorem handedTo_cons : handedTo g s (m :: ms) = handedTo g s ms ++ m.handedTo g s := by
  simp [handedTo]

/-! ### What is captured -/

/-- What was captured of a stream of a run that has ended. -/
def Ended.captured (e : Ended) : Stream → List UInt8
  | .input => []
  | .output => e.stdout
  | .error => e.stderr

/-- What is captured of a stream, while the run is under way and when it has ended. -/
def Progress.captured (s : Stream) : Progress → List UInt8
  | .running i => (i.resources.captured s).content.toList
  | .ended e => e.captured s

theorem captured_endRun (r : Wasi.Resources) (clock : Nat) (outcome : Evaluation.Outcome) :
    (endRun r clock outcome).captured s = (r.captured s).content.toList := by
  cases s with
  | input | output | error => rfl

/-- What fits of all the bytes that were handed over to a stream. -/
def firstHanded (c : Settings) (g : Guest) (s : Stream) (ms : List Moment) : Capture :=
  Capture.append ⟨c.maxOutputBytes, #[]⟩ (handedTo g s ms)

theorem toList_firstHanded :
    (firstHanded c g s ms).content.toList = (handedTo g s ms).take c.maxOutputBytes := by
  rw [firstHanded, Capture.toList_append]
  rfl

theorem firstHanded_cons :
    firstHanded c g s (m :: ms) = (firstHanded c g s ms).append (m.handedTo g s) := by
  rw [firstHanded, firstHanded, handedTo_cons, Capture.append_append]

/-- A moment at which nothing is handed over. -/
theorem firstHanded_cons_of_silent (h : m.handedTo g s = []) :
    firstHanded c g s (m :: ms) = firstHanded c g s ms := by
  rw [firstHanded_cons, h, Capture.append_nil]

/-- The instance holds what fits of the bytes handed over so far. -/
def Moment.HoldsStream (c : Settings) (g : Guest) (s : Stream) (m : Moment) (ms : List Moment) :
    Prop := m.resources.captured s = firstHanded c g s ms

/-- So does a run that is under way or has ended. -/
def Progress.HoldsStream (c : Settings) (g : Guest) (s : Stream) (ms : List Moment) :
    Progress → Prop
  | .running i => i.resources.captured s = firstHanded c g s ms
  | .ended e => e.captured s = (firstHanded c g s ms).content.toList

theorem Progress.HoldsStream.captured_eq {p : Progress} (h : p.HoldsStream c g s ms) :
    p.captured s = (handedTo g s ms).take c.maxOutputBytes := by
  cases p with
  | running i => exact (congrArg (·.content.toList) h).trans toList_firstHanded
  | ended e => exact Eq.trans h toList_firstHanded

/-- A run that is ended holds what it is ended with. -/
theorem holdsStream_endRun {r : Wasi.Resources} (clock : Nat) (outcome : Evaluation.Outcome)
    (h : r.captured s = firstHanded c g s ms) :
    (endRun r clock outcome).HoldsStream c g s ms := by
  have hcaptured := captured_endRun (s := s) r clock outcome
  rw [h] at hcaptured
  exact hcaptured

/-- A way to go on from a moment adds to a stream what fits of the buffer that is handed over. -/
theorem Moment.holdsStream_of_leads {p : Progress} (hs : s ≠ .input) (hone : m.HandsOne g)
    (h : m.HoldsStream c g s ms) (hleads : m.Leads c g p) : p.HoldsStream c g s (m :: ms) := by
  have hsilent (hhost : ∀ index args s, m.step ≠ .host index args s) :
      m.resources.captured s = firstHanded c g s (m :: ms) :=
    h.trans (firstHanded_cons_of_silent (handedTo_of_not_host hhost s)).symm
  -- what a call leaves behind, whether it answers or ends the guest
  have hcalled {f : Wasi.Function} {args : List Wasm.Value} {p : Wasi.Process}
      (hcall? : m.call? g = some ⟨f, args, some p⟩) :
      (Wasi.leftBehind c.world f args p).captured s = firstHanded c g s (m :: ms) := by
    obtain ⟨-, -, -, -, -, -, -, hresources, -⟩ := of_call?_eq_some hcall?
    have hhanded : m.handedTo g s = f.handedTo args p s := by
      unfold handedTo
      rw [hcall?]
    rw [Wasi.captured_leftBehind hs (hone _ hcall?), hresources, h, firstHanded_cons, hhanded]
  cases hleads with
  | runs hstep => exact hsilent (by simp [hstep])
  | answered hstep hcall? hi hcall =>
    exact (congrArg (·.captured s) (Wasi.toResources_of_call hcall)).trans (hcalled hcall?)
  | aborted hstep hcall? hcall => exact holdsStream_endRun _ _ (hcalled hcall?)
  | missing hstep hcall? =>
    -- there is no memory from which anything could be handed over
    have hnone : m.handedTo g s = [] := by
      unfold handedTo
      split
      next f args p heq => exact absurd heq (hcall? f args p)
      next => rfl
    exact holdsStream_endRun _ _ (h.trans (firstHanded_cons_of_silent hnone).symm)
  | stops outcome _ hstep => exact holdsStream_endRun _ _ (hsilent hstep)

/-- All along a run, the instance has held what fits of the bytes handed over until then. -/
def HeldStream (c : Settings) (g : Guest) (s : Stream) (ms : List Moment) : Prop :=
  ∀ m ms', m :: ms' <:+ ms → m.HoldsStream c g s ms'

theorem heldStream_nil : HeldStream c g s [] := fun _ _ hsuffix =>
  (List.cons_ne_nil _ _ (List.suffix_nil.mp hsuffix)).elim

theorem HeldStream.cons (h : HeldStream c g s ms) (hm : m.HoldsStream c g s ms) :
    HeldStream c g s (m :: ms) := by
  intro m' ms' hsuffix
  rcases List.suffix_cons_iff.mp hsuffix with heq | hsuffix
  · obtain ⟨rfl, rfl⟩ := List.cons.inj heq
    exact hm
  · exact h m' ms' hsuffix

/-- All along a run and in its end, every output stream holds what fits of the bytes that were
handed over to it. -/
theorem Course.Of.holdsStreams (h : k.Of c g source) (hs : s ≠ .input)
    (hone : ∀ m ∈ k.moments, m.HandsOne g) :
    HeldStream c g s k.moments ∧ k.progress.HoldsStream c g s k.moments := by
  have hfresh : (Wasi.Resources.fresh source c.maxOutputBytes).captured s =
      firstHanded c g s [] := by
    cases s with
    | input => exact absurd rfl hs
    | output | error => exact Capture.append_nil.symm
  refine h.induct
    (P := fun ms p => (∀ m ∈ ms, m.HandsOne g) → HeldStream c g s ms ∧ p.HoldsStream c g s ms)
    (Q := fun m ms => (∀ m ∈ ms, m.HandsOne g) → HeldStream c g s ms ∧ m.HoldsStream c g s ms)
    ?_ ?_ ?_ ?_ ?_ ?_ hone
  · intro clock outcome _ _
    exact ⟨heldStream_nil, holdsStream_endRun _ _ hfresh⟩
  · intro clock m hm _
    obtain ⟨store, f, -, hresources, -⟩ := of_first?_eq_some hm
    refine ⟨heldStream_nil, ?_⟩
    rw [Moment.HoldsStream, hresources]
    exact hfresh
  · intro m m' ms hms hnext hone
    obtain ⟨-, hone⟩ := List.forall_mem_cons.mp hone
    obtain ⟨hheld, hholds⟩ := hms hone
    obtain ⟨store, results, f, -, hstep, hm', -⟩ := Moment.of_next?_eq_some (c := c) hnext
    have hsilent : m.handedTo g s = [] := Moment.handedTo_of_not_host (by simp [hstep]) s
    refine ⟨hheld.cons hholds, ?_⟩
    rw [Moment.HoldsStream, hm', firstHanded_cons_of_silent hsilent]
    exact hholds
  · intro m ms hms hnext hone
    obtain ⟨hm, hone⟩ := List.forall_mem_cons.mp hone
    obtain ⟨hheld, hholds⟩ := hms hone
    exact ⟨hheld.cons hholds,
      Moment.holdsStream_of_leads hs hm hholds (Moment.leads_progress hnext)⟩
  · intro i ms hms hone
    exact hms hone
  · intro i ms clock hms hone
    exact hms hone

/-! ### Descriptors -/

/-- A run that is under way has the descriptors that it has started with. -/
def Progress.KeepsDescriptors : Progress → Prop
  | .running i => i.resources.descriptors = Wasi.standardDescriptors
  | .ended _ => True

theorem Moment.keepsDescriptors_of_leads {p : Progress} (hm : ¬ m.Redirects g)
    (h : m.resources.descriptors = Wasi.standardDescriptors) (hleads : m.Leads c g p) :
    p.KeepsDescriptors := by
  cases hleads with
  | runs => exact h
  | answered hstep hcall? hi hcall =>
    obtain ⟨-, -, -, -, -, -, -, hresources, -⟩ := of_call?_eq_some hcall?
    have hkept := Wasi.descriptors_of_call (fun hf => hm ⟨_, hcall?, hf⟩) hcall
    exact hkept.trans ((congrArg (·.descriptors) hresources).trans h)
  | aborted | missing | stops => trivial

/-- A guest that does not redirect any descriptor has those it has started with, all along. -/
theorem Course.Of.descriptors (h : k.Of c g source) (hkept : ∀ m ∈ k.moments, ¬ m.Redirects g) :
    ∀ m ∈ k.moments, m.resources.descriptors = Wasi.standardDescriptors := by
  let Kept (ms : List Moment) : Prop :=
    ∀ m ∈ ms, m.resources.descriptors = Wasi.standardDescriptors
  have hall : Kept k.moments ∧ k.progress.KeepsDescriptors := by
    refine h.induct
      (P := fun ms p => (∀ m ∈ ms, ¬ m.Redirects g) → Kept ms ∧ p.KeepsDescriptors)
      (Q := fun m ms => (∀ m ∈ ms, ¬ m.Redirects g) → Kept (m :: ms)) ?_ ?_ ?_ ?_ ?_ ?_ hkept
    · intro clock outcome _ _
      exact ⟨nofun, trivial⟩
    · intro clock m hm _
      obtain ⟨store, f, -, hresources, -⟩ := of_first?_eq_some hm
      refine List.forall_mem_cons.mpr ⟨?_, nofun⟩
      rw [hresources]
      rfl
    · intro m m' ms hms hnext hkept
      obtain ⟨-, hkept⟩ := List.forall_mem_cons.mp hkept
      obtain ⟨store, results, f, -, -, hm', -⟩ := Moment.of_next?_eq_some (c := c) hnext
      refine List.forall_mem_cons.mpr ⟨?_, hms hkept⟩
      rw [hm']
      exact (List.forall_mem_cons.mp (hms hkept)).1
    · intro m ms hms hnext hkept
      obtain ⟨hm, hkept⟩ := List.forall_mem_cons.mp hkept
      exact ⟨hms hkept, Moment.keepsDescriptors_of_leads hm
        (List.forall_mem_cons.mp (hms hkept)).1 (Moment.leads_progress hnext)⟩
    · intro i ms hms hkept
      obtain ⟨hold, hi⟩ := hms hkept
      exact List.forall_mem_cons.mpr ⟨hi, hold⟩
    · intro i ms clock hms hkept
      exact hms hkept
  exact hall.1

theorem Moment.handedTo_eq_handedFor (h : m.resources.descriptors = Wasi.standardDescriptors) :
    m.handedTo g s = m.handedFor g s.number := by
  unfold handedTo handedFor
  split
  next f args p hcall? =>
    obtain ⟨-, -, -, -, -, -, -, hresources, -⟩ := of_call?_eq_some hcall?
    exact Wasi.handedTo_eq_handedFor ((congrArg (·.descriptors) hresources).trans h)
  next => rfl

/-- What such a guest hands over to a stream is what it hands over for one descriptor. -/
theorem Course.Of.handedTo_eq_handedFor (h : k.Of c g source)
    (hkept : ∀ m ∈ k.moments, ¬ m.Redirects g) (hms : ms <:+ k.moments) (s : Stream) :
    handedTo g s ms = handedFor g s.number ms := by
  unfold handedTo handedFor
  refine List.flatMap_congr fun m hm => ?_
  have hmem : m ∈ k.moments := hms.subset (List.mem_reverse.mp hm)
  exact Moment.handedTo_eq_handedFor (h.descriptors hkept m hmem)

namespace Session

variable {e : Evaluator} {ops : List Operation} {i : Nat}

/-- The result of an evaluation that was not interrupted is that of its run. -/
theorem result_eq_of_returned {ended : Ended} {result : Evaluation.Result}
    (hk : course e ops i = some k) (hended : k.progress = .ended ended)
    (hresult : ((ofEvaluator e).performAll ops).stage i = .returned result)
    (huninterrupted : ∀ reason, result ≠ .error (.ofInterrupt reason)) : result = ended.result := by
  obtain ⟨-, k', ended', -, hk', -, hended', rfl⟩ :=
    exists_ended_of_returned hresult huninterrupted
  obtain rfl := Option.some.inj (hk.symm.trans hk')
  rw [Progress.ended.inj (hended.symm.trans hended')]

/-- The run of an evaluation whose guest hands over one buffer with every write. At every moment, as
things stand now and so in the end, each of the two output streams holds the first of the bytes that
were handed over to it, up to the capacity. While the guest does not redirect descriptors, these are
the bytes that it handed over for descriptor 1 and for descriptor 2. Another run, of whatever guest,
that hands over the same bytes to each stream, cut into writes in whatever way, and ends in the same
way, has the same result, if neither is interrupted. -/
theorem captures_handed (e : Evaluator) (ops : List Operation) (i : Nat) (k : Course)
    (hk : course e ops i = some k) (hone : ∀ m ∈ k.moments, m.HandsOne e.host.guest) :
    (∀ s, s ≠ .input →
      (∀ m ms, m :: ms <:+ k.moments → (m.resources.captured s).content.toList =
        (handedTo e.host.guest s ms).take e.host.options.maxOutputBytes) ∧
      k.progress.captured s =
        (handedTo e.host.guest s k.moments).take e.host.options.maxOutputBytes) ∧
    ((∀ m ∈ k.moments, ¬ m.Redirects e.host.guest) → ∀ ms, ms <:+ k.moments →
      handedTo e.host.guest .output ms = handedFor e.host.guest 1 ms ∧
        handedTo e.host.guest .error ms = handedFor e.host.guest 2 ms) ∧
    ∀ e' ops' i' k', course e' ops' i' = some k' →
      (∀ m ∈ k'.moments, m.HandsOne e'.host.guest) →
      e'.host.options.maxOutputBytes = e.host.options.maxOutputBytes →
      (∀ s, s ≠ .input →
        handedTo e'.host.guest s k'.moments = handedTo e.host.guest s k.moments) →
      ∀ ended ended' way, k.progress = .ended ended → k'.progress = .ended ended' →
        Ends ended.outcome way → Ends ended'.outcome way →
      ∀ result result', ((ofEvaluator e).performAll ops).stage i = .returned result →
        ((ofEvaluator e').performAll ops').stage i' = .returned result' →
        (∀ reason, result ≠ .error (.ofInterrupt reason)) →
        (∀ reason, result' ≠ .error (.ofInterrupt reason)) → result = result' := by
  have hcaptured {e : Evaluator} {ops : List Operation} {i : Nat} {k : Course}
      (hk : course e ops i = some k) (hone : ∀ m ∈ k.moments, m.HandsOne e.host.guest)
      {s : Stream} (hs : s ≠ .input) :
      (∀ m ms, m :: ms <:+ k.moments → (m.resources.captured s).content.toList =
        (handedTo e.host.guest s ms).take e.host.options.maxOutputBytes) ∧
      k.progress.captured s =
        (handedTo e.host.guest s k.moments).take e.host.options.maxOutputBytes := by
    obtain ⟨r, -, hof⟩ := exists_run_of_course hk
    obtain ⟨hheld, hholds⟩ := hof.holdsStreams hs hone
    exact ⟨fun m ms hms => (congrArg (·.content.toList) (hheld m ms hms)).trans toList_firstHanded,
      hholds.captured_eq⟩
  refine ⟨fun s hs => hcaptured hk hone hs, fun hkept ms hms => ?_, ?_⟩
  · obtain ⟨r, -, hof⟩ := exists_run_of_course hk
    exact ⟨hof.handedTo_eq_handedFor hkept hms .output, hof.handedTo_eq_handedFor hkept hms .error⟩
  · intro e' ops' i' k' hk' hone' hcapacity hsame ended ended' way hended hended' hway hway' result
      result' hresult hresult' huninterrupted huninterrupted'
    have hstream {s : Stream} (hs : s ≠ .input) : ended.captured s = ended'.captured s := by
      have hleft := (hcaptured hk hone hs).2
      have hright := (hcaptured hk' hone' hs).2
      rw [hsame s hs, hcapacity, hended'] at hright
      rw [hended] at hleft
      exact hleft.trans hright.symm
    have hstdout : ended.stdout = ended'.stdout := hstream (s := .output) nofun
    have hstderr : ended.stderr = ended'.stderr := hstream (s := .error) nofun
    rw [result_eq_of_returned hk hended hresult huninterrupted,
      result_eq_of_returned hk' hended' hresult' huninterrupted', Ended.result, Ended.result,
      hway.classify_eq, hway'.classify_eq, hstdout, hstderr]

/-! ### Two guests that write the same -/

/-- A guest that writes two digits to the standard output and then two letters to the standard
error. -/
def atOnce : List UInt8 :=
  [0x00, 0x61, 0x73, 0x6d, 0x01, 0x00, 0x00, 0x00, 0x01, 0x0c, 0x02, 0x60, 0x04, 0x7f, 0x7f, 0x7f,
   0x7f, 0x01, 0x7f, 0x60, 0x00, 0x00, 0x02, 0x23, 0x01, 0x16, 0x77, 0x61, 0x73, 0x69, 0x5f, 0x73,
   0x6e, 0x61, 0x70, 0x73, 0x68, 0x6f, 0x74, 0x5f, 0x70, 0x72, 0x65, 0x76, 0x69, 0x65, 0x77, 0x31,
   0x08, 0x66, 0x64, 0x5f, 0x77, 0x72, 0x69, 0x74, 0x65, 0x00, 0x00, 0x03, 0x02, 0x01, 0x01, 0x05,
   0x03, 0x01, 0x00, 0x01, 0x07, 0x0a, 0x01, 0x06, 0x6d, 0x65, 0x6d, 0x6f, 0x72, 0x79, 0x02, 0x00,
   0x08, 0x01, 0x01, 0x0a, 0x1a, 0x01, 0x18, 0x00, 0x41, 0x01, 0x41, 0x00, 0x41, 0x01, 0x41, 0x28,
   0x10, 0x00, 0x1a, 0x41, 0x02, 0x41, 0x08, 0x41, 0x01, 0x41, 0x28, 0x10, 0x00, 0x1a, 0x0b, 0x0b,
   0x2a, 0x01, 0x00, 0x41, 0x00, 0x0b, 0x24, 0x20, 0x00, 0x00, 0x00, 0x02, 0x00, 0x00, 0x00, 0x22,
   0x00, 0x00, 0x00, 0x02, 0x00, 0x00, 0x00, 0x00, 0x00, 0x00, 0x00, 0x00, 0x00, 0x00, 0x00, 0x00,
   0x00, 0x00, 0x00, 0x00, 0x00, 0x00, 0x00, 0x31, 0x32, 0x6e, 0x6f]

/-- A guest that writes the letters first and then the digits one by one. -/
def oneByOne : List UInt8 :=
  [0x00, 0x61, 0x73, 0x6d, 0x01, 0x00, 0x00, 0x00, 0x01, 0x0c, 0x02, 0x60, 0x04, 0x7f, 0x7f, 0x7f,
   0x7f, 0x01, 0x7f, 0x60, 0x00, 0x00, 0x02, 0x23, 0x01, 0x16, 0x77, 0x61, 0x73, 0x69, 0x5f, 0x73,
   0x6e, 0x61, 0x70, 0x73, 0x68, 0x6f, 0x74, 0x5f, 0x70, 0x72, 0x65, 0x76, 0x69, 0x65, 0x77, 0x31,
   0x08, 0x66, 0x64, 0x5f, 0x77, 0x72, 0x69, 0x74, 0x65, 0x00, 0x00, 0x03, 0x02, 0x01, 0x01, 0x05,
   0x03, 0x01, 0x00, 0x01, 0x07, 0x0a, 0x01, 0x06, 0x6d, 0x65, 0x6d, 0x6f, 0x72, 0x79, 0x02, 0x00,
   0x08, 0x01, 0x01, 0x0a, 0x25, 0x01, 0x23, 0x00, 0x41, 0x02, 0x41, 0x00, 0x41, 0x01, 0x41, 0x28,
   0x10, 0x00, 0x1a, 0x41, 0x01, 0x41, 0x08, 0x41, 0x01, 0x41, 0x28, 0x10, 0x00, 0x1a, 0x41, 0x01,
   0x41, 0x10, 0x41, 0x01, 0x41, 0x28, 0x10, 0x00, 0x1a, 0x0b, 0x0b, 0x2a, 0x01, 0x00, 0x41, 0x00,
   0x0b, 0x24, 0x22, 0x00, 0x00, 0x00, 0x02, 0x00, 0x00, 0x00, 0x20, 0x00, 0x00, 0x00, 0x01, 0x00,
   0x00, 0x00, 0x21, 0x00, 0x00, 0x00, 0x01, 0x00, 0x00, 0x00, 0x00, 0x00, 0x00, 0x00, 0x00, 0x00,
   0x00, 0x00, 0x31, 0x32, 0x6e, 0x6f]

/-- A guest that closes descriptor 1 and writes a digit for it all the same. -/
def closing : List UInt8 :=
  [0x00, 0x61, 0x73, 0x6d, 0x01, 0x00, 0x00, 0x00, 0x01, 0x11, 0x03, 0x60, 0x04, 0x7f, 0x7f, 0x7f,
   0x7f, 0x01, 0x7f, 0x60, 0x01, 0x7f, 0x01, 0x7f, 0x60, 0x00, 0x00, 0x02, 0x45, 0x02, 0x16, 0x77,
   0x61, 0x73, 0x69, 0x5f, 0x73, 0x6e, 0x61, 0x70, 0x73, 0x68, 0x6f, 0x74, 0x5f, 0x70, 0x72, 0x65,
   0x76, 0x69, 0x65, 0x77, 0x31, 0x08, 0x66, 0x64, 0x5f, 0x77, 0x72, 0x69, 0x74, 0x65, 0x00, 0x00,
   0x16, 0x77, 0x61, 0x73, 0x69, 0x5f, 0x73, 0x6e, 0x61, 0x70, 0x73, 0x68, 0x6f, 0x74, 0x5f, 0x70,
   0x72, 0x65, 0x76, 0x69, 0x65, 0x77, 0x31, 0x08, 0x66, 0x64, 0x5f, 0x63, 0x6c, 0x6f, 0x73, 0x65,
   0x00, 0x01, 0x03, 0x02, 0x01, 0x02, 0x05, 0x03, 0x01, 0x00, 0x01, 0x07, 0x0a, 0x01, 0x06, 0x6d,
   0x65, 0x6d, 0x6f, 0x72, 0x79, 0x02, 0x00, 0x08, 0x01, 0x02, 0x0a, 0x14, 0x01, 0x12, 0x00, 0x41,
   0x01, 0x10, 0x01, 0x1a, 0x41, 0x01, 0x41, 0x00, 0x41, 0x01, 0x41, 0x08, 0x10, 0x00, 0x1a, 0x0b,
   0x0b, 0x17, 0x01, 0x00, 0x41, 0x00, 0x0b, 0x11, 0x10, 0x00, 0x00, 0x00, 0x01, 0x00, 0x00, 0x00,
   0x00, 0x00, 0x00, 0x00, 0x00, 0x00, 0x00, 0x00, 0x32]

/-- Whether a run has completed with a number, and has handed over these bytes to the two output
streams, in one buffer with every write. -/
def completesWith (output error : List UInt8) (h : Host) : Bool :=
  isNumber (((ofEvaluator (onePage h)).performAll wholeRun).stage 0) &&
    (course (onePage h) wholeRun 0).any fun k =>
      decide (∀ m ∈ k.moments, m.HandsOne h.guest) &&
      (handedTo h.guest .output k.moments == output && handedTo h.guest .error k.moments == error &&
      match k.progress with
      | .ended ended => ended.outcome.ending == .completed
      | .running _ => false)

theorem of_completesWith {output error : List UInt8} {h : Host}
    (hrun : completesWith output error h) :
    ∃ n k ended, ((ofEvaluator (onePage h)).performAll wholeRun).stage 0 =
        .returned (.ok (.number n)) ∧
      course (onePage h) wholeRun 0 = some k ∧ (∀ m ∈ k.moments, m.HandsOne h.guest) ∧
      (∀ s, s ≠ .input → handedTo h.guest s k.moments = if s = .output then output else error) ∧
      k.progress = .ended ended ∧ Ends ended.outcome .completed := by
  simp only [completesWith, Bool.and_eq_true, Option.any_eq_true, decide_eq_true_eq, beq_iff_eq]
    at hrun
  obtain ⟨hnumber, k, hk, hone, ⟨hout, herr⟩, hended⟩ := hrun
  unfold isNumber at hnumber
  split at hnumber
  next n hstage =>
    split at hended
    next ended hprogress =>
      refine ⟨n, k, ended, hstage, hk, hone, fun s hs => ?_, hprogress,
        Evaluation.ends_iff.mpr (beq_iff_eq.mp hended).symm⟩
      cases s with
      | input => exact absurd rfl hs
      | output => exact hout
      | error => exact herr
    next => cases hended
  next => cases hnumber

theorem options_of_compile {image : List UInt8} {options : Options} {h : Host}
    (hh : Host.compile image options = .ok h) : h.options = options := by
  unfold Host.compile at hh
  cases hguest : Guest.compile image with
  | error e =>
    rw [hguest] at hh
    cases hh
  | ok g =>
    rw [hguest] at hh
    obtain rfl := Except.ok.inj hh
    rfl

set_option maxRecDepth 100000 in
theorem exists_sameOutput : ∃ h h', Host.compile atOnce ⟨1, 1, 1000⟩ = .ok h ∧
    Host.compile oneByOne ⟨1, 1, 1000⟩ = .ok h' ∧
    completesWith [0x31, 0x32] [0x6e, 0x6f] h ∧ completesWith [0x31, 0x32] [0x6e, 0x6f] h' := by
  -- evaluated together, as the page of memory that they have is the costly part
  have hruns : ([atOnce, oneByOne].all fun image =>
      (Host.compile image ⟨1, 1, 1000⟩).toOption.any
        (completesWith [0x31, 0x32] [0x6e, 0x6f])) = true := by decide +kernel
  have hrun := List.all_eq_true.mp hruns
  have hleft := hrun atOnce (by simp)
  have hright := hrun oneByOne (by simp)
  obtain ⟨h, hh, hrun⟩ := exists_compiled hleft
  obtain ⟨h', hh', hrun'⟩ := exists_compiled hright
  exact ⟨h, h', hh, hh', hrun, hrun'⟩

/-- With space for one byte on each stream, both guests have the first digit as their value. -/
theorem captures_handed_oneByOne : ∃ h h' n, Host.compile atOnce ⟨1, 1, 1000⟩ = .ok h ∧
    Host.compile oneByOne ⟨1, 1, 1000⟩ = .ok h' ∧
    ((ofEvaluator (onePage h)).performAll wholeRun).stage 0 = .returned (.ok (.number n)) ∧
    ((ofEvaluator (onePage h')).performAll wholeRun).stage 0 = .returned (.ok (.number n)) := by
  obtain ⟨h, h', hh, hh', hrun, hrun'⟩ := exists_sameOutput
  obtain ⟨n, k, ended, hstage, hk, hone, hbytes, hended, hway⟩ := of_completesWith hrun
  obtain ⟨n', k', ended', hstage', hk', hone', hbytes', hended', hway'⟩ := of_completesWith hrun'
  have hcapacity : h'.options.maxOutputBytes = h.options.maxOutputBytes := by
    rw [options_of_compile hh, options_of_compile hh']
  obtain ⟨-, -, hsame⟩ := captures_handed (onePage h) wholeRun 0 k hk hone
  have hresult := hsame (onePage h') wholeRun 0 k' hk' hone' hcapacity
    (fun s hs => (hbytes' s hs).trans (hbytes s hs).symm) ended ended' .completed hended hended'
    hway hway' _ _ hstage hstage' nofun nofun
  obtain rfl : n = n' := by
    simpa using hresult
  exact ⟨h, h', n, hh, hh', hstage, hstage'⟩

set_option maxRecDepth 100000 in
/-- Bytes handed over for descriptor 1 may go nowhere. -/
theorem not_forall_handedFor : ¬ ∀ (e : Evaluator) (ops : List Operation) (i : Nat) (k : Course)
    (ended : Ended), course e ops i = some k → (∀ m ∈ k.moments, m.HandsOne e.host.guest) →
      k.progress = .ended ended →
      ended.stdout = (handedFor e.host.guest 1 k.moments).take e.host.options.maxOutputBytes := by
  intro hall
  have hrun : (Host.compile closing ⟨1, 1, 1000⟩).toOption.any (fun h =>
      (course (onePage h) wholeRun 0).any fun k =>
        decide (∀ m ∈ k.moments, m.HandsOne h.guest) &&
        match k.progress with
        | .ended ended => ended.stdout !=
            (handedFor h.guest 1 k.moments).take h.options.maxOutputBytes
        | .running _ => false) = true := by decide +kernel
  obtain ⟨h, -, hrun⟩ := exists_compiled hrun
  simp only [Bool.and_eq_true, Option.any_eq_true, decide_eq_true_eq] at hrun
  obtain ⟨k, hk, hone, hended⟩ := hrun
  split at hended
  next ended hprogress =>
    exact absurd (hall (onePage h) wholeRun 0 k ended hk hone hprogress) (bne_iff_ne.mp hended)
  next => cases hended

end Session

end ScriptSandbox.Sandbox
