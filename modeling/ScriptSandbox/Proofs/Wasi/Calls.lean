import ScriptSandbox.Proofs.Wasi.Actions
import ScriptSandbox.Wasi.Call

/-!
# What calls of host functions depend on and change

What a host function does is determined by the memory, the streams and the descriptors of a process.
Only readings of clocks, waits for a time of a clock and random bytes depend on anything else. No
call changes the size of the memory, only writes to a stream change what is captured of it, and only
two functions change the descriptors.

## Main definitions

* `Wasi.Function.Observes`: a call may depend on the clock or on random bytes
* `Wasi.Function.WritesTo`: a call writes to a stream
* `Wasi.Function.Redirects`: a function changes descriptors
* `Wasi.Resources.captured`: what is captured of a stream

## Main results

* `Wasi.alike_call`: related processes stay related
* `Wasi.extent_of_call`, `Wasi.captured_of_call`, `Wasi.le_clock_of_call`,
  `Wasi.descriptors_of_call`: what a call leaves as it is
* `Wasi.alike_call_of_not_observes`: a call that does not observe the clock does not depend on it
-/

namespace ScriptSandbox.Wasi

open Wasm (Memory Value)

variable {R : Process → Process → Prop} {p p' : Process} {w w' : World} {f : Function}
  {args : List Value}

/-! ### Observations -/

/-- Whether a request is for a time of a clock. -/
def Request.isAbsolute : Request → Bool
  | .time _ _ absolute => absolute
  | .readable _ | .writable _ => false

/-- A call reads a clock, waits for a time of a clock, or draws random bytes. -/
def Function.Observes (f : Function) (args : List Value) (p : Process) : Prop :=
  match f, args with
  | .clockTimeGet, _ | .randomGet, _ => True
  | .pollOneoff, [.i32 start, _, .i32 count, _] =>
    ∃ k < count.toNat, ∃ s q,
      (subscription (start.toNat + k * subscriptionBytes)).run p = .ok (.ok s, q) ∧
        s.request.isAbsolute
  | _, _ => False

/-- A call writes to a stream, under whatever descriptor. -/
def Function.WritesTo (f : Function) (args : List Value) (p : Process) (s : Stream) : Prop :=
  match f, args with
  | .fdWrite, [.i32 fd, .i32 _, .i32 _, .i32 _] => p.descriptors.lookup fd.toNat = some s
  | _, _ => False

/-- A function closes descriptors or gives them other numbers. -/
def Function.Redirects (f : Function) : Prop := f = .fdClose ∨ f = .fdRenumber

/-- What is captured of a stream. Nothing is of the input. -/
def Resources.captured (r : Resources) : Stream → Capture
  | .input => ⟨0, #[]⟩
  | .output => r.output
  | .error => r.error

/-- The process with something else captured of a stream. -/
def Process.capture (p : Process) (s : Stream) (c : Capture) : Process :=
  match s with
  | .input => p
  | .output => { p with output := c }
  | .error => { p with error := c }

theorem captured_capture_self {s : Stream} {c : Capture} (h : s ≠ .input) :
    (p.capture s c).captured s = c := by
  cases s with
  | input => exact absurd rfl h
  | output => rfl
  | error => rfl

theorem captured_capture_of_ne {s s' : Stream} {c : Capture} (h : s ≠ s') :
    (p.capture s c).captured s' = p.captured s' := by
  match s, s' with
  | .input, _ => rfl
  | .output, .input | .output, .error => rfl
  | .error, .input | .error, .output => rfl
  | .output, .output | .error, .error => exact absurd rfl h

/-- Related processes stay related when they get the same descriptors. -/
def SetsDescriptors (R : Process → Process → Prop) : Prop :=
  ∀ {p p'} (descriptors : List (Nat × Stream)), R p p' →
    R { p with descriptors } { p' with descriptors }

/-- Related processes have the same time and have drawn the same random bytes. -/
structure SeesTime (R : Process → Process → Prop) : Prop where
  clock : ∀ {p p'}, R p p' → p'.clock = p.clock
  drawn : ∀ {p p'}, R p p' → p'.drawn = p.drawn
  setDrawn : ∀ {p p'} (drawn : Nat), R p p' → R { p with drawn } { p' with drawn }

namespace Action

/-! ### Input and output -/

theorem relates_readInput (hR : Frame R) (fd list count result : UInt32) :
    Relates R (readInput fd list count result) (readInput fd list count result) := by
  refine (relates_stream hR.toSees fd).bind fun s => (relates_guard _ _).bind fun _ => ?_
  refine (relates_buffer hR.toSees list count).bind fun r => relates_get_bind fun p p' h => ?_
  rw [hR.unread h]
  dsimp only
  split_ifs with hend hempty
  · exact relates_pure _ p p' h
  · exact relates_throw _ p p' h
  · refine Relates.bind (relates_modify ?_) (fun _ => ?_) p p' h
    · intro q q' hq
      exact hR.setUnread _ hq
    · exact (relates_writeAll hR _ _).bind fun _ => relates_pure _

theorem relates_closeDescriptor (hR : Sees R) (hD : SetsDescriptors R) (fd : UInt32) :
    Relates R (closeDescriptor fd) (closeDescriptor fd) := by
  refine (relates_stream hR fd).bind fun _ => relates_modify fun p p' h => ?_
  rw [hR.descriptors h]
  exact hD _ h

theorem relates_moveDescriptor (hR : Sees R) (hD : SetsDescriptors R) (fd to_ : UInt32) :
    Relates R (moveDescriptor fd to_) (moveDescriptor fd to_) := by
  refine (relates_stream hR fd).bind fun s => relates_modify fun p p' h => ?_
  rw [hR.descriptors h]
  exact hD _ h

theorem relates_describeDescriptor (hR : Sees R) (fd result : UInt32) :
    Relates R (describeDescriptor fd result) (describeDescriptor fd result) :=
  (relates_stream hR fd).bind fun _ => relates_pure _

theorem relates_describeFile (hR : Sees R) (fd result : UInt32) :
    Relates R (describeFile fd result) (describeFile fd result) :=
  (relates_stream hR fd).bind fun _ => relates_pure _

theorem relates_refuseOpen (hR : Sees R) (fd : UInt32) (e : Errno) :
    Relates R (refuseOpen fd e) (refuseOpen fd e) :=
  (relates_stream hR fd).bind fun _ => relates_throw _

theorem relates_refuseStream (hR : Sees R) (fd : UInt32) (select : Stream → Bool) (e : Errno) :
    Relates R (refuseStream fd select e) (refuseStream fd select e) :=
  (relates_stream hR fd).bind fun _ => relates_throw _

theorem Relates.silently {a a' : Action Unit} (ha : Relates R a a') :
    Relates R (silently a) (silently a') := ha.bind fun _ => relates_pure _

/-! ### Clocks and random numbers -/

theorem relates_clock (id : UInt32) : Relates R (clock id) (clock id) := by
  unfold clock
  split
  · exact relates_throw _
  · exact (relates_guard _ _).bind fun _ => relates_pure _

theorem relates_clockResolution (id result : UInt32) :
    Relates R (clockResolution id result) (clockResolution id result) :=
  (relates_clock id).bind fun _ => relates_pure _

/-- Processes with the same time see it on every clock. -/
theorem now_congr (h : p'.clock = p.clock) (c : Clock) : c.now w p' = c.now w p := by
  cases c <;> simp only [Clock.now, h]

theorem relates_readClock (hR : SeesTime R) (id result : UInt32) :
    Relates R (readClock w id result) (readClock w id result) := by
  refine (relates_clock id).bind fun c => relates_get_bind fun p p' h => ?_
  rw [now_congr (hR.clock h)]
  exact relates_pure _ p p' h

theorem relates_drawRandom (hR : Frame R) (hT : SeesTime R) (start length : UInt32) :
    Relates R (drawRandom w start length) (drawRandom w start length) := by
  unfold drawRandom
  split_ifs
  · exact relates_pure ()
  · refine (relates_memory hR.toSees (checkRegion · _)).bind fun _ => ?_
    refine relates_get_bind fun p p' h => ?_
    rw [hT.drawn h]
    refine Relates.bind (relates_modify ?_) (fun _ => ?_) p p' h
    · intro q q' hq
      exact hT.setDrawn _ hq
    · exact relates_writeAll hR _ _

/-! ### Waiting -/

theorem relates_timeRequest (hR : Sees R) (address : Nat) :
    Relates R (timeRequest address) (timeRequest address) := by
  refine (relates_read hR _ _).bind fun id => ?_
  split
  · refine (relates_read hR _ _).bind fun timeout => (relates_read hR _ _).bind fun _ => ?_
    refine (relates_read hR _ _).bind fun flags => ?_
    exact (relates_code _ _).bind fun _ => relates_pure _
  · exact relates_throw _

theorem relates_subscription (hR : Sees R) (address : Nat) :
    Relates R (subscription address) (subscription address) := by
  refine (relates_ofPointer _).bind fun _ => (relates_read hR _ _).bind fun mark => ?_
  refine (relates_read hR _ _).bind fun kind => (relates_code _ _).bind fun _ => ?_
  split
  · exact (relates_timeRequest hR _).bind fun _ => relates_pure _
  · exact (relates_read hR _ _).bind fun _ => relates_pure _

theorem relates_checkStream (hR : Sees R) (r : Request) :
    Relates R r.checkStream r.checkStream := by
  cases r with
  | time => exact relates_pure ()
  | readable fd => exact (relates_stream hR fd).bind fun _ => relates_guard _ _
  | writable fd => exact (relates_stream hR fd).bind fun _ => relates_guard _ _

/-- Only a request for a time of a clock depends on what time it is. -/
theorem relates_delay (hR : Sees R) (r : Request)
    (hT : r.isAbsolute = true → w' = w ∧ ∀ {p p'}, R p p' → p'.clock = p.clock) :
    Relates R (r.delay w) (r.delay w') := by
  cases r with
  | time c timeout absolute =>
    refine (relates_guard _ _).bind fun _ => relates_get_bind fun p p' h => ?_
    cases absolute with
    | true =>
      obtain ⟨rfl, hclock⟩ := hT rfl
      dsimp only
      rw [now_congr (hclock h)]
      exact relates_pure _ p p' h
    | false => exact relates_pure _ p p' h
  | readable fd => exact (relates_checkStream hR _).bind fun _ => relates_pure _
  | writable fd => exact (relates_checkStream hR _).bind fun _ => relates_pure _

/-- Looking at subscriptions leaves processes as they are. -/
theorem alike_delays (hR : Sees R) (h : R p p') {address count : Nat}
    (hT : ∀ k < count, ∀ s q,
      (subscription (address + k * subscriptionBytes)).run p = .ok (.ok s, q) →
        s.request.isAbsolute → w' = w ∧ SeesTime R) :
    Alike (Only p p') ((delays w address count).run p) ((delays w' address count).run p') := by
  induction count generalizing address with
  | zero => exact relates_pure _ p p' ⟨rfl, rfl⟩
  | succ n ih =>
    refine alike_bind (relates_subscription (hR.only h) address p p' ⟨rfl, rfl⟩) id ?_
    intro s q q' hs hq
    obtain ⟨rfl, rfl⟩ := hq
    have hdelay : Relates (Only q q') (s.request.delay w) (s.request.delay w') := by
      refine relates_delay (hR.only h) _ fun habsolute => ?_
      obtain ⟨hw, hclock⟩ := hT 0 (Nat.zero_lt_succ n) s _ (by simpa using hs) habsolute
      refine ⟨hw, ?_⟩
      rintro _ _ ⟨rfl, rfl⟩
      exact hclock.clock h
    have hrest : Relates (Only q q') (delays w (address + subscriptionBytes) n)
        (delays w' (address + subscriptionBytes) n) := by
      rintro _ _ ⟨rfl, rfl⟩
      refine ih fun k hk s q hs => hT (k + 1) (Nat.succ_lt_succ hk) s q ?_
      rwa [Nat.succ_mul, Nat.add_comm (k * _), ← Nat.add_assoc]
    exact (hdelay.bind fun _ => hrest.bind fun _ => relates_pure _) _ _ ⟨rfl, rfl⟩

theorem relates_writeEvents (hR : Frame R) (subscriptions events : Nat) (elapsed : List Bool) :
    Relates R (writeEvents subscriptions events elapsed)
      (writeEvents subscriptions events elapsed) := by
  induction elapsed generalizing subscriptions events with
  | nil => exact relates_pure ()
  | cons due elapsed ih =>
    cases due with
    | false => exact ih _ _
    | true =>
      refine (relates_subscription hR.toSees _).bind fun s => (relates_ofPointer _).bind fun _ => ?_
      refine (relates_checkStream hR.toSees _).bind fun _ => ?_
      exact (relates_writeFields hR _ _).bind fun _ => ih _ _

theorem alike_awaitEvents (hR : Frame R) (h : R p p') {start events count result : UInt32}
    (hT : Function.pollOneoff.Observes [.i32 start, .i32 events, .i32 count, .i32 result] p →
      w' = w ∧ SeesTime R) :
    Alike R ((awaitEvents w start events count result).run p)
      ((awaitEvents w' start events count result).run p') := by
  have hdelays : Alike (Only p p') ((delays w start.toNat count.toNat).run p)
      ((delays w' start.toNat count.toNat).run p') :=
    alike_delays hR.toSees h fun k hk s q hs habsolute => hT ⟨k, hk, s, q, hs, habsolute⟩
  refine alike_bind (relates_guard _ _ p p' ⟨rfl, rfl⟩) (Only.rel h) fun _ q q' _ hq => ?_
  obtain ⟨rfl, rfl⟩ := hq
  refine alike_bind hdelays (Only.rel h) fun ds q q' _ hq => ?_
  -- from here on, what is done is the same whatever the time
  refine Relates.bind (relates_modify fun q q' hq => hR.wait _ hq) (fun _ => ?_) q q' (hq.rel h)
  exact (relates_writeEvents hR _ _ _).bind fun _ => relates_pure _

/-! ### Output -/

theorem run_stream (fd : UInt32) (p : Process) : (stream fd).run p =
    match p.descriptors.lookup fd.toNat with
    | some s => .ok (.ok s, p)
    | none => .ok (.error .badDescriptor, p) := by
  change (match p.descriptors.lookup fd.toNat with
    | some s => pure s
    | none => throw .badDescriptor : Action Stream).run p = _
  cases p.descriptors.lookup fd.toNat with
  | some s => rfl
  | none => rfl

theorem relates_writeTo (hR : Frame R) (s : Stream) (bytes : List UInt8)
    (hW : ∀ {p p'} (c : Capture), R p p' → R (p.capture s c) (p'.capture s c)) :
    Relates R (modifyGet (·.writeTo s bytes)) (modifyGet (·.writeTo s bytes)) := by
  refine relates_modifyGet fun p p' h => ?_
  cases s with
  | input => exact ⟨rfl, h⟩
  | output =>
    dsimp only [Process.writeTo]
    rw [hR.output h]
    exact ⟨rfl, hW _ h⟩
  | error =>
    dsimp only [Process.writeTo]
    rw [hR.error h]
    exact ⟨rfl, hW _ h⟩

theorem alike_writeOutput (hR : Frame R) (h : R p p') {fd list count result : UInt32}
    (hW : ∀ s, p.descriptors.lookup fd.toNat = some s → ∀ {p p'} (c : Capture), R p p' →
      R (p.capture s c) (p'.capture s c)) :
    Alike R ((writeOutput fd list count result).run p)
      ((writeOutput fd list count result).run p') := by
  refine alike_bind (relates_stream (hR.toSees.only h) fd p p' ⟨rfl, rfl⟩) (Only.rel h) ?_
  intro s q q' hs hq
  have hs' : p.descriptors.lookup fd.toNat = some s := by
    rw [run_stream] at hs
    split at hs
    next s' hlookup =>
      obtain ⟨hanswer, -⟩ := Prod.mk.inj (Except.ok.inj hs)
      rw [hlookup, Except.ok.inj hanswer]
    next => cases hs
  refine Relates.bind (relates_guard _ _) (fun _ => ?_) q q' (hq.rel h)
  refine (relates_buffer hR.toSees list count).bind fun r => ?_
  split
  · exact relates_pure _
  · refine (relates_bytes hR.toSees _).bind fun bytes => ?_
    refine (relates_writeTo hR s bytes (hW s hs')).bind fun _ => ?_
    exact (relates_guard _ _).bind fun _ => relates_pure _

/-! ### All functions -/

/-- What a host function does: one case for every kind of function. -/
theorem alike_run (hR : Frame R) (h : R p p')
    (hD : f.Redirects → SetsDescriptors R)
    (hT : f.Observes args p → w' = w ∧ SeesTime R)
    (hW : ∀ s, f.WritesTo args p s → ∀ {p p'} (c : Capture), R p p' →
      R (p.capture s c) (p'.capture s c)) :
    Alike R ((f.run w args).run p) ((f.run w' args).run p') := by
  have hS := hR.toSees
  unfold Function.run
  split
  next => exact relates_readInput hR _ _ _ _ p p' h
  next => exact alike_writeOutput hR h hW
  next => exact relates_pure _ p p' h
  next => exact relates_pure _ p p' h
  next => exact relates_pure _ p p' h
  next => exact relates_pure _ p p' h
  next => exact relates_pure _ p p' h
  next => exact relates_clockResolution _ _ p p' h
  next =>
    obtain ⟨rfl, hclock⟩ := hT trivial
    exact relates_readClock hclock _ _ p p' h
  next =>
    obtain ⟨rfl, hdrawn⟩ := hT trivial
    exact (relates_drawRandom hR hdrawn _ _).silently p p' h
  next => exact alike_awaitEvents hR h hT
  next => exact (relates_closeDescriptor hS (hD (.inl rfl)) _).silently p p' h
  next => exact (relates_moveDescriptor hS (hD (.inr rfl)) _ _).silently p p' h
  next => exact relates_describeDescriptor hS _ _ p p' h
  next => exact relates_describeFile hS _ _ p p' h
  next => exact ((relates_guard _ _).bind fun _ => relates_throw _) p p' h
  next => exact ((relates_guard _ _).bind fun _ => relates_throw _) p p' h
  next => exact relates_refuseOpen hS _ _ p p' h
  next => exact relates_refuseOpen hS _ _ p p' h
  next => exact relates_refuseStream hS _ _ _ p p' h
  next => exact relates_refuseStream hS _ _ _ p p' h
  next => exact relates_refuseOpen hS _ _ p p' h
  next => exact relates_refuseOpen hS _ _ p p' h
  next => exact relates_refuseOpen hS _ _ p p' h
  next => exact relates_refuseOpen hS _ _ p p' h
  next => exact relates_refuseOpen hS _ _ p p' h
  next => exact relates_throw _ p p' h
  next => exact relates_abort _ p p' h
  next => exact ((relates_text hS _).bind fun _ => relates_throw _) p p' h
  next => exact relates_throw _ p p' h

end Action

open Action

/-- The results of a host function are written to memory, which stays as large as it was. -/
theorem extent_of_writeOutputs {outputs : List Output} {m m' : Memory}
    (h : f.writeOutputs outputs m = .ok m') : m'.extent = m.extent := by
  refine rel_of_foldlM_eq_ok (R := fun m m' : Memory => m'.extent = m.extent)
    (fun _ => rfl) (fun _ _ _ h h' => h'.trans h) (fun m o m' ho => ?_) h
  cases hw : writeRecord o.address o.fields m with
  | ok m₁ =>
    rw [hw] at ho
    rw [← Except.ok.inj ho, extent_of_writeRecord hw]
  | error e =>
    rw [hw] at ho
    cases ho

theorem alike_call (hR : Frame R) (h : R p p')
    (hD : f.Redirects → SetsDescriptors R)
    (hT : f.Observes args p → w' = w ∧ SeesTime R)
    (hW : ∀ s, f.WritesTo args p s → ∀ {p p'} (c : Capture), R p p' →
      R (p.capture s c) (p'.capture s c)) :
    Alike R (call w f args p) (call w' f args p') := by
  unfold call
  cases f.checkArguments args with
  | error a => exact .aborted a
  | ok =>
    have hrun := alike_run hR h hD hT hW
    change Alike R ((f.run w args).run p >>= _) ((f.run w' args).run p' >>= _)
    generalize (f.run w args).run p = r, (f.run w' args).run p' = r' at hrun
    cases hrun with
    | aborted a => exact .aborted a
    | answered x hq =>
      cases x with
      | error e => exact .answered _ hq
      | ok outputs =>
        dsimp only [bind, Except.bind]
        rw [hR.memory hq]
        cases hm : f.writeOutputs outputs _ with
        | error a => exact .aborted a
        | ok m => exact .answered _ (hR.setMemory m hq (extent_of_writeOutputs hm))

/-! ### What a call leaves as it is -/

/-- A process is only related to itself, if it has a property. -/
def Keeping (I : Process → Prop) (p p' : Process) : Prop := p' = p ∧ I p

/-- A property that no call takes away, except for changes of descriptors and for what it writes to
the output streams. -/
structure Kept (I : Process → Prop) : Prop where
  memory : ∀ {p : Process} (m : Memory), I p → m.extent = p.memory.extent →
    I { p with memory := m }
  unread : ∀ {p : Process} (unread : List UInt8), I p → I { p with unread }
  clock : ∀ {p : Process} (delay : Nat), I p → I { p with clock := p.clock + delay }
  drawn : ∀ {p : Process} (drawn : Nat), I p → I { p with drawn }

theorem Alike.of_eq_ok {α : Type} {I : Process → Prop} {r : Except Abort (α × Process)} {x : α}
    {q : Process} (h : Alike (Keeping I) r r) (hr : r = .ok (x, q)) : I q := by
  rw [hr] at h
  cases h with
  | answered _ hq => exact hq.2

namespace Kept

variable {I : Process → Prop}

theorem frame (hI : Kept I) : Frame (Keeping I) where
  memory h := by rw [h.1]
  unread h := by rw [h.1]
  output h := by rw [h.1]
  error h := by rw [h.1]
  descriptors h := by rw [h.1]
  setMemory m h hm := ⟨by rw [h.1], hI.memory m h.2 hm⟩
  setUnread unread h := ⟨by rw [h.1], hI.unread unread h.2⟩
  wait delay h := ⟨by rw [h.1], hI.clock delay h.2⟩

theorem seesTime (hI : Kept I) : SeesTime (Keeping I) where
  clock h := by rw [h.1]
  drawn h := by rw [h.1]
  setDrawn drawn h := ⟨by rw [h.1], hI.drawn drawn h.2⟩

section

variable (hI : Kept I)
  (hD : f.Redirects → ∀ {p : Process} (descriptors : List (Nat × Stream)), I p →
    I { p with descriptors })
  (hW : ∀ s, f.WritesTo args p s → ∀ {p : Process} (c : Capture), I p → I (p.capture s c))
  (hp : I p)
include hI hD hW hp

/-- The action of a host function is related to itself. -/
theorem of_run {x : Except Errno (List Output)} {q : Process}
    (h : (f.run w args).run p = .ok (x, q)) : I q := by
  refine (alike_run hI.frame ⟨rfl, hp⟩ (fun hf => ?_) (fun _ => ⟨rfl, hI.seesTime⟩) ?_).of_eq_ok h
  · intro p p' descriptors h
    exact ⟨by rw [h.1], hD hf descriptors h.2⟩
  · intro s hwrites p p' c h
    exact ⟨by rw [h.1], hW s hwrites c h.2⟩

/-- A call on a process is related to itself. -/
theorem of_call {results : List Value} {q : Process} (h : call w f args p = .ok (results, q)) :
    I q := by
  refine (alike_call hI.frame ⟨rfl, hp⟩ (fun hf => ?_) (fun _ => ⟨rfl, hI.seesTime⟩) ?_).of_eq_ok h
  · intro p p' descriptors h
    exact ⟨by rw [h.1], hD hf descriptors h.2⟩
  · intro s hwrites p p' c h
    exact ⟨by rw [h.1], hW s hwrites c h.2⟩

end

end Kept

section

variable {results : List Value} {q : Process} {s : Stream}

/-- No call changes the size of the memory or how large it may become. -/
theorem extent_of_call (h : call w f args p = .ok (results, q)) :
    q.memory.extent = p.memory.extent := by
  have hkept : Kept fun q => q.memory.extent = p.memory.extent :=
    ⟨fun _ hq hm => hm.trans hq, fun _ => id, fun _ => id, fun _ => id⟩
  refine hkept.of_call (fun _ _ _ => id) (fun s _ p c hp => ?_) rfl h
  cases s <;> exact hp

/-- No call takes time back. -/
theorem le_clock_of_call (h : call w f args p = .ok (results, q)) : p.clock ≤ q.clock := by
  have hkept : Kept fun q => p.clock ≤ q.clock :=
    ⟨fun _ hq _ => hq, fun _ => id, fun delay hq => Nat.le_add_right_of_le hq, fun _ => id⟩
  refine hkept.of_call (fun _ _ _ => id) (fun s _ p c hp => ?_) (Nat.le_refl _) h
  cases s <;> exact hp

theorem kept_captured (c : Capture) (s : Stream) : Kept fun q => q.captured s = c :=
  ⟨fun _ hq _ => hq, fun _ => id, fun _ => id, fun _ => id⟩

theorem captured_capture_of_not_writesTo (hW : ¬ f.WritesTo args p s) {s' : Stream}
    (hwrites : f.WritesTo args p s') {p' : Process} (c : Capture) :
    (p'.capture s' c).captured s = p'.captured s :=
  captured_capture_of_ne fun heq => hW (heq ▸ hwrites)

/-- Only writes to a stream change what is captured of it. -/
theorem captured_of_call (hW : ¬ f.WritesTo args p s) (h : call w f args p = .ok (results, q)) :
    q.captured s = p.captured s := by
  refine (kept_captured (p.captured s) s).of_call (fun _ _ _ => id) (fun s' hwrites p' c hp => ?_)
    rfl h
  rwa [captured_capture_of_not_writesTo hW hwrites]

/-- So do the actions of host functions. -/
theorem captured_of_run {x : Except Errno (List Output)} (hW : ¬ f.WritesTo args p s)
    (h : (f.run w args).run p = .ok (x, q)) : q.captured s = p.captured s := by
  refine (kept_captured (p.captured s) s).of_run (fun _ _ _ => id) (fun s' hwrites p' c hp => ?_)
    rfl h
  rwa [captured_capture_of_not_writesTo hW hwrites]

/-- Only two functions change the descriptors. -/
theorem descriptors_of_call (hf : ¬ f.Redirects) (h : call w f args p = .ok (results, q)) :
    q.descriptors = p.descriptors := by
  have hkept : Kept fun q => q.descriptors = p.descriptors :=
    ⟨fun _ hq _ => hq, fun _ => id, fun _ => id, fun _ => id⟩
  refine hkept.of_call (fun hredirects => absurd hredirects hf) (fun s _ p c hp => ?_) rfl h
  cases s <;> exact hp

end

/-! ### What a call depends on -/

/-- The second process is the same as the first one, but it may be earlier. -/
structure SameButEarlier (p p' : Process) : Prop where
  resources : p'.toResources = p.toResources
  memory : p'.memory = p.memory
  clock : p'.clock ≤ p.clock

theorem frame_sameButEarlier : Frame SameButEarlier where
  memory h := h.memory
  unread h := congrArg (·.unread) h.resources
  output h := congrArg (·.output) h.resources
  error h := congrArg (·.error) h.resources
  descriptors h := congrArg (·.descriptors) h.resources
  setMemory _ h _ := ⟨h.resources, rfl, h.clock⟩
  setUnread unread h := ⟨congrArg ({ · with unread }) h.resources, h.memory, h.clock⟩
  wait delay h := ⟨h.resources, h.memory, Nat.add_le_add_right h.clock delay⟩

theorem setsDescriptors_sameButEarlier : SetsDescriptors SameButEarlier :=
  fun descriptors h => ⟨congrArg ({ · with descriptors }) h.resources, h.memory, h.clock⟩

theorem SameButEarlier.capture (h : SameButEarlier p p') (s : Stream) (c : Capture) :
    SameButEarlier (p.capture s c) (p'.capture s c) := by
  cases s with
  | input => exact h
  | output => exact ⟨congrArg ({ · with output := c }) h.resources, h.memory, h.clock⟩
  | error => exact ⟨congrArg ({ · with error := c }) h.resources, h.memory, h.clock⟩

/-- A call that does not observe clocks or random bytes does not depend on them. What is earlier
stays so. -/
theorem alike_call_of_not_observes (hobs : ¬ f.Observes args p) (h : SameButEarlier p p') :
    Alike SameButEarlier (call w f args p) (call w' f args p') :=
  alike_call frame_sameButEarlier h (fun _ => setsDescriptors_sameButEarlier)
    (fun hobserves => absurd hobserves hobs) fun s _ _ _ c h => h.capture s c

/-- Nor does what it leaves behind. -/
theorem leftBehind_of_not_observes (hobs : ¬ f.Observes args p) (h : SameButEarlier p p') :
    leftBehind w' f args p' = leftBehind w f args p := by
  have hrun : Alike SameButEarlier ((f.run w args).run p) ((f.run w' args).run p') :=
    alike_run frame_sameButEarlier h (fun _ => setsDescriptors_sameButEarlier)
      (fun hobserves => absurd hobserves hobs) fun s _ _ _ c h => h.capture s c
  unfold leftBehind
  cases f.checkArguments args with
  | error a => exact h.resources
  | ok =>
    generalize (f.run w args).run p = r, (f.run w' args).run p' = r' at hrun
    cases hrun with
    | aborted a => exact h.resources
    | answered x hq => exact hq.resources

end ScriptSandbox.Wasi
