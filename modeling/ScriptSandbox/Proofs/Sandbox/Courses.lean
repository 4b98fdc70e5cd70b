import ScriptSandbox.Proofs.Sandbox.Moments
import ScriptSandbox.Sandbox.Session

/-!
# Courses of runs

The course of a run is the sequence of its moments. A run that goes on for a while goes on step by
step, and may have to wait in between. So what holds of all courses is shown for their beginning and
for one step.

## Main definitions

* `Sandbox.Course`: the moments of a run up to some time, and how it goes on
* `Sandbox.Course.begun`, `Sandbox.Course.go`, `Sandbox.Course.runUntil`: its beginning, one more
  step, and all steps up to a point in time
* `Sandbox.Course.Of`: the courses that the runs of a guest can take

## Main results

* `Sandbox.Progress.runUntil_running`: a run that has time goes on by one step
* `Sandbox.Course.progress_runUntil`: a course follows the run up to a point in time
-/

namespace ScriptSandbox.Sandbox

variable {c : Settings} {g : Guest} {limit time : Nat}

/-! ### Single steps -/

theorem afterStep_next (r : Wasi.Resources) (starting : Bool) (clock : Nat) (s : Wasm.State) :
    afterStep c g r starting clock (.next s) = .running ⟨s, r, starting, clock⟩ := by
  cases starting with
  | true => rfl
  | false => rfl

theorem run_fst_le (p : Wasm.Program) (n : Nat) (s : Wasm.State) : (Wasm.run p n s).1 ≤ n := by
  induction n generalizing s with
  | zero => exact Nat.le_refl 0
  | succ n ih =>
    unfold Wasm.run
    split
    next => exact Nat.le_succ_of_le (ih _)
    next => exact Nat.le_succ n

theorem run_succ_fst_le (p : Wasm.Program) (n : Nat) (s : Wasm.State) :
    (Wasm.run p (n + 1) s).1 ≤ n := by
  unfold Wasm.run
  split
  next => exact run_fst_le p n _
  next => exact Nat.le_refl n

namespace Instance

/-- The moment after one more step. -/
def moment (g : Guest) (i : Instance) : Moment :=
  ⟨i.resources, i.starting, i.clock + stepTime, Wasm.step g.program i.state⟩

theorem advance_zero (i : Instance) : i.advance c g 0 = .running i :=
  afterStep_next _ _ _ _

/-- A step after which the machine runs on is followed by the steps that are left. -/
theorem advance_succ_of_next {i : Instance} {state : Wasm.State}
    (h : Wasm.step g.program i.state = .next state) (n : Nat) :
    i.advance c g (n + 1) = advance c g n { i with state, clock := i.clock + stepTime } := by
  have hle := run_fst_le g.program n state
  have hrun : Wasm.run g.program (n + 1) i.state = Wasm.run g.program n state := by
    rw [Wasm.run, h]
  have hclock : i.clock + stepTime * (n + 1 - (Wasm.run g.program n state).1) =
      i.clock + stepTime + stepTime * (n - (Wasm.run g.program n state).1) := by
    rw [Nat.succ_sub hle, Nat.mul_succ]
    omega
  unfold advance
  simp only [hrun, hclock]

/-- After any other step, the run goes on otherwise or has ended. -/
theorem advance_succ_of_not_next {i : Instance}
    (h : ∀ state, Wasm.step g.program i.state ≠ .next state) (n : Nat) :
    i.advance c g (n + 1) = (i.moment g).progress c g := by
  have hrun : Wasm.run g.program (n + 1) i.state = (n, Wasm.step g.program i.state) := by
    rw [Wasm.run]
    split
    next state hstep => exact absurd hstep (h state)
    next => rfl
  unfold advance Moment.progress moment
  simp only [hrun, Nat.add_sub_cancel_left, Nat.mul_one]

theorem progress_moment_of_next {i : Instance} {state : Wasm.State}
    (h : Wasm.step g.program i.state = .next state) :
    (i.moment g).progress c g = .running { i with state, clock := i.clock + stepTime } := by
  unfold Moment.progress moment
  rw [h]
  exact afterStep_next _ _ _ _

/-- Whatever happens up to the next call of a host function takes time. -/
theorem lt_clock_advance (n : Nat) (i : Instance) : i.clock < (i.advance c g (n + 1)).clock := by
  have hle := run_succ_fst_le g.program n i.state
  have hpos : 0 < stepTime * (n + 1 - (Wasm.run g.program (n + 1) i.state).1) :=
    Nat.mul_pos (by decide) (by omega)
  -- what is left to do then is what a moment does
  exact Nat.lt_of_lt_of_le (Nat.lt_add_of_pos_right hpos)
    (Moment.le_clock_progress ⟨i.resources, i.starting, _, _⟩)

end Instance

namespace Progress

@[simp] theorem advance_ended (fuel : Nat) (e : Ended) :
    advance c g limit fuel (.ended e) = .ended e := by
  cases fuel with
  | zero => rfl
  | succ fuel => rfl

theorem advance_of_le {i : Instance} (h : limit ≤ i.clock) (fuel : Nat) :
    advance c g limit fuel (.running i) = .running i := by
  cases fuel with
  | zero => rfl
  | succ fuel => exact if_pos h

theorem advance_of_lt {i : Instance} (h : i.clock < limit) (fuel : Nat) :
    advance c g limit (fuel + 1) (.running i) =
      advance c g limit fuel (i.advance c g ((limit - i.clock - 1) / stepTime + 1)) :=
  if_neg (Nat.not_le.mpr h)

/-- Any two amounts of fuel that are enough do the same. -/
theorem advance_eq_advance {fuel fuel' : Nat} {p : Progress} (h : limit - p.clock ≤ fuel)
    (h' : limit - p.clock ≤ fuel') : p.advance c g limit fuel = p.advance c g limit fuel' := by
  induction fuel generalizing p fuel' with
  | zero =>
    cases p with
    | ended e => rw [advance_ended, advance_ended]
    | running i =>
      have hle : limit ≤ i.clock := Nat.le_of_sub_eq_zero (Nat.le_zero.mp h)
      rw [advance_of_le hle, advance_of_le hle]
  | succ fuel ih =>
    cases p with
    | ended e => rw [advance_ended, advance_ended]
    | running i =>
      rcases Nat.lt_or_ge i.clock limit with hlt | hle
      · change limit - i.clock ≤ fuel + 1 at h
        change limit - i.clock ≤ fuel' at h'
        obtain ⟨fuel', rfl⟩ : ∃ n, fuel' = n + 1 := ⟨fuel' - 1, by omega⟩
        rw [advance_of_lt hlt, advance_of_lt hlt]
        -- what is run takes time, so that less fuel is needed afterwards
        have htime := i.lt_clock_advance (c := c) (g := g) ((limit - i.clock - 1) / stepTime)
        exact ih (by omega) (by omega)
      · rw [advance_of_le hle, advance_of_le hle]

theorem runUntil_ended (e : Ended) : runUntil c g limit (.ended e) = .ended e := advance_ended _ e

theorem runUntil_of_le {i : Instance} (h : limit ≤ i.clock) :
    runUntil c g limit (.running i) = .running i := advance_of_le h _

theorem advance_eq_runUntil {fuel : Nat} {p : Progress} (h : limit - p.clock ≤ fuel) :
    p.advance c g limit fuel = p.runUntil c g limit := advance_eq_advance h (Nat.le_refl _)

theorem runUntil_of_lt {i : Instance} (h : i.clock < limit) :
    runUntil c g limit (.running i) =
      runUntil c g limit (i.advance c g ((limit - i.clock - 1) / stepTime + 1)) := by
  obtain ⟨fuel, hfuel⟩ : ∃ n, limit - i.clock = n + 1 := ⟨limit - i.clock - 1, by omega⟩
  have htime := i.lt_clock_advance (c := c) (g := g) ((limit - i.clock - 1) / stepTime)
  change advance c g limit (limit - i.clock) (.running i) = _
  rw [hfuel, advance_of_lt h, advance_eq_runUntil (by omega), ← hfuel]

/-- A run that has time goes on by one step, and then up to the same point in time. -/
theorem runUntil_running {i : Instance} (h : i.clock < limit) :
    runUntil c g limit (.running i) = runUntil c g limit ((i.moment g).progress c g) := by
  rw [runUntil_of_lt h]
  by_cases hnext : ∃ state, Wasm.step g.program i.state = .next state
  · obtain ⟨state, hstate⟩ := hnext
    rw [Instance.advance_succ_of_next hstate, Instance.progress_moment_of_next hstate]
    rcases Nat.lt_or_ge (i.clock + stepTime) limit with hlt | hle
    · -- one of the steps up to the next call has been made
      have hsteps : (limit - i.clock - 1) / stepTime =
          (limit - (i.clock + stepTime) - 1) / stepTime + 1 := by
        unfold stepTime at hlt ⊢
        omega
      rw [runUntil_of_lt hlt, hsteps]
    · have hsteps : (limit - i.clock - 1) / stepTime = 0 := by
        unfold stepTime at hle ⊢
        omega
      rw [hsteps, Instance.advance_zero]
  · rw [Instance.advance_succ_of_not_next (not_exists.mp hnext)]

end Progress

/-! ### Courses -/

/-- The moments of a run so far, the latest first, and how it goes on. -/
structure Course where
  moments : List Moment
  progress : Progress

namespace Course

variable {k : Course} {source : List UInt8}

/-- The first moment of a run: the start section is called, or else `_start`. -/
def first? (c : Settings) (g : Guest) (source : List UInt8) (clock : Nat) : Option Moment :=
  let r := Wasi.Resources.fresh source c.maxOutputBytes
  match Wasm.instantiate g.module c.pageLimit with
  | .error _ => none
  | .ok store =>
    match g.module.start with
    | some f => some ⟨r, true, clock, Wasm.invoke g.program store f []⟩
    | none => startCall? g r clock store

/-- A moment, behind the call of `_start` if that comes at once. -/
def withNext (g : Guest) (m : Moment) : List Moment := (m.next? g).toList ++ [m]

/-- The beginning of a run. -/
def begun (c : Settings) (g : Guest) (source : List UInt8) (clock : Nat) : Course where
  moments := (first? c g source clock).toList.flatMap (withNext g)
  progress := Instance.create c g source clock

/-- One more step, unless the run has ended. -/
def go (c : Settings) (g : Guest) (k : Course) : Course :=
  match k.progress with
  | .ended _ => k
  | .running i => ⟨withNext g (i.moment g) ++ k.moments, (i.moment g).progress c g⟩

/-- A run goes on at some time or later. -/
def wait (time : Nat) (k : Course) : Course :=
  { k with progress := Session.awaken time k.progress }

/-- Steps until the run has ended or the time `limit` has come, at most as many as there is fuel. -/
def advance (c : Settings) (g : Guest) (limit : Nat) : (fuel : Nat) → Course → Course
  | 0, k => k
  | fuel + 1, k =>
    match k.progress with
    | .ended _ => k
    | .running i => if limit ≤ i.clock then k else advance c g limit fuel (k.go c g)

/-- All steps until the run has ended or the time `limit` has come. Every step takes time. -/
def runUntil (c : Settings) (g : Guest) (limit : Nat) (k : Course) : Course :=
  k.advance c g limit (limit - k.progress.clock)

/-- The courses that the runs of a guest can take. -/
inductive Of (c : Settings) (g : Guest) (source : List UInt8) : Course → Prop
  | begun (clock : Nat) : Of c g source (begun c g source clock)
  | go {k : Course} (h : Of c g source k) : Of c g source (k.go c g)
  | wait (time : Nat) {k : Course} (h : Of c g source k) : Of c g source (k.wait time)

theorem go_of_running {i : Instance} (h : k.progress = .running i) :
    k.go c g = ⟨withNext g (i.moment g) ++ k.moments, (i.moment g).progress c g⟩ := by
  rw [go, h]

theorem go_of_ended {e : Ended} (h : k.progress = .ended e) : k.go c g = k := by rw [go, h]

theorem advance_of_ended {e : Ended} (h : k.progress = .ended e) (fuel : Nat) :
    k.advance c g limit fuel = k := by
  cases fuel with
  | zero => rfl
  | succ fuel => rw [advance, h]

/-- A step takes time, so that less fuel is needed afterwards. -/
theorem sub_clock_go_le {i : Instance} {fuel : Nat} (hp : k.progress = .running i)
    (h : limit - i.clock ≤ fuel + 1) : limit - (k.go c g).progress.clock ≤ fuel := by
  have htime : i.clock + stepTime ≤ ((i.moment g).progress c g).clock :=
    (i.moment g).le_clock_progress
  rw [go_of_running hp]
  dsimp only
  unfold stepTime at htime
  omega

/-- A course follows the run up to a point in time. -/
theorem progress_advance {fuel : Nat} (h : limit - k.progress.clock ≤ fuel) :
    (k.advance c g limit fuel).progress = k.progress.runUntil c g limit := by
  induction fuel generalizing k with
  | zero =>
    cases hp : k.progress with
    | ended e => rw [advance, hp, Progress.runUntil_ended]
    | running i =>
      rw [hp] at h
      rw [advance, hp, Progress.runUntil_of_le (Nat.le_of_sub_eq_zero (Nat.le_zero.mp h))]
  | succ fuel ih =>
    cases hp : k.progress with
    | ended e => rw [advance_of_ended hp, hp, Progress.runUntil_ended]
    | running i =>
      rw [hp] at h
      simp only [advance, hp]
      split_ifs with hle
      · rw [Progress.runUntil_of_le hle, hp]
      · rw [Progress.runUntil_running (Nat.not_le.mp hle), ih (sub_clock_go_le hp h),
          go_of_running hp]

theorem progress_runUntil (k : Course) :
    (k.runUntil c g limit).progress = k.progress.runUntil c g limit :=
  progress_advance (Nat.le_refl _)

theorem Of.advance (h : k.Of c g source) (limit fuel : Nat) :
    (k.advance c g limit fuel).Of c g source := by
  induction fuel generalizing k with
  | zero => exact h
  | succ fuel ih =>
    unfold Course.advance
    split
    next => exact h
    next =>
      split_ifs
      · exact h
      · exact ih h.go

theorem Of.runUntil (h : k.Of c g source) (limit : Nat) : (k.runUntil c g limit).Of c g source :=
  h.advance limit _

/-! ### Repeated steps -/

theorem suffix_go (k : Course) : k.moments <:+ (k.go c g).moments := by
  cases hp : k.progress with
  | ended e =>
    have hsame : k.go c g = k := go_of_ended hp
    exact hsame.symm ▸ List.suffix_refl _
  | running i =>
    rw [go_of_running hp]
    exact List.suffix_append _ _

theorem suffix_iterate (k : Course) (n : Nat) : k.moments <:+ ((go c g)^[n] k).moments := by
  induction n with
  | zero => exact List.suffix_refl _
  | succ n ih =>
    rw [Function.iterate_succ_apply']
    exact ih.trans (suffix_go _)

theorem Of.iterate (h : k.Of c g source) (n : Nat) :
    ((Course.go c g)^[n] k).Of c g source := by
  induction n with
  | zero => exact h
  | succ n ih =>
    rw [Function.iterate_succ_apply']
    exact ih.go

theorem iterate_of_ended {e : Ended} (h : k.progress = .ended e) (n : Nat) :
    (go c g)^[n] k = k := Function.iterate_fixed (go_of_ended h) n

/-- All steps up to a point in time are some number of single steps, after which the run has ended
or the time has come. -/
theorem exists_iterate_advance {fuel : Nat} (h : limit - k.progress.clock ≤ fuel) :
    ∃ n, k.advance c g limit fuel = (go c g)^[n] k ∧
      ∀ i, ((go c g)^[n] k).progress = .running i → limit ≤ i.clock := by
  induction fuel generalizing k with
  | zero =>
    refine ⟨0, rfl, fun i hi => ?_⟩
    have hclock : k.progress.clock = i.clock := congrArg Progress.clock hi
    omega
  | succ fuel ih =>
    cases hp : k.progress with
    | ended e =>
      refine ⟨0, advance_of_ended hp _, fun i hi => ?_⟩
      rw [Function.iterate_zero_apply, hp] at hi
      cases hi
    | running i =>
      rw [hp] at h
      simp only [advance, hp]
      split_ifs with hle
      · refine ⟨0, rfl, fun i' hi' => ?_⟩
        rw [Function.iterate_zero_apply, hp] at hi'
        obtain rfl := Progress.running.inj hi'
        exact hle
      · obtain ⟨n, hn, hlimit⟩ := ih (sub_clock_go_le hp h)
        exact ⟨n + 1, hn, hlimit⟩

theorem exists_iterate_runUntil (k : Course) (limit : Nat) :
    ∃ n, k.runUntil c g limit = (go c g)^[n] k ∧
      ∀ i, ((go c g)^[n] k).progress = .running i → limit ≤ i.clock :=
  exists_iterate_advance (Nat.le_refl _)

/-- No step leads back in time. -/
theorem le_clock_go (k : Course) : k.progress.clock ≤ (k.go c g).progress.clock := by
  cases hp : k.progress with
  | ended e => rw [go_of_ended hp, hp]
  | running i =>
    have htime : i.clock + stepTime ≤ ((i.moment g).progress c g).clock :=
      (i.moment g).le_clock_progress
    rw [go_of_running hp]
    exact Nat.le_trans (Nat.le_add_right _ _) htime

theorem le_clock_iterate (k : Course) (n : Nat) :
    k.progress.clock ≤ ((go c g)^[n] k).progress.clock := by
  induction n with
  | zero => exact Nat.le_refl _
  | succ n ih =>
    rw [Function.iterate_succ_apply']
    exact Nat.le_trans ih (le_clock_go _)

/-- A run that has ended ended once. -/
theorem ended_unique {n n' : Nat} {e e' : Ended} (h : ((go c g)^[n] k).progress = .ended e)
    (h' : ((go c g)^[n'] k).progress = .ended e') : (go c g)^[n] k = (go c g)^[n'] k := by
  rw [← iterate_of_ended h n', ← iterate_of_ended h' n, ← Function.iterate_add_apply,
    ← Function.iterate_add_apply, Nat.add_comm]

/-! ### Deadlines -/

theorem mem_withNext (g : Guest) (m : Moment) : m ∈ withNext g m :=
  List.mem_append_right _ (List.mem_singleton_self m)

theorem clock_of_mem_withNext {m m' : Moment} (h : m' ∈ withNext g m) : m'.clock = m.clock := by
  rcases List.mem_append.mp h with hnext | hlast
  · exact Moment.clock_of_next? (Option.mem_toList.mp hnext)
  · rw [List.mem_singleton.mp hlast]

/-- All steps of a run were begun before a deadline. -/
structure Timely (k : Course) (deadline : Nat) : Prop where
  pos : 0 < deadline
  clock : ∀ m ∈ k.moments, m.clock < deadline + stepTime

theorem clock_of_first? {clock : Nat} {m : Moment} (h : first? c g source clock = some m) :
    m.clock = clock := by
  unfold first? at h
  dsimp only at h
  split at h
  next => cases h
  next =>
    split at h
    next => rw [← Option.some.inj h]
    next => exact Moment.clock_of_startCall? h

theorem timely_begun {clock deadline : Nat} (h : clock < deadline) :
    (begun c g source clock).Timely deadline := by
  refine ⟨Nat.zero_lt_of_lt h, fun m hm => ?_⟩
  obtain ⟨first, hfirst, hm⟩ := List.mem_flatMap.mp hm
  rw [clock_of_mem_withNext hm, clock_of_first? (Option.mem_toList.mp hfirst)]
  exact Nat.lt_add_right _ h

theorem Timely.go {deadline : Nat} (h : k.Timely deadline)
    (htime : ∀ i, k.progress = .running i → i.clock < deadline) : (k.go c g).Timely deadline := by
  cases hp : k.progress with
  | ended e =>
    rw [go_of_ended hp]
    exact h
  | running i =>
    rw [go_of_running hp]
    refine ⟨h.pos, fun m hm => ?_⟩
    rcases List.mem_append.mp hm with hm | hm
    · rw [clock_of_mem_withNext hm]
      exact Nat.add_lt_add_right (htime i hp) stepTime
    · exact h.clock m hm

theorem Timely.advance {deadline : Nat} (h : k.Timely deadline) (hle : limit ≤ deadline)
    (fuel : Nat) : (k.advance c g limit fuel).Timely deadline := by
  induction fuel generalizing k with
  | zero => exact h
  | succ fuel ih =>
    unfold Course.advance
    split
    next => exact h
    next i hp =>
      split_ifs with hlimit
      · exact h
      · refine ih (h.go fun i' hp' => ?_)
        obtain rfl := Progress.running.inj (hp.symm.trans hp')
        exact Nat.lt_of_lt_of_le (Nat.not_le.mp hlimit) hle

/-- What a run does in some number of steps that are all begun before a deadline, it has done by
then. -/
theorem Timely.suffix_runUntil {n deadline : Nat} (h : ((Course.go c g)^[n] k).Timely deadline)
    (hle : deadline ≤ limit) :
    ((Course.go c g)^[n] k).moments <:+ (k.runUntil c g limit).moments ∧
      ∀ e, ((Course.go c g)^[n] k).progress = .ended e →
        k.runUntil c g limit = (Course.go c g)^[n] k := by
  obtain ⟨n', hn', hlimit⟩ := exists_iterate_runUntil (c := c) (g := g) k limit
  rw [hn']
  rcases Nat.lt_or_ge n' n with hlt | hge
  · -- fewer steps than these are only made by a run that ends with them
    obtain ⟨d, rfl⟩ := Nat.exists_eq_add_of_le' hlt
    rw [Function.iterate_add_apply, Function.iterate_succ_apply'] at h ⊢
    generalize (Course.go c g)^[n'] k = k' at *
    cases hp : k'.progress with
    | ended e =>
      rw [go_of_ended hp, iterate_of_ended hp d]
      exact ⟨List.suffix_refl _, fun _ _ => rfl⟩
    | running i =>
      have hmem : i.moment g ∈ ((Course.go c g)^[d] (k'.go c g)).moments := by
        refine (suffix_iterate _ d).subset ?_
        rw [go_of_running hp]
        exact List.mem_append_left _ (mem_withNext g _)
      have hclock : i.clock + stepTime < deadline + stepTime := h.clock _ hmem
      have hcome : limit ≤ i.clock := hlimit i hp
      omega
  · obtain ⟨d, rfl⟩ := Nat.exists_eq_add_of_le' hge
    rw [Function.iterate_add_apply]
    exact ⟨suffix_iterate _ d, fun e he => iterate_of_ended he d⟩

/-! ### What holds of all courses -/

section

variable {P : List Moment → Progress → Prop} {Q : Moment → List Moment → Prop}

/-- From what holds when a moment comes behind earlier ones, to what holds of them all and of the
way on. -/
theorem of_withNext (hnext : ∀ m m' ms, Q m ms → m.next? g = some m' → Q m' (m :: ms))
    (hlast : ∀ m ms, Q m ms → m.next? g = none → P (m :: ms) (m.progress c g)) {m : Moment}
    {ms : List Moment} (h : Q m ms) : P (withNext g m ++ ms) (m.progress c g) := by
  unfold withNext
  cases hm : m.next? g with
  | none => exact hlast m ms h hm
  | some m' =>
    obtain ⟨store, results, f, -, -, hm', hprogress⟩ := Moment.of_next?_eq_some (c := c) hm
    rw [hprogress]
    exact hlast m' (m :: ms) (hnext m m' ms h hm)
      (Moment.next?_eq_none_of_not_starting (by rw [hm']))

/-- A run begins with its first moment, or ends without one. -/
theorem create_of_first? (c : Settings) (g : Guest) (source : List UInt8) (clock : Nat) :
    match first? c g source clock with
    | some m => Instance.create c g source clock = m.progress c g
    | none => ∃ outcome, MachineOutcome outcome ∧ Instance.create c g source clock =
        endRun (.fresh source c.maxOutputBytes) clock outcome := by
  unfold first? Instance.create
  dsimp only
  cases Wasm.instantiate g.module c.pageLimit with
  | error e => exact ⟨_, .failed _ _, rfl⟩
  | ok store =>
    cases g.module.start with
    | some f => rfl
    | none =>
      dsimp only
      cases hm : startCall? g (.fresh source c.maxOutputBytes) clock store with
      | some m =>
        obtain ⟨-, -, hcall⟩ := Moment.of_startCall?_eq_some (c := c) hm
        exact hcall
      | none => exact Moment.callStart_of_startCall?_eq_none hm

/-- At the first moment, nothing but the instantiation of the guest has happened. -/
theorem of_first?_eq_some {clock : Nat} {m : Moment} (h : first? c g source clock = some m) :
    ∃ store f, Wasm.instantiate g.module c.pageLimit = .ok store ∧
      m.resources = .fresh source c.maxOutputBytes ∧
      m.step = Wasm.invoke g.program store f [] := by
  unfold first? at h
  dsimp only at h
  split at h
  next => cases h
  next store hstore =>
    split at h
    next f hstart =>
      obtain rfl := Option.some.inj h
      exact ⟨store, f, hstore, rfl, rfl⟩
    next =>
      obtain ⟨f, rfl, -⟩ := Moment.of_startCall?_eq_some (c := c) h
      exact ⟨store, f, hstore, rfl, rfl⟩

/-- No run begins before its time. -/
theorem le_clock_begun (c : Settings) (g : Guest) (source : List UInt8) (clock : Nat) :
    clock ≤ (begun c g source clock).progress.clock := by
  have hcreate := create_of_first? c g source clock
  unfold begun
  dsimp only
  cases hm : first? c g source clock with
  | none =>
    rw [hm] at hcreate
    obtain ⟨outcome, -, hcreate⟩ := hcreate
    rw [hcreate]
    exact Nat.le_refl clock
  | some m =>
    rw [hm] at hcreate
    rw [hcreate, ← clock_of_first? hm]
    exact m.le_clock_progress

theorem le_clock_iterate_begun (clock n : Nat) :
    clock ≤ ((Course.go c g)^[n] (begun c g source clock)).progress.clock :=
  Nat.le_trans (le_clock_begun c g source clock) (le_clock_iterate _ n)

/-- In a run that does not wait, no moment comes after the present. -/
theorem clock_le_of_mem_iterate {clock n : Nat} {m : Moment}
    (hm : m ∈ ((Course.go c g)^[n] (begun c g source clock)).moments) :
    m.clock ≤ ((Course.go c g)^[n] (begun c g source clock)).progress.clock := by
  induction n with
  | zero =>
    obtain ⟨first, hfirst, hm⟩ := List.mem_flatMap.mp hm
    rw [clock_of_mem_withNext hm, clock_of_first? (Option.mem_toList.mp hfirst)]
    exact le_clock_begun c g source clock
  | succ n ih =>
    rw [Function.iterate_succ_apply'] at hm ⊢
    generalize (Course.go c g)^[n] (begun c g source clock) = k at hm ih ⊢
    have htime : k.progress.clock ≤ (k.go c g).progress.clock := le_clock_go k
    cases hp : k.progress with
    | ended e =>
      rw [go_of_ended hp] at hm ⊢
      exact ih hm
    | running i =>
      rw [go_of_running hp] at hm htime ⊢
      rcases List.mem_append.mp hm with hm | hm
      · rw [clock_of_mem_withNext hm]
        exact (i.moment g).le_clock_progress
      · exact Nat.le_trans (ih hm) htime

/-- What holds of the first moment, and is kept by every step and while a run waits, holds of all
courses. -/
theorem Of.induct (h : k.Of c g source)
    (hnone : ∀ clock outcome, MachineOutcome outcome →
      P [] (endRun (.fresh source c.maxOutputBytes) clock outcome))
    (hfirst : ∀ clock m, first? c g source clock = some m → Q m [])
    (hnext : ∀ m m' ms, Q m ms → m.next? g = some m' → Q m' (m :: ms))
    (hlast : ∀ m ms, Q m ms → m.next? g = none → P (m :: ms) (m.progress c g))
    (hgo : ∀ i ms, P ms (.running i) → Q (i.moment g) ms)
    (hwait : ∀ i ms clock, P ms (.running i) → P ms (.running { i with clock })) :
    P k.moments k.progress := by
  induction h with
  | begun clock =>
    have hcreate := create_of_first? c g source clock
    unfold Course.begun
    cases hm : first? c g source clock with
    | none =>
      rw [hm] at hcreate
      obtain ⟨outcome, houtcome, hcreate⟩ := hcreate
      rw [hcreate]
      exact hnone clock outcome houtcome
    | some m =>
      rw [hm] at hcreate
      have hP : P (withNext g m ++ []) (m.progress c g) :=
        of_withNext hnext hlast (hfirst clock m hm)
      simpa [hcreate] using hP
  | @go k _ ih =>
    cases hp : k.progress with
    | ended e =>
      rw [go_of_ended hp]
      exact ih
    | running i =>
      rw [go_of_running hp]
      rw [hp] at ih
      exact of_withNext hnext hlast (hgo i k.moments ih)
  | @wait time k _ ih =>
    unfold Course.wait
    cases hp : k.progress with
    | ended e =>
      rw [hp] at ih
      exact ih
    | running i =>
      rw [hp] at ih
      exact hwait i k.moments _ ih

end

end Course

end ScriptSandbox.Sandbox
