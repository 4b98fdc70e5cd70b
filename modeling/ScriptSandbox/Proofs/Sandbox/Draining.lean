import ScriptSandbox.Proofs.Sandbox.Deployments
import ScriptSandbox.Proofs.Sandbox.Histories

/-!
# Shutdowns under way

While a host is shut down, evaluations go on, and instances come and go between the looks of the
shutdown. It succeeds only when it sees that there are none. When it gives up, it counts the
instances once more, and those that it saw at its last look may have been released since.

## Main definitions

* `Sandbox.Deployment.Looks`: a shutdown is about to look at the instances
* `Sandbox.Deployment.Looked`: a shutdown has looked, and there were some

## Main results

* `Sandbox.Deployment.attends_moveAll`: a shutdown that waits has looked
* `Sandbox.Deployment.exists_moves_eq_shutdown`: a shutdown alone is a sequence of its steps
* `Sandbox.Deployment.answers`: what a shutdown comes to
* `Sandbox.Deployment.not_forall_one_le`: a shutdown may give up although no instance is left
-/

namespace ScriptSandbox.Sandbox

/-! ### Growing ledgers -/

theorem owners_append (c : Change) (es es' : List Entry) :
    owners c (es ++ es') = owners c es ++ owners c es' := by
  rw [owners, List.filter_append, List.map_append, owners, owners]

/-- No operation removes entries from the ledger. -/
theorem Session.Effect.suffix {s s' : Session} {i : Nat} (h : Session.Effect i s s') :
    s.ledger.entries <:+ s'.ledger.entries := by
  cases h with
  | quiet hledger | moved _ hledger => exact hledger ▸ List.suffix_refl _
  | created _ _ hledger | released _ hledger =>
    rw [hledger]
    exact List.suffix_cons _ _

namespace Deployment

variable {d : Deployment} {e : Evaluator} {moves : List Move}

theorem ledger_settle (d : Deployment) : d.settle.session.ledger = d.session.ledger := by
  unfold settle
  cases d.answer? with
  | some r => rfl
  | none => rfl

theorem suffix_operate (d : Deployment) (op : Operation) :
    d.session.ledger.entries <:+ (d.operate op).session.ledger.entries := by
  unfold operate
  split_ifs
  · obtain ⟨i, heffect⟩ := d.session.effect_perform op
    exact heffect.suffix
  · exact List.suffix_refl _

theorem suffix_move (d : Deployment) (m : Move) :
    d.session.ledger.entries <:+ (d.move m).session.ledger.entries := by
  cases m with
  | operate op => exact d.suffix_operate op
  | settle => exact d.ledger_settle ▸ List.suffix_refl _
  | lend | giveBack | employ | duplicate | dismiss | close =>
    dsimp only [move]
    split_ifs
    · exact List.suffix_refl _
    · exact List.suffix_refl _

theorem suffix_moveAll (d : Deployment) (moves : List Move) :
    d.session.ledger.entries <:+ (d.moveAll moves).session.ledger.entries := by
  induction moves generalizing d with
  | nil => exact List.suffix_refl _
  | cons m moves ih => exact (d.suffix_move m).trans (ih (d.move m))

/-! ### Looks -/

/-- A shutdown is under way and looks at the instances with its next step. -/
def Looks (d : Deployment) : Prop := ∃ deadline, d.closing = some (.looking deadline)

/-- At some time, a shutdown has looked at the instances, and there were some. -/
def Looked (e : Evaluator) (moves : List Move) : Prop :=
  ∃ before after, moves = before ++ .settle :: after ∧
    ((ofEvaluator e).moveAll before).Looks ∧ 0 < ((ofEvaluator e).moveAll before).session.live

theorem Looked.append (h : Looked e moves) (m : Move) : Looked e (moves ++ [m]) := by
  obtain ⟨before, after, rfl, hlooks, hlive⟩ := h
  exact ⟨before, after ++ [m], by simp, hlooks, hlive⟩

/-- A shutdown that is under way looks at the instances with its next step, or has done so. -/
def Attends (closing : Option Shutdown) (looked : Prop) : Prop :=
  match closing with
  | none | some (.looking _) => True
  | some (.waiting ..) | some .expired => looked
  | some (.done _) => False

theorem Attends.imp {closing : Option Shutdown} {looked looked' : Prop}
    (h : Attends closing looked) (himp : looked → looked') : Attends closing looked' := by
  rcases closing with _ | ⟨_ | _ | _ | _⟩
  · trivial
  · trivial
  · exact himp h
  · exact himp h
  · exact h

/-- Only the steps of a shutdown have to do with looks. -/
theorem attends_move {looked : Prop} (h : Attends d.closing looked) {m : Move}
    (hm : m ≠ .settle) : Attends (d.move m).closing looked := by
  cases m with
  | settle => exact absurd rfl hm
  | operate op =>
    dsimp only [move, operate]
    split_ifs
    · cases op with
      | dropHost => trivial
      | _ => exact h
    · exact h
  | close =>
    dsimp only [move]
    split_ifs
    · trivial
    · exact h
  | lend | giveBack | employ | duplicate | dismiss =>
    dsimp only [move]
    split_ifs
    · exact h
    · exact h

/-- A shutdown waits after it has looked at instances, and its time is over after it has waited. -/
theorem attends_settle {looked : Prop} (h : Attends d.closing looked)
    (hlook : d.Looks → 0 < d.session.live → looked) : Attends d.settle.closing looked := by
  unfold settle
  cases hanswer : d.answer? with
  | some r => trivial
  | none =>
    change Attends d.next? looked
    unfold answer? at hanswer
    rcases hclosing : d.closing with _ | ⟨deadline | ⟨wake, deadline⟩ | _ | r⟩
    · rw [next?, hclosing]
      trivial
    · rw [next?, hclosing, Option.map_some, Shutdown.step] at hanswer ⊢
      split_ifs at hanswer ⊢ with hlive
      exact hlook ⟨deadline, hclosing⟩ (Nat.pos_of_ne_zero hlive)
    · -- a shutdown that waits has looked, whether it goes on waiting or not
      rw [next?, hclosing, Option.map_some, Shutdown.step]
      rw [hclosing] at h
      split_ifs
      · trivial
      · exact h
      · exact h
    · rw [next?, hclosing] at hanswer
      cases hanswer
    · rw [hclosing] at h
      exact h.elim

/-- Whoever waits has looked, and there were instances. -/
theorem attends_moveAll (e : Evaluator) (moves : List Move) :
    Attends ((ofEvaluator e).moveAll moves).closing (Looked e moves) := by
  induction moves using List.reverseRecOn with
  | nil => trivial
  | append_singleton moves m ih =>
    have hkeep := ih.imp fun h => h.append m
    rw [moveAll_append]
    by_cases hm : m = .settle
    · subst hm
      exact attends_settle hkeep fun hlooks hlive => ⟨moves, [], rfl, hlooks, hlive⟩
    · exact attends_move hkeep hm

/-! ### Shutdowns during which nothing else happens -/

/-- A deployment with a shutdown that has come so far. -/
def arrive (d : Deployment) : Shutdown → Deployment
  | .done r => { d with session := d.session.closed r.isOk, closing := none }
  | st => { d with closing := some st }

theorem arrive_of_not_done {st : Shutdown} (h : ∀ r, st ≠ .done r) :
    d.arrive st = { d with closing := some st } := by
  cases st with
  | done r => exact absurd rfl (h r)
  | looking | waiting | expired => rfl

theorem settle_eq {st : Shutdown} (hclosing : d.closing = some st) :
    d.settle = d.arrive (st.step d.session.now d.session.live) := by
  unfold settle answer? next?
  rw [hclosing, Option.map_some]
  cases st.step d.session.now d.session.live with
  | done r => rfl
  | looking | waiting | expired => rfl

/-- A deployment at another time. -/
def atTime (d : Deployment) (now : Nat) : Deployment :=
  { d with session := { d.session with now } }

theorem le_due (now : Nat) (st : Shutdown) : now ≤ st.due now := by
  cases st with
  | waiting wake deadline => exact Nat.le_max_left _ _
  | looking | expired | done => exact Nat.le_refl now

/-- Time passes until the next step of a shutdown is due, and the step is made. -/
theorem moveAll_pass_settle {st : Shutdown} (hclosing : d.closing = some st) :
    d.moveAll [.operate (.pass (st.due d.session.now)), .settle] =
      (d.atTime (st.due d.session.now)).arrive (st.step (st.due d.session.now) d.session.live) := by
  have hpass : d.move (.operate (.pass (st.due d.session.now))) =
      d.atTime (st.due d.session.now) := by
    change d.atTime (max d.session.now _) = _
    rw [Nat.max_eq_right (le_due _ _)]
  change (d.move _).settle = _
  rw [hpass]
  exact settle_eq hclosing

/-- The steps of a shutdown alone, each made when it is due. -/
theorem exists_moves_of_steps {st : Shutdown} {r : Except TeardownError Unit} {fuel now : Nat}
    (hclosing : d.closing = some st) (hst : ∀ r, st ≠ .done r)
    (hsteps : Shutdown.steps d.session.live fuel d.session.now st = (.done r, now)) :
    ∃ moves, (∀ m ∈ moves, m = .settle ∨ ∃ time, m = .operate (.pass time)) ∧
      d.moveAll moves = (d.atTime now).arrive (.done r) := by
  induction fuel generalizing d st with
  | zero => exact absurd (Prod.mk.inj hsteps).1 (hst r)
  | succ fuel ih =>
    rw [Shutdown.steps_succ] at hsteps
    have hmoves := moveAll_pass_settle hclosing
    have hwaiting : ∀ m ∈ [Move.operate (.pass (st.due d.session.now)), .settle],
        m = .settle ∨ ∃ time, m = .operate (.pass time) := by
      simp
    by_cases hdone : ∃ r', st.step (st.due d.session.now) d.session.live = .done r'
    · obtain ⟨r', hr'⟩ := hdone
      rw [hr', Shutdown.steps_done] at hsteps
      obtain ⟨hr, rfl⟩ := Prod.mk.inj hsteps
      exact ⟨_, hwaiting, by rw [hmoves, hr', hr]⟩
    · -- the steps that are left begin where this one has led
      have hnot := not_exists.mp hdone
      let next : Deployment := { d.atTime (st.due d.session.now) with
        closing := some (st.step (st.due d.session.now) d.session.live) }
      rw [arrive_of_not_done hnot] at hmoves
      obtain ⟨moves, hall, hend⟩ := ih (show next.closing = some _ from rfl) hnot hsteps
      refine ⟨_ ++ moves, List.forall_mem_append.mpr ⟨hwaiting, hall⟩, ?_⟩
      rw [moveAll_append, hmoves, hend]
      rfl

/-- A shutdown that is left alone does in its steps what a shutdown does at once. -/
theorem exists_moves_eq_shutdown (hhosted : d.session.hosted = true) (hclosing : d.closing = none) :
    ∃ moves, (∀ m ∈ moves, m = .settle ∨ ∃ time, m = .operate (.pass time)) ∧
      (d.move .close).moveAll moves = d.move (.operate .shutdown) := by
  obtain ⟨r, now, hsteps⟩ : ∃ r now, Shutdown.steps d.session.live Shutdown.maxSteps d.session.now
      (.start d.session.now) = (.done r, now) := by
    by_cases hlive : d.session.live = 0
    · exact ⟨_, _, hlive ▸ Shutdown.steps_start_zero _⟩
    · exact ⟨_, _, Shutdown.steps_start hlive _⟩
  have hrun : Shutdown.run d.session.now d.session.live = (r, now) := by
    unfold Shutdown.run
    rw [hsteps]
  rw [move_close hhosted hclosing, move_shutdown hhosted hclosing hrun]
  exact exists_moves_of_steps rfl nofun hsteps

/-! ### Answers -/

/-- A shutdown succeeds when it looks and sees no instance, and gives up when its time is over. -/
theorem of_answer?_eq_some {r : Except TeardownError Unit} {looked : Prop}
    (h : Attends d.closing looked) (hr : d.answer? = some r) :
    (r = .ok () ∧ d.Looks ∧ d.session.live = 0) ∨
      (r = .error (.instancesInFlight d.session.live) ∧ looked) := by
  unfold answer? next? at hr
  rcases hclosing : d.closing with _ | ⟨deadline | ⟨wake, deadline⟩ | _ | r'⟩
  · rw [hclosing] at hr
    cases hr
  · rw [hclosing, Option.map_some, Shutdown.step] at hr
    split_ifs at hr with hlive
    exact .inl ⟨(Option.some.inj hr).symm, ⟨deadline, hclosing⟩, hlive⟩
  · rw [hclosing, Option.map_some, Shutdown.step] at hr
    split_ifs at hr
  · rw [hclosing] at hr h
    exact .inr ⟨(Option.some.inj hr).symm, h⟩
  · rw [hclosing] at h
    exact h.elim

/-- The count of live instances after some more entries of the ledger. -/
theorem live_append {later : List Entry} {s s' : Session} (hs : s.Accounts) (hs' : s'.Accounts)
    (h : later ++ s.ledger.entries = s'.ledger.entries) :
    s'.live + (owners .released later).length = s.live + (owners .created later).length := by
  have hlive := hs.coe_live.trans hs.lawful.live
  have hlive' := hs'.coe_live.trans hs'.lawful.live
  rw [← h] at hlive'
  simp only [balance, owners_append, List.length_append] at hlive hlive'
  omega

theorem answer?_close (hhosted : d.session.hosted = true) (hclosing : d.closing = none)
    (hlive : d.session.live = 0) : (d.move .close).answer? = some (.ok ()) := by
  have hlook : (Shutdown.start d.session.now).step d.session.now d.session.live = .done (.ok ()) :=
    if_pos hlive
  rw [move_close hhosted hclosing]
  unfold answer? next?
  dsimp only [Option.map_some]
  rw [hlook]

theorem shutdown_of_live_eq_zero {s : Session} (hhosted : s.hosted = true)
    (hlive : s.live = 0) : s.shutdown.1 = some (.ok ()) ∧ s.shutdown.2.now = s.now := by
  unfold Session.shutdown
  rw [if_pos hhosted, Shutdown.run_eq, if_pos hlive]
  exact ⟨rfl, rfl⟩

/-- Since a shutdown has looked, the ledger has only grown, and it tells how many instances there
are now. -/
theorem Looked.exists_later (h : Looked e moves) :
    let d := (ofEvaluator e).moveAll moves
    ∃ before after later, moves = before ++ .settle :: after ∧
      let d₀ := (ofEvaluator e).moveAll before
      d₀.Looks ∧ 0 < d₀.session.live ∧
        later ++ d₀.session.ledger.entries = d.session.ledger.entries ∧
        d.session.live + (owners .released later).length =
          d₀.session.live + (owners .created later).length := by
  intro d
  obtain ⟨before, after, hmoves, hlooks, hlive⟩ := h
  have hd : d = ((ofEvaluator e).moveAll before).moveAll (.settle :: after) := by
    rw [← moveAll_append, ← hmoves]
  obtain ⟨later, hlater⟩ : ((ofEvaluator e).moveAll before).session.ledger.entries <:+
      d.session.ledger.entries :=
    hd ▸ suffix_moveAll _ _
  exact ⟨before, after, later, hmoves, hlooks, hlive, hlater,
    live_append (sound_moveAll e before).accounts (sound_moveAll e moves).accounts hlater⟩

/-- A shutdown succeeds only when it looks at the instances and sees none; if there are none at its
beginning, that is at once. When it gives up it tells how many there are, after it has seen some: as
many as it has seen, and those that were created since, without those that were released since. So
it tells that there is at least one unless all of them were released. -/
theorem answers (e : Evaluator) (moves : List Move) :
    let d := (ofEvaluator e).moveAll moves
    (d.answer? = some (.ok ()) → d.Looks ∧ d.session.live = 0) ∧
    (∀ n, d.answer? = some (.error (.instancesInFlight n)) → n = d.session.live ∧
      ∃ before after later, moves = before ++ .settle :: after ∧
        let d₀ := (ofEvaluator e).moveAll before
        d₀.Looks ∧ 0 < d₀.session.live ∧
          later ++ d₀.session.ledger.entries = d.session.ledger.entries ∧
          n + (owners .released later).length =
            d₀.session.live + (owners .created later).length) ∧
    (d.session.hosted = true → d.closing = none → d.session.live = 0 →
      (d.move .close).answer? = some (.ok ()) ∧ d.session.shutdown.1 = some (.ok ()) ∧
        d.session.shutdown.2.now = d.session.now) := by
  intro d
  have hattends : Attends d.closing (Looked e moves) := attends_moveAll e moves
  refine ⟨fun hok => ?_, fun n hn => ?_, fun hhosted hclosing hlive =>
    ⟨answer?_close hhosted hclosing hlive, shutdown_of_live_eq_zero hhosted hlive⟩⟩
  · rcases of_answer?_eq_some hattends hok with ⟨-, hlook⟩ | ⟨herror, -⟩
    · exact hlook
    · cases herror
  · rcases of_answer?_eq_some hattends hn with ⟨hok, -⟩ | ⟨herror, hlooked⟩
    · cases hok
    · obtain rfl : n = d.session.live := by simpa using herror
      exact ⟨rfl, hlooked.exists_later⟩

/-- A guest that never ends. -/
def spinning : List UInt8 :=
  [0x00, 0x61, 0x73, 0x6d, 0x01, 0x00, 0x00, 0x00, 0x01, 0x04, 0x01, 0x60, 0x00, 0x00, 0x03, 0x02,
   0x01, 0x00, 0x08, 0x01, 0x00, 0x0a, 0x09, 0x01, 0x07, 0x00, 0x03, 0x40, 0x0c, 0x00, 0x0b, 0x0b]

/-- An evaluation that is dropped between the last look of a shutdown, five milliseconds before its
deadline, and its end. -/
def lateDrop : List Move :=
  [.operate (.begin ⟨1, 5000 * nanosPerMilli⟩ ⟨5000 * nanosPerMilli, 0⟩ ""), .operate (.enter 0),
   .close, .settle, .operate (.pass (1995 * nanosPerMilli)), .settle, .settle, .operate (.drop 0),
   .operate (.pass (2000 * nanosPerMilli)), .settle]

/-- How many live instances a shutdown tells with its next step. -/
def count? (d : Deployment) : Option Nat :=
  match d.answer? with
  | some (.error (.instancesInFlight n)) => some n
  | some (.ok ()) | none => none

theorem answer?_of_count? {n : Nat} (h : d.count? = some n) :
    d.answer? = some (.error (.instancesInFlight n)) := by
  unfold count? at h
  split at h
  next m hm => exact Option.some.inj h ▸ hm
  next => cases h
  next => cases h

set_option maxRecDepth 100000 in
/-- A shutdown may give up although there is no instance left. -/
theorem not_forall_one_le : ¬ ∀ (e : Evaluator) (moves : List Move) (n : Nat),
    ((ofEvaluator e).moveAll moves).answer? = some (.error (.instancesInFlight n)) → 1 ≤ n := by
  intro hall
  have hrun : (Host.compile spinning ⟨1, 16, 1000⟩).toOption.any (fun h =>
      ((ofEvaluator (Session.onePage h)).moveAll lateDrop).count? = some 0) = true := by
    decide +kernel
  obtain ⟨h, -, hcount⟩ := Session.exists_compiled hrun
  have hle : 1 ≤ 0 := hall _ lateDrop 0 (answer?_of_count? (of_decide_eq_true hcount))
  exact absurd hle (by decide)

end Deployment

end ScriptSandbox.Sandbox
