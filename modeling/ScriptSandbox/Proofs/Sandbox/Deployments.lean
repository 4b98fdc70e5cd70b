import Mathlib.Data.List.Induction
import ScriptSandbox.Proofs.Sandbox.LiveInstances
import ScriptSandbox.Proofs.Sandbox.Shutdowns

/-!
# Deployments

A compiled guest is shared by its host, the handles that the host has given out, the evaluators made
from them and the instances of evaluations. Each of them has one handle, and any of them may come
and go in any order. A host goes when it is dropped or shut down; a shutdown may be under way for
some time, in which everything else goes on.

## Main definitions

* `Sandbox.Deployment`: a session with all that has a handle of its guest
* `Sandbox.Move`, `Sandbox.Deployment.move`: what can happen to a deployment
* `Sandbox.Deployment.holders`: how many there are that have a handle
* `Sandbox.Handles.Counts`: handles and the ticker are as they should be for so many holders

## Main results

* `Sandbox.Session.exists_uses_perform`: handles come and go with the instances
* `Sandbox.Deployment.Sound.move`: every move keeps the count
* `Sandbox.Deployment.ticker_of_holders`: the ticker runs exactly as long as anybody has a handle
-/

namespace ScriptSandbox.Sandbox

/-! ### Counted handles -/

namespace Handles

variable {h : Handles} {n : Nat}

/-- The handles are those of `n` holders. The ticker was told to stop when the last one went. -/
structure Counts (h : Handles) (n : Nat) : Prop where
  count : h.count = n
  stops : h.stops = if n = 0 then 1 else 0
  joined : h.joined = true → n = 0

theorem counts_fresh : fresh.Counts 1 := ⟨rfl, rfl, nofun⟩

theorem Counts.joined_eq_false (h' : h.Counts (n + 1)) : h.joined = false := by
  rw [Bool.eq_false_iff]
  exact fun hjoined => Nat.succ_ne_zero n (h'.joined hjoined)

theorem Counts.acquire (h' : h.Counts n) (hpos : 0 < n) : h.acquire.Counts (n + 1) where
  count := congrArg (· + 1) h'.count
  stops := by
    rw [if_neg (Nat.succ_ne_zero n)]
    exact h'.stops.trans (if_neg (Nat.ne_of_gt hpos))
  joined hjoined := absurd (h'.joined hjoined) (Nat.ne_of_gt hpos)

theorem Counts.drop (h' : h.Counts (n + 1)) : h.drop.Counts n ∧ h.drop.joined = false := by
  have hstops : h.stops = 0 := h'.stops.trans (if_neg (Nat.succ_ne_zero n))
  have hjoined := h'.joined_eq_false
  unfold Handles.drop
  split_ifs with hlast
  · -- only the last handle tells the ticker to stop, so nobody has told it before
    obtain rfl : n = 0 := Nat.succ.inj (h'.count.symm.trans hlast)
    refine ⟨⟨rfl, ?_, fun _ => rfl⟩, hjoined⟩
    rw [hstops]
    rfl
  · have hn : n ≠ 0 := fun hn => hlast (by rw [h'.count, hn])
    refine ⟨⟨?_, ?_, fun h => ?_⟩, hjoined⟩
    · dsimp only
      rw [h'.count, Nat.add_sub_cancel]
    · rw [if_neg hn]
      exact hstops
    · rw [hjoined] at h
      cases h

/-- The end of the ticker is waited for with the last handle. -/
theorem Counts.shutdown (h' : h.Counts (n + 1)) :
    h.shutdown.Counts n ∧ (h.shutdown.joined = true ↔ n = 0) := by
  obtain ⟨hdrop, hjoined⟩ := h'.drop
  unfold Handles.shutdown
  split_ifs with hlast
  · obtain rfl : n = 0 := Nat.succ.inj (h'.count.symm.trans hlast)
    exact ⟨⟨hdrop.count, hdrop.stops, fun _ => rfl⟩, by simp⟩
  · refine ⟨hdrop, ?_⟩
    rw [hjoined]
    constructor
    · nofun
    · intro hn
      exact absurd (h'.count.trans (by rw [hn])) hlast

end Handles

/-! ### Handles of instances -/

/-- What happens to the handles of a session, as far as it is about instances: nothing, or a handle
comes or goes with an instance. -/
inductive Uses : Option Change → Session → Session → Prop
  | same {s s' : Session} (hlive : s'.ledger.live = s.ledger.live)
    (hhandles : s'.handles = s.handles) (hhosted : s'.hosted = s.hosted) : Uses none s s'
  | created {s s' : Session} (hlive : s'.ledger.live = s.ledger.live + 1)
    (hhandles : s'.handles = s.handles.acquire) (hhosted : s'.hosted = s.hosted) :
    Uses (some .created) s s'
  | released {s s' : Session} (hlive : s'.ledger.live = s.ledger.live - 1)
    (hhandles : s'.handles = s.handles.drop) (hhosted : s'.hosted = s.hosted) :
    Uses (some .released) s s'

namespace Uses

variable {c : Option Change} {s s' : Session}

theorem hosted (h : Uses c s s') : s'.hosted = s.hosted := by
  cases h with
  | same _ _ hhosted | created _ _ hhosted | released _ _ hhosted => exact hhosted

/-- If all handles are those of the instances and of `n` others, they are so again. An instance
comes only where there is somebody else. -/
theorem counts (h : Uses c s s') (hs : s.Accounts) (hs' : s'.Accounts) {n : Nat}
    (hcreated : c = some .created → 0 < n) (hn : s.handles.Counts (n + s.live)) :
    s'.handles.Counts (n + s'.live) := by
  have hlive := hs.coe_live
  have hlive' := hs'.coe_live
  cases h with
  | same hledger hhandles =>
    have heq : s'.live = s.live := by omega
    rw [hhandles, heq]
    exact hn
  | created hledger hhandles =>
    have heq : s'.live = s.live + 1 := by omega
    rw [hhandles, heq]
    exact hn.acquire (Nat.add_pos_left (hcreated rfl) _)
  | released hledger hhandles =>
    have heq : s.live = s'.live + 1 := by omega
    rw [hhandles]
    rw [heq] at hn
    exact hn.drop.1

end Uses

namespace Session

variable (s : Session) (i : Nat)

theorem uses_enter : ∃ c, c ≠ some .released ∧ Uses c s (s.enter i) := by
  unfold enter
  split
  next =>
    split
    next => exact ⟨none, by decide, .same rfl rfl rfl⟩
    next => exact ⟨some .created, by decide, .created rfl rfl rfl⟩
  next => exact ⟨none, by decide, .same rfl rfl rfl⟩

theorem uses_turnGuest (limits : Limits) (x : Context) (p : Progress) (limit : Nat) :
    ∃ c, c ≠ some .created ∧ Uses c s (s.turnGuest i limits x p limit) := by
  unfold turnGuest
  dsimp only
  cases (s.within limits).runUntil (min limit x.deadline) (awaken s.now p) with
  | ended e => exact ⟨some .released, by decide, .released rfl rfl rfl⟩
  | running g =>
    dsimp only
    split
    · exact ⟨some .released, by decide, .released rfl rfl rfl⟩
    · exact ⟨none, by decide, .same rfl rfl rfl⟩

theorem uses_turn (limit : Nat) (b : Branch) :
    ∃ c, c ≠ some .created ∧ Uses c s (s.turn i limit b) := by
  unfold turn
  split
  next =>
    cases b with
    | guest => exact s.uses_turnGuest i _ _ _ limit
    | deadline | cancellation =>
      dsimp only
      split
      · exact ⟨none, by decide, .same rfl rfl rfl⟩
      · exact ⟨none, by decide, .same rfl rfl rfl⟩
  next => exact ⟨none, by decide, .same rfl rfl rfl⟩

theorem uses_leave : ∃ c, c ≠ some .created ∧ Uses c s (s.leave i) := by
  unfold leave
  split
  next holds r hstage =>
    cases holds with
    | true => exact ⟨some .released, by decide, .released rfl rfl rfl⟩
    | false => exact ⟨none, by decide, .same rfl rfl rfl⟩
  next => exact ⟨none, by decide, .same rfl rfl rfl⟩

theorem uses_drop : ∃ c, c ≠ some .created ∧ Uses c s (s.drop i) := by
  unfold drop
  dsimp only
  split_ifs
  · exact ⟨none, by decide, .same rfl rfl rfl⟩
  · exact ⟨some .released, by decide, .released rfl rfl rfl⟩
  · exact ⟨none, by decide, .same rfl rfl rfl⟩

/-- As long as the host stays, handles come and go with the instances, and instances come with the
first poll of an evaluation. -/
theorem exists_uses_perform (op : Operation) (hdrop : op ≠ .dropHost)
    (hshutdown : op ≠ .shutdown) :
    ∃ c, (c = some .created → ∃ i, op = .enter i) ∧ Uses c s (s.perform op) := by
  cases op with
  | context | childContext | token | cancel | pass | begin | keep =>
    exact ⟨none, nofun, .same rfl rfl rfl⟩
  | enter i =>
    obtain ⟨c, -, hc⟩ := s.uses_enter i
    exact ⟨c, fun _ => ⟨i, rfl⟩, hc⟩
  | turn i limit b =>
    obtain ⟨c, hne, hc⟩ := s.uses_turn i limit b
    exact ⟨c, fun h => absurd h hne, hc⟩
  | leave i =>
    obtain ⟨c, hne, hc⟩ := s.uses_leave i
    exact ⟨c, fun h => absurd h hne, hc⟩
  | drop i =>
    obtain ⟨c, hne, hc⟩ := s.uses_drop i
    exact ⟨c, fun h => absurd h hne, hc⟩
  | dropHost => exact absurd rfl hdrop
  | shutdown => exact absurd rfl hshutdown

/-- Another handle. -/
def take : Session := { s with handles := s.handles.acquire }

/-- One handle less. -/
def give : Session := { s with handles := s.handles.drop }

/-- The host is gone. It waits for the end of the ticker only if it was shut down, and all instances
were released. -/
def closed (drained : Bool) : Session :=
  { s with hosted := false, handles := if drained then s.handles.shutdown else s.handles.drop }

variable {s}

theorem dropHost_eq (h : s.hosted = true) : s.dropHost.2 = s.closed false := by
  rw [dropHost, if_pos h]
  rfl

/-- A shutdown that gives up drops its handle like anybody else. -/
theorem shutdown_eq (h : s.hosted = true) {r : Except TeardownError Unit} {now : Nat}
    (hrun : Shutdown.run s.now s.live = (r, now)) :
    s.shutdown = (some r, { s.closed r.isOk with now }) := by
  unfold shutdown
  rw [if_pos h, hrun]
  cases r with
  | ok u => rfl
  | error e => rfl

end Session

/-! ### Deployments -/

/-- A session and all that has a handle of its guest, besides the host and the instances. -/
structure Deployment where
  session : Session
  /-- How many handles were given out that no evaluator was made from. -/
  modules : Nat
  evaluators : Nat
  /-- The shutdown of the host, if it is under way. -/
  closing : Option Shutdown

/-- What can happen to a deployment. -/
inductive Move where
  | operate (op : Operation)
  /-- A handle is cloned. -/
  | lend
  /-- A handle that was given out is dropped. -/
  | giveBack
  /-- An evaluator is made from a handle that was given out. -/
  | employ
  /-- An evaluator is cloned. -/
  | duplicate
  /-- An evaluator is dropped. -/
  | dismiss
  /-- A shutdown of the host begins. -/
  | close
  /-- The shutdown makes a step. -/
  | settle

namespace Deployment

variable (d : Deployment)

/-- A host with one evaluator. -/
def ofEvaluator (e : Evaluator) : Deployment := ⟨.ofEvaluator e, 0, 1, none⟩

/-- How many there are that have a handle. -/
def holders : Nat := d.session.hosted.toNat + d.modules + d.evaluators + d.session.live

/-- Whether an operation can be performed. Evaluations belong to an evaluator, and a host is shut
down once. -/
def allows : Operation → Bool
  | .begin .. | .enter _ => 0 < d.evaluators
  | .shutdown => d.closing.isNone
  | _ => true

/-- Performs an operation. A host that is dropped is not shut down any further. -/
def operate (op : Operation) : Deployment :=
  if d.allows op then
    { d with
      session := d.session.perform op
      closing := match op with
        | .dropHost => none
        | _ => d.closing }
  else d

/-- The shutdown that is under way after its next step. -/
def next? : Option Shutdown := d.closing.map (Shutdown.step d.session.now d.session.live)

/-- What the shutdown that is under way comes to with its next step, if that is the last one. -/
def answer? : Option (Except TeardownError Unit) :=
  match d.next? with
  | some (.done r) => some r
  | _ => none

/-- The shutdown that is under way makes a step. With the last one the host is gone. -/
def settle : Deployment :=
  match d.answer? with
  | some r => { d with session := d.session.closed r.isOk, closing := none }
  | none => { d with closing := d.next? }

/-- One move, if it can be made. -/
def move : Move → Deployment
  | .operate op => d.operate op
  | .lend =>
    if d.session.hosted || 0 < d.modules + d.evaluators then
      { d with session := d.session.take, modules := d.modules + 1 }
    else d
  | .giveBack =>
    if 0 < d.modules then { d with session := d.session.give, modules := d.modules - 1 } else d
  | .employ =>
    if 0 < d.modules then { d with modules := d.modules - 1, evaluators := d.evaluators + 1 } else d
  | .duplicate =>
    if 0 < d.evaluators then { d with session := d.session.take, evaluators := d.evaluators + 1 }
    else d
  | .dismiss =>
    if 0 < d.evaluators then { d with session := d.session.give, evaluators := d.evaluators - 1 }
    else d
  | .close =>
    if d.session.hosted && d.closing.isNone then { d with closing := some (.start d.session.now) }
    else d
  | .settle => d.settle

/-- Moves one after the other. -/
def moveAll (moves : List Move) : Deployment := moves.foldl move d

/-! ### The count of holders -/

/-- The handles are those of the holders, and only a host that is there is shut down. -/
structure Sound (d : Deployment) : Prop where
  accounts : d.session.Accounts
  counts : d.session.handles.Counts d.holders
  hosted : d.closing.isSome = true → d.session.hosted = true

theorem sound_ofEvaluator (e : Evaluator) : (ofEvaluator e).Sound where
  accounts := Session.accounts_ofEvaluator e
  counts := Handles.counts_fresh.acquire Nat.one_pos
  hosted := nofun

namespace Sound

variable {d} {s' : Session}

/-- Handles that come and go with instances are handles of holders. An instance comes from an
evaluator. -/
theorem uses {c : Option Change} (h : d.Sound) (hs' : s'.Accounts) (hc : Uses c d.session s')
    (hcreated : c = some .created → 0 < d.evaluators) (closing : Option Shutdown)
    (hclosing : closing.isSome = true → d.closing.isSome = true) :
    Sound { d with session := s', closing } := by
  refine ⟨hs', ?_, fun hsome => hc.hosted.trans (h.hosted (hclosing hsome))⟩
  have hcounts := hc.counts h.accounts hs' (fun hc => Nat.add_pos_right _ (hcreated hc)) h.counts
  rw [← hc.hosted] at hcounts
  exact hcounts

/-- A handle more, for somebody who was not there before. -/
theorem take (h : d.Sound) (hpos : 0 < d.holders) {modules evaluators : Nat}
    (hsum : modules + evaluators = d.modules + d.evaluators + 1) :
    Sound { d with session := d.session.take, modules, evaluators } := by
  refine ⟨⟨h.accounts.lawful, h.accounts.account⟩, ?_, h.hosted⟩
  have hholders : Deployment.holders { d with session := d.session.take, modules, evaluators } =
      d.holders + 1 := by
    change d.session.hosted.toNat + modules + evaluators + d.session.live = _
    unfold holders
    omega
  rw [hholders]
  exact h.counts.acquire hpos

/-- A handle less, of somebody who is not there any more. -/
theorem give (h : d.Sound) {modules evaluators : Nat}
    (hsum : d.modules + d.evaluators = modules + evaluators + 1) :
    Sound { d with session := d.session.give, modules, evaluators } := by
  refine ⟨⟨h.accounts.lawful, h.accounts.account⟩, ?_, h.hosted⟩
  have hholders : d.holders =
      Deployment.holders { d with session := d.session.give, modules, evaluators } + 1 := by
    change _ = d.session.hosted.toNat + modules + evaluators + d.session.live + 1
    unfold holders
    omega
  exact (hholders ▸ h.counts).drop.1

/-- The host goes, and the end of the ticker is waited for if the host was the last holder and all
instances were released. -/
theorem closed (h : d.Sound) (hhosted : d.session.hosted = true) (drained : Bool) (now : Nat) :
    Sound { d with session := { d.session.closed drained with now }, closing := none } ∧
      ((d.session.closed drained).handles.joined = true ↔ drained = true ∧ d.holders = 1) := by
  let d' : Deployment :=
    { d with session := { d.session.closed drained with now }, closing := none }
  have hholders : d.holders = d'.holders + 1 := by
    have hd' : d'.holders = 0 + d.modules + d.evaluators + d.session.live := rfl
    rw [hd', holders, hhosted, Bool.toNat_true]
    omega
  have haccounts : d'.session.Accounts := ⟨h.accounts.lawful, h.accounts.account⟩
  have hcounts := hholders ▸ h.counts
  rw [hholders, Nat.add_eq_right]
  cases drained with
  | true =>
    obtain ⟨hshutdown, hjoined⟩ := hcounts.shutdown
    exact ⟨⟨haccounts, hshutdown, nofun⟩, by simpa [Session.closed] using hjoined⟩
  | false =>
    obtain ⟨hdrop, hjoined⟩ := hcounts.drop
    exact ⟨⟨haccounts, hdrop, nofun⟩, by simp [Session.closed, hjoined]⟩

/-- Without a host there is nothing to drop or to shut down. -/
theorem notClosing (h : d.Sound) : Sound { d with closing := none } :=
  ⟨h.accounts, h.counts, nofun⟩

theorem operate (h : d.Sound) (op : Operation) : (d.operate op).Sound := by
  unfold Deployment.operate
  split_ifs with hallows
  · -- two operations are about the host, and the others are about instances at most
    by_cases hdrop : op = .dropHost
    · subst hdrop
      dsimp only [Session.perform]
      by_cases hhosted : d.session.hosted = true
      · rw [Session.dropHost_eq hhosted]
        exact (h.closed hhosted false d.session.now).1
      · rw [Session.dropHost, if_neg hhosted]
        exact h.notClosing
    by_cases hshutdown : op = .shutdown
    · subst hshutdown
      have hclosing : d.closing = none := Option.isNone_iff_eq_none.mp hallows
      dsimp only [Session.perform]
      rw [hclosing]
      by_cases hhosted : d.session.hosted = true
      · rcases hrun : Shutdown.run d.session.now d.session.live with ⟨r, now⟩
        rw [Session.shutdown_eq hhosted hrun]
        exact (h.closed hhosted r.isOk now).1
      · rw [Session.shutdown, if_neg hhosted]
        exact h.notClosing
    · obtain ⟨c, hcreated, hc⟩ := d.session.exists_uses_perform op hdrop hshutdown
      refine h.uses (h.accounts.perform op) hc (fun hc => ?_) _ ?_
      · obtain ⟨i, rfl⟩ := hcreated hc
        exact of_decide_eq_true hallows
      · split
        next => nofun
        next => exact id
  · exact h

theorem hosted_of_answer? (h : d.Sound) {r : Except TeardownError Unit}
    (hr : d.answer? = some r) : d.session.hosted = true := by
  apply h.hosted
  cases hclosing : d.closing with
  | some st => rfl
  | none => simp [answer?, next?, hclosing] at hr

theorem settle (h : d.Sound) : d.settle.Sound := by
  unfold Deployment.settle
  cases hr : d.answer? with
  | some r => exact (h.closed (h.hosted_of_answer? hr) r.isOk d.session.now).1
  | none =>
    refine ⟨h.accounts, h.counts, fun hsome => h.hosted ?_⟩
    simpa [next?] using hsome

/-- Whatever happens, the handles are those of the holders. -/
theorem move (h : d.Sound) (m : Move) : (d.move m).Sound := by
  cases m with
  | operate op => exact h.operate op
  | settle => exact h.settle
  | lend =>
    dsimp only [Deployment.move]
    split_ifs with hany
    · refine h.take ?_ (by omega)
      have hpos : 0 < d.session.hosted.toNat + (d.modules + d.evaluators) := by
        rcases Bool.or_eq_true_iff.mp hany with hhosted | hlent
        · rw [hhosted, Bool.toNat_true]
          omega
        · exact Nat.add_pos_right _ (of_decide_eq_true hlent)
      unfold holders
      omega
    · exact h
  | giveBack =>
    dsimp only [Deployment.move]
    split_ifs with hpos
    · exact h.give (by omega)
    · exact h
  | employ =>
    dsimp only [Deployment.move]
    split_ifs with hpos
    · -- the handle goes from one holder to another
      refine ⟨h.accounts, ?_, h.hosted⟩
      have hholders : Deployment.holders
          { d with modules := d.modules - 1, evaluators := d.evaluators + 1 } = d.holders := by
        unfold holders
        dsimp only
        omega
      rw [hholders]
      exact h.counts
    · exact h
  | duplicate =>
    dsimp only [Deployment.move]
    split_ifs with hpos
    · refine h.take ?_ (by omega)
      unfold holders
      omega
    · exact h
  | dismiss =>
    dsimp only [Deployment.move]
    split_ifs with hpos
    · exact h.give (by omega)
    · exact h
  | close =>
    dsimp only [Deployment.move]
    split_ifs with hopen
    · exact ⟨h.accounts, h.counts, fun _ => (Bool.and_eq_true_iff.mp hopen).1⟩
    · exact h

end Sound

theorem moveAll_append (moves moves' : List Move) :
    d.moveAll (moves ++ moves') = (d.moveAll moves).moveAll moves' := List.foldl_append

theorem sound_moveAll (e : Evaluator) (moves : List Move) :
    ((ofEvaluator e).moveAll moves).Sound := by
  induction moves using List.reverseRecOn with
  | nil => exact sound_ofEvaluator e
  | append_singleton moves m ih =>
    rw [moveAll_append]
    exact ih.move m

/-! ### The ticker -/

variable {d}

/-- An evaluation that holds an instance is among the holders. -/
theorem Sound.holders_pos {i : Nat} (h : d.Sound) (hholds : (d.session.stage i).holds = true) :
    0 < d.holders := by
  obtain ⟨hin, hout⟩ := (h.accounts.account i).held hholds
  have hlive : 0 < d.session.live := by
    rw [h.accounts.live_eq]
    exact List.length_pos_of_mem (List.mem_filter.mpr ⟨hin, decide_eq_true hout⟩)
  exact Nat.add_pos_right _ hlive

theorem move_close (hhosted : d.session.hosted = true) (hclosing : d.closing = none) :
    d.move .close = { d with closing := some (.start d.session.now) } :=
  if_pos (by rw [hhosted, hclosing]; rfl)

/-- A shutdown during which nothing else happens. -/
theorem move_shutdown (hhosted : d.session.hosted = true) (hclosing : d.closing = none)
    {r : Except TeardownError Unit} {now : Nat}
    (hrun : Shutdown.run d.session.now d.session.live = (r, now)) :
    d.move (.operate .shutdown) =
      { d with session := { d.session.closed r.isOk with now }, closing := none } := by
  have hoperate : d.operate .shutdown = { d with session := d.session.shutdown.2 } :=
    if_pos (Option.isNone_iff_eq_none.mpr hclosing)
  dsimp only [move]
  rw [hoperate, Session.shutdown_eq hhosted hrun, hclosing]

/-- It waits for the end of the ticker if the host is the last holder. -/
theorem Sound.joined_shutdown (h : d.Sound) (hhosted : d.session.hosted = true)
    (hclosing : d.closing = none) :
    (d.move (.operate .shutdown)).session.handles.joined = true ↔ d.holders = 1 := by
  rcases hrun : Shutdown.run d.session.now d.session.live with ⟨r, now⟩
  rw [move_shutdown hhosted hclosing hrun, (h.closed hhosted r.isOk now).2, and_iff_right_iff_imp]
  intro hlast
  -- a host that is the last holder leaves no instance behind
  have hlive : d.session.live = 0 := by
    unfold holders at hlast
    rw [hhosted, Bool.toNat_true] at hlast
    omega
  rw [Shutdown.run_eq, if_pos hlive] at hrun
  rw [← (Prod.mk.inj hrun).1]
  rfl

/-- One that goes on for some time waits for it too, unless it gives up. -/
theorem Sound.joined_settle (h : d.Sound) {r : Except TeardownError Unit}
    (hr : d.answer? = some r) :
    (d.move .settle).session.handles.joined = true ↔ r = .ok () ∧ d.holders = 1 := by
  have hsettle : (d.move .settle).session.handles = (d.session.closed r.isOk).handles := by
    dsimp only [Deployment.move]
    rw [Deployment.settle, hr]
  have hok : r.isOk = true ↔ r = .ok () := by
    cases r with
    | ok u => exact ⟨fun _ => rfl, fun _ => rfl⟩
    | error e => exact ⟨nofun, nofun⟩
  rw [hsettle, (h.closed (h.hosted_of_answer? hr) r.isOk d.session.now).2, hok]

/-- Whoever comes and goes, in whatever order, there is a handle for each, and the ticker is told to
stop once, when the last one has gone; until then it runs, so also for every evaluation with an
instance. A shutdown during which nothing else happens waits for the ticker if and only if the host
is the last one. One that goes on for some time does so too unless it gives up, and then drops its
handle like anybody else. -/
theorem ticker_of_holders (e : Evaluator) (moves : List Move) :
    let d := (ofEvaluator e).moveAll moves
    let h := d.session.handles
    (h.count = d.holders ∧ (0 < d.holders → h.stops = 0) ∧ (d.holders = 0 → h.stops = 1)) ∧
    (∀ i, (d.session.stage i).holds = true → h.ticking = true) ∧
    (d.session.hosted = true → d.closing = none →
      ((d.move (.operate .shutdown)).session.handles.joined = true ↔ d.holders = 1)) ∧
    ∀ r, d.answer? = some r →
      ((d.move .settle).session.handles.joined = true ↔ r = .ok () ∧ d.holders = 1) := by
  intro d h
  have hsound : d.Sound := sound_moveAll e moves
  have hcounts : h.Counts d.holders := hsound.counts
  have hruns (hpos : 0 < d.holders) : h.stops = 0 :=
    hcounts.stops.trans (if_neg (Nat.ne_of_gt hpos))
  exact ⟨⟨hcounts.count, hruns, fun hnone => hcounts.stops.trans (if_pos hnone)⟩,
    fun i hholds => decide_eq_true (hruns (hsound.holders_pos hholds)), hsound.joined_shutdown,
    fun r => hsound.joined_settle⟩

end Deployment

end ScriptSandbox.Sandbox
