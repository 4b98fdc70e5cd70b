import Mathlib.Logic.Relation
import ScriptSandbox.Proofs.Sandbox.Later
import ScriptSandbox.Proofs.Sandbox.Ledger

/-!
# The count of live instances

However the steps of evaluations follow one another, the ledger of a session stays in accord with
the stages of the evaluations: who holds an instance has one that was created and not released, and
who does not has none left. The count of live instances is therefore never off.

## Main definitions

* `Sandbox.Account`: the ledger is in accord with the stage of an evaluation
* `Sandbox.Session.Accounts`: it is lawful and in accord with all stages
* `Sandbox.Session.IsBarred`: an evaluation has no instance and cannot create one

## Main results

* `Sandbox.Session.Accounts.effect`, `Sandbox.Session.accounts_performAll`: sessions stay in accord
* `Sandbox.Session.IsBarred.perform`: a context that is done bars its evaluations
* `Sandbox.Session.live_complete`: what a completed evaluation leaves of the count
* `Sandbox.Session.live_instances`: the count, and the releases on every path
-/

namespace ScriptSandbox.Sandbox

variable {l : Ledger} {st : Stage} {i j : Nat}

/-! ### Accounts -/

/-- The ledger is in accord with the stage of the evaluation `i`. -/
structure Account (l : Ledger) (i : Nat) (st : Stage) : Prop where
  /-- An evaluation that was not polled has created no instance. -/
  fresh : st = .fresh → i ∉ l.created
  /-- The instance that an evaluation holds was created and not released. -/
  held : st.holds = true → i ∈ l.created ∧ i ∉ l.released
  /-- An evaluation that holds no instance has released what it created. -/
  freed : st.holds = false → i ∈ l.created → i ∈ l.released

namespace Account

theorem create_of_ne (h : Account l j st) (hj : j ≠ i) : Account (l.create i) j st where
  fresh hst := by
    rw [Ledger.created_create, List.mem_cons]
    exact not_or.mpr ⟨hj, h.fresh hst⟩
  held hst := by
    rw [Ledger.created_create, Ledger.released_create]
    exact ⟨List.mem_cons_of_mem _ (h.held hst).1, (h.held hst).2⟩
  freed hst hin := by
    rw [Ledger.created_create, List.mem_cons] at hin
    rw [Ledger.released_create]
    exact h.freed hst (hin.resolve_left hj)

theorem release_of_ne (h : Account l j st) (hj : j ≠ i) : Account (l.release i) j st where
  fresh hst := by
    rw [Ledger.created_release]
    exact h.fresh hst
  held hst := by
    rw [Ledger.created_release, Ledger.released_release, List.mem_cons]
    exact ⟨(h.held hst).1, not_or.mpr ⟨hj, (h.held hst).2⟩⟩
  freed hst hin := by
    rw [Ledger.created_release] at hin
    rw [Ledger.released_release]
    exact List.mem_cons_of_mem _ (h.freed hst hin)

/-- The accounts of an evaluation that holds an instance it has just created. -/
theorem of_create (hst : st.holds = true) (hout : i ∉ l.released) : Account (l.create i) i st where
  fresh hfresh := by
    rw [hfresh] at hst
    cases hst
  held _ := by
    rw [Ledger.created_create, Ledger.released_create]
    exact ⟨List.mem_cons_self, hout⟩
  freed hno := by
    rw [hst] at hno
    cases hno

/-- The accounts of an evaluation that has just released its instance. -/
theorem of_release (hst : st.holds = false) (hbegun : st ≠ .fresh) :
    Account (l.release i) i st where
  fresh hfresh := absurd hfresh hbegun
  held hholds := by
    rw [hst] at hholds
    cases hholds
  freed _ _ := by
    rw [Ledger.released_release]
    exact List.mem_cons_self

/-- An evaluation that goes on without its instance being touched. -/
theorem move {st' : Stage} (h : Account l i st) (hholds : st'.holds = st.holds)
    (hbegun : st' ≠ .fresh) : Account l i st' where
  fresh hfresh := absurd hfresh hbegun
  held hst := h.held (hholds ▸ hst)
  freed hst := h.freed (hholds ▸ hst)

/-- The instance that an evaluation holds was created once and not released. -/
theorem count_of_holds (h : Account l i st) (hl : l.Lawful) (hst : st.holds = true) :
    l.created.count i = 1 ∧ l.released.count i = 0 := by
  obtain ⟨hin, hout⟩ := h.held hst
  rw [hl.count_created, hl.count_released]
  exact ⟨if_pos hin, if_neg hout⟩

/-- An evaluation that holds no instance has released each that it created, once. -/
theorem count_of_not_holds (h : Account l i st) (hl : l.Lawful) (hst : st.holds = false) :
    l.released.count i = l.created.count i := by
  have hiff : i ∈ l.released ↔ i ∈ l.created :=
    ⟨fun hout => hl.released_subset hout, h.freed hst⟩
  rw [hl.count_released, hl.count_created]
  exact if_congr hiff rfl rfl

end Account

namespace Session

variable {s s' : Session} {x : Context} {r : Run}

/-- The ledger is lawful and in accord with the stages of all evaluations. -/
structure Accounts (s : Session) : Prop where
  lawful : s.ledger.Lawful
  account : ∀ i, Account s.ledger i (s.stage i)

theorem accounts_ofEvaluator (e : Evaluator) : (ofEvaluator e).Accounts where
  lawful := Ledger.lawful_empty
  account _ := {
    fresh := fun _ => List.not_mem_nil
    held := fun h => by cases h
    freed := fun _ h => absurd h List.not_mem_nil }

/-- Whatever happens to an evaluation and its instance, the session stays in accord. -/
theorem Accounts.effect (h : s.Accounts) (he : Effect i s s') : s'.Accounts := by
  cases he with
  | quiet hledger hstage =>
    refine ⟨hledger ▸ h.lawful, fun j => ?_⟩
    rw [hledger, hstage]
    exact h.account j
  | created hfresh _ hledger hholds hother =>
    -- an evaluation that was not polled has no instance yet
    have hnew : i ∉ s.ledger.created := (h.account i).fresh hfresh
    have hout : i ∉ s.ledger.released := fun hin => hnew (h.lawful.released_subset hin)
    refine ⟨hledger ▸ h.lawful.create hnew, fun j => ?_⟩
    rw [hledger]
    by_cases hj : j = i
    · subst hj
      exact .of_create hholds hout
    · rw [hother j hj]
      exact (h.account j).create_of_ne hj
  | released hholds hledger hdone hbegun hother =>
    -- the instance that it holds is live
    obtain ⟨hin, hout⟩ := (h.account i).held hholds
    refine ⟨hledger ▸ h.lawful.release hin hout, fun j => ?_⟩
    rw [hledger]
    by_cases hj : j = i
    · subst hj
      exact .of_release hdone hbegun
    · rw [hother j hj]
      exact (h.account j).release_of_ne hj
  | moved _ hledger hholds hbegun hother =>
    refine ⟨hledger ▸ h.lawful, fun j => ?_⟩
    rw [hledger]
    by_cases hj : j = i
    · subst hj
      exact (h.account j).move hholds hbegun
    · rw [hother j hj]
      exact h.account j

theorem Accounts.perform (h : s.Accounts) (op : Operation) : (s.perform op).Accounts := by
  obtain ⟨i, he⟩ := s.effect_perform op
  exact h.effect he

theorem Accounts.of_reaches (h : s.Accounts) (hs : s.Reaches s') : s'.Accounts := by
  -- the accounts are the invariant of the whole run
  obtain ⟨ops, rfl⟩ := hs
  induction ops generalizing s with
  | nil => exact h
  | cons op ops ih => exact ih (h.perform op)

/-- Every session that operations lead to is in accord. -/
theorem accounts_performAll (e : Evaluator) (ops : List Operation) :
    ((ofEvaluator e).performAll ops).Accounts :=
  (accounts_ofEvaluator e).of_reaches ⟨ops, rfl⟩

namespace Accounts

/-- The count is the number of the instances that were created and not released. -/
theorem ledger_live_eq (h : s.Accounts) : s.ledger.live =
    (s.ledger.created.filter (· ∉ s.ledger.released)).length := by
  rw [h.lawful.live]
  exact h.lawful.entries.balance_eq

theorem coe_live (h : s.Accounts) : (s.live : Int) = s.ledger.live := by
  rw [live, h.ledger_live_eq]
  rfl

theorem live_eq (h : s.Accounts) : s.live =
    (s.ledger.created.filter (· ∉ s.ledger.released)).length := by
  have hlive := h.coe_live.trans h.ledger_live_eq
  exact Int.ofNat_inj.mp hlive

/-- The count was never below zero. -/
theorem live_nonneg (h : s.Accounts) : ∀ entry ∈ s.ledger.entries, 0 ≤ entry.live := by
  intro entry hentry
  obtain ⟨later, earlier, hsplit⟩ := List.mem_iff_append.mp hentry
  -- the entries up to this one are lawful by themselves
  have hlawful : Lawful (entry :: earlier) :=
    h.lawful.entries.of_suffix ⟨later, hsplit.symm⟩
  exact hlawful.live_nonneg

end Accounts

/-! ### Contexts that are done -/

/-- An evaluation has created no instance, and its context is done. -/
structure IsBarred (s : Session) (i : Nat) : Prop where
  created : i ∉ s.ledger.created
  done : ∃ r : Run, s.runs[i]? = some r ∧ (s.done r.context).isSome

/-- An evaluation whose context is done does not create an instance. -/
theorem IsBarred.effect (h : s.IsBarred j) (he : Effect i s s') : j ∉ s'.ledger.created := by
  cases he with
  | quiet hledger _ => exact hledger ▸ h.created
  | created _ hrun hledger _ _ =>
    rw [hledger, Ledger.created_create, List.mem_cons]
    -- an instance is only created under a context that is not done
    refine not_or.mpr ⟨fun hj => ?_, h.created⟩
    subst hj
    obtain ⟨r, hr, hdone⟩ := h.done
    obtain ⟨r', hr', hnot⟩ := hrun
    obtain rfl := Option.some.inj (hr.symm.trans hr')
    rw [hnot] at hdone
    cases hdone
  | released _ hledger _ _ _ =>
    rw [hledger, Ledger.created_release]
    exact h.created
  | moved _ hledger _ _ _ => exact hledger ▸ h.created

/-- A context that is done bars its evaluations for good. -/
theorem IsBarred.perform (h : s.IsBarred j) (op : Operation) : (s.perform op).IsBarred j := by
  obtain ⟨i, he⟩ := s.effect_perform op
  refine ⟨h.effect he, ?_⟩
  -- the evaluation is still bound to the context, and that is still done
  have hlater := s.later_perform op
  obtain ⟨r, hr, hdone⟩ := h.done
  obtain ⟨r', hr', hx⟩ := hlater.runs j r hr
  exact ⟨r', hr', hx ▸ done_of_later hlater hdone⟩

theorem IsBarred.of_reaches (h : s.IsBarred j) (hs : s.Reaches s') : s'.IsBarred j := by
  obtain ⟨ops, rfl⟩ := hs
  induction ops generalizing s with
  | nil => exact h
  | cons op ops ih => exact ih (h.perform op)

theorem getElem?_begin (s : Session) (limits : Limits) (x : Context) (source : String) :
    (s.begin limits x source).2.runs[s.runs.size]? =
      some { limits, context := x, source } :=
  Array.getElem?_push_size

/-- An evaluation that is called for when its context is done is barred from the beginning. -/
theorem Accounts.isBarred_begin (h : s.Accounts) (limits : Limits) (source : String)
    (hdone : (s.done x).isSome) : (s.begin limits x source).2.IsBarred s.runs.size := by
  refine ⟨(h.account s.runs.size).fresh ?_, _, s.getElem?_begin limits x source, hdone⟩
  rw [stage, Array.getElem?_eq_none (Nat.le_refl _)]
  rfl

/-- Otherwise the first poll creates the instance. -/
theorem ledger_enter (hr : s.runs[i]? = some r) (hst : r.stage = .fresh)
    (hdone : s.done r.context = none) : (s.enter i).ledger = s.ledger.create i := by
  obtain ⟨limits, x, source, st⟩ := r
  dsimp only at hst hdone
  subst hst
  unfold enter
  rw [hr]
  dsimp only
  rw [hdone]
  rfl

/-! ### The end of an evaluation -/

/-- The part of the count that an evaluation does not have to account for. -/
def liveBut (s : Session) (i : Nat) : Int := s.ledger.live - (s.stage i).holds.toInt

/-- What happens to an evaluation and its instance does not touch the rest of the count. -/
theorem liveBut_effect (he : Effect i s s') : s'.liveBut i = s.liveBut i := by
  unfold liveBut
  cases he with
  | quiet hledger hstage => rw [hledger, hstage]
  | created hfresh _ hledger hholds _ =>
    rw [hledger, hholds, hfresh, Ledger.live_create, Stage.holds_fresh, Bool.toInt_true,
      Bool.toInt_false]
    omega
  | released hholds hledger hdone _ _ =>
    rw [hledger, hdone, hholds, Ledger.live_release, Bool.toInt_true, Bool.toInt_false]
    omega
  | moved _ hledger hholds _ _ => rw [hledger, hholds]

/-- A poll is a sequence of effects on the evaluation that is polled. -/
theorem effects_poll (s : Session) (i limit : Nat) :
    Relation.ReflTransGen (Effect i) s (s.poll i limit) := by
  unfold poll
  have hturns := ((Relation.ReflTransGen.single (s.effect_enter i)).tail
    (effect_turn _ i limit .cancellation)).tail (effect_turn _ i limit .deadline)
  exact (hturns.tail (effect_turn _ i limit .guest)).tail (effect_leave _ i)

theorem liveBut_poll (s : Session) (i limit : Nat) : (s.poll i limit).liveBut i = s.liveBut i := by
  have h := s.effects_poll i limit
  generalize s.poll i limit = s' at h ⊢
  induction h with
  | refl => rfl
  | tail _ he ih => exact (liveBut_effect he).trans ih

theorem liveBut_complete (s : Session) (i : Nat) : (s.complete i).2.liveBut i = s.liveBut i := by
  unfold complete
  dsimp only
  exact s.liveBut_poll i _

/-- A completed evaluation is not counted any more, and nothing else has changed in the count. -/
theorem live_complete (hr : s.runs[i]? = some r) (hst : r.stage ≠ .dropped) :
    (s.complete i).2.ledger.live = s.ledger.live - r.stage.holds.toInt := by
  -- it holds nothing now, so what it accounted for is gone
  have h := s.liveBut_complete i
  rw [liveBut, liveBut, stage_complete hr hst, stage_eq hr, Stage.holds_returned,
    Bool.toInt_false] at h
  omega

theorem stage_evaluateWithin (s : Session) (limits : Limits) (x : Context) (source : String) :
    (s.evaluateWithin limits x source).2.stage s.runs.size =
      .returned (s.evaluateWithin limits x source).1 := by
  rw [evaluateWithin_eq]
  exact stage_complete (s.getElem?_begin limits x source) nofun

/-- An evaluation leaves the count as it was. -/
theorem live_evaluateWithin (s : Session) (limits : Limits) (x : Context) (source : String) :
    (s.evaluateWithin limits x source).2.live = s.live := by
  have h := live_complete (s.getElem?_begin limits x source) nofun
  rw [Stage.holds_fresh, Bool.toInt_false, Int.sub_zero] at h
  rw [evaluateWithin_eq, live, h]
  rfl

theorem Accounts.not_created_evaluateWithin (h : s.Accounts) (limits : Limits) (source : String)
    (hdone : (s.done x).isSome) :
    s.runs.size ∉ (s.evaluateWithin limits x source).2.ledger.created := by
  rw [evaluateWithin_eq]
  exact ((h.isBarred_begin limits source hdone).of_reaches (reaches_complete _ _)).created

theorem holds_drop (s : Session) (i : Nat) : ((s.drop i).stage i).holds = false := by
  unfold drop
  dsimp only
  split_ifs with hover hholds
  · cases hst : s.stage i with
    | returned | dropped | fresh => rfl
    | racing | decided => simp [hst, Stage.isOver] at hover
  · obtain ⟨r, hr, -⟩ := exists_run (s := s) (i := i) fun h => by simp [h] at hholds
    have hr' : (s.release i).runs[i]? = some r := hr
    rw [stage_put_self hr']
    rfl
  · cases hr : s.runs[i]? with
    | none =>
      rw [stage, getElem?_put, if_pos rfl, hr]
      rfl
    | some r =>
      rw [stage_put_self hr]
      rfl

/-! ### The count -/

/-- Whatever evaluations of one guest do, in whatever order, the count is the number of instances
that were created and not released, and was never below zero. An evaluation creates one instance at
most, keeps it while it holds it, and has released it once when it does not, so also when it has
returned or was dropped. It creates none if its context is done, and one if not. An evaluation that
is called for and polled to its end has returned, and is not counted any more. -/
theorem live_instances (e : Evaluator) (ops : List Operation) :
    let s := (ofEvaluator e).performAll ops
    ((s.live : Int) = s.ledger.live ∧
      s.live = (s.ledger.created.filter (· ∉ s.ledger.released)).length ∧
      ∀ entry ∈ s.ledger.entries, 0 ≤ entry.live) ∧
    (∀ i, s.ledger.created.count i ≤ 1 ∧
      ((s.stage i).holds = true →
        s.ledger.created.count i = 1 ∧ s.ledger.released.count i = 0) ∧
      ((s.stage i).holds = false → s.ledger.released.count i = s.ledger.created.count i) ∧
      ((s.stage i).isOver = true → s.ledger.released.count i = s.ledger.created.count i) ∧
      (s.drop i).ledger.released.count i = (s.drop i).ledger.created.count i) ∧
    (∀ i r, s.runs[i]? = some r → r.stage = .fresh →
      ((s.done r.context).isSome → ∀ ops', i ∉ (s.performAll ops').ledger.created) ∧
      (s.done r.context = none → i ∈ (s.enter i).ledger.created)) ∧
    ∀ limits x source,
      let c := s.evaluateWithin limits x source
      let i := s.runs.size
      c.2.stage i = .returned c.1 ∧ c.2.ledger.released.count i = c.2.ledger.created.count i ∧
        c.2.live = s.live ∧ ((s.done x).isSome → i ∉ c.2.ledger.created) := by
  intro s
  have h : s.Accounts := accounts_performAll e ops
  refine ⟨⟨h.coe_live, h.live_eq, h.live_nonneg⟩, fun i => ?_, fun i r hr hst => ?_,
    fun limits x source => ?_⟩
  · -- what holds of any stage without an instance holds of those at the end
    have hfree (hst : (s.stage i).holds = false) :=
      (h.account i).count_of_not_holds h.lawful hst
    have hdrop : (s.drop i).Accounts := h.effect (s.effect_drop i)
    exact ⟨h.lawful.count_created_le i, (h.account i).count_of_holds h.lawful, hfree,
      fun hover => hfree (Stage.holds_of_isOver hover),
      (hdrop.account i).count_of_not_holds hdrop.lawful (s.holds_drop i)⟩
  · constructor
    · intro hdone ops'
      have hnew : i ∉ s.ledger.created := (h.account i).fresh (stage_eq hr ▸ hst)
      -- nothing that happens later undoes that the context is done
      have hbarred : s.IsBarred i := ⟨hnew, r, hr, hdone⟩
      exact (hbarred.of_reaches ⟨ops', rfl⟩).created
    · intro hdone
      rw [ledger_enter hr hst hdone, Ledger.created_create]
      exact List.mem_cons_self
  · have hend : (s.evaluateWithin limits x source).2.Accounts :=
      h.of_reaches (s.reaches_evaluateWithin limits x source)
    have hreturned := s.stage_evaluateWithin limits x source
    refine ⟨hreturned, ?_, s.live_evaluateWithin limits x source,
      h.not_created_evaluateWithin limits source⟩
    refine (hend.account _).count_of_not_holds hend.lawful ?_
    rw [hreturned, Stage.holds_returned]

end Session

end ScriptSandbox.Sandbox
