import Mathlib.Tactic.Common
import ScriptSandbox.Sandbox.Shutdown

/-!
# Shutdowns during which nothing else happens

A shutdown of a host without instances is done at its first look, and takes no time. If there are
instances and none is released, it looks at them again and again and gives up when its time is over.

## Main results

* `Sandbox.Shutdown.steps_rounds`: one look after the other
* `Sandbox.Shutdown.run_eq`: what a shutdown comes to, and when
-/

namespace ScriptSandbox.Sandbox.Shutdown

variable {live now wake deadline : Nat}

/-! ### Single steps -/

theorem step_looking (hlive : live ≠ 0) :
    (looking deadline).step now live = .waiting (now + drainInterval) deadline := if_neg hlive

theorem step_waiting_of_le (h : wake ≤ now) :
    (waiting wake deadline).step now live = .looking deadline := if_pos h

theorem step_waiting_of_lt (h : now < wake) (hdeadline : deadline ≤ now) :
    (waiting wake deadline).step now live = .expired :=
  (if_neg (Nat.not_le.mpr h)).trans (if_pos hdeadline)

theorem due_waiting : (waiting wake deadline).due now = max now (min wake deadline) := rfl

/-- One of some steps comes when it is due. -/
theorem steps_succ (fuel : Nat) (s : Shutdown) : steps live (fuel + 1) now s =
    steps live fuel (s.due now) (s.step (s.due now) live) := rfl

/-! ### Rounds -/

section

variable (fuel : Nat)

theorem steps_done (now : Nat) (r : Except TeardownError Unit) :
    steps live fuel now (.done r) = (.done r, now) := by
  induction fuel with
  | zero => rfl
  | succ fuel ih => exact ih

/-- A look at instances that are live is followed by another one after the interval. -/
theorem steps_round (hlive : live ≠ 0) (h : now + drainInterval ≤ deadline) :
    steps live (fuel + 2) now (.looking deadline) =
      steps live fuel (now + drainInterval) (.looking deadline) := by
  have hnow : (looking deadline).due now = now := rfl
  have hdue : (waiting (now + drainInterval) deadline).due now = now + drainInterval := by
    rw [due_waiting, Nat.min_eq_left h, Nat.max_eq_right (Nat.le_add_right _ _)]
  rw [steps_succ, hnow, step_looking hlive, steps_succ, hdue,
    step_waiting_of_le (Nat.le_refl _)]

theorem steps_rounds (hlive : live ≠ 0) (rounds : Nat)
    (h : now + rounds * drainInterval ≤ deadline) :
    steps live (2 * rounds + fuel) now (.looking deadline) =
      steps live fuel (now + rounds * drainInterval) (.looking deadline) := by
  induction rounds generalizing now with
  | zero => rw [Nat.zero_mul, Nat.mul_zero, Nat.zero_add, Nat.add_zero]
  | succ rounds ih =>
    -- the first round takes two steps, the look and the sleep after it
    have hnow : now + drainInterval + rounds * drainInterval =
        now + (rounds + 1) * drainInterval := by
      rw [Nat.succ_mul, Nat.add_assoc, Nat.add_comm drainInterval]
    have hfuel : 2 * (rounds + 1) + fuel = 2 * rounds + fuel + 2 := by omega
    rw [← hnow] at h ⊢
    rw [hfuel, steps_round _ hlive (Nat.le_trans (Nat.le_add_right _ _) h), ih h]

/-- At the deadline there is one more look, and the shutdown gives up. -/
theorem steps_deadline (hlive : live ≠ 0) :
    steps live (fuel + 3) deadline (.looking deadline) =
      (.done (.error (.instancesInFlight live)), deadline) := by
  have hnow : (looking deadline).due deadline = deadline := rfl
  -- the sleep after the last look would end too late
  have hsleep : deadline < deadline + drainInterval := Nat.lt_add_of_pos_right (by decide)
  have hdue : (waiting (deadline + drainInterval) deadline).due deadline = deadline := by
    rw [due_waiting, Nat.min_eq_right (Nat.le_of_lt hsleep), Nat.max_self]
  have hexpired : expired.due deadline = deadline := rfl
  rw [steps_succ, hnow, step_looking hlive, steps_succ, hdue,
    step_waiting_of_lt hsleep (Nat.le_refl _), steps_succ, hexpired]
  exact steps_done fuel deadline _

end

/-- There are steps enough for all rounds, the last look and the end. -/
theorem exists_maxSteps_eq : ∃ rounds, maxSteps = 2 * rounds + 4 ∧
    rounds * drainInterval = drainTime := ⟨200, by decide, by decide⟩

theorem steps_start_zero (now : Nat) :
    steps 0 maxSteps now (start now) = (.done (.ok ()), now) := by
  obtain ⟨rounds, hsteps, -⟩ := exists_maxSteps_eq
  have hnow : (start now).due now = now := rfl
  have hlook : (start now).step now 0 = .done (.ok ()) := rfl
  rw [hsteps, steps_succ, hnow, hlook, steps_done]

theorem steps_start (hlive : live ≠ 0) (now : Nat) : steps live maxSteps now (start now) =
    (.done (.error (.instancesInFlight live)), now + drainTime) := by
  obtain ⟨rounds, hsteps, hrounds⟩ := exists_maxSteps_eq
  rw [hsteps, start, ← hrounds, steps_rounds 4 hlive rounds (Nat.le_refl _)]
  exact steps_deadline 1 hlive

/-- Without instances a shutdown succeeds at once, and otherwise it fails in the end. -/
theorem run_eq (now live : Nat) : run now live =
    if live = 0 then (.ok (), now) else (.error (.instancesInFlight live), now + drainTime) := by
  unfold run
  split_ifs with hlive
  · rw [hlive, steps_start_zero]
  · rw [steps_start hlive]

end ScriptSandbox.Sandbox.Shutdown
