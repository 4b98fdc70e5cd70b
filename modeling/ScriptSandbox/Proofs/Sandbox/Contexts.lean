import Mathlib.Tactic.Common
import ScriptSandbox.Sandbox.Context

/-!
# Contexts that are done

Tokens are only ever added or canceled, and time does not go back. A context that is done therefore
stays so.

## Main definitions

* `Sandbox.Tokens.Extends`: a forest with more tokens, more of them canceled

## Main results

* `Sandbox.Tokens.extends_add`, `Sandbox.Tokens.extends_addChild`, `Sandbox.Tokens.extends_cancel`:
  what is done to tokens extends them
* `Sandbox.Tokens.isCanceled_mono`: a canceled token stays canceled
* `Sandbox.Context.done_mono`: a context that is done stays done
-/

namespace ScriptSandbox.Sandbox

namespace Tokens

variable {ts ts' ts'' : Tokens} {t : Nat}

/-- All tokens are still there, in their places, and those that were canceled are. -/
def Extends (ts ts' : Tokens) : Prop :=
  ∀ (t : Nat) (token : Token), ts.tokens[t]? = some token →
    ∃ token' : Token, ts'.tokens[t]? = some token' ∧ token'.parent = token.parent ∧
      (token.canceled → token'.canceled)

theorem Extends.refl (ts : Tokens) : ts.Extends ts := fun _ token h => ⟨token, h, rfl, id⟩

theorem Extends.trans (h : ts.Extends ts') (h' : ts'.Extends ts'') : ts.Extends ts'' := by
  intro t token ht
  obtain ⟨token', ht', hparent, hcanceled⟩ := h t token ht
  obtain ⟨token'', ht'', hparent', hcanceled'⟩ := h' t token' ht'
  exact ⟨token'', ht'', hparent'.trans hparent, hcanceled' ∘ hcanceled⟩

theorem extends_push (ts : Tokens) (token : Token) : ts.Extends ⟨ts.tokens.push token⟩ := by
  intro t token' ht
  have hlt : t < ts.tokens.size := (Array.getElem?_eq_some_iff.mp ht).1
  exact ⟨token', by simpa [Array.getElem?_push, Nat.ne_of_lt hlt] using ht, rfl, id⟩

theorem extends_add (ts : Tokens) : ts.Extends ts.add.2 := extends_push ts _

theorem extends_addChild (ts : Tokens) (parent : Nat) : ts.Extends (ts.addChild parent).2 :=
  extends_push ts _

theorem extends_cancel (ts : Tokens) (t : Nat) : ts.Extends (ts.cancel t) := by
  intro u token hu
  -- only the token in question changes, and it keeps its parent
  rw [cancel, Array.getElem?_modify, hu]
  by_cases heq : t = u
  · exact ⟨{ token with canceled := true }, by simp [heq], rfl, fun _ => rfl⟩
  · exact ⟨token, by simp [heq], rfl, id⟩

/-- A token stays canceled. The induction follows the token's ancestors, which precede it. -/
theorem isCanceled_mono (h : ts.Extends ts') (hc : ts.isCanceled t) : ts'.isCanceled t := by
  induction t using Nat.strongRecOn with
  | ind t ih =>
    rw [isCanceled] at hc ⊢
    cases ht : ts.tokens[t]? with
    | none => simp [ht] at hc
    | some token =>
      obtain ⟨token', ht', hparent, hcanceled⟩ := h t token ht
      rw [ht] at hc
      rw [ht']
      simp only [Bool.or_eq_true, hparent] at hc ⊢
      rcases hc with hc | hc
      · exact .inl (hcanceled hc)
      · right
        -- the token above is the same, and it precedes this one
        cases hp : token.parent with
        | none => simp [hp] at hc
        | some p =>
          simp only [hp] at hc ⊢
          split_ifs at hc ⊢ with hlt
          exact ih p hlt hc

end Tokens

/-- A context that is done stays done. -/
theorem Context.done_mono {x : Context} {ts ts' : Tokens} {now now' : Nat} (h : ts.Extends ts')
    (hnow : now ≤ now') (hdone : (x.done ts now).isSome) : (x.done ts' now').isSome := by
  unfold Context.done at hdone ⊢
  -- a cancellation that has come meanwhile also makes the context done
  by_cases hc : ts'.isCanceled x.token
  · rw [if_pos hc]
    rfl
  · have hc' : ¬ ts.isCanceled x.token := fun h' => hc (Tokens.isCanceled_mono h h')
    rw [if_neg hc'] at hdone
    rw [if_neg hc]
    split_ifs at hdone with hd
    · rw [if_pos (Nat.le_trans hd hnow)]
      rfl
    · cases hdone

end ScriptSandbox.Sandbox
