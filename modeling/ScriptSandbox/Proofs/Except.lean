import Mathlib.Data.List.Forall2

/-!
# Computations that may fail

A computation in steps succeeds if and only if each of its steps does, and then gives what the last
step gives.

## Main results

* `bind_eq_ok_iff`, `bind_eq_error_iff`: one step after another
* `mapError_eq_ok_iff`, `mapError_eq_error_iff`: a step whose errors are put in other words
* `map_eq_ok_iff`: a step whose result is put in another form
* `forall₂_of_mapM_eq_ok`: a step for every item
* `mapM_eq_ok_of_forall`: a step that succeeds for every item
* `rel_of_foldlM_eq_ok`: a relation that every step keeps
* `map_foldlM`: another form in which every step can be made
-/

namespace ScriptSandbox

/-- A computation that may fail succeeds when both of its parts do. -/
theorem bind_eq_ok_iff {ε α β : Type} {x : Except ε α} {f : α → Except ε β} {y : β} :
    x >>= f = .ok y ↔ ∃ a, x = .ok a ∧ f a = .ok y := by
  cases x <;> simp [bind, Except.bind]

/-- It fails when either of them does. -/
theorem bind_eq_error_iff {ε α β : Type} {x : Except ε α} {f : α → Except ε β} {e : ε} :
    x >>= f = .error e ↔ x = .error e ∨ ∃ a, x = .ok a ∧ f a = .error e := by
  cases x <;> simp [bind, Except.bind]

theorem mapError_eq_ok_iff {ε ε' α : Type} {f : ε → ε'} {x : Except ε α} {a : α} :
    x.mapError f = .ok a ↔ x = .ok a := by
  cases x <;> simp [Except.mapError]

theorem map_eq_ok_iff {ε α β : Type} {f : α → β} {x : Except ε α} {b : β} :
    x.map f = .ok b ↔ ∃ a, x = .ok a ∧ f a = b := by
  cases x <;> simp [Except.map]

theorem mapError_eq_error_iff {ε ε' α : Type} {f : ε → ε'} {x : Except ε α} {e : ε'} :
    x.mapError f = .error e ↔ ∃ e', x = .error e' ∧ f e' = e := by
  cases x <;> simp [Except.mapError]

theorem forall₂_of_mapM_eq_ok {ε α β : Type} {f : α → Except ε β} {as : List α} {bs : List β}
    (h : as.mapM f = .ok bs) : List.Forall₂ (fun a b => f a = .ok b) as bs := by
  induction as generalizing bs with
  | nil =>
    obtain rfl := Except.ok.inj h
    exact .nil
  | cons a as ih =>
    rw [List.mapM_cons] at h
    obtain ⟨b, hb, h⟩ := bind_eq_ok_iff.mp h
    obtain ⟨bs', hbs, h⟩ := bind_eq_ok_iff.mp h
    obtain rfl := Except.ok.inj h
    exact .cons hb (ih hbs)

theorem mapM_eq_ok_of_forall {ε α β : Type} {f : α → Except ε β} {g : α → β} {as : List α}
    (h : ∀ a ∈ as, f a = .ok (g a)) : as.mapM f = .ok (as.map g) := by
  induction as with
  | nil => rfl
  | cons a as ih =>
    obtain ⟨ha, has⟩ := List.forall_mem_cons.mp h
    rw [List.mapM_cons, ha, ih has, List.map_cons]
    rfl

/-- What a step keeps is kept when the step is made for every item in turn. -/
theorem rel_of_foldlM_eq_ok {ε α σ : Type} {R : σ → σ → Prop} {f : σ → α → Except ε σ}
    (hrefl : ∀ s, R s s) (htrans : ∀ s s' s'', R s s' → R s' s'' → R s s'')
    (hf : ∀ s a s', f s a = .ok s' → R s s') {as : List α} {s s' : σ}
    (h : as.foldlM f s = .ok s') : R s s' := by
  induction as generalizing s with
  | nil =>
    obtain rfl := Except.ok.inj h
    exact hrefl s
  | cons a as ih =>
    rw [List.foldlM_cons] at h
    obtain ⟨s₁, hs, h⟩ := bind_eq_ok_iff.mp h
    exact htrans s s₁ s' (hf s a s₁ hs) (ih h)

/-- If a step can as well be made after its argument is put in another form, so can the step for
every item in turn. -/
theorem map_foldlM {ε α σ τ : Type} {g : σ → τ} {f : σ → α → Except ε σ}
    {f' : τ → α → Except ε τ} (hf : ∀ s a, (f s a).map g = f' (g s) a) (as : List α) (s : σ) :
    (as.foldlM f s).map g = as.foldlM f' (g s) := by
  induction as generalizing s with
  | nil => rfl
  | cons a as ih =>
    rw [List.foldlM_cons, List.foldlM_cons, ← hf s a]
    cases f s a with
    | error e => rfl
    | ok s₁ => exact ih s₁

end ScriptSandbox
