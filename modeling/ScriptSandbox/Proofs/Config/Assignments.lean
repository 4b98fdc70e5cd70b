import ScriptSandbox.Proofs.Except

/-!
# Assignments in turn

A state has parts. A list of items is gone through; each item is about some parts, sets these and
leaves the others as they are, or fails. If no two items are about the same part, the order of the
items does not matter: the result is the state in which every part fits the item about it, if there
is one, and is as before if there is none.

## Main definitions

* `Assigns`: a step that sets the parts which an item is about

## Main results

* `foldlM_eq_ok_iff`: one step after another, as conditions on the parts
-/

namespace ScriptSandbox

/-- A step that sets the parts which an item is about. -/
structure Assigns {ε σ κ ω : Type} (view : σ → κ → ω) (step : σ → Except ε σ) (About : κ → Prop)
    (Fits : κ → ω → Prop) : Prop where
  fits : ∀ {s s' : σ} {k : κ}, step s = .ok s' → About k → Fits k (view s' k)
  keeps : ∀ {s s' : σ} {k : κ}, step s = .ok s' → ¬About k → view s' k = view s k
  /-- If there is a state that fits the item, the step succeeds. -/
  succeeds : ∀ (s : σ) {t : σ}, (∀ k, About k → Fits k (view t k)) →
    ∃ s', step s = .ok s' ∧ ∀ k, About k → view s' k = view t k

/-- An item that is about nothing sets nothing. -/
theorem Assigns.of_forall_not {ε σ κ ω : Type} {view : σ → κ → ω} {About : κ → Prop}
    {Fits : κ → ω → Prop} (h : ∀ k, ¬About k) :
    Assigns view (fun s => (.ok s : Except ε σ)) About Fits where
  fits _ hk := absurd hk (h _)
  keeps hs _ := Except.ok.inj hs ▸ rfl
  succeeds s _ _ := ⟨s, rfl, fun k hk => absurd hk (h k)⟩

variable {ε σ κ ω α : Type} {view : σ → κ → ω} {step : σ → α → Except ε σ} {About : α → κ → Prop}
  {Fits : α → κ → ω → Prop} {as : List α} {s s' : σ}

/-- No step changes a part that no item is about. -/
theorem view_eq_of_foldlM (hsteps : ∀ a ∈ as, Assigns view (step · a) (About a) (Fits a)) {k : κ}
    (hk : ∀ a ∈ as, ¬About a k) (h : as.foldlM step s = .ok s') : view s' k = view s k := by
  induction as generalizing s with
  | nil =>
    obtain rfl := Except.ok.inj h
    rfl
  | cons a as ih =>
    rw [List.foldlM_cons] at h
    obtain ⟨s₁, hstep, hrest⟩ := bind_eq_ok_iff.mp h
    obtain ⟨ha, has⟩ := List.forall_mem_cons.mp hsteps
    obtain ⟨hka, hkas⟩ := List.forall_mem_cons.mp hk
    exact (ih has hkas hrest).trans (ha.keeps hstep hka)

/-- Every part fits the item about it. -/
theorem fits_of_foldlM (hsteps : ∀ a ∈ as, Assigns view (step · a) (About a) (Fits a))
    (hapart : as.Pairwise fun a b => ∀ k, About a k → ¬About b k) (h : as.foldlM step s = .ok s')
    {a : α} (ha : a ∈ as) {k : κ} (hk : About a k) : Fits a k (view s' k) := by
  induction as generalizing s with
  | nil => cases ha
  | cons b as ih =>
    rw [List.foldlM_cons] at h
    obtain ⟨s₁, hstep, hrest⟩ := bind_eq_ok_iff.mp h
    obtain ⟨hb, hbehind⟩ := List.forall_mem_cons.mp hsteps
    obtain ⟨hothers, hapart⟩ := List.pairwise_cons.mp hapart
    obtain rfl | ha := List.mem_cons.mp ha
    · -- the items behind this one are about other parts
      have hkept : view s' k = view s₁ k :=
        view_eq_of_foldlM hbehind (fun c hc => hothers c hc k hk) hrest
      exact hkept ▸ hb.fits hstep hk
    · exact ih hbehind hapart hrest ha

/-- A state whose parts fit the items, and are as before where there is no item, is reached. -/
theorem foldlM_eq_ok (hext : ∀ {s s' : σ}, (∀ k, view s k = view s' k) → s = s')
    (hsteps : ∀ a ∈ as, Assigns view (step · a) (About a) (Fits a))
    (hfits : ∀ a ∈ as, ∀ k, About a k → Fits a k (view s' k))
    (hkeeps : ∀ k, (∀ a ∈ as, ¬About a k) → view s' k = view s k) :
    as.foldlM step s = .ok s' := by
  induction as generalizing s with
  | nil => exact congrArg Except.ok (hext fun k => (hkeeps k nofun).symm)
  | cons a as ih =>
    obtain ⟨ha, hsteps⟩ := List.forall_mem_cons.mp hsteps
    obtain ⟨hafits, hfits⟩ := List.forall_mem_cons.mp hfits
    obtain ⟨s₁, hstep, hs₁⟩ := ha.succeeds s hafits
    rw [List.foldlM_cons]
    refine bind_eq_ok_iff.mpr ⟨s₁, hstep, ih hsteps hfits fun k hk => ?_⟩
    -- a part that no later item is about is as this item has set it, or as before
    by_cases hka : About a k
    · exact (hs₁ k hka).symm
    · exact (hkeeps k (List.forall_mem_cons.mpr ⟨hka, hk⟩)).trans (ha.keeps hstep hka).symm

theorem foldlM_eq_ok_iff (hext : ∀ {s s' : σ}, (∀ k, view s k = view s' k) → s = s')
    (hsteps : ∀ a ∈ as, Assigns view (step · a) (About a) (Fits a))
    (hapart : as.Pairwise fun a b => ∀ k, About a k → ¬About b k) :
    as.foldlM step s = .ok s' ↔
      (∀ a ∈ as, ∀ k, About a k → Fits a k (view s' k)) ∧
        ∀ k, (∀ a ∈ as, ¬About a k) → view s' k = view s k :=
  ⟨fun h => ⟨fun _ ha _ hk => fits_of_foldlM hsteps hapart h ha hk,
    fun _ hk => view_eq_of_foldlM hsteps hk h⟩,
    fun h => foldlM_eq_ok hext hsteps h.1 h.2⟩

end ScriptSandbox
