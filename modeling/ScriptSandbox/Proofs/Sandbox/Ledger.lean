import Mathlib.Data.List.Perm.Basic
import ScriptSandbox.Sandbox.Ledger

/-!
# Lawful ledgers

A ledger is lawful if no instance is created twice, only live instances are released, and every
entry notes the count that it leads to. Then the count is the number of instances that were created
and not released, and it was never below zero.

## Main definitions

* `Sandbox.balance`: how many more instances were created than released
* `Sandbox.Lawful`, `Sandbox.Ledger.Lawful`: lawful entries and lawful ledgers

## Main results

* `Sandbox.Lawful.balance_eq`: the balance counts the instances that are not released
* `Sandbox.Lawful.live_eq`, `Sandbox.Lawful.live_nonneg`: what an entry notes
* `Sandbox.Ledger.Lawful.create`, `Sandbox.Ledger.Lawful.release`: what keeps a ledger lawful
-/

namespace ScriptSandbox.Sandbox

variable {c : Change} {e : Entry} {es es' : List Entry} {i : Nat} {n : Int} {l : Ledger}

theorem owners_cons_self : owners c (⟨c, i, n⟩ :: es) = i :: owners c es := by
  rw [owners, List.filter_cons_of_pos (by simp), List.map_cons, owners]

theorem owners_cons_of_ne {c' : Change} (h : c' ≠ c) :
    owners c (⟨c', i, n⟩ :: es) = owners c es := by
  rw [owners, List.filter_cons_of_neg (by simpa using h), owners]

@[simp] theorem owners_created_cons_released :
    owners .created (⟨.released, i, n⟩ :: es) = owners .created es := owners_cons_of_ne (by decide)

@[simp] theorem owners_released_cons_created :
    owners .released (⟨.created, i, n⟩ :: es) = owners .released es := owners_cons_of_ne (by decide)

/-- How many more instances were created than released. -/
def balance (es : List Entry) : Int := (owners .created es).length - (owners .released es).length

/-- No instance is created twice, only live instances are released, and every entry notes the count
that it leads to. -/
inductive Lawful : List Entry → Prop where
  | nil : Lawful []
  | created {es : List Entry} {i : Nat} (h : Lawful es) (hnew : i ∉ owners .created es) :
      Lawful (⟨.created, i, balance es + 1⟩ :: es)
  | released {es : List Entry} {i : Nat} (h : Lawful es) (hin : i ∈ owners .created es)
      (hout : i ∉ owners .released es) : Lawful (⟨.released, i, balance es - 1⟩ :: es)

namespace Lawful

theorem of_cons (h : Lawful (e :: es)) : Lawful es := by
  cases h with
  | created h _ => exact h
  | released h _ _ => exact h

/-- The entries up to any earlier time are lawful. -/
theorem of_suffix (h : Lawful es) (hs : es' <:+ es) : Lawful es' := by
  induction es with
  | nil => rwa [List.suffix_nil.mp hs]
  | cons e es ih =>
    rcases List.suffix_cons_iff.mp hs with rfl | hs
    · exact h
    · exact ih h.of_cons hs

theorem nodup_created (h : Lawful es) : (owners .created es).Nodup := by
  induction h with
  | nil => exact .nil
  | created _ hnew ih =>
    rw [owners_cons_self]
    exact List.nodup_cons.mpr ⟨hnew, ih⟩
  | released _ _ _ ih => rwa [owners_created_cons_released]

theorem nodup_released (h : Lawful es) : (owners .released es).Nodup := by
  induction h with
  | nil => exact .nil
  | created _ _ ih => rwa [owners_released_cons_created]
  | released _ _ hout ih =>
    rw [owners_cons_self]
    exact List.nodup_cons.mpr ⟨hout, ih⟩

/-- Only instances that were created are released. -/
theorem released_subset (h : Lawful es) : owners .released es ⊆ owners .created es := by
  induction h with
  | nil => exact List.Subset.refl _
  | created _ _ ih =>
    rw [owners_released_cons_created, owners_cons_self]
    exact List.subset_cons_of_subset _ ih
  | released _ hin _ ih =>
    rw [owners_cons_self, owners_created_cons_released]
    exact List.cons_subset.mpr ⟨hin, ih⟩

/-- The balance counts the instances that were created and not released. -/
theorem balance_eq (h : Lawful es) :
    balance es = ((owners .created es).filter (· ∉ owners .released es)).length := by
  -- the others are the released ones, in some order
  have hperm : ((owners .created es).filter (· ∈ owners .released es)).Perm
      (owners .released es) := by
    rw [List.perm_ext_iff_of_nodup (h.nodup_created.filter _) h.nodup_released]
    intro i
    rw [List.mem_filter, decide_eq_true_iff, and_iff_right_iff_imp]
    exact fun hi => h.released_subset hi
  -- so the created ones are those released and those that are left
  have hsplit := List.length_eq_length_filter_add (l := owners .created es)
    (fun i => decide (i ∈ owners .released es))
  rw [hperm.length_eq] at hsplit
  simp only [decide_not]
  rw [balance, hsplit]
  omega

theorem balance_nonneg (h : Lawful es) : 0 ≤ balance es := by
  rw [h.balance_eq]
  exact Int.natCast_nonneg _

/-- Every entry notes the balance that it leads to. -/
theorem live_eq (h : Lawful (e :: es)) : e.live = balance (e :: es) := by
  cases h with
  | created _ _ =>
    simp only [balance, owners_cons_self, owners_released_cons_created, List.length_cons]
    omega
  | released _ _ _ =>
    simp only [balance, owners_cons_self, owners_created_cons_released, List.length_cons]
    omega

theorem live_nonneg (h : Lawful (e :: es)) : 0 ≤ e.live := h.live_eq ▸ h.balance_nonneg

end Lawful

namespace Ledger

/-- The entries are lawful, and the count is the one that they lead to. -/
structure Lawful (l : Ledger) : Prop where
  entries : Sandbox.Lawful l.entries
  live : l.live = balance l.entries

@[simp] theorem live_create : (l.create i).live = l.live + 1 := rfl

@[simp] theorem live_release : (l.release i).live = l.live - 1 := rfl

@[simp] theorem created_create : (l.create i).created = i :: l.created := owners_cons_self

@[simp] theorem released_create : (l.create i).released = l.released :=
  owners_released_cons_created

@[simp] theorem created_release : (l.release i).created = l.created :=
  owners_created_cons_released

@[simp] theorem released_release : (l.release i).released = i :: l.released :=
  owners_cons_self

theorem lawful_empty : Lawful {} := ⟨.nil, rfl⟩

/-- Only instances that were created are released. -/
theorem Lawful.released_subset (h : l.Lawful) : l.released ⊆ l.created := h.entries.released_subset

/-- No instance is created twice. -/
theorem Lawful.count_created (h : l.Lawful) (i : Nat) :
    l.created.count i = if i ∈ l.created then 1 else 0 :=
  h.entries.nodup_created.count

theorem Lawful.count_created_le (h : l.Lawful) (i : Nat) : l.created.count i ≤ 1 :=
  List.nodup_iff_count.mp h.entries.nodup_created i

/-- No instance is released twice. -/
theorem Lawful.count_released (h : l.Lawful) (i : Nat) :
    l.released.count i = if i ∈ l.released then 1 else 0 :=
  h.entries.nodup_released.count

theorem Lawful.create (h : l.Lawful) (hnew : i ∉ l.created) : (l.create i).Lawful := by
  have hentries : Sandbox.Lawful (l.create i).entries := by
    rw [Ledger.create, h.live]
    exact .created h.entries hnew
  exact ⟨hentries, hentries.live_eq⟩

theorem Lawful.release (h : l.Lawful) (hin : i ∈ l.created) (hout : i ∉ l.released) :
    (l.release i).Lawful := by
  have hentries : Sandbox.Lawful (l.release i).entries := by
    rw [Ledger.release, h.live]
    exact .released h.entries hin hout
  exact ⟨hentries, hentries.live_eq⟩

end Ledger

end ScriptSandbox.Sandbox
