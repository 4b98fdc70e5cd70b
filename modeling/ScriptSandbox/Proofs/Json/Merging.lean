import Mathlib.Data.List.Sort
import Mathlib.Data.String.Basic
import ScriptSandbox.Json.Basic

/-!
# Merged documents

What becomes of repeated members when a document is merged, stated without sorting: the members of
the merged object are in strict order of their names, and every name has the value that its last
member has in the text. This determines the merged document, so merging twice changes nothing.

## Main definitions

* `Json.Value.LastOfEach`: members in strict order, each the last of its name
* `Json.Value.MergesTo`: the document in which all repeated members are resolved
* `Json.Value.numbers`: all numbers of a document

## Main results

* `Json.Value.lastOfEach_iff`: the last members in strict order are the merged ones
* `Json.Value.mergesTo_iff`: a document merges to its merged form and to nothing else
* `Json.Value.merged_merged`: a merged document is its own merged form
* `Json.Value.depth_merged_le`, `Json.Value.numbers_merged_subset`: merging adds neither depth nor
  numbers
-/

namespace ScriptSandbox.Json.Value

variable {k : String} {m : String × Value} {ms ns : List (String × Value)} {v w : Value}
  {vs ws : List Value} {d : Nat} {n : Number}

/-! ### Neighbours of one name -/

theorem lookup_cons_of_eq (h : k = m.1) : (m :: ms).lookup k = some m.2 := by
  rw [h]
  exact List.lookup_cons_self

theorem lookup_cons_of_ne (h : k ≠ m.1) : (m :: ms).lookup k = ms.lookup k := by
  rw [← beq_eq_false_iff_ne] at h
  obtain ⟨k', v⟩ := m
  rw [List.lookup_cons, h]

theorem keepLast_sublist (ms : List (String × Value)) : (keepLast ms).Sublist ms := by
  induction ms using keepLast.induct with
  | case1 => exact .refl _
  | case2 m => exact .refl _
  | case3 m m' ms heq ih =>
    rw [keepLast, if_pos heq]
    exact ih.cons _
  | case4 m m' ms hne ih =>
    rw [keepLast, if_neg hne]
    exact ih.cons_cons _

/-- Among members sorted by name, one differs from its neighbour only if it precedes all others. -/
theorem lt_of_pairwise_of_ne {m' : String × Value}
    (h : (m :: m' :: ms).Pairwise (·.1 ≤ ·.1)) (hne : m.1 ≠ m'.1) :
    ∀ x ∈ m' :: ms, m.1 < x.1 := by
  intro x hx
  rw [List.pairwise_cons] at h
  have hm' : m.1 < m'.1 := lt_of_le_of_ne (h.1 m' List.mem_cons_self) hne
  rcases List.mem_cons.mp hx with rfl | hx
  · exact hm'
  · exact lt_of_lt_of_le hm' (List.rel_of_pairwise_cons h.2 hx)

theorem pairwise_keepLast (h : ms.Pairwise (·.1 ≤ ·.1)) :
    (keepLast ms).Pairwise (·.1 < ·.1) := by
  induction ms using keepLast.induct with
  | case1 => exact .nil
  | case2 m => exact List.pairwise_singleton _ _
  | case3 m m' ms heq ih =>
    rw [keepLast, if_pos heq]
    exact ih h.tail
  | case4 m m' ms hne ih =>
    rw [keepLast, if_neg hne, List.pairwise_cons]
    refine ⟨fun x hx => ?_, ih h.tail⟩
    exact lt_of_pairwise_of_ne h hne x ((keepLast_sublist _).subset hx)

theorem keepLast_of_pairwise (h : ms.Pairwise (·.1 < ·.1)) : keepLast ms = ms := by
  induction ms using keepLast.induct with
  | case1 => rfl
  | case2 m => rfl
  | case3 m m' ms heq ih =>
    have hlt := List.rel_of_pairwise_cons h List.mem_cons_self
    exact absurd heq hlt.ne
  | case4 m m' ms hne ih => rw [keepLast, if_neg hne, ih h.tail]

/-- Among sorted members, the one that is kept of a name is the last. -/
theorem lookup_keepLast (h : ms.Pairwise (·.1 ≤ ·.1)) :
    (keepLast ms).lookup k = ms.reverse.lookup k := by
  induction ms using keepLast.induct with
  | case1 => rfl
  | case2 m => rfl
  | case3 m m' ms heq ih =>
    -- the first of two neighbours is left out
    rw [keepLast, if_pos heq, ih h.tail, List.reverse_cons (a := m), List.lookup_append]
    by_cases hk : k = m.1
    · -- the neighbour of the same name comes later
      have hsome : ((m' :: ms).reverse.lookup k).isSome := by
        rw [List.lookup_isSome_iff]
        exact ⟨m', by simp, by simp [hk, heq]⟩
      rw [Option.or_of_isSome hsome]
    · rw [lookup_cons_of_ne hk, List.lookup_nil, Option.or_none]
  | case4 m m' ms hne ih =>
    rw [keepLast, if_neg hne, List.reverse_cons, List.lookup_append, ← ih h.tail]
    by_cases hk : k = m.1
    · -- no later member has this name
      have hnone : (keepLast (m' :: ms)).lookup k = none := by
        rw [List.lookup_eq_none_iff]
        intro x hx
        have hlt := lt_of_pairwise_of_ne h hne x ((keepLast_sublist _).subset hx)
        simpa [hk] using hlt.ne
      rw [hnone, Option.none_or, lookup_cons_of_eq hk, lookup_cons_of_eq hk]
    · rw [lookup_cons_of_ne hk, lookup_cons_of_ne hk, List.lookup_nil, Option.or_none]

/-! ### Sorted members -/

/-- The order by which members are sorted. -/
def namesLe (m m' : String × Value) : Bool := !decide (m'.1 < m.1)

theorem namesLe_iff {m' : String × Value} : namesLe m m' = true ↔ m.1 ≤ m'.1 := by
  rw [namesLe, Bool.not_eq_true', decide_eq_false_iff_not, not_lt]

theorem namesLe_trans (a b c : String × Value) (hab : namesLe a b) (hbc : namesLe b c) :
    namesLe a c :=
  namesLe_iff.mpr (le_trans (namesLe_iff.mp hab) (namesLe_iff.mp hbc))

theorem namesLe_total (a b : String × Value) : namesLe a b || namesLe b a := by
  rw [Bool.or_eq_true, namesLe_iff, namesLe_iff]
  exact le_total a.1 b.1

theorem pairwise_sorted (ms : List (String × Value)) :
    (ms.mergeSort namesLe).Pairwise (·.1 ≤ ·.1) :=
  (List.pairwise_mergeSort namesLe_trans namesLe_total ms).imp namesLe_iff.mp

/-- Sorting does not move members of one name past each other. -/
theorem filter_sorted (ms : List (String × Value)) (k : String) :
    (ms.mergeSort namesLe).filter (k == ·.1) = ms.filter (k == ·.1) := by
  have hpairwise : (ms.filter (k == ·.1)).Pairwise (namesLe · ·) := by
    refine List.Pairwise.imp_of_mem ?_ (List.pairwise_of_forall fun _ _ => trivial)
    intro a b ha hb _
    have ha := beq_iff_eq.mp (List.mem_filter.mp ha).2
    have hb := beq_iff_eq.mp (List.mem_filter.mp hb).2
    exact namesLe_iff.mpr (ha ▸ hb ▸ le_rfl)
  -- members of one name are in order already, and sorting keeps what is in order
  have hsub := (List.sublist_mergeSort namesLe_trans namesLe_total hpairwise
    List.filter_sublist).filter (k == ·.1)
  simp only [List.filter_filter, Bool.and_self] at hsub
  refine (hsub.eq_of_length ?_).symm
  exact ((List.mergeSort_perm ms namesLe).filter _).length_eq.symm

/-- The value found under a name depends on the members of that name only. -/
theorem lookup_filter (ms : List (String × Value)) (k : String) :
    (ms.filter (k == ·.1)).lookup k = ms.lookup k := by
  induction ms with
  | nil => rfl
  | cons m ms ih =>
    by_cases hk : k = m.1
    · rw [List.filter_cons_of_pos (by simpa using hk), lookup_cons_of_eq hk, lookup_cons_of_eq hk]
    · rw [List.filter_cons_of_neg (by simpa using hk), lookup_cons_of_ne hk, ih]

theorem lookup_mergeMembers (ms : List (String × Value)) (k : String) :
    (mergeMembers ms).lookup k = ms.reverse.lookup k := by
  calc (mergeMembers ms).lookup k
      = (ms.mergeSort namesLe).reverse.lookup k := lookup_keepLast (pairwise_sorted ms)
    _ = ((ms.mergeSort namesLe).filter (k == ·.1)).reverse.lookup k := by
        rw [← List.filter_reverse, lookup_filter]
    _ = ms.reverse.lookup k := by rw [filter_sorted, ← List.filter_reverse, lookup_filter]

theorem mergeMembers_subset (ms : List (String × Value)) : mergeMembers ms ⊆ ms := by
  intro m hm
  exact List.mem_mergeSort.mp ((keepLast_sublist _).subset hm)

/-! ### The last members -/

/-- `ns` are in strict order of their names and hold for every name the last value that `ms` have
under it. -/
structure LastOfEach (ms ns : List (String × Value)) : Prop where
  pairwise : ns.Pairwise (·.1 < ·.1)
  lookup : ∀ k, ns.lookup k = ms.reverse.lookup k

theorem lastOfEach_mergeMembers (ms : List (String × Value)) : LastOfEach ms (mergeMembers ms) :=
  ⟨pairwise_keepLast (pairwise_sorted ms), lookup_mergeMembers ms⟩

/-- Under distinct names, looking up finds each member. -/
theorem lookup_eq_some_iff_mem (h : ms.Pairwise (·.1 < ·.1)) :
    ms.lookup k = some v ↔ (k, v) ∈ ms := by
  induction ms with
  | nil => simp
  | cons m ms ih =>
    rw [List.pairwise_cons] at h
    rw [List.mem_cons]
    by_cases hk : k = m.1
    · have hnot : (k, v) ∉ ms := fun hmem => absurd hk (h.1 _ hmem).ne'
      rw [lookup_cons_of_eq hk, or_iff_left hnot, Option.some_inj, Prod.ext_iff]
      exact ⟨fun hv => ⟨hk, hv.symm⟩, fun hm => hm.2.symm⟩
    · have hne : (k, v) ≠ m := fun hm => hk (congrArg Prod.fst hm)
      rw [lookup_cons_of_ne hk, or_iff_right hne]
      exact ih h.2

/-- Members in strict order are determined by what is found under each name. -/
theorem eq_of_lookup_eq (hms : ms.Pairwise (·.1 < ·.1)) (hns : ns.Pairwise (·.1 < ·.1))
    (h : ∀ k, ms.lookup k = ns.lookup k) : ms = ns := by
  have nodup {l : List (String × Value)} (hl : l.Pairwise (·.1 < ·.1)) : l.Nodup :=
    hl.imp fun hlt heq => hlt.ne (congrArg Prod.fst heq)
  -- they have the same members, and the order leaves no choice
  have hperm : ms.Perm ns := by
    rw [List.perm_ext_iff_of_nodup (nodup hms) (nodup hns)]
    rintro ⟨k, v⟩
    rw [← lookup_eq_some_iff_mem hms, ← lookup_eq_some_iff_mem hns, h]
  refine hperm.eq_of_pairwise ?_ hms hns
  intro a b _ _ hab hba
  exact absurd hab hba.asymm

/-- The last members in strict order are the merged members. -/
theorem lastOfEach_iff : LastOfEach ms ns ↔ ns = mergeMembers ms := by
  constructor
  · intro h
    refine eq_of_lookup_eq h.pairwise (lastOfEach_mergeMembers ms).pairwise fun k => ?_
    rw [h.lookup, lookup_mergeMembers]
  · rintro rfl
    exact lastOfEach_mergeMembers ms

theorem mergeMembers_of_pairwise (h : ms.Pairwise (·.1 < ·.1)) : mergeMembers ms = ms := by
  have hsorted : ms.mergeSort namesLe = ms :=
    List.mergeSort_of_pairwise (h.imp fun hlt => namesLe_iff.mpr hlt.le)
  calc mergeMembers ms = keepLast ms := congrArg keepLast hsorted
    _ = ms := keepLast_of_pairwise h

/-! ### Merged documents -/

theorem mergedMembers_eq_map (ms : List (String × Value)) :
    mergedMembers ms = ms.map fun m => (m.1, m.2.merged) := by
  induction ms with
  | nil => rfl
  | cons m ms ih => rw [mergedMembers, ih, List.map_cons]

mutual

/-- `w` is `v` with repeated members resolved at every level: the last of each name, in the order
of the names. -/
inductive MergesTo : Value → Value → Prop where
  | null : MergesTo .null .null
  | bool {b : Bool} : MergesTo (.bool b) (.bool b)
  | number {n : Number} : MergesTo (.number n) (.number n)
  | string {s : String} : MergesTo (.string s) (.string s)
  | array {vs ws : List Value} (h : ItemsMergeTo vs ws) : MergesTo (.array vs) (.array ws)
  | object {ms ms' ns : List (String × Value)} (h : MembersMergeTo ms ms')
      (hlast : LastOfEach ms' ns) : MergesTo (.object ms) (.object ns)

/-- Item by item. -/
inductive ItemsMergeTo : List Value → List Value → Prop where
  | nil : ItemsMergeTo [] []
  | cons {v w : Value} {vs ws : List Value} (h : MergesTo v w) (hs : ItemsMergeTo vs ws) :
      ItemsMergeTo (v :: vs) (w :: ws)

/-- Member by member, under the same names. -/
inductive MembersMergeTo : List (String × Value) → List (String × Value) → Prop where
  | nil : MembersMergeTo [] []
  | cons {k : String} {v w : Value} {ms ns : List (String × Value)} (h : MergesTo v w)
      (hs : MembersMergeTo ms ns) : MembersMergeTo ((k, v) :: ms) ((k, w) :: ns)

end

mutual

theorem mergesTo_merged : (v : Value) → MergesTo v v.merged
  | .null => .null
  | .bool _ => .bool
  | .number _ => .number
  | .string _ => .string
  | .array vs => .array (itemsMergeTo_merged vs)
  | .object ms => .object (membersMergeTo_merged ms) (lastOfEach_mergeMembers _)

theorem itemsMergeTo_merged : (vs : List Value) → ItemsMergeTo vs (mergedItems vs)
  | [] => .nil
  | v :: vs => .cons (mergesTo_merged v) (itemsMergeTo_merged vs)

theorem membersMergeTo_merged :
    (ms : List (String × Value)) → MembersMergeTo ms (mergedMembers ms)
  | [] => .nil
  | (_, v) :: ms => .cons (mergesTo_merged v) (membersMergeTo_merged ms)

end

mutual

theorem MergesTo.eq_merged {v w : Value} : MergesTo v w → w = v.merged
  | .null | .bool | .number | .string => rfl
  | .array h => by rw [merged, h.eq_merged]
  | .object h hlast => by rw [merged, ← h.eq_merged, lastOfEach_iff.mp hlast]

theorem ItemsMergeTo.eq_merged {vs ws : List Value} : ItemsMergeTo vs ws → ws = mergedItems vs
  | .nil => rfl
  | .cons h hs => by rw [mergedItems, ← h.eq_merged, ← hs.eq_merged]

theorem MembersMergeTo.eq_merged {ms ns : List (String × Value)} :
    MembersMergeTo ms ns → ns = mergedMembers ms
  | .nil => rfl
  | .cons h hs => by rw [mergedMembers, ← h.eq_merged, ← hs.eq_merged]

end

/-- A document merges to its merged form and to nothing else. -/
theorem mergesTo_iff : MergesTo v w ↔ w = v.merged :=
  ⟨MergesTo.eq_merged, fun h => h ▸ mergesTo_merged v⟩

mutual

/-- A merged document is its own merged form. -/
theorem merged_merged : (v : Value) → v.merged.merged = v.merged
  | .null | .bool _ | .number _ | .string _ => rfl
  | .array vs => by rw [merged, merged, mergedItems_mergedItems vs]
  | .object ms => by
    have hsub := mergeMembers_subset (mergedMembers ms)
    -- every member that is kept has a merged value, and together they are in strict order
    have hfixed : mergedMembers (mergeMembers (mergedMembers ms)) =
        mergeMembers (mergedMembers ms) := by
      rw [mergedMembers_eq_map (mergeMembers _)]
      refine (List.map_congr_left fun m hm => ?_).trans (List.map_id _)
      exact Prod.ext rfl (merged_of_mem_mergedMembers ms m (hsub hm))
    rw [merged, merged, hfixed]
    congr 1
    exact mergeMembers_of_pairwise (pairwise_keepLast (pairwise_sorted _))

theorem mergedItems_mergedItems :
    (vs : List Value) → mergedItems (mergedItems vs) = mergedItems vs
  | [] => rfl
  | v :: vs => by
    rw [mergedItems, mergedItems, merged_merged v, mergedItems_mergedItems vs]

theorem merged_of_mem_mergedMembers : (ms : List (String × Value)) → ∀ m ∈ mergedMembers ms,
    m.2.merged = m.2
  | [], _, hm => absurd hm List.not_mem_nil
  | (_, v) :: ms, m, hm => by
    rcases List.mem_cons.mp hm with rfl | hm
    · exact merged_merged v
    · exact merged_of_mem_mergedMembers ms m hm

end

/-! ### Depth and numbers of merged documents -/

theorem membersDepth_le_iff : membersDepth ms ≤ d ↔ ∀ m ∈ ms, m.2.depth ≤ d := by
  induction ms with
  | nil => simp [membersDepth]
  | cons m ms ih => rw [membersDepth, Nat.max_le, ih, List.forall_mem_cons]

mutual

theorem depth_merged_le : (v : Value) → v.merged.depth ≤ v.depth
  | .null | .bool _ | .number _ | .string _ => le_rfl
  | .array vs => Nat.succ_le_succ (itemsDepth_mergedItems_le vs)
  | .object ms => by
    refine Nat.succ_le_succ (membersDepth_le_iff.mpr fun m hm => ?_)
    exact membersDepth_le_iff.mp (membersDepth_mergedMembers_le ms) m (mergeMembers_subset _ hm)

theorem itemsDepth_mergedItems_le :
    (vs : List Value) → itemsDepth (mergedItems vs) ≤ itemsDepth vs
  | [] => le_rfl
  | v :: vs => max_le_max (depth_merged_le v) (itemsDepth_mergedItems_le vs)

theorem membersDepth_mergedMembers_le :
    (ms : List (String × Value)) → membersDepth (mergedMembers ms) ≤ membersDepth ms
  | [] => le_rfl
  | (_, v) :: ms => max_le_max (depth_merged_le v) (membersDepth_mergedMembers_le ms)

end

mutual

/-- The numbers of a document. -/
def numbers : Value → List Number
  | .number n => [n]
  | .array items => itemsNumbers items
  | .object members => membersNumbers members
  | _ => []

/-- The numbers of the items. -/
def itemsNumbers : List Value → List Number
  | [] => []
  | v :: vs => v.numbers ++ itemsNumbers vs

/-- The numbers of the members' values. -/
def membersNumbers : List (String × Value) → List Number
  | [] => []
  | (_, v) :: ms => v.numbers ++ membersNumbers ms

end

theorem mem_itemsNumbers : n ∈ itemsNumbers vs ↔ ∃ v ∈ vs, n ∈ v.numbers := by
  induction vs with
  | nil => simp [itemsNumbers]
  | cons v vs ih => rw [itemsNumbers, List.mem_append, ih, List.exists_mem_cons_iff]

theorem mem_membersNumbers : n ∈ membersNumbers ms ↔ ∃ m ∈ ms, n ∈ m.2.numbers := by
  induction ms with
  | nil => simp [membersNumbers]
  | cons m ms ih => rw [membersNumbers, List.mem_append, ih, List.exists_mem_cons_iff]

mutual

theorem numbers_merged_subset : (v : Value) → v.merged.numbers ⊆ v.numbers
  | .null | .bool _ | .number _ | .string _ => List.Subset.refl _
  | .array vs => itemsNumbers_mergedItems_subset vs
  | .object ms => fun n hn => by
    obtain ⟨m, hm, hn⟩ := mem_membersNumbers.mp hn
    exact membersNumbers_mergedMembers_subset ms
      (mem_membersNumbers.mpr ⟨m, mergeMembers_subset _ hm, hn⟩)

theorem itemsNumbers_mergedItems_subset :
    (vs : List Value) → itemsNumbers (mergedItems vs) ⊆ itemsNumbers vs
  | [] => List.Subset.refl _
  | v :: vs => List.append_subset.mpr
      ⟨List.subset_append_of_subset_left _ (numbers_merged_subset v),
        List.subset_append_of_subset_right _ (itemsNumbers_mergedItems_subset vs)⟩

theorem membersNumbers_mergedMembers_subset :
    (ms : List (String × Value)) → membersNumbers (mergedMembers ms) ⊆ membersNumbers ms
  | [] => List.Subset.refl _
  | (_, v) :: ms => List.append_subset.mpr
      ⟨List.subset_append_of_subset_left _ (numbers_merged_subset v),
        List.subset_append_of_subset_right _ (membersNumbers_mergedMembers_subset ms)⟩

end

end ScriptSandbox.Json.Value
