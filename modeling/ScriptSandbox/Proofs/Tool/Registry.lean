import Mathlib.Data.Finset.Dedup
import Mathlib.Data.Finset.Card
import ScriptSandbox.Tool.Registry

/-!
# Registries after any registrations

A registry holds the tools that no later registration replaced, in the order in which they were
registered. All that can be asked of it follows from that.

## Main definitions

* `Tool.Registry.ofList`: the registry after some registrations
* `Tool.latest`: the registrations that no later one replaces

## Main results

* `Tool.Registry.tools_ofList`: a registry holds the latest registrations
* `Tool.Registry.get?_ofList`: the tool under a name is the last one registered under it
* `Tool.Registry.size_ofList`: there are as many tools as names
-/

namespace ScriptSandbox.Tool

variable {t : Tool} {ts : List Tool} {n : String}

/-! ### The latest registrations -/

/-- The tools that no later one of their name replaces, in their order. -/
def latest : List Tool → List Tool
  | [] => []
  | t :: ts => if ∃ t' ∈ ts, t'.name = t.name then latest ts else t :: latest ts

/-- Every name has a latest registration. -/
theorem mem_names_latest_iff : n ∈ (latest ts).map name ↔ n ∈ ts.map name := by
  induction ts with
  | nil => rfl
  | cons t ts ih =>
    rw [latest]
    split
    next h =>
      -- the name of `t` is that of a later tool
      obtain ⟨t', ht', hname⟩ := h
      have : t.name ∈ ts.map name := hname ▸ List.mem_map_of_mem ht'
      rw [ih, List.map_cons, List.mem_cons, iff_or_self]
      rintro rfl
      exact this
    next => rw [List.map_cons, List.map_cons, List.mem_cons, List.mem_cons, ih]

theorem nodup_names_latest (ts : List Tool) : ((latest ts).map name).Nodup := by
  induction ts with
  | nil => exact .nil
  | cons t ts ih =>
    rw [latest]
    split
    next => exact ih
    next h =>
      refine List.nodup_cons.mpr ⟨fun hmem => h ?_, ih⟩
      exact List.mem_map.mp (mem_names_latest_iff.mp hmem)

/-- The latest tool of a name is the last one that has it. -/
theorem find?_latest (ts : List Tool) (n : String) :
    (latest ts).find? (·.name = n) = (ts.filter (·.name = n)).getLast? := by
  induction ts with
  | nil => rfl
  | cons t ts ih =>
    rw [latest]
    by_cases hn : t.name = n
    · subst hn
      rw [List.filter_cons_of_pos (by simp)]
      split
      next h =>
        obtain ⟨t', ht', hname⟩ := h
        have hne : ts.filter (·.name = t.name) ≠ [] :=
          List.ne_nil_of_mem (List.mem_filter.mpr ⟨ht', by simpa using hname⟩)
        rw [ih, List.getLast?_cons_of_ne_nil hne]
      next h =>
        have hnil : ts.filter (·.name = t.name) = [] :=
          List.filter_eq_nil_iff.mpr fun t' ht' hname => h ⟨t', ht', by simpa using hname⟩
        rw [hnil, List.find?_cons_of_pos (by simp)]
        rfl
    · rw [List.filter_cons_of_neg (by simpa using hn), ← ih]
      split
      next => rfl
      next => rw [List.find?_cons_of_neg (by simpa using hn)]

namespace Registry

/-! ### Registrations -/

/-- The registry after tools were registered one after another. -/
def ofList (ts : List Tool) : Registry := ts.foldl register {}

/-- What stays of the tools of a registry is what no later registration replaces. -/
theorem tools_foldl_register (r : Registry) (ts : List Tool) :
    (ts.foldl register r).tools =
      r.tools.filter (fun t => ∀ t' ∈ ts, t'.name ≠ t.name) ++ latest ts := by
  induction ts generalizing r with
  | nil => simp [latest]
  | cons t ts ih =>
    have hold : (r.tools.filter (·.name ≠ t.name)).filter (fun t' => ∀ u ∈ ts, u.name ≠ t'.name) =
        r.tools.filter (fun t' => ∀ u ∈ t :: ts, u.name ≠ t'.name) := by
      rw [List.filter_filter]
      refine List.filter_congr fun t' _ => ?_
      rw [← Bool.decide_and, decide_eq_decide, List.forall_mem_cons, and_comm]
      exact and_congr_left' ne_comm
    rw [List.foldl_cons, ih, register, List.filter_append, hold, List.append_assoc, latest]
    congr 1
    by_cases h : ∃ t' ∈ ts, t'.name = t.name
    · rw [if_pos h, List.filter_cons_of_neg (by simpa using h)]
      rfl
    · rw [if_neg h, List.filter_cons_of_pos (by simpa using h)]
      rfl

/-- A registry holds the latest registrations in their order. -/
theorem tools_ofList (ts : List Tool) : (ofList ts).tools = latest ts := by
  rw [ofList, tools_foldl_register]
  rfl

theorem nodup_names_ofList (ts : List Tool) : ((ofList ts).tools.map name).Nodup := by
  rw [tools_ofList]
  exact nodup_names_latest ts

/-- The tool under a name is the last one registered under it. -/
theorem get?_ofList (ts : List Tool) (n : String) :
    (ofList ts).get? n = (ts.filter (·.name = n)).getLast? := by
  rw [get?, tools_ofList, find?_latest]

/-- Only names that were never registered have no tool. -/
theorem get?_ofList_eq_none_iff : (ofList ts).get? n = none ↔ ∀ t ∈ ts, t.name ≠ n := by
  rw [get?_ofList, List.getLast?_eq_none_iff, List.filter_eq_nil_iff]
  simp

theorem definitions_ofList (ts : List Tool) :
    (ofList ts).definitions = (latest ts).map definition := by
  rw [definitions, tools_ofList]

/-- There are as many tools as names were registered. -/
theorem size_ofList (ts : List Tool) : (ofList ts).size = (ts.map name).toFinset.card := by
  have hnames : ((latest ts).map name).toFinset = (ts.map name).toFinset := by
    ext n
    rw [List.mem_toFinset, List.mem_toFinset, mem_names_latest_iff]
  rw [size, tools_ofList, ← hnames, List.toFinset_card_of_nodup (nodup_names_latest ts),
    List.length_map]

/-! ### The tool under a name -/

theorem name_of_get? {r : Registry} (h : r.get? n = some t) : t.name = n := by
  simpa using List.find?_some h

theorem mem_of_get? {r : Registry} (h : r.get? n = some t) : t ∈ r.tools :=
  List.mem_of_find?_eq_some h

theorem get?_eq_none_iff {r : Registry} : r.get? n = none ↔ ∀ t ∈ r.tools, t.name ≠ n := by
  rw [get?, List.find?_eq_none]
  simp

end Registry

end ScriptSandbox.Tool
