import ScriptSandbox.Proofs.Config.Assignments
import ScriptSandbox.Proofs.Config.Parameters
import ScriptSandbox.Proofs.Toml.Tables

/-!
# What documents give

A document gives a parameter the value that is under its name in the section, or at its position if
the section is an array. Neither the order of the keys nor keys that are no parameters matter. If
every value that is given can be had, the document is a configuration: the one in which every
parameter is as given, or its default.

## Main definitions

* `Config.Gives`: the value that a document gives a parameter
* `Config.Follows`: a value that is as given, or the default
* `Config.Fitting`: a document whose values can be had

## Main results

* `Config.Settings.ofDocument_eq_ok_iff`: the configuration of a document
* `Config.exists_ofDocument_iff`: the documents that are configurations
-/

namespace ScriptSandbox.Config

open Toml (Node Span Entries)

/-! ### Values in documents -/

/-- A value that can be a section: a table, an array or a date, which gives no parameter a value. -/
def IsSection : Node → Prop
  | .table .. | .array _ | .tables _ | .scalar .moment => True
  | .scalar _ => False

/-- The value that a section gives a parameter: by name in a table and by position in an array. -/
def Member (p : Parameter) (m : Node) : Node → Prop
  | .table _ es => ∃ span, (p.name, span, m) ∈ es
  | .array vs | .tables vs => ∃ span, vs[p.position]? = some (span, m)
  | .scalar _ => False

/-- The value that a document gives a parameter. -/
def Gives (d : Entries) (p : Parameter) (m : Node) : Prop :=
  ∃ span n, (p.group, span, n) ∈ d ∧ Member p m n

/-- A value that is as given, or the default if none is given. -/
structure Follows (given : Node → Prop) (default x : Node) : Prop where
  of_given : ∀ m, given m → x = m
  of_absent : (∀ m, ¬given m) → x = default

theorem follows_none_iff {given : Node → Prop} (h : ∀ m, ¬given m) {default x : Node} :
    Follows given default x ↔ x = default :=
  ⟨fun hx => hx.of_absent h, fun hx => ⟨fun m hm => absurd hm (h m), fun _ => hx⟩⟩

theorem follows_congr {given given' : Node → Prop} (h : ∀ m, given m ↔ given' m)
    {default x : Node} : Follows given default x ↔ Follows given' default x := by
  rw [funext fun m => propext (h m)]

/-- Steps that set parts to the values of items, as conditions on the parts. -/
theorem forall_follows_iff {α κ : Type} {as : List α} {About : α → κ → Prop} {value : α → Node}
    {default x : κ → Node} :
    ((∀ a ∈ as, ∀ k, About a k → x k = value a) ∧ ∀ k, (∀ a ∈ as, ¬About a k) → x k = default k) ↔
      ∀ k, Follows (fun m => ∃ a ∈ as, About a k ∧ value a = m) (default k) (x k) := by
  constructor
  · rintro ⟨hfits, hkeeps⟩ k
    refine ⟨?_, fun habsent => hkeeps k fun a ha hk => habsent (value a) ⟨a, ha, hk, rfl⟩⟩
    rintro m ⟨a, ha, hk, rfl⟩
    exact hfits a ha k hk
  · refine fun h => ⟨fun a ha k hk => (h k).of_given _ ⟨a, ha, hk, rfl⟩, fun k hk => ?_⟩
    refine (h k).of_absent ?_
    rintro m ⟨a, ha, hka, -⟩
    exact hk a ha hka

/-! ### Sections -/

/-- Fields that hold the parameters of a section, in order. -/
structure Holds {σ : Type} (embed : σ → Settings) (fields : List (Field σ)) (ps : List Parameter) :
    Prop where
  sets : List.Forall₂ (Field.Sets embed) fields ps
  position : ∀ {i : Nat} {p : Parameter}, ps[i]? = some p → p.position = i
  name_inj : ∀ {p q : Parameter}, p ∈ ps → q ∈ ps → p.name = q.name → p = q
  injective : Function.Injective embed

theorem exists_getElem?_of_forall₂ {α β : Type} {R : α → β → Prop} {as : List α} {bs : List β}
    (h : List.Forall₂ R as bs) {i : Nat} {a : α} (ha : as[i]? = some a) :
    ∃ b, bs[i]? = some b ∧ R a b := by
  induction h generalizing i with
  | nil => cases ha
  | cons hab _ ih =>
    cases i with
    | zero => exact ⟨_, rfl, Option.some.inj ha ▸ hab⟩
    | succ i => exact ih ha

namespace Holds

variable {σ : Type} {embed : σ → Settings} {fields : List (Field σ)} {ps : List Parameter}
  {f : Field σ} {p : Parameter}

theorem exists_sets_of_mem (h : Holds embed fields ps) (hf : f ∈ fields) :
    ∃ p ∈ ps, f.Sets embed p := by
  obtain ⟨i, hi⟩ := List.mem_iff_getElem?.mp hf
  obtain ⟨p, hp, hsets⟩ := exists_getElem?_of_forall₂ h.sets hi
  exact ⟨p, List.mem_of_getElem? hp, hsets⟩

theorem exists_field_of_mem (h : Holds embed fields ps) (hp : p ∈ ps) :
    ∃ f, fields[p.position]? = some f ∧ f.Sets embed p := by
  obtain ⟨i, hi⟩ := List.mem_iff_getElem?.mp hp
  obtain rfl := h.position hi
  exact exists_getElem?_of_forall₂ h.sets.flip hi

theorem ext (h : Holds embed fields ps) {s s' : σ}
    (heq : ∀ p, (embed s).value p = (embed s').value p) : s = s' :=
  h.injective (Settings.ext_value heq)

/-- Putting a value into a field sets the parameter of its name. -/
theorem assigns_storeAt (h : Holds embed fields ps) (hf : f ∈ fields) (span : Span) (n : Node) :
    Assigns (fun s => (embed s).value) (storeAt f · span n) (fun p => p ∈ ps ∧ p.name = f.name)
      fun _ x => x = n := by
  obtain ⟨p, hp, hsets⟩ := h.exists_sets_of_mem hf
  have habout : ∀ {q}, q ∈ ps ∧ q.name = f.name ↔ q = p :=
    ⟨fun hq => h.name_inj hq.1 hp (hq.2.trans hsets.name), fun hq => hq ▸ ⟨hp, hsets.name.symm⟩⟩
  refine ⟨?_, ?_, ?_⟩
  · intro s s' q hstore hq
    obtain rfl := habout.mp hq
    exact hsets.put (mapError_eq_ok_iff.mp hstore)
  · intro s s' q hstore hq
    exact hsets.keep (mapError_eq_ok_iff.mp hstore) fun heq => hq (habout.mpr heq)
  · intro s t ht
    have hn : (embed t).value p = n := ht p (habout.mpr rfl)
    obtain ⟨s', hs'⟩ := hsets.succeed s (hn ▸ Settings.admits_value _ p)
    refine ⟨s', mapError_eq_ok_iff.mpr hs', fun q hq => ?_⟩
    obtain rfl := habout.mp hq
    exact (hsets.put hs').trans hn.symm

/-- The same for the field that a key names; a key that names none changes nothing. -/
theorem assigns_entry (h : Holds embed fields ps) (e : String × Span × Node) :
    Assigns (fun s => (embed s).value)
      (fun s => match fields.find? (·.name = e.1) with
        | some f => storeAt f s e.2.1 e.2.2
        | none => .ok s)
      (fun p => p ∈ ps ∧ p.name = e.1) fun _ x => x = e.2.2 := by
  cases hfind : fields.find? (·.name = e.1) with
  | some f =>
    have hname : f.name = e.1 := by simpa using List.find?_some hfind
    rw [← hname]
    exact h.assigns_storeAt (List.mem_of_find?_eq_some hfind) e.2.1 e.2.2
  | none =>
    have hnone : ∀ p, ¬(p ∈ ps ∧ p.name = e.1) := by
      rintro p ⟨hp, hname⟩
      obtain ⟨f, hf, hsets⟩ := h.exists_field_of_mem hp
      have hother := List.find?_eq_none.mp hfind f (List.mem_of_getElem? hf)
      exact hother (decide_eq_true (hsets.name.trans hname))
    exact .of_forall_not hnone

/-- A section that is a table. -/
theorem storeEntries_eq_ok_iff (h : Holds embed fields ps) {s s' : σ} {es : Entries}
    (hkeys : (es.map (·.1)).Nodup) :
    storeEntries fields s es = .ok s' ↔
      ∀ p, Follows (fun m => p ∈ ps ∧ ∃ span, (p.name, span, m) ∈ es) ((embed s).value p)
        ((embed s').value p) := by
  have hapart : es.Pairwise fun a b => ∀ p, p ∈ ps ∧ p.name = a.1 → ¬(p ∈ ps ∧ p.name = b.1) :=
    (List.pairwise_map.mp hkeys).imp fun hne p ha hb => hne (ha.2.symm.trans hb.2)
  refine (foldlM_eq_ok_iff h.ext (fun a _ => h.assigns_entry a) hapart).trans ?_
  refine forall_follows_iff.trans (forall_congr' fun p => follows_congr fun m => ?_)
  constructor
  · rintro ⟨⟨name, span, n⟩, he, ⟨hp, rfl⟩, rfl⟩
    exact ⟨hp, span, he⟩
  · rintro ⟨hp, span, he⟩
    exact ⟨_, he, ⟨hp, rfl⟩, rfl⟩

/-- No two fields have the same name. -/
theorem pairwise_name_ne (h : Holds embed fields ps) : fields.Pairwise (·.name ≠ ·.name) := by
  rw [List.pairwise_iff_getElem]
  intro i j hi hj hij heq
  obtain ⟨p, hp, hpsets⟩ := exists_getElem?_of_forall₂ h.sets (List.getElem?_eq_getElem hi)
  obtain ⟨q, hq, hqsets⟩ := exists_getElem?_of_forall₂ h.sets (List.getElem?_eq_getElem hj)
  have hpq : p = q := h.name_inj (List.mem_of_getElem? hp) (List.mem_of_getElem? hq)
    (hpsets.name.symm.trans (heq.trans hqsets.name))
  have hposition : i = j := (h.position hp).symm.trans (hpq ▸ h.position hq)
  omega

/-- A section that is an array. -/
theorem storeElements_eq_ok_iff (h : Holds embed fields ps) {s s' : σ} {vs : List (Span × Node)} :
    storeElements fields s vs = .ok s' ↔
      ∀ p, Follows (fun m => p ∈ ps ∧ ∃ span, vs[p.position]? = some (span, m))
        ((embed s).value p) ((embed s').value p) := by
  have hapart : (fields.zip vs).Pairwise fun a b =>
      ∀ p, p ∈ ps ∧ p.name = a.1.name → ¬(p ∈ ps ∧ p.name = b.1.name) := by
    -- items are about the same parameters as their fields
    have hfields := List.pairwise_iff_getElem.mp h.pairwise_name_ne
    refine List.pairwise_iff_getElem.mpr fun i j hi hj hij p ha hb => ?_
    rw [List.getElem_zip] at ha hb
    exact hfields i j _ _ hij (ha.2.symm.trans hb.2)
  refine (foldlM_eq_ok_iff h.ext (fun a ha => h.assigns_storeAt (List.of_mem_zip ha).1 _ _)
    hapart).trans ?_
  refine forall_follows_iff.trans (forall_congr' fun p => follows_congr fun m => ?_)
  constructor
  · rintro ⟨⟨f, span, n⟩, ha, ⟨hp, hname⟩, rfl⟩
    obtain ⟨i, hi⟩ := List.mem_iff_getElem?.mp ha
    obtain ⟨hf, hv⟩ := List.getElem?_zip_eq_some.mp hi
    obtain ⟨q, hq, hsets⟩ := exists_getElem?_of_forall₂ h.sets hf
    obtain rfl := h.name_inj hp (List.mem_of_getElem? hq) (hname.trans hsets.name)
    exact ⟨hp, span, h.position hq ▸ hv⟩
  · rintro ⟨hp, span, hv⟩
    obtain ⟨f, hf, hsets⟩ := h.exists_field_of_mem hp
    have ha : (f, span, m) ∈ fields.zip vs :=
      List.mem_iff_getElem?.mpr ⟨_, List.getElem?_zip_eq_some.mpr ⟨hf, hv⟩⟩
    exact ⟨_, ha, ⟨hp, hsets.name.symm⟩, rfl⟩

/-- A section, whatever its form. -/
theorem storeSection_eq_ok_iff (h : Holds embed fields ps) {s s' : σ} {expected : String}
    {span : Span} {n : Node} (hn : n.Distinct) :
    storeSection fields expected s span n = .ok s' ↔
      IsSection n ∧
        ∀ p, Follows (fun m => p ∈ ps ∧ Member p m n) ((embed s).value p) ((embed s').value p) := by
  cases n with
  | table origin es =>
    refine (h.storeEntries_eq_ok_iff (Toml.Entries.distinct_table_iff.mp hn).keys).trans ?_
    exact (and_iff_right trivial).symm
  | array vs | tables vs => exact h.storeElements_eq_ok_iff.trans (and_iff_right trivial).symm
  | scalar x =>
    have habsent : ∀ p m, ¬(p ∈ ps ∧ Member p m (.scalar x)) := fun _ _ hm => hm.2
    simp only [follows_none_iff (habsent _)]
    cases x with
    | moment =>
      refine Iff.trans ⟨fun hs p => ?_, fun hs => ?_⟩ (and_iff_right trivial).symm
      · exact Except.ok.inj hs ▸ rfl
      · exact congrArg Except.ok (h.ext fun p => (hs p).symm)
    | text | integer | float | boolean => exact ⟨nofun, fun hs => hs.1.elim⟩

/-- A section in a document sets its parameters, whatever they were before. -/
theorem assigns_section (h : Holds embed fields ps) (hne : p ∈ ps) {group : String}
    (hgroup : ∀ p : Parameter, p.group = group ↔ p ∈ ps) {s₀ : σ} (hs₀ : embed s₀ = {})
    {replace : Settings → σ → Settings} (part : Settings → σ)
    (hreplace : ∀ c s p,
      (replace c s).value p = if p ∈ ps then (embed s).value p else c.value p)
    (hpart : ∀ c p,
      (embed (part c)).value p = if p ∈ ps then c.value p else (embed s₀).value p)
    {expected : String} {span : Span} {n : Node} (hn : n.Distinct) :
    Assigns Settings.value
      (fun c => (storeSection fields expected s₀ span n).map (replace c))
      (fun p => p.group = group)
      fun p x => IsSection n ∧ Follows (Member p · n) (({} : Settings).value p) x := by
  have hmember : ∀ {p}, p ∈ ps → ∀ m, p ∈ ps ∧ Member p m n ↔ Member p m n :=
    fun hp _ => and_iff_right hp
  refine ⟨?_, ?_, ?_⟩
  · intro c c' p hstore hp
    rw [hgroup] at hp
    obtain ⟨s, hs, rfl⟩ := map_eq_ok_iff.mp hstore
    obtain ⟨hsection, hfollows⟩ := (h.storeSection_eq_ok_iff hn).mp hs
    rw [hreplace, if_pos hp, ← hs₀]
    exact ⟨hsection, (follows_congr (hmember hp)).mp (hfollows p)⟩
  · intro c c' p hstore hp
    obtain ⟨s, hs, rfl⟩ := map_eq_ok_iff.mp hstore
    rw [hreplace, if_neg (mt (hgroup p).mpr hp)]
  · intro c t ht
    -- what the section is in the state that fits
    have hs : storeSection fields expected s₀ span n = .ok (part t) := by
      refine (h.storeSection_eq_ok_iff hn).mpr ⟨(ht _ ((hgroup _).mpr hne)).1, fun p => ?_⟩
      rw [hpart]
      split_ifs with hp
      · rw [hs₀]
        exact (follows_congr (hmember hp)).mpr (ht p ((hgroup p).mpr hp)).2
      · exact (follows_none_iff fun m hm => hp hm.1).mpr rfl
    refine ⟨replace c (part t), map_eq_ok_iff.mpr ⟨_, hs, rfl⟩, fun p hp => ?_⟩
    rw [hgroup] at hp
    rw [hreplace, if_pos hp, hpart, if_pos hp]

end Holds

theorem Server.holds : Holds (fun s => { server := s }) Server.fields Parameter.ofServer where
  sets := Server.sets_fields
  position {i p} hp := by rcases i with _ | _ | _ | _ | i <;> cases hp <;> rfl
  name_inj hp hq := List.inj_on_of_nodup_map (by decide) hp hq
  injective _ _ heq := congrArg Settings.server heq

theorem Engine.holds : Holds (fun e => { engine := e }) Engine.fields Parameter.ofEngine where
  sets := Engine.sets_fields
  position {i p} hp := by rcases i with _ | _ | _ | _ | _ | _ | i <;> cases hp <;> rfl
  name_inj hp hq := List.inj_on_of_nodup_map (by decide) hp hq
  injective _ _ heq := congrArg Settings.engine heq

/-! ### Documents -/

variable {d : Entries} {p : Parameter} {m m' : Node}

theorem Parameter.group_eq_server_iff : p.group = "server" ↔ p ∈ Parameter.ofServer := by
  cases p <;> decide

theorem Parameter.group_eq_engine_iff : p.group = "engine" ↔ p ∈ Parameter.ofEngine := by
  cases p <;> decide

/-- A document gives a parameter one value at most. -/
theorem Gives.unique (hd : d.Distinct) (h : Gives d p m) (h' : Gives d p m') : m = m' := by
  obtain ⟨span, n, he, hm⟩ := h
  obtain ⟨span', n', he', hm'⟩ := h'
  obtain ⟨rfl, rfl⟩ := Prod.mk.inj (hd.eq_of_mem he he')
  have hn : n.Distinct := hd.values _ he
  cases n with
  | table origin es =>
    obtain ⟨place, hm⟩ := hm
    obtain ⟨place', hm'⟩ := hm'
    exact (Prod.mk.inj ((Toml.Entries.distinct_table_iff.mp hn).eq_of_mem hm hm')).2
  | array vs | tables vs =>
    obtain ⟨place, hm⟩ := hm
    obtain ⟨place', hm'⟩ := hm'
    exact (Prod.mk.inj (Option.some.inj (hm.symm.trans hm'))).2
  | scalar s => exact hm.elim

/-- An entry of a document that is a section sets its parameters; any other changes nothing. -/
theorem assigns_entry (e : String × Span × Node) (he : e.2.2.Distinct) :
    Assigns Settings.value
      (fun s => if e.1 = "server" then
          (storeSection Server.fields "struct ServerConfig" {} e.2.1 e.2.2).map
            ({ s with server := · })
        else if e.1 = "engine" then
          (storeSection Engine.fields "struct EngineConfig" {} e.2.1 e.2.2).map
            ({ s with engine := · })
        else .ok s)
      (fun p => p.group = e.1)
      fun p x => IsSection e.2.2 ∧ Follows (Member p · e.2.2) (({} : Settings).value p) x := by
  obtain ⟨name, span, n⟩ := e
  by_cases hserver : name = "server"
  · subst hserver
    refine Server.holds.assigns_section (p := .host) (by decide)
      (fun _ => Parameter.group_eq_server_iff) rfl Settings.server ?_ ?_ he
    · intro c s p
      cases p <;> rfl
    · intro c p
      cases p <;> rfl
  by_cases hengine : name = "engine"
  · subst hengine
    refine Engine.holds.assigns_section (p := .path) (by decide)
      (fun _ => Parameter.group_eq_engine_iff) rfl Settings.engine ?_ ?_ he
    · intro c s p
      cases p <;> rfl
    · intro c p
      cases p <;> rfl
  · have hnone : ∀ p : Parameter, p.group ≠ name := by
      rintro p rfl
      cases p <;> first | exact hserver rfl | exact hengine rfl
    simp only [if_neg hserver, if_neg hengine]
    exact .of_forall_not hnone

/-- The configuration of a document. -/
theorem Settings.ofDocument_eq_ok_iff (hd : d.Distinct) {c : Settings} :
    Settings.ofDocument d = .ok c ↔
      (∀ p span n, (Parameter.group p, span, n) ∈ d → IsSection n) ∧
        ∀ p, Follows (Gives d p) (({} : Settings).value p) (c.value p) := by
  have hapart : d.Pairwise fun a b => ∀ p : Parameter, p.group = a.1 → p.group ≠ b.1 :=
    (List.pairwise_map.mp hd.keys).imp fun hne p ha hb => hne (ha.symm.trans hb)
  refine (foldlM_eq_ok_iff Settings.ext_value (fun e he => assigns_entry e (hd.values e he))
    hapart).trans ⟨?_, ?_⟩
  · rintro ⟨hfits, hkeeps⟩
    refine ⟨fun p span n he => (hfits _ he p rfl).1, fun p => ⟨?_, fun habsent => ?_⟩⟩
    · rintro m ⟨span, n, he, hm⟩
      exact (hfits _ he p rfl).2.of_given m hm
    · by_cases hgroup : ∃ e ∈ d, p.group = e.1
      · obtain ⟨⟨name, span, n⟩, he, rfl⟩ := hgroup
        exact (hfits _ he p rfl).2.of_absent fun m hm => habsent m ⟨span, n, he, hm⟩
      · exact hkeeps p fun e he hp => hgroup ⟨e, he, hp⟩
  · rintro ⟨hsections, hfollows⟩
    refine ⟨?_, fun p hp => (hfollows p).of_absent ?_⟩
    · rintro ⟨name, span, n⟩ he p rfl
      refine ⟨hsections p span n he, fun m hm => (hfollows p).of_given m ⟨span, n, he, hm⟩, ?_⟩
      refine fun habsent => (hfollows p).of_absent ?_
      -- no other entry has the key of the section
      rintro m ⟨span', n', he', hm⟩
      obtain ⟨rfl, rfl⟩ := Prod.mk.inj (hd.eq_of_mem he he')
      exact habsent m hm
    · rintro m ⟨span, n, he, -⟩
      exact hp _ he rfl

/-- A document whose sections can be sections, and whose values can be had. -/
structure Fitting (d : Entries) : Prop where
  isSection : ∀ p span n, (Parameter.group p, span, n) ∈ d → IsSection n
  admits : ∀ p m, Gives d p m → Parameter.Admits p m

/-- The documents that are configurations. -/
theorem exists_ofDocument_iff (hd : d.Distinct) :
    (∃ c, Settings.ofDocument d = .ok c) ↔ Fitting d := by
  simp only [Settings.ofDocument_eq_ok_iff hd]
  constructor
  · rintro ⟨c, hsections, hfollows⟩
    exact ⟨hsections, fun p m hm => (hfollows p).of_given m hm ▸ c.admits_value p⟩
  · intro h
    -- every parameter has a value: the given one, of which there is only one, or the default
    have hchoice : ∀ p, ∃ x, Parameter.Admits p x ∧
        Follows (Gives d p) (({} : Settings).value p) x := by
      intro p
      by_cases hgiven : ∃ m, Gives d p m
      · obtain ⟨m, hm⟩ := hgiven
        exact ⟨m, h.admits p m hm, fun _ hm' => hm.unique hd hm',
          fun habsent => absurd hm (habsent m)⟩
      · have habsent := not_exists.mp hgiven
        exact ⟨_, Settings.admits_value {} p, (follows_none_iff habsent).mpr rfl⟩
    choose x hadmits hx using hchoice
    obtain ⟨c, hc⟩ := Settings.exists_value_eq hadmits
    exact ⟨c, h.isSection, fun p => (hc p).symm ▸ hx p⟩

end ScriptSandbox.Config
