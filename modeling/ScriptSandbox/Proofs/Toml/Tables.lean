import Mathlib.Data.List.Nodup
import ScriptSandbox.Proofs.Except
import ScriptSandbox.Toml.Document

/-!
# Keys of tables

No table has a key twice. Every operation on tables keeps this. For the tables that get a header, it
depends on the place that was made for them: a table is taken out of the document while its lines
are read, and put back where nothing has come in the meantime.

## Main definitions

* `Toml.Node.Distinct`, `Toml.Entries.Distinct`: no key is repeated, on any level
* `Toml.Entries.Along`: a condition on the table at the end of a path of headers
* `Toml.Section.Lawful`: a section whose place in a document is free

## Main results

* `Toml.Entries.distinct_putDotted`: a value at the end of a dotted key
* `Toml.Entries.within_spec`: a change of the table at the end of a path
* `Toml.Section.distinct_close`, `Toml.Section.lawful_start`: sections that end and begin
-/

namespace ScriptSandbox.Toml

/-- No key is repeated in any table that the value holds. -/
inductive Node.Distinct : Node → Prop
  | scalar (s : Scalar) : Distinct (.scalar s)
  | array {vs : List (Span × Node)} (h : ∀ v ∈ vs, Distinct v.2) : Distinct (.array vs)
  | tables {vs : List (Span × Node)} (h : ∀ v ∈ vs, Distinct v.2) : Distinct (.tables vs)
  | table {origin : Origin} {es : Entries} (hkeys : (es.map (·.1)).Nodup)
      (hvalues : ∀ e ∈ es, Distinct e.2.2) : Distinct (.table origin es)

namespace Entries

variable {es es' sub : Entries} {name : String} {span : Span} {n : Node} {k : Key}
  {path : List Key} {seen : List String}

/-- No key is repeated, neither here nor in any table below. -/
structure Distinct (es : Entries) : Prop where
  keys : (es.map (·.1)).Nodup
  values : ∀ e ∈ es, e.2.2.Distinct

theorem distinct_table_iff {origin : Origin} :
    (Node.table origin es).Distinct ↔ es.Distinct :=
  ⟨fun | .table hkeys hvalues => ⟨hkeys, hvalues⟩, fun h => .table h.keys h.values⟩

theorem distinct_tables_iff {vs : List (Span × Node)} :
    (Node.tables vs).Distinct ↔ ∀ v ∈ vs, v.2.Distinct := ⟨fun | .tables h => h, .tables⟩

theorem distinct_nil : Distinct [] := ⟨List.nodup_nil, nofun⟩

/-! ### Lookups -/

theorem mem_of_lookup {v : Span × Node} (h : es.lookup name = some v) : (name, v) ∈ es := by
  obtain ⟨pre, post, rfl, -⟩ := List.lookup_eq_some_iff.mp h
  simp

theorem lookup_eq_none_iff : es.lookup name = none ↔ name ∉ es.map (·.1) := by
  rw [List.lookup_eq_none_iff]
  constructor
  · rintro h hmem
    obtain ⟨e, he, rfl⟩ := List.mem_map.mp hmem
    simpa using h e he
  · intro h e he
    have hne : name ≠ e.1 := fun heq => h (heq ▸ List.mem_map_of_mem he)
    simpa using hne

theorem lookup_append_of_none {v : Span × Node} (h : es.lookup name = none) :
    (es ++ [(name, v)]).lookup name = some v := by
  rw [List.lookup_append, h, Option.none_or, List.lookup_cons_self]

theorem lookup_set {v v' : Span × Node} (h : es.lookup name = some v') :
    (es.set name v).lookup name = some v := by
  obtain ⟨pre, post, rfl, hpre⟩ := List.lookup_eq_some_iff.mp h
  refine List.lookup_eq_some_iff.mpr ⟨Entries.set pre name v, Entries.set post name v, ?_, ?_⟩
  · simp [set]
  · intro e he
    obtain ⟨e', he', rfl⟩ := List.mem_map.mp he
    have hne : name ≠ e'.1 := by simpa using hpre e' he'
    rw [if_neg hne.symm]
    exact hpre e' he'

/-- A key has one value. -/
theorem Distinct.eq_of_mem {v v' : Span × Node} (h : es.Distinct) (hv : (name, v) ∈ es)
    (hv' : (name, v') ∈ es) : v = v' :=
  (Prod.mk.inj (List.inj_on_of_nodup_map h.keys hv hv' rfl)).2

/-! ### Single changes -/

theorem Distinct.of_lookup (h : es.Distinct) (hn : es.lookup name = some (span, n)) :
    n.Distinct := h.values _ (mem_of_lookup hn)

theorem Distinct.append (h : es.Distinct) (hname : es.lookup name = none) (hn : n.Distinct) :
    Distinct (es ++ [(name, span, n)]) := by
  refine ⟨?_, ?_⟩
  · rw [List.map_append, List.nodup_append]
    refine ⟨h.keys, List.nodup_singleton _, fun a ha b hb => ?_⟩
    obtain rfl := List.mem_singleton.mp hb
    rintro rfl
    exact lookup_eq_none_iff.mp hname ha
  · rw [List.forall_mem_append, List.forall_mem_singleton]
    exact ⟨h.values, hn⟩

theorem map_fst_set {v : Span × Node} : (es.set name v).map (·.1) = es.map (·.1) := by
  rw [set, List.map_map]
  refine List.map_congr_left fun e _ => ?_
  by_cases heq : e.1 = name
  · simp [heq]
  · simp [heq]

theorem Distinct.set (h : es.Distinct) (hn : n.Distinct) : (es.set name (span, n)).Distinct := by
  refine ⟨by rw [map_fst_set]; exact h.keys, fun e he => ?_⟩
  obtain ⟨e', he', rfl⟩ := List.mem_map.mp he
  by_cases heq : e'.1 = name
  · rw [if_pos heq]
    exact hn
  · rw [if_neg heq]
    exact h.values e' he'

theorem Distinct.filter (h : es.Distinct) (p : String × Span × Node → Bool) :
    Distinct (es.filter p) :=
  ⟨h.keys.sublist (List.filter_sublist.map _), fun e he => h.values e (List.mem_of_mem_filter he)⟩

/-- The last of several tables, with the others before it. -/
theorem of_lastTable? {vs before : List (Span × Node)} {place : Span} {origin : Origin}
    (h : lastTable? vs = some (before, place, origin, sub)) :
    vs = before ++ [(place, .table origin sub)] := by
  unfold lastTable? at h
  split at h
  next span origin' es' hlast =>
    obtain ⟨rfl, rfl, rfl, rfl⟩ : vs.dropLast = before ∧ span = place ∧ origin' = origin ∧
        es' = sub := by simpa using h
    exact (List.dropLast_append_getLast? _ hlast).symm
  next => cases h

theorem Distinct.of_lastTable? {vs before : List (Span × Node)} {place : Span} {origin : Origin}
    (h : (Node.tables vs).Distinct)
    (hlast : Entries.lastTable? vs = some (before, place, origin, sub)) :
    sub.Distinct ∧ ∀ {sub' : Entries}, sub'.Distinct →
      (Node.tables (before ++ [(place, .table origin sub')])).Distinct := by
  obtain rfl := Entries.of_lastTable? hlast
  rw [distinct_tables_iff, List.forall_mem_append, List.forall_mem_singleton] at h
  refine ⟨distinct_table_iff.mp h.2, fun hsub => ?_⟩
  rw [distinct_tables_iff, List.forall_mem_append, List.forall_mem_singleton]
  exact ⟨h.1, distinct_table_iff.mpr hsub⟩

/-! ### Dotted keys -/

/-- A value at the end of a dotted key: the induction is on the path to it. -/
theorem distinct_putBelow {table : Option (List String)} {leaf : Key} {v : Span × Node}
    (hv : v.2.Distinct) (h : es.Distinct) (hput : putBelow table leaf v seen path es = .ok es') :
    es'.Distinct := by
  induction path generalizing es seen es' with
  | nil =>
    unfold putBelow at hput
    split_ifs at hput with htaken
    obtain rfl := Except.ok.inj hput
    refine h.append (lookup_eq_none_iff.mpr fun hmem => htaken ?_) hv
    obtain ⟨e, he, hname⟩ := List.mem_map.mp hmem
    exact List.any_eq_true.mpr ⟨e, he, by simpa using hname⟩
  | cons k path ih =>
    unfold putBelow at hput
    dsimp only at hput
    split at hput
    next hnone =>
      obtain ⟨sub, hsub, hput⟩ := bind_eq_ok_iff.mp hput
      obtain rfl := Except.ok.inj hput
      exact h.append hnone (distinct_table_iff.mpr (ih distinct_nil hsub))
    next span origin sub hlookup =>
      have hbelow : Distinct sub := distinct_table_iff.mp (h.of_lookup hlookup)
      split_ifs at hput
      obtain ⟨sub', hsub, hput⟩ := bind_eq_ok_iff.mp hput
      obtain rfl := Except.ok.inj hput
      exact h.set (distinct_table_iff.mpr (ih hbelow hsub))
    next span elements hlookup =>
      split at hput
      next before place origin sub hlast =>
        obtain ⟨hbelow, hagain⟩ := Distinct.of_lastTable? (h.of_lookup hlookup) hlast
        split_ifs at hput
        obtain ⟨sub', hsub, hput⟩ := bind_eq_ok_iff.mp hput
        obtain rfl := Except.ok.inj hput
        exact h.set (hagain (ih hbelow hsub))
      next => cases hput
    next => cases hput

theorem distinct_putDotted {table : Option (List String)} {v : Span × Node} (hv : v.2.Distinct)
    (h : es.Distinct) (hput : putDotted table v path es = .ok es') : es'.Distinct := by
  unfold putDotted at hput
  split at hput
  · exact distinct_putBelow hv h hput
  · obtain rfl := Except.ok.inj hput
    exact h

/-! ### Paths of headers -/

/-- The table at the end of a path of headers meets a condition. A table that is not there yet is
empty, and of several tables the last one is meant. -/
def Along (P : Entries → Prop) : List Key → Entries → Prop
  | [], es => P es
  | k :: path, es =>
    match es.lookup k.name with
    | none => Along P path []
    | some (_, .table _ sub) => Along P path sub
    | some (_, .tables elements) =>
      match lastTable? elements with
      | some (_, _, _, sub) => Along P path sub
      | none => True
    | some _ => True

theorem along_true : Along (fun _ => True) path es := by
  induction path generalizing es with
  | nil => trivial
  | cons k path ih =>
    unfold Along
    split
    · exact ih
    · exact ih
    · split
      · exact ih
      · trivial
    · trivial

/-- A change of the table at the end of a path: what it needs there and what it leaves there. The
induction is on the path. -/
theorem within_spec {α : Type} {change : Entries → Except Cause (α × Entries)}
    {P Q : Entries → Prop} {A : α → Prop} {a : α}
    (hchange : ∀ es a es', es.Distinct → P es → change es = .ok (a, es') →
      es'.Distinct ∧ Q es' ∧ A a)
    (h : es.Distinct) (hP : Along P path es) (hwithin : within change seen path es = .ok (a, es')) :
    es'.Distinct ∧ Along Q path es' ∧ A a := by
  induction path generalizing es seen es' with
  | nil => exact hchange es a es' h hP hwithin
  | cons k path ih =>
    unfold within at hwithin
    dsimp only at hwithin
    unfold Along at hP ⊢
    split at hwithin
    next hnone =>
      rw [hnone] at hP
      obtain ⟨⟨a', sub⟩, hsub, hwithin⟩ := bind_eq_ok_iff.mp hwithin
      obtain ⟨rfl, rfl⟩ := Prod.mk.inj (Except.ok.inj hwithin)
      obtain ⟨hdistinct, hQ, hA⟩ := ih distinct_nil hP hsub
      rw [lookup_append_of_none hnone]
      exact ⟨h.append hnone (distinct_table_iff.mpr hdistinct), hQ, hA⟩
    next span origin sub hlookup =>
      rw [hlookup] at hP
      split_ifs at hwithin
      obtain ⟨⟨a', sub'⟩, hsub, hwithin⟩ := bind_eq_ok_iff.mp hwithin
      obtain ⟨rfl, rfl⟩ := Prod.mk.inj (Except.ok.inj hwithin)
      obtain ⟨hdistinct, hQ, hA⟩ := ih (distinct_table_iff.mp (h.of_lookup hlookup)) hP hsub
      rw [lookup_set hlookup]
      exact ⟨h.set (distinct_table_iff.mpr hdistinct), hQ, hA⟩
    next span elements hlookup =>
      rw [hlookup] at hP
      dsimp only at hP
      split at hwithin
      next before place origin sub hlast =>
        rw [hlast] at hP
        obtain ⟨⟨a', sub'⟩, hsub, hwithin⟩ := bind_eq_ok_iff.mp hwithin
        obtain ⟨rfl, rfl⟩ := Prod.mk.inj (Except.ok.inj hwithin)
        obtain ⟨hbelow, hagain⟩ := Distinct.of_lastTable? (h.of_lookup hlookup) hlast
        obtain ⟨hdistinct, hQ, hA⟩ := ih hbelow hP hsub
        rw [lookup_set hlookup]
        refine ⟨h.set (hagain hdistinct), ?_, hA⟩
        simpa [lastTable?] using hQ
      next => cases hwithin
    next => cases hwithin

/-- The place of a table that gets a header: nothing is under its key, or several tables if it is
one more of them. -/
def Ready (repeated : Bool) (k : Key) (es : Entries) : Prop :=
  match es.lookup k.name with
  | none => True
  | some (_, .tables _) => repeated = true
  | some _ => False

theorem takeTable_spec {outer : List Key} (h : es.Distinct)
    (htake : takeTable outer k es = .ok (sub, es')) :
    es'.Distinct ∧ Ready false k es' ∧ sub.Distinct := by
  unfold takeTable at htake
  split at htake
  next hnone =>
    obtain ⟨rfl, rfl⟩ := Prod.mk.inj (Except.ok.inj htake)
    refine ⟨h, ?_, distinct_nil⟩
    rw [Ready, hnone]
    trivial
  next span sub' hlookup =>
    obtain ⟨rfl, rfl⟩ := Prod.mk.inj (Except.ok.inj htake)
    have hnone : (es.filter (·.1 ≠ k.name)).lookup k.name = none :=
      lookup_eq_none_iff.mpr (by simp)
    refine ⟨h.filter _, ?_, distinct_table_iff.mp (h.of_lookup hlookup)⟩
    rw [Ready, hnone]
    trivial
  next => cases htake

theorem checkTables_spec {outer : List Key} (h : es.Distinct)
    (hcheck : checkTables outer k es = .ok ((), es')) : es'.Distinct ∧ Ready true k es' := by
  unfold checkTables at hcheck
  split at hcheck
  next hnone =>
    obtain ⟨-, rfl⟩ := Prod.mk.inj (Except.ok.inj hcheck)
    refine ⟨h, ?_⟩
    rw [Ready, hnone]
    trivial
  next span vs hlookup =>
    obtain ⟨-, rfl⟩ := Prod.mk.inj (Except.ok.inj hcheck)
    refine ⟨h, ?_⟩
    rw [Ready, hlookup]
  next => cases hcheck

theorem distinct_putTable (h : es.Distinct) (hready : Ready false k es) (hsub : sub.Distinct) :
    (putTable k span sub es).Distinct := by
  unfold Ready at hready
  split at hready
  next hnone => exact h.append hnone (distinct_table_iff.mpr hsub)
  next => cases hready
  next => exact hready.elim

theorem distinct_addTable (h : es.Distinct) (hready : Ready true k es) (hsub : sub.Distinct) :
    (addTable k span sub es).Distinct := by
  have helement : (Node.table .header sub).Distinct := distinct_table_iff.mpr hsub
  unfold Ready at hready
  unfold addTable
  split at hready
  next hnone =>
    rw [hnone]
    exact h.append hnone (.tables (List.forall_mem_singleton.mpr helement))
  next whole vs hlookup =>
    rw [hlookup]
    have hothers : ∀ v ∈ vs, v.2.Distinct := distinct_tables_iff.mp (h.of_lookup hlookup)
    refine h.set (.tables ?_)
    rw [List.forall_mem_append, List.forall_mem_singleton]
    exact ⟨hothers, helement⟩
  next => exact hready.elim

end Entries

/-! ### Sections -/

namespace Section

variable {s s' : Section} {document document' : Entries}

/-- A section that can be put into a document: both have no key twice, and its place is free. -/
structure Lawful (s : Section) (document : Entries) : Prop where
  inside : s.entries.Distinct
  outside : document.Distinct
  ready : ∀ outer key, s.header = some (outer, key) →
    Entries.Along (Entries.Ready s.repeated key) outer document

/-- The document with a section that has ended. -/
theorem distinct_close (h : s.Lawful document) (hclose : s.close document = .ok document') :
    document'.Distinct := by
  unfold close at hclose
  split at hclose
  next =>
    obtain rfl := Except.ok.inj hclose
    exact h.inside
  next outer key hheader =>
    obtain ⟨⟨⟨⟩, document''⟩, hwithin, rfl⟩ := map_eq_ok_iff.mp hclose
    have hput : ∀ (es : Entries) (a : Unit) (es' : Entries), es.Distinct →
        Entries.Ready s.repeated key es →
        (.ok ((), (if s.repeated then Entries.addTable else Entries.putTable) key s.span s.entries
          es) : Except Cause (Unit × Entries)) = .ok (a, es') →
        es'.Distinct ∧ True ∧ True := by
      intro es a es' hes hready heq
      obtain ⟨-, rfl⟩ := Prod.mk.inj (Except.ok.inj heq)
      refine ⟨?_, trivial, trivial⟩
      cases hrepeated : s.repeated with
      | true => exact Entries.distinct_addTable hes (hrepeated ▸ hready) h.inside
      | false => exact Entries.distinct_putTable hes (hrepeated ▸ hready) h.inside
    exact (Entries.within_spec hput h.outside (h.ready outer key hheader) hwithin).1

/-- A section that begins, with what is left of the document. -/
theorem lawful_start {repeated : Bool} {span : Span} {outer : List Key} {key : Key}
    (h : document.Distinct)
    (hstart : start repeated span outer key document = .ok (s', document')) :
    s'.Lawful document' := by
  unfold start at hstart
  split_ifs at hstart with hrepeated
  · obtain ⟨⟨⟨⟩, document''⟩, hwithin, heq⟩ := map_eq_ok_iff.mp hstart
    obtain ⟨rfl, rfl⟩ := Prod.mk.inj heq
    have hcheck : ∀ (es : Entries) (a : Unit) (es' : Entries), es.Distinct → True →
        Entries.checkTables outer key es = .ok (a, es') →
        es'.Distinct ∧ Entries.Ready true key es' ∧ True := by
      intro es a es' hes _ heq
      obtain ⟨hdistinct, hready⟩ := Entries.checkTables_spec hes heq
      exact ⟨hdistinct, hready, trivial⟩
    obtain ⟨hdistinct, hready, -⟩ :=
      Entries.within_spec hcheck h Entries.along_true hwithin
    refine ⟨Entries.distinct_nil, hdistinct, fun outer' key' heq => ?_⟩
    obtain ⟨rfl, rfl⟩ := Prod.mk.inj (Option.some.inj heq)
    exact hrepeated ▸ hready
  · obtain ⟨⟨sub, document''⟩, hwithin, heq⟩ := map_eq_ok_iff.mp hstart
    obtain ⟨rfl, rfl⟩ := Prod.mk.inj heq
    have htake : ∀ (es sub es' : Entries), es.Distinct → True →
        Entries.takeTable outer key es = .ok (sub, es') →
        es'.Distinct ∧ Entries.Ready false key es' ∧ sub.Distinct :=
      fun es sub es' hes _ heq => Entries.takeTable_spec hes heq
    obtain ⟨hdistinct, hready, hsub⟩ :=
      Entries.within_spec htake h Entries.along_true hwithin
    refine ⟨hsub, hdistinct, fun outer' key' heq => ?_⟩
    obtain ⟨rfl, rfl⟩ := Prod.mk.inj (Option.some.inj heq)
    exact hready

/-- A section with one more key. -/
theorem Lawful.put {key : List Key} {span : Span} {v : Node} (h : s.Lawful document)
    (hv : v.Distinct) (hput : s.put key span v = .ok s') : s'.Lawful document := by
  obtain ⟨entries, hentries, hput⟩ := bind_eq_ok_iff.mp hput
  obtain rfl := Except.ok.inj hput
  exact ⟨Entries.distinct_putDotted hv h.inside hentries, h.outside, h.ready⟩

end Section

end ScriptSandbox.Toml
