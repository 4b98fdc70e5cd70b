import ScriptSandbox.Proofs.Config.Arguments
import ScriptSandbox.Proofs.Config.FlagValues

/-!
# Flags as they are written

Arguments are read without an error exactly if they are flags that are written one behind the other,
each once and with a text that it takes, attached or as an argument of its own. The values are those
that the texts mean, in whatever order and forms the flags are written.

## Main definitions

* `Config.Occurrence`: a flag with the text of its value
* `Config.Readable`: flags that can be read
* `Config.Reading.Covers`: what has been read of some arguments

## Main results

* `Config.Flags.read_occurrences`: to read flags is to give their values in their order
* `Config.Flags.read_eq_ok_iff`: the arguments that are read without an error
-/

namespace ScriptSandbox.Config

variable {f : Flag} {s a : String} {as rest : List String} {r r₁ r' : Reading} {v : Flags}
  {os : List Occurrence} {o : Occurrence}

/-! ### Occurrences -/

/-- A flag with the text of its value, which is attached to it or an argument of its own. -/
structure Occurrence where
  flag : Flag
  text : String
  attached : Bool

namespace Occurrence

/-- The arguments of a flag and its value. -/
def arguments (o : Occurrence) : List String :=
  if o.attached then [o.flag.written ++ "=" ++ o.text] else [o.flag.written, o.text]

/-- The flag and the text of its value, in whatever form they are written. -/
def entry (o : Occurrence) : Flag × String := (o.flag, o.text)

/-- An argument of its own could not be told from a flag if it were dashed. -/
def Legible (o : Occurrence) : Prop := o.attached = false → ¬ Dashed o.text

end Occurrence

/-! ### Reading what is written -/

namespace Reading

/-- A flag settles what is pending, and its value is given at once or when it is settled itself. -/
theorem run_arguments {entries : List (Flag × String)} (ho : o.Legible)
    (hrest : ∀ r' : Reading, r'.run rest =
      r'.settle >>= fun r₁ => (r₁.flags.giveAll entries).mapError .refused) :
    r.run (o.arguments ++ rest) =
      r.settle >>= fun r₁ => (r₁.flags.giveAll (o.entry :: entries)).mapError .refused := by
  obtain ⟨f, s, attached⟩ := o
  -- in either form it is the settled reading that the value is given to
  have hgive (r₁ : Reading) :
      (r₁.give f s >>= fun r' => (r'.flags.giveAll entries).mapError .refused) =
        (r₁.flags.giveAll ((f, s) :: entries)).mapError .refused := by
    rw [Flags.giveAll_cons, give]
    cases r₁.flags.give f s <;> rfl
  cases attached with
  | true =>
    change r.run ((f.written ++ "=" ++ s) :: rest) = _
    rw [run_cons (f.attached_ne_escape s), step_attached, bind_assoc]
    refine bind_congr fun r₁ => ?_
    rw [Occurrence.entry, ← hgive]
    cases hr' : r₁.give f s with
    | error e => rfl
    | ok r' =>
      change r'.run rest = _
      rw [hrest, settle_of_pending (pending_of_give hr')]
  | false =>
    change r.run (f.written :: s :: rest) = _
    rw [run_cons f.written_ne_escape, step_written, bind_assoc]
    refine bind_congr fun r₁ => ?_
    rw [Occurrence.entry, ← hgive]
    have hs : ¬ Dashed s := ho rfl
    change Reading.run { r₁ with pending := some (f, none) } (s :: rest) = _
    rw [run_cons (ne_escape_of_not_dashed hs), step_of_not_dashed hs]
    change Reading.run { r₁ with pending := some (f, some s) } rest = _
    rw [hrest]
    rfl

theorem run_occurrences (h : ∀ o ∈ os, o.Legible) : r.run (os.flatMap Occurrence.arguments) =
    r.settle >>= fun r₁ => (r₁.flags.giveAll (os.map Occurrence.entry)).mapError .refused := by
  induction os generalizing r with
  | nil =>
    change r.settle.map _ = _
    cases r.settle <;> rfl
  | cons o os ih =>
    obtain ⟨ho, hos⟩ := List.forall_mem_cons.mp h
    exact run_arguments ho fun r' => ih hos

end Reading

/-- Whatever forms flags are written in, to read them is to give their values in their order. -/
theorem Flags.read_occurrences (h : ∀ o ∈ os, o.Legible) :
    Flags.read (os.flatMap Occurrence.arguments) =
      (Flags.giveAll {} (os.map Occurrence.entry)).mapError .refused :=
  Reading.run_occurrences h

/-! ### What has been read -/

namespace Reading

/-- The arguments that are not settled yet. -/
def unsettled (r : Reading) : List String :=
  match r.pending with
  | none => []
  | some (f, none) => [f.written]
  | some (f, some s) => [f.written, s]

/-- Some arguments have been read: flags with values that were given, and what is not settled. -/
structure Covers (r : Reading) (os : List Occurrence) (as : List String) : Prop where
  legible : ∀ o ∈ os, o.Legible
  arguments : os.flatMap Occurrence.arguments ++ r.unsettled = as
  values : Flags.giveAll {} (os.map Occurrence.entry) = .ok r.flags
  plain : ∀ f s, r.pending = some (f, some s) → ¬ Dashed s

theorem flags_of_give (h : r.give f s = .ok r') : r.flags.give f s = .ok r'.flags := by
  obtain ⟨v, hv, h⟩ := bind_eq_ok_iff.mp h
  obtain rfl := Except.ok.inj h
  exact mapError_eq_ok_iff.mp hv

theorem Covers.give (h : r.Covers os as) (hpending : r.pending = none) (ho : o.Legible)
    (hgive : r.give o.flag o.text = .ok r') : r'.Covers (os ++ [o]) (as ++ o.arguments) where
  legible := List.forall_mem_append.mpr ⟨h.legible, List.forall_mem_singleton.mpr ho⟩
  arguments := by
    rw [← h.arguments, unsettled, unsettled, hpending, pending_of_give hgive, List.flatMap_append,
      List.flatMap_singleton, List.append_nil, List.append_nil]
  values := by
    rw [List.map_append, List.map_singleton, Occurrence.entry, Flags.giveAll_concat, h.values]
    exact flags_of_give hgive
  plain _ _ hsome := nomatch (pending_of_give hgive).symm.trans hsome

theorem Covers.settle (h : r.Covers os as) (hsettle : r.settle = .ok r₁) :
    ∃ os', r₁.Covers os' as := by
  rw [Reading.settle.eq_def] at hsettle
  split at hsettle
  next =>
    obtain rfl := Except.ok.inj hsettle
    exact ⟨os, h⟩
  next => cases hsettle
  next f s hpending =>
    have hnone : Covers { r with pending := none } os (os.flatMap Occurrence.arguments) := by
      refine ⟨h.legible, List.append_nil _, h.values, fun g t hg => ?_⟩
      cases hg
    have hgiven := hnone.give (o := ⟨f, s, false⟩) rfl (fun _ => h.plain f s hpending) hsettle
    have has : os.flatMap Occurrence.arguments ++ [f.written, s] = as := by
      rw [← h.arguments, unsettled, hpending]
    exact ⟨_, has ▸ hgiven⟩

theorem Covers.step (h : r.Covers os as) (ha : a ≠ "--") (hstep : r.step a = .ok r') :
    ∃ os', r'.Covers os' (as ++ [a]) := by
  have hacts := r.acts_step ha
  rw [hstep] at hacts
  generalize hx : Except.ok r' = x at hacts
  cases hacts with
  | attached f s =>
    obtain ⟨r₁, hr₁, hgive⟩ := bind_eq_ok_iff.mp hx.symm
    obtain ⟨os', hos'⟩ := h.settle hr₁
    exact ⟨_, hos'.give (o := ⟨f, s, true⟩) (pending_of_settle hr₁) nofun hgive⟩
  | written f =>
    obtain ⟨r₁, hr₁, hr'⟩ := bind_eq_ok_iff.mp hx.symm
    obtain ⟨os', hos'⟩ := h.settle hr₁
    obtain rfl := Except.ok.inj hr'
    refine ⟨os', hos'.legible, ?_, hos'.values, nofun⟩
    rw [← hos'.arguments, unsettled, unsettled, pending_of_settle hr₁, List.append_nil]
  | asked =>
    obtain ⟨_, _, hr'⟩ := bind_eq_ok_iff.mp hx.symm
    cases hr'
  | @plain f s hpending hs =>
    obtain rfl := Except.ok.inj hx
    refine ⟨os, h.legible, ?_, h.values, ?_⟩
    · rw [← h.arguments, unsettled, unsettled, hpending, List.append_assoc]
      rfl
    · rintro g t hg
      obtain ⟨-, ht⟩ := Prod.mk.inj (Option.some.inj hg)
      exact Option.some.inj ht ▸ hs
  | refused => cases hx

theorem exists_covers (has : "--" ∉ as) (h : as.foldlM Reading.step {} = .ok r) :
    ∃ os, r.Covers os as := by
  -- a reading covers what came before its last argument, which may settle it
  induction as using List.reverseRecOn generalizing r with
  | nil =>
    obtain rfl := Except.ok.inj h
    exact ⟨[], nofun, rfl, rfl, nofun⟩
  | append_singleton as a ih =>
    have ha : a ≠ "--" := fun heq => has (heq ▸ List.mem_concat_self)
    rw [List.foldlM_append] at h
    obtain ⟨r₀, hr₀, h⟩ := bind_eq_ok_iff.mp h
    have hstep : r₀.step a = .ok r := (bind_pure _).symm.trans h
    obtain ⟨os, hos⟩ := ih (fun hmem => has (List.mem_append_left _ hmem)) hr₀
    exact hos.step ha hstep

/-- If nothing is wrong with what is pending, the arguments are flags with their values. -/
theorem exists_occurrences (has : "--" ∉ as) (h : as.foldlM Reading.step {} = .ok r)
    (hsettle : r.settle = .ok r₁) : ∃ os : List Occurrence, (∀ o ∈ os, o.Legible) ∧
      as = os.flatMap Occurrence.arguments ∧
      Flags.giveAll {} (os.map Occurrence.entry) = .ok r₁.flags := by
  obtain ⟨os, hos⟩ := exists_covers has h
  obtain ⟨os', hos'⟩ := hos.settle hsettle
  refine ⟨os', hos'.legible, ?_, hos'.values⟩
  rw [← hos'.arguments, unsettled, pending_of_settle hsettle, List.append_nil]

end Reading

/-- Flags that can be read: each is written once, with a text that it takes. -/
structure Readable (os : List Occurrence) : Prop where
  legible : ∀ o ∈ os, o.Legible
  nodup : (os.map (·.flag)).Nodup
  takes : ∀ o ∈ os, o.flag.Takes o.text

theorem readable_iff : Readable os ↔ (∀ o ∈ os, o.Legible) ∧
    ((os.map Occurrence.entry).map Prod.fst).Nodup ∧
    ∀ p ∈ os.map Occurrence.entry, p.1.Takes p.2 := by
  rw [List.map_map, List.forall_mem_map]
  exact ⟨fun h => ⟨h.legible, h.nodup, h.takes⟩, fun ⟨hl, hn, ht⟩ => ⟨hl, hn, ht⟩⟩

theorem not_mem_arguments (h : ∀ o ∈ os, o.Legible) :
    "--" ∉ os.flatMap Occurrence.arguments := by
  intro hmem
  obtain ⟨⟨f, s, attached⟩, ho, hmem⟩ := List.mem_flatMap.mp hmem
  cases attached with
  | true => exact f.attached_ne_escape s (List.mem_singleton.mp hmem).symm
  | false =>
    obtain heq | hmem := List.mem_cons.mp hmem
    · exact f.written_ne_escape heq.symm
    · exact ne_escape_of_not_dashed (h _ ho rfl) (List.mem_singleton.mp hmem).symm

namespace Flags

/-- Flags that can be read are read, and their values are those that are written. -/
theorem exists_read (h : Readable os) : ∃ v : Flags,
    Flags.read (os.flatMap Occurrence.arguments) = .ok v ∧ v.Of (os.map Occurrence.entry) := by
  obtain ⟨hlegible, hnodup, htakes⟩ := readable_iff.mp h
  obtain ⟨v, hv⟩ := exists_giveAll hnodup htakes
  refine ⟨v, ?_, (of_giveAll hv).2.2⟩
  rw [read_occurrences hlegible, hv]
  rfl

theorem read_append (has : "--" ∉ as) : Flags.read (as ++ rest) =
    as.foldlM Reading.step {} >>= fun r => r.run rest :=
  Reading.run_append has

/-- Two dashes alone may end the arguments. -/
theorem read_escape (has : "--" ∉ as) : Flags.read (as ++ ["--"]) = Flags.read as := by
  have hread : Flags.read as = as.foldlM Reading.step {} >>= fun r => r.run [] := by
    rw [← read_append has, List.append_nil]
  rw [read_append has, hread]
  exact bind_congr fun r => Reading.run_escape

theorem exists_readable (has : "--" ∉ as) (h : Flags.read as = .ok v) : ∃ os, Readable os ∧
    v.Of (os.map Occurrence.entry) ∧ as = os.flatMap Occurrence.arguments := by
  rw [← List.append_nil as, read_append has] at h
  obtain ⟨r, hr, h⟩ := bind_eq_ok_iff.mp h
  obtain ⟨r₁, hsettle, rfl⟩ := map_eq_ok_iff.mp h
  obtain ⟨os, hlegible, hargs, hgive⟩ := Reading.exists_occurrences has hr hsettle
  obtain ⟨hnodup, htakes, hof⟩ := of_giveAll hgive
  exact ⟨os, readable_iff.mpr ⟨hlegible, hnodup, htakes⟩, hof, hargs⟩

/-- Arguments are read without an error if and only if they are flags that can be read; two dashes
may follow them. -/
theorem read_eq_ok_iff : Flags.read as = .ok v ↔ ∃ os, Readable os ∧
    v.Of (os.map Occurrence.entry) ∧
    (as = os.flatMap Occurrence.arguments ∨ as = os.flatMap Occurrence.arguments ++ ["--"]) := by
  constructor
  · intro h
    obtain ⟨front, tail, rfl, hfront, rfl | rfl | ⟨b, behind, rfl⟩⟩ := exists_front as
    · rw [List.append_nil] at h ⊢
      obtain ⟨os, hos, hof, hargs⟩ := exists_readable hfront h
      exact ⟨os, hos, hof, .inl hargs⟩
    · rw [read_escape hfront] at h
      obtain ⟨os, hos, hof, rfl⟩ := exists_readable hfront h
      exact ⟨os, hos, hof, .inr rfl⟩
    · rw [read_append hfront] at h
      obtain ⟨r, -, h⟩ := bind_eq_ok_iff.mp h
      rw [Reading.run_escape_cons] at h
      cases h
  · rintro ⟨os, hos, hv, hargs⟩
    obtain ⟨w, hw, hof⟩ := exists_read hos
    obtain rfl := hof.unique hv
    obtain rfl | rfl := hargs
    · exact hw
    · rwa [read_escape (not_mem_arguments hos.legible)]

end Flags

end ScriptSandbox.Config
