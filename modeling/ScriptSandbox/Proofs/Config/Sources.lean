import ScriptSandbox.Config.Source
import ScriptSandbox.Proofs.Config.Decoding
import ScriptSandbox.Proofs.Text.Utf8
import ScriptSandbox.Proofs.Toml.Documents

/-!
# What flags ask for

There is a configuration if and only if the file, if any, is a document that fits and the result of
all layers is without fault. Then every parameter is as its flag says or, without that, as the file
says or, without that as well, its default, whatever the other parameters are. Only the result is
checked, and only the file matters for its own errors.

## Main definitions

* `Config.Loads`: the document that flags name
* `Config.Settles`: the value of a parameter, layer by layer
* `Config.Settings.Valid`: configurations without faults

## Main results

* `Config.Settings.ofFlags_layers`: the configuration that flags ask for, or why there is none
-/

namespace ScriptSandbox.Config

open Toml (Node Entries)

variable {files : Files.View} {v v' : Flags} {config : Option String} {d d' : Entries}
  {c c' base : Settings} {p : Parameter} {m : Node} {e : SourceError}

/-! ### Layers -/

/-- The document that flags name: the text of a file in UTF-8, or an empty one if they name none. -/
inductive Loads (files : Files.View) : Option String → Entries → Prop
  | empty : Loads files none []
  | file {path text : String} {content : Files.Content} {d : Entries}
      (hcontent : files.read (Utf8.encode path) = .ok content)
      (htext : content.toList = Utf8.encode text) (hdocument : Toml.read text = .ok d) :
      Loads files (some path) d

/-- The value of a parameter: from its flag, else from the document, else the default. -/
inductive Settles (v : Flags) (d : Entries) (p : Parameter) : Node → Prop
  | flag {m : Node} (hflag : v.value? p = some m) : Settles v d p m
  | file {m : Node} (hflag : v.value? p = none) (hfile : Gives d p m) : Settles v d p m
  | default (hflag : v.value? p = none) (hfile : ∀ m, ¬Gives d p m) :
      Settles v d p (({} : Settings).value p)

/-- A configuration without faults. -/
structure Settings.Valid (c : Settings) : Prop where
  memoryLimit : 1 ≤ c.engine.memoryLimitMib.toNat ∧ c.engine.memoryLimitMib.toNat ≤ 4096
  timeout : 0 < c.engine.timeoutMs.toNat
  maxImageSize : 0 < c.engine.maxImageSizeMib.toNat
  epochTick : 0 < c.engine.epochTickMs.toNat
  maxBody : 0 < c.server.maxBodyBytes.toNat

theorem Loads.distinct (h : Loads files config d) : d.Distinct := by
  cases h with
  | empty => exact Entries.distinct_nil
  | file _ _ hdocument => exact Toml.distinct_read hdocument

theorem Loads.unique (h : Loads files config d) (h' : Loads files config d') : d = d' := by
  cases h with
  | empty =>
    cases h'
    rfl
  | file hcontent htext hdocument =>
    cases h' with
    | file hcontent' htext' hdocument' =>
      obtain rfl := Except.ok.inj (hcontent.symm.trans hcontent')
      obtain rfl := Option.some.inj ((Utf8.decode?_eq_some_iff.mpr htext).symm.trans
        (Utf8.decode?_eq_some_iff.mpr htext'))
      exact Except.ok.inj (hdocument.symm.trans hdocument')

namespace Settings

theorem fault?_eq_none_iff : c.fault? = none ↔ c.Valid := by
  have h16 {n : UInt16} : n = 0 ↔ n.toNat = 0 := UInt16.toNat_inj.symm
  have h32 {n : UInt32} : n = 0 ↔ n.toNat = 0 := UInt32.toNat_inj.symm
  have h64 {n : UInt64} : n = 0 ↔ n.toNat = 0 := UInt64.toNat_inj.symm
  unfold fault?
  simp only [h32, h64, Wasm.maxPages, pagesPerMib]
  constructor
  · intro h
    split_ifs at h
    exact ⟨by omega, by omega, by omega, by omega, by omega⟩
  · rintro ⟨hmemory, htimeout, himage, htick, hbody⟩
    rw [if_neg (by omega), if_neg (by omega), if_neg (by omega), if_neg (by omega),
      if_neg (by omega), if_neg (by omega)]

theorem check_of_fault {f : Fault} (h : c.fault? = some f) : c.check = .error (.faulty f) := by
  rw [check, h]

theorem check_eq_ok_iff : base.check = .ok c ↔ base = c ∧ c.Valid := by
  rw [← fault?_eq_none_iff, check]
  split
  next hfault =>
    rw [Except.ok.injEq]
    exact ⟨fun h => ⟨h, h ▸ hfault⟩, And.left⟩
  next f hfault =>
    refine ⟨nofun, ?_⟩
    rintro ⟨rfl, hnone⟩
    cases hfault.symm.trans hnone

/-- The configuration below the flags. -/
def beneath (files : Files.View) : Option String → Except SourceError Settings
  | some path => load files path
  | none => .ok {}

theorem ofFlags_eq_bind :
    ofFlags files v = beneath files v.config >>= fun b => (b.apply v).check := by
  unfold ofFlags beneath
  cases v.config <;> rfl

theorem ofFlags_of_beneath_eq_ok (h : beneath files v.config = .ok base) :
    ofFlags files v = (base.apply v).check := by
  rw [ofFlags_eq_bind, h]
  rfl

theorem ofFlags_of_beneath_eq_error (h : beneath files v.config = .error e) :
    ofFlags files v = .error e := by
  rw [ofFlags_eq_bind, h]
  rfl

theorem readText_eq_ok_iff {path text : String} :
    readText files path = .ok text ↔
      ∃ content, files.read (Utf8.encode path) = .ok content ∧
        content.toList = Utf8.encode text := by
  refine bind_eq_ok_iff.trans (exists_congr fun content => and_congr_right fun _ => ?_)
  rw [← Utf8.decode?_eq_some_iff]
  cases Utf8.decode? content.toList with
  | some s =>
    exact ⟨fun h => congrArg some (Except.ok.inj h),
      fun h => congrArg Except.ok (Option.some.inj h)⟩
  | none => exact ⟨nofun, nofun⟩

theorem ofDocument_nil : ofDocument [] = .ok {} := by
  rw [ofDocument, List.foldlM_nil]
  rfl

theorem beneath_eq_ok_iff :
    beneath files config = .ok base ↔ ∃ d, Loads files config d ∧ ofDocument d = .ok base := by
  cases config with
  | none =>
    constructor
    · intro h
      obtain rfl := Except.ok.inj h
      exact ⟨[], .empty, ofDocument_nil⟩
    · rintro ⟨d, ⟨⟩, h⟩
      obtain rfl := Except.ok.inj (ofDocument_nil.symm.trans h)
      rfl
  | some path =>
    simp only [beneath, load, parse, bind_eq_ok_iff, mapError_eq_ok_iff, readText_eq_ok_iff]
    constructor
    · rintro ⟨text, ⟨content, hcontent, htext⟩, d, hdocument, h⟩
      exact ⟨d, .file hcontent htext hdocument, h⟩
    · rintro ⟨d, hloads, h⟩
      cases hloads with
      | file hcontent htext hdocument => exact ⟨_, ⟨_, hcontent, htext⟩, d, hdocument, h⟩

theorem ne_faulty_of_beneath (h : beneath files config = .error e) (f : Fault) : e ≠ .faulty f := by
  cases config with
  | none => cases h
  | some path =>
    rintro rfl
    obtain h | ⟨text, -, h⟩ := bind_eq_error_iff.mp h
    · obtain ⟨_, _, ⟨⟩⟩ := mapError_eq_error_iff.mp h
    · obtain ⟨_, _, ⟨⟩⟩ := mapError_eq_error_iff.mp h

/-- The layers settle every parameter. -/
theorem settles_iff (hd : d.Distinct) (hbase : ofDocument d = .ok base) :
    Settles v d p m ↔ m = (base.apply v).value p := by
  have hfollows := ((ofDocument_eq_ok_iff hd).mp hbase).2 p
  rw [value_apply]
  cases hflag : v.value? p with
  | some x =>
    constructor
    · rintro (h | ⟨h, -⟩ | ⟨h, -⟩)
      · exact (Option.some.inj (hflag.symm.trans h)).symm
      · cases hflag.symm.trans h
      · cases hflag.symm.trans h
    · rintro rfl
      exact .flag hflag
  | none =>
    constructor
    · rintro (h | ⟨-, h⟩ | ⟨-, h⟩)
      · cases hflag.symm.trans h
      · exact (hfollows.of_given m h).symm
      · exact (hfollows.of_absent h).symm
    · rintro rfl
      -- without a flag, the value is that of the document below
      by_cases hgiven : ∃ x, Gives d p x
      · obtain ⟨x, hx⟩ := hgiven
        exact .file hflag (hfollows.of_given x hx ▸ hx)
      · have habsent := not_exists.mp hgiven
        exact hfollows.of_absent habsent ▸ .default hflag habsent

theorem forall_settles_iff (hd : d.Distinct) (hbase : ofDocument d = .ok base) :
    (∀ p, Settles v d p (c.value p)) ↔ base.apply v = c := by
  simp only [settles_iff hd hbase]
  exact ⟨fun h => ext_value fun p => (h p).symm, fun h p => h ▸ rfl⟩

/-- There is something below the flags if and only if there is a document that fits. -/
theorem exists_beneath_iff :
    (∃ base, beneath files config = .ok base) ↔ ∃ d, Loads files config d ∧ Fitting d := by
  simp only [beneath_eq_ok_iff]
  rw [exists_comm]
  refine exists_congr fun d => ?_
  rw [exists_and_left]
  exact and_congr_right fun hloads => exists_ofDocument_iff hloads.distinct

/-- What flags ask for, given the document below them. -/
theorem ofFlags_of_loads (hloads : Loads files v.config d) (hfitting : Fitting d) :
    ∃ c : Settings, (∀ p, Settles v d p (c.value p)) ∧ ofFlags files v = c.check := by
  obtain ⟨base, hbase⟩ := (exists_ofDocument_iff hloads.distinct).mpr hfitting
  exact ⟨base.apply v, (forall_settles_iff hloads.distinct hbase).mpr rfl,
    ofFlags_of_beneath_eq_ok (beneath_eq_ok_iff.mpr ⟨d, hloads, hbase⟩)⟩

theorem ofFlags_eq_ok_iff :
    ofFlags files v = .ok c ↔
      ∃ d, Loads files v.config d ∧ Fitting d ∧ (∀ p, Settles v d p (c.value p)) ∧ c.Valid := by
  rw [ofFlags_eq_bind, bind_eq_ok_iff]
  constructor
  · rintro ⟨base, hbase, hcheck⟩
    obtain ⟨d, hloads, hbase⟩ := beneath_eq_ok_iff.mp hbase
    obtain ⟨rfl, hvalid⟩ := check_eq_ok_iff.mp hcheck
    exact ⟨d, hloads, (exists_ofDocument_iff hloads.distinct).mp ⟨base, hbase⟩,
      (forall_settles_iff hloads.distinct hbase).mpr rfl, hvalid⟩
  · rintro ⟨d, hloads, hfitting, hsettles, hvalid⟩
    obtain ⟨base, hbase⟩ := (exists_ofDocument_iff hloads.distinct).mpr hfitting
    exact ⟨base, beneath_eq_ok_iff.mpr ⟨d, hloads, hbase⟩,
      check_eq_ok_iff.mpr ⟨(forall_settles_iff hloads.distinct hbase).mp hsettles, hvalid⟩⟩

/-- Without a document that fits, the error is that of the file. -/
theorem ofFlags_of_not_fitting (h : ∀ d, Loads files v.config d → ¬Fitting d) :
    ∃ e, (∀ f, e ≠ .faulty f) ∧
      ∀ v' : Flags, v'.config = v.config → ofFlags files v' = .error e := by
  cases hbeneath : beneath files v.config with
  | ok base =>
    obtain ⟨d, hloads, hfitting⟩ := exists_beneath_iff.mp ⟨base, hbeneath⟩
    exact absurd hfitting (h d hloads)
  | error e =>
    exact ⟨e, ne_faulty_of_beneath hbeneath,
      fun v' hconfig => ofFlags_of_beneath_eq_error (hconfig ▸ hbeneath)⟩

end Settings

/-- A value depends on the flag and on what the document gives, on nothing else. -/
theorem Settles.congr (hflag : v.value? p = v'.value? p) (hfile : ∀ m, Gives d p m ↔ Gives d' p m)
    (h : Settles v d p m) : Settles v' d' p m := by
  cases h with
  | flag h => exact .flag (hflag ▸ h)
  | file h hgives => exact .file (hflag ▸ h) ((hfile m).mp hgives)
  | default h habsent => exact .default (hflag ▸ h) fun m hm => habsent m ((hfile m).mpr hm)

namespace Settings

/-- A parameter depends on its flag and on what its file gives it, whatever else there is. -/
theorem value_congr {files' : Files.View} (h : ofFlags files v = .ok c)
    (h' : ofFlags files' v' = .ok c') (hflag : v.value? p = v'.value? p)
    (hfile : ∀ d d', Loads files v.config d → Loads files' v'.config d' →
      ∀ m, Gives d p m ↔ Gives d' p m) :
    c.value p = c'.value p := by
  obtain ⟨d, hloads, -, hsettles, -⟩ := ofFlags_eq_ok_iff.mp h
  obtain ⟨d', hloads', hfitting, hsettles', -⟩ := ofFlags_eq_ok_iff.mp h'
  obtain ⟨base, hbase⟩ := (exists_ofDocument_iff hloads'.distinct).mpr hfitting
  have hsettles : Settles v' d' p (c.value p) :=
    (hsettles p).congr hflag (hfile d d' hloads hloads')
  rw [(settles_iff hloads'.distinct hbase).mp hsettles,
    (settles_iff hloads'.distinct hbase).mp (hsettles' p)]

/-- The configuration that flags ask for is made in layers: there is one if and only if the
document fits and the result of all layers is valid, and then every parameter is as its flag says,
else as the document says, else the default. If the document does not fit, its error is reported
whatever the flags are; if the result is not valid, a fault of the result is. A parameter is the
same wherever its flag and what the document gives it are the same; those without a flag are the
same for all flags. -/
theorem ofFlags_layers (files : Files.View) (v : Flags) :
    (∀ c, ofFlags files v = .ok c ↔
      ∃ d, Loads files v.config d ∧ Fitting d ∧ (∀ p, Settles v d p (c.value p)) ∧ c.Valid) ∧
    (∀ d, Loads files v.config d → Fitting d →
      ∃ c : Settings, (∀ p, Settles v d p (c.value p)) ∧
        (c.Valid → ofFlags files v = .ok c) ∧
        (¬c.Valid → ∃ f, c.fault? = some f ∧ ofFlags files v = .error (.faulty f))) ∧
    ((∀ d, Loads files v.config d → ¬Fitting d) →
      ∃ e, (∀ f, e ≠ .faulty f) ∧
        ∀ v' : Flags, v'.config = v.config → ofFlags files v' = .error e) ∧
    (∀ files' v' c c' p, ofFlags files v = .ok c → ofFlags files' v' = .ok c' →
      v.value? p = v'.value? p →
      (∀ d d', Loads files v.config d → Loads files' v'.config d' →
        ∀ m, Gives d p m ↔ Gives d' p m) →
      c.value p = c'.value p) ∧
    ∀ v' c c', v'.config = v.config → ofFlags files v = .ok c → ofFlags files v' = .ok c' →
      ∀ p ∈ [Parameter.maxBodyBytes, .requestTimeoutMs, .maxOutputBytes, .epochTickMs],
        c.value p = c'.value p := by
  refine ⟨fun c => ofFlags_eq_ok_iff, fun d hloads hfitting => ?_, ofFlags_of_not_fitting,
    fun _ _ _ _ _ => value_congr, fun v' c c' hconfig h h' p hp => ?_⟩
  · obtain ⟨c, hsettles, hcheck⟩ := ofFlags_of_loads hloads hfitting
    refine ⟨c, hsettles, fun hvalid => hcheck.trans (check_eq_ok_iff.mpr ⟨rfl, hvalid⟩), ?_⟩
    intro hinvalid
    obtain ⟨f, hf⟩ := Option.ne_none_iff_exists'.mp (mt fault?_eq_none_iff.mp hinvalid)
    exact ⟨f, hf, hcheck.trans (check_of_fault hf)⟩
  · refine value_congr h h' ?_ fun d d' hloads hloads' m => ?_
    · simp only [List.mem_cons, List.not_mem_nil, or_false] at hp
      obtain rfl | rfl | rfl | rfl := hp <;> rfl
    · rw [hloads.unique (hconfig ▸ hloads')]

/-- A value of the file that would be a fault is none if a flag replaces it. -/
example :
    let text := "[engine]\nmemory_limit_mib = 0\nunknown = 1\n"
    let files : Files.View := fun _ => .ok (.file ⟨Utf8.encode text, 0, by decide +kernel⟩)
    (ofFlags files { config := some "c" }).toOption = none ∧
      (ofFlags files { config := some "c", memory := some 1 }).toOption =
        some { engine := { memoryLimitMib := 1 } } := by
  decide +kernel

end Settings

end ScriptSandbox.Config
