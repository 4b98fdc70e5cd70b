import Mathlib.Data.List.TakeWhile
import ScriptSandbox.Config.Flags
import ScriptSandbox.Proofs.Except

/-!
# Arguments one by one

An argument is known by its form, and it acts on what has been read in one of a few ways. A flag, or
a question for help or the version, settles the value of the flag before it first; an argument that
is not known is refused without a look at that value.

## Main definitions

* `Config.Argument.Of`: the forms of the arguments that are written
* `Config.UsageError.Regards`: a refusal is that of an argument that is not known
* `Config.Reading.step`: what one argument does to a reading
* `Config.Reading.Acts`: the ways in which an argument can act

## Main results

* `Config.Reading.run_append`: arguments are read one by one, up to two dashes alone
* `Config.Reading.acts_step`: every other argument acts in one of these ways
-/

namespace ScriptSandbox.Config

variable {f : Flag} {s name a b : String} {as rest : List String} {r r₁ r' : Reading} {e : Stop}

/-! ### Forms -/

/-- A text has a dash and something behind it. -/
def Dashed (s : String) : Prop := ∃ c cs, s.toList = '-' :: c :: cs

/-- A flag as it is written in front of its value. -/
def Flag.written (f : Flag) : String := "--" ++ f.name

/-- The forms of the arguments that are written. -/
inductive Argument.Of : String → Argument → Prop
  | escape : Of "--" .escape
  | bare {name : String} : Of ("--" ++ name) (.long name none)
  | attached {name value : String} : Of ("--" ++ name ++ "=" ++ value) (.long name (some value))
  | short {s : String} {c : Char} (h : ['-', c] <+: s.toList) : Of s (.short c)
  | plain {s : String} (h : ¬ Dashed s) : Of s (.plain s)

theorem toList_dashes (name : String) : ("--" ++ name).toList = '-' :: '-' :: name.toList := by
  rw [String.toList_append]
  rfl

theorem toList_attached (name value : String) :
    ("--" ++ name ++ "=" ++ value).toList = '-' :: '-' :: (name.toList ++ '=' :: value.toList) := by
  rw [String.append_assoc, String.append_assoc, toList_dashes, String.toList_append,
    String.toList_append]
  rfl

/-- What stands in front of the first equals sign and behind it is everything. -/
theorem takeWhile_append_drop {r : List Char} (h : '=' ∈ r) :
    r.takeWhile (· ≠ '=') ++ '=' :: r.drop ((r.takeWhile (· ≠ '=')).length + 1) = r := by
  induction r with
  | nil => cases h
  | cons c r ih =>
    by_cases hc : c = '='
    · subst hc
      rfl
    · have hr : '=' ∈ r := (List.mem_cons.mp h).resolve_left (Ne.symm hc)
      rw [List.takeWhile_cons_of_pos (by simpa using hc), List.length_cons, List.drop_succ_cons,
        List.cons_append, ih hr]

theorem takeWhile_append {name : List Char} (hname : '=' ∉ name) (r : List Char) :
    (name ++ '=' :: r).takeWhile (· ≠ '=') = name := by
  have hall : ∀ c ∈ name, decide (c ≠ '=') = true :=
    fun c hc => decide_eq_true fun h => hname (h ▸ hc)
  rw [List.takeWhile_append_of_pos hall, List.takeWhile_cons_of_neg (by decide), List.append_nil]

theorem Argument.of_ofString (s : String) : Argument.Of s (.ofString s) := by
  rw [Argument.ofString]
  split
  next h =>
    obtain rfl : s = "--" := String.toList_injective h
    exact .escape
  next r _ h =>
    dsimp only
    split_ifs with heq
    · have hs : s = "--" ++ String.ofList (r.takeWhile (· ≠ '=')) ++ "=" ++
          String.ofList (r.drop ((r.takeWhile (· ≠ '=')).length + 1)) := by
        refine String.toList_injective ?_
        rw [toList_attached, String.toList_ofList, String.toList_ofList,
          takeWhile_append_drop heq, h]
      exact hs ▸ .attached
    · have hr : r.takeWhile (· ≠ '=') = r :=
        List.takeWhile_eq_self_iff.mpr fun c hc => decide_eq_true fun hceq => heq (hceq ▸ hc)
      have hs : s = "--" ++ String.ofList (r.takeWhile (· ≠ '=')) := by
        refine String.toList_injective ?_
        rw [toList_dashes, String.toList_ofList, hr, h]
      exact hs ▸ .bare
  next c r _ _ h => exact .short ⟨r, h.symm⟩
  next _ _ hshort =>
    refine .plain ?_
    rintro ⟨c, r, hs⟩
    exact hshort c r hs

theorem Argument.ofString_plain (h : ¬ Dashed s) : Argument.ofString s = .plain s := by
  have hof := Argument.of_ofString s
  generalize Argument.ofString s = form at hof ⊢
  cases hof with
  | escape => exact absurd ⟨'-', [], rfl⟩ h
  | bare => exact absurd ⟨'-', _, toList_dashes _⟩ h
  | attached => exact absurd ⟨'-', _, toList_attached _ _⟩ h
  | short hshort =>
    obtain ⟨r, hr⟩ := hshort
    exact absurd ⟨_, r, hr.symm⟩ h
  | plain => rfl

theorem Argument.ofString_dashes {r : List Char} (hs : s.toList = '-' :: '-' :: r) (hr : r ≠ []) :
    Argument.ofString s = .long (String.ofList (r.takeWhile (· ≠ '=')))
      (if '=' ∈ r then some (String.ofList (r.drop ((r.takeWhile (· ≠ '=')).length + 1)))
      else none) := by
  obtain ⟨c, r, rfl⟩ := List.exists_cons_of_ne_nil hr
  rw [Argument.ofString, hs]
  rfl

theorem Argument.ofString_written (f : Flag) : Argument.ofString f.written = .long f.name none := by
  cases f <;> rfl

theorem Argument.ofString_attached (f : Flag) (s : String) :
    Argument.ofString (f.written ++ "=" ++ s) = .long f.name (some s) := by
  have hname : '=' ∉ f.name.toList := by cases f <;> decide
  have hlist : (f.written ++ "=" ++ s).toList =
      '-' :: '-' :: (f.name.toList ++ '=' :: s.toList) := toList_attached f.name s
  rw [ofString_dashes hlist (by simp), takeWhile_append hname, if_pos (by simp), ← List.drop_drop,
    List.drop_left, List.drop_one, List.tail_cons, String.ofList_toList, String.ofList_toList]

theorem Switch.ofName?_name (f : Flag) : Switch.ofName? f.name = some (.flag f) := by
  cases f <;> rfl

theorem Switch.name_of_ofName? {x : Switch} (h : Switch.ofName? name = some x) : x.name = name := by
  rw [ofName?] at h
  simpa using List.find?_some h

/-- The text that is quoted in a refusal because it is not known. -/
def UsageError.quoted? : UsageError → Option String
  | .unexpectedArgument text => some text
  | .unknownSwitch name _ => some ("--" ++ name)
  | .unexpectedValue x value _ => some (x.text ++ "=" ++ value)
  | _ => none

/-- A refusal is that of an argument that is not known, and quotes how it starts. -/
def UsageError.Regards (u : UsageError) (a : String) : Prop :=
  ∃ quoted, u.quoted? = some quoted ∧ quoted.toList <+: a.toList

/-! ### Readings -/

namespace Reading

/-- What one argument does to a reading. Two dashes alone are not read this way. -/
def step (r : Reading) (a : String) : Except Stop Reading :=
  match Argument.ofString a with
  | .escape => .ok r
  | .long name value? => r.long name value?
  | .short c => r.short c
  | .plain text => r.plain text

theorem run_cons (ha : a ≠ "--") : r.run (a :: as) = r.step a >>= fun r' => r'.run as := by
  rw [run.eq_def, step]
  have hof := Argument.of_ofString a
  dsimp only
  generalize Argument.ofString a = form at hof ⊢
  cases hof with
  | escape => exact absurd rfl ha
  | _ => rfl

theorem run_append (has : "--" ∉ as) :
    r.run (as ++ rest) = as.foldlM step r >>= fun r' => r'.run rest := by
  induction as generalizing r with
  | nil => rfl
  | cons a as ih =>
    have ha : a ≠ "--" := fun h => has (h ▸ List.mem_cons_self ..)
    rw [List.cons_append, run_cons ha, List.foldlM_cons, bind_assoc]
    exact bind_congr fun r' => ih fun h => has (List.mem_cons_of_mem _ h)

theorem run_escape : r.run ["--"] = r.settle.map (·.flags) := rfl

theorem run_escape_cons :
    r.run ("--" :: b :: rest) = .error (.refused (.unexpectedArgument b)) := rfl

theorem pending_of_give (h : r.give f s = .ok r') : r'.pending = none := by
  obtain ⟨v, -, h⟩ := bind_eq_ok_iff.mp h
  obtain rfl := Except.ok.inj h
  rfl

theorem pending_of_settle (h : r.settle = .ok r₁) : r₁.pending = none := by
  rw [settle.eq_def] at h
  split at h
  next hnone =>
    obtain rfl := Except.ok.inj h
    exact hnone
  next => cases h
  next => exact pending_of_give h

theorem settle_of_pending (h : r.pending = none) : r.settle = .ok r := by
  rw [settle, h]

theorem step_attached (r : Reading) (f : Flag) (s : String) :
    r.step (f.written ++ "=" ++ s) = r.settle >>= fun r' => r'.give f s := by
  rw [step, Argument.ofString_attached]
  dsimp only
  rw [long.eq_def, Switch.ofName?_name]

theorem step_written (r : Reading) (f : Flag) :
    r.step f.written = r.settle >>= fun r' => .ok { r' with pending := some (f, none) } := by
  rw [step, Argument.ofString_written]
  dsimp only
  rw [long.eq_def, Switch.ofName?_name]
  rfl

theorem step_of_not_dashed (hs : ¬ Dashed s) : r.step s = r.plain s := by
  rw [step, Argument.ofString_plain hs]

end Reading

theorem ne_escape (h : Argument.ofString a ≠ .escape) : a ≠ "--" := by
  rintro rfl
  exact h rfl

theorem Flag.written_ne_escape (f : Flag) : f.written ≠ "--" :=
  ne_escape (by rw [Argument.ofString_written]; exact nofun)

theorem Flag.attached_ne_escape (f : Flag) (s : String) : f.written ++ "=" ++ s ≠ "--" :=
  ne_escape (by rw [Argument.ofString_attached]; exact nofun)

theorem ne_escape_of_not_dashed (h : ¬ Dashed s) : s ≠ "--" :=
  ne_escape (by rw [Argument.ofString_plain h]; exact nofun)

/-- Up to the first two dashes alone, arguments are flags and values. -/
theorem exists_front (as : List String) : ∃ front tail, as = front ++ tail ∧ "--" ∉ front ∧
    (tail = [] ∨ tail = ["--"] ∨ ∃ b behind, tail = "--" :: b :: behind) := by
  by_cases has : "--" ∈ as
  · obtain ⟨front, behind, rfl, hfront⟩ := List.eq_append_cons_of_mem has
    cases behind with
    | nil => exact ⟨front, _, rfl, hfront, .inr (.inl rfl)⟩
    | cons b behind => exact ⟨front, _, rfl, hfront, .inr (.inr ⟨b, behind, rfl⟩)⟩
  · exact ⟨as, [], (List.append_nil as).symm, has, .inl rfl⟩

/-! ### Ways to act -/

namespace Reading

/-- What an argument does to a reading: a flag or a question settles what is pending first. -/
inductive Acts (r : Reading) : String → Except Stop Reading → Prop
  | attached (f : Flag) (s : String) :
      r.Acts (f.written ++ "=" ++ s) (r.settle >>= fun r' => r'.give f s)
  | written (f : Flag) :
      r.Acts f.written (r.settle >>= fun r' => .ok { r' with pending := some (f, none) })
  | asked {a : String} {e : Stop} (h : e = .help ∨ e = .version) : r.Acts a (r.finish e)
  | plain {f : Flag} {s : String} (hpending : r.pending = some (f, none)) (hs : ¬ Dashed s) :
      r.Acts s (.ok { r with pending := some (f, some s) })
  | refused {a : String} {u : UsageError} (h : u.Regards a) : r.Acts a (.error (.refused u))

theorem acts_bare (r : Reading) (name : String) : r.Acts ("--" ++ name) (r.long name none) := by
  rw [long.eq_def]
  cases hx : Switch.ofName? name with
  | none => exact .refused ⟨_, rfl, List.prefix_rfl⟩
  | some x =>
    obtain rfl := Switch.name_of_ofName? hx
    cases x with
    | flag f => exact .written f
    | help => exact .asked (.inl rfl)
    | version => exact .asked (.inr rfl)

theorem acts_attached (r : Reading) (name value : String) :
    r.Acts ("--" ++ name ++ "=" ++ value) (r.long name (some value)) := by
  rw [long.eq_def]
  cases hx : Switch.ofName? name with
  | none =>
    have hlist : ("--" ++ name ++ "=" ++ value).toList =
        ("--" ++ name).toList ++ ("=" ++ value).toList := by
      rw [String.append_assoc, String.toList_append]
    exact .refused ⟨_, rfl, hlist ▸ List.prefix_append _ _⟩
  | some x =>
    obtain rfl := Switch.name_of_ofName? hx
    cases x with
    | flag f => exact .attached f value
    | help => exact .refused ⟨_, rfl, List.prefix_rfl⟩
    | version => exact .refused ⟨_, rfl, List.prefix_rfl⟩

theorem acts_step (r : Reading) (ha : a ≠ "--") : r.Acts a (r.step a) := by
  rw [step]
  have hof := Argument.of_ofString a
  generalize Argument.ofString a = form at hof ⊢
  cases hof with
  | escape => exact absurd rfl ha
  | bare => exact r.acts_bare _
  | attached => exact r.acts_attached _ _
  | short h =>
    dsimp only
    rw [short]
    split_ifs
    · exact .asked (.inl rfl)
    · exact .asked (.inr rfl)
    · exact .refused ⟨_, rfl, by rwa [String.toList_ofList]⟩
  | plain hs =>
    dsimp only
    rw [plain.eq_def]
    split
    next hpending => exact .plain hpending hs
    next => exact .refused ⟨_, rfl, List.prefix_rfl⟩

end Reading

end ScriptSandbox.Config
