import ScriptSandbox.Proofs.Config.MemoryLimits
import ScriptSandbox.Proofs.Sandbox.CapturedOutput
import ScriptSandbox.Startup

/-!
# Limits that are handed on

Eight limits are derived from a configuration and handed on to what starts. Six of them are checked,
and these are never zero. Nothing checks how much output is captured and how long a request may
take. They are zero if and only if the file says so, as there are no flags for them. With no output
captured no evaluation has a value, whatever the guest is.

## Main definitions

* `Config.Configured`: the configuration that the program is given
* `Config.Limit`: the limits that are handed on
* `Config.Limit.handed?`: the amount that is handed on

## Main results

* `Config.Settings.value_eq_iff_gives`: what only the file can have said
* `Config.limits_handed_on`: which limits are zero, and when
* `Config.not_forall_handed_ne_zero`: the limits that are not checked can be zero
-/

namespace ScriptSandbox

/-! ### Evaluations without output -/

namespace Sandbox.Session

/-- Where nothing is captured, no evaluation has a value. -/
theorem stage_ne_of_maxOutputBytes_eq_zero {e : Evaluator}
    (h : e.host.options.maxOutputBytes = 0) (ops : List Operation) (i : Nat) (v : Json.Value) :
    ((ofEvaluator e).performAll ops).stage i ≠ .returned (.ok v) := by
  intro hreturned
  obtain ⟨r, k, ended, -, -, hof, hended, hv⟩ := exists_ended_of_returned hreturned nofun
  have hcompleted : Evaluation.Completed ended.outcome :=
    Evaluation.completed_of_classify hv.symm
  have hcaptured := hof.captured
  rw [hended] at hcaptured
  obtain ⟨output, hcaptured, hstdout⟩ := hcaptured hcompleted
  have hempty : ended.stdout = [] := by
    rw [hstdout, hcaptured.output, Wasi.Capture.toList_append]
    change List.take e.host.options.maxOutputBytes _ = []
    rw [h, List.take_zero]
  rw [Ended.result, Evaluation.classify_eq_decodeOutput hcompleted, hempty] at hv
  cases hv

end Sandbox.Session

namespace Config

open Toml (Node)

variable {files : Files.View} {v : Flags} {c c' : Settings} {p : Parameter} {m : Node}

/-! ### Limits -/

/-- The configuration that the program is given: what the flags among its arguments ask for. -/
structure Configured (w : Startup.Surroundings) (v : Flags) (c : Settings) : Prop where
  flags : Flags.read w.arguments = .ok v
  settings : Settings.ofFlags w.files v = .ok c

/-- The limits that are handed on. -/
inductive Limit where
  /-- The pages of a memory of any run. -/
  | ceiling
  /-- The output that is captured of a run. -/
  | output
  /-- How often a run is interrupted. -/
  | tick
  /-- The pages that an evaluator asks for. -/
  | memory
  /-- The time of an evaluation. -/
  | deadline
  /-- The body of a request. -/
  | body
  /-- The time of a request. -/
  | requestTime
  /-- The image that is loaded. -/
  | image
  deriving Repr, DecidableEq

namespace Limit

/-- The parameter that a limit is derived from. -/
def parameter : Limit → Parameter
  | .ceiling | .memory => .memoryLimitMib
  | .output => .maxOutputBytes
  | .tick => .epochTickMs
  | .deadline => .timeoutMs
  | .body => .maxBodyBytes
  | .requestTime => .requestTimeoutMs
  | .image => .maxImageSizeMib

/-- The amount of a limit that is handed on; `none` if there is none because it overflows. -/
def handed? (c : Settings) : Limit → Option Nat
  | .ceiling => c.engine.options?.map (·.memoryLimitPages)
  | .output => c.engine.options?.map (·.maxOutputBytes)
  | .tick => c.engine.options?.map (·.tick)
  | .memory => c.engine.limits?.map (·.memoryLimitPages)
  | .deadline => c.engine.limits?.map (·.deadline)
  | .body => some c.server.transportLimits.maxBodyBytes
  | .requestTime => some c.server.transportLimits.requestTimeout
  | .image => some c.engine.maxImageSizeMib.toNat

end Limit

namespace Settings

/-- A limit of a valid configuration is handed on in full, in some unit. -/
theorem Valid.exists_handed? (h : c.Valid) (l : Limit) :
    ∃ n unit, c.value l.parameter = .natural n ∧ 0 < unit ∧ l.handed? c = some (n * unit) := by
  cases l <;> simp only [Limit.handed?, h.options?_eq, h.limits?_eq, Option.map_some]
  case ceiling | memory => exact ⟨_, pagesPerMib, rfl, by decide, rfl⟩
  case tick | deadline | requestTime => exact ⟨_, Sandbox.nanosPerMilli, rfl, by decide, rfl⟩
  case output | body | image => exact ⟨_, 1, rfl, by decide, (congrArg some (Nat.mul_one _)).symm⟩

/-- A limit is zero if and only if its parameter is. -/
theorem Valid.exists_handed?_eq_zero_iff (h : c.Valid) (l : Limit) :
    ∃ n, l.handed? c = some n ∧ (n = 0 ↔ c.value l.parameter = .natural 0) := by
  obtain ⟨n, unit, hvalue, hunit, hhanded⟩ := h.exists_handed? l
  refine ⟨n * unit, hhanded, ?_⟩
  rw [hvalue, Node.natural_inj, Nat.mul_eq_zero]
  omega

/-- All parameters but two are checked. -/
theorem Valid.value_ne_zero (h : c.Valid) {l : Limit} (houtput : l ≠ .output)
    (hrequest : l ≠ .requestTime) : c.value l.parameter ≠ .natural 0 := by
  cases l
  case output | requestTime => contradiction
  case ceiling | memory => exact mt Node.natural_inj.mp (Nat.ne_of_gt h.memoryLimit.1)
  case tick => exact mt Node.natural_inj.mp (Nat.ne_of_gt h.epochTick)
  case deadline => exact mt Node.natural_inj.mp (Nat.ne_of_gt h.timeout)
  case body => exact mt Node.natural_inj.mp (Nat.ne_of_gt h.maxBody)
  case image => exact mt Node.natural_inj.mp (Nat.ne_of_gt h.maxImageSize)

/-- Whether a configuration is valid depends on the other parameters only. -/
theorem Valid.of_value_eq (h : c.Valid) (heq : ∀ p, p ≠ .maxOutputBytes → p ≠ .requestTimeoutMs →
    c'.value p = c.value p) : c'.Valid where
  memoryLimit := Node.natural_inj.mp (heq .memoryLimitMib nofun nofun) ▸ h.memoryLimit
  timeout := Node.natural_inj.mp (heq .timeoutMs nofun nofun) ▸ h.timeout
  maxImageSize := Node.natural_inj.mp (heq .maxImageSizeMib nofun nofun) ▸ h.maxImageSize
  epochTick := Node.natural_inj.mp (heq .epochTickMs nofun nofun) ▸ h.epochTick
  maxBody := Node.natural_inj.mp (heq .maxBodyBytes nofun nofun) ▸ h.maxBody

/-- A parameter without a flag that is not the default is what the file says. -/
theorem value_eq_iff_gives (h : ofFlags files v = .ok c) (hflag : v.value? p = none)
    (hdefault : m ≠ ({} : Settings).value p) :
    c.value p = m ↔ ∃ d, Loads files v.config d ∧ Gives d p m := by
  rw [ofFlags_eq_bind, bind_eq_ok_iff] at h
  obtain ⟨base, hbase, hcheck⟩ := h
  obtain ⟨d, hloads, hdocument⟩ := beneath_eq_ok_iff.mp hbase
  obtain ⟨rfl, -⟩ := check_eq_ok_iff.mp hcheck
  rw [eq_comm, ← settles_iff hloads.distinct hdocument]
  constructor
  · rintro (hm | ⟨-, hm⟩ | -)
    · cases hflag.symm.trans hm
    · exact ⟨d, hloads, hm⟩
    · contradiction
  · rintro ⟨d', hloads', hgives⟩
    obtain rfl := hloads.unique hloads'
    exact .file hflag hgives

end Settings

/-- Of the limits that are handed on, only those of the captured output and of the time of a request
can be zero, and each of them is if and only if the file says so. A configuration that differs in
these two alone is accepted as well, whatever they are. If no output is captured, no evaluation has
a value, whatever its guest and its source are. -/
theorem limits_handed_on (w : Startup.Surroundings) (v : Flags) (c : Settings)
    (h : Configured w v c) :
    (∀ l : Limit, ∃ n, l.handed? c = some n ∧
      (n = 0 ↔ (l = .output ∨ l = .requestTime) ∧
        ∃ d, Loads w.files v.config d ∧ Gives d l.parameter (.natural 0))) ∧
    (∀ c' : Settings, (∀ p, p ≠ .maxOutputBytes → p ≠ .requestTimeoutMs →
      c'.value p = c.value p) → c'.fault? = none) ∧
    ∀ e : Sandbox.Evaluator, c.engine.Configures e → Limit.output.handed? c = some 0 →
      ∀ ops i value, ((Sandbox.Session.ofEvaluator e).performAll ops).stage i ≠
        .returned (.ok value) := by
  obtain ⟨-, -, -, -, hvalid⟩ := Settings.ofFlags_eq_ok_iff.mp h.settings
  refine ⟨fun l => ?_, fun c' heq => Settings.fault?_eq_none_iff.mpr (hvalid.of_value_eq heq),
    fun e he hzero => ?_⟩
  · obtain ⟨n, hhanded, hn⟩ := hvalid.exists_handed?_eq_zero_iff l
    refine ⟨n, hhanded, hn.trans ?_⟩
    by_cases hl : l = .output ∨ l = .requestTime
    · rw [and_iff_right hl]
      apply Settings.value_eq_iff_gives h.settings
      · obtain rfl | rfl := hl <;> rfl
      · obtain rfl | rfl := hl <;> exact mt Node.natural_inj.mp (by decide)
    · obtain ⟨houtput, hrequest⟩ := not_or.mp hl
      exact iff_of_false (hvalid.value_ne_zero houtput hrequest) fun h => hl h.1
  · apply Sandbox.Session.stage_ne_of_maxOutputBytes_eq_zero
    rw [Limit.handed?, he.options] at hzero
    exact Option.some.inj hzero

/-! ### Limits that are zero -/

/-- A program that is given a configuration file. -/
def fileGiven (text : String) (fits : (Utf8.encode text).length + 0 < UInt64.size) :
    Startup.Surroundings where
  arguments := ["--config", "c.toml"]
  environment := [("HOME", "/home/user")]
  files _ := .ok (.file ⟨Utf8.encode text, 0, fits⟩)

/-- A program that is told to capture no output. -/
def noOutput : Startup.Surroundings :=
  fileGiven "[engine]\nmax_output_bytes = 0" (by decide +kernel)

/-- A program that is told to give requests no time. -/
def noRequestTime : Startup.Surroundings :=
  fileGiven "[server]\nrequest_timeout_ms = 0" (by decide +kernel)

theorem configured_of_toOption {w : Startup.Surroundings} (hflags : Flags.read w.arguments = .ok v)
    (h : (Settings.ofFlags w.files v).toOption = some c) : Configured w v c where
  flags := hflags
  settings := by
    cases hsettings : Settings.ofFlags w.files v with
    | error e => cases hsettings ▸ h
    | ok c' =>
      rw [hsettings] at h
      exact congrArg Except.ok (Option.some.inj h)

theorem configured_noOutput :
    Configured noOutput { config := some "c.toml" } { engine := { maxOutputBytes := 0 } } :=
  configured_of_toOption rfl (by decide +kernel)

theorem configured_noRequestTime :
    Configured noRequestTime { config := some "c.toml" } { server := { requestTimeoutMs := 0 } } :=
  configured_of_toOption rfl (by decide +kernel)

/-- The output is what the file says, and the limits that are checked are not zero. -/
theorem limits_handed_on_noOutput :
    Configured noOutput { config := some "c.toml" } { engine := { maxOutputBytes := 0 } } ∧
      (∃ d, Loads noOutput.files (some "c.toml") d ∧ Gives d .maxOutputBytes (.natural 0)) ∧
      ∃ n, Limit.deadline.handed? { engine := { maxOutputBytes := 0 } } = some n ∧ n ≠ 0 := by
  have hlimits := (limits_handed_on _ _ _ configured_noOutput).1
  obtain ⟨n, hhanded, hn⟩ := hlimits .output
  obtain rfl : 0 = n := Option.some.inj hhanded
  obtain ⟨k, hdeadline, hk⟩ := hlimits .deadline
  exact ⟨configured_noOutput, (hn.mp rfl).2, k, hdeadline, fun hzero => by simpa using hk.mp hzero⟩

/-- The limits that are not checked can be zero. -/
theorem not_forall_handed_ne_zero :
    (∃ v c, Configured noOutput v c ∧ Limit.output.handed? c = some 0) ∧
    (∃ v c, Configured noRequestTime v c ∧ Limit.requestTime.handed? c = some 0) ∧
    ¬ ∀ w v c, Configured w v c → ∀ l : Limit, l.handed? c ≠ some 0 :=
  ⟨⟨_, _, configured_noOutput, rfl⟩, ⟨_, _, configured_noRequestTime, rfl⟩,
    fun hall => hall _ _ _ configured_noOutput .output rfl⟩

end Config

end ScriptSandbox
