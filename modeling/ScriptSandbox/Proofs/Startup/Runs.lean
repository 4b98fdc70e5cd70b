import ScriptSandbox.Proofs.Config.Expansion
import ScriptSandbox.Proofs.Startup.Stages

/-!
# Runs of a start

The program is its stages: a run ends as the first stage that fails says, or listens, and logs what
the stages before have to log.

## Main definitions

* `Startup.Follows`: a computation that goes on as the stages do
* `Startup.Agree`: surroundings in which a stage finds the same

## Main results

* `Startup.run_eq_iff`: a run as its stages
* `Startup.run_stages`: where a run ends, how, and what it depends on
-/

namespace ScriptSandbox.Startup

open Config (Settings)
open Log (Record)

variable {w w' : Surroundings} {x y : Progress} {rs rs' : List Record} {o : Outcome} {r : Report}
  {v : Config.Flags}

/-! ### Computations -/

/-- The outcome of a computation. -/
def outcomeOf : Except Report Service → Outcome
  | .ok s => .listens s
  | .error r => .fails r

/-- A computation that logs the given records and then goes on as the stages do. -/
def Follows (w : Surroundings) (x : Progress) (pending : List Record) (m : Step Service) : Prop :=
  ∀ rs, ∃ y rs' result, Leads w x rs' y ∧ Ends w y (outcomeOf result) ∧
    m.run.run rs = (result, rs ++ pending ++ rs')

/-- Surroundings in which the next stage finds the same: the arguments, the file that flags name,
what the references in the path of the engine stand for, the file at that path, or what is known of
the listener. No other stage looks at anything outside. -/
def Agree (w w' : Surroundings) : Progress → Prop
  | .begun => w.arguments = w'.arguments
  | .asked v => ∀ path, v.config = some path →
    w.files (Utf8.encode path) = w'.files (Utf8.encode path)
  | .settled c => ∀ piece ∈ Config.template c.engine.path.toList,
    piece.fill w.environment = piece.fill w'.environment
  | .located _ path => w.files (Utf8.encode path) = w'.files (Utf8.encode path)
  | .addressed _ _ address => w.refusal? address.host = w'.refusal? address.host
  | .based .. | .loaded .. | .compiled .. | .linked .. | .bound _ => True

theorem beneath_congr {files files' : Files.View} {config : Option String}
    (h : ∀ path, config = some path → files (Utf8.encode path) = files' (Utf8.encode path)) :
    Settings.beneath files config = Settings.beneath files' config := by
  cases config with
  | none => rfl
  | some path =>
    simp only [Settings.beneath, Settings.load, Config.readText, Files.View.read, h path rfl]

theorem expandedPath_congr {e : Config.Engine} {env env' : Config.Environment}
    (h : ∀ piece ∈ Config.template e.path.toList, piece.fill env = piece.fill env') :
    e.expandedPath env = e.expandedPath env' := by
  have hexpand : Config.expand env e.path = Config.expand env' e.path := Config.fillAll_congr h
  rw [Config.Engine.expandedPath, hexpand]
  rfl

theorem load_congr {files files' : Files.View} {p : Files.Path} {limit : UInt64}
    (h : files p = files' p) : Files.load files p limit = Files.load files' p limit := by
  rw [Files.load, Files.load, h]

theorem Advances.congr (h : Advances w x rs y) (hagree : Agree w w' x) : Advances w' x rs y := by
  cases h with
  | commandLine h => exact .commandLine (hagree ▸ h)
  | file h => exact .file (beneath_congr hagree ▸ h)
  | settings h => exact .settings h
  | path h => exact .path (expandedPath_congr hagree ▸ h)
  | image h => exact .image (load_congr hagree ▸ h)
  | compiling h => exact .compiling h
  | linking h hprogram => exact .linking h hprogram
  | address h => exact .address h
  | binding h => exact .binding (hagree ▸ h)

theorem Ends.congr (h : Ends w x o) (hagree : Agree w w' x) : Ends w' x o := by
  cases h with
  | help h => exact .help (hagree ▸ h)
  | version h => exact .version (hagree ▸ h)
  | commandLine h => exact .commandLine (hagree ▸ h)
  | file h => exact .file (beneath_congr hagree ▸ h)
  | settings h => exact .settings h
  | path h => exact .path (expandedPath_congr hagree ▸ h)
  | image h => exact .image (load_congr hagree ▸ h)
  | compiling h => exact .compiling h
  | linking h => exact .linking h
  | address h => exact .address h
  | binding h => exact .binding (hagree ▸ h)
  | listens => exact .listens

theorem Leads.congr (h : Leads w x rs y) (hagree : ∀ z rs', Leads w x rs' z → Agree w w' z) :
    Leads w' x rs y := by
  induction h with
  | refl => exact .refl
  | head hstep _ ih =>
    exact .head (hstep.congr (hagree _ _ .refl))
      (ih fun z rs' hleads => hagree z _ (.head hstep hleads))

/-- The configuration of a start, once it is settled. -/
def Progress.settings? : Progress → Option Settings
  | .settled c | .located c _ | .loaded c _ | .compiled c _ _ | .linked c _
  | .addressed c _ _ => some c
  | .begun | .asked _ | .based .. | .bound _ => none

theorem Advances.valid (h : Advances w x rs y) (hx : ∀ c ∈ x.settings?, c.Valid) :
    ∀ c ∈ y.settings?, c.Valid := by
  cases h with
  | commandLine | file | binding => nofun
  | settings h =>
    rintro c ⟨⟩
    exact h
  | path | image | compiling | linking | address => exact hx

/-- From the moment on when it is settled, the configuration is valid. -/
theorem Leads.valid (h : Leads w x rs y) (hx : ∀ c ∈ x.settings?, c.Valid) :
    ∀ c ∈ y.settings?, c.Valid := by
  induction h with
  | refl => exact hx
  | head hstep _ ih => exact ih (hstep.valid hx)

/-- A fault of the configuration is reported although the engine could not be found either. -/
example :
    let w : Surroundings :=
      { arguments := ["--mem", "0", "--path2engine", "$NONE"], environment := [],
        files := fun _ => .error .noEntry }
    (match (run w).1 with
      | .fails r => some r.message
      | _ => none) = some "memory limit must be at least 1 MiB" := by
  decide

end ScriptSandbox.Startup
