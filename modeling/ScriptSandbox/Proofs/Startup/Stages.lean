import ScriptSandbox.Proofs.Config.Limits
import ScriptSandbox.Proofs.Sandbox.Compiling
import ScriptSandbox.Startup

/-!
# Stages of a start

A start goes through its stages in order and ends in the first one that fails. What a stage makes
and what it reports is said here one stage at a time.

## Main definitions

* `Startup.Stage`, `Startup.Progress`: the stages, and what earlier ones have made
* `Startup.Advances`: a stage that succeeds
* `Startup.Ends`: a stage that fails, or the end of all of them
* `Startup.Reaches`: how far a start comes

## Main results

* `Startup.Leads.unique`: a start ends in one stage
-/

namespace ScriptSandbox.Startup

open Config (Settings)
open Log (Record)

/-! ### Stages -/

/-- The stages of a start, in order. -/
inductive Stage where
  | commandLine
  | file
  | settings
  | path
  | image
  | compiling
  | linking
  | address
  | binding
  deriving Repr, DecidableEq

/-- The stage behind another one. -/
def Stage.next? : Stage → Option Stage
  | .commandLine => some .file
  | .file => some .settings
  | .settings => some .path
  | .path => some .image
  | .image => some .compiling
  | .compiling => some .linking
  | .linking => some .address
  | .address => some .binding
  | .binding => none

/-- How far a start has come: what the stages before the next one have made. -/
inductive Progress where
  | begun
  | asked (v : Config.Flags)
  | based (v : Config.Flags) (base : Settings)
  | settled (c : Settings)
  | located (c : Settings) (path : String)
  | loaded (c : Settings) (image : Files.Content)
  | compiled (c : Settings) (image : Files.Content) (m : Wasm.Module)
  | linked (c : Settings) (host : Sandbox.Host)
  | addressed (c : Settings) (host : Sandbox.Host) (address : Net.SocketAddress)
  | bound (s : Service)

/-- The next stage; none when the server listens. -/
def Progress.next? : Progress → Option Stage
  | .begun => some .commandLine
  | .asked _ => some .file
  | .based .. => some .settings
  | .settled _ => some .path
  | .located .. => some .image
  | .loaded .. => some .compiling
  | .compiled .. => some .linking
  | .linked .. => some .address
  | .addressed .. => some .binding
  | .bound _ => none

/-! ### Records -/

/-- The record of a start. -/
def programRecord : Record :=
  ⟨.info, mainComponent, Config.programName ++ " v" ++ Config.programVersion⟩

/-- The records of a configuration and the path of its engine. -/
def settingsRecords (c : Settings) (path : String) : List Record :=
  [⟨.info, mainComponent, "Engine: " ++ path ++ s!" (max {c.engine.maxImageSizeMib} MiB)"⟩,
    ⟨.info, mainComponent, s!"Limits: {c.engine.memoryLimitMib} MiB memory " ++
      s!"({c.engine.exactLimits.memoryLimitPages} pages), {c.engine.timeoutMs} ms timeout"⟩]

/-- The record of an image. -/
def imageRecord (path : String) (image : Files.Content) : Record :=
  ⟨.info, mainComponent ++ "::sandbox::loader",
    "Loaded wasm image " ++ path ++ s!" ({image.size} bytes)"⟩

/-- The records of a host and its tools. -/
def hostRecords (c : Settings) (image : Files.Content) : List Record :=
  [⟨.info, mainComponent ++ "::sandbox::host",
    s!"WASM module compiled successfully ({image.size} bytes, " ++
      s!"up to {c.engine.exactOptions.memoryLimitPages} memory pages per instance)"⟩,
    ⟨.info, mainComponent, s!"Tools: {1} registered"⟩]

/-! ### Steps -/

/-- The server of a configuration. -/
def serviceOf (c : Settings) (host : Sandbox.Host) (address : Net.SocketAddress) : Service where
  address := address
  tools := ({} : Tool.Registry).register
    (Tool.evalScript { host, limits := c.engine.exactLimits, traces := true } false)
  limits := c.server.transportLimits

/-- A stage succeeds: what it logs and how far the start has come then. -/
inductive Advances (w : Surroundings) : Progress → List Record → Progress → Prop
  | commandLine {v : Config.Flags} (h : Config.Flags.read w.arguments = .ok v) :
      Advances w .begun [programRecord] (.asked v)
  | file {v : Config.Flags} {base : Settings} (h : Settings.beneath w.files v.config = .ok base) :
      Advances w (.asked v) [] (.based v base)
  | settings {v : Config.Flags} {base : Settings} (h : (base.apply v).Valid) :
      Advances w (.based v base) [] (.settled (base.apply v))
  | path {c : Settings} {path : String} (h : c.engine.expandedPath w.environment = .ok path) :
      Advances w (.settled c) (settingsRecords c path) (.located c path)
  | image {c : Settings} {path : String} {image : Files.Content}
      (h : Files.load w.files (Utf8.encode path) c.engine.maxImageSizeMib = .ok image) :
      Advances w (.located c path) [imageRecord path image] (.loaded c image)
  | compiling {c : Settings} {image : Files.Content} {m : Wasm.Module}
      (h : Sandbox.IsModule image.toList m) :
      Advances w (.loaded c image) [] (.compiled c image m)
  | linking {c : Settings} {image : Files.Content} {m : Wasm.Module}
      {functions : Array Wasi.Function} {program : Wasm.Program}
      (h : Sandbox.link m = .ok functions) (hprogram : Wasm.Program.ofModule? m = some program) :
      Advances w (.compiled c image m) (hostRecords c image)
        (.linked c { guest := ⟨m, program, functions⟩, options := c.engine.exactOptions })
  | address {c : Settings} {host : Sandbox.Host} {address : Net.SocketAddress}
      (h : c.server.address = .ok address) :
      Advances w (.linked c host) [] (.addressed c host address)
  | binding {c : Settings} {host : Sandbox.Host} {address : Net.SocketAddress}
      (h : w.refusal? address.host = none) :
      Advances w (.addressed c host address) [] (.bound (serviceOf c host address))

/-- A stage fails with what it reports, or the server listens. -/
inductive Ends (w : Surroundings) : Progress → Outcome → Prop
  | help (h : Config.Flags.read w.arguments = .error .help) :
      Ends w .begun (.prints Config.helpText)
  | version (h : Config.Flags.read w.arguments = .error .version) :
      Ends w .begun (.prints Config.versionText)
  | commandLine {e : Config.UsageError} (h : Config.Flags.read w.arguments = .error (.refused e)) :
      Ends w .begun (.refuses e)
  | file {v : Config.Flags} {e : Config.SourceError}
      (h : Settings.beneath w.files v.config = .error e) : Ends w (.asked v) (.fails e.report)
  | settings {v : Config.Flags} {base : Settings} {f : Config.Fault}
      (h : (base.apply v).fault? = some f) :
      Ends w (.based v base) (.fails { message := f.message })
  | path {c : Settings} {r : Report} (h : c.engine.expandedPath w.environment = .error r) :
      Ends w (.settled c) (.fails r)
  | image {c : Settings} {path : String} {e : Files.LoadError}
      (h : Files.load w.files (Utf8.encode path) c.engine.maxImageSizeMib = .error e) :
      Ends w (.located c path) (.fails (loadReport e))
  | compiling {c : Settings} {image : Files.Content}
      (h : ∀ m, ¬Sandbox.IsModule image.toList m) :
      Ends w (.loaded c image) (.fails (compileReport .compileFailed))
  | linking {c : Settings} {image : Files.Content} {m : Wasm.Module} {e : Sandbox.LinkError}
      (h : Sandbox.link m = .error e) :
      Ends w (.compiled c image m) (.fails (compileReport (.linkFailed e)))
  | address {c : Settings} {host : Sandbox.Host} {r : Report} (h : c.server.address = .error r) :
      Ends w (.linked c host) (.fails r)
  | binding {c : Settings} {host : Sandbox.Host} {address : Net.SocketAddress} {f : Os.Failure}
      (h : w.refusal? address.host = some f) :
      Ends w (.addressed c host address) (.fails (listenReport f.message))
  | listens {s : Service} : Ends w (.bound s) (.listens s)

/-- How a start goes on: stages that succeed, with what they log. -/
inductive Leads (w : Surroundings) : Progress → List Record → Progress → Prop
  | refl {x : Progress} : Leads w x [] x
  | head {x y z : Progress} {rs rs' : List Record} (hstep : Advances w x rs y)
      (h : Leads w y rs' z) : Leads w x (rs ++ rs') z

/-- How far a start comes: all stages up to there succeed. -/
def Reaches (w : Surroundings) (x : Progress) (rs : List Record) : Prop := Leads w .begun rs x

variable {w w' : Surroundings} {x x' y y' : Progress} {rs rs' : List Record} {o o' : Outcome}

/-- A stage that succeeds does so in one way. -/
theorem Advances.unique (h : Advances w x rs y) (h' : Advances w x rs' y') :
    rs = rs' ∧ y = y' := by
  cases h with
  | commandLine h | file h | path h | image h | address h =>
    cases h'
    next h' =>
      obtain rfl := Except.ok.inj (h.symm.trans h')
      exact ⟨rfl, rfl⟩
  | settings | binding =>
    cases h'
    exact ⟨rfl, rfl⟩
  | compiling h =>
    cases h'
    next h' =>
      obtain rfl := h.unique h'
      exact ⟨rfl, rfl⟩
  | linking h hprogram =>
    cases h'
    next h' hprogram' =>
      obtain rfl := Except.ok.inj (h.symm.trans h')
      obtain rfl := Option.some.inj (hprogram.symm.trans hprogram')
      exact ⟨rfl, rfl⟩

/-- A stage that fails does not succeed. -/
theorem Ends.not_advances (h : Ends w x o) : ¬Advances w x rs y := by
  intro h'
  cases h with
  | help h | version h | commandLine h | file h | path h | image h | address h | binding h =>
    cases h'
    next h' => cases h.symm.trans h'
  | linking h =>
    cases h'
    next h' _ => cases h.symm.trans h'
  | settings h =>
    cases h'
    next hvalid => cases h.symm.trans (Settings.fault?_eq_none_iff.mpr hvalid)
  | compiling h =>
    cases h'
    next h' => exact h _ h'
  | listens => cases h'

/-- A stage that fails does so in one way. -/
theorem Ends.unique (h : Ends w x o) (h' : Ends w x o') : o = o' := by
  cases h with
  | help h | version h | commandLine h =>
    cases h' <;> next h' => cases h.symm.trans h' <;> rfl
  | file h | image h | path h | linking h | address h =>
    cases h'
    next h' =>
      obtain rfl := Except.error.inj (h.symm.trans h')
      rfl
  | settings h | binding h =>
    cases h'
    next h' =>
      obtain rfl := Option.some.inj (h.symm.trans h')
      rfl
  | compiling | listens =>
    cases h'
    rfl

/-- A start ends in one stage. -/
theorem Leads.unique (h : Leads w x rs y) (hends : Ends w y o) (h' : Leads w x rs' y')
    (hends' : Ends w y' o') : y = y' ∧ rs = rs' ∧ o = o' := by
  induction h generalizing rs' with
  | refl =>
    cases h' with
    | refl => exact ⟨rfl, rfl, hends.unique hends'⟩
    | head hstep' => exact absurd hstep' hends.not_advances
  | head hstep _ ih =>
    cases h' with
    | refl => exact absurd hstep hends'.not_advances
    | head hstep' h' =>
      obtain ⟨rfl, rfl⟩ := hstep.unique hstep'
      obtain ⟨rfl, rfl, rfl⟩ := ih hends h'
      exact ⟨rfl, rfl, rfl⟩

end ScriptSandbox.Startup
