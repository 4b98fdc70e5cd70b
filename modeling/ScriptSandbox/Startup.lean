import ScriptSandbox.Config.Expansion
import ScriptSandbox.Config.Listening
import ScriptSandbox.Config.Source
import ScriptSandbox.Files.Image
import ScriptSandbox.Log
import ScriptSandbox.Tool.EvalScript
import ScriptSandbox.Tool.Registry

/-!
# Starting the server

The program reads its flags, builds the configuration, loads and compiles the engine and listens.
The first step that fails ends it with a report; every step that succeeds is logged.

## Main definitions

* `Startup.Surroundings`: what the program finds
* `Startup.Service`: a server that listens
* `Startup.Outcome`: what the program does
* `Startup.run`: the outcome in given surroundings
-/

namespace ScriptSandbox.Startup

open Log (Record)

/-- What the program finds. -/
structure Surroundings where
  arguments : List String
  environment : Config.Environment
  files : Files.View
  /-- Why a listener cannot be bound, as far as that is known beforehand. -/
  refusal? : Net.Host → Option Os.Failure := fun _ => none

/-- A server that listens. -/
structure Service where
  address : Net.SocketAddress
  tools : Tool.Registry
  limits : Config.TransportLimits

/-- A computation that logs and may fail. -/
abbrev Step := ExceptT Report (StateM (List Record))

/-- Logs a record of a component. -/
def log (component message : String) : Step Unit :=
  modify (· ++ [⟨.info, component, message⟩])

/-- A result, or a failure with its report. -/
def ensure {α : Type} : Except Report α → Step α
  | .ok a => return a
  | .error r => throw r

/-- The component of the program itself. -/
def mainComponent : String := "js_eval_wasi"

/-- The record of a server that listens. -/
def listeningRecord (address : String) : Record where
  level := .info
  component := mainComponent ++ "::mcp::server"
  message := "Ready to start HTTP MCP server. Listening on " ++ address

/-- The record of a server that is told to stop. -/
def stoppingRecord : Record where
  level := .info
  component := mainComponent
  message := "Shutdown signal received, exiting"

/-- The report of an image that is not loaded. -/
def loadReport (e : Files.LoadError) : Report where
  message := "failed to load WASM binary"
  causes := e.message :: (e.cause?.map (·.message)).toList

/-- The report of a guest that is not compiled. -/
def compileReport (e : Sandbox.CompileError) : Report where
  message := "failed to create WASI JavaScript evaluator"
  causes := [match e with
    | .compileFailed => "failed to compile wasm module"
    | .linkFailed e => Sandbox.linkFailure e]

/-- The report of a memory limit that overflows. A configuration without faults has none. -/
def overflowReport : Report := { message := "memory limit overflows" }

/-- The report of a listener that is not bound. -/
def listenReport (cause : String) : Report where
  message := "failed to listen and serve"
  causes := [cause]

/-- The steps of the program behind its flags. -/
def serve (w : Surroundings) (flags : Config.Flags) : Step Service := do
  log mainComponent (Config.programName ++ " v" ++ Config.programVersion)
  let settings ← ensure ((Config.Settings.ofFlags w.files flags).mapError (·.report))
  let path ← ensure (settings.engine.expandedPath w.environment)
  let options ← ensure (settings.engine.options?.elim (.error overflowReport) .ok)
  let limits ← ensure (settings.engine.limits?.elim (.error overflowReport) .ok)
  log mainComponent ("Engine: " ++ path ++ s!" (max {settings.engine.maxImageSizeMib} MiB)")
  log mainComponent (s!"Limits: {settings.engine.memoryLimitMib} MiB memory " ++
    s!"({limits.memoryLimitPages} pages), {settings.engine.timeoutMs} ms timeout")
  let image ← ensure ((Files.load w.files (Utf8.encode path)
    settings.engine.maxImageSizeMib).mapError loadReport)
  log (mainComponent ++ "::sandbox::loader")
    ("Loaded wasm image " ++ path ++ s!" ({image.size} bytes)")
  let host ← ensure ((Sandbox.Host.compile image.toList options).mapError compileReport)
  log (mainComponent ++ "::sandbox::host")
    (s!"WASM module compiled successfully ({image.size} bytes, " ++
      s!"up to {options.memoryLimitPages} memory pages per instance)")
  let evaluator : Sandbox.Evaluator := { host, limits, traces := true }
  let tools := ({} : Tool.Registry).register (Tool.evalScript evaluator false)
  log mainComponent s!"Tools: {tools.size} registered"
  let address ← ensure settings.server.address
  match w.refusal? address.host with
  | some f => throw (listenReport f.message)
  | none => return { address, tools, limits := settings.server.transportLimits }

/-- What the program does. -/
inductive Outcome where
  /-- It prints a text and ends. -/
  | prints (text : String)
  /-- It refuses its arguments. -/
  | refuses (e : Config.UsageError)
  /-- It fails with a report. -/
  | fails (r : Report)
  | listens (s : Service)

/-- What the program does, and the records it logs on the way. -/
def run (w : Surroundings) : Outcome × List Record :=
  match Config.Flags.read w.arguments with
  | .error .help => (.prints Config.helpText, [])
  | .error .version => (.prints Config.versionText, [])
  | .error (.refused e) => (.refuses e, [])
  | .ok flags =>
    match (serve w flags).run.run [] with
    | (.ok s, records) => (.listens s, records)
    | (.error r, records) => (.fails r, records)

/-- What is shown of the records: what the environment asks for, else what this program and its
transport have to say. -/
def filter (environment : Config.Environment) : Log.Filter :=
  ((environment.lookup "RUST_LOG").bind Log.Filter.ofText?).getD <|
    [mainComponent, "tower_http"].map fun component =>
      { component := some component, rank := Log.Level.info.rank }

/-- The shown lines of the log. -/
def shownLines (environment : Config.Environment) (records : List Record) : List String :=
  (records.filter (filter environment).shows).map (·.line)

/-- The exit code of an outcome; a server that is told to stop ends well. -/
def Outcome.exitCode : Outcome → Nat
  | .prints _ | .listens _ => 0
  | .fails _ => 1
  | .refuses _ => 2

/-- What is printed beside the log. -/
def Outcome.output : Outcome → String
  | .prints text => text
  | _ => ""

/-- What is printed about a failure. -/
def Outcome.errorOutput : Outcome → String
  | .refuses e => e.text
  | .fails r => r.text
  | _ => ""

end ScriptSandbox.Startup
