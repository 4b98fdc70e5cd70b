import ScriptSandbox.Http.Router
import ScriptSandbox.Startup
import Std.Async.Signal
import Std.Http.Server

/-!
# The program

This module reads the arguments, the environment and the files, prints what the start of the server
has to say, and passes requests to the router until it is interrupted.
-/

namespace ScriptSandbox.Program

open Std.Http (Body)

/-! ### Files and variables -/

/-- What a path leads to. -/
def look (path : String) : IO (Except Os.Failure Files.Found) := do
  try
    let bytes ← IO.FS.readBinFile path
    match Files.Content.of? bytes.toList 0 with
    | some c => return .ok (.file c)
    | none => return .error .invalidArgument
  catch
    | .noFileOrDirectory .. => return .error .noEntry
    | .inappropriateType .. => return .ok (.directory [])
    | _ => return .error .invalidArgument

/-- The view of some paths. -/
def viewOf (paths : List String) : IO Files.View := do
  let found ← paths.mapM fun path => return (Utf8.encode path, ← look path)
  return fun p => (found.lookup p).getD (.error .noEntry)

/-- The variables among some names that are set. -/
def environmentOf (names : List String) : IO Config.Environment :=
  names.filterMapM fun name => return (← IO.getEnv name).map (name, ·)

/-- The names of the variables that a path refers to. -/
def namesIn (path : String) : List String :=
  (Config.template path.toList).filterMap fun
    | .variable name _ => some (String.ofList name)
    | _ => none

/-- What the program finds: only the files and variables that it will ask for are looked at. -/
def surroundings (arguments : List String) : IO Startup.Surroundings := do
  let flags := match Config.Flags.read arguments with
    | .ok flags => flags
    | .error _ => {}
  let configs := flags.config.toList
  let settings := match Config.Settings.ofFlags (← viewOf configs) flags with
    | .ok s => s
    | .error _ => {}
  let environment ← environmentOf (["HOME", "RUST_LOG"] ++ namesIn settings.engine.path)
  let engines := (settings.engine.expandedPath environment).toOption.toList
  return { arguments, environment, files := ← viewOf (configs ++ engines) }

/-! ### Requests -/

/-- A request as the router takes it. -/
def requestOf? (head : Std.Http.Request.Head) (body : ByteArray) :
    Except Http.RequestFault Http.Request :=
  Http.Request.ofParts? (toString head.method) (toString head.uri)
    (head.headers.toList.map fun (name, value) => (name.value, Utf8.encode value.value))
    body.toList

/-- The bytes of a response; messages are events of a stream. -/
def contentBytes : Http.Content → ByteArray
  | .text s => s.toUTF8
  | .events messages => (String.join (messages.map fun m => "data: " ++ m.text ++ "\n\n")).toUTF8

/-- A response as it is sent. The length of the body is stated by the transport. -/
def responseOf (r : Http.Response) : Std.Async.Async (Std.Http.Response Body.Full) := do
  let status := (Std.Http.Status.ofCode none r.status.toUInt16).getD .internalServerError
  let builder := r.headers.foldl (fun (b : Std.Http.Response.Builder) (name, value) =>
    if name = "content-length" then b else (b.header? name value).getD b)
    (Std.Http.Response.withStatus status)
  builder.fromBytes (contentBytes r.content)

/-- Passes requests to the router. -/
structure Handler where
  service : Startup.Service

instance : Std.Http.Server.Handler Handler where
  ResponseBody := Body.Full
  onRequest self request := do
    let body : ByteArray ← request.body.readAll
    responseOf (match requestOf? request.line body with
      | .ok r => Http.route self.service.tools self.service.limits.maxBodyBytes r
      | .error _ => .empty 400)

/-! ### Serving -/

/-- An address as a listener takes it. -/
def socketAddress (a : Net.SocketAddress) : Std.Net.SocketAddress :=
  match a.host with
  | .v4 ip => .v4 ⟨.ofParts ip.first ip.second ip.third ip.fourth, a.port⟩
  | .v6 ip _ => .v6 ⟨⟨⟨ip.groups.toArray, by simp [ip.length_groups]⟩⟩, a.port⟩

/-- Serves requests until the program is interrupted. -/
def serve (service : Startup.Service) (log : Log.Record → IO Unit) : IO Unit :=
  Std.Async.Async.block do
    let server ← Std.Http.Server.serve (socketAddress service.address) (Handler.mk service)
      { maxBodySize := service.limits.maxBodyBytes + 1 }
    log (Startup.listeningRecord (String.ofList service.address.text))
    let interrupted ← Std.Async.Signal.Waiter.mk .sigint false
    let _ ← Std.Async.Async.ofAsyncTask (← interrupted.wait)
    log Startup.stoppingRecord
    server.shutdownAndWait

/-- Prints what is shown of a record. -/
def printRecord (environment : Config.Environment) (r : Log.Record) : IO Unit := do
  let output ← IO.getStdout
  for line in Startup.shownLines environment [r] do
    output.putStrLn line
  output.flush

/-- Prints a text about a failure. -/
def printError (text : String) : IO Unit := do
  (← IO.getStderr).putStr text

end ScriptSandbox.Program

open ScriptSandbox in
/-- Runs the program. -/
def main (arguments : List String) : IO UInt32 := do
  let w ← Program.surroundings arguments
  let (outcome, records) := Startup.run w
  let log := Program.printRecord w.environment
  records.forM log
  IO.print outcome.output
  Program.printError outcome.errorOutput
  match outcome with
  | .listens service =>
    try
      Program.serve service log
      return 0
    catch e =>
      Program.printError (Startup.listenReport (toString e)).text
      return 1
  | _ => return outcome.exitCode.toUInt32
