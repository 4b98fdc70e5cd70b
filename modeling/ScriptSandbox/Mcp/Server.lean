import ScriptSandbox.Json.Writer
import ScriptSandbox.Mcp.Version
import ScriptSandbox.Tool.Registry

/-!
# The server

What the server answers about itself and its tools, as documents of the protocol.

## Main definitions

* `Mcp.Fault`: an error of the protocol
* `Mcp.info`: what the server says about itself
* `Mcp.toolList`: the tools
* `Mcp.callToolM`, `Mcp.callTool`: a call of a tool, which is executed in a given way or plainly
-/

namespace ScriptSandbox.Mcp

open Json (Value)

/-- An error of the protocol. -/
structure Fault where
  code : Int
  message : String
  deriving Repr, DecidableEq

namespace Fault

/-- The parameters make no sense. -/
def invalidParams (message : String) : Fault := ⟨-32602, message⟩

/-- The server itself failed. -/
def internal (message : String) : Fault := ⟨-32603, message⟩

/-- There is no such method. -/
def methodNotFound (method : String) : Fault := ⟨-32601, method⟩

/-- The error that a tool's error is. -/
def ofTool (e : Tool.Error) : Fault :=
  match e with
  | .invalidParams _ => .invalidParams e.message
  | .internal _ => .internal e.message

/-- An error as a document. -/
def toJson (f : Fault) : Value :=
  .object [("code", .int f.code), ("message", .string f.message)]

end Fault

/-- How the server is to be used. -/
def instructions : String :=
  "Call eval-js with \x7b\"code\": \"...\"\x7d; the value of the last expression comes back as " ++
  "\x7b\"result\": ...\x7d, failures as \x7b\"error\": \x7b\"code\", \"message\"\x7d\x7d."

/-- What the server says about itself when it speaks a version. -/
def info (version : String) : Value :=
  .object
    [("protocolVersion", .string version),
     ("capabilities", .object [("tools", .object [])]),
     ("serverInfo", .object
       [("name", .string "js-eval"), ("title", .string "JavaScript Evaluator"),
        ("version", .string "v0.1.0")]),
     ("instructions", .string instructions)]

/-- A tool as the protocol lists it. A schema that is not an object counts as an empty one. -/
def toolEntry (d : Tool.Definition) : Value :=
  let schema := match d.inputSchema with
    | .object members => .object members
    | _ => .object []
  { d with inputSchema := schema }.toJson

/-- The tools as the protocol lists them. -/
def toolList (r : Tool.Registry) : List Value := r.definitions.map toolEntry

/-- The answer of a tool as the protocol gives it: as it is, and as text. -/
def toolAnswer (v : Value) : Value :=
  .object
    [("content", .array [.object [("type", .string "text"), ("text", .string v.merged.text)]]),
     ("structuredContent", v),
     ("isError", .bool false)]

/-- Calls a tool with the members of an object as arguments, or with none. -/
def callToolM {m : Type → Type} [Monad m] (execute : Tool.Executor m) (r : Tool.Registry)
    (name : String) (arguments : Option (List (String × Value))) : m (Except Fault Value) := do
  let some t := r.get? name | return .error (.invalidParams ("unknown tool: " ++ name))
  let outcome ← execute t (.object (arguments.getD []))
  return (outcome.mapError .ofTool).map toolAnswer

/-- Calls a tool, which is executed plainly. -/
def callTool (r : Tool.Registry) (name : String) (arguments : Option (List (String × Value))) :
    Except Fault Value :=
  (callToolM .plain r name arguments).run

end ScriptSandbox.Mcp
