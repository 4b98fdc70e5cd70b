import ScriptSandbox.Mcp.Message
import ScriptSandbox.Mcp.Server

/-!
# Answers to requests

The result of a request, or an error, in the framing of the protocol. Only a call of a tool has one
executed.

## Main definitions

* `Mcp.resultM`: the result of a request
* `Mcp.answerM`: the message that answers a request
-/

namespace ScriptSandbox.Mcp

open Json (Value)

variable {m : Type → Type} [Monad m]

/-- The result of a request. -/
def resultM (execute : Tool.Executor m) (r : Tool.Registry) : Request → m (Except Fault Value)
  | .opening version => return .ok (info (negotiate version))
  | .ping => return .ok (.object [])
  | .listTools => return .ok (.object [("tools", .array (toolList r))])
  | .callTool name arguments => callToolM execute r name arguments
  | .listPrompts => return .ok (.object [("prompts", .array [])])
  | .listResources => return .ok (.object [("resources", .array [])])
  | .listResourceTemplates => return .ok (.object [("resourceTemplates", .array [])])
  | .complete => return .ok (.object [("completion", .object [("values", .array [])])])
  | .unsupported method => return .error (.methodNotFound method)

/-- The message that gives the outcome of a request. -/
def framed (id : Id) (outcome : Except Fault Value) : Value :=
  let member := match outcome with
    | .ok v => ("result", v)
    | .error f => ("error", f.toJson)
  .object [("jsonrpc", .string "2.0"), ("id", id.toJson), member]

/-- The message that answers a request. -/
def answerM (execute : Tool.Executor m) (r : Tool.Registry) (id : Id) (request : Request) :
    m Value :=
  return framed id (← resultM execute r request)

end ScriptSandbox.Mcp
