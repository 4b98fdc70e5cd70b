import ScriptSandbox.Mcp.Shape

/-!
# Messages of the protocol

A message of a client is a request with an identifier, a notification, a response or an error. What
a document is decides its shape: the version of the framing, the identifier, a known method, and
parameters of the shape the method needs. Members without a meaning do not matter; members with one
must not be repeated.

## Main definitions

* `Mcp.Id`: identifiers of requests
* `Mcp.Request`: requests
* `Mcp.Message`: messages of a client
* `Mcp.Message.ofJson?`: the message that a document is
-/

namespace ScriptSandbox.Mcp

open Json (Value)

/-- The value of a member that may be absent or null; no result if it is repeated. -/
def optional? (ms : Members) (name : String) : Option (Option Value) :=
  match ms.filter (·.1 = name) with
  | [] => some none
  | [(_, .null)] => some none
  | [(_, v)] => some (some v)
  | _ => none

/-- The text of a member. -/
def text? (ms : Members) (name : String) : Option String := (Json.only? ms name).bind Value.string?

/-- The identifier of a request. -/
inductive Id where
  | number (n : Int)
  | string (s : String)
  deriving Repr, DecidableEq

/-- An identifier: a string, or an integer of 64 bits. -/
def Id.ofJson? : Value → Option Id
  | .string s => some (.string s)
  | .number (.integer n) => if n < 0x8000000000000000 then some (.number n) else none
  | _ => none

/-- An identifier as a document. -/
def Id.toJson : Id → Value
  | .number n => .int n
  | .string s => .string s

/-- An identifier of a request or of a task. -/
def Shape.identifier : Shape := fun v => (v.bind Id.ofJson?).isSome

/-- The member that names the version of the framing. -/
def framing : String × Shape := ("jsonrpc", .word "2.0")

/-- The members of parameters. Remarks, if there are any, are an object. -/
def paramsOf? : Value → Option Members
  | .object ps => if Shape.members [("_meta", .optional .object)] ps then some ps else none
  | _ => none

/-- Parameters that must be there. -/
def params? (ms : Members) : Option Members := (Json.only? ms "params").bind paramsOf?

/-- Parameters that may be absent or null. -/
def optionalParams? (ms : Members) : Option Members := do
  match ← optional? ms "params" with
  | none => return []
  | some v => paramsOf? v

/-! ### Requests -/

/-- What a client asks for. -/
inductive Request where
  | opening (version : String)
  | ping
  | listTools
  | callTool (name : String) (arguments : Option Members)
  | listPrompts
  | listResources
  | listResourceTemplates
  /-- How an argument could be completed. -/
  | complete
  /-- A method that is known but not offered. -/
  | unsupported (method : String)

namespace Request

/-- What a client is able to do. -/
def capabilities : Shape := .record
  [("experimental", .optional (.mapOf .object)),
   ("roots", .optional (.record [("listChanged", .optional .truth)])),
   ("sampling", .optional .object),
   ("elicitation", .optional (.record [("schemaValidation", .optional .truth)]))]

/-- A picture of a client. -/
def icon : Shape := .record
  [("src", .text), ("mimeType", .optional .text), ("sizes", .optional (.listOf .text))]

/-- What a client is. -/
def client : Shape := .record
  [("name", .text), ("title", .optional .text), ("version", .text),
   ("icons", .optional (.listOf icon)), ("websiteUrl", .optional .text)]

/-- The parameters of an opening request. -/
def opening? (ps : Members) : Option Request := do
  if Shape.members [("capabilities", capabilities), ("clientInfo", client)] ps then
    return .opening (← text? ps "protocolVersion")
  else none

/-- The members of an optional object of arguments. -/
def arguments? (ps : Members) : Option (Option Members) := do
  match ← optional? ps "arguments" with
  | none => return none
  | some (.object arguments) => return some arguments
  | some _ => none

/-- The names of the levels of logging. -/
def levels : List String :=
  ["debug", "info", "notice", "warning", "error", "critical", "alert", "emergency"]

/-- What is to be completed. -/
def reference : Shape := .tagged "type"
  [("ref/resource", [("uri", .text)]),
   ("ref/prompt", [("name", .text), ("title", .optional .text)])]

/-- The parameters of a completion. -/
def completion : List (String × Shape) :=
  [("ref", reference),
   ("argument", .record [("name", .text), ("value", .text)]),
   ("context", .optional (.record [("arguments", .optional (.mapOf .text))]))]

/-- A request whose parameters have the given fields. -/
def ofParams? (ms : Members) (fields : List (String × Shape)) (r : Request) : Option Request := do
  if Shape.members fields (← params? ms) then return r else none

/-- A request for a list. Where the list is to start does not matter. -/
def list? (ms : Members) (r : Request) : Option Request := do
  let _ ← optionalParams? ms
  return r

/-- The request that members describe. -/
def ofMembers? (ms : Members) : Option Request := do
  let method ← text? ms "method"
  match method with
  | "ping" => return .ping
  | "initialize" => opening? (← params? ms)
  | "tools/list" => list? ms .listTools
  | "tools/call" => do
    let ps ← params? ms
    return .callTool (← text? ps "name") (← arguments? ps)
  | "prompts/list" => list? ms .listPrompts
  | "resources/list" => list? ms .listResources
  | "resources/templates/list" => list? ms .listResourceTemplates
  | "completion/complete" => ofParams? ms completion .complete
  | "logging/setLevel" => ofParams? ms [("level", .oneOf levels .blank)] (.unsupported method)
  | "prompts/get" =>
    ofParams? ms [("name", .text), ("arguments", .optional .object)] (.unsupported method)
  | "resources/read" | "resources/subscribe" | "resources/unsubscribe" =>
    ofParams? ms [("uri", .text)] (.unsupported method)
  | _ => none

end Request

/-! ### Messages -/

/-- A message of a client. -/
inductive Message where
  | request (id : Id) (r : Request)
  | notification
  | response
  | error

namespace Message

/-- The request that a document is. -/
def request? : Value → Option Message
  | .object ms => do
    if Shape.members [framing] ms then
      return .request (← (Json.only? ms "id").bind Id.ofJson?) (← Request.ofMembers? ms)
    else none
  | _ => none

/-- A place where a client keeps its files. -/
def root : Shape := .record [("uri", .text), ("name", .optional .text)]

/-- The result of a request: any object, or the array of the fields of a result that a client may
give. -/
def result : Shape
  | some (.array vs) =>
    Shape.items [] vs || Shape.items [("roots", .listOf root)] vs ||
      Shape.items
        [("action", .oneOf ["accept", "decline", "cancel"] .null), ("content", .anything)] vs
  | v => Shape.object v

/-- The response that a document is. -/
def response? (v : Value) : Option Message :=
  if Shape.record [framing, ("id", .identifier), ("result", result)] v then some .response
  else none

/-- Whether members describe a known notification. -/
def isNotification (ms : Members) : Bool :=
  match text? ms "method" with
  | some "notifications/initialized" | some "notifications/roots/list_changed" => true
  | some "notifications/cancelled" =>
    (params? ms).any (Shape.members [("requestId", .identifier), ("reason", .optional .text)])
  | some "notifications/progress" =>
    (params? ms).any (Shape.members
      [("progressToken", .identifier), ("progress", .number), ("total", .optional .number),
       ("message", .optional .text)])
  | _ => false

/-- The notification that a document is. -/
def notification? : Value → Option Message
  | .object ms =>
    if Shape.members [framing] ms && isNotification ms then some .notification else none
  | _ => none

/-- What went wrong in a request. -/
def fault : Shape := .record
  [("code", .integer), ("message", .text), ("data", .optional .anything)]

/-- The error that a document is. -/
def error? (v : Value) : Option Message :=
  if Shape.record [framing, ("id", .identifier), ("error", fault)] v then some .error else none

/-- The message that a document is. A request that no method answers may still be one of the
others. -/
def ofJson? (v : Value) : Option Message :=
  request? v <|> response? v <|> notification? v <|> error? v

end Message

end ScriptSandbox.Mcp
