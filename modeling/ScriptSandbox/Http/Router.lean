import ScriptSandbox.Http.Message
import ScriptSandbox.Json.Reader
import ScriptSandbox.Mcp.Answer

/-!
# Routing

There are two resources: the health of the server and the endpoint of the protocol. Every request is
answered by itself. A body that announces more bytes than allowed is refused first, whatever the
resource; one that turns out to be longer is refused when the endpoint reads it.

## Main definitions

* `Http.bodyLimit`: how many bytes of a body may be read
* `Http.accept`: the message in a request to the endpoint
* `Http.routeM`, `Http.route`: the response to a request, for which tools are executed in a given way
  or plainly
-/

namespace ScriptSandbox.Http

open Mcp (Message)

/-! ### Bodies -/

/-- A number without a plus in front. -/
def unsigned : List Char → List Char
  | '+' :: ds => ds
  | ds => ds

/-- The number of 64 bits that decimal digits write. -/
def digitsNumber? (ds : List Char) : Option Nat :=
  if ds.isEmpty ∨ !ds.all Char.isDigit ∨ UInt64.size ≤ Nat.ofDigitChars 10 ds 0 then none
  else some (Nat.ofDigitChars 10 ds 0)

/-- The announced number of bytes of the body, if the header is a number. -/
def announced? (r : Request) : Option Nat := do
  digitsNumber? (unsigned (← r.headerText? "content-length").toList)

/-- How many bytes of the body may be read: no more than allowed and no more than announced. There
is no number if more is announced than allowed. -/
def bodyLimit (maxBodyBytes : Nat) (r : Request) : Option Nat :=
  match announced? r with
  | none => some maxBodyBytes
  | some n => if maxBodyBytes < n then none else some n

/-- What is said of a body that is too long. -/
def tooLong : String := "length limit exceeded"

/-- The response to a body that announces too many bytes. -/
def payloadTooLarge (headers : List (String × String)) : Response :=
  .plain 413 (("content-type", "text/plain; charset=utf-8") :: headers) tooLong

/-! ### The endpoint -/

/-- The formats that a client of the endpoint must accept. -/
def acceptedFormats : List String := ["application/json", "text/event-stream"]

/-- Whether a text occurs in another one. -/
def occursIn (s : List Char) : (t : List Char) → Bool
  | [] => s.isEmpty
  | c :: t => s.isPrefixOf (c :: t) || occursIn s t

/-- Whether the client accepts the formats of the endpoint. -/
def acceptsFormats (r : Request) : Bool :=
  match r.headerText? "accept" with
  | some s => acceptedFormats.all fun format => occursIn format.toList s.toList
  | none => false

/-- Whether the body claims to be a document. -/
def isDocument (r : Request) : Bool :=
  match r.headerText? "content-type" with
  | some s => s.startsWith "application/json"
  | none => false

/-- What is said of a document that is no message. -/
def noMessage : String := "data did not match any variant of untagged enum JsonRpcMessage"

/-- The message in a body. Bytes after a document matter only once it is a message. -/
def message (body : List UInt8) : Except String Message := do
  let failed (f : Json.Failure) : String := f.message body
  let (v, rest) ← (Json.readPrefix body).mapError failed
  let m ← match Message.ofJson? v with
    | some m => pure m
    | none => .error noMessage
  (Json.expectEnd rest).mapError failed
  return m

/-- The message in a request to the endpoint of whose body `limit` bytes may be read, or the
response to a request without one. -/
def accept (limit : Nat) (r : Request) : Except Response Message := do
  if r.method ≠ "POST" then
    throw (.plain 405 [("allow", "POST")] "Method Not Allowed")
  if !acceptsFormats r then
    throw (.plain 406 []
      "Not Acceptable: Client must accept both application/json and text/event-stream")
  if !isDocument r then
    throw (.plain 415 [] "Unsupported Media Type: Content-Type must be application/json")
  if limit < r.body.length then
    throw (.plain 500 [] ("Failed to read request body: " ++ tooLong))
  (message r.body).mapError fun reason =>
    .plain 415 [] ("fail to deserialize request body " ++ reason)

/-- The headers of a stream of messages. -/
def streamHeaders : List (String × String) :=
  [("cache-control", "no-cache"), ("content-type", "text/event-stream")]

/-- The response to a message: requests are answered, other messages are only taken. -/
def respondM {m : Type → Type} [Monad m] (execute : Tool.Executor m) (tools : Tool.Registry) :
    Message → m Response
  | .request id request =>
    return ⟨200, streamHeaders, .events [← Mcp.answerM execute tools id request]⟩
  | .notification | .response | .error => return .empty 202

/-- The response of the endpoint. -/
def endpointM {m : Type → Type} [Monad m] (execute : Tool.Executor m) (tools : Tool.Registry)
    (limit : Nat) (r : Request) : m Response :=
  match accept limit r with
  | .ok message => respondM execute tools message
  | .error response => return response

/-! ### Responses with a length -/

/-- A response without a body if only its headers are asked for. -/
def bodiless (r : Request) (response : Response) : Response :=
  if r.method = "HEAD" then { response with content := .text "" } else response

/-- The response to a target outside of all paths. -/
def unnamed (limit : Option Nat) (r : Request) : Response :=
  bodiless r <| match limit with
    | none => payloadTooLarge [("content-length", "21")]
    | some _ => .plain 404 [("content-length", "0")] ""

/-! ### The health of the server -/

/-- What the server says of its health. -/
def healthText : String := "\x7b\"status\":\"ok\"\x7d"

/-- The response of the health resource, which may only be read. -/
def health (limit : Option Nat) (r : Request) : Response :=
  let readable := r.method = "GET" ∨ r.method = "HEAD"
  let allow := if readable then [] else [("allow", "GET,HEAD")]
  bodiless r <| match limit with
    | none => payloadTooLarge (("content-length", "21") :: allow)
    | some _ =>
      if readable then
        .plain 200 [("content-type", "application/json"), ("content-length", "15")] healthText
      else .plain 405 (("content-length", "0") :: allow) ""

/-! ### Routes -/

/-- The resources of the server. -/
inductive Resource where
  | health
  | endpoint
  | unknown
  /-- What lies outside of all paths. -/
  | unnamed
  deriving Repr, DecidableEq

/-- The resource that a target names. -/
def resourceAt (target : Target) : Resource :=
  match target.path? with
  | none => .unnamed
  | some path =>
    if path = "/health" then .health
    else if path = "/mcp" ∨ path.startsWith "/mcp/" then .endpoint
    else if path.startsWith "/" then .unknown
    else .unnamed

/-- The response to a request. -/
def routeM {m : Type → Type} [Monad m] (execute : Tool.Executor m) (tools : Tool.Registry)
    (maxBodyBytes : Nat) (r : Request) : m Response :=
  match resourceAt r.target, bodyLimit maxBodyBytes r with
  | .health, limit => return health limit r
  | .unnamed, limit => return unnamed limit r
  | _, none => return payloadTooLarge []
  | .endpoint, some limit => endpointM execute tools limit r
  | .unknown, some _ => return .empty 404

/-- The response to a request, for which tools are executed plainly. -/
def route (tools : Tool.Registry) (maxBodyBytes : Nat) (r : Request) : Response :=
  (routeM .plain tools maxBodyBytes r).run

end ScriptSandbox.Http
