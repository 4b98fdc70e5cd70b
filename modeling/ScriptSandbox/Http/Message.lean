import ScriptSandbox.Http.Target
import ScriptSandbox.Json.Basic
import ScriptSandbox.Text.Utf8

/-!
# Requests and responses

## Main definitions

* `Http.Request`: a request
* `Http.Request.ofParts?`: the request with given parts
* `Http.Response`: a response, which holds a text or messages
* `Http.Request.header?`: the value of a header
-/

namespace ScriptSandbox.Http

/-- A request. -/
structure Request where
  method : String
  target : Target
  headers : List (String × List UInt8)
  body : List UInt8
  deriving Repr

/-- Why there is no request. -/
inductive RequestFault where
  | badMethod
  | badTarget (fault : TargetFault)
  | badHeaderName
  | badHeaderValue
  deriving Repr, DecidableEq

namespace Request

/-- Whether a text is a token, as methods and names of headers are. -/
def isToken (s : String) : Bool :=
  !s.isEmpty && s.all fun c => c.isAlphanum || c ∈ "!#$%&'*+-.^_`|~".toList

/-- The greatest length of the name of a header. -/
def maxHeaderName : Nat := 65535

/-- Whether a byte may stand in the value of a header. -/
def isHeaderByte (b : UInt8) : Bool := b = 0x09 || (0x20 ≤ b && b ≠ 0x7F)

/-- The request with the given method, target, headers and body. -/
def ofParts? (method target : String) (headers : List (String × List UInt8)) (body : List UInt8) :
    Except RequestFault Request := do
  if !isToken method then throw .badMethod
  let target ← (Target.ofText? target).mapError .badTarget
  for (name, value) in headers do
    if !isToken name ∨ maxHeaderName < name.length then throw .badHeaderName
    if !value.all isHeaderByte then throw .badHeaderValue
  return { method, target, headers, body }

/-- The first header with a name, which is given in lower case. -/
def header? (r : Request) (name : String) : Option (List UInt8) :=
  (r.headers.find? fun h => h.1.toLower = name).map (·.2)

/-- Whether a byte is a visible character, a blank or a tab. -/
def isVisible (b : UInt8) : Bool := b = 0x09 || (0x20 ≤ b && b < 0x7F)

/-- The text of the first header with a name; none if it has other than visible characters. -/
def headerText? (r : Request) (name : String) : Option String := do
  let bytes ← r.header? name
  if bytes.all isVisible then Utf8.decode? bytes else none

end Request

/-- What a response holds. -/
inductive Content where
  | text (s : String)
  /-- A stream of messages. -/
  | events (messages : List Json.Value)

/-- A response. -/
structure Response where
  status : Nat
  headers : List (String × String)
  content : Content

/-- A response that holds a text. -/
def Response.plain (status : Nat) (headers : List (String × String)) (s : String) : Response :=
  ⟨status, headers, .text s⟩

/-- A response with a status alone. -/
def Response.empty (status : Nat) : Response := .plain status [] ""

end ScriptSandbox.Http
