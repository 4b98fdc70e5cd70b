import ScriptSandbox.Evaluation.Outcome
import ScriptSandbox.Json.Writer

/-!
# Responses

The wire shape of an evaluation: an object with the member `result`, or one with the member `error`
that holds a code and a message.

## Main definitions

* `Evaluation.Response`: a response
* `Evaluation.Response.toJson`, `Evaluation.Response.text`: its wire shape
* `Evaluation.Response.ofJson?`: the response a document describes
-/

namespace ScriptSandbox.Evaluation

open Json (Value)

/-- The wire shape of an evaluation. -/
inductive Response where
  | error (code : Int32) (message : String)
  | result (value : Value)

namespace Response

/-- The response to an evaluation. -/
def ofResult : Result → Response
  | .ok v => .result v
  | .error e => .error e.code e.message

/-- A response as a document. -/
def toJson : Response → Value
  | .error code message =>
    .object [("error", .object [("code", .int code.toInt), ("message", .string message)])]
  | .result value => .object [("result", value)]

/-- A response as text. -/
def text (r : Response) : String := r.toJson.text

/-- The error a document describes: an object with one `code` and one `message`, or the two as an
array. -/
def errorOf? : Value → Option Response
  | .object members => do
    let code ← (← Json.only? members "code").int32?
    return .error code (← (← Json.only? members "message").string?)
  | .array [code, message] => do return .error (← code.int32?) (← message.string?)
  | _ => none

/-- The response a document describes. Members other than `error` and `result` do not matter. A
single usable `error` decides; otherwise a single `result` does. -/
def ofJson? : Value → Option Response
  | .object members =>
    match (Json.only? members "error").bind errorOf? with
    | some r => some r
    | none => (Json.only? members "result").map fun v => .result v.merged
  | _ => none

/-- Why a text is not a response. -/
inductive ParseError where
  | notJson (failure : Json.Failure)
  | noVariant
  deriving Repr, DecidableEq

/-- The wording for documents that are not responses. -/
def noVariantMessage : String := "data did not match any variant of untagged enum EvalResponse"

/-- The response in a text. Bytes after a document matter only once it is a response. -/
def parse (bytes : List UInt8) : Except ParseError Response := do
  let (v, rest) ← (Json.readPrefix bytes).mapError .notJson
  let r ← match ofJson? v with
    | some r => pure r
    | none => .error .noVariant
  (Json.expectEnd rest).mapError .notJson
  return r

end Response

end ScriptSandbox.Evaluation
