import ScriptSandbox.Evaluation.Response
import ScriptSandbox.Json.Mistake
import ScriptSandbox.Sandbox.Session
import ScriptSandbox.Tool.Basic

/-!
# The evaluation tool

The tool evaluates the source in its arguments by an evaluator. Failed evaluations are answers; only
arguments without a source are errors.

## Main definitions

* `Tool.EvalScript.source`: the source in the arguments
* `Tool.EvalScript.call`: the evaluation that a call of the tool begins
* `Tool.EvalScript.evaluateIn`: the evaluation of a source in a session
* `Tool.EvalScript.executeM`: the answer to arguments whose source is evaluated in a given way
* `Tool.evalScript`: the tool
-/

namespace ScriptSandbox.Tool

open Json (Mistake Value)

namespace EvalScript

/-- How mistakes call the arguments. -/
def argumentsName : String := "struct EvalJsInput"

/-- The source in the arguments: the member `code` of an object, or the only item of an array. -/
def source (params : Value) : Except Mistake String :=
  match params.merged with
  | .object members =>
    match members.lookup "code" with
    | some v => v.asString
    | none => .error (.missingField "code")
  | .array [] => .error (.tooShort 0 (argumentsName ++ " with 1 element"))
  | .array (v :: rest) => do
    let s ← v.asString
    if rest.isEmpty then return s else throw (.tooLong (rest.length + 1))
  | v => .error (.wrongType v argumentsName)

/-- What the source is for. -/
def sourceDescription : String :=
  "JavaScript source to evaluate; the value of the last expression is returned as JSON"

/-- How the tool presents itself. -/
def definition : Definition where
  name := "eval-js"
  title := "Evaluate JavaScript"
  description := "Tool to evaluate JavaScript code, provided as a raw string inside an object."
  inputSchema := .object
    [("type", .string "object"),
     ("properties", .object
       [("code", .object
         [("type", .string "string"),
          ("description", .string sourceDescription)])]),
     ("required", .array [.string "code"])]

/-- A call of the tool in a session: the evaluation of a source is called for, in a context of its
own below the token of the shutdown. -/
def call (s : Sandbox.Session) (shutdown : Nat) (source : String) : Nat × Sandbox.Session :=
  let (x, s) := s.childContext shutdown s.deadline
  s.begin s.evaluator.limits x source

/-- The answer of the tool once the evaluation has returned. -/
def answer (r : Evaluation.Result) : Except Tool.Error Value :=
  .ok (Evaluation.Response.ofResult r).toJson

/-- Evaluates a source in a session, below the token of the shutdown. -/
def evaluateIn (shutdown : Nat) (source : String) : StateM Sandbox.Session Evaluation.Result :=
  fun s =>
    let (i, s) := call s shutdown source
    s.complete i

/-- The answer to arguments. Their source, if there is one, is evaluated in a given way. -/
def executeM {m : Type → Type} [Monad m] (evaluate : String → m Evaluation.Result)
    (params : Value) : m (Except Tool.Error Value) :=
  match source params with
  | .ok source => return answer (← evaluate source)
  | .error m => return .error (.invalidParams m.message)

/-- A session with the token of the shutdown, which may be canceled already. -/
def opened (e : Sandbox.Evaluator) (canceled : Bool) : Nat × Sandbox.Session :=
  let (shutdown, s) := (Sandbox.Session.ofEvaluator e).token
  (shutdown, if canceled then s.cancel shutdown else s)

/-- Evaluates a source by a single call. -/
def evaluate (e : Sandbox.Evaluator) (canceled : Bool) (source : String) : Evaluation.Result :=
  let (shutdown, s) := opened e canceled
  ((evaluateIn shutdown source).run s).1

end EvalScript

/-- The tool. Once `canceled`, it evaluates nothing any more. -/
def evalScript (e : Sandbox.Evaluator) (canceled : Bool) : Tool where
  definition := EvalScript.definition
  execute params :=
    let (shutdown, s) := EvalScript.opened e canceled
    ((EvalScript.executeM (EvalScript.evaluateIn shutdown) params).run s).1

end ScriptSandbox.Tool
