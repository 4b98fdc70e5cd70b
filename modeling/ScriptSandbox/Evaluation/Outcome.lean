import ScriptSandbox.Json.Reader
import ScriptSandbox.Text.Utf8

/-!
# Outcomes of evaluations

A run of a guest completes, exits with a code, is interrupted by the host or fails in some other
way. Together with the captured streams this makes the result of the evaluation: the document the
guest wrote to its standard output, or an error of one of three kinds.

## Main definitions

* `Evaluation.Interrupt`: why the host ended a run
* `Evaluation.RunError`: why a run did not complete, with the contexts added on the way out
* `Evaluation.Error`: the three kinds of failed evaluations
* `Evaluation.classify`: the result of a run
-/

namespace ScriptSandbox.Evaluation

/-- Why the host ends a running guest. -/
inductive Interrupt where
  | deadlineExceeded
  | canceled
  deriving Repr, DecidableEq

/-- The wording of an interrupt. -/
def Interrupt.message : Interrupt → String
  | .deadlineExceeded => "deadline exceeded"
  | .canceled => "canceled"

/-- What stopped a run that did not return normally. -/
inductive Stop where
  /-- The guest asked to end with this code. -/
  | exit (code : Int32)
  /-- The host ended the run. -/
  | interrupt (reason : Interrupt)
  /-- Anything else, in words. -/
  | failure (message : String)
  deriving Repr, DecidableEq

/-- The wording of a stop. -/
def Stop.message : Stop → String
  | .exit code => s!"Exited with i32 exit status {code.toInt}"
  | .interrupt reason => reason.message
  | .failure message => message

/-- A stop with the contexts wrapped around it, the innermost first. -/
structure RunError where
  stop : Stop
  contexts : List String := []
  deriving Repr, DecidableEq

/-- The wording of a run error: the outermost context first, the stop last. -/
def RunError.message (e : RunError) : String :=
  ": ".intercalate (e.contexts.reverse ++ [e.stop.message])

/-- How a run ended. -/
abbrev Outcome := Except RunError Unit

/-- A failed evaluation. -/
inductive Error where
  /-- The guest exited with a nonzero code and wrote this to its standard error. -/
  | executionExit (code : Int32) (message : String)
  /-- The guest could not be started or did not come to an end of its own. -/
  | instantiationFailure (cause : String)
  /-- The guest completed, but its standard output is not a document. -/
  | outputDecodeFailure
  deriving Repr, DecidableEq

namespace Error

/-- The code of errors without an exit code. -/
def noExitCode : Int32 := -1

/-- The code of an error. -/
def code : Error → Int32
  | .executionExit code _ => code
  | .instantiationFailure _ | .outputDecodeFailure => noExitCode

/-- The wording of an error. -/
def message : Error → String
  | .executionExit _ message => message
  | .instantiationFailure cause => s!"execution failed: {cause}"
  | .outputDecodeFailure => "failed to parse successful execution output"

/-- A stable label for the kind of an error. -/
def kind : Error → String
  | .executionExit .. => "execution_exit"
  | .instantiationFailure _ => "instantiation_failure"
  | .outputDecodeFailure => "output_decode_failure"

/-- The error of an evaluation that the host interrupted. -/
def ofInterrupt (reason : Interrupt) : Error := .instantiationFailure reason.message

end Error

/-- The result of an evaluation. -/
abbrev Result := Except Error Json.Value

/-- The document on the standard output of a completed run. -/
def decodeOutput (stdout : List UInt8) : Result :=
  match Json.read stdout with
  | .ok v => .ok v.merged
  | .error _ => .error .outputDecodeFailure

/-- The result of a run that ended with `outcome` and left these streams. Exit code 0 is a
completion; exits and interrupts are recognised inside any contexts. -/
def classify (outcome : Outcome) (stdout stderr : List UInt8) : Result :=
  match outcome with
  | .ok () => decodeOutput stdout
  | .error e =>
    match e.stop with
    | .exit code =>
      if code = 0 then decodeOutput stdout
      else .error (.executionExit code (Utf8.lossy stderr))
    | .interrupt reason => .error (.ofInterrupt reason)
    | .failure _ => .error (.instantiationFailure e.message)

end ScriptSandbox.Evaluation
