import ScriptSandbox.Proofs.Mcp.Executions
import ScriptSandbox.Proofs.Tool.Arguments

/-!
# Calls of the evaluation tool through the server

A server whose tools are executed in a session of evaluations has the evaluation tool evaluate
there. What comes of an evaluation, failures included, is an answer of the server that is not marked
as an error. Only arguments without a source are a fault, and nothing is evaluated then.

## Main definitions

* `Tool.EvalScript.executor`: executes the evaluation tool in a session
* `Mcp.callIn`: a call of the evaluation tool through the server, in a session

## Main results

* `Mcp.callIn_of_gives`, `Mcp.callIn_of_not_gives`: what such a call does
* `Mcp.reports_evaluations`: what the tool and the server make of any arguments
-/

namespace ScriptSandbox

open Json (Value)
open Sandbox (Evaluator Session)
open Tool.EvalScript (Gives Reports evaluateIn executeM opened source)

/-- Executes the evaluation tool in a session, below the token of the shutdown. Other tools have no
part in the session. -/
def Tool.EvalScript.executor (shutdown : Nat) : Tool.Executor (StateM Session) := fun t params =>
  if t.name = definition.name then executeM (evaluateIn shutdown) params
  else pure (t.execute params)

namespace Mcp

open Tool.EvalScript (executor executeM_congr exists_refusal_iff run_executeM_ne_internal
  run_executeM_of_gives run_executeM_of_not_gives run_executeM_snd_eq_iff source_eq_ok_iff
  source_object_congr)

variable {r : Tool.Registry} {code : String} {arguments : Option Members} {params : Value}

/-- Calls the evaluation tool of a server in a session. -/
def callIn (r : Tool.Registry) (arguments : Option Members) (shutdown : Nat) :
    StateM Session (Except Fault Value) :=
  callToolM (executor shutdown) r Tool.EvalScript.definition.name arguments

/-- The arguments as the tool gets them. -/
def given (arguments : Option Members) : Value := .object (arguments.getD [])

theorem callIn_eq (h : (r.get? Tool.EvalScript.definition.name).isSome)
    (arguments : Option Members) (shutdown : Nat) :
    callIn r arguments shutdown = do
      let outcome ← executeM (evaluateIn shutdown) (given arguments)
      return (outcome.mapError .ofTool).map toolAnswer := by
  obtain ⟨t, ht⟩ := Option.isSome_iff_exists.mp h
  have hname : t.name = Tool.EvalScript.definition.name := Tool.Registry.name_of_get? ht
  rw [callIn, callToolM, ht]
  dsimp only
  rw [executor, if_pos hname, given]

/-- What comes of an evaluation, the server answers as it is. -/
theorem callIn_of_gives (h : (r.get? Tool.EvalScript.definition.name).isSome)
    (hgives : Gives code (given arguments)) (s : Session) (shutdown : Nat) :
    let called := (callIn r arguments shutdown).run s
    ∃ result w, (evaluateIn shutdown code).run s = (result, called.2) ∧
      called.2.stage s.runs.size = .returned result ∧ Reports result w ∧
      called.1 = .ok (toolAnswer w) := by
  have hexecuted := run_executeM_of_gives hgives s shutdown
  rw [callIn_eq h]
  generalize executeM (evaluateIn shutdown) (given arguments) = execution at hexecuted ⊢
  obtain ⟨result, w, hevaluated, hstage, hreports, hw⟩ := hexecuted
  refine ⟨result, w, hevaluated, hstage, hreports, ?_⟩
  change (((execution.run s).1.mapError Fault.ofTool).map toolAnswer) = _
  rw [hw]
  rfl

/-- Arguments without a source are a fault, and the session is as it was. -/
theorem callIn_of_not_gives (h : (r.get? Tool.EvalScript.definition.name).isSome)
    (hgives : ¬ ∃ code, Gives code (given arguments)) (s : Session) (shutdown : Nat) :
    ∃ reason, (callIn r arguments shutdown).run s =
      (.error (.invalidParams ("invalid params: " ++ reason)), s) := by
  obtain ⟨reason, hexecuted⟩ := run_executeM_of_not_gives hgives s shutdown
  rw [callIn_eq h]
  generalize executeM (evaluateIn shutdown) (given arguments) = execution at hexecuted ⊢
  refine ⟨reason, ?_⟩
  change (((execution.run s).1.mapError Fault.ofTool).map toolAnswer, (execution.run s).2) = _
  rw [hexecuted]
  rfl

/-- A call has a fault exactly if its arguments do not give a source. -/
theorem exists_fault_iff (h : (r.get? Tool.EvalScript.definition.name).isSome)
    (arguments : Option Members) (s : Session) (shutdown : Nat) :
    (∃ f, ((callIn r arguments shutdown).run s).1 = .error f) ↔
      ¬ ∃ code, Gives code (given arguments) := by
  constructor
  · rintro ⟨f, hf⟩ ⟨code, hgives⟩
    obtain ⟨result, w, -, -, -, hw⟩ := callIn_of_gives h hgives s shutdown
    cases hf.symm.trans hw
  · intro hgives
    obtain ⟨reason, hcalled⟩ := callIn_of_not_gives h hgives s shutdown
    exact ⟨_, congrArg Prod.fst hcalled⟩

/-- The fault of a call is one of its arguments, and the session is as it was. -/
theorem fault_of_callIn {s : Session} {shutdown : Nat} {f : Fault}
    (h : (r.get? Tool.EvalScript.definition.name).isSome)
    (hf : ((callIn r arguments shutdown).run s).1 = .error f) :
    f.code = -32602 ∧ ((callIn r arguments shutdown).run s).2 = s := by
  have hgives := (exists_fault_iff h arguments s shutdown).mp ⟨f, hf⟩
  obtain ⟨reason, hcalled⟩ := callIn_of_not_gives h hgives s shutdown
  have hfault : f = .invalidParams ("invalid params: " ++ reason) :=
    Except.error.inj (hf.symm.trans (congrArg Prod.fst hcalled))
  exact ⟨by rw [hfault]; rfl, congrArg Prod.snd hcalled⟩

/-- The tool by itself is executed in a session that was just opened. -/
theorem execute_evalScript (e : Evaluator) (canceled : Bool) (params : Value) :
    (Tool.evalScript e canceled).execute params =
      ((executeM (evaluateIn (opened e canceled).1) params).run (opened e canceled).2).1 := rfl

/-- So is it by a server that does nothing else besides. -/
theorem callTool_evalScript {e : Evaluator} {canceled : Bool}
    (h : r.get? Tool.EvalScript.definition.name = some (Tool.evalScript e canceled))
    (arguments : Option Members) :
    callTool r Tool.EvalScript.definition.name arguments =
      ((callIn r arguments (opened e canceled).1).run (opened e canceled).2).1 := by
  have hsome : (r.get? Tool.EvalScript.definition.name).isSome := by rw [h]; rfl
  rw [callTool_of_some h, callIn_eq hsome, execute_evalScript, given]
  generalize executeM (evaluateIn (opened e canceled).1) _ = execution
  rfl

/-- Whatever arguments the evaluation tool is executed on, in whatever session:

* it refuses them exactly if they do not give a source, and the session is as it was then;
* otherwise it evaluates that source in the session and answers with an object that reports what has
  come of it; it has no other errors, and only the source matters, for two objects their last
  members `code`;
* a server on which it is listed answers a call with this report, not marked as an error, and has
  a fault, that of code -32602, exactly for arguments without a source.

By itself, it is executed in a session that was just opened. -/
theorem reports_evaluations (s : Session) (shutdown : Nat) (params : Value) :
    let execute (params : Value) := (executeM (evaluateIn shutdown) params).run s
    ((∃ reason, (execute params).1 = .error (.invalidParams reason)) ↔
      ¬ ∃ code, Gives code params) ∧
    ((execute params).2 = s ↔ ¬ ∃ code, Gives code params) ∧
    (∀ code, Gives code params → ∃ result w,
      (evaluateIn shutdown code).run s = (result, (execute params).2) ∧
      (execute params).2.stage s.runs.size = .returned result ∧
      Reports result w ∧ (execute params).1 = .ok w) ∧
    (∀ reason, (execute params).1 ≠ .error (.internal reason)) ∧
    (∀ code params', Gives code params → Gives code params' → execute params' = execute params) ∧
    (∀ ms ms', ms.reverse.lookup "code" = ms'.reverse.lookup "code" →
      execute (.object ms) = execute (.object ms')) ∧
    (∀ r arguments, (r.get? Tool.EvalScript.definition.name).isSome →
      let called := (callIn r arguments shutdown).run s
      (∀ code, Gives code (given arguments) → ∃ result w,
        (evaluateIn shutdown code).run s = (result, called.2) ∧ Reports result w ∧
        called.1 = .ok (toolAnswer w) ∧ (toolAnswer w).get? "isError" = some (.bool false)) ∧
      ((∃ f, called.1 = .error f) ↔ ¬ ∃ code, Gives code (given arguments)) ∧
      ∀ f, called.1 = .error f → f.code = -32602 ∧ called.2 = s) ∧
    ∀ e canceled, opened e canceled = (shutdown, s) →
      (Tool.evalScript e canceled).execute params = (execute params).1 ∧
      ∀ r arguments, r.get? Tool.EvalScript.definition.name = some (Tool.evalScript e canceled) →
        callTool r Tool.EvalScript.definition.name arguments =
          ((callIn r arguments shutdown).run s).1 := by
  intro execute
  refine ⟨exists_refusal_iff params s shutdown, run_executeM_snd_eq_iff params s shutdown,
    fun code h => run_executeM_of_gives h s shutdown, run_executeM_ne_internal params s shutdown,
    fun code params' h h' => ?_, fun ms ms' h => ?_, fun r arguments hr => ?_,
    fun e canceled hopened => ⟨?_, fun r arguments hr => ?_⟩⟩
  · have hsame : source params' = source params :=
      (source_eq_ok_iff.mpr h').trans (source_eq_ok_iff.mpr h).symm
    exact congrArg (·.run s) (executeM_congr (evaluateIn shutdown) hsame)
  · exact congrArg (·.run s) (executeM_congr (evaluateIn shutdown) (source_object_congr h))
  · refine ⟨fun code h => ?_, exists_fault_iff hr arguments s shutdown,
      fun f hf => fault_of_callIn hr hf⟩
    obtain ⟨result, w, hevaluated, -, hreports, hw⟩ := callIn_of_gives hr h s shutdown
    exact ⟨result, w, hevaluated, hreports, hw, rfl⟩
  · rw [execute_evalScript, hopened]
  · rw [callTool_evalScript hr, hopened]

end Mcp

end ScriptSandbox
