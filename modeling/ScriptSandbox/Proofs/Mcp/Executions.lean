import ScriptSandbox.Mcp.Answer
import ScriptSandbox.Proofs.Tool.Registry

/-!
# Executed tools

What the server has executed is observed by an executor that keeps a record and does nothing else
besides. A call of a name executes the tool of that name, once, on the arguments of the call; no
other request has a tool executed.

## Main definitions

* `Tool.Executor.recording`: the executor that keeps a record
* `Mcp.calls`: the record of a call
* `Mcp.Lists`: the server lists a tool under a name

## Main results

* `Mcp.answerM_recording`: a request is answered as ever, and only a call of a tool adds to the
  record
* `Mcp.serves_latest`: what is listed and called after any registrations
-/

namespace ScriptSandbox

open Json (Value)

/-- Tools that were executed, in order, each with its arguments. -/
abbrev Tool.Record := List (Tool × Value)

/-- Executes a tool and keeps a record of it. -/
def Tool.Executor.recording : Tool.Executor (StateM Tool.Record) :=
  fun t params record => (t.execute params, record ++ [(t, params)])

namespace Mcp

variable {r : Tool.Registry} {t : Tool} {n : String} {arguments : Option Members}

/-! ### Calls -/

/-- The record of a call of a tool. -/
def calls (r : Tool.Registry) (name : String) (arguments : Option Members) : Tool.Record :=
  match r.get? name with
  | some t => [(t, .object (arguments.getD []))]
  | none => []

/-- The fault of a call of a name under which there is no tool. -/
def unknownTool (name : String) : Fault := .invalidParams ("unknown tool: " ++ name)

theorem callTool_of_none (h : r.get? n = none) :
    callTool r n arguments = .error (unknownTool n) := by
  rw [callTool, callToolM, h]
  rfl

theorem callTool_of_some (h : r.get? n = some t) :
    callTool r n arguments =
      ((t.execute (.object (arguments.getD []))).mapError .ofTool).map toolAnswer := by
  rw [callTool, callToolM, h]
  rfl

/-- A call that is recorded is answered as ever, and executes the tool of the name. -/
theorem callToolM_recording (r : Tool.Registry) (n : String) (arguments : Option Members)
    (record : Tool.Record) :
    (callToolM .recording r n arguments).run record =
      (callTool r n arguments, record ++ calls r n arguments) := by
  cases h : r.get? n with
  | none =>
    rw [callTool_of_none h, callToolM, calls, h, List.append_nil]
    rfl
  | some t =>
    rw [callTool_of_some h, callToolM, calls, h]
    rfl

/-! ### Requests -/

/-- The record of a request. -/
def Request.calls (tools : Tool.Registry) : Request → Tool.Record
  | .callTool name arguments => Mcp.calls tools name arguments
  | _ => []

theorem resultM_recording (r : Tool.Registry) (request : Request) (record : Tool.Record) :
    (resultM .recording r request).run record =
      (Id.run (resultM .plain r request), record ++ request.calls r) := by
  cases request with
  | callTool name arguments => exact callToolM_recording r name arguments record
  | _ => exact congrArg (Prod.mk _) (List.append_nil record).symm

/-- A request that is recorded is answered as ever. -/
theorem answerM_recording (r : Tool.Registry) (id : Id) (request : Request)
    (record : Tool.Record) :
    (answerM .recording r id request).run record =
      (Id.run (answerM .plain r id request), record ++ request.calls r) := by
  have h := resultM_recording r request record
  rw [answerM, StateT.run_bind, h]
  rfl

/-! ### Listed tools -/

/-- The name that an entry of the list of tools gives. -/
def entryName? (entry : Value) : Option String := (entry.get? "name").bind Value.string?

/-- The server lists a tool under a name. -/
def Lists (r : Tool.Registry) (n : String) : Prop := ∃ entry ∈ toolList r, entryName? entry = some n

@[simp] theorem entryName?_toolEntry (d : Tool.Definition) : entryName? (toolEntry d) = some d.name :=
  rfl

theorem lists_iff : Lists r n ↔ ∃ t, r.get? n = some t := by
  rw [← Option.ne_none_iff_exists', Ne, Tool.Registry.get?_eq_none_iff]
  simp [Lists, toolList, Tool.Registry.definitions, Tool.name]

/-- What is listed under a name, if anything is, is the definition of the tool of that name. -/
theorem filter_toolList (hnodup : (r.tools.map Tool.name).Nodup) (h : r.get? n = some t) :
    (toolList r).filter (entryName? · = some n) = [toolEntry t.definition] := by
  have hname : t.name = n := Tool.Registry.name_of_get? h
  obtain ⟨pre, post, htools⟩ := List.append_of_mem (Tool.Registry.mem_of_get? h)
  rw [htools, List.map_append, List.map_cons, List.nodup_middle, List.nodup_cons, hname,
    ← List.map_append, List.mem_map] at hnodup
  have hother : ∀ u ∈ pre ++ post, u.definition.name ≠ n := fun u hu hn =>
    hnodup.1 ⟨u, hu, hn⟩
  rw [List.forall_mem_append] at hother
  have hnone : ∀ us : List Tool, (∀ u ∈ us, u.definition.name ≠ n) →
      ((us.map Tool.definition).map toolEntry).filter (entryName? · = some n) = [] := by
    intro us hus
    rw [List.filter_eq_nil_iff]
    simpa using hus
  rw [toolList, Tool.Registry.definitions, htools, List.map_append, List.map_append,
    List.filter_append, hnone pre hother.1, List.map_cons, List.map_cons,
    List.filter_cons_of_pos (by simpa [Tool.name] using hname), hnone post hother.2]
  rfl

/-- The errors of tools are told from that of an unknown one. -/
theorem ofTool_ne_unknownTool (e : Tool.Error) (n : String) : Fault.ofTool e ≠ unknownTool n := by
  cases e with
  | invalidParams reason =>
    intro h
    have hmessage : "invalid params: " ++ reason = "unknown tool: " ++ n :=
      congrArg Fault.message h
    have := congrArg String.toList hmessage
    simp at this
  | internal reason =>
    intro h
    exact absurd (congrArg Fault.code h) (by decide : (-32603 : Int) ≠ -32602)

/-- Only names that are not listed are unknown. -/
theorem callTool_eq_unknownTool_iff :
    callTool r n arguments = .error (unknownTool n) ↔ ¬ Lists r n := by
  rw [lists_iff, not_exists]
  cases h : r.get? n with
  | none => simp [callTool_of_none h]
  | some t =>
    rw [callTool_of_some h]
    refine iff_of_false ?_ fun hnone => hnone t rfl
    cases t.execute (.object (arguments.getD [])) with
    | ok v => exact fun he => nomatch he
    | error e => exact fun he => ofTool_ne_unknownTool e n (Except.error.inj he)

/-- After any registrations, names are pairwise distinct; the tool under a name is the last one
registered under it; the latest registration under every name is described, in the order of these;
and there are as many tools as names. A call of a name that is not listed is a call of an unknown
tool and executes nothing. A call of any other name executes the tool whose definition alone is
listed under it, once, on the arguments of the call. -/
theorem serves_latest (ts : List Tool) :
    let r := Tool.Registry.ofList ts
    (r.tools.map Tool.name).Nodup ∧
    (∀ n, r.get? n = (ts.filter (·.name = n)).getLast?) ∧
    (∀ n, r.get? n = none ↔ ∀ t ∈ ts, t.name ≠ n) ∧
    r.definitions = (Tool.latest ts).map Tool.definition ∧
    r.size = (ts.map Tool.name).toFinset.card ∧
    ∀ n arguments,
      (callTool r n arguments = .error (unknownTool n) ↔ ¬ Lists r n) ∧
      (¬ Lists r n →
        (callToolM .recording r n arguments).run [] = (.error (unknownTool n), [])) ∧
      (Lists r n → ∃ t, r.get? n = some t ∧
        (toolList r).filter (entryName? · = some n) = [toolEntry t.definition] ∧
        (callToolM .recording r n arguments).run [] =
          (((t.execute (.object (arguments.getD []))).mapError .ofTool).map toolAnswer,
            [(t, .object (arguments.getD []))])) := by
  intro r
  refine ⟨Tool.Registry.nodup_names_ofList ts, Tool.Registry.get?_ofList ts,
    fun n => Tool.Registry.get?_ofList_eq_none_iff, Tool.Registry.definitions_ofList ts,
    Tool.Registry.size_ofList ts, fun n arguments =>
    ⟨callTool_eq_unknownTool_iff, fun hnone => ?_, fun hlisted => ?_⟩⟩
  · have hget : r.get? n = none := by
      rwa [lists_iff, ← Option.ne_none_iff_exists', not_not] at hnone
    rw [callToolM_recording, callTool_of_none hget, calls, hget]
    rfl
  · obtain ⟨t, hget⟩ := lists_iff.mp hlisted
    refine ⟨t, hget, filter_toolList (Tool.Registry.nodup_names_ofList ts) hget, ?_⟩
    rw [callToolM_recording, callTool_of_some hget, calls, hget]
    rfl

end Mcp

end ScriptSandbox
