import ScriptSandbox.Proofs.Mcp.Executions
import ScriptSandbox.Proofs.Mcp.ToolCalls

/-!
# What requests are answered with

The outcome of a request agrees with what the server says and does without any framing: a call is
answered with what the tool gives, as it is and as text, the list of tools with all of them in
order, and an opening with what the server says about itself in the version that was agreed on.

## Main definitions

* `Mcp.Agrees`: what the outcome of a request is, method by method
* `Mcp.Reply`: the message that gives an outcome

## Main results

* `Mcp.callTool_eq_ok_iff`: what a call is answered with
* `Mcp.agrees_result`: the outcomes of requests are these
-/

namespace ScriptSandbox.Mcp

open Evaluation (OnlyMember)
open Json (Value)

variable {tools : Tool.Registry} {ms : Members} {id : Id} {name : String}
  {arguments : Option Members} {outcome : Except Fault Value} {request : Request}

/-! ### Versions -/

theorem offeredVersion_mem : offeredVersion ∈ supportedVersions := by decide

/-- The version that is spoken is the one that was asked for, if the server speaks it, and one that
the server speaks in any case. -/
theorem negotiate_spec (requested : String) : negotiate requested ∈ supportedVersions ∧
    (requested ∈ supportedVersions → negotiate requested = requested) := by
  unfold negotiate
  by_cases h : requested ∈ supportedVersions
  · rw [if_pos h]
    exact ⟨h, fun _ => rfl⟩
  · rw [if_neg h]
    exact ⟨offeredVersion_mem, fun hmem => absurd hmem h⟩

/-! ### Calls -/

/-- A call gives what the tool gives, as it is and as one piece of text. -/
theorem callTool_eq_ok_iff {answer : Value} : callTool tools name arguments = .ok answer ↔
    ∃ t output, tools.get? name = some t ∧ t.execute (.object (arguments.getD [])) = .ok output ∧
      answer = .object
        [("content", .array
          [.object [("type", .string "text"), ("text", .string output.merged.text)]]),
         ("structuredContent", output), ("isError", .bool false)] := by
  cases hget : tools.get? name with
  | none => simp [callTool_of_none hget]
  | some t =>
    rw [callTool_of_some hget]
    cases hexecute : t.execute (.object (arguments.getD [])) with
    | ok output => simp [Except.mapError, Except.map, toolAnswer, hexecute, eq_comm]
    | error e => simp [Except.mapError, Except.map, hexecute]

/-! ### Outcomes -/

/-- What the outcome of a request with these members is, if its method is one of those that the
server offers. -/
structure Agrees (tools : Tool.Registry) (ms : Members) (id : Id) (outcome : Except Fault Value) :
    Prop where
  call : OnlyMember ms "method" (.string "tools/call") → ∃ name arguments,
    CallsTool ms id name arguments ∧ outcome = callTool tools name arguments ∧
    ∀ answer, outcome = .ok answer → ∃ output, answer = .object
      [("content", .array
        [.object [("type", .string "text"), ("text", .string output.merged.text)]]),
       ("structuredContent", output), ("isError", .bool false)]
  list : OnlyMember ms "method" (.string "tools/list") →
    outcome = .ok (.object [("tools", .array (toolList tools))])
  opening : OnlyMember ms "method" (.string "initialize") → ∃ ps requested spoken others,
    OnlyMember ms "params" (.object ps) ∧
    OnlyMember ps "protocolVersion" (.string requested) ∧
    info offeredVersion = .object (("protocolVersion", .string offeredVersion) :: others) ∧
    outcome = .ok (.object (("protocolVersion", .string spoken) :: others)) ∧
    spoken = negotiate requested ∧ spoken ∈ supportedVersions ∧
    (requested ∈ supportedVersions → spoken = requested)
  ping : OnlyMember ms "method" (.string "ping") → outcome = .ok (.object [])

namespace Request

/-- A request whose method is known has the parameters of this method. -/
theorem of_method {method : String} (hmethod : OnlyMember ms "method" (.string method))
    (h : ofMembers? ms = some request) :
    (method = "ping" → request = .ping) ∧
    (method = "initialize" → ∃ ps version, OnlyMember ms "params" (.object ps) ∧
      OnlyMember ps "protocolVersion" (.string version) ∧ request = .opening version) ∧
    (method = "tools/list" → request = .listTools) ∧
    (method = "tools/call" → ∃ name arguments, request = .callTool name arguments) := by
  rw [ofMembers?, text?_eq_some_iff.mpr hmethod, Option.bind_eq_bind, Option.bind_some] at h
  refine ⟨?_, ?_, ?_, ?_⟩
  · rintro rfl
    exact (Option.some.inj h).symm
  · rintro rfl
    obtain ⟨ps, hps, h⟩ := Option.bind_eq_some_iff.mp h
    obtain ⟨version, hversion, rfl⟩ := of_opening? h
    exact ⟨ps, version, (params?_eq_some_iff.mp hps).1, hversion, rfl⟩
  · rintro rfl
    exact (eq_of_list? h).symm
  · rintro rfl
    obtain ⟨ps, -, h⟩ := Option.bind_eq_some_iff.mp h
    obtain ⟨name, -, h⟩ := Option.bind_eq_some_iff.mp h
    obtain ⟨arguments, -, h⟩ := Option.bind_eq_some_iff.mp h
    exact ⟨name, arguments, (Option.some.inj h).symm⟩

end Request

/-- The outcomes of requests are these. -/
theorem agrees_result (tools : Tool.Registry) {v : Value}
    (h : Message.request? v = some (.request id request)) :
    ∃ ms, v = .object ms ∧ OnlyMember ms "jsonrpc" (.string "2.0") ∧ OnlyMember ms "id" id.toJson ∧
      Agrees tools ms id (Id.run (resultM .plain tools request)) := by
  obtain ⟨ms, rfl, hframing, hid, hrequest⟩ := request?_eq_some_iff.mp h
  refine ⟨ms, rfl, hframing, hid.1, ⟨fun hmethod => ?_, fun hmethod => ?_, fun hmethod => ?_,
    fun hmethod => ?_⟩⟩
  · obtain ⟨-, -, -, hcall⟩ := Request.of_method hmethod hrequest
    obtain ⟨name, arguments, rfl⟩ := hcall rfl
    obtain ⟨-, hparams⟩ := ofMembers?_eq_callTool_iff.mp hrequest
    refine ⟨name, arguments, ⟨hframing, hid, hmethod, hparams⟩, rfl, fun answer hanswer => ?_⟩
    obtain ⟨t, output, -, -, rfl⟩ := callTool_eq_ok_iff.mp hanswer
    exact ⟨output, rfl⟩
  · obtain ⟨-, -, hlist, -⟩ := Request.of_method hmethod hrequest
    rw [hlist rfl]
    rfl
  · obtain ⟨-, hopening, -, -⟩ := Request.of_method hmethod hrequest
    obtain ⟨ps, version, hps, hversion, rfl⟩ := hopening rfl
    obtain ⟨hmem, hkept⟩ := negotiate_spec version
    exact ⟨ps, version, negotiate version, _, hps, hversion, rfl, rfl, rfl, hmem, hkept⟩
  · obtain ⟨hping, -, -, -⟩ := Request.of_method hmethod hrequest
    rw [hping rfl]
    rfl

/-! ### Messages -/

/-- The message that gives an outcome under an identifier: a result or an error, but not both. -/
inductive Reply (id : Id) : Except Fault Value → Value → Prop
  | result (v : Value) :
    Reply id (.ok v) (.object [("jsonrpc", .string "2.0"), ("id", id.toJson), ("result", v)])
  | error (f : Fault) :
    Reply id (.error f) (.object [("jsonrpc", .string "2.0"), ("id", id.toJson),
      ("error", .object [("code", .int f.code), ("message", .string f.message)])])

theorem reply_framed (id : Id) (outcome : Except Fault Value) :
    Reply id outcome (framed id outcome) := by
  cases outcome with
  | ok v => exact .result v
  | error f => exact .error f

end ScriptSandbox.Mcp
