import ScriptSandbox.Proofs.Http.Requests
import ScriptSandbox.Proofs.Json.Printing
import ScriptSandbox.Proofs.Mcp.Executions
import ScriptSandbox.Proofs.Mcp.ToolCalls

/-!
# Tools executed for requests

A request has a tool executed only if it passes every gate of the router and its body calls a tool
that there is. Then that tool is executed once, on the arguments of the call.

## Main definitions

* `Http.executed`: the tools executed for a request
* `Http.Asks`: a request meets all conditions for a tool to be executed

## Main results

* `Http.routeM_recording`: a request is answered as ever when a record is kept
* `Http.executes_asked`: what is executed for a request
* `Http.not_forall_executed`: a body longer than declared has nothing executed
-/

namespace ScriptSandbox.Http

open Evaluation (onlyMember_iff)
open Json (Document Value)
open Mcp (CallsTool Message)

variable {tools : Tool.Registry} {maxBodyBytes limit : Nat} {r : Request} {m : Message} {t : Tool}
  {arguments : Value}

/-! ### Records -/

/-- The record of a message. -/
def messageCalls (tools : Tool.Registry) : Message → Tool.Record
  | .request _ request => request.calls tools
  | .notification | .response | .error => []

/-- The record of a request to the endpoint. -/
def endpointCalls (tools : Tool.Registry) (limit : Nat) (r : Request) : Tool.Record :=
  match accept limit r with
  | .ok message => messageCalls tools message
  | .error _ => []

theorem respondM_recording (tools : Tool.Registry) (m : Message) (record : Tool.Record) :
    (respondM .recording tools m).run record =
      (Id.run (respondM .plain tools m), record ++ messageCalls tools m) := by
  cases m with
  | request id request =>
    rw [respondM, StateT.run_bind, Mcp.answerM_recording]
    rfl
  | _ => exact congrArg (Prod.mk _) (List.append_nil record).symm

theorem endpointM_recording (tools : Tool.Registry) (limit : Nat) (r : Request)
    (record : Tool.Record) :
    (endpointM .recording tools limit r).run record =
      (Id.run (endpointM .plain tools limit r), record ++ endpointCalls tools limit r) := by
  rw [endpointM, endpointM, endpointCalls]
  cases accept limit r with
  | ok m => exact respondM_recording tools m record
  | error response => exact congrArg (Prod.mk _) (List.append_nil record).symm

/-- The tools executed for a request, with their arguments. -/
def executed (tools : Tool.Registry) (maxBodyBytes : Nat) (r : Request) : Tool.Record :=
  ((routeM .recording tools maxBodyBytes r).run []).2

/-- Only requests to the endpoint have tools executed. -/
theorem routeM_recording (tools : Tool.Registry) (maxBodyBytes : Nat) (r : Request)
    (record : Tool.Record) :
    (routeM .recording tools maxBodyBytes r).run record =
      (route tools maxBodyBytes r,
        record ++ match resourceAt r.target, bodyLimit maxBodyBytes r with
          | .endpoint, some limit => endpointCalls tools limit r
          | _, _ => []) := by
  rw [route, routeM, routeM]
  cases resourceAt r.target with
  | endpoint =>
    cases bodyLimit maxBodyBytes r with
    | none => exact congrArg (Prod.mk _) (List.append_nil record).symm
    | some limit => exact endpointM_recording tools limit r record
  | health => exact congrArg (Prod.mk _) (List.append_nil record).symm
  | unnamed => exact congrArg (Prod.mk _) (List.append_nil record).symm
  | unknown =>
    cases bodyLimit maxBodyBytes r with
    | none => exact congrArg (Prod.mk _) (List.append_nil record).symm
    | some limit => exact congrArg (Prod.mk _) (List.append_nil record).symm

theorem executed_eq (tools : Tool.Registry) (maxBodyBytes : Nat) (r : Request) :
    executed tools maxBodyBytes r =
      match resourceAt r.target, bodyLimit maxBodyBytes r with
        | .endpoint, some limit => endpointCalls tools limit r
        | _, _ => [] :=
  congrArg Prod.snd (routeM_recording tools maxBodyBytes r [])

/-! ### Requests that ask for a tool -/

/-- The body is a document that calls the tool `t` on `arguments`: the members of the object it
gives, or none. -/
def Calls (tools : Tool.Registry) (body : List UInt8) (t : Tool) (arguments : Value) : Prop :=
  ∃ ms id name members, Document body (.object ms) ∧ CallsTool ms id name members ∧
    tools.get? name = some t ∧ arguments = .object (members.getD [])

/-- The request meets all conditions for `t` to be executed on `arguments`: it passes the gates of
the endpoint, declares no more bytes than allowed, and its body calls the tool. -/
structure Asks (tools : Tool.Registry) (maxBodyBytes : Nat) (r : Request) (t : Tool)
    (arguments : Value) : Prop where
  endpoint : NamesEndpoint r
  admitted : Admitted maxBodyBytes r
  declared : ∀ n, Declares r n → n ≤ maxBodyBytes
  calls : Calls tools r.body t arguments

theorem of_mem_endpointCalls (h : (t, arguments) ∈ endpointCalls tools limit r) :
    Admitted limit r ∧ Calls tools r.body t arguments := by
  rw [endpointCalls] at h
  split at h
  next m hm =>
    obtain ⟨hadmitted, hm⟩ := accept_eq_ok_iff.mp hm
    obtain ⟨v, hdocument, hv⟩ := message_eq_ok_iff.mp hm
    refine ⟨hadmitted, ?_⟩
    cases m with
    | request id request =>
      cases request with
      | callTool name members =>
        obtain ⟨ms, rfl, hcalls⟩ := Mcp.ofJson?_eq_callTool_iff.mp hv
        rw [messageCalls, Mcp.Request.calls, Mcp.calls] at h
        split at h
        next t' ht =>
          obtain ⟨rfl, rfl⟩ := Prod.mk.inj (List.mem_singleton.mp h)
          exact ⟨ms, id, name, members, hdocument, hcalls, ht, rfl⟩
        next => cases h
      | _ => cases h
    | _ => cases h
  next => cases h

theorem endpointCalls_eq (hadmitted : Admitted limit r) (hcalls : Calls tools r.body t arguments) :
    endpointCalls tools limit r = [(t, arguments)] := by
  obtain ⟨ms, id, name, members, hdocument, hcalls, ht, rfl⟩ := hcalls
  have hmessage : message r.body = .ok (.request id (.callTool name members)) :=
    message_eq_ok_iff.mpr ⟨_, hdocument, Mcp.ofJson?_eq_callTool_iff.mpr ⟨ms, rfl, hcalls⟩⟩
  rw [endpointCalls, accept_eq_ok_iff.mpr ⟨hadmitted, hmessage⟩]
  simp only [messageCalls, Mcp.Request.calls, Mcp.calls, ht]

theorem Declares.unique {n n' : Nat} (h : Declares r n) (h' : Declares r n') : n = n' :=
  Option.some.inj ((announced?_eq_some_iff.mpr h).symm.trans (announced?_eq_some_iff.mpr h'))

theorem asks_of_mem_executed (h : (t, arguments) ∈ executed tools maxBodyBytes r) :
    Asks tools maxBodyBytes r t arguments ∧ ∀ n, Declares r n → r.body.length ≤ n := by
  rw [executed_eq] at h
  split at h
  next limit hresource hlimit =>
    obtain ⟨hadmitted, hcalls⟩ := of_mem_endpointCalls h
    have hendpoint := resourceAt_eq_endpoint_iff.mp hresource
    obtain ⟨n, hn, hle, rfl⟩ | ⟨hnone, rfl⟩ := bodyLimit_eq_some_iff.mp hlimit
    · have hlength : r.body.length ≤ maxBodyBytes := hadmitted.length.trans hle
      refine ⟨⟨hendpoint, { hadmitted with length := hlength }, fun n' hn' => ?_, hcalls⟩,
        fun n' hn' => ?_⟩
      · rwa [hn'.unique hn]
      · rw [hn'.unique hn]
        exact hadmitted.length
    · exact ⟨⟨hendpoint, hadmitted, fun n hn => absurd hn (hnone n), hcalls⟩,
        fun n hn => absurd hn (hnone n)⟩
  next => cases h

theorem executed_of_asks (h : Asks tools maxBodyBytes r t arguments)
    (hdeclared : ∀ n, Declares r n → r.body.length ≤ n) :
    executed tools maxBodyBytes r = [(t, arguments)] := by
  obtain ⟨limit, hlimit, hlength⟩ :
      ∃ limit, bodyLimit maxBodyBytes r = some limit ∧ r.body.length ≤ limit := by
    by_cases hn : ∃ n, Declares r n
    · obtain ⟨n, hn⟩ := hn
      exact ⟨n, bodyLimit_eq_some_iff.mpr (.inl ⟨n, hn, h.declared n hn, rfl⟩), hdeclared n hn⟩
    · rw [not_exists] at hn
      exact ⟨maxBodyBytes, bodyLimit_eq_some_iff.mpr (.inr ⟨hn, rfl⟩), h.admitted.length⟩
  rw [executed_eq, resourceAt_eq_endpoint_iff.mpr h.endpoint, hlimit]
  exact endpointCalls_eq { h.admitted with length := hlength } h.calls

/-- A tool is executed for a request only if the request asks for it and its body is no longer than
it declares; and for every such request that tool is executed once, on the arguments asked for, and
no other. What is observed here is what answers the request. -/
theorem executes_asked (tools : Tool.Registry) (maxBodyBytes : Nat) (r : Request) :
    (routeM .recording tools maxBodyBytes r).run [] =
        (route tools maxBodyBytes r, executed tools maxBodyBytes r) ∧
      ∀ t arguments,
        ((t, arguments) ∈ executed tools maxBodyBytes r →
          Asks tools maxBodyBytes r t arguments ∧ ∀ n, Declares r n → r.body.length ≤ n) ∧
        (Asks tools maxBodyBytes r t arguments → (∀ n, Declares r n → r.body.length ≤ n) →
          executed tools maxBodyBytes r = [(t, arguments)]) := by
  refine ⟨?_, fun t arguments => ⟨asks_of_mem_executed, executed_of_asks⟩⟩
  rw [routeM_recording, executed_eq]
  rfl

/-! ### A request that asks for a tool -/

/-- A tool that answers with its arguments. -/
def echo : Tool where
  definition := ⟨"echo", "Echo", "Answers with its arguments.", .object []⟩
  execute := .ok

/-- The members of a call of the tool. -/
def echoCall : Mcp.Members :=
  [("jsonrpc", .string "2.0"), ("id", .int 1), ("method", .string "tools/call"),
    ("params", .object [("name", .string "echo"), ("arguments", .object [("x", .int 7)])])]

/-- A request that calls the tool and declares a length. -/
def echoRequest (length : String) : Request where
  method := "POST"
  target := .resource "/mcp"
  headers :=
    [("accept", Utf8.encode "application/json, text/event-stream"),
      ("content-type", Utf8.encode "application/json"), ("content-length", Utf8.encode length)]
  body := Utf8.encode (Value.object echoCall).text

theorem length_body_echoRequest (length : String) : (echoRequest length).body.length = 91 := by
  have : (Utf8.encode (Value.object echoCall).text).length = 91 := by
    rw [Utf8.encode_eq]
    decide
  exact this

/-- The headers that name formats do not declare a length. -/
theorem toLower_ne_contentLength :
    ∀ key ∈ ["accept", "content-type"], key.toLower ≠ "content-length" := by
  with_unfolding_all decide

/-- The number that the last header of the request writes is declared. -/
theorem declares_echoRequest {length : String} {n : Nat}
    (hvisible : length.toList.all isPrintableAscii = true)
    (hnumber : digitsNumber? (unsigned length.toList) = some n) :
    Declares (echoRequest length) n := by
  obtain ⟨sign, hsplit, hsign⟩ := exists_sign length.toList
  have hself : "content-length".toLower = "content-length" := by with_unfolding_all decide
  have hheader : HeaderText (echoRequest length) "content-length" length := by
    refine ⟨(echoRequest length).headers.take 2, "content-length", [], rfl, hself,
      fun h hh => ?_, isVisible_of_mem_encode hvisible⟩
    exact toLower_ne_contentLength h.1 (List.mem_map_of_mem hh)
  exact ⟨length, sign, _, hheader, hsplit, hsign, digitsNumber?_eq_some_iff.mp hnumber⟩

/-- A client that names both formats and its own is admitted, as long as its body may be. -/
theorem admitted_of_headers {rest : List (String × List UInt8)} (hmethod : r.method = "POST")
    (hheaders : r.headers = ("accept", Utf8.encode "application/json, text/event-stream") ::
      ("content-type", Utf8.encode "application/json") :: rest) : Admitted r.body.length r := by
  have haccept : "accept".toLower = "accept" := by with_unfolding_all decide
  have hcontentType : "content-type".toLower = "content-type" := by with_unfolding_all decide
  refine ⟨hmethod, ⟨_, ⟨[], "accept", _, hheaders, haccept, by simp, ?_⟩, ?_⟩,
    ⟨_, ⟨[("accept", _)], "content-type", _, hheaders, hcontentType, ?_, ?_⟩, ?_⟩, le_rfl⟩
  · exact isVisible_of_mem_encode (by decide)
  · simp only [← occursIn_iff]
    decide
  · rw [List.forall_mem_singleton, haccept]
    decide
  · exact isVisible_of_mem_encode (by decide)
  · exact List.prefix_rfl

theorem asks_echoRequest {length : String} {n : Nat} (h : Declares (echoRequest length) n)
    (hn : n ≤ 1000) : Asks ⟨[echo]⟩ 1000 (echoRequest length) echo (.object [("x", .int 7)]) := by
  refine ⟨⟨"/mcp", rfl, .inl rfl⟩, { admitted_of_headers rfl rfl with length := ?_ },
    fun n' hn' => hn'.unique h ▸ hn, ?_⟩
  · rw [length_body_echoRequest]
    decide
  · refine ⟨echoCall, .number 1, "echo", some [("x", .int 7)], ?_, ?_, rfl, rfl⟩
    · exact Json.document_text (by decide) (by decide)
    · exact {
        framing := onlyMember_iff.mpr rfl
        id := ⟨onlyMember_iff.mpr rfl, by simp [Mcp.Id.IsProper]⟩
        method := onlyMember_iff.mpr rfl
        params := ⟨_, onlyMember_iff.mpr rfl, .inl (.inl (by decide)), onlyMember_iff.mpr rfl,
          onlyMember_iff.mpr rfl, fun h => nomatch h⟩ }

/-- A request that declares its length has the tool executed that it asks for. -/
theorem executed_echoRequest :
    (∀ n, Declares (echoRequest "91") n → (echoRequest "91").body.length ≤ n) ∧
      executed ⟨[echo]⟩ 1000 (echoRequest "91") = [(echo, .object [("x", .int 7)])] := by
  have hdeclares : Declares (echoRequest "91") 91 :=
    declares_echoRequest rfl rfl
  have hlength : ∀ n, Declares (echoRequest "91") n → (echoRequest "91").body.length ≤ n :=
    fun n hn => by rw [length_body_echoRequest, hn.unique hdeclares]
  exact ⟨hlength, ((executes_asked ⟨[echo]⟩ 1000 (echoRequest "91")).2 _ _).2
    (asks_echoRequest hdeclares (by decide)) hlength⟩

/-- A request that declares less than its length has nothing executed, although it asks for a
tool. -/
theorem not_forall_executed :
    (Asks ⟨[echo]⟩ 1000 (echoRequest "5") echo (.object [("x", .int 7)]) ∧
      executed ⟨[echo]⟩ 1000 (echoRequest "5") = []) ∧
    ¬ ∀ tools maxBodyBytes r t arguments, Asks tools maxBodyBytes r t arguments →
      executed tools maxBodyBytes r = [(t, arguments)] := by
  have hdeclares : Declares (echoRequest "5") 5 :=
    declares_echoRequest rfl rfl
  have hasks := asks_echoRequest hdeclares (by decide)
  have hnil : executed ⟨[echo]⟩ 1000 (echoRequest "5") = [] := by
    refine List.eq_nil_iff_forall_not_mem.mpr fun ⟨t, arguments⟩ h => ?_
    have hle := (asks_of_mem_executed h).2 5 hdeclares
    rw [length_body_echoRequest] at hle
    exact absurd hle (by decide)
  refine ⟨⟨hasks, hnil⟩, fun hall => ?_⟩
  have hone := hall _ _ _ _ _ hasks
  rw [hnil] at hone
  cases hone

end ScriptSandbox.Http
