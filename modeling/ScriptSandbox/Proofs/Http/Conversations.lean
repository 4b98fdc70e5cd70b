import ScriptSandbox.Proofs.Http.Executions
import ScriptSandbox.Proofs.Mcp.Agreement

/-!
# Conversations

A client sends requests one after another. The router keeps nothing in between: in whatever state
tools are executed, as long as their answers do not depend on it, every request is answered as if it
were the only one. So no request has to come first. A request to the endpoint that is answered with
a message is answered with a single one, under the identifier of the request, and with what the
server says and does without the router.

## Main definitions

* `Http.Gives`: a computation gives the same in every state
* `Http.Accepted`: the endpoint has read a message of a request

## Main results

* `Http.gives_conversation`: every request of a conversation is answered by itself
* `Http.of_status_ok`: what a request is answered with that has a message as its answer
* `Http.answers_conversations`: both of these, and what other messages are answered with
-/

namespace ScriptSandbox.Http

open Evaluation (OnlyMember)
open Json (Document Value)
open Mcp (Agrees Message Reply)

/-! ### Computations that do not depend on a state -/

section

variable {σ α β : Type} {x : StateM σ α} {f : α → StateM σ β} {a : α} {b : β}

/-- Whatever the state, the computation gives `a`. -/
def Gives (x : StateM σ α) (a : α) : Prop := ∀ s, (x.run s).1 = a

theorem gives_pure (a : α) : Gives (pure a : StateM σ α) a := fun _ => rfl

theorem Gives.bind (hx : Gives x a) (hf : Gives (f a) b) : Gives (x >>= f) b := by
  intro s
  have hfirst : (x.run s).1 = a := hx s
  have hsecond : ((f a).run (x.run s).2).1 = b := hf _
  rw [StateT.run_bind]
  change ((f (x.run s).1).run (x.run s).2).1 = b
  rw [hfirst, hsecond]

theorem gives_mapM {g : α → StateM σ β} {g' : α → β} (hg : ∀ a, Gives (g a) (g' a))
    (as : List α) : Gives (as.mapM g) (as.map g') := by
  induction as with
  | nil => exact gives_pure []
  | cons a as ih =>
    rw [List.mapM_cons]
    exact (hg a).bind (ih.bind (gives_pure _))

end

/-! ### Requests answered by themselves -/

section

variable {σ : Type} {execute : Tool.Executor (StateM σ)} {tools : Tool.Registry}

/-- In whatever state tools are executed, their answers do not depend on it. -/
def Steady (execute : Tool.Executor (StateM σ)) : Prop :=
  ∀ t params, Gives (execute t params) (t.execute params)

theorem gives_callTool (h : Steady execute) (name : String) (arguments : Option Mcp.Members) :
    Gives (Mcp.callToolM execute tools name arguments) (Mcp.callTool tools name arguments) := by
  unfold Mcp.callTool Mcp.callToolM
  cases tools.get? name with
  | none => exact gives_pure _
  | some t => exact (h t _).bind (gives_pure _)

theorem gives_result (h : Steady execute) (request : Mcp.Request) :
    Gives (Mcp.resultM execute tools request) (Id.run (Mcp.resultM .plain tools request)) := by
  cases request with
  | callTool name arguments => exact gives_callTool h name arguments
  | _ => exact gives_pure _

theorem gives_respond (h : Steady execute) (m : Message) :
    Gives (respondM execute tools m) (Id.run (respondM .plain tools m)) := by
  cases m with
  | request id request =>
    have hanswer : Gives (Mcp.answerM execute tools id request)
        (Id.run (Mcp.answerM .plain tools id request)) :=
      (gives_result h request).bind (gives_pure _)
    exact hanswer.bind (gives_pure _)
  | _ => exact gives_pure _

theorem gives_route (h : Steady execute) (maxBodyBytes : Nat) (r : Request) :
    Gives (routeM execute tools maxBodyBytes r) (route tools maxBodyBytes r) := by
  unfold route routeM
  cases resourceAt r.target with
  | endpoint =>
    cases bodyLimit maxBodyBytes r with
    | none => exact gives_pure _
    | some limit =>
      dsimp only
      unfold endpointM
      cases accept limit r with
      | ok m => exact gives_respond h m
      | error response => exact gives_pure _
  | health => exact gives_pure _
  | unnamed => exact gives_pure _
  | unknown =>
    cases bodyLimit maxBodyBytes r with
    | none => exact gives_pure _
    | some limit => exact gives_pure _

/-- Every request of a conversation is answered as if it were the only one. -/
theorem gives_conversation (h : Steady execute) (maxBodyBytes : Nat) (rs : List Request) :
    Gives (rs.mapM (routeM execute tools maxBodyBytes)) (rs.map (route tools maxBodyBytes)) :=
  gives_mapM (gives_route h maxBodyBytes) rs

end

/-! ### Messages -/

variable {tools : Tool.Registry} {maxBodyBytes limit : Nat} {r : Request} {m : Message}

/-- The endpoint has read a message of a request: the request is about it, its body is no longer
than may be read, and it passes all that stands before its message. -/
def Accepted (maxBodyBytes : Nat) (r : Request) (m : Message) : Prop :=
  NamesEndpoint r ∧ ∃ limit, bodyLimit maxBodyBytes r = some limit ∧ Admitted limit r ∧
    ∃ v, Document r.body v ∧ Message.ofJson? v = some m

theorem accepted_iff : Accepted maxBodyBytes r m ↔
    NamesEndpoint r ∧ ∃ limit, bodyLimit maxBodyBytes r = some limit ∧ accept limit r = .ok m := by
  simp only [Accepted, accept_eq_ok_iff, message_eq_ok_iff]

/-- A message that was read is responded to. -/
theorem route_of_accepted (tools : Tool.Registry) (h : Accepted maxBodyBytes r m) :
    route tools maxBodyBytes r = Id.run (respondM .plain tools m) ∧
      executed tools maxBodyBytes r = messageCalls tools m := by
  obtain ⟨hendpoint, limit, hlimit, hm⟩ := accepted_iff.mp h
  have hresource := resourceAt_eq_endpoint_iff.mpr hendpoint
  constructor
  · rw [route, routeM, hresource, hlimit]
    dsimp only
    rw [endpointM, hm]
  · rw [executed_eq, hresource, hlimit]
    dsimp only
    rw [endpointCalls, hm]

/-- A request without a message is refused. -/
theorem status_of_accept_eq_error {response : Response} (h : accept limit r = .error response) :
    response.status ∈ [405, 406, 415, 500] := by
  rw [accept] at h
  -- the gates in their order
  by_cases hmethod : r.method ≠ "POST"
  · rw [if_pos hmethod] at h
    obtain rfl := Except.error.inj h
    decide
  rw [if_neg hmethod] at h
  by_cases haccepts : (!acceptsFormats r) = true
  · rw [if_pos haccepts] at h
    obtain rfl := Except.error.inj h
    decide
  rw [if_neg haccepts] at h
  by_cases hdocument : (!isDocument r) = true
  · rw [if_pos hdocument] at h
    obtain rfl := Except.error.inj h
    decide
  rw [if_neg hdocument] at h
  by_cases hlength : limit < r.body.length
  · rw [if_pos hlength] at h
    obtain rfl := Except.error.inj h
    decide
  rw [if_neg hlength] at h
  obtain ⟨reason, -, rfl⟩ := mapError_eq_error_iff.mp h
  exact (by decide : 415 ∈ [405, 406, 415, 500])

/-- Of all that is sent to the endpoint, only requests that were read are answered with status
200. -/
theorem exists_request_of_status (hendpoint : NamesEndpoint r)
    (hstatus : (route tools maxBodyBytes r).status = 200) :
    ∃ id request, Accepted maxBodyBytes r (.request id request) := by
  have hresource := resourceAt_eq_endpoint_iff.mpr hendpoint
  rw [route, routeM, hresource] at hstatus
  cases hlimit : bodyLimit maxBodyBytes r with
  | none =>
    rw [hlimit] at hstatus
    cases hstatus
  | some limit =>
    rw [hlimit] at hstatus
    dsimp only at hstatus
    rw [endpointM] at hstatus
    cases hm : accept limit r with
    | ok m =>
      rw [hm] at hstatus
      have haccepted : Accepted maxBodyBytes r m :=
        accepted_iff.mpr ⟨hendpoint, limit, hlimit, hm⟩
      cases m with
      | request id request => exact ⟨id, request, haccepted⟩
      | _ => cases hstatus
    | error response =>
      rw [hm] at hstatus
      have hrefused := status_of_accept_eq_error hm
      have hok : response.status = 200 := hstatus
      rw [hok] at hrefused
      exact absurd hrefused (by decide)

/-- A request that is answered with status 200 is answered with one message under its identifier,
and with what the server says and does without the router. -/
theorem of_status_ok (hendpoint : NamesEndpoint r)
    (hstatus : (route tools maxBodyBytes r).status = 200) :
    ∃ ms id outcome message, Document r.body (.object ms) ∧
      OnlyMember ms "jsonrpc" (.string "2.0") ∧ OnlyMember ms "id" id.toJson ∧
      route tools maxBodyBytes r = ⟨200, streamHeaders, .events [message]⟩ ∧
      Reply id outcome message ∧ Agrees tools ms id outcome := by
  obtain ⟨id, request, haccepted⟩ := exists_request_of_status hendpoint hstatus
  obtain ⟨hroute, -⟩ := route_of_accepted tools haccepted
  obtain ⟨-, limit, -, -, v, hdocument, hv⟩ := haccepted
  obtain ⟨ms, rfl, hframing, hid, hagrees⟩ :=
    Mcp.agrees_result tools (Mcp.ofJson?_eq_request_iff.mp hv)
  exact ⟨ms, id, _, _, hdocument, hframing, hid, hroute, Mcp.reply_framed id _, hagrees⟩

/-- Requests are answered by themselves, however many came before and whatever they were: in
whatever state tools are executed, if their answers do not depend on it, neither does any response.
A request to the endpoint has status 200 exactly if it was read as one; then it is answered with one
message, under its identifier, that holds a result or an error, and this is what the server says and
does without the router. Any other message that was read is answered with status 202 alone, and
nothing is executed for it. -/
theorem answers_conversations (tools : Tool.Registry) (maxBodyBytes : Nat) :
    (∀ (σ : Type) (execute : Tool.Executor (StateM σ)), Steady execute → ∀ rs : List Request,
      Gives (rs.mapM (routeM execute tools maxBodyBytes)) (rs.map (route tools maxBodyBytes))) ∧
    ∀ r, NamesEndpoint r →
      ((route tools maxBodyBytes r).status = 200 ↔
        ∃ id request, Accepted maxBodyBytes r (.request id request)) ∧
      ((route tools maxBodyBytes r).status = 200 → ∃ ms id outcome message,
        Document r.body (.object ms) ∧ OnlyMember ms "jsonrpc" (.string "2.0") ∧
        OnlyMember ms "id" id.toJson ∧
        route tools maxBodyBytes r = ⟨200, streamHeaders, .events [message]⟩ ∧
        Reply id outcome message ∧ Agrees tools ms id outcome) ∧
      ∀ m, Accepted maxBodyBytes r m → (∀ id request, m ≠ .request id request) →
        route tools maxBodyBytes r = .empty 202 ∧ executed tools maxBodyBytes r = [] := by
  refine ⟨fun σ execute h rs => gives_conversation h maxBodyBytes rs, fun r hendpoint =>
    ⟨⟨exists_request_of_status hendpoint, ?_⟩, of_status_ok hendpoint, fun m hm hother => ?_⟩⟩
  · rintro ⟨id, request, haccepted⟩
    rw [(route_of_accepted tools haccepted).1]
    rfl
  · obtain ⟨hroute, hexecuted⟩ := route_of_accepted tools hm
    rw [hroute, hexecuted]
    cases m with
    | request id request => exact absurd rfl (hother id request)
    | _ => exact ⟨rfl, rfl⟩

/-! ### A conversation -/

/-- A document that is posted to the endpoint. -/
def posted (v : Value) : Request where
  method := "POST"
  target := .resource "/mcp"
  headers :=
    [("accept", Utf8.encode "application/json, text/event-stream"),
      ("content-type", Utf8.encode "application/json")]
  body := Utf8.encode v.text

theorem accepted_posted {v : Value} (hexact : v.IsExact) (hdepth : v.depth ≤ 127)
    (hlength : (Utf8.encode v.text).length ≤ 1000) (hm : Message.ofJson? v = some m) :
    Accepted 1000 (posted v) m := by
  have hundeclared : (posted v).headerText? "content-length" = none := by
    have hnone : (posted v).headers.find? (fun h => h.1.toLower = "content-length") = none := by
      rw [List.find?_eq_none]
      intro h hh
      simpa using toLower_ne_contentLength h.1 (List.mem_map_of_mem hh)
    rw [Request.headerText?, Request.header?, hnone]
    rfl
  have hlimit : bodyLimit 1000 (posted v) = some 1000 := by
    rw [bodyLimit, announced?, hundeclared]
    rfl
  exact ⟨⟨"/mcp", rfl, .inl rfl⟩, 1000, hlimit,
    { admitted_of_headers rfl rfl with length := hlength }, v, Json.document_text hexact hdepth, hm⟩

/-- A notification. -/
def initialized : Value :=
  .object [("jsonrpc", .string "2.0"), ("method", .string "notifications/initialized")]

/-- A call that follows a notification is answered with one message. -/
theorem answers_conversations_echo :
    (∃ ms id outcome message, Document (posted (.object echoCall)).body (.object ms) ∧
      route ⟨[echo]⟩ 1000 (posted (.object echoCall)) = ⟨200, streamHeaders, .events [message]⟩ ∧
      Reply id outcome message) ∧
    route ⟨[echo]⟩ 1000 (posted initialized) = .empty 202 ∧
    Gives ([posted initialized, posted (.object echoCall)].mapM
        (routeM Tool.Executor.recording ⟨[echo]⟩ 1000))
      ([posted initialized, posted (.object echoCall)].map (route ⟨[echo]⟩ 1000)) := by
  obtain ⟨hgives, hanswers⟩ := answers_conversations ⟨[echo]⟩ 1000
  have hcall : Accepted 1000 (posted (.object echoCall))
      (.request (.number 1) (.callTool "echo" (some [("x", .int 7)]))) := by
    refine accepted_posted (by decide) (by decide) ?_ rfl
    rw [Utf8.encode_eq]
    decide
  have hnotification : Accepted 1000 (posted initialized) .notification := by
    refine accepted_posted (by decide) (by decide) ?_ rfl
    rw [Utf8.encode_eq]
    decide
  obtain ⟨hiff, hok, -⟩ := hanswers (posted (.object echoCall)) hcall.1
  obtain ⟨ms, id, outcome, message, hdocument, -, -, hroute, hreply, -⟩ :=
    hok (hiff.mpr ⟨_, _, hcall⟩)
  obtain ⟨-, -, hother⟩ := hanswers (posted initialized) hnotification.1
  refine ⟨⟨ms, id, outcome, message, hdocument, hroute, hreply⟩,
    (hother .notification hnotification nofun).1, hgives _ .recording (fun _ _ _ => rfl) _⟩

end ScriptSandbox.Http
