import ScriptSandbox.Proofs.Http.Executions

/-!
# Bodies that are too long

A body that is longer than allowed is never looked into: whatever it is, no tool is executed for it.
What the client is told depends on what it declares. If it declares more bytes than allowed, it is
refused at once, and the status says that there are too many. Otherwise the limit is only met when
the body is read, and then the status is that of a failure of the server.

## Main definitions

* `Http.Oversized`: nothing stands against a request to the endpoint but the length of its body
* `Http.unreadable`: the response to a body that cannot be read to its end

## Main results

* `Http.refuses_oversized`: the response to such a request, and that nothing is executed for it
* `Http.not_forall_payloadTooLarge`: the status need not be that of too many bytes
-/

namespace ScriptSandbox.Http

variable {tools : Tool.Registry} {maxBodyBytes limit : Nat} {r : Request}

/-- The request is about the endpoint and passes all its gates, but its body is longer than
allowed. -/
structure Oversized (maxBodyBytes : Nat) (r : Request) : Prop where
  endpoint : NamesEndpoint r
  admitted : Admitted r.body.length r
  length : maxBodyBytes < r.body.length

/-- The response to a body that is longer than what may be read of it. -/
def unreadable : Response := .plain 500 [] "Failed to read request body: length limit exceeded"

theorem bodyLimit_eq_none_iff :
    bodyLimit maxBodyBytes r = none ↔ ∃ n, Declares r n ∧ maxBodyBytes < n := by
  simp only [← announced?_eq_some_iff]
  rw [bodyLimit]
  cases announced? r with
  | none => simp
  | some n => simp

/-- No more is ever read than allowed. -/
theorem bodyLimit_le (h : bodyLimit maxBodyBytes r = some limit) : limit ≤ maxBodyBytes := by
  obtain ⟨n, -, hle, rfl⟩ | ⟨-, rfl⟩ := bodyLimit_eq_some_iff.mp h
  · exact hle
  · exact le_rfl

/-- A body that is too long fails to be read once everything else is accepted. -/
theorem accept_of_lt (hadmitted : Admitted r.body.length r) (hlength : limit < r.body.length) :
    accept limit r = .error unreadable := by
  have haccepts := acceptsFormats_iff.mpr hadmitted.accepts
  have hdocument := isDocument_iff.mpr hadmitted.isDocument
  rw [accept, if_neg (not_not_intro hadmitted.method), if_neg (by simp [haccepts]),
    if_neg (by simp [hdocument]), if_pos hlength]
  rfl

namespace Oversized

theorem executed_eq_nil (h : Oversized maxBodyBytes r) : executed tools maxBodyBytes r = [] := by
  rw [executed_eq]
  split
  next limit _ hlimit =>
    rw [endpointCalls, accept_of_lt h.admitted ((bodyLimit_le hlimit).trans_lt h.length)]
  next => rfl

theorem route_of_declares {n : Nat} (h : Oversized maxBodyBytes r) (hn : Declares r n)
    (hlt : maxBodyBytes < n) : route tools maxBodyBytes r = payloadTooLarge [] := by
  rw [route, routeM, resourceAt_eq_endpoint_iff.mpr h.endpoint,
    bodyLimit_eq_none_iff.mpr ⟨n, hn, hlt⟩]
  rfl

theorem route_of_forall_le (h : Oversized maxBodyBytes r)
    (hle : ∀ n, Declares r n → n ≤ maxBodyBytes) : route tools maxBodyBytes r = unreadable := by
  cases hlimit : bodyLimit maxBodyBytes r with
  | none =>
    obtain ⟨n, hn, hlt⟩ := bodyLimit_eq_none_iff.mp hlimit
    exact absurd (hle n hn) (Nat.not_le.mpr hlt)
  | some limit =>
    have haccept := accept_of_lt h.admitted ((bodyLimit_le hlimit).trans_lt h.length)
    rw [route, routeM, resourceAt_eq_endpoint_iff.mpr h.endpoint, hlimit]
    dsimp only
    rw [endpointM, haccept]
    rfl

end Oversized

/-- Nothing is executed for a request whose body is too long, whatever its body is. If it declares
more bytes than allowed, the response has status 413, and otherwise it has status 500. -/
theorem refuses_oversized (tools : Tool.Registry) (maxBodyBytes : Nat) (r : Request)
    (h : Oversized maxBodyBytes r) :
    (routeM .recording tools maxBodyBytes r).run [] = (route tools maxBodyBytes r, []) ∧
      ((∃ n, Declares r n ∧ maxBodyBytes < n) →
        route tools maxBodyBytes r =
          .plain 413 [("content-type", "text/plain; charset=utf-8")] "length limit exceeded") ∧
      ((∀ n, Declares r n → n ≤ maxBodyBytes) →
        route tools maxBodyBytes r =
          .plain 500 [] "Failed to read request body: length limit exceeded") := by
  refine ⟨?_, fun ⟨n, hn, hlt⟩ => h.route_of_declares hn hlt, h.route_of_forall_le⟩
  rw [routeM_recording, ← executed_eq]
  exact congrArg (Prod.mk _) h.executed_eq_nil

/-! ### A body that is too long -/

/-- A request that calls the tool and declares no length. -/
def undeclaredRequest : Request :=
  { echoRequest "" with headers := (echoRequest "").headers.take 2 }

theorem not_declares_undeclaredRequest (n : Nat) : ¬ Declares undeclaredRequest n := by
  rintro ⟨s, sign, ds, ⟨pre, key, post, hheaders, hkey, -, -⟩, -⟩
  have hnone : ∀ name ∈ undeclaredRequest.headers.map (·.1), name.toLower ≠ "content-length" :=
    toLower_ne_contentLength
  refine hnone key ?_ hkey
  rw [hheaders]
  simp

theorem oversized_undeclaredRequest : Oversized 64 undeclaredRequest where
  endpoint := ⟨"/mcp", rfl, .inl rfl⟩
  admitted := admitted_of_headers rfl rfl
  length := (length_body_echoRequest "").symm ▸ (by decide : 64 < 91)

/-- A request that declares its length is refused for it. -/
theorem refuses_oversized_echoRequest :
    Oversized 64 (echoRequest "91") ∧ (∃ n, Declares (echoRequest "91") n ∧ 64 < n) ∧
      (route ⟨[echo]⟩ 64 (echoRequest "91")).status = 413 := by
  have hoversized : Oversized 64 (echoRequest "91") := {
    endpoint := ⟨"/mcp", rfl, .inl rfl⟩
    admitted := admitted_of_headers rfl rfl
    length := (length_body_echoRequest "91").symm ▸ (by decide : 64 < 91) }
  have hdeclares : Declares (echoRequest "91") 91 :=
    declares_echoRequest rfl rfl
  have hdeclared : ∃ n, Declares (echoRequest "91") n ∧ 64 < n := ⟨91, hdeclares, by decide⟩
  have hroute := (refuses_oversized ⟨[echo]⟩ 64 (echoRequest "91") hoversized).2.1 hdeclared
  exact ⟨hoversized, hdeclared, congrArg Response.status hroute⟩

/-- The status of a request that declares no length is another one. -/
theorem not_forall_payloadTooLarge :
    (Oversized 64 undeclaredRequest ∧ (route ⟨[echo]⟩ 64 undeclaredRequest).status = 500) ∧
    ¬ ∀ tools maxBodyBytes r, Oversized maxBodyBytes r →
      (route tools maxBodyBytes r).status = 413 := by
  have hstatus : (route ⟨[echo]⟩ 64 undeclaredRequest).status = 500 :=
    congrArg Response.status (oversized_undeclaredRequest.route_of_forall_le
      fun n hn => absurd hn (not_declares_undeclaredRequest n))
  refine ⟨⟨oversized_undeclaredRequest, hstatus⟩, fun hall => ?_⟩
  have hall := hall ⟨[echo]⟩ 64 undeclaredRequest oversized_undeclaredRequest
  exact absurd (hstatus.symm.trans hall) (by decide)

end ScriptSandbox.Http
