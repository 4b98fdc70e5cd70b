import ScriptSandbox.Mcp.Message
import ScriptSandbox.Proofs.Evaluation.Variants

/-!
# Documents that call a tool

Which documents are requests to call a tool, stated on their members as the text has them, and that
these are the ones that are understood so.

## Main definitions

* `Mcp.OptionalMember`: a member that may be absent or null
* `Mcp.CallsTool`: the document calls a tool

## Main results

* `Mcp.ofJson?_eq_callTool_iff`: exactly the documents that call a tool are such requests
-/

namespace ScriptSandbox.Mcp

open Evaluation (OnlyMember onlyMember_iff only?_eq_some_iff string?_eq_some_iff)
open Json (Value)

variable {ms ps : Members} {v w : Value} {id : Id} {name : String} {arguments : Option Members}

/-! ### Members -/

/-- The member called `name` is `v?`, or it is absent or null if that is none. It is not
repeated. -/
def OptionalMember (ms : Members) (name : String) : Option Value → Prop
  | none => (∀ m ∈ ms, m.1 ≠ name) ∨ OnlyMember ms name .null
  | some v => OnlyMember ms name v ∧ v ≠ .null

theorem onlyMember_of_filter {key : String} (h : ms.filter (·.1 = name) = [(key, v)]) :
    OnlyMember ms name v :=
  only?_eq_some_iff.mp (by rw [Json.only?, h])

theorem filter_eq_nil_iff : ms.filter (·.1 = name) = [] ↔ ∀ m ∈ ms, m.1 ≠ name := by
  simp [List.filter_eq_nil_iff]

theorem optional?_eq_some_iff {v? : Option Value} :
    optional? ms name = some v? ↔ OptionalMember ms name v? := by
  constructor
  · intro h
    unfold optional? at h
    split at h
    next hnil =>
      obtain rfl := Option.some.inj h
      exact .inl (filter_eq_nil_iff.mp hnil)
    next hnull =>
      obtain rfl := Option.some.inj h
      exact .inr (onlyMember_of_filter hnull)
    next hne hv =>
      obtain rfl := Option.some.inj h
      exact ⟨onlyMember_of_filter hv, fun hnull => hne (by rw [hnull])⟩
    next => cases h
  · intro h
    match v?, h with
    | none, .inl hnone => rw [optional?, filter_eq_nil_iff.mpr hnone]
    | none, .inr hnull => rw [optional?, onlyMember_iff.mp hnull]
    | some v, ⟨hv, hne⟩ =>
      rw [optional?, onlyMember_iff.mp hv]
      cases v with
      | null => exact absurd rfl hne
      | _ => rfl

/-- One field of a record: it is absent and may be, or it stands there once in its shape. -/
theorem members_singleton_iff {shape : Shape} : Shape.members [(name, shape)] ms = true ↔
    (∀ m ∈ ms, m.1 ≠ name) ∧ shape none = true ∨
      ∃ v, OnlyMember ms name v ∧ shape (some v) = true := by
  rw [Shape.members, List.all_cons, List.all_nil, Bool.and_true]
  dsimp only
  constructor
  · intro h
    split at h
    next hnil => exact .inl ⟨filter_eq_nil_iff.mp hnil, h⟩
    next v hv => exact .inr ⟨v, onlyMember_of_filter hv, h⟩
    next => cases h
  · rintro (⟨hnone, h⟩ | ⟨v, hv, h⟩)
    · rwa [filter_eq_nil_iff.mpr hnone]
    · rwa [onlyMember_iff.mp hv]

theorem framing_iff :
    Shape.members [framing] ms = true ↔ OnlyMember ms "jsonrpc" (.string "2.0") := by
  rw [framing, members_singleton_iff]
  constructor
  · rintro (⟨-, h⟩ | ⟨v, hv, h⟩)
    · cases h
    · cases v with
      | string s =>
        obtain rfl : s = "2.0" := by simpa [Shape.word] using h
        exact hv
      | _ => cases h
  · exact fun h => .inr ⟨_, h, by simp [Shape.word]⟩

/-- An identifier that a request may have: any string, or an integer of 64 bits. -/
def Id.IsProper : Id → Prop
  | .number n => n < 0x8000000000000000
  | .string _ => True

theorem Id.ofJson?_eq_some_iff : Id.ofJson? v = some id ↔ v = id.toJson ∧ id.IsProper := by
  constructor
  · intro h
    unfold Id.ofJson? at h
    split at h
    next s =>
      obtain rfl := Option.some.inj h
      exact ⟨rfl, trivial⟩
    next n =>
      obtain ⟨hn, h⟩ := Option.ite_none_right_eq_some.mp h
      obtain rfl := Option.some.inj h
      exact ⟨rfl, hn⟩
    next => cases h
  · rintro ⟨rfl, hproper⟩
    cases id with
    | number n => exact if_pos hproper
    | string s => rfl

/-- The members are parameters if what is remarked in them, if anything is, is an object. -/
def IsParams (ps : Members) : Prop :=
  OptionalMember ps "_meta" none ∨ ∃ remarks, OnlyMember ps "_meta" (.object remarks)

theorem isParams_iff :
    Shape.members [("_meta", .optional .object)] ps = true ↔ IsParams ps := by
  rw [members_singleton_iff]
  constructor
  · rintro (⟨hnone, -⟩ | ⟨v, hv, h⟩)
    · exact .inl (.inl hnone)
    · cases v with
      | null => exact .inl (.inr hv)
      | object remarks => exact .inr ⟨remarks, hv⟩
      | _ => cases h
  · rintro ((hnone | hnull) | ⟨remarks, hobject⟩)
    · exact .inl ⟨hnone, rfl⟩
    · exact .inr ⟨.null, hnull, rfl⟩
    · exact .inr ⟨.object remarks, hobject, rfl⟩

theorem paramsOf?_eq_some_iff : paramsOf? v = some ps ↔ v = .object ps ∧ IsParams ps := by
  cases v with
  | object ms =>
    rw [paramsOf?, Option.ite_none_right_eq_some, isParams_iff, Option.some.injEq]
    constructor
    · rintro ⟨hparams, rfl⟩
      exact ⟨rfl, hparams⟩
    · rintro ⟨h, hparams⟩
      obtain rfl := Value.object.inj h
      exact ⟨hparams, rfl⟩
  | _ => exact iff_of_false (fun h => nomatch h) (fun h => nomatch h.1)

theorem params?_eq_some_iff :
    params? ms = some ps ↔ OnlyMember ms "params" (.object ps) ∧ IsParams ps := by
  rw [params?, Option.bind_eq_some_iff]
  simp only [only?_eq_some_iff, paramsOf?_eq_some_iff]
  constructor
  · rintro ⟨v, hv, rfl, hparams⟩
    exact ⟨hv, hparams⟩
  · rintro ⟨hv, hparams⟩
    exact ⟨_, hv, rfl, hparams⟩

theorem text?_eq_some_iff {s : String} : text? ms name = some s ↔ OnlyMember ms name (.string s) := by
  rw [text?, Option.bind_eq_some_iff]
  simp [only?_eq_some_iff, string?_eq_some_iff]

namespace Request

theorem arguments?_eq_some_iff : arguments? ps = some arguments ↔
    OptionalMember ps "arguments" (arguments.map .object) := by
  rw [← optional?_eq_some_iff, arguments?, Option.bind_eq_bind, Option.bind_eq_some_iff]
  constructor
  · rintro ⟨v?, hv, h⟩
    split at h
    next =>
      obtain rfl := Option.some.inj h
      exact hv
    next =>
      obtain rfl := Option.some.inj h
      exact hv
    next => cases h
  · intro h
    cases arguments with
    | none => exact ⟨none, h, rfl⟩
    | some arguments => exact ⟨some (.object arguments), h, rfl⟩

/-! ### Other requests -/

theorem of_opening? {q : Request} (h : opening? ps = some q) :
    ∃ version, OnlyMember ps "protocolVersion" (.string version) ∧ q = .opening version := by
  obtain ⟨-, h⟩ := Option.ite_none_right_eq_some.mp h
  obtain ⟨version, hversion, h⟩ := Option.bind_eq_some_iff.mp h
  exact ⟨version, text?_eq_some_iff.mp hversion, (Option.some.inj h).symm⟩

theorem eq_of_list? {q q' : Request} (h : list? ms q = some q') : q = q' := by
  obtain ⟨_, -, h⟩ := Option.bind_eq_some_iff.mp h
  exact Option.some.inj h

theorem eq_of_ofParams? {fields : List (String × Shape)} {q q' : Request}
    (h : ofParams? ms fields q = some q') : q = q' := by
  obtain ⟨_, -, h⟩ := Option.bind_eq_some_iff.mp h
  obtain ⟨-, h⟩ := Option.ite_none_right_eq_some.mp h
  exact Option.some.inj h

end Request

/-! ### Calls -/

/-- The document is a request, in the framing of the protocol, to call the tool `name`, with the
members of an object as arguments or with none. No member with a meaning is repeated. -/
structure CallsTool (ms : Members) (id : Id) (name : String) (arguments : Option Members) :
    Prop where
  framing : OnlyMember ms "jsonrpc" (.string "2.0")
  id : OnlyMember ms "id" id.toJson ∧ id.IsProper
  method : OnlyMember ms "method" (.string "tools/call")
  params : ∃ ps, OnlyMember ms "params" (.object ps) ∧ IsParams ps ∧
    OnlyMember ps "name" (.string name) ∧ OptionalMember ps "arguments" (arguments.map .object)

theorem ofMembers?_eq_callTool_iff : Request.ofMembers? ms = some (.callTool name arguments) ↔
    OnlyMember ms "method" (.string "tools/call") ∧ ∃ ps, OnlyMember ms "params" (.object ps) ∧
      IsParams ps ∧ OnlyMember ps "name" (.string name) ∧
      OptionalMember ps "arguments" (arguments.map .object) := by
  rw [Request.ofMembers?, Option.bind_eq_bind, Option.bind_eq_some_iff]
  constructor
  · rintro ⟨method, hmethod, h⟩
    split at h
    next => cases h
    next =>
      obtain ⟨ps, -, h⟩ := Option.bind_eq_some_iff.mp h
      obtain ⟨version, -, h⟩ := Request.of_opening? h
      cases h
    next => cases Request.eq_of_list? h
    next =>
      obtain ⟨ps, hps, h⟩ := Option.bind_eq_some_iff.mp h
      obtain ⟨name', hname, h⟩ := Option.bind_eq_some_iff.mp h
      obtain ⟨arguments', harguments, h⟩ := Option.bind_eq_some_iff.mp h
      cases Option.some.inj h
      obtain ⟨hps, hparams⟩ := params?_eq_some_iff.mp hps
      exact ⟨text?_eq_some_iff.mp hmethod, ps, hps, hparams, text?_eq_some_iff.mp hname,
        Request.arguments?_eq_some_iff.mp harguments⟩
    next => cases Request.eq_of_list? h
    next => cases Request.eq_of_list? h
    next => cases Request.eq_of_list? h
    next => cases Request.eq_of_ofParams? h
    next => cases Request.eq_of_ofParams? h
    next => cases Request.eq_of_ofParams? h
    next => cases Request.eq_of_ofParams? h
    next => cases Request.eq_of_ofParams? h
    next => cases Request.eq_of_ofParams? h
    next => cases h
  · rintro ⟨hmethod, ps, hps, hparams, hname, harguments⟩
    refine ⟨_, text?_eq_some_iff.mpr hmethod, ?_⟩
    simp only [params?_eq_some_iff.mpr ⟨hps, hparams⟩, text?_eq_some_iff.mpr hname,
      Request.arguments?_eq_some_iff.mpr harguments, Option.bind_eq_bind, Option.bind_some]
    rfl

theorem request?_eq_some_iff {q : Request} : Message.request? v = some (.request id q) ↔
    ∃ ms, v = .object ms ∧ OnlyMember ms "jsonrpc" (.string "2.0") ∧
      (OnlyMember ms "id" id.toJson ∧ id.IsProper) ∧ Request.ofMembers? ms = some q := by
  cases v with
  | object ms =>
    rw [Message.request?, Option.ite_none_right_eq_some, framing_iff]
    constructor
    · rintro ⟨hframing, h⟩
      obtain ⟨id', hid, h⟩ := Option.bind_eq_some_iff.mp h
      obtain ⟨q', hq, h⟩ := Option.bind_eq_some_iff.mp h
      cases Option.some.inj h
      obtain ⟨w, hw, hid⟩ := Option.bind_eq_some_iff.mp hid
      obtain ⟨rfl, hproper⟩ := Id.ofJson?_eq_some_iff.mp hid
      exact ⟨ms, rfl, hframing, ⟨only?_eq_some_iff.mp hw, hproper⟩, hq⟩
    · rintro ⟨ms', hms, hframing, ⟨hid, hproper⟩, hq⟩
      obtain rfl := Value.object.inj hms
      refine ⟨hframing, ?_⟩
      rw [only?_eq_some_iff.mpr hid, Option.bind_some, Id.ofJson?_eq_some_iff.mpr ⟨rfl, hproper⟩, hq]
      rfl
  | _ => exact iff_of_false (fun h => nomatch h) (fun ⟨_, h, _⟩ => nomatch h)

/-- Documents that are no requests are no messages that are answered. -/
theorem ofJson?_eq_request_iff {q : Request} :
    Message.ofJson? v = some (.request id q) ↔ Message.request? v = some (.request id q) := by
  have hresponse : Message.response? v ≠ some (.request id q) := by
    rw [Message.response?]
    split_ifs <;> simp
  have hnotification : Message.notification? v ≠ some (.request id q) := by
    cases v with
    | object ms =>
      rw [Message.notification?]
      split_ifs <;> simp
    | _ => exact fun h => nomatch h
  have herror : Message.error? v ≠ some (.request id q) := by
    rw [Message.error?]
    split_ifs <;> simp
  simp [Message.ofJson?, hresponse, hnotification, herror]

/-- Exactly the documents that call a tool are such requests. -/
theorem ofJson?_eq_callTool_iff :
    Message.ofJson? v = some (.request id (.callTool name arguments)) ↔
      ∃ ms, v = .object ms ∧ CallsTool ms id name arguments := by
  rw [ofJson?_eq_request_iff, request?_eq_some_iff]
  simp only [ofMembers?_eq_callTool_iff]
  constructor
  · rintro ⟨ms, hms, hframing, hid, hmethod, hparams⟩
    exact ⟨ms, hms, hframing, hid, hmethod, hparams⟩
  · rintro ⟨ms, hms, h⟩
    exact ⟨ms, hms, h.framing, h.id, h.method, h.params⟩

end ScriptSandbox.Mcp
