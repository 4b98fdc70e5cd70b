import ScriptSandbox.Evaluation.Response
import ScriptSandbox.Proofs.Json.Printing

/-!
# The response a document describes

Which response a document describes depends on few of its members, counted as the text has them. A
single usable `error` decides, whatever else there is; otherwise a single `result` does. All other
members may be anything.

## Main definitions

* `Evaluation.OnlyMember`: a name that exactly one member has
* `Evaluation.ErrorBody`: the two shapes of an error
* `Evaluation.Describes`: the response a document describes

## Main results

* `Evaluation.ofJson?_eq_some_iff`: the response found in a document is the one it describes
* `Evaluation.parse_document`: how every text that is a document is parsed
-/

namespace ScriptSandbox.Evaluation

open Json (Document Value)

variable {bytes : List UInt8} {ms ms' : List (String × Value)} {name : String} {e v w : Value}
  {c : Int32} {m : String} {r : Response}

/-! ### Members that are not repeated -/

/-- Exactly one member is called `name`, and its value is `v`. -/
def OnlyMember (ms : List (String × Value)) (name : String) (v : Value) : Prop :=
  ∃ pre post, ms = pre ++ (name, v) :: post ∧ ∀ m ∈ pre ++ post, m.1 ≠ name

theorem onlyMember_iff : OnlyMember ms name v ↔ ms.filter (·.1 = name) = [(name, v)] := by
  rw [List.filter_eq_cons_iff]
  constructor
  · rintro ⟨pre, post, rfl, h⟩
    rw [List.forall_mem_append] at h
    refine ⟨pre, post, rfl, fun m hm => by simpa using h.1 m hm, by simp, ?_⟩
    rw [List.filter_eq_nil_iff]
    exact fun m hm => by simpa using h.2 m hm
  · rintro ⟨pre, post, rfl, hpre, -, hpost⟩
    rw [List.filter_eq_nil_iff] at hpost
    refine ⟨pre, post, rfl, List.forall_mem_append.mpr ⟨fun m hm => ?_, fun m hm => ?_⟩⟩
    · simpa using hpre m hm
    · simpa using hpost m hm

theorem only?_eq_some_iff : Json.only? ms name = some v ↔ OnlyMember ms name v := by
  rw [onlyMember_iff, Json.only?]
  constructor
  · intro h
    split at h
    next k x hx =>
      -- a member that the filter keeps has the name
      have hk : (k, x) ∈ ms.filter (·.1 = name) := hx ▸ List.mem_singleton_self _
      have hk : k = name := by simpa using (List.mem_filter.mp hk).2
      rw [hx, hk, Option.some.inj h]
    next => cases h
  · intro h
    rw [h]

/-- The members of these names are the same, in the same order. -/
def Alike (names : List String) (ms ms' : List (String × Value)) : Prop :=
  ∀ name ∈ names, ms.filter (·.1 = name) = ms'.filter (·.1 = name)

theorem Alike.only?_eq {names : List String} (h : Alike names ms ms') (hname : name ∈ names) :
    Json.only? ms name = Json.only? ms' name := by
  rw [Json.only?, Json.only?, h name hname]

/-! ### Errors -/

theorem int32?_int (c : Int32) : (Value.int c.toInt).int32? = some c := by
  have hlow := c.le_toInt
  have hhigh := c.toInt_lt
  rw [Value.int32?, Value.int, Value.int?]
  simp only
  rw [if_pos (by omega), Int32.ofInt_toInt]

theorem int32?_eq_some_iff : v.int32? = some c ↔ v = .int c.toInt := by
  constructor
  · intro h
    unfold Value.int32? at h
    split at h
    next n hn =>
      split_ifs at h with hrange
      -- an integer in the range is that of its 32 bits
      obtain rfl := Option.some.inj h
      rw [Int32.toInt_ofInt_of_le hrange.1 hrange.2]
      unfold Value.int? at hn
      split at hn
      next => rw [Option.some.inj hn]; rfl
      next => cases hn
    next => cases h
  · rintro rfl
    exact int32?_int c

theorem string?_eq_some_iff : v.string? = some m ↔ v = .string m := by
  cases v with
  | string s => simp [Value.string?]
  | _ => simp [Value.string?]

/-- The two shapes of an error with code `c` and message `m`: an object with one `code` and one
`message`, or the two in an array. The code is an integer of 32 bits, never a double. -/
inductive ErrorBody : Value → Int32 → String → Prop where
  | object {ms : List (String × Value)} {c : Int32} {m : String}
      (hcode : OnlyMember ms "code" (.int c.toInt))
      (hmessage : OnlyMember ms "message" (.string m)) : ErrorBody (.object ms) c m
  | array {c : Int32} {m : String} : ErrorBody (.array [.int c.toInt, .string m]) c m

theorem errorOf?_eq_some_iff :
    Response.errorOf? e = some r ↔ ∃ c m, ErrorBody e c m ∧ r = .error c m := by
  constructor
  · intro h
    unfold Response.errorOf? at h
    split at h
    next ms =>
      simp only [Option.bind_eq_bind, Option.bind_eq_some_iff, only?_eq_some_iff,
        int32?_eq_some_iff, string?_eq_some_iff] at h
      obtain ⟨_, hcode, c, rfl, _, hmessage, m, rfl, h⟩ := h
      exact ⟨c, m, .object hcode hmessage, (Option.some.inj h).symm⟩
    next =>
      simp only [Option.bind_eq_bind, Option.bind_eq_some_iff, int32?_eq_some_iff,
        string?_eq_some_iff] at h
      obtain ⟨c, rfl, m, rfl, h⟩ := h
      exact ⟨c, m, .array, (Option.some.inj h).symm⟩
    next => cases h
  · rintro ⟨c, m, hbody, rfl⟩
    cases hbody with
    | object hcode hmessage =>
      rw [Response.errorOf?, only?_eq_some_iff.mpr hcode, only?_eq_some_iff.mpr hmessage]
      simp [int32?_int, Value.string?]
    | array => simp [Response.errorOf?, int32?_int, Value.string?]

/-! ### Responses -/

/-- The response a document describes. It is an object; its only `error` decides if that has one of
the two shapes of errors, and otherwise its only `result` does. -/
inductive Describes : Value → Response → Prop where
  | error {ms : List (String × Value)} {e : Value} {c : Int32} {m : String}
      (h : OnlyMember ms "error" e) (hbody : ErrorBody e c m) : Describes (.object ms) (.error c m)
  | result {ms : List (String × Value)} {v w : Value}
      (hno : ∀ e c m, OnlyMember ms "error" e → ¬ ErrorBody e c m) (h : OnlyMember ms "result" v)
      (hmerge : v.MergesTo w) : Describes (.object ms) (.result w)

/-- The usable error among members, if there is a single one. -/
theorem bind_errorOf?_eq_some_iff : (Json.only? ms "error").bind Response.errorOf? = some r ↔
    ∃ e c m, OnlyMember ms "error" e ∧ ErrorBody e c m ∧ r = .error c m := by
  simp only [Option.bind_eq_some_iff, only?_eq_some_iff, errorOf?_eq_some_iff]
  constructor
  · rintro ⟨e, he, c, m, hbody, rfl⟩
    exact ⟨e, c, m, he, hbody, rfl⟩
  · rintro ⟨e, c, m, he, hbody, rfl⟩
    exact ⟨e, he, c, m, hbody, rfl⟩

theorem ofJson?_eq_some_iff : Response.ofJson? w = some r ↔ Describes w r := by
  constructor
  · intro h
    unfold Response.ofJson? at h
    split at h
    next ms =>
      split at h
      next r' herror =>
        obtain ⟨e, c, m, he, hbody, rfl⟩ := bind_errorOf?_eq_some_iff.mp herror
        obtain rfl := Option.some.inj h
        exact .error he hbody
      next hnone =>
        -- there is a result, and no error that would come before it
        obtain ⟨v, hv, rfl⟩ := Option.map_eq_some_iff.mp h
        refine .result (fun e c m he hbody => ?_) (only?_eq_some_iff.mp hv)
          (Value.mergesTo_merged v)
        rw [bind_errorOf?_eq_some_iff.mpr ⟨e, c, m, he, hbody, rfl⟩] at hnone
        cases hnone
    next => cases h
  · intro h
    cases h with
    | error he hbody =>
      rw [Response.ofJson?, bind_errorOf?_eq_some_iff.mpr ⟨_, _, _, he, hbody, rfl⟩]
    | @result ms v w hno hv hmerge =>
      have hnone : (Json.only? ms "error").bind Response.errorOf? = none := by
        rw [Option.eq_none_iff_forall_ne_some]
        intro r hr
        obtain ⟨e, c, m, he, hbody, -⟩ := bind_errorOf?_eq_some_iff.mp hr
        exact hno e c m he hbody
      rw [Response.ofJson?, hnone, only?_eq_some_iff.mpr hv, Value.mergesTo_iff.mp hmerge]
      rfl

/-- A document is parsed by the response found in it. -/
theorem parse_eq_of_document (h : Document bytes w) :
    Response.parse bytes = (Response.ofJson? w).elim (.error .noVariant) .ok := by
  obtain ⟨rest, hread, hend⟩ := h.readPrefix
  rw [Response.parse, hread]
  cases hw : Response.ofJson? w with
  | none => simp [Except.mapError, bind, Except.bind, hw]
  | some r => simp [Except.mapError, bind, Except.bind, hw, hend, pure, Except.pure]

theorem parse_eq_ok_iff (h : Document bytes w) : Response.parse bytes = .ok r ↔ Describes w r := by
  rw [parse_eq_of_document h, ← ofJson?_eq_some_iff]
  cases Response.ofJson? w with
  | none => simp
  | some r' => simp

/-! ### Members that do not matter -/

/-- Only the members `error` and `result` matter. -/
theorem ofJson?_congr (h : Alike ["error", "result"] ms ms') :
    Response.ofJson? (.object ms) = Response.ofJson? (.object ms') := by
  rw [Response.ofJson?, Response.ofJson?, h.only?_eq (by simp), h.only?_eq (by simp)]

/-- Of an error only the members `code` and `message` matter. -/
theorem errorOf?_congr (h : Alike ["code", "message"] ms ms') :
    Response.errorOf? (.object ms) = Response.errorOf? (.object ms') := by
  rw [Response.errorOf?, Response.errorOf?, h.only?_eq (by simp), h.only?_eq (by simp)]

theorem filter_member (pre post : List (String × Value)) (v : Value) :
    (pre ++ (name, v) :: post).filter (·.1 = name) =
      pre.filter (·.1 = name) ++ (name, v) :: post.filter (·.1 = name) := by
  rw [List.filter_append, List.filter_cons_of_pos (by simp)]

theorem filter_other_member {other : String} (hne : other ≠ name)
    (pre post : List (String × Value)) (v w : Value) :
    (pre ++ (other, v) :: post).filter (·.1 = name) =
      (pre ++ (other, w) :: post).filter (·.1 = name) := by
  rw [List.filter_append, List.filter_append, List.filter_cons_of_neg (by simpa using hne),
    List.filter_cons_of_neg (by simpa using hne)]

/-- What is found in the only member of a name does not change when a value in its place is read
alike. -/
theorem bind_only?_congr {α : Type} {f : Value → Option α} (pre post : List (String × Value))
    (h : f v = f w) : (Json.only? (pre ++ (name, v) :: post) name).bind f =
      (Json.only? (pre ++ (name, w) :: post) name).bind f := by
  rw [Json.only?, Json.only?, filter_member, filter_member]
  -- with another member of the name neither side finds a single one
  cases pre.filter (·.1 = name) with
  | nil =>
    cases post.filter (·.1 = name) with
    | nil => exact h
    | cons => rfl
  | cons m ms => cases ms <;> rfl

/-- Members of an error other than `code` and `message` do not matter. -/
theorem ofJson?_congr_error (pre post : List (String × Value))
    (h : Alike ["code", "message"] ms ms') :
    Response.ofJson? (.object (pre ++ ("error", .object ms) :: post)) =
      Response.ofJson? (.object (pre ++ ("error", .object ms') :: post)) := by
  -- the result is found beside the error, whatever the error is
  have hresult : Json.only? (pre ++ ("error", .object ms) :: post) "result" =
      Json.only? (pre ++ ("error", .object ms') :: post) "result" := by
    rw [Json.only?, Json.only?, filter_other_member (by decide)]
  rw [Response.ofJson?, Response.ofJson?, hresult, bind_only?_congr pre post (errorOf?_congr h)]

/-! ### Parsing -/

/-- A text that is a document is parsed as exactly the response it describes, and as none if it
describes none. Members other than `error` and `result`, and in an error members other than `code`
and `message`, do not change how it is parsed. -/
theorem parse_document (h : Document bytes w) :
    (∀ r, Response.parse bytes = .ok r ↔ Describes w r) ∧
      ((∀ r, ¬ Describes w r) → Response.parse bytes = .error .noVariant) ∧
      (∀ bytes' ms ms', w = .object ms → Document bytes' (.object ms') →
        Alike ["error", "result"] ms ms' → Response.parse bytes' = Response.parse bytes) ∧
      ∀ bytes' pre post ms ms', w = .object (pre ++ ("error", .object ms) :: post) →
        Document bytes' (.object (pre ++ ("error", .object ms') :: post)) →
        Alike ["code", "message"] ms ms' → Response.parse bytes' = Response.parse bytes := by
  refine ⟨fun r => parse_eq_ok_iff h, fun hno => ?_, ?_, ?_⟩
  · have hnone : Response.ofJson? w = none := by
      rw [Option.eq_none_iff_forall_ne_some]
      exact fun r hr => hno r (ofJson?_eq_some_iff.mp hr)
    rw [parse_eq_of_document h, hnone]
    rfl
  · rintro bytes' ms ms' rfl h' halike
    rw [parse_eq_of_document h, parse_eq_of_document h', ofJson?_congr halike]
  · rintro bytes' pre post ms ms' rfl h' halike
    rw [parse_eq_of_document h, parse_eq_of_document h', ofJson?_congr_error pre post halike]

/-- Beside an array as `error`, neither a `result` nor a name that occurs twice matters; beside an
object as `error`, neither do its own other members. -/
theorem parse_document_error :
    Response.parse (Utf8.encode (Value.object [("x", .null), ("result", .int 2), ("x", .null),
        ("error", .array [.int 7, .string "m"])]).text) = .ok (.error 7 "m") ∧
      Response.parse (Utf8.encode (Value.object [("error", .array [.int 7, .string "m"]),
        ("result", .int 2)]).text) = .ok (.error 7 "m") ∧
      Response.parse (Utf8.encode (Value.object [("error", .object [("y", .null),
        ("message", .string "m"), ("code", .int 7), ("y", .null)])]).text) =
      Response.parse (Utf8.encode (Value.object [("error", .object [("code", .int 7),
        ("message", .string "m")])]).text) := by
  have harray : Document _ (.object [("x", .null), ("result", .int 2), ("x", .null),
      ("error", .array [.int 7, .string "m"])]) := Json.document_text (by decide) (by decide)
  have hbody : Document _ (.object [("error", .object [("code", .int 7),
      ("message", .string "m")])]) := Json.document_text (by decide) (by decide)
  have hseven : ErrorBody (.array [.int 7, .string "m"]) 7 "m" := ErrorBody.array (c := 7)
  have hparse := ((parse_document harray).1 (.error 7 "m")).mpr
    (.error ⟨[("x", .null), ("result", .int 2), ("x", .null)], [], rfl, by decide⟩ hseven)
  refine ⟨hparse, ?_, ?_⟩
  · rw [← hparse]
    refine (parse_document harray).2.2.1 _ _ _ rfl
      (Json.document_text (by decide) (by decide)) ?_
    simp [Alike]
  · refine (parse_document hbody).2.2.2 _ [] [] _ _ rfl
      (Json.document_text (by decide) (by decide)) ?_
    simp [Alike]

end ScriptSandbox.Evaluation
