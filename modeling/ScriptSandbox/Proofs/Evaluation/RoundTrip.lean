import ScriptSandbox.Proofs.Evaluation.Output
import ScriptSandbox.Proofs.Evaluation.Variants

/-!
# Printing and parsing responses

A printed response is parsed back as itself, for every error and for every value without doubles
that a run can return. The response wraps the value in one more object, so a value at the greatest
depth that a run can return makes a response that is nested too deeply.

## Main definitions

* `Evaluation.RoundTrips`: printing and parsing a response gives it back
* `Json.Value.nested`: arrays nested to a given depth

## Main results

* `Evaluation.roundTrips_error`, `Evaluation.roundTrips_result`: responses that come back
* `Evaluation.parse_result_tooDeep`: results that do not
* `Evaluation.parse_text_ofResult`: the responses to all evaluations
-/

namespace ScriptSandbox

namespace Json.Value

/-- An array in an array and so on, `n` times, around `null`. -/
def nested : Nat → Value
  | 0 => .null
  | n + 1 => .array [nested n]

theorem depth_nested (n : Nat) : (nested n).depth = n := by
  induction n with
  | zero => rfl
  | succ n ih => rw [nested, depth, itemsDepth, itemsDepth, ih, Nat.max_zero]

theorem numbers_nested (n : Nat) : (nested n).numbers = [] := by
  induction n with
  | zero => rfl
  | succ n ih => rw [nested, numbers, itemsNumbers, itemsNumbers, ih, List.append_nil]

theorem merged_nested (n : Nat) : (nested n).merged = nested n := by
  induction n with
  | zero => rfl
  | succ n ih => rw [nested, merged, mergedItems, mergedItems, ih]

theorem isExact_nested (n : Nat) : (nested n).IsExact := by
  intro x hx
  rw [numbers_nested] at hx
  exact absurd hx List.not_mem_nil

theorem NoDouble.of_isExact {v : Value} (h : v.IsExact) : v.NoDouble := by
  intro n hn
  obtain ⟨i, hi, -⟩ := h n hn
  exact ⟨i, hi⟩

end Json.Value

namespace Evaluation

open Json (Document Value)

variable {outcome : Outcome} {stdout stderr : List UInt8} {v w : Value} {c : Int32} {m : String}
  {r : Response}

/-! ### Values of completed runs -/

theorem merged_of_classify (h : classify outcome stdout stderr = .ok v) : v.merged = v := by
  obtain ⟨w, -, rfl⟩ := exists_document_of_classify h
  exact Value.merged_merged w

theorem depth_le_of_classify (h : classify outcome stdout stderr = .ok v) : v.depth ≤ 127 := by
  obtain ⟨w, hw, rfl⟩ := exists_document_of_classify h
  exact (Value.depth_merged_le w).trans hw.2

theorem isExact_of_classify (h : classify outcome stdout stderr = .ok v) (hv : v.NoDouble) :
    v.IsExact := by
  obtain ⟨w, ⟨⟨s, r, -, hw, -⟩, -⟩, rfl⟩ := exists_document_of_classify h
  exact hw.isExact_merged hv

/-- An exact merged value that is not nested too deeply is returned by the run that writes it. -/
theorem classify_text (hexact : v.IsExact) (hmerged : v.merged = v) (hdepth : v.depth ≤ 127) :
    classify (.ok ()) (Utf8.encode v.text) stderr = .ok v := by
  rw [classify_eq_decodeOutput (.inl rfl),
    decodeOutput_of_document (Json.document_text hexact hdepth), hmerged]

/-! ### Documents of responses -/

theorem isExact_toJson_error (c : Int32) (m : String) :
    (Response.error c m).toJson.IsExact := by
  have hlow := c.le_toInt
  have hhigh := c.toInt_lt
  have hcode : (Json.Number.integer c.toInt).IsExact :=
    Json.Number.isExact_integer_iff.mpr ⟨by omega, by omega⟩
  -- the code is the only number
  intro n hn
  obtain rfl : n = .integer c.toInt := List.mem_singleton.mp hn
  exact hcode

theorem isExact_toJson_result (h : v.IsExact) : (Response.result v).toJson.IsExact := by
  rw [Response.toJson, Json.Value.isExact_object_iff]
  intro m hm
  obtain rfl := List.mem_singleton.mp hm
  exact h

theorem depth_toJson_result (v : Value) : (Response.result v).toJson.depth = v.depth + 1 := by
  rw [Response.toJson, Value.depth, Value.membersDepth, Value.membersDepth, Nat.max_zero]

theorem describes_toJson_error (c : Int32) (m : String) :
    Describes (Response.error c m).toJson (.error c m) := by
  refine .error ⟨[], [], rfl, by simp⟩ (.object ?_ ?_)
  · exact ⟨[], [("message", .string m)], rfl, by simp⟩
  · exact ⟨[("code", .int c.toInt)], [], rfl, by simp⟩

theorem describes_toJson_result (h : v.merged = v) :
    Describes (Response.result v).toJson (.result v) := by
  refine .result (fun e c m he _ => ?_) ⟨[], [], rfl, by simp⟩ (Value.mergesTo_iff.mpr h.symm)
  -- there is no other member than the result
  rw [onlyMember_iff] at he
  simp at he

/-! ### Round trips -/

/-- The text of the response is parsed as the response, and printing that gives the text again. -/
def RoundTrips (r : Response) : Prop :=
  Response.parse (Utf8.encode r.text) = .ok r ∧
    (Response.parse (Utf8.encode r.text)).map Response.text = .ok r.text

/-- A response comes back if its document is exact, not nested too deeply, and describes it. -/
theorem roundTrips_of_describes (hexact : r.toJson.IsExact) (hdepth : r.toJson.depth ≤ 127)
    (h : Describes r.toJson r) : RoundTrips r := by
  have hparse : Response.parse (Utf8.encode r.text) = .ok r :=
    (parse_eq_ok_iff (Json.document_text hexact hdepth)).mpr h
  refine ⟨hparse, ?_⟩
  rw [hparse]
  rfl

theorem roundTrips_error (c : Int32) (m : String) : RoundTrips (.error c m) :=
  roundTrips_of_describes (isExact_toJson_error c m) (by decide : 2 ≤ 127)
    (describes_toJson_error c m)

theorem roundTrips_result (hexact : v.IsExact) (hmerged : v.merged = v) (hdepth : v.depth ≤ 126) :
    RoundTrips (.result v) := by
  refine roundTrips_of_describes (isExact_toJson_result hexact) ?_ (describes_toJson_result hmerged)
  rw [depth_toJson_result]
  exact Nat.succ_le_succ hdepth

/-- The response of a value at the greatest depth has one level too many. -/
theorem parse_result_tooDeep (hexact : v.IsExact) (hdepth : v.depth = 127) :
    ∃ u, Response.parse (Utf8.encode (Response.result v).text) =
      .error (.notJson ⟨.tooDeep, u⟩) := by
  -- the response puts one more level around the value
  have hsettles := Json.settles_text (isExact_toJson_result hexact)
  rw [depth_toJson_result, hdepth] at hsettles
  obtain ⟨u, hu⟩ := hsettles.tooDeep (Nat.lt_succ_self 127)
  refine ⟨u, ?_⟩
  rw [Response.parse, Response.text, hu]
  rfl

/-- The text of the response to a failed evaluation is parsed back as that response. So is the text
of the response to a run that returns a value without doubles, if that is nested at most 126 deep.
A run may also return a value that is nested 127 deep, as the run does that writes the value's own
text, but then the text of the response is not parsed: it is nested too deeply, which is an error of
syntax and no early end. -/
theorem parse_text_ofResult :
    (∀ e : Error, RoundTrips (.ofResult (.error e))) ∧
      (∀ outcome stdout stderr v, classify outcome stdout stderr = .ok v → v.NoDouble →
        v.depth ≤ 127 ∧ classify (.ok ()) (Utf8.encode v.text) stderr = .ok v ∧
        (v.depth ≤ 126 → RoundTrips (.ofResult (.ok v))) ∧
        (v.depth = 127 → ∃ f, Response.parse (Utf8.encode (Response.ofResult (.ok v)).text) =
          .error (.notJson f) ∧ f.reason = .tooDeep ∧ f.reason.isEnd = false)) ∧
      ∃ stdout v, classify (.ok ()) stdout [] = .ok v ∧ v.NoDouble ∧ v.depth = 127 := by
  refine ⟨fun e => roundTrips_error e.code e.message, ?_, ?_⟩
  · intro outcome stdout stderr v h hv
    have hexact := isExact_of_classify h hv
    have hmerged := merged_of_classify h
    have hdepth := depth_le_of_classify h
    refine ⟨hdepth, classify_text hexact hmerged hdepth, roundTrips_result hexact hmerged, ?_⟩
    intro hdepth
    obtain ⟨u, hu⟩ := parse_result_tooDeep hexact hdepth
    exact ⟨_, hu, rfl, rfl⟩
  · refine ⟨Utf8.encode (Value.nested 127).text, Value.nested 127, ?_,
      .of_isExact (Value.isExact_nested 127), Value.depth_nested 127⟩
    exact classify_text (Value.isExact_nested 127) (Value.merged_nested 127)
      (Value.depth_nested 127).le

/-- A run that returns 126 nested arrays, and one that returns 127. -/
theorem parse_text_ofResult_nested :
    RoundTrips (.ofResult (.ok (Value.nested 126))) ∧
      ∃ f, Response.parse (Utf8.encode (Response.ofResult (.ok (Value.nested 127))).text) =
        .error (.notJson f) ∧ f.reason = .tooDeep ∧ f.reason.isEnd = false := by
  have hclassify {n : Nat} (hn : n ≤ 127) :
      classify (.ok ()) (Utf8.encode (Value.nested n).text) [] = .ok (Value.nested n) :=
    classify_text (Value.isExact_nested n) (Value.merged_nested n)
      ((Value.depth_nested n).trans_le hn)
  have h (n : Nat) (hn : n ≤ 127) := parse_text_ofResult.2.1 _ _ _ _ (hclassify hn)
    (.of_isExact (Value.isExact_nested n))
  exact ⟨(h 126 (by decide)).2.2.1 (Value.depth_nested 126).le,
    (h 127 le_rfl).2.2.2 (Value.depth_nested 127)⟩

end Evaluation

end ScriptSandbox
