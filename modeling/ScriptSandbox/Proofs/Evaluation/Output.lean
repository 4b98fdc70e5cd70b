import ScriptSandbox.Evaluation.Outcome
import ScriptSandbox.Proofs.Json.Documents
import ScriptSandbox.Proofs.Json.Merging

/-!
# Results of completed runs

The result of a completed run is decided by its standard output alone. It is the document that the
grammar assigns to the output, with repeated members resolved, or else a decoding failure.

## Main definitions

* `Evaluation.Completed`: the outcomes that count as completions

## Main results

* `Evaluation.classify_completed`: the result of a completed run in terms of the grammar
* `Evaluation.exists_document_of_classify`: every result that is a document comes from a text of it
-/

namespace ScriptSandbox.Evaluation

open Json (Document Value)

variable {outcome : Outcome} {stdout stderr : List UInt8} {v w : Value}

/-- The guest returned, or it exited with code 0, inside any contexts. -/
def Completed (outcome : Outcome) : Prop :=
  outcome = .ok () ∨ ∃ contexts, outcome = .error ⟨.exit 0, contexts⟩

theorem classify_eq_decodeOutput (h : Completed outcome) :
    classify outcome stdout stderr = decodeOutput stdout := by
  rcases h with rfl | ⟨contexts, rfl⟩
  · rfl
  · rfl

/-- An outcome that is no completion has an error as its result. -/
theorem completed_of_classify (h : classify outcome stdout stderr = .ok v) :
    Completed outcome := by
  rcases outcome with ⟨stop, contexts⟩ | ⟨⟩
  · cases stop with
    | exit code =>
      -- contexts do not matter, the code does
      by_cases hcode : code = 0
      · exact .inr ⟨contexts, by rw [hcode]⟩
      · simp [classify, hcode] at h
    | interrupt reason => simp [classify] at h
    | failure message => simp [classify] at h
  · exact .inl rfl

theorem decodeOutput_of_document (h : Document stdout w) : decodeOutput stdout = .ok w.merged := by
  rw [decodeOutput, Json.read_eq_ok_iff.mpr h]

theorem decodeOutput_of_not_document (h : ∀ w, ¬ Document stdout w) :
    decodeOutput stdout = .error .outputDecodeFailure := by
  rw [decodeOutput]
  split
  next w hw => exact absurd (Json.read_eq_ok_iff.mp hw) (h w)
  next => rfl

theorem decodeOutput_eq_ok_iff :
    decodeOutput stdout = .ok v ↔ ∃ w, Document stdout w ∧ w.MergesTo v := by
  constructor
  · intro h
    by_cases hdoc : ∃ w, Document stdout w
    · obtain ⟨w, hw⟩ := hdoc
      rw [decodeOutput_of_document hw] at h
      exact ⟨w, hw, Value.mergesTo_iff.mpr (Except.ok.inj h).symm⟩
    · rw [decodeOutput_of_not_document (not_exists.mp hdoc)] at h
      cases h
  · rintro ⟨w, hw, hmerge⟩
    rw [decodeOutput_of_document hw, Value.mergesTo_iff.mp hmerge]

/-- No bytes at all are no document. -/
theorem not_document_nil : ¬ Document [] w := by
  rintro ⟨⟨s, r, hs, hv, -⟩, -⟩
  have hlen := hs.length_le
  have hlen' := hv.length_lt
  rw [List.length_nil] at hlen
  omega

/-- A completed run returns exactly the document that its standard output is a text of, the last of
repeated members kept. On every other output, the empty one included, decoding fails. -/
theorem classify_completed (h : Completed outcome) (stdout stderr : List UInt8) :
    (∀ v, classify outcome stdout stderr = .ok v ↔ ∃ w, Document stdout w ∧ w.MergesTo v) ∧
      ((∀ w, ¬ Document stdout w) →
        classify outcome stdout stderr = .error .outputDecodeFailure) ∧
      classify outcome [] stderr = .error .outputDecodeFailure := by
  refine ⟨fun v => ?_, fun hdoc => ?_, ?_⟩
  · rw [classify_eq_decodeOutput h]
    exact decodeOutput_eq_ok_iff
  · rw [classify_eq_decodeOutput h]
    exact decodeOutput_of_not_document hdoc
  · rw [classify_eq_decodeOutput h]
    exact decodeOutput_of_not_document fun w => not_document_nil

/-- An exit with code 0 inside a context, with the output ` [1, "é\u00e9"]` and a line feed. -/
theorem classify_completed_exit :
    Completed (.error ⟨.exit 0, ["failed to invoke command default"]⟩) ∧
      (∃ w, Document
          [0x20, 0x5B, 0x31, 0x2C, 0x20, 0x22, 0xC3, 0xA9, 0x5C, 0x75, 0x30, 0x30, 0x65, 0x39, 0x22,
            0x5D, 0x0A] w ∧
        w.MergesTo (.array [.int 1, .string "éé"])) ∧
      classify (.error ⟨.exit 0, ["failed to invoke command default"]⟩) [] [] =
        .error .outputDecodeFailure := by
  have h : Completed (.error ⟨.exit 0, ["failed to invoke command default"]⟩) := .inr ⟨_, rfl⟩
  refine ⟨h, ((classify_completed h _ []).1 _).mp rfl, (classify_completed h [] []).2.2⟩

/-- A result that is a document is the merged form of a value that some text denotes. -/
theorem exists_document_of_classify (h : classify outcome stdout stderr = .ok v) :
    ∃ w, Document stdout w ∧ v = w.merged := by
  rw [classify_eq_decodeOutput (completed_of_classify h)] at h
  obtain ⟨w, hw, hmerge⟩ := decodeOutput_eq_ok_iff.mp h
  exact ⟨w, hw, Value.mergesTo_iff.mp hmerge⟩

end ScriptSandbox.Evaluation
