import ScriptSandbox.Proofs.Json.Merging
import ScriptSandbox.Proofs.Sandbox.LiveInstances
import ScriptSandbox.Tool.EvalScript

/-!
# Arguments of the evaluation tool

Arguments give a source by a member of an object or by the only item of an array. Whatever else the
object holds does not matter. If they give one, the tool evaluates it and answers with what has come
of it, a value or a failure. If they do not, the tool refuses them, and the session is as it was.

## Main definitions

* `Tool.EvalScript.Gives`: arguments give a source
* `Tool.EvalScript.Reports`: a document reports what has come of an evaluation

## Main results

* `Tool.EvalScript.source_eq_ok_iff`: the source that is found is the one that is given
* `Tool.EvalScript.source_object_congr`: other members do not matter
* `Tool.EvalScript.executeM_of_gives`, `Tool.EvalScript.run_executeM_of_not_gives`: what the tool
  does
-/

namespace ScriptSandbox.Tool.EvalScript

open Json (Mistake Value)
open Sandbox (Session)

variable {params params' v w : Value} {code : String} {ms ms' : List (String × Value)}

/-! ### Sources -/

/-- The arguments give a source: an object does so by its member `code`, the last one if there are
several, and an array by its only item. -/
inductive Gives (code : String) : Value → Prop where
  | member (ms : List (String × Value)) {later : List (String × Value)}
      (h : ∀ m ∈ later, m.1 ≠ "code") : Gives code (.object (ms ++ ("code", .string code) :: later))
  | item : Gives code (.array [.string code])

theorem asString_eq_ok_iff : v.asString = .ok code ↔ v = .string code := by
  cases v with
  | string s => exact ⟨fun h => congrArg Value.string (Except.ok.inj h), fun h => by rw [h]; rfl⟩
  | _ => exact ⟨fun h => (nomatch h), fun h => (nomatch h)⟩

theorem merged_eq_string_iff : v.merged = .string code ↔ v = .string code := by
  cases v with
  | _ => simp [Value.merged]

theorem lookup_mergedMembers (ms : List (String × Value)) (k : String) :
    (Value.mergedMembers ms).reverse.lookup k = (ms.reverse.lookup k).map Value.merged := by
  rw [Value.mergedMembers_eq_map, ← List.map_reverse]
  induction ms.reverse with
  | nil => rfl
  | cons m ms ih =>
    obtain ⟨k', v⟩ := m
    rw [List.map_cons, List.lookup_cons, List.lookup_cons, ih]
    cases k == k' with
    | true => rfl
    | false => rfl

/-- The last member of a name, by where it stands. -/
theorem lookup_reverse_eq_some_iff {k : String} :
    ms.reverse.lookup k = some v ↔
      ∃ earlier later, ms = earlier ++ (k, v) :: later ∧ ∀ m ∈ later, m.1 ≠ k := by
  rw [List.lookup_eq_some_iff]
  constructor
  · rintro ⟨later, earlier, hms, hlater⟩
    refine ⟨earlier.reverse, later.reverse, ?_, fun m hm => ?_⟩
    · rw [← List.reverse_reverse ms, hms]
      simp
    · have hne := hlater m (List.mem_reverse.mp hm)
      exact (bne_iff_ne.mp hne).symm
  · rintro ⟨earlier, later, rfl, hlater⟩
    refine ⟨later.reverse, earlier.reverse, by simp, fun m hm => ?_⟩
    exact bne_iff_ne.mpr (hlater m (List.mem_reverse.mp hm)).symm

/-- Of an object, only the last member of the name counts. -/
theorem source_object (ms : List (String × Value)) :
    source (.object ms) = match ms.reverse.lookup "code" with
      | some v => v.merged.asString
      | none => .error (.missingField "code") := by
  have hlookup : (Value.mergeMembers (Value.mergedMembers ms)).lookup "code" =
      (ms.reverse.lookup "code").map Value.merged := by
    rw [Value.lookup_mergeMembers, lookup_mergedMembers]
  rw [source, Value.merged]
  dsimp only
  rw [hlookup]
  cases ms.reverse.lookup "code" with
  | none => rfl
  | some v => rfl

/-- Objects with the same last member of the name are the same as arguments. -/
theorem source_object_congr (h : ms.reverse.lookup "code" = ms'.reverse.lookup "code") :
    source (.object ms) = source (.object ms') := by
  rw [source_object, source_object, h]

theorem source_object_eq_ok_iff :
    source (.object ms) = .ok code ↔ ms.reverse.lookup "code" = some (.string code) := by
  rw [source_object]
  cases ms.reverse.lookup "code" with
  | none => exact ⟨fun h => (nomatch h), fun h => (nomatch h)⟩
  | some v => exact asString_eq_ok_iff.trans (merged_eq_string_iff.trans Option.some_inj.symm)

theorem source_array_eq_ok_iff {vs : List Value} :
    source (.array vs) = .ok code ↔ vs = [.string code] := by
  match vs with
  | [] => exact ⟨fun h => (nomatch h), fun h => (nomatch h)⟩
  | [v] =>
    have hsource : source (.array [v]) = v.merged.asString := by
      unfold source
      rw [Value.merged, Value.mergedItems, Value.mergedItems]
      dsimp only
      cases v.merged.asString with
      | error m => rfl
      | ok s => rfl
    rw [hsource, asString_eq_ok_iff, merged_eq_string_iff, List.singleton_inj]
  | v :: v' :: vs =>
    refine ⟨fun h => ?_, fun h => (nomatch h)⟩
    rw [source, Value.merged, Value.mergedItems, Value.mergedItems] at h
    dsimp only at h
    cases hs : v.merged.asString with
    | error m =>
      rw [hs] at h
      exact nomatch h
    | ok s =>
      rw [hs] at h
      exact nomatch h

/-- The source that is found is the one that is given. -/
theorem source_eq_ok_iff : source params = .ok code ↔ Gives code params := by
  constructor
  · intro h
    cases params with
    | object ms =>
      obtain ⟨earlier, later, rfl, hlater⟩ :=
        lookup_reverse_eq_some_iff.mp (source_object_eq_ok_iff.mp h)
      exact .member earlier hlater
    | array vs =>
      rw [source_array_eq_ok_iff.mp h]
      exact .item
    | null | bool | number | string => exact nomatch h
  · rintro (⟨earlier, hlater⟩ | -)
    · exact source_object_eq_ok_iff.mpr (lookup_reverse_eq_some_iff.mpr ⟨earlier, _, rfl, hlater⟩)
    · exact source_array_eq_ok_iff.mpr rfl

theorem exists_source_eq_error (h : ¬ ∃ code, Gives code params) :
    ∃ m, source params = .error m := by
  cases hsource : source params with
  | error m => exact ⟨m, rfl⟩
  | ok code => exact absurd ⟨code, source_eq_ok_iff.mp hsource⟩ h

/-! ### Answers -/

/-- A document reports what has come of an evaluation: it is an object with the value as its only
member, or with the code and the message of the failure. -/
inductive Reports : Evaluation.Result → Value → Prop where
  | value (v : Value) : Reports (.ok v) (.object [("result", v)])
  | failure (e : Evaluation.Error) :
      Reports (.error e) (.object
        [("error", .object [("code", .int e.code.toInt), ("message", .string e.message)])])

theorem exists_answer_eq (r : Evaluation.Result) : ∃ w, answer r = .ok w ∧ Reports r w := by
  cases r with
  | ok v => exact ⟨_, rfl, .value v⟩
  | error e => exact ⟨_, rfl, .failure e⟩

/-! ### What the tool does -/

section Execution

variable {m : Type → Type} [Monad m] (evaluate : String → m Evaluation.Result)

/-- The tool evaluates the source that it is given, and that is all it does. -/
theorem executeM_of_gives (h : Gives code params) :
    executeM evaluate params = do return answer (← evaluate code) := by
  rw [executeM, source_eq_ok_iff.mpr h]

/-- The tool does nothing if it is given no source. -/
theorem exists_executeM_of_not_gives (h : ¬ ∃ code, Gives code params) :
    ∃ reason, executeM evaluate params = pure (.error (.invalidParams reason)) := by
  obtain ⟨m, hm⟩ := exists_source_eq_error h
  exact ⟨m.message, by rw [executeM, hm]⟩

theorem executeM_congr (h : source params = source params') :
    executeM evaluate params = executeM evaluate params' := by
  rw [executeM, executeM, h]

end Execution

variable {s : Session} {shutdown : Nat}

/-- An evaluation in a session is begun there and has returned in the end. -/
theorem stage_evaluateIn (s : Session) (shutdown : Nat) (code : String) :
    ((evaluateIn shutdown code).run s).2.stage s.runs.size =
      .returned ((evaluateIn shutdown code).run s).1 :=
  Session.stage_evaluateWithin (s.childContext shutdown s.deadline).2 s.evaluator.limits
    (s.childContext shutdown s.deadline).1 code

/-- Given a source, the tool evaluates it in the session and reports what has come of it. -/
theorem run_executeM_of_gives (h : Gives code params) (s : Session) (shutdown : Nat) :
    let executed := (executeM (evaluateIn shutdown) params).run s
    ∃ result w, (evaluateIn shutdown code).run s = (result, executed.2) ∧
      executed.2.stage s.runs.size = .returned result ∧ Reports result w ∧ executed.1 = .ok w := by
  have hstage := stage_evaluateIn s shutdown code
  rw [executeM_of_gives _ h]
  generalize evaluateIn shutdown code = evaluation at hstage ⊢
  obtain ⟨w, hw, hreports⟩ := exists_answer_eq (evaluation.run s).1
  exact ⟨(evaluation.run s).1, w, rfl, hstage, hreports, hw⟩

/-- Given none, it refuses the arguments, and the session is as it was. -/
theorem run_executeM_of_not_gives (h : ¬ ∃ code, Gives code params) (s : Session)
    (shutdown : Nat) : ∃ reason, (executeM (evaluateIn shutdown) params).run s =
      (.error (.invalidParams reason), s) := by
  obtain ⟨reason, hreason⟩ := exists_executeM_of_not_gives (evaluateIn shutdown) h
  exact ⟨reason, by rw [hreason]; rfl⟩

/-- Arguments are refused exactly if they do not give a source. -/
theorem exists_refusal_iff (params : Value) (s : Session) (shutdown : Nat) :
    (∃ reason, ((executeM (evaluateIn shutdown) params).run s).1 =
      .error (.invalidParams reason)) ↔ ¬ ∃ code, Gives code params := by
  constructor
  · rintro ⟨reason, hreason⟩ ⟨code, h⟩
    obtain ⟨result, w, -, -, -, hw⟩ := run_executeM_of_gives h s shutdown
    cases hreason.symm.trans hw
  · intro h
    obtain ⟨reason, hexecuted⟩ := run_executeM_of_not_gives h s shutdown
    exact ⟨reason, congrArg Prod.fst hexecuted⟩

/-- The session is as it was exactly if there is nothing to evaluate. -/
theorem run_executeM_snd_eq_iff (params : Value) (s : Session) (shutdown : Nat) :
    ((executeM (evaluateIn shutdown) params).run s).2 = s ↔ ¬ ∃ code, Gives code params := by
  constructor
  · rintro hsame ⟨code, h⟩
    have hfresh : s.stage s.runs.size = .fresh := by
      rw [Session.stage, Array.getElem?_eq_none (Nat.le_refl _)]
      rfl
    obtain ⟨result, w, -, hstage, -, -⟩ := run_executeM_of_gives h s shutdown
    rw [hsame, hfresh] at hstage
    cases hstage
  · intro h
    obtain ⟨reason, hexecuted⟩ := run_executeM_of_not_gives h s shutdown
    exact congrArg Prod.snd hexecuted

/-- The tool has no internal errors. -/
theorem run_executeM_ne_internal (params : Value) (s : Session) (shutdown : Nat)
    (reason : String) :
    ((executeM (evaluateIn shutdown) params).run s).1 ≠ .error (.internal reason) := by
  intro hreason
  by_cases h : ∃ code, Gives code params
  · obtain ⟨code, h⟩ := h
    obtain ⟨result, w, -, -, -, hw⟩ := run_executeM_of_gives h s shutdown
    cases hreason.symm.trans hw
  · obtain ⟨reason', hexecuted⟩ := run_executeM_of_not_gives h s shutdown
    cases hreason.symm.trans (congrArg Prod.fst hexecuted)

end ScriptSandbox.Tool.EvalScript
