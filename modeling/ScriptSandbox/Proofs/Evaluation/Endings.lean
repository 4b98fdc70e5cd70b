import Mathlib.Data.List.Induction
import Mathlib.Logic.ExistsUnique
import ScriptSandbox.Proofs.Evaluation.Output

/-!
# Endings of runs

A run completes, exits with a code other than zero, is interrupted by the host, or fails in some
other way. On its way out its error may get any number of contexts. They never change how the run
ended, and only the wording of a failure tells them.

## Main definitions

* `Evaluation.RunError.within`: an error with one more context around it
* `Evaluation.Ending`: the ways in which runs end
* `Evaluation.Ends`: how a run ended, looked for inside all contexts

## Main results

* `Evaluation.ends_iff`: every run ended in one way
* `Evaluation.classify_endings`: what the result of a run depends on, ending by ending
-/

namespace ScriptSandbox.Evaluation

/-- An error with one more context around it. -/
def RunError.within (e : RunError) (text : String) : RunError :=
  { e with contexts := e.contexts ++ [text] }

/-- The ways in which runs end. -/
inductive Ending where
  /-- The guest returned or exited with code 0. -/
  | completed
  | exited (code : Int32)
  | interrupted (reason : Interrupt)
  /-- Anything else, in words, and the contexts of the words, the outermost first. -/
  | failed (contexts : List String) (message : String)
  deriving DecidableEq

/-- An ending with one more context around it. Only a failure makes use of it. -/
def Ending.within : Ending → String → Ending
  | .failed contexts message, text => .failed (text :: contexts) message
  | k, _ => k

/-- How a run ended: its innermost error tells, through one context after the other. -/
inductive Ends : Outcome → Ending → Prop
  | returned : Ends (.ok ()) .completed
  | exitZero : Ends (.error ⟨.exit 0, []⟩) .completed
  | exit {code : Int32} (h : code ≠ 0) : Ends (.error ⟨.exit code, []⟩) (.exited code)
  | interrupt (reason : Interrupt) : Ends (.error ⟨.interrupt reason, []⟩) (.interrupted reason)
  | failure (message : String) : Ends (.error ⟨.failure message, []⟩) (.failed [] message)
  | within {e : RunError} {k : Ending} (h : Ends (.error e) k) (text : String) :
    Ends (.error (e.within text)) (k.within text)

variable {outcome : Outcome} {e : RunError} {k : Ending} {stdout stderr : List UInt8}

/-! ### The ending of a run -/

/-- How a run ended that an error stopped. -/
def RunError.ending (e : RunError) : Ending :=
  match e.stop with
  | .exit code => if code = 0 then .completed else .exited code
  | .interrupt reason => .interrupted reason
  | .failure message => .failed e.contexts.reverse message

/-- How a run ended. -/
def Outcome.ending : Outcome → Ending
  | .ok () => .completed
  | .error e => e.ending

theorem RunError.ending_within (e : RunError) (text : String) :
    (e.within text).ending = e.ending.within text := by
  obtain ⟨stop, contexts⟩ := e
  cases stop with
  | exit code =>
    by_cases hcode : code = 0
    · simp [ending, RunError.within, Ending.within, hcode]
    · simp [ending, RunError.within, Ending.within, hcode]
  | interrupt reason => rfl
  | failure message => simp [ending, RunError.within, Ending.within]

theorem Ends.eq_ending (h : Ends outcome k) : k = outcome.ending := by
  induction h with
  | returned | exitZero | interrupt | failure => rfl
  | exit hcode => exact (if_neg hcode).symm
  | within _ text ih =>
    rw [ih]
    exact (RunError.ending_within _ text).symm

/-- An error without contexts tells by itself how the run ended. -/
theorem ends_of_contexts_eq_nil (stop : Stop) :
    Ends (.error ⟨stop, []⟩) (RunError.ending ⟨stop, []⟩) := by
  cases stop with
  | exit code =>
    by_cases hcode : code = 0
    · subst hcode
      exact .exitZero
    · have hending : RunError.ending ⟨.exit code, []⟩ = .exited code := if_neg hcode
      rw [hending]
      exact .exit hcode
  | interrupt reason => exact .interrupt reason
  | failure message => exact .failure message

theorem ends_ending (outcome : Outcome) : Ends outcome outcome.ending := by
  rcases outcome with ⟨stop, contexts⟩ | ⟨⟩
  · -- the contexts are taken off one by one, the outermost first
    induction contexts using List.reverseRecOn with
    | nil => exact ends_of_contexts_eq_nil stop
    | append_singleton contexts text ih =>
      have h : Ends (.error (RunError.within ⟨stop, contexts⟩ text)) _ := ih.within text
      rw [Outcome.ending, ← RunError.ending_within] at h
      exact h
  · exact .returned

/-- Every run ended in one way. -/
theorem ends_iff : Ends outcome k ↔ k = outcome.ending :=
  ⟨Ends.eq_ending, fun h => h ▸ ends_ending outcome⟩

/-! ### The result of a run -/

/-- The wording of a failure inside contexts, the outermost first. -/
def inContexts (contexts : List String) (message : String) : String :=
  contexts.foldr (fun text cause => text ++ ": " ++ cause) message

theorem intercalate_append_singleton (contexts : List String) (message : String) :
    ": ".intercalate (contexts ++ [message]) = inContexts contexts message := by
  induction contexts with
  | nil => simp [inContexts]
  | cons text contexts ih =>
    have hrest : contexts ++ [message] ≠ [] := by simp
    rw [List.cons_append, String.intercalate_cons_of_ne_nil hrest, ih]
    rfl

/-- The result of a run that ended in some way and left these streams. -/
def Ending.result (stdout stderr : List UInt8) : Ending → Result
  | .completed => decodeOutput stdout
  | .exited code => .error (.executionExit code (Utf8.lossy stderr))
  | .interrupted reason => .error (.instantiationFailure reason.message)
  | .failed contexts message => .error (.instantiationFailure (inContexts contexts message))

theorem Ends.classify_eq (h : Ends outcome k) (stdout stderr : List UInt8) :
    classify outcome stdout stderr = k.result stdout stderr := by
  rw [h.eq_ending]
  rcases outcome with ⟨stop, contexts⟩ | ⟨⟩
  · cases stop with
    | exit code =>
      by_cases hcode : code = 0
      · simp [classify, Outcome.ending, RunError.ending, Ending.result, hcode]
      · simp [classify, Outcome.ending, RunError.ending, Ending.result, hcode]
    | interrupt reason => rfl
    | failure message =>
      have hmessage : RunError.message ⟨.failure message, contexts⟩ =
          inContexts contexts.reverse message :=
        intercalate_append_singleton contexts.reverse message
      simp [classify, Outcome.ending, RunError.ending, Ending.result, hmessage]
  · rfl

theorem Ends.code_ne_zero {code : Int32} (h : Ends outcome (.exited code)) : code ≠ 0 := by
  rcases outcome with ⟨stop, contexts⟩ | ⟨⟩
  · cases stop with
    | exit code' =>
      by_cases hcode : code' = 0
      · simpa [Outcome.ending, RunError.ending, hcode] using h.eq_ending
      · have heq : code = code' := by
          simpa [Outcome.ending, RunError.ending, hcode] using h.eq_ending
        exact heq ▸ hcode
    | interrupt | failure => cases h.eq_ending
  · cases h.eq_ending

theorem decodeOutput_cases (stdout : List UInt8) :
    (∃ v, decodeOutput stdout = .ok v) ∨ decodeOutput stdout = .error .outputDecodeFailure := by
  unfold decodeOutput
  split
  next v _ => exact .inl ⟨v.merged, rfl⟩
  next => exact .inr rfl

/-- Every run ended in one way, however many contexts its error got. A completion is a document or
a decoding failure, which the standard output decides alone. An exit with another code than zero is
told with its code and what the guest complained of, whatever it wrote to its standard output. An
interrupt is told with its reason, and any other failure with all its contexts and its message,
whatever the guest wrote. -/
theorem classify_endings (outcome : Outcome) :
    (∃! k, Ends outcome k) ∧
    (Ends outcome .completed → ∀ stdout stderr,
      ((∃ v, classify outcome stdout stderr = .ok v) ∨
        classify outcome stdout stderr = .error .outputDecodeFailure) ∧
      ∀ outcome' stderr', Ends outcome' .completed →
        classify outcome' stdout stderr' = classify outcome stdout stderr) ∧
    (∀ code, Ends outcome (.exited code) → code ≠ 0 ∧ ∀ stdout stderr,
      classify outcome stdout stderr = .error (.executionExit code (Utf8.lossy stderr))) ∧
    (∀ reason, Ends outcome (.interrupted reason) → ∀ stdout stderr,
      classify outcome stdout stderr = .error (.instantiationFailure reason.message)) ∧
    ∀ contexts message, Ends outcome (.failed contexts message) → ∀ stdout stderr,
      classify outcome stdout stderr = .error (.instantiationFailure
        (contexts.foldr (fun text cause => text ++ ": " ++ cause) message)) := by
  refine ⟨⟨outcome.ending, ends_ending outcome, fun k h => h.eq_ending⟩,
    fun h stdout stderr => ?_, fun code h => ⟨h.code_ne_zero, h.classify_eq⟩,
    fun reason h => h.classify_eq, fun contexts message h => h.classify_eq⟩
  rw [h.classify_eq]
  refine ⟨decodeOutput_cases stdout, fun outcome' stderr' h' => ?_⟩
  rw [h'.classify_eq]
  rfl

/-- Contexts are told from the outside in. -/
example : classify (.error ⟨.failure "unreachable", ["in start", "in guest"]⟩) [0x31] [0x32] =
    .error (.instantiationFailure "in guest: in start: unreachable") := rfl

end ScriptSandbox.Evaluation
