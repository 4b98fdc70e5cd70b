import ScriptSandbox.Proofs.Sandbox.Likeness
import ScriptSandbox.Proofs.Wasi.Writes

/-!
# What passes between guests and streams

A run passes bytes from the input to its guest and from there to the output by calls of host
functions. A guest that observes neither clocks nor random bytes makes the same calls in the same
order whenever it runs, and gets the same answers.

## Main definitions

* `Sandbox.Exchange`: what a call passes on, and its answer
* `Sandbox.Course.exchanges`: the exchanges of a run so far
* `Sandbox.Course.At`: where a run has come to, and what it has exchanged

## Main results

* `Sandbox.Course.At.runs`, `Sandbox.Course.At.call`, `Sandbox.Course.At.returns`: how a run goes on
  from there
* `Sandbox.Course.Like.exchanges`: runs that are the same but for the time exchange the same
-/

namespace ScriptSandbox.Wasm

/-- The machine runs on by itself, for some number of steps. -/
inductive Runs (p : Program) : Nat → State → State → Prop
  | refl (s : State) : Runs p 0 s s
  | step {n : Nat} {s s' s'' : State} (h : Wasm.step p s = .next s') (h' : Runs p n s' s'') :
    Runs p (n + 1) s s''

theorem Runs.trans {p : Program} {n n' : Nat} {s s' s'' : State} (h : Runs p n s s')
    (h' : Runs p n' s' s'') : Runs p (n + n') s s'' := by
  induction h with
  | refl => rwa [Nat.zero_add]
  | step hstep _ ih =>
    rw [Nat.add_right_comm]
    exact .step hstep (ih h')

end ScriptSandbox.Wasm

namespace ScriptSandbox.Sandbox

open Wasm (Value)

variable {c : Settings} {g : Guest} {k k' : Course} {m m' : Moment} {s s' : Wasm.State}
  {r : Wasi.Resources} {clock n : Nat}

/-- What a call of a host function passes from the input and to the output, and its answer. -/
structure Exchange where
  function : Wasi.Function
  /-- The bytes that are gone from the input. -/
  taken : List UInt8
  /-- The bytes that are passed to the standard output. -/
  passed : List UInt8
  results : List Value

/-- The exchange of a call that is answered. -/
def Call.exchange? (w : Wasi.World) (x : Call) : Option Exchange :=
  x.process?.bind fun p => (Wasi.call w x.function x.args p).toOption.map fun (results, q) =>
    { function := x.function
      taken := p.unread.take (p.unread.length - q.unread.length)
      passed := x.function.outgoing x.args p
      results }

/-- The exchange at a moment. -/
def Moment.exchange? (w : Wasi.World) (g : Guest) (m : Moment) : Option Exchange :=
  (m.call? g).bind (·.exchange? w)

theorem Moment.exchange?_of_not_host {w : Wasi.World}
    (h : ∀ index args s, m.step ≠ .host index args s) : m.exchange? w g = none := by
  rw [exchange?, call?_eq_none_of_not_host h, Option.bind_none]

namespace Course

/-- The exchanges of a run so far, in order. -/
def exchanges (w : Wasi.World) (g : Guest) (k : Course) : List Exchange :=
  k.moments.reverse.filterMap (·.exchange? w g)

/-- What a run exchanges later comes behind what it has exchanged. -/
theorem exchanges_of_suffix (h : k.moments <:+ k'.moments) (w : Wasi.World) (g : Guest) :
    k.exchanges w g <+: k'.exchanges w g := (List.reverse_prefix.mpr h).filterMap _

/-! ### How runs go on -/

/-- A run has called `_start` and come to a state, and has exchanged something on the way. -/
structure At (c : Settings) (g : Guest) (s : Wasm.State) (r : Wasi.Resources) (clock : Nat)
    (xs : List Exchange) (k : Course) : Prop where
  progress : k.progress = .running ⟨s, r, false, clock⟩
  exchanges : k.exchanges c.world g = xs

namespace At

variable {xs : List Exchange}

/-- After `_start` was called, one step adds one moment. -/
theorem go_eq (h : k.At c g s r clock xs) :
    k.go c g = ⟨⟨r, false, clock + stepTime, Wasm.step g.program s⟩ :: k.moments,
      proceed c g r false (clock + stepTime) (Wasm.step g.program s)⟩ := by
  have hnext : Moment.next? g (Instance.moment g ⟨s, r, false, clock⟩) = none :=
    Moment.next?_eq_none_of_not_starting rfl
  rw [go_of_running h.progress, withNext, hnext, Option.toList_none, List.nil_append,
    List.singleton_append, Moment.progress, Instance.moment]
  generalize Wasm.step g.program s = step
  cases step with
  | next | host | trapped | stuck | returned => rfl

theorem exchanges_go (h : k.At c g s r clock xs) :
    (k.go c g).exchanges c.world g = xs ++
      (Moment.exchange? c.world g ⟨r, false, clock + stepTime, Wasm.step g.program s⟩).toList := by
  rw [h.go_eq, Course.exchanges, List.reverse_cons, List.filterMap_append, ← h.exchanges,
    Course.exchanges, List.filterMap_cons]
  split
  next hnone =>
    rw [hnone]
    rfl
  next x hsome =>
    rw [hsome]
    rfl

/-- A step by which the machine runs on. -/
theorem next (h : k.At c g s r clock xs) (hstep : Wasm.step g.program s = .next s') :
    (k.go c g).At c g s' r (clock + stepTime) xs where
  progress := by rw [h.go_eq, hstep]; rfl
  exchanges := by
    rw [h.exchanges_go, Moment.exchange?_of_not_host (by simp [hstep]), Option.toList_none,
      List.append_nil]

/-- As many steps as the machine runs on by itself. -/
theorem runs (h : k.At c g s r clock xs) (hruns : Wasm.Runs g.program n s s') :
    ((go c g)^[n] k).At c g s' r (clock + stepTime * n) xs := by
  induction hruns generalizing k clock with
  | refl => exact h
  | step hstep _ ih =>
    have hnext := ih (h.next hstep)
    rw [Nat.add_assoc, Nat.add_comm stepTime, ← Nat.mul_succ] at hnext
    exact hnext

/-- A step by which a host function is called that answers. -/
theorem call {index i : Nat} {args results : List Value} {f : Wasi.Function} {memory : Wasm.Memory}
    {q : Wasi.Process} (h : k.At c g s r clock xs)
    (hstep : Wasm.step g.program s = .host index args s') (hf : g.imports[index]? = some f)
    (hi : g.memory? = some i) (hmemory : s'.store.memories[i]? = some memory)
    (hcall : Wasi.call c.world f args { r with memory, clock := clock + stepTime } =
      .ok (results, q)) :
    (k.go c g).At c g ({ s' with
        store := s'.store.modifyMemory i fun _ => q.memory }.resume results) q.toResources q.clock
      (xs ++ [{ function := f
                taken := r.unread.take (r.unread.length - q.unread.length)
                passed := f.outgoing args { r with memory, clock := clock + stepTime }
                results }]) where
  progress := by
    rw [h.go_eq, hstep]
    simp only [proceed, callHost, hf, hi, Option.bind_some, hmemory, Option.map_some, hcall]
  exchanges := by
    rw [h.exchanges_go]
    simp only [Moment.exchange?, Moment.call?, hstep, hf, hi, Option.bind_some, hmemory,
      Option.map_some, Call.exchange?, hcall, Except.toOption, Option.toList]

/-- A step by which `_start` returns. -/
theorem returns {store : Wasm.Store} {results : List Value} (h : k.At c g s r clock xs)
    (hstep : Wasm.step g.program s = .returned store results) :
    (k.go c g).progress = endRun r (clock + stepTime) (.ok ()) ∧
      (k.go c g).exchanges c.world g = xs := by
  constructor
  · rw [h.go_eq, hstep]
    rfl
  · rw [h.exchanges_go, Moment.exchange?_of_not_host (by simp [hstep]), Option.toList_none,
      List.append_nil]

end At

end Course

/-! ### Runs at other times -/

/-- A call that observes neither clocks nor random bytes passes on the same at any time and in any
world. -/
theorem Call.exchange?_eq {f : Wasi.Function} {args : List Value} {p p' : Wasi.Process}
    (hobs : ¬ f.Observes args p) (h : Wasi.SameButEarlier p p') (w w' : Wasi.World) :
    Call.exchange? w' ⟨f, args, some p'⟩ = Call.exchange? w ⟨f, args, some p⟩ := by
  have hunread : p'.unread = p.unread := congrArg (·.unread) h.resources
  have hpassed : f.outgoing args p' = f.outgoing args p :=
    Wasi.outgoing_congr (congrArg (·.descriptors) h.resources) h.memory
  have halike : Wasi.Alike Wasi.SameButEarlier (Wasi.call w f args p) (Wasi.call w' f args p') :=
    Wasi.alike_call_of_not_observes hobs h
  unfold Call.exchange?
  simp only [Option.bind_some, hpassed, hunread]
  generalize Wasi.call w f args p = answer, Wasi.call w' f args p' = answer' at halike
  cases halike with
  | aborted a => rfl
  | answered results hq =>
    have hleft := congrArg (·.unread) hq.resources
    simp only [Except.toOption, Option.map_some, hleft]

/-- At the same moment, the same call is made. -/
theorem Moment.Like.call? (h : m.Like m') :
    m'.call? g = (m.call? g).map fun x =>
      { x with process? := x.process?.map ({ · with clock := m'.clock }) } := by
  unfold Moment.call?
  rw [h.step, h.resources]
  split
  next => simp only [Option.map_map, Function.comp_def]
  next => rfl

theorem Moment.Like.exchange? (h : m.Like m') (hobs : ¬ m.Observes g) (w w' : Wasi.World) :
    m'.exchange? w' g = m.exchange? w g := by
  unfold Moment.Observes at hobs
  rw [Moment.exchange?, Moment.exchange?, h.call?]
  cases hcall : m.call? g with
  | none => simp only [Option.map_none, Option.bind_none]
  | some x =>
    obtain ⟨f, args, p?⟩ := x
    simp only [Option.map_some, Option.bind_some]
    cases p? with
    | none => simp only [Option.map_none, Call.exchange?, Option.bind_none]
    | some p =>
      obtain ⟨-, -, -, -, -, -, -, -, hclock⟩ := of_call?_eq_some hcall
      have hsame : Wasi.SameButEarlier p { p with clock := m'.clock } :=
        ⟨rfl, rfl, hclock ▸ h.clock⟩
      exact Call.exchange?_eq (fun hobserves => hobs ⟨f, args, p, hcall, hobserves⟩) hsame w w'

/-- Runs that are the same but for the time exchange the same. -/
theorem Course.Like.exchanges (h : k.Like k') (hobs : ∀ m ∈ k.moments, ¬ m.Observes g)
    (w w' : Wasi.World) : k'.exchanges w' g = k.exchanges w g := by
  have hall : ∀ {ms ms' : List Moment}, List.Forall₂ Moment.Like ms ms' →
      (∀ m ∈ ms, ¬ m.Observes g) →
      ms'.filterMap (·.exchange? w' g) = ms.filterMap (·.exchange? w g) := by
    intro ms ms' hms
    induction hms with
    | nil => exact fun _ => List.filterMap_nil.trans List.filterMap_nil.symm
    | cons hm _ ih =>
      intro hobs
      obtain ⟨hfirst, hrest⟩ := List.forall_mem_cons.mp hobs
      rw [List.filterMap_cons, List.filterMap_cons, hm.exchange? hfirst w w', ih hrest]
  rw [Course.exchanges, Course.exchanges, List.filterMap_reverse, List.filterMap_reverse,
    hall h.moments hobs]

end ScriptSandbox.Sandbox
