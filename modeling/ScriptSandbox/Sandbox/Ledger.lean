/-!
# Live instances

An instance counts as live from its creation to its release. Either is noted in a ledger, with the
evaluation that owns the instance and the count of live instances that it leads to.

## Main definitions

* `Sandbox.Ledger`: the count of live instances and what led to it
* `Sandbox.Ledger.create`, `Sandbox.Ledger.release`: one instance more, one instance less
* `Sandbox.Ledger.created`, `Sandbox.Ledger.released`: whose instances were created and released
-/

namespace ScriptSandbox.Sandbox

/-- What happens to an instance. -/
inductive Change where
  | created
  | released
  deriving Repr, DecidableEq

/-- What happened to the instance of an evaluation, and the count of live instances after it. -/
structure Entry where
  change : Change
  owner : Nat
  live : Int
  deriving Repr, DecidableEq

/-- The owners of the instances to which something happened, the latest first. -/
def owners (change : Change) (entries : List Entry) : List Nat :=
  (entries.filter (·.change = change)).map (·.owner)

/-- The count of live instances and what led to it, the latest entry first. -/
structure Ledger where
  live : Int := 0
  entries : List Entry := []
  deriving Repr, DecidableEq, Inhabited

namespace Ledger

/-- An instance is created. -/
def create (l : Ledger) (owner : Nat) : Ledger where
  live := l.live + 1
  entries := ⟨.created, owner, l.live + 1⟩ :: l.entries

/-- An instance is released. -/
def release (l : Ledger) (owner : Nat) : Ledger where
  live := l.live - 1
  entries := ⟨.released, owner, l.live - 1⟩ :: l.entries

/-- The evaluations whose instances were created. -/
def created (l : Ledger) : List Nat := owners .created l.entries

/-- The evaluations whose instances were released. -/
def released (l : Ledger) : List Nat := owners .released l.entries

end Ledger

end ScriptSandbox.Sandbox
