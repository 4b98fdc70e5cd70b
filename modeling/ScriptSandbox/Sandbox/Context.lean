import ScriptSandbox.Evaluation.Outcome

/-!
# Contexts

An evaluation is bound to a context: a deadline and a token through which it can be canceled. Tokens
form a forest. A token counts as canceled when it or a token above it has been canceled.

## Main definitions

* `Sandbox.Tokens`: a forest of tokens
* `Sandbox.Tokens.isCanceled`: whether a token counts as canceled
* `Sandbox.Context`: a deadline and a token
* `Sandbox.Context.done`: why a context can no longer run anything
-/

namespace ScriptSandbox.Sandbox

open Evaluation (Interrupt)

/-- A token: the token above it, and whether it has been canceled itself. -/
structure Token where
  parent : Option Nat
  canceled : Bool
  deriving Repr, DecidableEq

/-- A forest of tokens. A token is known by its place, which is after that of its parent. -/
structure Tokens where
  tokens : Array Token := #[]
  deriving Repr, DecidableEq, Inhabited

namespace Tokens

/-- A new token without a parent. -/
def add (ts : Tokens) : Nat × Tokens := (ts.tokens.size, ⟨ts.tokens.push ⟨none, false⟩⟩)

/-- A new token below another one. -/
def addChild (ts : Tokens) (parent : Nat) : Nat × Tokens :=
  (ts.tokens.size, ⟨ts.tokens.push ⟨some parent, false⟩⟩)

/-- Cancels a token. -/
def cancel (ts : Tokens) (t : Nat) : Tokens :=
  ⟨ts.tokens.modify t fun token => { token with canceled := true }⟩

/-- Whether a token counts as canceled. -/
def isCanceled (ts : Tokens) (t : Nat) : Bool :=
  match ts.tokens[t]? with
  | none => false
  | some token =>
    token.canceled ||
      match token.parent with
      | none => false
      | some p => if p < t then ts.isCanceled p else false
termination_by t

end Tokens

/-- What an evaluation is bound to. Two contexts with one token are clones of each other. -/
structure Context where
  /-- The time of the deadline, in nanoseconds. -/
  deadline : Nat
  token : Nat
  deriving Repr, DecidableEq, Inhabited

/-- Why a context can no longer run anything, if so. Being canceled counts before the deadline. -/
def Context.done (x : Context) (ts : Tokens) (now : Nat) : Option Interrupt :=
  if ts.isCanceled x.token then some .canceled
  else if x.deadline ≤ now then some .deadlineExceeded
  else none

end ScriptSandbox.Sandbox
