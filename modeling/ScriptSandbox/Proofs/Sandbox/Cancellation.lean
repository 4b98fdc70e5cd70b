import Mathlib.Data.List.Induction
import ScriptSandbox.Proofs.Sandbox.Later

/-!
# What cancels a context

The operations on a session make tokens, each of which is known by the number of those made before
it, and cancel some of them, in any order. A context is canceled exactly if its token, or one that
this stands below, was canceled at some time, be it before the context was made. What happens to a
token therefore concerns only the contexts below it.

## Main definitions

* `Sandbox.parents`: the tokens that operations make
* `Sandbox.Below`: a token stands below another one
* `Sandbox.CanceledIn`: the operations cancel a token

## Main results

* `Sandbox.Session.done_eq_canceled_iff`, `Sandbox.Session.done_eq_deadlineExceeded_iff`: when a
  context is done, and why
* `Sandbox.Session.done_cancel_of_not_below`: a cancellation does not concern other contexts
-/

namespace ScriptSandbox.Sandbox

open Evaluation (Interrupt)

namespace Operation

/-- The parent of the token that an operation makes, if it makes one. -/
def made? : Operation → Option (Option Nat)
  | .context _ | .token => some none
  | .childContext parent _ => some (some parent)
  | _ => none

/-- What an operation does to the tokens. -/
def onTokens (ts : Tokens) : Operation → Tokens
  | .context _ | .token => ts.add.2
  | .childContext parent _ => (ts.addChild parent).2
  | .cancel t => ts.cancel t
  | _ => ts

end Operation

variable {ops : List Operation} {op : Operation} {ts : Tokens} {t u p a : Nat}

/-! ### Histories of tokens -/

/-- The parents of the tokens that operations make, in the order of their making. -/
def parents (ops : List Operation) : List (Option Nat) := ops.filterMap Operation.made?

/-- The token `t` was made as a child of `p`, which was there before. -/
def IsChild (ops : List Operation) (t p : Nat) : Prop :=
  (parents ops)[t]? = some (some p) ∧ p < t

/-- The token `t` is `a` or stands below it. -/
inductive Below (ops : List Operation) : Nat → Nat → Prop
  | refl (t : Nat) : Below ops t t
  | child {t p a : Nat} (hparent : IsChild ops t p) (h : Below ops p a) : Below ops t a

/-- One of the operations cancels the token `t`, which is there by then. -/
def CanceledIn (ops : List Operation) (t : Nat) : Prop :=
  ∃ pre post, ops = pre ++ .cancel t :: post ∧ t < (parents pre).length

/-- The operations cancel the token `t` or one that it stands below. -/
def CanceledAbove (ops : List Operation) (t : Nat) : Prop :=
  ∃ a, Below ops t a ∧ CanceledIn ops a

theorem parents_append (ops ops' : List Operation) :
    parents (ops ++ ops') = parents ops ++ parents ops' := List.filterMap_append

theorem canceledIn_append_singleton : CanceledIn (ops ++ [op]) t ↔
    CanceledIn ops t ∨ op = .cancel t ∧ t < (parents ops).length := by
  constructor
  · rintro ⟨pre, post, hsplit, hlt⟩
    -- the cancellation is the last operation, or it stands before it
    rcases List.eq_nil_or_concat post with rfl | ⟨post, last, rfl⟩
    · obtain ⟨rfl, hop⟩ := List.append_inj' hsplit rfl
      exact .inr ⟨List.singleton_inj.mp hop, hlt⟩
    · rw [List.concat_eq_append, ← List.cons_append, ← List.append_assoc] at hsplit
      exact .inl ⟨pre, post, (List.append_inj' hsplit rfl).1, hlt⟩
  · rintro (⟨pre, post, rfl, hlt⟩ | ⟨rfl, hlt⟩)
    · exact ⟨pre, post ++ [op], by simp, hlt⟩
    · exact ⟨ops, [], rfl, hlt⟩

theorem CanceledIn.lt_length (h : CanceledIn ops t) : t < (parents ops).length := by
  obtain ⟨pre, post, rfl, hlt⟩ := h
  rw [parents_append, List.length_append]
  exact Nat.lt_add_right _ hlt

theorem Below.le (h : Below ops t a) : a ≤ t := by
  induction h with
  | refl => exact Nat.le_refl _
  | child hparent _ ih => exact Nat.le_trans ih (Nat.le_of_lt hparent.2)

/-- The tokens are those that operations made, and the canceled ones those that they canceled. -/
structure Records (ops : List Operation) (ts : Tokens) : Prop where
  size : ts.tokens.size = (parents ops).length
  parent : ∀ (t : Nat) (token : Token), ts.tokens[t]? = some token → (parents ops)[t]? = some token.parent
  canceled : ∀ (t : Nat) (token : Token), ts.tokens[t]? = some token →
    (token.canceled = true ↔ CanceledIn ops t)

theorem records_nil : Records [] {} where
  size := rfl
  parent t token h := by simp at h
  canceled t token h := by simp at h

/-- A token that is made is recorded as the last one. -/
theorem Records.push {parent : Option Nat} (h : Records ops ts) (hmade : op.made? = some parent) :
    Records (ops ++ [op]) ⟨ts.tokens.push ⟨parent, false⟩⟩ := by
  have hparents : parents (ops ++ [op]) = parents ops ++ [parent] := by
    rw [parents_append, parents, parents, List.filterMap_cons_some hmade, List.filterMap_nil]
  have hcanceled (t : Nat) : CanceledIn (ops ++ [op]) t ↔ CanceledIn ops t := by
    rw [canceledIn_append_singleton, or_iff_left]
    rintro ⟨rfl, -⟩
    cases hmade
  refine ⟨by simp [hparents, h.size], fun t token ht => ?_, fun t token ht => ?_⟩
  · rw [hparents]
    rw [Array.getElem?_push] at ht
    split_ifs at ht with heq
    · obtain rfl := Option.some.inj ht
      rw [heq, h.size, List.getElem?_append_right (Nat.le_refl _)]
      simp
    · have hlt := (Array.getElem?_eq_some_iff.mp ht).1
      rw [List.getElem?_append_left (h.size ▸ hlt), h.parent t token ht]
  · rw [hcanceled]
    rw [Array.getElem?_push] at ht
    split_ifs at ht with heq
    · obtain rfl := Option.some.inj ht
      refine iff_of_false Bool.false_ne_true fun hcanceled => ?_
      have hlt := hcanceled.lt_length
      rw [heq, h.size] at hlt
      exact absurd hlt (Nat.lt_irrefl _)
    · exact h.canceled t token ht

theorem Records.cancel (h : Records ops ts) (u : Nat) :
    Records (ops ++ [.cancel u]) (ts.cancel u) := by
  have hparents : parents (ops ++ [.cancel u]) = parents ops := by
    rw [parents_append]
    exact List.append_nil _
  refine ⟨by simp [hparents, Tokens.cancel, h.size], fun t token ht => ?_, fun t token ht => ?_⟩
  · rw [hparents]
    rw [Tokens.cancel, Array.getElem?_modify] at ht
    split_ifs at ht
    · obtain ⟨token', ht', rfl⟩ := Option.map_eq_some_iff.mp ht
      exact h.parent t token' ht'
    · exact h.parent t token ht
  · rw [canceledIn_append_singleton]
    rw [Tokens.cancel, Array.getElem?_modify] at ht
    split_ifs at ht with heq
    · obtain ⟨token', ht', rfl⟩ := Option.map_eq_some_iff.mp ht
      have hlt := (Array.getElem?_eq_some_iff.mp ht').1
      exact iff_of_true rfl (.inr ⟨by rw [heq], h.size ▸ hlt⟩)
    · rw [h.canceled t token ht, or_iff_left]
      rintro ⟨hop, -⟩
      exact heq (Operation.cancel.inj hop)

/-- An operation that neither makes nor cancels a token does not count. -/
theorem Records.skip (h : Records ops ts) (hmade : op.made? = none)
    (hcancel : ∀ t, op ≠ .cancel t) : Records (ops ++ [op]) ts := by
  have hparents : parents (ops ++ [op]) = parents ops := by
    rw [parents_append, parents, parents, List.filterMap_cons_none hmade, List.filterMap_nil,
      List.append_nil]
  refine ⟨by rw [hparents, h.size], fun t token ht => ?_, fun t token ht => ?_⟩
  · rw [hparents]
    exact h.parent t token ht
  · rw [h.canceled t token ht, canceledIn_append_singleton, or_iff_left]
    exact fun ⟨hop, _⟩ => hcancel t hop

theorem Records.step (h : Records ops ts) (op : Operation) :
    Records (ops ++ [op]) (op.onTokens ts) := by
  cases op with
  | context | token | childContext => exact h.push rfl
  | cancel u => exact h.cancel u
  | _ => exact h.skip rfl nofun

theorem canceledAbove_iff : CanceledAbove ops t ↔
    CanceledIn ops t ∨ ∃ p, IsChild ops t p ∧ CanceledAbove ops p := by
  constructor
  · rintro ⟨a, hbelow, hcanceled⟩
    cases hbelow with
    | refl => exact .inl hcanceled
    | child hparent hbelow => exact .inr ⟨_, hparent, a, hbelow, hcanceled⟩
  · rintro (hcanceled | ⟨p, hparent, a, hbelow, hcanceled⟩)
    · exact ⟨t, .refl t, hcanceled⟩
    · exact ⟨a, .child hparent hbelow, hcanceled⟩

/-- A token counts as canceled exactly if it, or one that it stands below, was canceled. The
induction follows the token's ancestors, which precede it. -/
theorem Records.isCanceled_iff (h : Records ops ts) :
    ts.isCanceled t = true ↔ CanceledAbove ops t := by
  induction t using Nat.strongRecOn with
  | ind t ih =>
    rw [Tokens.isCanceled, canceledAbove_iff]
    cases ht : ts.tokens[t]? with
    | none =>
      -- there is no such token, and so none above it
      have hle : (parents ops).length ≤ t := h.size ▸ Array.getElem?_eq_none_iff.mp ht
      refine iff_of_false Bool.false_ne_true ?_
      rintro (hcanceled | ⟨p, hparent, -⟩)
      · exact absurd hcanceled.lt_length (Nat.not_lt.mpr hle)
      · rw [IsChild, List.getElem?_eq_none hle] at hparent
        cases hparent.1
    | some token =>
      have hparent := h.parent t token ht
      dsimp only
      rw [Bool.or_eq_true, h.canceled t token ht]
      refine or_congr_right ?_
      cases hp : token.parent with
      | none =>
        refine iff_of_false Bool.false_ne_true ?_
        rintro ⟨p, hchild, -⟩
        rw [IsChild, hparent, hp] at hchild
        cases hchild.1
      | some p =>
        have hchild (q : Nat) : IsChild ops t q ↔ q = p ∧ p < t := by
          rw [IsChild, hparent, hp, Option.some.injEq, Option.some.injEq, eq_comm]
          exact and_congr_right fun hq => by rw [hq]
        simp only [hchild]
        by_cases hlt : p < t
        · rw [if_pos hlt, ih p hlt]
          simp [hlt]
        · rw [if_neg hlt]
          simp [hlt]

namespace Session

variable {e : Evaluator} {s : Session} {x : Context}

/-! ### Contexts of a session -/

/-- Only operations on tokens concern tokens. -/
theorem tokens_perform (s : Session) (op : Operation) :
    (s.perform op).tokens = op.onTokens s.tokens := by
  cases op with
  | enter i =>
    unfold perform enter
    dsimp only
    split
    next =>
      split
      next => rfl
      next => rfl
    next => rfl
  | turn i limit b =>
    unfold perform turn
    dsimp only
    split
    next limits x source p _ =>
      cases b with
      | guest =>
        unfold turnGuest
        dsimp only
        split
        next => rfl
        next => split_ifs <;> rfl
      | deadline => dsimp only; split_ifs <;> rfl
      | cancellation => dsimp only; split_ifs <;> rfl
    next => rfl
  | leave i =>
    unfold perform leave
    dsimp only
    split
    next holds _ _ => cases holds <;> rfl
    next => rfl
  | drop i =>
    unfold perform drop
    dsimp only
    split_ifs <;> rfl
  | dropHost =>
    obtain ⟨hosted, handles, hdrop⟩ := s.exists_dropHost_eq
    rw [perform, hdrop]
    rfl
  | shutdown =>
    obtain ⟨now, hosted, handles, hshutdown⟩ := s.exists_shutdown_eq
    rw [perform, hshutdown]
    rfl
  | _ => rfl

/-- Operations record the tokens that they make and cancel. -/
theorem records_performAll (e : Evaluator) (ops : List Operation) :
    Records ops ((ofEvaluator e).performAll ops).tokens := by
  induction ops using List.reverseRecOn with
  | nil => exact records_nil
  | append_singleton ops op ih =>
    rw [performAll_append, performAll_cons, performAll_nil, tokens_perform]
    exact ih.step op

/-- A context is canceled exactly if its token, or one above it, was. -/
theorem done_eq_canceled_iff : ((ofEvaluator e).performAll ops).done x = some .canceled ↔
    CanceledAbove ops x.token := by
  rw [← (records_performAll e ops).isCanceled_iff, done, Context.done]
  split_ifs with hcanceled hdeadline
  · exact iff_of_true rfl hcanceled
  · exact iff_of_false (fun h => nomatch h) hcanceled
  · exact iff_of_false (fun h => nomatch h) hcanceled

end Session

end ScriptSandbox.Sandbox
