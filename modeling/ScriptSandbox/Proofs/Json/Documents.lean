import ScriptSandbox.Proofs.Json.Strings

/-!
# Reading documents

The reader and the grammar agree: what is read is a value of the grammar, and a value of the grammar
is read if it is not nested too deeply. A value that is nested too deeply is refused for that reason
and no other. Both directions follow the number of arrays and objects that may still be opened, and
inside an array or object the list of what it holds.

## Main results

* `Json.valueText_of_readValue`: what is read is a value of the grammar
* `Json.complete_readValue`: how a value of the grammar is read
* `Json.read_eq_ok_iff`: the documents that are read are those of the grammar
-/

namespace ScriptSandbox.Json

variable {b : UInt8} {d fuel : Nat} {v : Value} {vs : List Value} {m : String × Value}
  {ms : List (String × Value)} {s s' r : List UInt8}

/-! ### Blanks -/

theorem isBlank_iff : isBlank b = true ↔ b = 0x20 ∨ b = 0x09 ∨ b = 0x0A ∨ b = 0x0D := by
  simp [isBlank]

theorem blanks_skipBlanks (s : List UInt8) : Blanks s (skipBlanks s) := by
  induction s with
  | nil => exact .nil
  | cons b s ih =>
    unfold skipBlanks at ih ⊢
    rw [List.dropWhile_cons]
    split
    next hb => exact .cons (isBlank_iff.mp hb) ih
    next => exact .nil

/-- The bytes do not start with a blank. -/
def NoBlank (r : List UInt8) : Prop := ∀ b ∈ r.head?, isBlank b = false

theorem skipBlanks_of_blanks (h : Blanks s r) (hr : NoBlank r) : skipBlanks s = r := by
  induction h with
  | @nil r =>
    cases r with
    | nil => rfl
    | cons b r => simp [skipBlanks, hr b rfl]
  | cons hb _ ih =>
    rw [skipBlanks, List.dropWhile_cons, if_pos (isBlank_iff.mpr hb)]
    exact ih hr

theorem Blanks.trans (h : Blanks s s') (h' : Blanks s' r) : Blanks s r := by
  induction h with
  | nil => exact h'
  | cons hb _ ih => exact .cons hb (ih h')

theorem Blanks.endsToken (h : Blanks s r) (hr : EndsToken r) : EndsToken s := by
  cases h with
  | nil => exact hr
  | cons hb _ =>
    refine ⟨?_, ?_, ?_⟩ <;>
    · rintro _ ⟨⟩
      rcases hb with rfl | rfl | rfl | rfl <;> decide

theorem endsToken_nil : EndsToken [] := ⟨by simp [NoDigit], by simp, by simp⟩

theorem endsToken_cons (hb : b = 0x2C ∨ b = 0x5D ∨ b = 0x7D) : EndsToken (b :: r) := by
  refine ⟨?_, ?_, ?_⟩ <;>
  · rintro _ ⟨⟩
    rcases hb with rfl | rfl | rfl <;> decide

/-! ### Progress -/

theorem Blanks.length_le (h : Blanks s r) : r.length ≤ s.length := by
  induction h with
  | nil => exact Nat.le_refl _
  | cons _ _ ih => exact Nat.le_succ_of_le ih

mutual

theorem ValueText.length_lt {v : Value} {s r : List UInt8} (h : ValueText s v r) :
    r.length < s.length := by
  match h with
  | .null => simp only [List.length_cons]; omega
  | .boolTrue => simp only [List.length_cons]; omega
  | .boolFalse => simp only [List.length_cons]; omega
  | .number ht _ => exact ht.length_lt
  | .string hs => exact Nat.lt_succ_of_lt hs.length_lt
  | .emptyArray hs => exact Nat.lt_succ_of_lt hs.length_le
  | .array hs => exact Nat.lt_succ_of_lt hs.length_lt
  | .emptyObject hs => exact Nat.lt_succ_of_lt hs.length_le
  | .object hs => exact Nat.lt_succ_of_lt hs.length_lt

theorem ItemsText.length_lt {vs : List Value} {s r : List UInt8} (h : ItemsText s vs r) :
    r.length < s.length := by
  match h with
  | .last hb hv he =>
    have := hb.length_le
    have := hv.length_lt
    have := he.length_le
    simp only [List.length_cons] at *
    omega
  | .cons hb hv he hs =>
    have := hb.length_le
    have := hv.length_lt
    have := he.length_le
    have := hs.length_lt
    simp only [List.length_cons] at *
    omega

theorem MemberText.length_lt {m : String × Value} {s r : List UInt8} (h : MemberText s m r) :
    r.length < s.length := by
  match h with
  | .mk hk hc hb hv =>
    have := hk.length_lt
    have := hc.length_le
    have := hb.length_le
    have := hv.length_lt
    simp only [List.length_cons] at *
    omega

theorem MembersText.length_lt {ms : List (String × Value)} {s r : List UInt8}
    (h : MembersText s ms r) : r.length < s.length := by
  match h with
  | .last hb hm he =>
    have := hb.length_le
    have := hm.length_lt
    have := he.length_le
    simp only [List.length_cons] at *
    omega
  | .cons hb hm he hs =>
    have := hb.length_le
    have := hm.length_lt
    have := he.length_le
    have := hs.length_lt
    simp only [List.length_cons] at *
    omega

end
/-! ### What is read -/

theorem itemsDepth_cons_le_iff :
    Value.itemsDepth (v :: vs) ≤ d ↔ v.depth ≤ d ∧ Value.itemsDepth vs ≤ d := Nat.max_le

theorem membersDepth_cons_le_iff :
    Value.membersDepth (m :: ms) ≤ d ↔ m.2.depth ≤ d ∧ Value.membersDepth ms ≤ d := Nat.max_le

theorem readIdent_eq_ok_iff {letters : List UInt8} :
    readIdent letters s = .ok r ↔ s = letters ++ r := by
  induction letters generalizing s with
  | nil => simp [readIdent]
  | cons l letters ih =>
    cases s with
    | nil => simp [readIdent, failBefore]
    | cons b s =>
      rw [readIdent]
      split
      next hb => simp [hb, ih]
      next hb => simp [hb, failBefore]

/-- A word stands for one value. -/
theorem eq_of_readIdent {letters : List UInt8} {w : Value}
    (h : (readIdent letters s >>= fun s => .ok (w, s)) = .ok (v, r)) :
    w = v ∧ s = letters ++ r := by
  obtain ⟨s', hs', h⟩ := bind_eq_ok_iff.mp h
  obtain ⟨rfl, rfl⟩ := Prod.mk.inj (Except.ok.inj h)
  exact ⟨rfl, readIdent_eq_ok_iff.mp hs'⟩

/-- What `item` reads is a value of the grammar that is nested at most `d` deep. -/
def Sound (item : List UInt8 → Except Failure (Taken Value)) (d : Nat) : Prop :=
  ∀ {s v r}, item s = .ok (v, r) → ∃ s', Blanks s s' ∧ ValueText s' v r ∧ v.depth ≤ d

variable {item : List UInt8 → Except Failure (Taken Value)}

/-- The items behind those already found: none, or a comma and more. -/
theorem exists_items_of_readItems (hitem : Sound item d) {found : List Value}
    (h : readItems item fuel found s = .ok (vs, r)) (hne : found ≠ []) :
    ∃ ws, vs = found.reverse ++ ws ∧ Value.itemsDepth ws ≤ d ∧
      (ws = [] ∧ Blanks s (0x5D :: r) ∨ ∃ s', Blanks s (0x2C :: s') ∧ ItemsText s' ws r) := by
  -- the fuel counts the turns of the loop, each of which finds one item more
  induction fuel generalizing found s with
  | zero => simp [readItems, failBefore] at h
  | succ fuel ih =>
    have hblanks := blanks_skipBlanks s
    unfold readItems at h
    split at h
    next => simp [failAt] at h
    next heq =>
      obtain ⟨rfl, rfl⟩ := Prod.mk.inj (Except.ok.inj h)
      rw [heq] at hblanks
      exact ⟨[], by simp, by simp [Value.itemsDepth], .inl ⟨rfl, hblanks⟩⟩
    next b s₁ _ heq =>
      rw [heq] at hblanks
      -- some items were found, so a comma has to come first, and an item after it
      simp only [List.isEmpty_iff, if_neg hne] at h
      split at h
      next hb =>
        subst hb
        split at h
        next => simp [failAt] at h
        next => simp [failBefore] at h
        next =>
          obtain ⟨⟨v, s₂⟩, hv, h⟩ := bind_eq_ok_iff.mp h
          obtain ⟨s₃, hb₃, hv, hd⟩ := hitem hv
          have hb₃ := (blanks_skipBlanks s₁).trans hb₃
          obtain ⟨ws, rfl, hws, hrest⟩ := ih h (by simp)
          -- whether this item is the last one depends on what the other turns found
          refine ⟨v :: ws, by simp, itemsDepth_cons_le_iff.mpr ⟨hd, hws⟩, .inr ⟨s₁, hblanks, ?_⟩⟩
          rcases hrest with ⟨rfl, he⟩ | ⟨s₄, he, hs⟩
          · exact .last hb₃ hv he
          · exact .cons hb₃ hv he hs
      next => simp [failBefore] at h

theorem items_of_readItems (hitem : Sound item d)
    (h : readItems item fuel [] s = .ok (vs, r)) :
    Value.itemsDepth vs ≤ d ∧ (vs = [] ∧ Blanks s (0x5D :: r) ∨ ItemsText s vs r) := by
  cases fuel with
  | zero => simp [readItems, failBefore] at h
  | succ fuel =>
    have hblanks := blanks_skipBlanks s
    unfold readItems at h
    split at h
    next => simp [failAt] at h
    next heq =>
      obtain ⟨rfl, rfl⟩ := Prod.mk.inj (Except.ok.inj h)
      rw [heq] at hblanks
      exact ⟨Nat.zero_le _, .inl ⟨rfl, hblanks⟩⟩
    next b s₁ _ heq =>
      rw [heq] at hblanks
      obtain ⟨⟨v, s₂⟩, hv, h⟩ := bind_eq_ok_iff.mp h
      obtain ⟨s₃, hb₃, hv, hd⟩ := hitem hv
      have hb₃ := hblanks.trans hb₃
      -- the first item stands without a comma, the others behind theirs
      obtain ⟨ws, rfl, hws, hrest⟩ := exists_items_of_readItems hitem h (by simp)
      refine ⟨itemsDepth_cons_le_iff.mpr ⟨hd, hws⟩, .inr ?_⟩
      rcases hrest with ⟨rfl, he⟩ | ⟨s₄, he, hs⟩
      · exact .last hb₃ hv he
      · exact .cons hb₃ hv he hs

theorem valueText_of_readItems (hitem : Sound item d)
    (h : readItems item fuel [] s = .ok (vs, r)) :
    ValueText (0x5B :: s) (.array vs) r ∧ (Value.array vs).depth ≤ d + 1 := by
  obtain ⟨hd, hs⟩ := items_of_readItems hitem h
  refine ⟨?_, Nat.succ_le_succ hd⟩
  rcases hs with ⟨rfl, hs⟩ | hs
  · exact .emptyArray hs
  · exact .array hs

theorem memberText_of_readMember (hitem : Sound item d)
    (h : readMember item fuel s = .ok (m, r)) : MemberText (0x22 :: s) m r ∧ m.2.depth ≤ d := by
  obtain ⟨⟨k, s₁⟩, hk, h⟩ := bind_eq_ok_iff.mp h
  obtain ⟨cs, rfl, hcs⟩ := exists_stringText_of_readString hk
  have hblanks := blanks_skipBlanks s₁
  simp only at h
  split at h
  next => simp [failAt] at h
  next s₂ heq =>
    rw [heq] at hblanks
    obtain ⟨⟨v, s₃⟩, hv, h⟩ := bind_eq_ok_iff.mp h
    obtain ⟨rfl, rfl⟩ := Prod.mk.inj (Except.ok.inj h)
    obtain ⟨s₄, hb₄, hv, hd⟩ := hitem hv
    exact ⟨.mk hcs hblanks hb₄ hv, hd⟩
  next => simp [failAt] at h

/-- The members behind those already found: none, or a comma and more. -/
theorem exists_members_of_readMembers (hitem : Sound item d) {found : List (String × Value)}
    (h : readMembers item fuel found s = .ok (ms, r)) (hne : found ≠ []) :
    ∃ ns, ms = found.reverse ++ ns ∧ Value.membersDepth ns ≤ d ∧
      (ns = [] ∧ Blanks s (0x7D :: r) ∨ ∃ s', Blanks s (0x2C :: s') ∧ MembersText s' ns r) := by
  -- as for items, except that a quote has to follow the comma
  induction fuel generalizing found s with
  | zero => simp [readMembers, failBefore] at h
  | succ fuel ih =>
    have hblanks := blanks_skipBlanks s
    unfold readMembers at h
    split at h
    next => simp [failAt] at h
    next heq =>
      obtain ⟨rfl, rfl⟩ := Prod.mk.inj (Except.ok.inj h)
      rw [heq] at hblanks
      exact ⟨[], by simp, Nat.zero_le _, .inl ⟨rfl, hblanks⟩⟩
    next b s₁ _ heq =>
      rw [heq] at hblanks
      simp only [List.isEmpty_iff, if_neg hne] at h
      split at h
      next hb =>
        subst hb
        split at h
        next => simp [failAt] at h
        next s₂ heq₂ =>
          have hblanks₂ := blanks_skipBlanks s₁
          rw [heq₂] at hblanks₂
          obtain ⟨⟨m, s₃⟩, hm, h⟩ := bind_eq_ok_iff.mp h
          obtain ⟨hm, hd⟩ := memberText_of_readMember hitem hm
          obtain ⟨ns, rfl, hns, hrest⟩ := ih h (by simp)
          refine ⟨m :: ns, by simp, membersDepth_cons_le_iff.mpr ⟨hd, hns⟩,
            .inr ⟨s₁, hblanks, ?_⟩⟩
          rcases hrest with ⟨rfl, he⟩ | ⟨s₄, he, hs⟩
          · exact .last hblanks₂ hm he
          · exact .cons hblanks₂ hm he hs
        next => simp [failBefore] at h
        next => simp [failAt] at h
      next => simp [failBefore] at h

theorem members_of_readMembers (hitem : Sound item d)
    (h : readMembers item fuel [] s = .ok (ms, r)) :
    Value.membersDepth ms ≤ d ∧ (ms = [] ∧ Blanks s (0x7D :: r) ∨ MembersText s ms r) := by
  cases fuel with
  | zero => simp [readMembers, failBefore] at h
  | succ fuel =>
    have hblanks := blanks_skipBlanks s
    unfold readMembers at h
    split at h
    next => simp [failAt] at h
    next heq =>
      obtain ⟨rfl, rfl⟩ := Prod.mk.inj (Except.ok.inj h)
      rw [heq] at hblanks
      exact ⟨Nat.zero_le _, .inl ⟨rfl, hblanks⟩⟩
    next b s₁ _ heq =>
      rw [heq] at hblanks
      simp only [List.isEmpty_nil, if_true] at h
      split at h
      next hb =>
        subst hb
        obtain ⟨⟨m, s₂⟩, hm, h⟩ := bind_eq_ok_iff.mp h
        obtain ⟨hm, hd⟩ := memberText_of_readMember hitem hm
        obtain ⟨ns, rfl, hns, hrest⟩ := exists_members_of_readMembers hitem h (by simp)
        refine ⟨membersDepth_cons_le_iff.mpr ⟨hd, hns⟩, .inr ?_⟩
        rcases hrest with ⟨rfl, he⟩ | ⟨s₃, he, hs⟩
        · exact .last hblanks hm he
        · exact .cons hblanks hm he hs
      next => simp [failBefore] at h

theorem valueText_of_readMembers (hitem : Sound item d)
    (h : readMembers item fuel [] s = .ok (ms, r)) :
    ValueText (0x7B :: s) (.object ms) r ∧ (Value.object ms).depth ≤ d + 1 := by
  obtain ⟨hd, hs⟩ := members_of_readMembers hitem h
  refine ⟨?_, Nat.succ_le_succ hd⟩
  rcases hs with ⟨rfl, hs⟩ | hs
  · exact .emptyObject hs
  · exact .object hs

/-- What is read is a value of the grammar that is nested no deeper than allowed. -/
theorem valueText_of_readValue (fuel d : Nat) : Sound (readValue fuel d) d := by
  induction d using Nat.strongRecOn with
  | ind d ih =>
    intro s v r h
    refine ⟨skipBlanks s, blanks_skipBlanks s, ?_⟩
    -- the cases follow the first byte, in the order in which the reader looks for it
    unfold readValue at h
    split at h
    next => simp [failAt] at h
    next b s₁ heq =>
      rw [heq]
      split at h
      next hb =>
        subst hb
        obtain ⟨rfl, rfl⟩ := eq_of_readIdent h
        exact ⟨.null, Nat.zero_le _⟩
      split at h
      next hb =>
        subst hb
        obtain ⟨rfl, rfl⟩ := eq_of_readIdent h
        exact ⟨.boolTrue, Nat.zero_le _⟩
      split at h
      next hb =>
        subst hb
        obtain ⟨rfl, rfl⟩ := eq_of_readIdent h
        exact ⟨.boolFalse, Nat.zero_le _⟩
      split at h
      next =>
        obtain ⟨⟨n, s₂⟩, hn, h⟩ := bind_eq_ok_iff.mp h
        obtain ⟨rfl, rfl⟩ := Prod.mk.inj (Except.ok.inj h)
        obtain ⟨t, ht, hn⟩ := exists_token_of_readNumber hn
        exact ⟨.number ht hn, Nat.zero_le _⟩
      split at h
      next hb =>
        subst hb
        obtain ⟨⟨t, s₂⟩, ht, h⟩ := bind_eq_ok_iff.mp h
        obtain ⟨rfl, rfl⟩ := Prod.mk.inj (Except.ok.inj h)
        obtain ⟨cs, hcs, hs⟩ := exists_stringText_of_readString ht
        exact ⟨hcs ▸ .string hs, Nat.zero_le _⟩
      split at h
      next hb =>
        subst hb
        -- an array takes up one level, and leaves the others to its items
        cases d with
        | zero => simp [failBefore] at h
        | succ d =>
          obtain ⟨⟨vs, s₂⟩, hvs, h⟩ := bind_eq_ok_iff.mp h
          obtain ⟨rfl, rfl⟩ := Prod.mk.inj (Except.ok.inj h)
          exact valueText_of_readItems (ih d (Nat.lt_succ_self d)) hvs
      split at h
      next hb =>
        subst hb
        cases d with
        | zero => simp [failBefore] at h
        | succ d =>
          obtain ⟨⟨ms, s₂⟩, hms, h⟩ := bind_eq_ok_iff.mp h
          obtain ⟨rfl, rfl⟩ := Prod.mk.inj (Except.ok.inj h)
          exact valueText_of_readMembers (ih d (Nat.lt_succ_self d)) hms
      next => simp [failBefore] at h

/-! ### What is accepted -/

/-- With `d` levels left, `x` reads `y`, which is nested `n` deep: it succeeds if the levels
suffice, and otherwise fails for want of them. -/
structure Settles {α : Type} (d n : Nat) (x : Except Failure α) (y : α) : Prop where
  eq_ok : n ≤ d → x = .ok y
  tooDeep : d < n → ∃ u, x = .error ⟨.tooDeep, u⟩

theorem Settles.ok {α : Type} (d : Nat) (y : α) : Settles d 0 (.ok y) y :=
  ⟨fun _ => rfl, fun h => absurd h (Nat.not_lt_zero d)⟩

theorem Settles.bind {α β : Type} {n k : Nat} {x : Except Failure α} {a : α}
    {f : α → Except Failure β} {y : β} (hx : Settles d n x a) (hf : Settles d k (f a) y) :
    Settles d (max n k) (x >>= f) y := by
  constructor
  · intro h
    obtain ⟨hn, hk⟩ := Nat.max_le.mp h
    exact bind_eq_ok_iff.mpr ⟨a, hx.eq_ok hn, hf.eq_ok hk⟩
  · intro h
    by_cases hn : n ≤ d
    · -- the first part is not too deep, so the other one is
      rw [hx.eq_ok hn]
      exact hf.tooDeep (by omega)
    · obtain ⟨u, hu⟩ := hx.tooDeep (Nat.lt_of_not_le hn)
      rw [hu]
      exact ⟨u, rfl⟩

theorem Settles.map {α β : Type} {n : Nat} {x : Except Failure α} {a : α} (hx : Settles d n x a)
    (f : α → β) : Settles d n (x >>= fun a => .ok (f a)) (f a) := by
  have := hx.bind (f := fun a => .ok (f a)) (Settles.ok d (f a))
  rwa [Nat.max_zero] at this

/-- `item` settles every value of the grammar with fewer than `fuel` bytes, blanks before it
included. -/
def Complete (item : List UInt8 → Except Failure (Taken Value)) (d fuel : Nat) : Prop :=
  ∀ {s s' v r}, Blanks s s' → ValueText s' v r → EndsToken r → s.length < fuel →
    Settles d v.depth (item s) (v, r)

/-- The first byte of a value is neither a blank nor the end of an array. -/
theorem ValueText.exists_cons (h : ValueText s v r) :
    ∃ b s', s = b :: s' ∧ isBlank b = false ∧ b ≠ 0x5D := by
  cases h with
  | number ht _ =>
    obtain ⟨b, s', rfl, hb⟩ := ht.exists_cons
    refine ⟨b, s', rfl, ?_⟩
    rcases hb with rfl | hb
    · decide
    · obtain ⟨d, hd⟩ := Option.isSome_iff_exists.mp hb
      have hd := digit?_eq_some_iff.mp hd
      refine ⟨?_, hd.ne rfl⟩
      simpa [isBlank] using ⟨hd.ne rfl, hd.ne rfl, hd.ne rfl, hd.ne rfl⟩
  | _ => exact ⟨_, _, rfl, by decide, by decide⟩

theorem ValueText.noBlank (h : ValueText s v r) : NoBlank s := by
  obtain ⟨b, s', rfl, hb, -⟩ := h.exists_cons
  rintro _ ⟨⟩
  exact hb

theorem ItemsText.exists_cons (h : ItemsText s vs r) :
    ∃ b s', skipBlanks s = b :: s' ∧ b ≠ 0x5D := by
  cases h with
  | last hb hv he =>
    obtain ⟨b, s', rfl, -, hne⟩ := hv.exists_cons
    exact ⟨b, s', skipBlanks_of_blanks hb hv.noBlank, hne⟩
  | cons hb hv he hs =>
    obtain ⟨b, s', rfl, -, hne⟩ := hv.exists_cons
    exact ⟨b, s', skipBlanks_of_blanks hb hv.noBlank, hne⟩

theorem readItems_close {found : List Value} {n : Nat} (h : Blanks s (0x5D :: r)) :
    readItems item (n + 1) found s = .ok (found.reverse, r) := by
  rw [readItems, skipBlanks_of_blanks h (by rintro _ ⟨⟩; rfl)]
  rfl

theorem readItems_first {n : Nat} (h : skipBlanks s = b :: s') (hb : b ≠ 0x5D) :
    readItems item (n + 1) [] s =
      item (skipBlanks s) >>= fun x => readItems item n [x.1] x.2 := by
  rw [readItems, h]
  split
  next heq => simp at heq
  next heq => exact absurd (List.cons.inj heq).1 hb
  next heq =>
    obtain ⟨rfl, rfl⟩ := List.cons.inj heq
    rfl

theorem readItems_comma {found : List Value} {n : Nat} {s₁ s₂ : List UInt8} (hne : found ≠ [])
    (hs : Blanks s (0x2C :: s₁)) (hs₁ : skipBlanks s₁ = b :: s₂) (hb : b ≠ 0x5D) :
    readItems item (n + 1) found s =
      item (skipBlanks s₁) >>= fun x => readItems item n (x.1 :: found) x.2 := by
  rw [readItems, skipBlanks_of_blanks hs (by rintro _ ⟨⟩; rfl)]
  simp only [List.isEmpty_iff, if_neg hne]
  split
  next heq => simp at heq
  next heq => simp at heq
  next heq =>
    obtain ⟨rfl, rfl⟩ := List.cons.inj heq
    rw [if_pos rfl]
    split
    next heq => simp [heq] at hs₁
    next heq => exact absurd (List.cons.inj (heq.symm.trans hs₁)).1.symm hb
    next => rfl

/-- Items of the grammar are read one after the other behind those already found. -/
theorem readItems_of_itemsText (hitem : Complete item d fuel) (found : List Value)
    (h : ItemsText s vs r) (hs : s.length < fuel) {n : Nat} (hn : s.length ≤ n) :
    Settles d (Value.itemsDepth vs)
      (item (skipBlanks s) >>= fun x => readItems item n (x.1 :: found) x.2)
      (found.reverse ++ vs, r) := by
  induction vs generalizing s found n with
  | nil => cases h
  | cons v vs ih =>
    cases h with
    | @last _ _ s₁ s₂ _ hb hv he =>
      have hlen := hb.length_le
      -- the item takes up bytes, so that there is fuel for one more turn
      have hlen' := hv.length_lt
      have hread := hitem .nil hv (he.endsToken (endsToken_cons (by simp))) (by omega)
      obtain ⟨n, rfl⟩ := Nat.exists_eq_add_of_le' (show 1 ≤ n by omega)
      rw [skipBlanks_of_blanks hb hv.noBlank]
      refine hread.bind ?_
      rw [readItems_close he, List.reverse_cons]
      exact Settles.ok d _
    | @cons _ _ _ s₁ s₂ s₃ _ hb hv he hs' =>
      have hlen := hb.length_le
      have hlen' := hv.length_lt
      have hlen'' := he.length_le
      rw [List.length_cons] at hlen''
      have hread := hitem .nil hv (he.endsToken (endsToken_cons (by simp))) (by omega)
      obtain ⟨n, rfl⟩ := Nat.exists_eq_add_of_le' (show 1 ≤ n by omega)
      obtain ⟨b, s₄, hs₄, hne⟩ := hs'.exists_cons
      rw [skipBlanks_of_blanks hb hv.noBlank]
      refine hread.bind ?_
      -- the next turn takes the comma and the item after it
      rw [readItems_comma (by simp) he hs₄ hne]
      simpa using ih (v :: found) hs' (by omega) (n := n) (by omega)

theorem MemberText.exists_cons (h : MemberText s m r) : ∃ s', s = 0x22 :: s' := by
  cases h
  exact ⟨_, rfl⟩

theorem MembersText.exists_cons (h : MembersText s ms r) : ∃ s', skipBlanks s = 0x22 :: s' := by
  cases h with
  | last hb hm he =>
    obtain ⟨s', rfl⟩ := hm.exists_cons
    exact ⟨s', skipBlanks_of_blanks hb (by rintro _ ⟨⟩; rfl)⟩
  | cons hb hm he hs =>
    obtain ⟨s', rfl⟩ := hm.exists_cons
    exact ⟨s', skipBlanks_of_blanks hb (by rintro _ ⟨⟩; rfl)⟩

theorem readMember_of_memberText (hitem : Complete item d fuel) (h : MemberText (0x22 :: s) m r)
    (hr : EndsToken r) (hs : s.length < fuel) {n : Nat} (hn : s.length ≤ n) :
    Settles d m.2.depth (readMember item n s) (m, r) := by
  cases h with
  | @mk cs v _ s₁ s₂ s₃ _ hk hc hb hv =>
    have hlen := hk.length_lt
    have hlen' := hc.length_le
    have hlen'' := hb.length_le
    rw [List.length_cons] at hlen'
    have hread := hitem hb hv hr (by omega)
    rw [readMember, readString_of_stringText hk hn]
    simp only [bind, Except.bind, skipBlanks_of_blanks hc (by rintro _ ⟨⟩; rfl)]
    exact hread.map fun x => ((String.ofList cs, x.1), x.2)

theorem readMembers_close {found : List (String × Value)} {n : Nat} (h : Blanks s (0x7D :: r)) :
    readMembers item (n + 1) found s = .ok (found.reverse, r) := by
  rw [readMembers, skipBlanks_of_blanks h (by rintro _ ⟨⟩; rfl)]
  rfl

theorem readMembers_first {n : Nat} (h : skipBlanks s = 0x22 :: s') :
    readMembers item (n + 1) [] s =
      readMember item (n + 1) s' >>= fun x => readMembers item n [x.1] x.2 := by
  rw [readMembers, h]
  rfl

theorem readMembers_comma {found : List (String × Value)} {n : Nat} {s₁ s₂ : List UInt8}
    (hne : found ≠ []) (hs : Blanks s (0x2C :: s₁)) (hs₁ : skipBlanks s₁ = 0x22 :: s₂) :
    readMembers item (n + 1) found s =
      readMember item (n + 1) s₂ >>= fun x => readMembers item n (x.1 :: found) x.2 := by
  rw [readMembers, skipBlanks_of_blanks hs (by rintro _ ⟨⟩; rfl)]
  simp only [List.isEmpty_iff, if_neg hne]
  split
  next heq => simp at heq
  next heq => simp at heq
  next heq =>
    obtain ⟨rfl, rfl⟩ := List.cons.inj heq
    rw [if_pos rfl, hs₁]
    rfl

/-- Members of the grammar are read one after the other behind those already found. -/
theorem readMembers_of_membersText (hitem : Complete item d fuel) (found : List (String × Value))
    (h : MembersText s ms r) (hs' : skipBlanks s = 0x22 :: s') (hs : s.length < fuel) {n k : Nat}
    (hn : s.length ≤ n) (hk : s.length ≤ k) :
    Settles d (Value.membersDepth ms)
      (readMember item k s' >>= fun x => readMembers item n (x.1 :: found) x.2)
      (found.reverse ++ ms, r) := by
  induction ms generalizing s s' found n k with
  | nil => cases h
  | cons m ms ih =>
    cases h with
    | @last _ _ s₁ s₂ _ hb hm he =>
      -- the member begins with the quote that was taken already
      obtain ⟨s₃, rfl⟩ := hm.exists_cons
      obtain ⟨-, rfl⟩ := List.cons.inj
        (hs'.symm.trans (skipBlanks_of_blanks hb (by rintro _ ⟨⟩; rfl)))
      have hlen := hb.length_le
      rw [List.length_cons] at hlen
      have hread := readMember_of_memberText hitem hm (he.endsToken (endsToken_cons (by simp)))
        (by omega) (n := k) (by omega)
      obtain ⟨n, rfl⟩ := Nat.exists_eq_add_of_le' (show 1 ≤ n by omega)
      refine hread.bind ?_
      rw [readMembers_close he, List.reverse_cons]
      exact Settles.ok d _
    | @cons _ _ _ s₁ s₂ s₃ _ hb hm he hms =>
      obtain ⟨s₄, rfl⟩ := hm.exists_cons
      obtain ⟨-, rfl⟩ := List.cons.inj
        (hs'.symm.trans (skipBlanks_of_blanks hb (by rintro _ ⟨⟩; rfl)))
      have hlen := hb.length_le
      have hlen' := hm.length_lt
      have hlen'' := he.length_le
      rw [List.length_cons] at hlen hlen' hlen''
      have hread := readMember_of_memberText hitem hm (he.endsToken (endsToken_cons (by simp)))
        (by omega) (n := k) (by omega)
      obtain ⟨n, rfl⟩ := Nat.exists_eq_add_of_le' (show 1 ≤ n by omega)
      obtain ⟨s₅, hs₅⟩ := hms.exists_cons
      refine hread.bind ?_
      rw [readMembers_comma (by simp) he hs₅]
      simpa using ih (m :: found) hms hs₅ (by omega) (n := n) (k := n + 1) (by omega)
        (by omega)

theorem readValue_of_blanks (h : Blanks s s') (hs' : NoBlank s') :
    readValue fuel d s = readValue fuel d s' := by
  have hskip := skipBlanks_of_blanks h hs'
  have hskip' := skipBlanks_of_blanks .nil hs'
  unfold readValue
  rw [hskip, hskip']

theorem readValue_null :
    readValue fuel d (0x6E :: 0x75 :: 0x6C :: 0x6C :: r) = .ok (.null, r) := by
  unfold readValue
  rfl

theorem readValue_true :
    readValue fuel d (0x74 :: 0x72 :: 0x75 :: 0x65 :: r) = .ok (.bool true, r) := by
  unfold readValue
  rfl

theorem readValue_false :
    readValue fuel d (0x66 :: 0x61 :: 0x6C :: 0x73 :: 0x65 :: r) = .ok (.bool false, r) := by
  unfold readValue
  rfl

theorem readValue_string : readValue fuel d (0x22 :: s) =
    readString fuel s >>= fun x => .ok (.string x.1, x.2) := by
  unfold readValue
  rfl

theorem readValue_number {b : UInt8} (hb : b = 0x2D ∨ (digit? b).isSome) :
    readValue fuel d (b :: s) =
      readNumber (b :: s) >>= fun x => .ok (.number x.1, x.2) := by
  -- the first byte of a number is not one that the reader looks for before
  have hne {c : UInt8} (hc : digit? c = none) (hm : c ≠ 0x2D) : b ≠ c := by
    rintro rfl
    simp [hc, hm] at hb
  have hskip : skipBlanks (b :: s) = b :: s := by
    refine skipBlanks_of_blanks .nil ?_
    rintro _ ⟨⟩
    simpa [isBlank] using ⟨hne rfl (by decide), hne rfl (by decide), hne rfl (by decide),
      hne rfl (by decide)⟩
  unfold readValue
  rw [hskip]
  simp only [if_neg (hne (c := 0x6E) rfl (by decide)), if_neg (hne (c := 0x74) rfl (by decide)),
    if_neg (hne (c := 0x66) rfl (by decide)), if_pos hb]
  rfl

theorem Settles.array {x : Except Failure (Taken (List Value))}
    (h : Settles d (Value.itemsDepth vs) x (vs, r)) :
    Settles (d + 1) (Value.array vs).depth (x >>= fun x => .ok (Value.array x.1, x.2))
      (Value.array vs, r) := by
  have h := h.map fun x => (Value.array x.1, x.2)
  exact ⟨fun hd => h.eq_ok (Nat.le_of_succ_le_succ hd),
    fun hd => h.tooDeep (Nat.lt_of_succ_lt_succ hd)⟩

theorem Settles.object {x : Except Failure (Taken (List (String × Value)))}
    (h : Settles d (Value.membersDepth ms) x (ms, r)) :
    Settles (d + 1) (Value.object ms).depth (x >>= fun x => .ok (Value.object x.1, x.2))
      (Value.object ms, r) := by
  have h := h.map fun x => (Value.object x.1, x.2)
  exact ⟨fun hd => h.eq_ok (Nat.le_of_succ_le_succ hd),
    fun hd => h.tooDeep (Nat.lt_of_succ_lt_succ hd)⟩

/-- Nothing may be opened when no level is left. -/
theorem settles_zero {s : List UInt8} {n : Nat} {y : Taken Value} (hb : b = 0x5B ∨ b = 0x7B) :
    Settles 0 (n + 1) (readValue fuel 0 (b :: s)) y := by
  refine ⟨fun h => absurd h (Nat.not_succ_le_zero n), fun _ => ?_⟩
  rcases hb with rfl | rfl
  · exact ⟨_, rfl⟩
  · exact ⟨_, rfl⟩

theorem settles_readItems (hitem : Complete item d fuel) (h : ItemsText s vs r)
    (hs : s.length < fuel) : Settles d (Value.itemsDepth vs) (readItems item fuel [] s) (vs, r) := by
  obtain ⟨n, rfl⟩ := Nat.exists_eq_add_of_le' (show 1 ≤ fuel by omega)
  obtain ⟨b, s₁, hs₁, hne⟩ := h.exists_cons
  rw [readItems_first hs₁ hne]
  exact readItems_of_itemsText hitem [] h hs (Nat.le_of_lt_succ hs)

theorem settles_readItems_nil (h : Blanks s (0x5D :: r)) (hs : s.length < fuel) :
    Settles d 0 (readItems item fuel [] s) ([], r) := by
  obtain ⟨n, rfl⟩ := Nat.exists_eq_add_of_le' (show 1 ≤ fuel by omega)
  rw [readItems_close h]
  exact Settles.ok d _

theorem settles_readMembers (hitem : Complete item d fuel) (h : MembersText s ms r)
    (hs : s.length < fuel) :
    Settles d (Value.membersDepth ms) (readMembers item fuel [] s) (ms, r) := by
  obtain ⟨n, rfl⟩ := Nat.exists_eq_add_of_le' (show 1 ≤ fuel by omega)
  obtain ⟨s₁, hs₁⟩ := h.exists_cons
  rw [readMembers_first hs₁]
  exact readMembers_of_membersText hitem [] h hs₁ hs (Nat.le_of_lt_succ hs) (Nat.le_of_lt hs)

theorem settles_readMembers_nil (h : Blanks s (0x7D :: r)) (hs : s.length < fuel) :
    Settles d 0 (readMembers item fuel [] s) ([], r) := by
  obtain ⟨n, rfl⟩ := Nat.exists_eq_add_of_le' (show 1 ≤ fuel by omega)
  rw [readMembers_close h]
  exact Settles.ok d _

/-- Every value of the grammar is settled by the reader. -/
theorem complete_readValue (fuel d : Nat) : Complete (readValue fuel d) d fuel := by
  induction d using Nat.strongRecOn with
  | ind d ih =>
    intro s s' v r hb hv hr hs
    have hlen := hb.length_le
    -- blanks before the value do not count, so that its first byte tells the branch
    rw [readValue_of_blanks hb hv.noBlank]
    cases hv with
    | null => exact readValue_null ▸ Settles.ok d _
    | boolTrue => exact readValue_true ▸ Settles.ok d _
    | boolFalse => exact readValue_false ▸ Settles.ok d _
    | number ht hn =>
      obtain ⟨b, s₁, rfl, hb₁⟩ := ht.exists_cons
      rw [readValue_number hb₁, readNumber_of_tokenText ht hn hr]
      exact Settles.ok d _
    | string hcs =>
      rw [List.length_cons] at hlen
      rw [readValue_string, readString_of_stringText hcs (by omega)]
      exact Settles.ok d _
    | emptyArray he =>
      cases d with
      | zero => exact settles_zero (.inl rfl)
      | succ d =>
        rw [List.length_cons] at hlen
        exact Settles.array (settles_readItems_nil he (by omega))
    | array hvs =>
      cases d with
      | zero => exact settles_zero (.inl rfl)
      | succ d =>
        rw [List.length_cons] at hlen
        exact Settles.array (settles_readItems (ih d (Nat.lt_succ_self d)) hvs (by omega))
    | emptyObject he =>
      cases d with
      | zero => exact settles_zero (.inr rfl)
      | succ d =>
        rw [List.length_cons] at hlen
        exact Settles.object (settles_readMembers_nil he (by omega))
    | object hms =>
      cases d with
      | zero => exact settles_zero (.inr rfl)
      | succ d =>
        rw [List.length_cons] at hlen
        exact Settles.object (settles_readMembers (ih d (Nat.lt_succ_self d)) hms (by omega))

/-! ### Documents -/

theorem readPrefix_of_valueText {bytes : List UInt8} (hb : Blanks bytes s) (hv : ValueText s v r)
    (hr : EndsToken r) : Settles 127 v.depth (readPrefix bytes) (v, r) :=
  complete_readValue _ _ hb hv hr (Nat.lt_succ_self _)

theorem expectEnd_eq_ok_iff : expectEnd s = .ok () ↔ Blanks s [] := by
  constructor
  · intro h
    have hblanks := blanks_skipBlanks s
    unfold expectEnd at h
    split at h
    next heq => rwa [heq] at hblanks
    next => simp [failAt] at h
  · intro h
    rw [expectEnd, skipBlanks_of_blanks h (by simp [NoBlank])]

/-- The value of a document is read, and only blanks are left after it. -/
theorem Document.readPrefix {bytes : List UInt8} (h : Document bytes v) :
    ∃ r, readPrefix bytes = .ok (v, r) ∧ expectEnd r = .ok () := by
  obtain ⟨⟨s, r, hs, hv, he⟩, hd⟩ := h
  have hread := readPrefix_of_valueText hs hv (he.endsToken endsToken_nil)
  exact ⟨r, hread.eq_ok hd, expectEnd_eq_ok_iff.mpr he⟩

/-- Exactly the documents of the grammar are read, each as the value it is a text of. -/
theorem read_eq_ok_iff {bytes : List UInt8} : read bytes = .ok v ↔ Document bytes v := by
  constructor
  · intro h
    obtain ⟨⟨w, r⟩, hw, h⟩ := bind_eq_ok_iff.mp h
    obtain ⟨⟨⟩, he, h⟩ := bind_eq_ok_iff.mp h
    obtain rfl := Except.ok.inj h
    obtain ⟨s, hs, hv, hd⟩ := valueText_of_readValue _ _ hw
    exact ⟨⟨s, r, hs, hv, expectEnd_eq_ok_iff.mp he⟩, hd⟩
  · intro h
    obtain ⟨r, hread, he⟩ := h.readPrefix
    exact bind_eq_ok_iff.mpr ⟨(v, r), hread, bind_eq_ok_iff.mpr ⟨(), he, rfl⟩⟩

/-- A byte string is a document of at most one value. -/
theorem Document.unique {bytes : List UInt8} {w : Value} (hv : Document bytes v)
    (hw : Document bytes w) : v = w :=
  Except.ok.inj ((read_eq_ok_iff.mpr hv).symm.trans (read_eq_ok_iff.mpr hw))

end ScriptSandbox.Json
