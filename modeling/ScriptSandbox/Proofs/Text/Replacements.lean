import Mathlib.Data.Nat.Find
import Mathlib.Logic.ExistsUnique
import ScriptSandbox.Proofs.Text.Utf8

/-!
# Replacing ill-formed parts

Well-formed bytes are decoded to their text. Where no character starts, some bytes are given up, and
one `U+FFFD` stands for them: as many as a character could begin with, or a single byte if there is
no such character. What is left is decoded as if nothing had been before it.

## Main definitions

* `Utf8.StartsCharacter`: bytes that start with a character
* `Utf8.Truncated`: bytes that a character begins with, but not all of its bytes
* `Utf8.GivenUp`: the bytes that are given up where no character starts
* `Utf8.Unfinished.Grows`: the bytes that leave an open character open

## Main results

* `Utf8.exists_encode_append`: all bytes are well-formed up to where no character starts
* `Utf8.existsUnique_givenUp`: what is given up there
* `Utf8.lossy_encode_append`: the text of bytes some of which are given up
-/

namespace ScriptSandbox.Utf8

open String (utf8EncodeChar)

/-- Bytes that start with a character. -/
def StartsCharacter (s : List UInt8) : Prop := ∃ c, utf8EncodeChar c <+: s

/-- Bytes that a character begins with, but not all of its bytes. -/
def Truncated (b : List UInt8) : Prop := ∃ c, b <+: utf8EncodeChar c ∧ b ≠ utf8EncodeChar c

/-- The bytes that are given up of `s`, where no character starts: the longest truncated character
or, if there is none, the first byte. -/
inductive GivenUp (s : List UInt8) : List UInt8 → Prop
  | truncated {b : List UInt8} (hne : b ≠ []) (hb : b <+: s) (h : Truncated b)
      (hlongest : ∀ b', b' <+: s → Truncated b' → b'.length ≤ b.length) : GivenUp s b
  | byte {x : UInt8} {r : List UInt8} (hs : s = x :: r)
      (hnone : ∀ b', b' ≠ [] → b' <+: s → ¬Truncated b') : GivenUp s [x]

/-- The first `k` bytes are a truncated character. -/
def HasTruncated (s : List UInt8) (k : Nat) : Prop := ∃ b, b <+: s ∧ Truncated b ∧ b.length = k

/-- The bytes `t` take an open character on, and it is still open then. -/
inductive Unfinished.Grows : Unfinished → List UInt8 → Unfinished → Prop where
  | refl {u : Unfinished} : Grows u [] u
  | more {u u' : Unfinished} {b : UInt8} {t : List UInt8} (hb : u.low ≤ b ∧ b ≤ u.high)
      (ho : 1 < u.owed)
      (ht : Grows ⟨u.owed - 1, 0x80, 0xBF, u.bits * 64 + (b.toNat - 0x80)⟩ t u') :
      Grows u (b :: t) u'

variable {n : Nat} {x : UInt8} {s t t' r b b' : List UInt8} {u u' u'' : Unfinished}
  {ps : Array (Option Char)} {d : Decoder} {v : String}

/-! ### Open characters -/

/-- Some byte can come next. -/
def Unfinished.IsOpen (u : Unfinished) : Prop := 1 ≤ u.owed ∧ u.low ≤ u.high

theorem isOpen_of_first (h : first x = .opens u) : u.IsOpen := by
  obtain ⟨-, -, rfl⟩ | ⟨-, -, rfl⟩ | ⟨-, -, rfl⟩ := first_eq_opens h
  · exact ⟨Nat.le_refl 1, by simp⟩
  -- a first byte bounds the second one from below or from above, but not both
  all_goals
    refine ⟨by simp, ?_⟩
    dsimp only
    split_ifs
    · omega
    all_goals decide

namespace Unfinished

namespace Grows

theorem foldl_push (h : u.Grows t u') :
    t.foldl Decoder.push ⟨some u, ps⟩ = ⟨some u', ps⟩ := by
  induction h with
  | refl => rfl
  | more hb ho _ ih => simpa [Decoder.push, hb, Nat.not_le.mpr ho] using ih

theorem trans (h : u.Grows t u') (h' : u'.Grows t' u'') : u.Grows (t ++ t') u'' := by
  induction h with
  | refl => exact h'
  | more hb ho _ ih => exact .more hb ho (ih h')

theorem tail (h : u.Grows t u') (h' : u'.Tail t' n) : u.Tail (t ++ t') n := by
  induction h with
  | refl => exact h'
  | more hb ho _ ih => exact .more hb ho (ih h')

theorem isOpen (h : u.Grows t u') (hu : u.IsOpen) : u'.IsOpen := by
  induction h with
  | refl => exact hu
  | more _ ho _ ih => exact ih ⟨Nat.le_sub_of_add_le ho, by simp⟩

/-- A character that is still open was not completed before. -/
theorem not_tail (h : u.Grows t u') (hpre : t' <+: t) : ¬u.Tail t' n := by
  intro h'
  induction h' generalizing t with
  | last _ ho =>
    cases h with
    | refl => simp at hpre
    | more _ ho' _ => omega
  | more _ _ _ ih =>
    cases h with
    | refl => simp at hpre
    | more _ _ ht =>
      obtain ⟨rfl, hrest⟩ := List.cons_prefix_cons.mp hpre
      exact ih ht hrest

end Grows

/-- An open character is still open before its last byte. -/
theorem Tail.exists_grows (h : u.Tail t n) (hpre : t' <+: t) (hne : t' ≠ t) :
    ∃ u', u.Grows t' u' := by
  induction h generalizing t' with
  | last =>
    obtain rfl | ⟨t', rfl, ht'⟩ := List.prefix_cons_iff.mp hpre
    · exact ⟨_, .refl⟩
    · exact absurd (List.prefix_nil.mp ht' ▸ rfl) hne
  | more hb ho _ ih =>
    obtain rfl | ⟨t', rfl, ht'⟩ := List.prefix_cons_iff.mp hpre
    · exact ⟨_, .refl⟩
    · obtain ⟨u', hu'⟩ := ih ht' fun heq => hne (heq ▸ rfl)
      exact ⟨u', .more hb ho hu'⟩

theorem Tail.ne_nil (h : u.Tail t n) : t ≠ [] := by
  cases h <;> exact List.cons_ne_nil _ _

/-- Every open character can be completed. -/
theorem IsOpen.exists_tail (h : u.IsOpen) : ∃ t n, u.Tail t n := by
  obtain ⟨owed, low, high, bits⟩ := u
  obtain ⟨howed, hrange⟩ : 1 ≤ owed ∧ low ≤ high := h
  -- the least byte is as good as any other one
  induction owed, howed using Nat.le_induction generalizing low high bits with
  | base => exact ⟨[low], _, .last ⟨UInt8.le_refl low, hrange⟩ (Nat.le_refl 1)⟩
  | succ k hk ih =>
    obtain ⟨t, n, ht⟩ := ih 0x80 0xBF (bits * 64 + (low.toNat - 0x80)) (by simp)
    exact ⟨low :: t, n, .more ⟨UInt8.le_refl low, hrange⟩ (Nat.lt_succ_of_le hk) ht⟩

end Unfinished

/-! ### Characters at the start of bytes -/

theorem startsCharacter_iff :
    StartsCharacter (x :: s) ↔
      (∃ c, first x = .complete c) ∨ ∃ u t n, first x = .opens u ∧ t <+: s ∧ u.Tail t n := by
  constructor
  · rintro ⟨c, hc⟩
    obtain ⟨y, hy, hfirst⟩ | ⟨y, u, t, hy, hfirst, ht⟩ := encodeChar_cases c
    · rw [hy] at hc
      obtain ⟨rfl, -⟩ := List.cons_prefix_cons.mp hc
      exact .inl ⟨c, hfirst⟩
    · rw [hy] at hc
      obtain ⟨rfl, hpre⟩ := List.cons_prefix_cons.mp hc
      exact .inr ⟨u, t, _, hfirst, hpre, ht⟩
  · rintro (⟨c, hc⟩ | ⟨u, t, n, hu, hpre, ht⟩)
    · exact ⟨c, encodeChar_of_complete hc ▸ List.cons_prefix_cons.mpr ⟨rfl, List.nil_prefix⟩⟩
    · exact ⟨_, encodeChar_of_tail hu ht ▸ List.cons_prefix_cons.mpr ⟨rfl, hpre⟩⟩

theorem truncated_iff : Truncated (x :: t) ↔ ∃ u u', first x = .opens u ∧ u.Grows t u' := by
  constructor
  · rintro ⟨c, hc, hne⟩
    obtain ⟨y, hy, -⟩ | ⟨y, u, t', hy, hfirst, ht⟩ := encodeChar_cases c
    · rw [hy] at hc hne
      obtain ⟨rfl, hnil⟩ := List.cons_prefix_cons.mp hc
      exact absurd (List.prefix_nil.mp hnil ▸ rfl) hne
    · rw [hy] at hc hne
      obtain ⟨rfl, hpre⟩ := List.cons_prefix_cons.mp hc
      obtain ⟨u', hgrows⟩ := ht.exists_grows hpre fun heq => hne (heq ▸ rfl)
      exact ⟨u, u', hfirst, hgrows⟩
  · rintro ⟨u, u', hu, hgrows⟩
    obtain ⟨t', n, ht'⟩ := (hgrows.isOpen (isOpen_of_first hu)).exists_tail
    refine ⟨Char.ofNat n, ?_⟩
    rw [encodeChar_of_tail hu (hgrows.tail ht')]
    refine ⟨List.cons_prefix_cons.mpr ⟨rfl, List.prefix_append t t'⟩, fun heq => ?_⟩
    exact ht'.ne_nil (List.self_eq_append_right.mp (List.cons.inj heq).2)

/-- A truncated character starts with no character: none is the beginning of another one. -/
theorem Truncated.not_startsCharacter (h : Truncated b) : ¬StartsCharacter b := by
  cases b with
  | nil =>
    rintro ⟨c, hc⟩
    exact String.utf8EncodeChar_ne_nil (List.prefix_nil.mp hc)
  | cons x t =>
    obtain ⟨u, u', hu, hgrows⟩ := truncated_iff.mp h
    rw [startsCharacter_iff, hu]
    rintro (⟨c, ⟨⟩⟩ | ⟨_, t', n, ⟨⟩, hpre, ht'⟩)
    exact hgrows.not_tail hpre ht'

/-- Well-formed bytes come first, up to where no character starts. -/
theorem exists_encode_append (s : List UInt8) : ∃ v r, s = encode v ++ r ∧ ¬StartsCharacter r := by
  -- every round takes the bytes of one character
  induction hl : s.length using Nat.strongRecOn generalizing s with
  | ind l ih =>
    subst hl
    by_cases hs : StartsCharacter s
    · obtain ⟨c, s', rfl⟩ := hs
      have hpos : 0 < (utf8EncodeChar c).length :=
        List.length_pos_iff.mpr String.utf8EncodeChar_ne_nil
      obtain ⟨v, r, rfl, hr⟩ := ih s'.length (by rw [List.length_append]; omega) s' rfl
      refine ⟨String.ofList (c :: v.toList), r, ?_, hr⟩
      simp [encode_eq]
    · exact ⟨"", s, by simp [encode_eq], hs⟩

/-! ### What is given up -/

theorem GivenUp.ne_nil (h : GivenUp s b) : b ≠ [] := by
  cases h with
  | truncated hne => exact hne
  | byte => exact List.cons_ne_nil _ _

theorem GivenUp.unique (h : GivenUp s b) (h' : GivenUp s b') : b = b' := by
  cases h with
  | truncated hne hb ht hlongest =>
    cases h' with
    | truncated hne' hb' ht' hlongest' =>
      have hlength : b.length = b'.length :=
        Nat.le_antisymm (hlongest' b hb ht) (hlongest b' hb' ht')
      exact (List.prefix_of_prefix_length_le hb hb' (Nat.le_of_eq hlength)).eq_of_length hlength
    | byte _ hnone => exact absurd ht (hnone b hne hb)
  | byte hs hnone =>
    cases h' with
    | truncated hne' hb' ht' => exact absurd ht' (hnone b' hne' hb')
    | byte hs' =>
      obtain ⟨rfl, -⟩ := List.cons.inj (hs.symm.trans hs')
      rfl

theorem exists_givenUp (hs : s ≠ []) : ∃ b, GivenUp s b := by
  classical
  by_cases hnone : ∀ b, b ≠ [] → b <+: s → ¬Truncated b
  · obtain ⟨x, r, rfl⟩ := List.exists_cons_of_ne_nil hs
    exact ⟨[x], .byte rfl hnone⟩
  · push Not at hnone
    obtain ⟨b₀, hne, hb₀, ht₀⟩ := hnone
    -- there is a longest one, as none is longer than `s`
    have hle {b : List UInt8} (hb : b <+: s) (ht : Truncated b) :
        b.length ≤ Nat.findGreatest (HasTruncated s) s.length :=
      Nat.le_findGreatest hb.length_le ⟨b, hb, ht, rfl⟩
    obtain ⟨b, hb, ht, hlength⟩ : HasTruncated s (Nat.findGreatest (HasTruncated s) s.length) :=
      Nat.findGreatest_spec hb₀.length_le ⟨b₀, hb₀, ht₀, rfl⟩
    have hlongest {b' : List UInt8} (hb' : b' <+: s) (ht' : Truncated b') :
        b'.length ≤ b.length := hlength ▸ hle hb' ht'
    have hpos : 0 < b.length :=
      Nat.lt_of_lt_of_le (List.length_pos_iff.mpr hne) (hlongest hb₀ ht₀)
    exact ⟨b, .truncated (List.length_pos_iff.mp hpos) hb ht fun _ => hlongest⟩

/-- There is one way to give up bytes. -/
theorem existsUnique_givenUp (hs : s ≠ []) : ∃! b, GivenUp s b := by
  obtain ⟨b, hb⟩ := exists_givenUp hs
  exact ⟨b, hb, fun b' hb' => hb'.unique hb⟩

/-- A truncated character at the end is given up as a whole. -/
theorem Truncated.givenUp (h : Truncated b) (hne : b ≠ []) : GivenUp b b :=
  .truncated hne (List.prefix_refl b) h fun _ hb' _ => hb'.length_le

/-! ### Decoding -/

namespace Decoder

/-- The state of a decoder that has found some pieces before. -/
def after (ps : Array (Option Char)) (d : Decoder) : Decoder := { d with pieces := ps ++ d.pieces }

theorem start_after : (d.after ps).start x = (d.start x).after ps := by
  unfold start after
  split <;> simp

theorem push_after : (d.after ps).push x = (d.push x).after ps := by
  obtain ⟨u, qs⟩ := d
  cases u with
  | none => exact start_after
  | some u =>
    simp only [push, after]
    split_ifs
    · simp
    · rfl
    · exact (congrArg (start · x) (by simp [after])).trans start_after

theorem foldl_push_after : s.foldl push (d.after ps) = (s.foldl push d).after ps := by
  induction s generalizing d with
  | nil => rfl
  | cons x s ih => rw [List.foldl_cons, List.foldl_cons, push_after, ih]

theorem finish_after : (d.after ps).finish = ps ++ d.finish := by
  obtain ⟨u, qs⟩ := d
  cases u with
  | none => rfl
  | some u => simp [finish, after]

end Decoder

/-- What was found before does not matter to the bytes that follow. -/
theorem toList_finish_foldl_push :
    (s.foldl Decoder.push ⟨none, ps⟩).finish.toList = ps.toList ++ pieces s := by
  have hstart : (⟨none, ps⟩ : Decoder) = Decoder.after ps {} := by simp [Decoder.after]
  rw [hstart, Decoder.foldl_push_after, Decoder.finish_after, Array.toList_append, pieces]

/-- Where neither a character nor a truncated one starts, no character starts with that byte. -/
theorem first_eq_refused (hstart : ¬StartsCharacter (x :: s))
    (hnone : ∀ b, b ≠ [] → b <+: x :: s → ¬Truncated b) : first x = .refused := by
  cases hx : first x with
  | complete c => exact absurd (startsCharacter_iff.mpr (.inl ⟨c, hx⟩)) hstart
  | opens u =>
    refine absurd (truncated_iff.mpr ⟨u, u, hx, .refl⟩) (hnone [x] (List.cons_ne_nil _ _) ?_)
    exact List.cons_prefix_cons.mpr ⟨rfl, List.nil_prefix⟩
  | refused => rfl

/-- The byte behind the longest truncated character does not go on with it: it would complete a
character or make the truncated one longer. -/
theorem not_continues {y : UInt8} (hstart : ¬StartsCharacter (x :: (t ++ y :: r)))
    (hlongest : ∀ b, b <+: x :: (t ++ y :: r) → Truncated b → b.length ≤ (x :: t).length)
    (hu : first x = .opens u) (hgrows : u.Grows t u') : ¬(u'.low ≤ y ∧ y ≤ u'.high) := by
  intro hy
  have hpre : t ++ [y] <+: t ++ y :: r := ⟨r, by simp⟩
  by_cases ho : u'.owed ≤ 1
  · have hcompletes := hgrows.tail (.last hy ho)
    exact hstart (startsCharacter_iff.mpr (.inr ⟨u, t ++ [y], _, hu, hpre, hcompletes⟩))
  · have hlonger : Truncated (x :: (t ++ [y])) :=
      truncated_iff.mpr ⟨u, _, hu, hgrows.trans (.more hy (Nat.not_le.mp ho) .refl)⟩
    have hle := hlongest _ (List.cons_prefix_cons.mpr ⟨rfl, hpre⟩) hlonger
    simp only [List.length_cons, List.length_append, List.length_nil] at hle
    omega

/-- What is given up leaves one piece behind, and the next byte is a first byte again. -/
theorem finish_of_givenUp (hstart : ¬StartsCharacter (b ++ r)) (h : GivenUp (b ++ r) b) :
    ((b ++ r).foldl Decoder.push ⟨none, ps⟩).finish =
      (r.foldl Decoder.push ⟨none, ps.push none⟩).finish := by
  rw [List.foldl_append]
  obtain ⟨x, t, rfl⟩ := List.exists_cons_of_ne_nil h.ne_nil
  cases h with
  | truncated _ _ ht hlongest =>
    obtain ⟨u, u', hu, hgrows⟩ := truncated_iff.mp ht
    have hopened : Decoder.push ⟨none, ps⟩ x = ⟨some u, ps⟩ := by
      simp [Decoder.push, Decoder.start, hu]
    rw [List.foldl_cons, hopened, hgrows.foldl_push]
    cases r with
    | nil => rfl
    | cons y r => simp [Decoder.push, not_continues hstart hlongest hu hgrows]
  | byte _ hnone => simp [Decoder.push, Decoder.start, first_eq_refused hstart hnone]

/-- The pieces of well-formed bytes before some that are given up, and of what is left. -/
theorem pieces_encode_append (hstart : ¬StartsCharacter (b ++ r)) (h : GivenUp (b ++ r) b) :
    pieces (encode v ++ (b ++ r)) = v.toList.map some ++ none :: pieces r := by
  rw [pieces, encode_eq, List.foldl_append, foldl_push_encode, finish_of_givenUp hstart h,
    toList_finish_foldl_push]
  simp

/-- Well-formed bytes are decoded to their text. -/
theorem lossy_encode (v : String) : lossy (encode v) = v := by
  rw [lossy, encode_eq, pieces_encode]
  simp [Function.comp_def]

/-- One character stands for what is given up, and what is left is decoded by itself. -/
theorem lossy_encode_append (hstart : ¬StartsCharacter (b ++ r)) (h : GivenUp (b ++ r) b) :
    lossy (encode v ++ (b ++ r)) = v ++ "\uFFFD" ++ lossy r := by
  rw [lossy, pieces_encode_append hstart h, List.map_append, List.map_cons, String.ofList_append,
    lossy]
  simp [Function.comp_def, String.ofList_cons, String.append_assoc]

/-- A truncated character at the end leaves one character behind. -/
theorem lossy_truncated (hb : Truncated b) (hne : b ≠ []) :
    lossy (encode v ++ b) = v ++ "\uFFFD" := by
  have hwhole : b ++ [] = b := List.append_nil b
  have h := lossy_encode_append (v := v) (hwhole.symm ▸ hb.not_startsCharacter)
    (hwhole.symm ▸ hb.givenUp hne)
  rwa [hwhole, show lossy [] = "" from rfl, String.append_empty] at h

/-- A truncated character is one part, and each byte of an encoded surrogate is one. -/
example : lossy [0xE2, 0x82, 0x41, 0xED, 0xA0, 0x80] = "\uFFFDA\uFFFD\uFFFD\uFFFD" := by
  decide

end ScriptSandbox.Utf8
