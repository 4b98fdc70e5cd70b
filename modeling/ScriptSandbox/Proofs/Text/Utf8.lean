import Mathlib.Tactic.Common
import ScriptSandbox.Text.Utf8

/-!
# Decoding inverts encoding

A byte string without ill-formed parts is the encoding of a text, and it is decoded to that text.
The decoder sees one byte at a time, so the proof goes through the character that is open between
two bytes: what completes it is a property of the open character alone.

## Main definitions

* `Utf8.Unfinished.Tail`: the bytes that complete an open character, and the code point they give

## Main results

* `Utf8.first_eq_complete`, `Utf8.first_eq_opens`: what the first byte of a character tells
* `Utf8.encodeChar_cases`, `Utf8.encodeChar_of_tail`: encodings are a first byte and a tail
* `Utf8.pieces_encode`: the pieces of an encoding are its characters
* `Utf8.decode?_eq_some_iff`: exactly the encodings of texts are decoded
-/

namespace ScriptSandbox.Utf8

open String (utf8EncodeChar)

variable {c : Char} {n : Nat} {s : List UInt8} {u : Unfinished}
  {ps : Array (Option Char)} {d : Decoder}

/-- The bytes `t` complete the open character `u` to the code point `n`. -/
inductive Unfinished.Tail : Unfinished → List UInt8 → Nat → Prop where
  | last {u : Unfinished} {b : UInt8} (hb : u.low ≤ b ∧ b ≤ u.high) (ho : u.owed ≤ 1) :
      Tail u [b] (u.bits * 64 + (b.toNat - 0x80))
  | more {u : Unfinished} {b : UInt8} {t : List UInt8} {n : Nat} (hb : u.low ≤ b ∧ b ≤ u.high)
      (ho : 1 < u.owed)
      (ht : Tail ⟨u.owed - 1, 0x80, 0xBF, u.bits * 64 + (b.toNat - 0x80)⟩ t n) : Tail u (b :: t) n

variable {b : UInt8} {t : List UInt8}

theorem Unfinished.Tail.foldl_push (h : u.Tail t n) :
    t.foldl Decoder.push ⟨some u, ps⟩ = ⟨none, ps.push (some (Char.ofNat n))⟩ := by
  induction h with
  | last hb ho => simp [Decoder.push, hb, ho]
  | more hb ho ht ih => simpa [Decoder.push, hb, Nat.not_le.mpr ho] using ih

/-! ### Pieces are never taken back -/

theorem none_mem_pieces_push (h : none ∈ d.pieces) : none ∈ (d.push b).pieces := by
  have start {d : Decoder} (h : none ∈ d.pieces) : none ∈ (d.start b).pieces := by
    unfold Decoder.start
    split <;> simp [h]
  unfold Decoder.push
  split
  · exact start h
  · split
    · simp only
      split <;> simp [h]
    · exact start (by simp)

theorem none_mem_finish (h : none ∈ d.pieces) : none ∈ (s.foldl Decoder.push d).finish := by
  induction s generalizing d with
  | nil =>
    simp only [List.foldl_nil]
    unfold Decoder.finish
    split <;> simp [h]
  | cons b s ih => exact ih (none_mem_pieces_push h)

/-- What follows an open character, if nothing is ill-formed, begins with bytes that complete it. -/
theorem exists_tail_of_none_notMem
    (h : none ∉ (s.foldl Decoder.push ⟨some u, ps⟩).finish) :
    ∃ t r n, s = t ++ r ∧ u.Tail t n := by
  induction s generalizing u with
  | nil => simp [Decoder.finish] at h
  | cons b s ih =>
    rw [List.foldl_cons, Decoder.push] at h
    simp only at h
    split at h
    next hb =>
      split at h
      next ho => exact ⟨[b], s, _, rfl, .last hb ho⟩
      next ho =>
        obtain ⟨t, r, n, rfl, ht⟩ := ih h
        exact ⟨b :: t, r, n, rfl, .more hb (by omega) ht⟩
    next hb =>
      -- a byte that does not go on leaves an ill-formed part behind
      refine absurd (none_mem_finish ?_) h
      unfold Decoder.start
      split <;> simp

theorem toNat_ofNat_byte (h : n < 0x100) : (UInt8.ofNat n).toNat = n := by
  simp; omega

/-! ### Encodings of characters -/

/-- The byte `0x80 + k` continues any character whose next byte may have that value. -/
theorem continues {low high : UInt8} {k : Nat} (hk : k < 64) (hl : low.toNat ≤ k + 0x80)
    (hh : k + 0x80 ≤ high.toNat) :
    low ≤ UInt8.ofNat (k + 0x80) ∧ UInt8.ofNat (k + 0x80) ≤ high := by
  have := toNat_ofNat_byte (show k + 0x80 < 0x100 by omega)
  simp only [UInt8.le_iff_toNat_le]
  omega

theorem Unfinished.Tail.one {low high : UInt8} {bits k : Nat} (hk : k < 64)
    (hl : low.toNat ≤ k + 0x80) (hh : k + 0x80 ≤ high.toNat) (hn : bits * 64 + k = n) :
    Tail ⟨1, low, high, bits⟩ [UInt8.ofNat (k + 0x80)] n := by
  have h := Tail.last (u := ⟨1, low, high, bits⟩) (continues hk hl hh) (Nat.le_refl 1)
  rwa [toNat_ofNat_byte (by omega), Nat.add_sub_cancel, hn] at h

theorem Unfinished.Tail.cons {low high : UInt8} {owed bits bits' k : Nat} (hk : k < 64)
    (hl : low.toNat ≤ k + 0x80) (hh : k + 0x80 ≤ high.toNat) (hb : bits * 64 + k = bits')
    (ht : Tail ⟨owed + 1, 0x80, 0xBF, bits'⟩ t n) :
    Tail ⟨owed + 2, low, high, bits⟩ (UInt8.ofNat (k + 0x80) :: t) n := by
  refine .more (continues hk hl hh) (by simp) ?_
  rw [toNat_ofNat_byte (by omega), Nat.add_sub_cancel, hb]
  exact ht

/-- A first byte is a character of its own, or it opens one that the other bytes complete. -/
theorem encodeChar_cases (c : Char) :
    (∃ b, utf8EncodeChar c = [b] ∧ first b = .complete c) ∨
      ∃ b u t, utf8EncodeChar c = b :: t ∧ first b = .opens u ∧ u.Tail t c.toNat := by
  have hv : c.toNat < 0xD800 ∨ 0xDFFF < c.toNat ∧ c.toNat < 0x110000 := c.valid
  have hval : c.val.toNat = c.toNat := rfl
  unfold utf8EncodeChar
  simp only [hval]
  generalize hn : c.toNat = n at hv
  -- one case for each length, from one byte to four
  split_ifs with h₁ h₂ h₃
  · refine .inl ⟨_, rfl, ?_⟩
    simp only [first, toNat_ofNat_byte (show n < 0x100 by omega)]
    rw [if_pos (by omega), ← hn, Char.ofNat_toNat]
  · have hb := toNat_ofNat_byte (show n / 64 % 0x20 + 0xc0 < 0x100 by omega)
    refine .inr ⟨_, ⟨1, 0x80, 0xBF, n / 64⟩, _, rfl, ?_, ?_⟩
    · simp only [first, hb]
      rw [if_neg (by omega), if_neg (by omega), if_pos (by omega),
        show n / 64 % 0x20 + 0xc0 - 0xC0 = n / 64 by omega]
    · exact .one (by omega) (by simp) (by simp; omega) (by omega)
  · -- the second byte is bounded where two bytes would do, and where surrogates would begin
    have hb := toNat_ofNat_byte (show n / 4096 % 0x10 + 0xe0 < 0x100 by omega)
    refine .inr ⟨_, ⟨2, if n / 4096 = 0 then 0xA0 else 0x80,
      if n / 4096 = 13 then 0x9F else 0xBF, n / 4096⟩, _, rfl, ?_, ?_⟩
    · simp only [first, hb]
      rw [if_neg (by omega), if_neg (by omega), if_neg (by omega), if_pos (by omega),
        show n / 4096 % 0x10 + 0xe0 - 0xE0 = n / 4096 by omega]
      simp only [show n / 4096 % 0x10 + 0xe0 = 0xE0 ↔ n / 4096 = 0 by omega,
        show n / 4096 % 0x10 + 0xe0 = 0xED ↔ n / 4096 = 13 by omega]
    · have two : n / 4096 * 64 + n / 64 % 64 = n / 64 := by omega
      refine .cons (by omega) ?_ ?_ two (.one (by omega) (by simp) (by simp; omega) (by omega))
      · split <;> simp
        omega
      · split <;> simp <;> omega
  · -- the second byte is bounded where three bytes would do, and where the characters end
    have hb := toNat_ofNat_byte (show n / 262144 % 0x08 + 0xf0 < 0x100 by omega)
    refine .inr ⟨_, ⟨3, if n / 262144 = 0 then 0x90 else 0x80,
      if n / 262144 = 4 then 0x8F else 0xBF, n / 262144⟩, _, rfl, ?_, ?_⟩
    · simp only [first, hb]
      rw [if_neg (by omega), if_neg (by omega), if_neg (by omega), if_neg (by omega),
        if_pos (by omega), show n / 262144 % 0x08 + 0xf0 - 0xF0 = n / 262144 by omega]
      simp only [show n / 262144 % 0x08 + 0xf0 = 0xF0 ↔ n / 262144 = 0 by omega,
        show n / 262144 % 0x08 + 0xf0 = 0xF4 ↔ n / 262144 = 4 by omega]
    · have two : n / 262144 * 64 + n / 4096 % 64 = n / 4096 := by omega
      have three : n / 4096 * 64 + n / 64 % 64 = n / 64 := by omega
      refine .cons (by omega) ?_ ?_ two (.cons (by omega) (by simp) (by simp; omega) three
        (.one (by omega) (by simp) (by simp; omega) (by omega)))
      · split <;> simp
        omega
      · split <;> simp <;> omega

theorem toNat_ofNat_char (h : n.isValidChar) : (Char.ofNat n).toNat = n := by
  rw [Char.ofNat, dif_pos h]
  rfl

/-- The bytes that are characters of their own. -/
theorem first_eq_complete (h : first b = .complete c) :
    b.toNat < 0x80 ∧ c = Char.ofNat b.toNat := by
  unfold first at h
  dsimp only at h
  by_cases hb : b.toNat < 0x80
  · rw [if_pos hb] at h
    exact ⟨hb, (First.complete.inj h).symm⟩
  · rw [if_neg hb] at h
    repeat' split at h
    all_goals cases h

/-- The bytes that open a character of two, three or four bytes. -/
theorem first_eq_opens (h : first b = .opens u) :
    (0xC2 ≤ b.toNat ∧ b.toNat < 0xE0 ∧ u = ⟨1, 0x80, 0xBF, b.toNat - 0xC0⟩) ∨
    (0xE0 ≤ b.toNat ∧ b.toNat < 0xF0 ∧ u = ⟨2, if b.toNat = 0xE0 then 0xA0 else 0x80,
      if b.toNat = 0xED then 0x9F else 0xBF, b.toNat - 0xE0⟩) ∨
    (0xF0 ≤ b.toNat ∧ b.toNat < 0xF5 ∧ u = ⟨3, if b.toNat = 0xF0 then 0x90 else 0x80,
      if b.toNat = 0xF4 then 0x8F else 0xBF, b.toNat - 0xF0⟩) := by
  unfold first at h
  dsimp only at h
  by_cases hascii : b.toNat < 0x80
  · rw [if_pos hascii] at h
    cases h
  rw [if_neg hascii] at h
  by_cases htail : b.toNat < 0xC2
  · rw [if_pos htail] at h
    cases h
  rw [if_neg htail] at h
  by_cases htwo : b.toNat < 0xE0
  · rw [if_pos htwo] at h
    exact .inl ⟨Nat.le_of_not_lt htail, htwo, (First.opens.inj h).symm⟩
  rw [if_neg htwo] at h
  by_cases hthree : b.toNat < 0xF0
  · rw [if_pos hthree] at h
    exact .inr (.inl ⟨Nat.le_of_not_lt htwo, hthree, (First.opens.inj h).symm⟩)
  rw [if_neg hthree] at h
  by_cases hfour : b.toNat < 0xF5
  · rw [if_pos hfour] at h
    exact .inr (.inr ⟨Nat.le_of_not_lt hthree, hfour, (First.opens.inj h).symm⟩)
  · rw [if_neg hfour] at h
    cases h

theorem encodeChar_of_complete (h : first b = .complete c) : utf8EncodeChar c = [b] := by
  obtain ⟨hb, rfl⟩ := first_eq_complete h
  have hn : (Char.ofNat b.toNat).val.toNat = b.toNat := toNat_ofNat_char (.inl (by omega))
  simp only [utf8EncodeChar, hn]
  rw [if_pos (by omega)]
  simp

theorem Unfinished.Tail.exists_of_one {low high : UInt8} {bits : Nat}
    (h : Tail ⟨1, low, high, bits⟩ t n) :
    ∃ x, t = [x] ∧ low.toNat ≤ x.toNat ∧ x.toNat ≤ high.toNat ∧
      n = bits * 64 + (x.toNat - 0x80) := by
  cases h with
  | last hb ho => exact ⟨_, rfl, UInt8.le_iff_toNat_le.mp hb.1, UInt8.le_iff_toNat_le.mp hb.2, rfl⟩
  | more hb ho => simp at ho

theorem Unfinished.Tail.exists_of_succ {low high : UInt8} {owed bits : Nat}
    (h : Tail ⟨owed + 2, low, high, bits⟩ t n) :
    ∃ x t', t = x :: t' ∧ low.toNat ≤ x.toNat ∧ x.toNat ≤ high.toNat ∧
      Tail ⟨owed + 1, 0x80, 0xBF, bits * 64 + (x.toNat - 0x80)⟩ t' n := by
  cases h with
  | last hb ho => simp at ho
  | more hb ho ht =>
    exact ⟨_, _, rfl, UInt8.le_iff_toNat_le.mp hb.1, UInt8.le_iff_toNat_le.mp hb.2, ht⟩

theorem ofNat_eq_byte (h : n = b.toNat) : UInt8.ofNat n = b := by
  rw [h, UInt8.ofNat_toNat]

theorem encodeChar_two {x y : Nat} (hx : x < 0x20) (hy : y < 64) (hlow : 2 ≤ x) :
    utf8EncodeChar (Char.ofNat (x * 64 + y)) =
      [UInt8.ofNat (x + 0xc0), UInt8.ofNat (y + 0x80)] := by
  have hval : (Char.ofNat (x * 64 + y)).val.toNat = x * 64 + y :=
    toNat_ofNat_char (.inl (by omega))
  simp only [utf8EncodeChar, hval]
  rw [if_neg (by omega), if_pos (by omega), show (x * 64 + y) / 64 % 0x20 = x by omega,
    show (x * 64 + y) % 64 = y by omega]

theorem encodeChar_three {x y z : Nat} (hx : x < 0x10) (hy : y < 64) (hz : z < 64)
    (hlow : 0x20 ≤ x * 64 + y) (hvalid : x = 13 → y < 0x20) :
    utf8EncodeChar (Char.ofNat ((x * 64 + y) * 64 + z)) =
      [UInt8.ofNat (x + 0xe0), UInt8.ofNat (y + 0x80), UInt8.ofNat (z + 0x80)] := by
  have hval : (Char.ofNat ((x * 64 + y) * 64 + z)).val.toNat = (x * 64 + y) * 64 + z :=
    toNat_ofNat_char (by unfold Nat.isValidChar; omega)
  simp only [utf8EncodeChar, hval]
  rw [if_neg (by omega), if_neg (by omega), if_pos (by omega),
    show ((x * 64 + y) * 64 + z) / 4096 % 0x10 = x by omega,
    show ((x * 64 + y) * 64 + z) / 64 % 64 = y by omega,
    show ((x * 64 + y) * 64 + z) % 64 = z by omega]

theorem encodeChar_four {w x y z : Nat} (hw : w < 8) (hx : x < 64) (hy : y < 64) (hz : z < 64)
    (hlow : 0x10 ≤ w * 64 + x) (hhigh : w * 64 + x < 0x110) :
    utf8EncodeChar (Char.ofNat (((w * 64 + x) * 64 + y) * 64 + z)) =
      [UInt8.ofNat (w + 0xf0), UInt8.ofNat (x + 0x80), UInt8.ofNat (y + 0x80),
        UInt8.ofNat (z + 0x80)] := by
  have hval : (Char.ofNat (((w * 64 + x) * 64 + y) * 64 + z)).val.toNat =
      ((w * 64 + x) * 64 + y) * 64 + z :=
    toNat_ofNat_char (by unfold Nat.isValidChar; omega)
  simp only [utf8EncodeChar, hval]
  rw [if_neg (by omega), if_neg (by omega), if_neg (by omega),
    show (((w * 64 + x) * 64 + y) * 64 + z) / 262144 % 0x08 = w by omega,
    show (((w * 64 + x) * 64 + y) * 64 + z) / 4096 % 64 = x by omega,
    show (((w * 64 + x) * 64 + y) * 64 + z) / 64 % 64 = y by omega,
    show (((w * 64 + x) * 64 + y) * 64 + z) % 64 = z by omega]

/-- The bytes that complete an open character are the rest of its encoding. -/
theorem encodeChar_of_tail (h : first b = .opens u) (ht : u.Tail t n) :
    utf8EncodeChar (Char.ofNat n) = b :: t := by
  have hbyte {x : UInt8} {k : Nat} (hk : k ≤ x.toNat) : UInt8.ofNat (x.toNat - k + k) = x :=
    ofNat_eq_byte (Nat.sub_add_cancel hk)
  obtain ⟨hlow, hhigh, rfl⟩ | ⟨hlow, hhigh, rfl⟩ | ⟨hlow, hhigh, rfl⟩ := first_eq_opens h
  · obtain ⟨x, rfl, hl, hh, hn⟩ := ht.exists_of_one
    simp only [UInt8.reduceToNat] at hl hh
    rw [hn, encodeChar_two (by omega) (by omega) (by omega), hbyte (by omega), hbyte hl]
  · obtain ⟨x, t, rfl, hl, hh, ht⟩ := ht.exists_of_succ
    obtain ⟨y, rfl, hl', hh', hn⟩ := ht.exists_of_one
    -- the bounds of the second byte depend on the first one, and keep the number in its range
    have hx : 0x80 ≤ x.toNat ∧ x.toNat ≤ 0xBF ∧ (b.toNat = 0xE0 → 0xA0 ≤ x.toNat) ∧
        (b.toNat = 0xED → x.toNat ≤ 0x9F) := by
      split at hl <;> split at hh <;> simp only [UInt8.reduceToNat] at hl hh <;> omega
    clear hl hh
    simp only [UInt8.reduceToNat] at hl' hh'
    rw [hn, encodeChar_three (by omega) (by omega) (by omega) (by omega) (by omega), hbyte hlow,
      hbyte hx.1, hbyte hl']
  · obtain ⟨x, t, rfl, hl, hh, ht⟩ := ht.exists_of_succ
    obtain ⟨y, t, rfl, hl', hh', ht⟩ := ht.exists_of_succ
    obtain ⟨z, rfl, hl'', hh'', hn⟩ := ht.exists_of_one
    have hx : 0x80 ≤ x.toNat ∧ x.toNat ≤ 0xBF ∧ (b.toNat = 0xF0 → 0x90 ≤ x.toNat) ∧
        (b.toNat = 0xF4 → x.toNat ≤ 0x8F) := by
      split at hl <;> split at hh <;> simp only [UInt8.reduceToNat] at hl hh <;> omega
    clear hl hh
    simp only [UInt8.reduceToNat] at hl' hh' hl'' hh''
    rw [hn, encodeChar_four (by omega) (by omega) (by omega) (by omega) (by omega) (by omega),
      hbyte hlow, hbyte hx.1, hbyte hl', hbyte hl'']

/-! ### Texts -/

theorem foldl_push_encodeChar (c : Char) :
    (utf8EncodeChar c).foldl Decoder.push ⟨none, ps⟩ = ⟨none, ps.push (some c)⟩ := by
  rcases encodeChar_cases c with ⟨b, hc, hf⟩ | ⟨b, u, t, hc, hf, ht⟩
  · simp [hc, Decoder.push, Decoder.start, hf]
  · rw [hc, List.foldl_cons]
    have hb : Decoder.push ⟨none, ps⟩ b = ⟨some u, ps⟩ := by
      simp [Decoder.push, Decoder.start, hf]
    rw [hb, ht.foldl_push, Char.ofNat_toNat]

theorem foldl_push_encode (cs : List Char) :
    (cs.flatMap utf8EncodeChar).foldl Decoder.push ⟨none, ps⟩ =
      ⟨none, ps ++ (cs.map some).toArray⟩ := by
  induction cs generalizing ps with
  | nil => simp
  | cons c cs ih =>
    rw [List.flatMap_cons, List.foldl_append, foldl_push_encodeChar, ih]
    simp

theorem pieces_encode (cs : List Char) :
    pieces (cs.flatMap utf8EncodeChar) = cs.map some := by
  simp [pieces, foldl_push_encode, Decoder.finish]

/-- Bytes without an ill-formed part are the encodings of some characters. -/
theorem exists_encode_of_none_notMem (h : none ∉ (s.foldl Decoder.push ⟨none, ps⟩).finish) :
    ∃ cs : List Char, s = cs.flatMap utf8EncodeChar := by
  -- every round takes the bytes of one character
  induction hl : s.length using Nat.strongRecOn generalizing s ps with
  | ind l ih =>
    cases s with
    | nil => exact ⟨[], rfl⟩
    | cons b s =>
      subst hl
      have hb : Decoder.push ⟨none, ps⟩ b = Decoder.start ⟨none, ps⟩ b := rfl
      rw [List.foldl_cons, hb, Decoder.start] at h
      split at h
      next c hc =>
        obtain ⟨cs, rfl⟩ := ih _ (by simp) h rfl
        exact ⟨c :: cs, by rw [List.flatMap_cons, encodeChar_of_complete hc]; rfl⟩
      next u hu =>
        obtain ⟨t, r, n, rfl, ht⟩ := exists_tail_of_none_notMem h
        rw [List.foldl_append, ht.foldl_push] at h
        obtain ⟨cs, rfl⟩ := ih _ (by simp only [List.length_cons, List.length_append]; omega) h rfl
        exact ⟨Char.ofNat n :: cs, by rw [List.flatMap_cons, encodeChar_of_tail hu ht]; rfl⟩
      next hr => exact absurd (none_mem_finish (by simp)) h

theorem byteArray_toList_loop (bs : ByteArray) (i : Nat) (r : List UInt8) :
    ByteArray.toList.loop bs i r = r.reverse ++ bs.data.toList.drop i := by
  fun_induction ByteArray.toList.loop bs i r with
  | case1 i r hi ih =>
    have hi' : i < bs.data.toList.length := hi
    rw [ih, List.drop_eq_getElem_cons hi', List.reverse_cons, List.append_assoc]
    congr 1
    simp only [ByteArray.get!, Array.getElem_toList, List.cons_append, List.nil_append,
      List.cons.injEq, and_true]
    rw [getElem!_pos bs.data i hi]
  | case2 i r hi =>
    have : bs.data.toList.length ≤ i := Nat.not_lt.mp hi
    rw [List.drop_eq_nil_of_le this, List.append_nil]

/-- The bytes of a text are those of its characters. -/
theorem encode_eq (s : String) : encode s = s.toList.flatMap utf8EncodeChar := by
  rw [encode, String.toUTF8, ← String.utf8Encode_toList, ByteArray.toList, byteArray_toList_loop,
    List.utf8Encode, List.toList_data_toByteArray]
  rfl

/-- Decoding answers exactly the encodings of texts, each with its text. -/
theorem decode?_eq_some_iff {bytes : List UInt8} {s : String} :
    decode? bytes = some s ↔ bytes = encode s := by
  rw [encode_eq]
  constructor
  · intro h
    unfold decode? at h
    simp only at h
    split at h
    next hall =>
      -- all pieces are characters, so that none is an ill-formed part
      have hnone : none ∉ (bytes.foldl Decoder.push {}).finish := by
        intro hmem
        have := List.all_eq_true.mp hall none (by simpa [pieces] using hmem)
        simp at this
      obtain ⟨cs, rfl⟩ := exists_encode_of_none_notMem hnone
      rw [pieces_encode] at h
      obtain rfl := Option.some.inj h
      simp
    next => simp at h
  · rintro rfl
    simp [decode?, pieces_encode]

end ScriptSandbox.Utf8
