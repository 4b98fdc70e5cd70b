import ScriptSandbox.Proofs.Json.Tokens
import ScriptSandbox.Proofs.Text.Utf8

/-!
# Reading strings

The reader gathers the bytes between two escapes and decodes them together, so between two bytes it
may stand inside a character. What it has gathered is put back before the bytes to come: together
they are a string of the grammar.

## Main definitions

* `Json.PlainByte`, `Json.PlainChar`: bytes and characters that stand for themselves

## Main results

* `Json.stringText_of_readStringRest`, `Json.readStringRest_of_stringText`: reading strings
-/

namespace ScriptSandbox.Json

open String (utf8EncodeChar)

variable {b : UInt8} {c : Char} {d n : Nat} {cs : List Char} {s r : List UInt8}

/-! ### Escapes -/

theorem hexDigit?_eq_some_iff : hexDigit? b = some d ↔ HexByte b d := by
  unfold hexDigit? HexByte DigitByte
  simp only [UInt8.le_iff_toNat_le, UInt8.reduceToNat]
  constructor
  · intro h
    split_ifs at h <;>
    · have := Option.some.inj h
      omega
  · intro h
    split_ifs
    · exact congrArg some (by omega)
    · exact congrArg some (by omega)
    · exact congrArg some (by omega)
    · omega

theorem readHex4_eq_ok_iff : readHex4 s = .ok (n, r) ↔ Hex4 s n r := by
  constructor
  · intro h
    unfold readHex4 at h
    split at h
    next a b c d s =>
      split at h
      next w x y z ha hb hc hd =>
        obtain ⟨rfl, rfl⟩ := Prod.mk.inj (Except.ok.inj h)
        rw [show ((w * 16 + x) * 16 + y) * 16 + z = w * 0x1000 + x * 0x100 + y * 0x10 + z by omega]
        rw [hexDigit?_eq_some_iff] at ha hb hc hd
        exact .mk ha hb hc hd
      next => simp [failBefore] at h
    next => simp [failBefore] at h
  · rintro ⟨h₁, h₂, h₃, h₄⟩
    rw [← hexDigit?_eq_some_iff] at h₁ h₂ h₃ h₄
    simp only [readHex4, h₁, h₂, h₃, h₄]
    congr 2
    omega

theorem shortEscape?_eq_some_iff : shortEscape? b = some c ↔ (b, c) ∈ shortEscapes := by
  simp only [shortEscape?, shortEscapes, List.mem_cons, Prod.mk.injEq, List.not_mem_nil, or_false]
  -- no two of the escaped bytes are the same
  grind

theorem charText_of_readUnicodeEscape (h : readUnicodeEscape s = .ok (c, r)) :
    CharText (0x5C :: 0x75 :: s) c r := by
  obtain ⟨⟨n, s'⟩, hn, h⟩ := bind_eq_ok_iff.mp h
  rw [readHex4_eq_ok_iff] at hn
  simp only at h
  split at h
  next => simp [failBefore] at h
  next hlow =>
    split at h
    next hbmp =>
      obtain ⟨rfl, rfl⟩ := Prod.mk.inj (Except.ok.inj h)
      exact .unicode hn (by omega)
    next hhigh =>
      split at h
      next => simp [failBefore] at h
      next s =>
        obtain ⟨⟨m, s'⟩, hm, h⟩ := bind_eq_ok_iff.mp h
        simp only at h
        split at h
        next => simp [failBefore] at h
        next hm' =>
          obtain ⟨rfl, rfl⟩ := Prod.mk.inj (Except.ok.inj h)
          -- the two halves of a surrogate pair, put together in another order
          rw [show (n - 0xD800) * 0x400 + (m - 0xDC00) + 0x10000 =
            0x10000 + (n - 0xD800) * 0x400 + (m - 0xDC00) by omega]
          rw [readHex4_eq_ok_iff] at hm
          exact .pair hn hm (by omega) (by omega)
      next => simp [failBefore] at h
      next => simp [failBefore] at h
      next => simp [failBefore] at h

theorem charText_of_readEscape (h : readEscape s = .ok (c, r)) : CharText (0x5C :: s) c r := by
  cases s with
  | nil => simp [readEscape, failBefore] at h
  | cons e s =>
    rw [readEscape] at h
    split at h
    next he =>
      subst he
      exact charText_of_readUnicodeEscape h
    next =>
      split at h
      next c' hc =>
        obtain ⟨rfl, rfl⟩ := Prod.mk.inj (Except.ok.inj h)
        rw [shortEscape?_eq_some_iff] at hc
        exact .short hc
      next => simp [failBefore] at h

theorem readUnicodeEscape_of_unicode (h : Hex4 s n r) (hn : n < 0xD800 ∨ 0xDFFF < n) :
    readUnicodeEscape s = .ok (Char.ofNat n, r) := by
  rw [← readHex4_eq_ok_iff] at h
  refine bind_eq_ok_iff.mpr ⟨(n, r), h, ?_⟩
  simp only
  rw [if_neg (by omega), if_pos (by omega)]
  rfl

theorem readUnicodeEscape_of_pair {m : Nat} {s' : List UInt8}
    (h : Hex4 s n (0x5C :: 0x75 :: s')) (h' : Hex4 s' m r) (hn : 0xD800 ≤ n ∧ n ≤ 0xDBFF)
    (hm : 0xDC00 ≤ m ∧ m ≤ 0xDFFF) :
    readUnicodeEscape s = .ok (Char.ofNat (0x10000 + (n - 0xD800) * 0x400 + (m - 0xDC00)), r) := by
  rw [← readHex4_eq_ok_iff] at h h'
  refine bind_eq_ok_iff.mpr ⟨_, h, ?_⟩
  simp only
  rw [if_neg (by omega), if_neg (by omega)]
  refine bind_eq_ok_iff.mpr ⟨_, h', ?_⟩
  simp only
  rw [if_neg (by omega), show (n - 0xD800) * 0x400 + (m - 0xDC00) + 0x10000 =
    0x10000 + (n - 0xD800) * 0x400 + (m - 0xDC00) by omega]
  rfl

/-! ### Plain characters -/

/-- A byte that ends no run of plain characters. -/
def PlainByte (b : UInt8) : Prop := 0x20 ≤ b.toNat ∧ b ≠ 0x22 ∧ b ≠ 0x5C

/-- A character that need not be escaped. -/
def PlainChar (c : Char) : Prop := 0x20 ≤ c.toNat ∧ c ≠ '"' ∧ c ≠ '\\'

/-- The bytes of a character are the character itself or lie outside the basic block. -/
theorem toNat_of_mem_encodeChar (h : b ∈ utf8EncodeChar c) :
    b.toNat = c.toNat ∨ 0x80 ≤ b.toNat ∧ 0x80 ≤ c.toNat := by
  have hval : c.val.toNat = c.toNat := rfl
  have hv : c.toNat < 0xD800 ∨ 0xDFFF < c.toNat ∧ c.toNat < 0x110000 := c.valid
  unfold utf8EncodeChar at h
  simp only [hval] at h
  -- only a character of one byte is its own byte
  split_ifs at h <;> simp only [List.mem_cons, List.not_mem_nil, or_false] at h
  · left
    rw [h, Utf8.toNat_ofNat_byte (by omega)]
  · right
    rcases h with rfl | rfl <;> rw [Utf8.toNat_ofNat_byte (by omega)] <;> omega
  · right
    rcases h with rfl | rfl | rfl <;> rw [Utf8.toNat_ofNat_byte (by omega)] <;> omega
  · right
    rcases h with rfl | rfl | rfl | rfl <;> rw [Utf8.toNat_ofNat_byte (by omega)] <;> omega

theorem char_ne_iff {c d : Char} : c ≠ d ↔ c.toNat ≠ d.toNat := by
  rw [ne_eq, ← Char.toNat_inj]

theorem plainChar_iff : PlainChar c ↔ ∀ b ∈ utf8EncodeChar c, PlainByte b := by
  have hb {b d : UInt8} : b ≠ d ↔ b.toNat ≠ d.toNat := by rw [ne_eq, ← UInt8.toNat_inj]
  unfold PlainChar PlainByte
  simp only [char_ne_iff, hb, UInt8.reduceToNat, Char.reduceToNat]
  constructor
  · rintro h b hmem
    have := toNat_of_mem_encodeChar hmem
    omega
  · intro h
    obtain ⟨b, bs, hbs⟩ := List.exists_cons_of_ne_nil (String.utf8EncodeChar_ne_nil (c := c))
    have hmem : b ∈ utf8EncodeChar c := by simp [hbs]
    have := h b hmem
    have := toNat_of_mem_encodeChar hmem
    omega

/-! ### Strings -/

theorem StringText.append_plain {pc : List Char} (hpc : ∀ c ∈ pc, PlainChar c)
    (h : StringText s cs r) : StringText (pc.flatMap utf8EncodeChar ++ s) (pc ++ cs) r := by
  induction pc with
  | nil => exact h
  | cons c pc ih =>
    obtain ⟨hc, hquote, hslash⟩ := hpc c (by simp)
    rw [List.flatMap_cons, List.append_assoc]
    exact .char (.unescaped hc hquote hslash) (ih fun c' hc' => hpc c' (by simp [hc']))

theorem readPlain_eq_ok_iff {bytes : List UInt8} {text : String} :
    readPlain bytes s = .ok text ↔ bytes = Utf8.encode text := by
  rw [← Utf8.decode?_eq_some_iff]
  unfold readPlain
  split
  next text' h => simp [h]
  next h => simp [h, failAt]

/-- Plain bytes that are read are the encodings of plain characters. -/
theorem plain_of_readPlain {plain : List UInt8} {text : String}
    (h : readPlain plain.reverse s = .ok text) (hplain : ∀ b ∈ plain, PlainByte b) :
    plain.reverse = text.toList.flatMap utf8EncodeChar ∧ ∀ c ∈ text.toList, PlainChar c := by
  have htext : plain.reverse = text.toList.flatMap utf8EncodeChar := by
    rw [readPlain_eq_ok_iff.mp h, Utf8.encode_eq]
  refine ⟨htext, fun c hc => plainChar_iff.mpr fun b hb => hplain b ?_⟩
  rw [← List.mem_reverse, htext]
  exact List.mem_flatMap.mpr ⟨c, hc, hb⟩

/-- What is read is a string of the grammar, of which the plain bytes so far are the beginning. -/
theorem stringText_of_readStringRest {fuel : Nat} {found t : String} {plain : List UInt8}
    (h : readStringRest fuel found plain s = .ok (t, r)) (hplain : ∀ b ∈ plain, PlainByte b) :
    ∃ cs, t = found ++ String.ofList cs ∧ StringText (plain.reverse ++ s) cs r := by
  -- plain bytes are held back until a quote or an escape ends their run
  induction fuel generalizing found plain s with
  | zero => simp [readStringRest, failBefore] at h
  | succ fuel ih =>
    cases s with
    | nil => simp [readStringRest, failBefore] at h
    | cons b s =>
      rw [readStringRest] at h
      split at h
      next hb =>
        subst hb
        obtain ⟨text, ht, h⟩ := bind_eq_ok_iff.mp h
        obtain ⟨rfl, rfl⟩ := Prod.mk.inj (Except.ok.inj h)
        obtain ⟨htext, hpc⟩ := plain_of_readPlain ht hplain
        refine ⟨text.toList, by simp, ?_⟩
        rw [htext]
        simpa using StringText.append_plain hpc .close
      split at h
      next hb =>
        subst hb
        obtain ⟨text, ht, h⟩ := bind_eq_ok_iff.mp h
        obtain ⟨⟨c, s'⟩, hc, h⟩ := bind_eq_ok_iff.mp h
        obtain ⟨htext, hpc⟩ := plain_of_readPlain ht hplain
        -- behind the escape no plain bytes are held
        obtain ⟨cs, rfl, hcs⟩ := ih h (by simp)
        refine ⟨text.toList ++ c :: cs, ?_, ?_⟩
        · exact String.toList_injective (by simp)
        · rw [htext]
          exact StringText.append_plain hpc (.char (charText_of_readEscape hc) hcs)
      split at h
      next => simp [failBefore] at h
      next hquote hslash hlow =>
        have hb : PlainByte b := ⟨by simpa [UInt8.lt_iff_toNat_lt] using hlow, hquote, hslash⟩
        obtain ⟨cs, rfl, hcs⟩ := ih h (by simpa [hb] using hplain)
        exact ⟨cs, rfl, by simpa using hcs⟩

/-- Plain bytes are gathered one by one. -/
theorem readStringRest_append {fuel : Nat} {found : String} {plain bytes : List UInt8}
    (h : ∀ b ∈ bytes, PlainByte b) :
    readStringRest (fuel + bytes.length) found plain (bytes ++ s) =
      readStringRest fuel found (bytes.reverse ++ plain) s := by
  induction bytes generalizing plain with
  | nil => rfl
  | cons b bytes ih =>
    obtain ⟨hlow, hquote, hslash⟩ := h b (by simp)
    rw [List.length_cons, ← Nat.add_assoc, List.cons_append, readStringRest, if_neg hquote,
      if_neg hslash, if_neg (by simpa [UInt8.lt_iff_toNat_lt] using hlow),
      ih fun b' hb' => h b' (by simp [hb'])]
    simp

theorem readStringRest_of_readEscape {fuel : Nat} {found : String} {pc : List Char}
    {s' : List UInt8} (h : readEscape s = .ok (c, s')) :
    readStringRest (fuel + 1) found (pc.flatMap utf8EncodeChar).reverse (0x5C :: s) =
      readStringRest fuel ((found ++ String.ofList pc).push c) [] s' := by
  have ht : readPlain (pc.flatMap utf8EncodeChar).reverse.reverse (0x5C :: s) =
      .ok (String.ofList pc) := by
    rw [readPlain_eq_ok_iff, Utf8.encode_eq]
    simp
  rw [readStringRest, if_neg (by decide), if_pos rfl, ht]
  simp only [bind, Except.bind, h]

theorem readEscape_of_short (h : (b, c) ∈ shortEscapes) : readEscape (b :: r) = .ok (c, r) := by
  have hb : b ≠ 0x75 := by
    rintro rfl
    simp [shortEscapes] at h
  rw [← shortEscape?_eq_some_iff] at h
  rw [readEscape, if_neg hb, h]

theorem Hex4.length_eq (h : Hex4 s n r) : s.length = r.length + 4 := by
  cases h
  rfl

/-- A string of the grammar is read to its end, together with the plain characters before it. -/
theorem readStringRest_of_stringText (h : StringText s cs r) (fuel : Nat) (found : String)
    (pc : List Char) (hfuel : s.length ≤ fuel) :
    readStringRest fuel found (pc.flatMap utf8EncodeChar).reverse s =
      .ok (found ++ String.ofList (pc ++ cs), r) := by
  induction h generalizing fuel found pc with
  | @close r =>
    obtain ⟨fuel, rfl⟩ := Nat.exists_eq_add_of_le' (show 1 ≤ fuel by simp at hfuel; omega)
    have ht : readPlain (pc.flatMap utf8EncodeChar).reverse.reverse (0x22 :: r) =
        .ok (String.ofList pc) := by
      rw [readPlain_eq_ok_iff, Utf8.encode_eq]
      simp
    rw [readStringRest, if_pos rfl, ht, List.append_nil]
    rfl
  | @char c cs s s' r hc hcs ih =>
    -- an escape is read in one round, a plain character in as many as it has bytes
    have escape {s₁ : List UInt8} (hfuel : s₁.length + 1 ≤ fuel) (hle : s'.length ≤ s₁.length)
        (he : readEscape s₁ = .ok (c, s')) :
        readStringRest fuel found (pc.flatMap utf8EncodeChar).reverse (0x5C :: s₁) =
          .ok (found ++ String.ofList (pc ++ c :: cs), r) := by
      obtain ⟨fuel, rfl⟩ := Nat.exists_eq_add_of_le' (show 1 ≤ fuel by omega)
      have hrest := ih fuel ((found ++ String.ofList pc).push c) [] (by omega)
      simp only [List.flatMap_nil, List.reverse_nil, List.nil_append] at hrest
      -- the escape ends the run, and no plain characters are held behind it
      rw [readStringRest_of_readEscape he, hrest]
      congr 2
      exact String.toList_injective (by simp)
    cases hc with
    | unescaped hlow hquote hslash =>
      have hplain := plainChar_iff.mp ⟨hlow, hquote, hslash⟩
      rw [List.length_append] at hfuel
      obtain ⟨fuel, rfl⟩ :=
        Nat.exists_eq_add_of_le' (show (utf8EncodeChar c).length ≤ fuel by omega)
      rw [readStringRest_append hplain]
      simpa using ih fuel found (pc ++ [c]) (by omega)
    | short h => exact escape hfuel (by simp) (readEscape_of_short h)
    | unicode h hn =>
      have hlen := h.length_eq
      refine escape hfuel (by simp only [List.length_cons]; omega) ?_
      rw [readEscape, if_pos rfl, readUnicodeEscape_of_unicode h hn]
    | pair h h' hn hm =>
      have hlen := h.length_eq
      have hlen' := h'.length_eq
      refine escape hfuel (by simp only [List.length_cons] at hlen ⊢; omega) ?_
      rw [readEscape, if_pos rfl, readUnicodeEscape_of_pair h h' hn hm]

theorem readString_of_stringText (h : StringText s cs r) {fuel : Nat} (hfuel : s.length ≤ fuel) :
    readString fuel s = .ok (String.ofList cs, r) := by
  have := readStringRest_of_stringText h fuel "" [] hfuel
  simpa [readString] using this

theorem exists_stringText_of_readString {fuel : Nat} {t : String}
    (h : readString fuel s = .ok (t, r)) : ∃ cs, t = String.ofList cs ∧ StringText s cs r := by
  obtain ⟨cs, rfl, hcs⟩ := stringText_of_readStringRest h (by simp)
  exact ⟨cs, by simp, by simpa using hcs⟩

theorem CharText.length_lt (h : CharText s c r) : r.length < s.length := by
  cases h with
  | unescaped =>
    have := List.length_pos_iff.mpr (String.utf8EncodeChar_ne_nil (c := c))
    rw [List.length_append]
    omega
  | short => simp only [List.length_cons]; omega
  | unicode h =>
    have := h.length_eq
    simp only [List.length_cons]
    omega
  | pair h h' =>
    have := h.length_eq
    have := h'.length_eq
    simp only [List.length_cons] at *
    omega

theorem StringText.length_lt (h : StringText s cs r) : r.length < s.length := by
  induction h with
  | close => simp
  | char hc _ ih => exact Nat.lt_trans ih hc.length_lt

end ScriptSandbox.Json
