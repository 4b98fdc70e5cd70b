import ScriptSandbox.Json.Writer
import ScriptSandbox.Proofs.Json.Documents
import ScriptSandbox.Proofs.Json.Merging

/-!
# Printed documents

A printed document is a text of itself in the grammar, as long as it holds no doubles: strings are
escaped so that they denote the same characters, and integers of 64 bits are written in full.

## Main definitions

* `Json.Number.IsExact`: integers that a text keeps exact
* `Json.Value.IsExact`, `Json.Value.NoDouble`: documents all of whose numbers are such integers, or
  any integers

## Main results

* `Json.valueText_chars`, `Json.document_text`: a printed document is a text of itself
* `Json.ValueText.isExact_of_mem`: the integers of a text are kept exact
-/

namespace ScriptSandbox.Json

open String (utf8EncodeChar)

variable {b : UInt8} {d : Nat} {ds : List Nat} {v : Value} {vs : List Value}
  {ms : List (String × Value)} {s r : List UInt8}

/-- The bytes of characters. -/
def utf8Bytes (cs : List Char) : List UInt8 := cs.flatMap utf8EncodeChar

@[simp] theorem utf8Bytes_nil : utf8Bytes [] = [] := rfl

@[simp] theorem utf8Bytes_cons (c : Char) (cs : List Char) :
    utf8Bytes (c :: cs) = utf8EncodeChar c ++ utf8Bytes cs := rfl

@[simp] theorem utf8Bytes_append (cs cs' : List Char) :
    utf8Bytes (cs ++ cs') = utf8Bytes cs ++ utf8Bytes cs' := List.flatMap_append

/-! ### Strings -/

theorem hexByte_hexDigit (h : d < 0x10) :
    ∃ b, utf8EncodeChar (hexDigit d) = [b] ∧ HexByte b d := by
  refine ⟨UInt8.ofNat (if d < 10 then 0x30 + d else 0x57 + d), ?_⟩
  unfold HexByte DigitByte
  revert d
  decide

/-- A control character is escaped by its two hexadecimal digits. -/
theorem charText_control {c : Char} (hc : c.toNat < 0x20) :
    CharText (0x5C :: 0x75 :: 0x30 :: 0x30 :: (utf8EncodeChar (hexDigit (c.toNat / 16)) ++
      (utf8EncodeChar (hexDigit (c.toNat % 16)) ++ r))) c r := by
  obtain ⟨b₁, h₁, hb₁⟩ := hexByte_hexDigit (show c.toNat / 16 < 0x10 by omega)
  obtain ⟨b₂, h₂, hb₂⟩ := hexByte_hexDigit (show c.toNat % 16 < 0x10 by omega)
  have hzero : HexByte 0x30 0 := .inl ⟨by decide, rfl⟩
  -- below 0x20 the two leading digits are zeros
  have hhex : Hex4 (0x30 :: 0x30 :: b₁ :: b₂ :: r) c.toNat r := by
    have h := Hex4.mk (r := r) hzero hzero hb₁ hb₂
    rwa [show 0 * 0x1000 + 0 * 0x100 + c.toNat / 16 * 0x10 + c.toNat % 16 = c.toNat by omega] at h
  rw [h₁, h₂]
  have h := CharText.unicode hhex (.inl (by omega))
  rwa [Char.ofNat_toNat] at h

/-- An escaped character denotes itself. -/
theorem charText_escape (c : Char) : CharText (utf8Bytes (escape c) ++ r) c r := by
  have short {b : UInt8} {c : Char} (h : (b, c) ∈ shortEscapes)
      (hc : utf8Bytes (escape c) = [0x5C, b]) : CharText (utf8Bytes (escape c) ++ r) c r := by
    rw [hc]
    exact .short h
  -- one case for each character that has an escape of its own
  obtain rfl | hquote := eq_or_ne c '"'
  · exact short (b := 0x22) (by decide) rfl
  obtain rfl | hslash := eq_or_ne c '\\'
  · exact short (b := 0x5C) (by decide) rfl
  obtain rfl | hback := eq_or_ne c '\x08'
  · exact short (b := 0x62) (by decide) rfl
  obtain rfl | htab := eq_or_ne c '\t'
  · exact short (b := 0x74) (by decide) rfl
  obtain rfl | hline := eq_or_ne c '\n'
  · exact short (b := 0x6E) (by decide) rfl
  obtain rfl | hfeed := eq_or_ne c '\x0c'
  · exact short (b := 0x66) (by decide) rfl
  obtain rfl | hreturn := eq_or_ne c '\r'
  · exact short (b := 0x72) (by decide) rfl
  rw [escape, if_neg hquote, if_neg hslash, if_neg hback, if_neg htab, if_neg hline, if_neg hfeed,
    if_neg hreturn]
  by_cases hcontrol : c.toNat < 0x20
  · rw [if_pos hcontrol]
    simp only [utf8Bytes_cons, utf8Bytes_nil, List.append_nil, List.append_assoc]
    exact charText_control hcontrol
  · rw [if_neg hcontrol, utf8Bytes_cons, utf8Bytes_nil, List.append_nil]
    exact .unescaped (by omega) hquote hslash

theorem stringText_escape (cs : List Char) :
    StringText (utf8Bytes (cs.flatMap escape) ++ 0x22 :: r) cs r := by
  induction cs with
  | nil => exact .close
  | cons c cs ih =>
    rw [List.flatMap_cons, utf8Bytes_append, List.append_assoc]
    exact .char (charText_escape c) ih

/-- The quoted form of a string, after its opening quote, is a text of it. -/
theorem stringText_quoteChars (t : String) : ∃ s, utf8Bytes (quoteChars t) ++ r = 0x22 :: s ∧
    StringText s t.toList r := by
  refine ⟨utf8Bytes (t.toList.flatMap escape) ++ 0x22 :: r, ?_, stringText_escape _⟩
  rw [quoteChars, List.cons_append, utf8Bytes_cons, utf8Bytes_append, List.append_assoc,
    List.append_assoc]
  rfl

/-! ### Integers -/

theorem Digits.snoc (h : Digits s ds (b :: r)) (hb : DigitByte b d) : Digits s (ds ++ [d]) r := by
  -- the bytes left are the same at every step, the digit among them
  generalize hs' : b :: r = s' at h
  induction h with
  | last hb' =>
    subst hs'
    exact .cons hb' (.last hb)
  | cons hb' _ ih => exact .cons hb' (ih hs')

theorem digitsValue_append : digitsValue (ds ++ [d]) = digitsValue ds * 10 + d := by
  rw [digitsValue, List.foldl_append]
  rfl

theorem digitByte_digitChar (h : d < 10) :
    ∃ b, utf8EncodeChar (Nat.digitChar d) = [b] ∧ DigitByte b d := by
  refine ⟨UInt8.ofNat (0x30 + d), ?_⟩
  unfold DigitByte
  revert d
  decide

/-- A natural number in decimal is a whole part with its value. -/
theorem wholePart_toDigits (n : Nat) (r : List UInt8) :
    ∃ ds, WholePart (utf8Bytes (Nat.toDigits 10 n) ++ r) ds r ∧ digitsValue ds = n := by
  induction n using Nat.strongRecOn generalizing r with
  | ind n ih =>
    rcases Nat.lt_or_ge n 10 with hn | hn
    · obtain ⟨b, hchar, hb⟩ := digitByte_digitChar hn
      rw [Nat.toDigits_of_lt_base hn, utf8Bytes_cons, hchar]
      rcases Nat.eq_zero_or_pos n with rfl | hpos
      · rw [digitByte_zero_iff.mp hb]
        exact ⟨[0], .zero, rfl⟩
      · exact ⟨[n], .digits hpos.ne' (.last hb), by simp [digitsValue]⟩
    · -- all digits but the last are those of a tenth of the number
      obtain ⟨b, hchar, hb⟩ := digitByte_digitChar (Nat.mod_lt n (by decide : 10 > 0))
      obtain ⟨ds, hds, hvalue⟩ := ih (n / 10) (by omega) (b :: r)
      refine ⟨ds ++ [n % 10], ?_, by rw [digitsValue_append, hvalue]; omega⟩
      rw [Nat.toDigits_of_base_le (by decide) hn, utf8Bytes_append, utf8Bytes_cons, hchar,
        utf8Bytes_nil, List.append_assoc]
      -- the leading digits are those of a positive number, so they are no lone zero
      generalize hs : utf8Bytes (Nat.toDigits 10 (n / 10)) ++ b :: r = s at hds
      cases hds with
      | zero =>
        have hzero : digitsValue [0] = 0 := rfl
        omega
      | digits hd hdigits => exact hs ▸ .digits hd (hdigits.snoc hb)

/-- An integer that a text keeps exact. -/
def Number.IsExact (n : Number) : Prop :=
  ∃ i, n = .integer i ∧ -0x8000000000000000 ≤ i ∧ i ≤ 0xFFFFFFFFFFFFFFFF

theorem Number.isExact_integer_iff {n : Int} :
    (Number.integer n).IsExact ↔ -0x8000000000000000 ≤ n ∧ n ≤ 0xFFFFFFFFFFFFFFFF := by
  constructor
  · rintro ⟨i, hi, hrange⟩
    obtain rfl := Number.integer.inj hi
    exact hrange
  · exact fun hrange => ⟨n, rfl, hrange⟩

instance (n : Number) : Decidable n.IsExact :=
  match n with
  | .integer _ => decidable_of_iff _ Number.isExact_integer_iff.symm
  | .double _ => .isFalse fun ⟨_, hi, _⟩ => Number.noConfusion hi

/-- A printed integer is a token that denotes it. -/
theorem tokenText_intChars {n : Int} (hlow : -0x8000000000000000 ≤ n)
    (hhigh : n ≤ 0xFFFFFFFFFFFFFFFF) :
    ∃ t, TokenText (utf8Bytes (intChars n) ++ r) t r ∧ t.Denotes (.integer n) := by
  obtain ⟨ds, hds, hvalue⟩ := wholePart_toDigits n.natAbs r
  refine ⟨⟨decide (n < 0), ds, [], none⟩, ?_, .integer ⟨rfl, rfl, ?_, hlow, hhigh, ?_⟩⟩
  · rw [intChars]
    split_ifs with hneg
    · rw [decide_eq_true hneg, utf8Bytes_cons, List.append_assoc]
      exact .mk .minus hds .absent .absent
    · rw [decide_eq_false hneg]
      exact .mk .absent hds .absent .absent
  · -- the sign and the value of the digits make up the integer again
    rw [hvalue]
    rcases lt_or_ge n 0 with hneg | hneg
    · rw [decide_eq_true hneg, if_pos rfl]
      omega
    · rw [decide_eq_false (not_lt.mpr hneg), if_neg Bool.false_ne_true]
      omega
  · intro hneg
    exact (of_decide_eq_true hneg).ne

/-! ### Documents -/

/-- All numbers are integers that a text keeps exact. -/
def Value.IsExact (v : Value) : Prop := ∀ n ∈ v.numbers, n.IsExact

instance (v : Value) : Decidable v.IsExact := inferInstanceAs (Decidable (∀ n ∈ v.numbers, _))

theorem Value.isExact_array_iff : (Value.array vs).IsExact ↔ ∀ v ∈ vs, v.IsExact := by
  constructor
  · intro h v hv n hn
    exact h n (Value.mem_itemsNumbers.mpr ⟨v, hv, hn⟩)
  · intro h n hn
    obtain ⟨v, hv, hn⟩ := Value.mem_itemsNumbers.mp hn
    exact h v hv n hn

theorem Value.isExact_object_iff : (Value.object ms).IsExact ↔ ∀ m ∈ ms, m.2.IsExact := by
  constructor
  · intro h m hm n hn
    exact h n (Value.mem_membersNumbers.mpr ⟨m, hm, hn⟩)
  · intro h n hn
    obtain ⟨m, hm, hn⟩ := Value.mem_membersNumbers.mp hn
    exact h m hm n hn

/-- A printed member is a text of it if its printed value is one. -/
theorem memberText_chars (k : String) {cs : List Char} (hv : ValueText (utf8Bytes cs ++ r) v r) :
    MemberText (utf8Bytes (quoteChars k ++ ':' :: cs) ++ r) (k, v) r := by
  obtain ⟨s, hs, htext⟩ := stringText_quoteChars (r := 0x3A :: (utf8Bytes cs ++ r)) k
  rw [utf8Bytes_append, utf8Bytes_cons, List.append_assoc, List.append_assoc]
  change MemberText (utf8Bytes (quoteChars k) ++ 0x3A :: (utf8Bytes cs ++ r)) (k, v) r
  rw [hs]
  have h := MemberText.mk htext .nil .nil hv
  rwa [String.ofList_toList] at h

mutual

/-- A printed document without doubles is a text of itself. -/
theorem valueText_chars :
    (v : Value) → v.IsExact → ∀ r, ValueText (utf8Bytes v.chars ++ r) v r
  | .null, _, _ => .null
  | .bool true, _, _ => .boolTrue
  | .bool false, _, _ => .boolFalse
  | .number n, h, r => by
    obtain ⟨i, rfl, hlow, hhigh⟩ := h n List.mem_cons_self
    obtain ⟨t, ht, hdenotes⟩ := tokenText_intChars (r := r) hlow hhigh
    exact .number ht hdenotes
  | .string t, _, r => by
    obtain ⟨s, hs, htext⟩ := stringText_quoteChars (r := r) t
    have h := ValueText.string htext
    rw [String.ofList_toList] at h
    exact hs ▸ h
  | .array [], _, _ => .emptyArray .nil
  | .array (v :: vs), h, r =>
    .array (itemsText_chars (v :: vs) (List.cons_ne_nil v vs) (Value.isExact_array_iff.mp h) r)
  | .object [], _, _ => .emptyObject .nil
  | .object (m :: ms), h, r =>
    .object (membersText_chars (m :: ms) (List.cons_ne_nil m ms)
      (Value.isExact_object_iff.mp h) r)

theorem itemsText_chars : (vs : List Value) → vs ≠ [] → (∀ v ∈ vs, v.IsExact) →
    ∀ r, ItemsText (utf8Bytes (itemsChars vs) ++ r) vs r
  | [], hne, _, _ => absurd rfl hne
  | [v], _, h, r => by
    have hv := valueText_chars v (h v List.mem_cons_self) (0x5D :: r)
    rw [itemsChars, utf8Bytes_append, List.append_assoc]
    exact .last .nil hv .nil
  | v :: w :: vs, _, h, r => by
    have hv := valueText_chars v (h v List.mem_cons_self)
      (0x2C :: (utf8Bytes (itemsChars (w :: vs)) ++ r))
    have hvs := itemsText_chars (w :: vs) (List.cons_ne_nil w vs) (List.forall_mem_cons.mp h).2 r
    rw [itemsChars, utf8Bytes_append, List.append_assoc]
    · exact .cons .nil hv .nil hvs
    · simp

theorem membersText_chars : (ms : List (String × Value)) → ms ≠ [] →
    (∀ m ∈ ms, m.2.IsExact) → ∀ r, MembersText (utf8Bytes (membersChars ms) ++ r) ms r
  | [], hne, _, _ => absurd rfl hne
  | [(k, v)], _, h, r => by
    have hv := valueText_chars v (h (k, v) List.mem_cons_self) (0x7D :: r)
    rw [membersChars, utf8Bytes_append, List.append_assoc]
    exact .last .nil (memberText_chars k hv) .nil
  | (k, v) :: m :: ms, _, h, r => by
    have hv := valueText_chars v (h (k, v) List.mem_cons_self)
      (0x2C :: (utf8Bytes (membersChars (m :: ms)) ++ r))
    have hms := membersText_chars (m :: ms) (List.cons_ne_nil m ms)
      (List.forall_mem_cons.mp h).2 r
    have hm := memberText_chars k hv
    rw [membersChars, utf8Bytes_append, List.append_assoc]
    · exact .cons .nil hm .nil hms
    · simp

end

/-! ### Integers of a text -/

mutual

/-- The integers of a text are kept exact. -/
theorem ValueText.isExact_of_mem {s r : List UInt8} {v : Value} {i : Int} :
    ValueText s v r → Number.integer i ∈ v.numbers → (Number.integer i).IsExact
  | .null, h | .boolTrue, h | .boolFalse, h | .string _, h | .emptyArray _, h
  | .emptyObject _, h => absurd h List.not_mem_nil
  | .number _ hn, h => by
    rw [Value.numbers, List.mem_singleton] at h
    subst h
    -- a token denotes an integer only within the range
    cases hn with
    | integer hwrites => exact ⟨i, rfl, hwrites.low, hwrites.high⟩
  | .array hs, h => hs.isExact_of_mem h
  | .object hs, h => hs.isExact_of_mem h

theorem ItemsText.isExact_of_mem {s r : List UInt8} {vs : List Value} {i : Int} :
    ItemsText s vs r → Number.integer i ∈ Value.itemsNumbers vs → (Number.integer i).IsExact
  | .last _ hv _, h => by
    rw [Value.itemsNumbers, Value.itemsNumbers, List.append_nil] at h
    exact hv.isExact_of_mem h
  | .cons _ hv _ hs, h => by
    rcases List.mem_append.mp h with h | h
    · exact hv.isExact_of_mem h
    · exact hs.isExact_of_mem h

theorem MemberText.isExact_of_mem {s r : List UInt8} {m : String × Value} {i : Int} :
    MemberText s m r → Number.integer i ∈ m.2.numbers → (Number.integer i).IsExact
  | .mk _ _ _ hv, h => hv.isExact_of_mem h

theorem MembersText.isExact_of_mem {s r : List UInt8} {ms : List (String × Value)} {i : Int} :
    MembersText s ms r → Number.integer i ∈ Value.membersNumbers ms → (Number.integer i).IsExact
  | .last _ hm _, h => by
    rw [Value.membersNumbers, Value.membersNumbers, List.append_nil] at h
    exact hm.isExact_of_mem h
  | .cons _ hm _ hs, h => by
    rcases List.mem_append.mp h with h | h
    · exact hm.isExact_of_mem h
    · exact hs.isExact_of_mem h

end

/-- All numbers are integers. -/
def Value.NoDouble (v : Value) : Prop := ∀ n ∈ v.numbers, ∃ i, n = .integer i

/-- Merged values of the grammar are exact if no double is left in them. -/
theorem ValueText.isExact_merged (h : ValueText s v r) (hv : v.merged.NoDouble) :
    v.merged.IsExact := by
  intro n hn
  obtain ⟨i, rfl⟩ := hv n hn
  exact h.isExact_of_mem (Value.numbers_merged_subset v hn)

/-! ### Texts -/

theorem encode_text (v : Value) : Utf8.encode v.text = utf8Bytes v.chars := by
  rw [Utf8.encode_eq, Value.text, String.toList_ofList]
  rfl

/-- The text of a document without doubles is a text of that document. -/
theorem valueText_text (hv : v.IsExact) : ValueText (Utf8.encode v.text) v [] := by
  have h := valueText_chars v hv []
  rwa [List.append_nil, ← encode_text] at h

/-- Unless it is nested too deeply, the text of a document without doubles is read as it. -/
theorem settles_text (hv : v.IsExact) :
    Settles 127 v.depth (readPrefix (Utf8.encode v.text)) (v, []) :=
  readPrefix_of_valueText .nil (valueText_text hv) endsToken_nil

theorem document_text (hv : v.IsExact) (hd : v.depth ≤ 127) : Document (Utf8.encode v.text) v :=
  ⟨⟨_, [], .nil, valueText_text hv, .nil⟩, hd⟩

end ScriptSandbox.Json
