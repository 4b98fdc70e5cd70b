import Mathlib.Tactic.Common
import ScriptSandbox.Json.Reader
import ScriptSandbox.Proofs.Except
import ScriptSandbox.Proofs.Json.Grammar

/-!
# Reading number tokens

The reader of numbers takes the longest token at the start of the bytes. So what it takes is a
token of the grammar, and a token of the grammar is what it takes if no byte follows that could
continue a number.

## Main definitions

* `Json.EndsToken`: no number goes on in these bytes

## Main results

* `Json.tokenText_of_readToken`, `Json.readToken_of_tokenText`: reading tokens
* `Json.Token.number_eq_ok_iff`: the number a token denotes
-/

namespace ScriptSandbox

namespace Json

variable {b : UInt8} {d : Nat} {ds found : List Nat} {s r : List UInt8}

/-! ### Digits -/

theorem digit?_eq_some_iff : digit? b = some d ↔ DigitByte b d := by
  unfold digit? DigitByte
  simp only [UInt8.le_iff_toNat_le, UInt8.reduceToNat, Option.ite_none_right_eq_some,
    Option.some.injEq]
  omega

theorem digit?_eq_none_iff : digit? b = none ↔ ∀ d, ¬ DigitByte b d := by
  simp [Option.eq_none_iff_forall_ne_some, digit?_eq_some_iff]

/-- The bytes do not start with a digit. -/
def NoDigit (r : List UInt8) : Prop := ∀ b ∈ r.head?, digit? b = none

/-- The bytes do not start with anything that could continue a number. -/
structure EndsToken (r : List UInt8) : Prop where
  noDigit : NoDigit r
  noPoint : ∀ b ∈ r.head?, b ≠ 0x2E
  noExponent : ∀ b ∈ r.head?, b ≠ 0x65 ∧ b ≠ 0x45

theorem Digits.length_lt (h : Digits s ds r) : r.length < s.length := by
  induction h with
  | last => simp
  | cons _ _ ih => exact Nat.lt_succ_of_lt ih

theorem digits_of_digits (found : List Nat) (h : Digits s ds r) (hr : NoDigit r) :
    digits found s = (found.reverse ++ ds, r) := by
  induction h generalizing found with
  | @last b d r hb =>
    rw [digits, digit?_eq_some_iff.mpr hb]
    cases r with
    | nil => simp [digits]
    | cons c r => simp [digits, hr c rfl]
  | cons hb hs ih =>
    rw [digits, digit?_eq_some_iff.mpr hb]
    simp [ih _ hr]

/-- The digits behind those already found are none, or digits of the grammar. -/
theorem exists_of_digits (h : digits found s = (ds, r)) :
    ∃ es, ds = found.reverse ++ es ∧ (es = [] ∧ s = r ∨ Digits s es r) := by
  -- the loop stops at the first byte that is not a digit
  induction s generalizing found with
  | nil =>
    simp only [digits, Prod.mk.injEq] at h
    exact ⟨[], by simp [h.1], .inl ⟨rfl, h.2⟩⟩
  | cons b s ih =>
    rw [digits] at h
    split at h
    next d hd =>
      have hb := digit?_eq_some_iff.mp hd
      obtain ⟨es, rfl, hes⟩ := ih h
      refine ⟨d :: es, by simp, .inr ?_⟩
      rcases hes with ⟨rfl, rfl⟩ | hes
      · exact .last hb
      · exact .cons hb hes
    next hd =>
      simp only [Prod.mk.injEq] at h
      exact ⟨[], by simp [h.1], .inl ⟨rfl, h.2⟩⟩

/-- A digit and the digits that are read after it. -/
theorem digits_of_cons (hb : DigitByte b d) (h : digits [d] s = (ds, r)) :
    Digits (b :: s) ds r := by
  obtain ⟨es, rfl, ⟨rfl, rfl⟩ | hes⟩ := exists_of_digits h
  · exact .last hb
  · exact .cons hb hes

/-! ### The parts of a token -/

theorem digitByte_zero_iff : DigitByte b 0 ↔ b = 0x30 := by
  unfold DigitByte
  constructor
  · intro h
    exact UInt8.toNat_inj.mp h.2
  · rintro rfl
    decide

theorem wholePart_of_readWhole (h : readWhole s = .ok (ds, r)) : WholePart s ds r := by
  cases s with
  | nil => simp [readWhole, failBefore] at h
  | cons b s =>
    unfold readWhole at h
    simp only at h
    split at h
    next => simp [failBefore] at h
    next hd =>
      -- a zero is the whole part by itself, and no digit may follow it
      obtain rfl := digitByte_zero_iff.mp (digit?_eq_some_iff.mp hd)
      split at h
      next c s =>
        split at h
        · simp [failAt] at h
        · obtain ⟨rfl, rfl⟩ := Prod.mk.inj (Except.ok.inj h)
          exact .zero
      next =>
        obtain ⟨rfl, rfl⟩ := Prod.mk.inj (Except.ok.inj h)
        exact .zero
    next d hd0 hd =>
      obtain ⟨es, rfl, -⟩ := exists_of_digits (Except.ok.inj h)
      exact .digits hd0 (digits_of_cons (digit?_eq_some_iff.mp hd) (Except.ok.inj h))

theorem readWhole_of_digit (hb : DigitByte b d) (hd : d ≠ 0) :
    readWhole (b :: s) = .ok (digits [d] s) := by
  unfold readWhole
  simp only [digit?_eq_some_iff.mpr hb]

theorem readWhole_of_wholePart (h : WholePart s ds r) (hr : NoDigit r) :
    readWhole s = .ok (ds, r) := by
  cases h with
  | zero =>
    unfold readWhole
    simp only [digit?_eq_some_iff.mpr (digitByte_zero_iff.mpr rfl)]
    cases r with
    | nil => rfl
    | cons c r => simp [hr c rfl]
  | digits hd hs =>
    cases hs with
    | last hb =>
      rw [readWhole_of_digit hb hd]
      cases r with
      | nil => rfl
      | cons c r => simp [digits, hr c rfl]
    | cons hb hs => rw [readWhole_of_digit hb hd, digits_of_digits _ hs hr]; rfl

theorem fractionPart_of_readFraction (h : readFraction s = .ok (ds, r)) :
    FractionPart s ds r := by
  unfold readFraction at h
  split at h
  · split at h
    · simp [failAt] at h
    · simp [failAt] at h
    next ds' r' hne hds =>
      obtain ⟨rfl, rfl⟩ := Prod.mk.inj (Except.ok.inj h)
      obtain ⟨es, rfl, ⟨rfl, rfl⟩ | hes⟩ := exists_of_digits hds
      · exact absurd rfl hne
      · exact .present hes
  · obtain ⟨rfl, rfl⟩ := Prod.mk.inj (Except.ok.inj h)
    exact .absent

theorem readFraction_of_fractionPart (h : FractionPart s ds r) (hr : NoDigit r)
    (hp : ∀ b ∈ r.head?, b ≠ 0x2E) : readFraction s = .ok (ds, r) := by
  cases h with
  | absent =>
    unfold readFraction
    split
    next => exact absurd rfl (hp 0x2E rfl)
    next => rfl
  | present hs =>
    rw [readFraction]
    have := digits_of_digits [] hs hr
    rw [this]
    cases hs <;> rfl

theorem exponent_of_readExponentDigits {negative : Bool} {e : Option Exponent}
    (h : readExponentDigits negative s = .ok (e, r)) :
    ∃ ds, e = some ⟨negative, ds⟩ ∧ Digits s ds r := by
  cases s with
  | nil => simp [readExponentDigits, failBefore] at h
  | cons b s =>
    unfold readExponentDigits at h
    simp only at h
    split at h
    next => simp [failBefore] at h
    next d hd =>
      obtain ⟨rfl, rfl⟩ := Prod.mk.inj (Except.ok.inj h)
      exact ⟨_, rfl, digits_of_cons (digit?_eq_some_iff.mp hd) rfl⟩

theorem readExponentDigits_of_digits {negative : Bool} (h : Digits s ds r) (hr : NoDigit r) :
    readExponentDigits negative s = .ok (some ⟨negative, ds⟩, r) := by
  have hall := digits_of_digits [] h hr
  cases h with
  | last hb =>
    unfold readExponentDigits
    simp only [digits, digit?_eq_some_iff.mpr hb] at hall ⊢
    rw [hall]
    rfl
  | cons hb hs =>
    unfold readExponentDigits
    simp only [digits, digit?_eq_some_iff.mpr hb] at hall ⊢
    rw [hall]
    rfl

theorem exponentPart_of_readExponent {e : Option Exponent} (h : readExponent s = .ok (e, r)) :
    ExponentPart s e r := by
  cases s with
  | nil =>
    obtain ⟨rfl, rfl⟩ := Prod.mk.inj (Except.ok.inj h)
    exact .absent
  | cons b s =>
    unfold readExponent at h
    simp only at h
    split at h
    next hb =>
      split at h
      next s =>
        obtain ⟨ds, rfl, hds⟩ := exponent_of_readExponentDigits h
        exact .present hb .plus hds
      next s =>
        obtain ⟨ds, rfl, hds⟩ := exponent_of_readExponentDigits h
        exact .present hb .minus hds
      next =>
        obtain ⟨ds, rfl, hds⟩ := exponent_of_readExponentDigits h
        exact .present hb .absent hds
    next =>
      obtain ⟨rfl, rfl⟩ := Prod.mk.inj (Except.ok.inj h)
      exact .absent

theorem Digits.exists_cons (h : Digits s ds r) : ∃ b d s', s = b :: s' ∧ DigitByte b d := by
  cases h with
  | last hb => exact ⟨_, _, _, rfl, hb⟩
  | cons hb hs => exact ⟨_, _, _, rfl, hb⟩

theorem DigitByte.ne {c : UInt8} (h : DigitByte b d) (hc : digit? c = none) : b ≠ c := by
  rintro rfl
  exact digit?_eq_none_iff.mp hc d h

theorem readExponent_of_exponentPart {e : Option Exponent} (h : ExponentPart s e r)
    (hr : EndsToken r) : readExponent s = .ok (e, r) := by
  cases h with
  | absent =>
    cases s with
    | nil => rfl
    | cons b s =>
      have hb := hr.noExponent b rfl
      unfold readExponent
      simp [hb]
  | present hb hsign hs =>
    unfold readExponent
    simp only [if_pos hb]
    cases hsign with
    | plus => exact readExponentDigits_of_digits hs hr.noDigit
    | minus => exact readExponentDigits_of_digits hs hr.noDigit
    | absent =>
      -- the first digit is not taken for a sign
      obtain ⟨b, d, s', rfl, hd⟩ := hs.exists_cons
      split
      next heq => exact absurd (List.cons.inj heq).1 (hd.ne (by decide))
      next heq => exact absurd (List.cons.inj heq).1 (hd.ne (by decide))
      next => exact readExponentDigits_of_digits hs hr.noDigit

/-! ### Tokens -/

/-- The sign of a number, if there is one. -/
def takeSign : List UInt8 → Bool × List UInt8
  | 0x2D :: r => (true, r)
  | r => (false, r)

theorem readToken_eq (s : List UInt8) : readToken s = (do
    let (whole, s') ← readWhole (takeSign s).2
    let (fraction, s') ← readFraction s'
    let (exponent, s') ← readExponent s'
    return (⟨(takeSign s).1, whole, fraction, exponent⟩, s')) := rfl

theorem tokenText_of_readToken {t : Token} (h : readToken s = .ok (t, r)) : TokenText s t r := by
  rw [readToken_eq] at h
  obtain ⟨⟨whole, s₁⟩, hw, h⟩ := bind_eq_ok_iff.mp h
  obtain ⟨⟨fraction, s₂⟩, hf, h⟩ := bind_eq_ok_iff.mp h
  obtain ⟨⟨exponent, s₃⟩, he, h⟩ := bind_eq_ok_iff.mp h
  obtain ⟨rfl, rfl⟩ := Prod.mk.inj (Except.ok.inj h)
  have hsign : Sign s (takeSign s).1 (takeSign s).2 := by
    unfold takeSign
    split
    · exact .minus
    · exact .absent
  exact .mk hsign (wholePart_of_readWhole hw) (fractionPart_of_readFraction hf)
    (exponentPart_of_readExponent he)

theorem WholePart.exists_cons (h : WholePart s ds r) : ∃ b d s', s = b :: s' ∧ DigitByte b d := by
  cases h with
  | zero => exact ⟨_, 0, _, rfl, digitByte_zero_iff.mpr rfl⟩
  | digits _ hs => exact hs.exists_cons

theorem ExponentPart.noDigit {e : Option Exponent} (h : ExponentPart s e r) (hr : EndsToken r) :
    NoDigit s := by
  cases h with
  | absent => exact hr.noDigit
  | present hb =>
    rintro b ⟨⟩
    rcases hb with rfl | rfl <;> rfl

theorem ExponentPart.noPoint {e : Option Exponent} (h : ExponentPart s e r) (hr : EndsToken r) :
    ∀ b ∈ s.head?, b ≠ 0x2E := by
  cases h with
  | absent => exact hr.noPoint
  | present hb =>
    rintro b ⟨⟩
    rcases hb with rfl | rfl <;> decide

theorem readToken_of_tokenText {t : Token} (h : TokenText s t r) (hr : EndsToken r) :
    readToken s = .ok (t, r) := by
  cases h with
  | @mk negative _ _ _ _ s₁ s₂ s₃ _ hsign hwhole hfraction hexponent =>
    -- no part goes on with a digit, so that each is read up to its end
    have hs₃ := hexponent.noDigit hr
    have hs₂ : NoDigit s₂ := by
      cases hfraction with
      | absent => exact hs₃
      | present => rintro b ⟨⟩; rfl
    have hs : takeSign s = (negative, s₁) := by
      cases hsign with
      | minus => rfl
      | absent =>
        obtain ⟨b, d, s', rfl, hd⟩ := hwhole.exists_cons
        unfold takeSign
        split
        next heq => exact absurd (List.cons.inj heq).1 (hd.ne (by decide))
        next => rfl
    have hf := readFraction_of_fractionPart hfraction hs₃ (hexponent.noPoint hr)
    rw [readToken_eq, hs, readWhole_of_wholePart hwhole hs₂]
    simp only [bind, Except.bind, hf, readExponent_of_exponentPart hexponent hr]
    rfl

/-! ### What tokens denote -/

/-- The number that digits write behind a number that is known. -/
theorem le_foldl_digits (k : Nat) (ds : List Nat) :
    k ≤ ds.foldl (fun n d => n * 10 + d) k := by
  induction ds generalizing k with
  | nil => exact Nat.le_refl k
  | cons d ds ih => exact Nat.le_trans (by omega) (ih (k * 10 + d))

/-- All digits fit into a significand exactly when the number they write does. -/
theorem gather_eq_iff (ds : List Nat) {k n : Nat} (hk : k < UInt64.size) :
    gather k ds = (n, []) ↔ ds.foldl (fun n d => n * 10 + d) k = n ∧ n < UInt64.size := by
  induction ds generalizing k with
  | nil =>
    simp only [gather, Prod.mk.injEq, and_true, List.foldl_nil]
    exact ⟨fun h => ⟨h, h ▸ hk⟩, And.left⟩
  | cons d ds ih =>
    rw [gather, List.foldl_cons]
    split
    next h => exact ih h
    next h =>
      -- what is too large already does not get smaller
      have := le_foldl_digits (k * 10 + d) ds
      simp only [Prod.mk.injEq, reduceCtorEq, and_false, false_iff, not_and]
      omega

theorem Token.writes_of_integer? {t : Token} {n : Int} (h : t.integer? = some n) :
    t.Writes n := by
  have hg := fun m => gather_eq_iff t.whole (k := 0) (n := m) (by decide)
  obtain ⟨negative, whole, fraction, exponent⟩ := t
  simp only at hg
  unfold Token.integer? at h
  simp only at h
  split at h
  next m hm =>
    -- all digits were gathered, so that their number fits into 64 bits
    obtain ⟨hv, hlt⟩ := (hg m).mp hm
    have hsize : UInt64.size = 2 ^ 64 := rfl
    split at h
    next hneg =>
      obtain rfl := Option.some.inj h
      refine ⟨rfl, rfl, ?_, by omega, by omega, ?_⟩ <;> simp_all [digitsValue]
    next hneg =>
      -- zero is left out here: with a minus it is no integer
      split at h
      next hrange =>
        obtain rfl := Option.some.inj h
        refine ⟨rfl, rfl, ?_, by omega, by omega, ?_⟩
        · simp_all [digitsValue]
        · intro _
          omega
      next => simp at h
  next => simp at h

theorem Token.Writes.integer?_eq {t : Token} {n : Int} (h : t.Writes n) : t.integer? = some n := by
  have hg := fun m => gather_eq_iff t.whole (k := 0) (n := m) (by decide)
  obtain ⟨negative, whole, fraction, exponent⟩ := t
  obtain ⟨hf, he, hv, hlow, hhigh, hne⟩ := h
  simp only at hg hf he hv hne
  subst hf he
  unfold Token.integer?
  have hlt : digitsValue whole < UInt64.size := by
    have hsize : UInt64.size = 2 ^ 64 := rfl
    split at hv <;> omega
  have hm := (hg (digitsValue whole)).mpr ⟨rfl, hlt⟩
  simp only [hm]
  cases negative with
  | false => simp_all
  | true =>
    have := hne rfl
    simp only [if_true] at hv
    rw [if_neg (by simp), if_pos (by omega), hv]

theorem Token.integer?_eq_some_iff {t : Token} {n : Int} : t.integer? = some n ↔ t.Writes n :=
  ⟨Token.writes_of_integer?, Token.Writes.integer?_eq⟩

theorem Token.number_eq_ok_iff {t : Token} {n : Number} : t.number = .ok n ↔ t.Denotes n := by
  unfold Token.number
  cases hi : t.integer? with
  | some k =>
    have hw := integer?_eq_some_iff.mp hi
    simp only [Except.ok.injEq]
    constructor
    · rintro rfl
      exact .integer hw
    · rintro (⟨h⟩ | ⟨h, -⟩)
      · rw [← Option.some.inj ((integer?_eq_some_iff.mpr h).symm.trans hi)]
      · exact absurd hw (h k)
  | none =>
    have hw : ∀ k, ¬ t.Writes k := fun k h => by
      rw [integer?_eq_some_iff.mpr h] at hi
      simp at hi
    constructor
    · intro h
      obtain ⟨x, hx, h⟩ := bind_eq_ok_iff.mp h
      obtain rfl := Except.ok.inj h
      exact .double hw hx
    · rintro (⟨h⟩ | ⟨-, hx⟩)
      · exact absurd h (hw _)
      · exact bind_eq_ok_iff.mpr ⟨_, hx, rfl⟩

/-! ### Numbers -/

theorem exists_token_of_readNumber {n : Number} (h : readNumber s = .ok (n, r)) :
    ∃ t, TokenText s t r ∧ t.Denotes n := by
  obtain ⟨⟨t, s'⟩, ht, h⟩ := bind_eq_ok_iff.mp h
  simp only at h
  split at h
  next m hm =>
    obtain ⟨rfl, rfl⟩ := Prod.mk.inj (Except.ok.inj h)
    exact ⟨t, tokenText_of_readToken ht, Token.number_eq_ok_iff.mp hm⟩
  next => simp [failAt] at h
  next => simp [failBefore] at h

theorem readNumber_of_tokenText {t : Token} {n : Number} (ht : TokenText s t r)
    (hn : t.Denotes n) (hr : EndsToken r) : readNumber s = .ok (n, r) := by
  refine bind_eq_ok_iff.mpr ⟨(t, r), readToken_of_tokenText ht hr, ?_⟩
  simp only [Token.number_eq_ok_iff.mpr hn]
  rfl

theorem WholePart.length_lt (h : WholePart s ds r) : r.length < s.length := by
  cases h with
  | zero => simp
  | digits _ hs => exact hs.length_lt

theorem FractionPart.length_le (h : FractionPart s ds r) : r.length ≤ s.length := by
  cases h with
  | absent => exact Nat.le_refl _
  | present hs => exact Nat.le_succ_of_le (Nat.le_of_lt hs.length_lt)

theorem ExponentSign.length_le {negative : Bool} (h : ExponentSign s negative r) :
    r.length ≤ s.length := by
  cases h <;> simp

theorem ExponentPart.length_le {e : Option Exponent} (h : ExponentPart s e r) :
    r.length ≤ s.length := by
  cases h with
  | absent => exact Nat.le_refl _
  | present _ hsign hs =>
    have := hsign.length_le
    have := hs.length_lt
    simp only [List.length_cons]
    omega

theorem Sign.length_le {negative : Bool} (h : Sign s negative r) : r.length ≤ s.length := by
  cases h <;> simp

theorem TokenText.length_lt {t : Token} (h : TokenText s t r) : r.length < s.length := by
  cases h with
  | mk hsign hwhole hfraction hexponent =>
    calc r.length ≤ _ := hexponent.length_le
      _ ≤ _ := hfraction.length_le
      _ < _ := hwhole.length_lt
      _ ≤ s.length := hsign.length_le

/-- A token starts with a minus or a digit. -/
theorem TokenText.exists_cons {t : Token} (h : TokenText s t r) :
    ∃ b s', s = b :: s' ∧ (b = 0x2D ∨ (digit? b).isSome) := by
  cases h with
  | mk hsign hwhole hfraction hexponent =>
    cases hsign with
    | minus => exact ⟨_, _, rfl, .inl rfl⟩
    | absent =>
      obtain ⟨b, d, s', rfl, hd⟩ := hwhole.exists_cons
      exact ⟨b, s', rfl, .inr (by rw [digit?_eq_some_iff.mpr hd]; rfl)⟩

end Json

end ScriptSandbox
