import Mathlib.Data.List.Forall2
import Mathlib.Data.List.Induction
import Mathlib.Tactic.IntervalCases
import ScriptSandbox.Net.Reader

/-!
# Numerals in addresses

The numbers in an address are written in digits, the first one first: octets in decimal, without
leading zeros, groups in at most four hexadecimal digits, scopes and ports in any number of decimal
ones. A reader of numbers takes all digits at the start of a text.

## Main definitions

* `Net.IsNumeral`, `Net.IsOctet`, `Net.IsGroup`: a text is a numeral of a number
* `Net.NoDigit`: a text does not begin with a digit

## Main results

* `Net.readDecimal_eq_some_iff`, `Net.readOctet_eq_some_iff`, `Net.readGroup_eq_some_iff`: the
  numerals that are read
* `Net.isNumeral_toDigits`, `Net.isOctet_toDigits`, `Net.isGroup_toDigits`: the numerals that are
  written
-/

namespace ScriptSandbox.Net

variable {radix bound n d : Nat} {c : Char} {s t rest : List Char} {ds : List Nat} {b : UInt8}
  {g : UInt16}

/-! ### Digits -/

/-- A character is the digit of a number, in either case if it is a letter. -/
def DigitOf (radix : Nat) (c : Char) (d : Nat) : Prop :=
  d < radix ∧ d < 16 ∧ (c = d.digitChar ∨ c = d.digitChar.toUpper)

theorem digit?_digitChar (h : d < 16) :
    digit? radix d.digitChar = (some d).filter (· < radix) ∧
      digit? radix d.digitChar.toUpper = (some d).filter (· < radix) := by
  interval_cases d <;> exact ⟨rfl, rfl⟩

/-- A character of a range is known by its distance from the first one. -/
theorem eq_ofNat_of_range {low high : Char} (h : low ≤ c ∧ c ≤ high) :
    c.toNat - low.toNat ≤ high.toNat - low.toNat ∧
      c = Char.ofNat (low.toNat + (c.toNat - low.toNat)) := by
  have hlow : low.toNat ≤ c.toNat := h.1
  have hhigh : c.toNat ≤ high.toNat := h.2
  rw [Nat.add_sub_cancel' hlow, Char.ofNat_toNat]
  exact ⟨Nat.sub_le_sub_right hhigh _, rfl⟩

theorem digit?_eq_some_iff : digit? radix c = some d ↔ DigitOf radix c d := by
  constructor
  · intro h
    unfold digit? at h
    dsimp only at h
    rw [Option.filter_eq_some_iff, decide_eq_true_eq] at h
    obtain ⟨hvalue, hradix⟩ := h
    refine ⟨hradix, ?_⟩
    split_ifs at hvalue with hdecimal hlower hupper
    · obtain ⟨hle, hc⟩ := eq_ofNat_of_range hdecimal
      obtain rfl := Option.some.inj hvalue
      generalize c.toNat - '0'.toNat = n at hle hc
      change n ≤ 9 at hle
      interval_cases n <;> exact ⟨by decide, .inl hc⟩
    · obtain ⟨hle, hc⟩ := eq_ofNat_of_range hlower
      obtain rfl := Option.some.inj hvalue
      generalize c.toNat - 'a'.toNat = n at hle hc
      change n ≤ 5 at hle
      interval_cases n <;> exact ⟨by decide, .inl hc⟩
    · obtain ⟨hle, hc⟩ := eq_ofNat_of_range hupper
      obtain rfl := Option.some.inj hvalue
      generalize c.toNat - 'A'.toNat = n at hle hc
      change n ≤ 5 at hle
      interval_cases n <;> exact ⟨by decide, .inr hc⟩
  · rintro ⟨hradix, hd, rfl | rfl⟩
    · rw [(digit?_digitChar hd).1, Option.filter_some, if_pos (by simpa using hradix)]
    · rw [(digit?_digitChar hd).2, Option.filter_some, if_pos (by simpa using hradix)]

/-- A text does not begin with a digit. -/
def NoDigit (radix : Nat) (s : List Char) : Prop := ∀ c ∈ s.head?, digit? radix c = none

theorem noDigit_nil : NoDigit radix [] := nofun

theorem noDigit_cons (h : digit? radix c = none) : NoDigit radix (c :: rest) := by
  intro c' hc'
  rwa [← Option.some.inj hc']

/-- All digits at the start of a text are taken. -/
theorem digits_eq_iff : digits radix s = (ds, rest) ↔
    ∃ t, s = t ++ rest ∧ List.Forall₂ (DigitOf radix) t ds ∧ NoDigit radix rest := by
  induction s generalizing ds with
  | nil =>
    constructor
    · intro h
      obtain ⟨rfl, rfl⟩ := Prod.mk.inj h
      exact ⟨[], rfl, .nil, nofun⟩
    · rintro ⟨t, hs, hds, -⟩
      obtain ⟨rfl, rfl⟩ := List.append_eq_nil_iff.mp hs.symm
      rw [List.forall₂_nil_left_iff.mp hds]
      rfl
  | cons c s ih =>
    rw [digits]
    cases hc : digit? radix c with
    | none =>
      constructor
      · intro h
        obtain ⟨rfl, rfl⟩ := Prod.mk.inj h
        exact ⟨[], rfl, .nil, fun c' hc' => by rwa [← Option.some.inj hc']⟩
      · rintro ⟨t, hs, hds, -⟩
        cases hds with
        | nil => exact congrArg _ hs
        | cons hd _ =>
          obtain ⟨rfl, -⟩ := List.cons.inj hs
          exact nomatch hc.symm.trans (digit?_eq_some_iff.mpr hd)
    | some d =>
      dsimp only
      constructor
      · intro h
        obtain ⟨rfl, hrest⟩ := Prod.mk.inj h
        obtain ⟨t, rfl, hds, hnone⟩ := ih.mp (Prod.ext rfl hrest)
        exact ⟨c :: t, rfl, .cons (digit?_eq_some_iff.mp hc) hds, hnone⟩
      · rintro ⟨t, hs, hds, hnone⟩
        cases hds with
        | nil =>
          subst hs
          exact nomatch hc.symm.trans (hnone c rfl)
        | cons hd hds =>
          obtain ⟨rfl, htail⟩ := List.cons.inj hs
          obtain rfl := Option.some.inj (hc.symm.trans (digit?_eq_some_iff.mpr hd))
          rw [ih.mpr ⟨_, htail, hds, hnone⟩]

/-! ### Numerals -/

/-- A text is a numeral of a number. -/
def IsNumeral (radix : Nat) (s : List Char) (n : Nat) : Prop :=
  s ≠ [] ∧ ∃ ds, List.Forall₂ (DigitOf radix) s ds ∧ ofDigits radix ds = n

/-- A text is a decimal numeral of an octet, without leading zeros. -/
structure IsOctet (s : List Char) (b : UInt8) : Prop where
  numeral : IsNumeral 10 s b.toNat
  noLeadingZero : s.head? = some '0' → s.length = 1

/-- A text is a hexadecimal numeral of a group, of at most four digits. -/
structure IsGroup (s : List Char) (g : UInt16) : Prop where
  numeral : IsNumeral 16 s g.toNat
  short : s.length ≤ 4

theorem IsNumeral.forall_digitOf (h : IsNumeral radix s n) : ∀ c ∈ s, ∃ d, DigitOf radix c d := by
  obtain ⟨-, ds, hds, -⟩ := h
  induction hds with
  | nil => nofun
  | cons hd _ ih => exact List.forall_mem_cons.mpr ⟨⟨_, hd⟩, ih⟩

/-- A character that is no digit does not stand in a numeral. -/
theorem IsNumeral.not_mem (h : IsNumeral radix s n) (hc : digit? radix c = none) : c ∉ s := by
  intro hmem
  obtain ⟨d, hd⟩ := h.forall_digitOf c hmem
  exact nomatch hc.symm.trans (digit?_eq_some_iff.mpr hd)

/-- A text is the numeral of one number. -/
theorem IsNumeral.unique {m : Nat} (hm : IsNumeral radix s m) (hn : IsNumeral radix s n) :
    m = n := by
  obtain ⟨-, ds, hds, rfl⟩ := hm
  obtain ⟨-, es, hes, rfl⟩ := hn
  have hd := digits_eq_iff.mpr ⟨s, (List.append_nil s).symm, hds, noDigit_nil⟩
  have he := digits_eq_iff.mpr ⟨s, (List.append_nil s).symm, hes, noDigit_nil⟩
  rw [(Prod.mk.inj (hd.symm.trans he)).1]

theorem ofDigits_append (radix : Nat) (ds : List Nat) (d : Nat) :
    ofDigits radix (ds ++ [d]) = ofDigits radix ds * radix + d := by
  simp [ofDigits]

/-- A number is less than the next power of its radix. -/
theorem ofDigits_lt (h : ∀ d ∈ ds, d < radix) : ofDigits radix ds < radix ^ ds.length := by
  induction ds using List.reverseRecOn with
  | nil => exact Nat.one_pos
  | append_singleton ds d ih =>
    have hd : d < radix := h d (by simp)
    have hds := ih fun d' hd' => h d' (List.mem_append_left _ hd')
    rw [ofDigits_append, List.length_append, List.length_singleton, Nat.pow_succ]
    calc ofDigits radix ds * radix + d < ofDigits radix ds * radix + radix :=
          Nat.add_lt_add_left hd _
      _ = (ofDigits radix ds + 1) * radix := (Nat.succ_mul _ _).symm
      _ ≤ radix ^ ds.length * radix := Nat.mul_le_mul_right _ hds

/-- A first digit that is not zero makes a number large. -/
theorem le_ofDigits (hd : 0 < d) (ds : List Nat) :
    radix ^ ds.length ≤ ofDigits radix (d :: ds) := by
  induction ds using List.reverseRecOn with
  | nil =>
    change 1 ≤ 0 * radix + d
    omega
  | append_singleton ds e ih =>
    rw [← List.cons_append, ofDigits_append, List.length_append, List.length_singleton,
      Nat.pow_succ]
    exact Nat.le_add_right_of_le (Nat.mul_le_mul_right _ ih)

theorem lt_of_forall₂_digitOf (h : List.Forall₂ (DigitOf radix) s ds) : ∀ d ∈ ds, d < radix := by
  induction h with
  | nil => nofun
  | cons hd _ ih => exact List.forall_mem_cons.mpr ⟨hd.1, ih⟩

theorem digitOf_zero_iff (hradix : 0 < radix) : DigitOf radix c 0 ↔ c = '0' := by
  have hchar : Nat.digitChar 0 = '0' := rfl
  simp [DigitOf, hradix, hchar]

theorem head?_eq_zero_iff (hradix : 0 < radix) (h : List.Forall₂ (DigitOf radix) s ds) :
    s.head? = some '0' ↔ ds.head? = some 0 := by
  cases h with
  | nil => simp
  | @cons c d _ _ hd _ =>
    rw [List.head?_cons, List.head?_cons, Option.some_inj, Option.some_inj]
    constructor
    · rintro rfl
      have hzero := digit?_eq_some_iff.mpr ((digitOf_zero_iff hradix).mpr rfl)
      exact Option.some.inj ((digit?_eq_some_iff.mpr hd).symm.trans hzero)
    · rintro rfl
      exact (digitOf_zero_iff hradix).mp hd

/-- An octet has at most three digits. -/
theorem IsOctet.length_le (h : IsOctet s b) : s.length ≤ 3 := by
  obtain ⟨⟨hne, ds, hds, hvalue⟩, hzero⟩ := h
  rw [hds.length_eq] at hzero ⊢
  rw [head?_eq_zero_iff (by decide) hds] at hzero
  cases ds with
  | nil => exact Nat.zero_le _
  | cons d ds =>
    by_cases hd : d = 0
    · have hlength := hzero (congrArg some hd)
      omega
    · by_contra hlong
      have hpow : 10 ^ 3 ≤ 10 ^ ds.length :=
        Nat.pow_le_pow_right (by decide) (by rw [List.length_cons] at hlong; omega)
      have hlarge : 10 ^ ds.length ≤ ofDigits 10 (d :: ds) :=
        le_ofDigits (Nat.pos_of_ne_zero hd) ds
      have hsmall : b.toNat < 256 := b.toNat_lt
      omega

/-! ### Reading -/

/-- A reader that takes all digits, and fails if they are not as it wants them. -/
theorem take_digits_eq_some_iff {α : Type} (P : List Nat → Prop) [DecidablePred P]
    (f : List Nat → α) {a : α} :
    (match digits radix s with
      | (ds, r) => if P ds then some (f ds, r) else none) = some (a, rest) ↔
      ∃ t ds, s = t ++ rest ∧ List.Forall₂ (DigitOf radix) t ds ∧ NoDigit radix rest ∧
        P ds ∧ f ds = a := by
  generalize hdigits : digits radix s = found
  obtain ⟨ds, r⟩ := found
  dsimp only
  constructor
  · intro h
    split_ifs at h with hds
    obtain ⟨rfl, rfl⟩ := Prod.mk.inj (Option.some.inj h)
    obtain ⟨t, hs, hforall, hnone⟩ := digits_eq_iff.mp hdigits
    exact ⟨t, ds, hs, hforall, hnone, hds, rfl⟩
  · rintro ⟨t, ds', hs, hforall, hnone, hds, rfl⟩
    have hsame := digits_eq_iff.mpr ⟨t, hs, hforall, hnone⟩
    obtain ⟨rfl, rfl⟩ := Prod.mk.inj (hdigits.symm.trans hsame)
    rw [if_pos hds]

theorem ne_nil_iff_of_forall₂ {α β : Type} {R : α → β → Prop} {l : List α} {m : List β}
    (h : List.Forall₂ R l m) : l ≠ [] ↔ m ≠ [] := by
  rw [← List.length_pos_iff, ← List.length_pos_iff, h.length_eq]

theorem readDecimal_eq_some_iff : readDecimal bound s = some (n, rest) ↔
    n < bound ∧ ∃ t, s = t ++ rest ∧ IsNumeral 10 t n ∧ NoDigit 10 rest := by
  refine (take_digits_eq_some_iff (fun ds => ds ≠ [] ∧ ofDigits 10 ds < bound)
    (ofDigits 10)).trans ⟨?_, ?_⟩
  · rintro ⟨t, ds, hs, hds, hnone, ⟨hne, hbound⟩, rfl⟩
    exact ⟨hbound, t, hs, ⟨(ne_nil_iff_of_forall₂ hds).mpr hne, ds, hds, rfl⟩, hnone⟩
  · rintro ⟨hbound, t, hs, ⟨hne, ds, hds, rfl⟩, hnone⟩
    exact ⟨t, ds, hs, hds, hnone, ⟨(ne_nil_iff_of_forall₂ hds).mp hne, hbound⟩, rfl⟩

theorem readOctet_eq_some_iff : readOctet s = some (b, rest) ↔
    ∃ t, s = t ++ rest ∧ IsOctet t b ∧ NoDigit 10 rest := by
  refine (take_digits_eq_some_iff (fun ds => ds ≠ [] ∧ ds.length ≤ 3 ∧
    (ds.head? = some 0 → ds.length = 1) ∧ ofDigits 10 ds < 256)
    fun ds => (ofDigits 10 ds).toUInt8).trans ⟨?_, ?_⟩
  · rintro ⟨t, ds, hs, hds, hnone, ⟨hne, -, hzero, hbound⟩, rfl⟩
    have hvalue : (ofDigits 10 ds).toUInt8.toNat = ofDigits 10 ds := by simpa using hbound
    rw [← head?_eq_zero_iff (by decide) hds, ← hds.length_eq] at hzero
    exact ⟨t, hs, ⟨⟨(ne_nil_iff_of_forall₂ hds).mpr hne, ds, hds, hvalue.symm⟩, hzero⟩, hnone⟩
  · rintro ⟨t, hs, h, hnone⟩
    have hshort := h.length_le
    obtain ⟨⟨hne, ds, hds, hvalue⟩, hzero⟩ := h
    rw [head?_eq_zero_iff (by decide) hds] at hzero
    rw [hds.length_eq] at hzero hshort
    refine ⟨t, ds, hs, hds, hnone, ⟨(ne_nil_iff_of_forall₂ hds).mp hne, hshort, hzero, ?_⟩, ?_⟩
    · rw [hvalue]
      exact b.toNat_lt
    · rw [hvalue]
      exact UInt8.ofNat_toNat

theorem readGroup_eq_some_iff : readGroup s = some (g, rest) ↔
    ∃ t, s = t ++ rest ∧ IsGroup t g ∧ NoDigit 16 rest := by
  refine (take_digits_eq_some_iff (fun ds => ds ≠ [] ∧ ds.length ≤ 4)
    fun ds => (ofDigits 16 ds).toUInt16).trans ⟨?_, ?_⟩
  · rintro ⟨t, ds, hs, hds, hnone, ⟨hne, hshort⟩, rfl⟩
    have hbound : ofDigits 16 ds < 65536 :=
      calc ofDigits 16 ds < 16 ^ ds.length := ofDigits_lt (lt_of_forall₂_digitOf hds)
        _ ≤ 16 ^ 4 := Nat.pow_le_pow_right (by decide) hshort
    have hvalue : (ofDigits 16 ds).toUInt16.toNat = ofDigits 16 ds := by simpa using hbound
    refine ⟨t, hs, ⟨⟨(ne_nil_iff_of_forall₂ hds).mpr hne, ds, hds, hvalue.symm⟩, ?_⟩, hnone⟩
    rwa [hds.length_eq]
  · rintro ⟨t, hs, ⟨⟨hne, ds, hds, hvalue⟩, hshort⟩, hnone⟩
    rw [hds.length_eq] at hshort
    refine ⟨t, ds, hs, hds, hnone, ⟨(ne_nil_iff_of_forall₂ hds).mp hne, hshort⟩, ?_⟩
    rw [hvalue]
    exact UInt16.ofNat_toNat

/-! ### Writing -/

theorem digitOf_digitChar (hd : d < radix) (hradix : radix ≤ 16) :
    DigitOf radix d.digitChar d := ⟨hd, Nat.lt_of_lt_of_le hd hradix, .inl rfl⟩

/-- Numbers are written as numerals. -/
theorem isNumeral_toDigits (hone : 1 < radix) (hradix : radix ≤ 16) (n : Nat) :
    IsNumeral radix (Nat.toDigits radix n) n := by
  refine ⟨Nat.toDigits_ne_nil, ?_⟩
  induction n using Nat.strong_induction_on with
  | _ n ih =>
    by_cases hn : n < radix
    · rw [Nat.toDigits_of_lt_base hn]
      refine ⟨[n], .cons (digitOf_digitChar hn hradix) .nil, ?_⟩
      simp [ofDigits]
    · have hn := Nat.le_of_not_lt hn
      obtain ⟨ds, hds, hvalue⟩ := ih (n / radix) (Nat.div_lt_self (by omega) hone)
      have hlast := digitOf_digitChar (Nat.mod_lt n (Nat.zero_lt_of_lt hone)) hradix
      rw [Nat.toDigits_of_base_le hone hn]
      refine ⟨ds ++ [n % radix], List.rel_append hds (.cons hlast .nil), ?_⟩
      rw [ofDigits_append, hvalue]
      exact Nat.div_add_mod' n radix

/-- The first digit that is written is zero only for zero. -/
theorem head?_toDigits_ne (hn : 0 < n) : (Nat.toDigits 10 n).head? ≠ some '0' := by
  induction n using Nat.strong_induction_on with
  | _ n ih =>
    by_cases hlt : n < 10
    · rw [Nat.toDigits_of_lt_base hlt]
      interval_cases n <;> decide
    · have hle := Nat.le_of_not_lt hlt
      rw [Nat.toDigits_of_base_le (by decide) hle,
        List.head?_append_of_ne_nil _ Nat.toDigits_ne_nil]
      exact ih (n / 10) (by omega) (by omega)

theorem isOctet_toDigits (b : UInt8) : IsOctet (Nat.toDigits 10 b.toNat) b := by
  refine ⟨isNumeral_toDigits (by decide) (by decide) _, fun hzero => ?_⟩
  have hb : b.toNat = 0 := Nat.eq_zero_of_not_pos fun hpos => head?_toDigits_ne hpos hzero
  rw [hb]
  rfl

theorem isGroup_toDigits (g : UInt16) : IsGroup (Nat.toDigits 16 g.toNat) g := by
  refine ⟨isNumeral_toDigits (by decide) (by decide) _, ?_⟩
  rw [Nat.length_toDigits_le_iff (by decide) (by decide)]
  exact g.toNat_lt

end ScriptSandbox.Net
