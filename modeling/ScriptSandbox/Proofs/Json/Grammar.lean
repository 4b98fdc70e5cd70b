import ScriptSandbox.Json.Number

/-!
# The grammar of JSON

The grammar of RFC 8259 over bytes, independent of any reader. Every rule is a relation between a
byte string, what its beginning denotes, and the bytes that follow: `ValueText s v r` says that `s`
is a text of the value `v` followed by `r`. Objects keep their members in the order of the text,
repeated names included.

## Main definitions

* `Json.Blanks`: the blanks between tokens
* `Json.TokenText`, `Json.Token.Denotes`: numbers as written, and the number a token denotes
* `Json.CharText`, `Json.StringText`: the characters of a string with their escapes
* `Json.ValueText`, `Json.ItemsText`, `Json.MembersText`: values, and the insides of arrays and
  objects
* `Json.Document`: the value that a whole byte string is a text of
-/

namespace ScriptSandbox.Json

/-- `ws = *( %x20 / %x09 / %x0A / %x0D )` -/
inductive Blanks : List UInt8 → List UInt8 → Prop where
  | nil {s : List UInt8} : Blanks s s
  | cons {b : UInt8} {s r : List UInt8} (hb : b = 0x20 ∨ b = 0x09 ∨ b = 0x0A ∨ b = 0x0D)
      (hs : Blanks s r) : Blanks (b :: s) r

/-! ### Numbers -/

/-- `DIGIT = %x30-39`, with its value. -/
def DigitByte (b : UInt8) (d : Nat) : Prop := d ≤ 9 ∧ b.toNat = 0x30 + d

/-- `1*DIGIT` -/
inductive Digits : List UInt8 → List Nat → List UInt8 → Prop where
  | last {b : UInt8} {d : Nat} {r : List UInt8} (hb : DigitByte b d) : Digits (b :: r) [d] r
  | cons {b : UInt8} {d : Nat} {ds : List Nat} {s r : List UInt8} (hb : DigitByte b d)
      (hs : Digits s ds r) : Digits (b :: s) (d :: ds) r

/-- `int = zero / ( digit1-9 *DIGIT )` -/
inductive WholePart : List UInt8 → List Nat → List UInt8 → Prop where
  | zero {r : List UInt8} : WholePart (0x30 :: r) [0] r
  | digits {d : Nat} {ds : List Nat} {s r : List UInt8} (hd : d ≠ 0)
      (hs : Digits s (d :: ds) r) : WholePart s (d :: ds) r

/-- `[ decimal-point 1*DIGIT ]` -/
inductive FractionPart : List UInt8 → List Nat → List UInt8 → Prop where
  | absent {r : List UInt8} : FractionPart r [] r
  | present {ds : List Nat} {s r : List UInt8} (hs : Digits s ds r) :
      FractionPart (0x2E :: s) ds r

/-- `[ minus / plus ]` of an exponent; `true` for a minus. -/
inductive ExponentSign : List UInt8 → Bool → List UInt8 → Prop where
  | absent {r : List UInt8} : ExponentSign r false r
  | plus {r : List UInt8} : ExponentSign (0x2B :: r) false r
  | minus {r : List UInt8} : ExponentSign (0x2D :: r) true r

/-- `[ e [ minus / plus ] 1*DIGIT ]` -/
inductive ExponentPart : List UInt8 → Option Exponent → List UInt8 → Prop where
  | absent {r : List UInt8} : ExponentPart r none r
  | present {b : UInt8} {negative : Bool} {ds : List Nat} {s s' r : List UInt8}
      (hb : b = 0x65 ∨ b = 0x45) (hsign : ExponentSign s negative s') (hs : Digits s' ds r) :
      ExponentPart (b :: s) (some ⟨negative, ds⟩) r

/-- `[ minus ]` -/
inductive Sign : List UInt8 → Bool → List UInt8 → Prop where
  | absent {r : List UInt8} : Sign r false r
  | minus {r : List UInt8} : Sign (0x2D :: r) true r

/-- `number = [ minus ] int [ frac ] [ exp ]` -/
inductive TokenText : List UInt8 → Token → List UInt8 → Prop where
  | mk {negative : Bool} {whole fraction : List Nat} {exponent : Option Exponent}
      {s s₁ s₂ s₃ r : List UInt8} (hsign : Sign s negative s₁) (hwhole : WholePart s₁ whole s₂)
      (hfraction : FractionPart s₂ fraction s₃) (hexponent : ExponentPart s₃ exponent r) :
      TokenText s ⟨negative, whole, fraction, exponent⟩ r

/-- The number that decimal digits write. -/
def digitsValue (ds : List Nat) : Nat := ds.foldl (fun n d => n * 10 + d) 0

/-- The token has neither fraction nor exponent and writes the integer `n`, which lies between
`-2^63` and `2^64 - 1` and is not a negative zero. -/
structure Token.Writes (t : Token) (n : Int) : Prop where
  fraction : t.fraction = []
  exponent : t.exponent = none
  value : n = if t.negative then -(digitsValue t.whole : Int) else digitsValue t.whole
  low : -0x8000000000000000 ≤ n
  high : n ≤ 0xFFFFFFFFFFFFFFFF
  nonzero : t.negative → n ≠ 0

/-- The number a token denotes: the integer it writes, or else the double it converts to. A token
may convert to no double. -/
inductive Token.Denotes : Token → Number → Prop where
  | integer {t : Token} {n : Int} (h : t.Writes n) : Token.Denotes t (.integer n)
  | double {t : Token} {x : Float} (h : ∀ n, ¬ t.Writes n) (hx : t.double = .ok x) :
      Token.Denotes t (.double x)

/-! ### Strings -/

/-- `HEXDIG` in either case, with its value. -/
def HexByte (b : UInt8) (d : Nat) : Prop :=
  DigitByte b d ∨ 10 ≤ d ∧ d ≤ 15 ∧ (b.toNat = 0x37 + d ∨ b.toNat = 0x57 + d)

/-- `4HEXDIG` -/
inductive Hex4 : List UInt8 → Nat → List UInt8 → Prop where
  | mk {b₁ b₂ b₃ b₄ : UInt8} {d₁ d₂ d₃ d₄ : Nat} {r : List UInt8} (h₁ : HexByte b₁ d₁)
      (h₂ : HexByte b₂ d₂) (h₃ : HexByte b₃ d₃) (h₄ : HexByte b₄ d₄) :
      Hex4 (b₁ :: b₂ :: b₃ :: b₄ :: r) (d₁ * 0x1000 + d₂ * 0x100 + d₃ * 0x10 + d₄) r

/-- The letters that may follow a backslash, other than `u`, with the characters they stand for. -/
def shortEscapes : List (UInt8 × Char) :=
  [(0x22, '"'), (0x5C, '\\'), (0x2F, '/'), (0x62, '\x08'), (0x66, '\x0c'), (0x6E, '\n'),
    (0x72, '\r'), (0x74, '\t')]

/-- `char = unescaped / escape (...)`. A character that is not escaped stands in UTF-8, and one
beyond the basic plane may be escaped as a pair of surrogates. -/
inductive CharText : List UInt8 → Char → List UInt8 → Prop where
  | unescaped {c : Char} {r : List UInt8} (hc : 0x20 ≤ c.toNat) (hquote : c ≠ '"')
      (hslash : c ≠ '\\') : CharText (String.utf8EncodeChar c ++ r) c r
  | short {b : UInt8} {c : Char} {r : List UInt8} (h : (b, c) ∈ shortEscapes) :
      CharText (0x5C :: b :: r) c r
  | unicode {n : Nat} {s r : List UInt8} (h : Hex4 s n r) (hn : n < 0xD800 ∨ 0xDFFF < n) :
      CharText (0x5C :: 0x75 :: s) (Char.ofNat n) r
  | pair {n m : Nat} {s s' r : List UInt8} (h : Hex4 s n (0x5C :: 0x75 :: s')) (h' : Hex4 s' m r)
      (hn : 0xD800 ≤ n ∧ n ≤ 0xDBFF) (hm : 0xDC00 ≤ m ∧ m ≤ 0xDFFF) :
      CharText (0x5C :: 0x75 :: s)
        (Char.ofNat (0x10000 + (n - 0xD800) * 0x400 + (m - 0xDC00))) r

/-- `*char quotation-mark`: a string after its opening quote. -/
inductive StringText : List UInt8 → List Char → List UInt8 → Prop where
  | close {r : List UInt8} : StringText (0x22 :: r) [] r
  | char {c : Char} {cs : List Char} {s s' r : List UInt8} (hc : CharText s c s')
      (hcs : StringText s' cs r) : StringText s (c :: cs) r

/-! ### Values -/

mutual

/-- `value = false / null / true / object / array / number / string` -/
inductive ValueText : List UInt8 → Value → List UInt8 → Prop where
  | null {r : List UInt8} : ValueText (0x6E :: 0x75 :: 0x6C :: 0x6C :: r) .null r
  | boolTrue {r : List UInt8} : ValueText (0x74 :: 0x72 :: 0x75 :: 0x65 :: r) (.bool true) r
  | boolFalse {r : List UInt8} :
      ValueText (0x66 :: 0x61 :: 0x6C :: 0x73 :: 0x65 :: r) (.bool false) r
  | number {t : Token} {n : Number} {s r : List UInt8} (ht : TokenText s t r)
      (hn : t.Denotes n) : ValueText s (.number n) r
  | string {cs : List Char} {s r : List UInt8} (hs : StringText s cs r) :
      ValueText (0x22 :: s) (.string (String.ofList cs)) r
  | emptyArray {s r : List UInt8} (hs : Blanks s (0x5D :: r)) : ValueText (0x5B :: s) (.array []) r
  | array {vs : List Value} {s r : List UInt8} (hs : ItemsText s vs r) :
      ValueText (0x5B :: s) (.array vs) r
  | emptyObject {s r : List UInt8} (hs : Blanks s (0x7D :: r)) :
      ValueText (0x7B :: s) (.object []) r
  | object {ms : List (String × Value)} {s r : List UInt8} (hs : MembersText s ms r) :
      ValueText (0x7B :: s) (.object ms) r

/-- `value *( value-separator value ) end-array` -/
inductive ItemsText : List UInt8 → List Value → List UInt8 → Prop where
  | last {v : Value} {s s₁ s₂ r : List UInt8} (hb : Blanks s s₁) (hv : ValueText s₁ v s₂)
      (he : Blanks s₂ (0x5D :: r)) : ItemsText s [v] r
  | cons {v : Value} {vs : List Value} {s s₁ s₂ s₃ r : List UInt8} (hb : Blanks s s₁)
      (hv : ValueText s₁ v s₂) (he : Blanks s₂ (0x2C :: s₃)) (hs : ItemsText s₃ vs r) :
      ItemsText s (v :: vs) r

/-- `member = string name-separator value` -/
inductive MemberText : List UInt8 → String × Value → List UInt8 → Prop where
  | mk {cs : List Char} {v : Value} {s s₁ s₂ s₃ r : List UInt8} (hk : StringText s cs s₁)
      (hc : Blanks s₁ (0x3A :: s₂)) (hb : Blanks s₂ s₃) (hv : ValueText s₃ v r) :
      MemberText (0x22 :: s) (String.ofList cs, v) r

/-- `member *( value-separator member ) end-object` -/
inductive MembersText : List UInt8 → List (String × Value) → List UInt8 → Prop where
  | last {m : String × Value} {s s₁ s₂ r : List UInt8} (hb : Blanks s s₁) (hm : MemberText s₁ m s₂)
      (he : Blanks s₂ (0x7D :: r)) : MembersText s [m] r
  | cons {m : String × Value} {ms : List (String × Value)} {s s₁ s₂ s₃ r : List UInt8}
      (hb : Blanks s s₁) (hm : MemberText s₁ m s₂) (he : Blanks s₂ (0x2C :: s₃))
      (hs : MembersText s₃ ms r) : MembersText s (m :: ms) r

end

/-- `JSON-text = ws value ws`, with at most 127 nested arrays and objects. -/
def Document (bytes : List UInt8) (v : Value) : Prop :=
  (∃ s r, Blanks bytes s ∧ ValueText s v r ∧ Blanks r []) ∧ v.depth ≤ 127

end ScriptSandbox.Json
