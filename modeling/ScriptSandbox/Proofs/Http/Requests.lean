import Mathlib.Tactic.Tauto
import ScriptSandbox.Http.Router
import ScriptSandbox.Proofs.Json.Documents
import ScriptSandbox.Proofs.Text.Utf8

/-!
# What the endpoint asks of requests

The conditions that a request meets before its message is answered, stated on its target, headers
and body alone, and the functions of the router that decide them.

## Main definitions

* `Http.HeaderText`: the first header of a name is visible text
* `Http.isPrintableAscii`: characters whose encoding is visible
* `Http.Declares`: the declared length of the body
* `Http.NamesEndpoint`: the request is about the endpoint
* `Http.Admitted`: the request passes all that stands before its message

## Main results

* `Http.announced?_eq_some_iff`, `Http.bodyLimit_eq_some_iff`: how many bytes may be read
* `Http.accept_eq_ok_iff`: which requests have a message
-/

namespace ScriptSandbox.Http

open Json (Document Value)
open Mcp (Message)

variable {r : Request} {name s : String} {n limit maxBodyBytes : Nat}

/-! ### Headers -/

/-- The first header called `name`, in any case, has only visible characters, and its text is
`s`. -/
def HeaderText (r : Request) (name s : String) : Prop :=
  ∃ pre key post, r.headers = pre ++ (key, Utf8.encode s) :: post ∧ key.toLower = name ∧
    (∀ h ∈ pre, h.1.toLower ≠ name) ∧ ∀ b ∈ Utf8.encode s, Request.isVisible b = true

/-- Whether a character is printable ASCII. -/
def isPrintableAscii (c : Char) : Bool := 0x20 ≤ c.toNat && c.toNat < 0x7F

/-- Printable ASCII is visible. -/
theorem isVisible_of_mem_encode (hs : s.toList.all isPrintableAscii = true) :
    ∀ b ∈ Utf8.encode s, Request.isVisible b = true := by
  intro b hb
  rw [Utf8.encode_eq, List.mem_flatMap] at hb
  obtain ⟨c, hc, hb⟩ := hb
  have hc : 0x20 ≤ c.toNat ∧ c.toNat < 0x7F := by
    simpa [isPrintableAscii] using List.all_eq_true.mp hs c hc
  have hbyte : b.toNat = c.toNat := (Json.toNat_of_mem_encodeChar hb).resolve_right (by omega)
  rw [← hbyte] at hc
  simp [Request.isVisible, UInt8.le_iff_toNat_le, UInt8.lt_iff_toNat_lt, hc]

theorem header?_eq_some_iff {value : List UInt8} : r.header? name = some value ↔
    ∃ pre key post, r.headers = pre ++ (key, value) :: post ∧ key.toLower = name ∧
      ∀ h ∈ pre, h.1.toLower ≠ name := by
  rw [Request.header?, Option.map_eq_some_iff]
  simp only [List.find?_eq_some_iff_append, decide_eq_true_eq, Bool.not_eq_true',
    decide_eq_false_iff_not]
  constructor
  · rintro ⟨⟨key, value⟩, ⟨hkey, pre, post, hheaders, hpre⟩, rfl⟩
    exact ⟨pre, key, post, hheaders, hkey, hpre⟩
  · rintro ⟨pre, key, post, hheaders, hkey, hpre⟩
    exact ⟨(key, value), ⟨hkey, pre, post, hheaders, hpre⟩, rfl⟩

theorem headerText?_eq_some_iff : r.headerText? name = some s ↔ HeaderText r name s := by
  simp only [Request.headerText?, Option.bind_eq_bind, Option.bind_eq_some_iff,
    header?_eq_some_iff, Option.ite_none_right_eq_some, Utf8.decode?_eq_some_iff]
  constructor
  · rintro ⟨value, ⟨pre, key, post, hheaders, hkey, hpre⟩, hvisible, rfl⟩
    exact ⟨pre, key, post, hheaders, hkey, hpre, List.all_eq_true.mp hvisible⟩
  · rintro ⟨pre, key, post, hheaders, hkey, hpre, hvisible⟩
    exact ⟨_, ⟨pre, key, post, hheaders, hkey, hpre⟩, List.all_eq_true.mpr hvisible, rfl⟩

theorem occursIn_iff {cs ds : List Char} : occursIn cs ds = true ↔ cs <:+: ds := by
  induction ds with
  | nil => simp [occursIn]
  | cons d ds ih => rw [occursIn, Bool.or_eq_true, List.isPrefixOf_iff_prefix, ih, List.infix_cons_iff]

/-- The client accepts both formats of the endpoint. -/
theorem acceptsFormats_iff : acceptsFormats r = true ↔
    ∃ s, HeaderText r "accept" s ∧ ∀ format ∈ acceptedFormats, format.toList <:+: s.toList := by
  simp only [← headerText?_eq_some_iff, ← occursIn_iff]
  rw [acceptsFormats]
  cases r.headerText? "accept" with
  | none => simp
  | some s => simp

theorem isDocument_iff : isDocument r = true ↔
    ∃ s, HeaderText r "content-type" s ∧ "application/json".toList <+: s.toList := by
  simp only [← headerText?_eq_some_iff]
  rw [isDocument]
  cases r.headerText? "content-type" with
  | none => simp
  | some s => simp [String.startsWith_string_iff]

/-! ### Declared lengths -/

/-- The request declares that its body has `n` bytes: in decimal digits, with or without a plus, and
in 64 bits. -/
def Declares (r : Request) (n : Nat) : Prop :=
  ∃ s sign ds, HeaderText r "content-length" s ∧ s.toList = sign ++ ds ∧
    (sign = [] ∨ sign = ['+']) ∧ ds ≠ [] ∧ (∀ d ∈ ds, d.isDigit) ∧
    Nat.ofDigitChars 10 ds 0 = n ∧ n < UInt64.size

theorem exists_sign (cs : List Char) :
    ∃ sign, cs = sign ++ unsigned cs ∧ (sign = [] ∨ sign = ['+']) := by
  rw [unsigned.eq_def]
  split
  next ds => exact ⟨['+'], rfl, .inr rfl⟩
  next => exact ⟨[], rfl, .inl rfl⟩

theorem unsigned_append {sign ds : List Char} (hsign : sign = [] ∨ sign = ['+'])
    (hds : ∀ d ∈ ds, d.isDigit) : unsigned (sign ++ ds) = ds := by
  obtain rfl | rfl := hsign
  · rw [List.nil_append, unsigned.eq_def]
    split
    next ds => exact absurd (hds '+' (List.mem_cons_self ..)) (by decide)
    next => rfl
  · rfl

theorem digitsNumber?_eq_some_iff {ds : List Char} : digitsNumber? ds = some n ↔
    ds ≠ [] ∧ (∀ d ∈ ds, d.isDigit) ∧ Nat.ofDigitChars 10 ds 0 = n ∧ n < UInt64.size := by
  rw [digitsNumber?, Option.ite_none_left_eq_some, not_or, not_or, Option.some.injEq,
    List.isEmpty_iff, Bool.not_eq_true', Bool.not_eq_false, List.all_eq_true, Nat.not_le]
  constructor
  · rintro ⟨⟨hne, hdigits, hlt⟩, rfl⟩
    exact ⟨hne, hdigits, rfl, hlt⟩
  · rintro ⟨hne, hdigits, rfl, hlt⟩
    exact ⟨⟨hne, hdigits, hlt⟩, rfl⟩

theorem announced?_eq_some_iff : announced? r = some n ↔ Declares r n := by
  simp only [Declares, ← headerText?_eq_some_iff]
  rw [announced?, Option.bind_eq_bind, Option.bind_eq_some_iff]
  simp only [digitsNumber?_eq_some_iff]
  constructor
  · rintro ⟨s, hs, hnumber⟩
    obtain ⟨sign, hsplit, hsign⟩ := exists_sign s.toList
    exact ⟨s, sign, _, hs, hsplit, hsign, hnumber⟩
  · rintro ⟨s, sign, ds, hs, hsplit, hsign, hnumber⟩
    exact ⟨s, hs, by rwa [hsplit, unsigned_append hsign hnumber.2.1]⟩

/-- More bytes than allowed must not be declared, and no more than declared are read. -/
theorem bodyLimit_eq_some_iff : bodyLimit maxBodyBytes r = some limit ↔
    (∃ n, Declares r n ∧ n ≤ maxBodyBytes ∧ limit = n) ∨
      (∀ n, ¬ Declares r n) ∧ limit = maxBodyBytes := by
  simp only [← announced?_eq_some_iff]
  rw [bodyLimit]
  cases announced? r with
  | none => simp [eq_comm]
  | some n =>
    simp only [Option.ite_none_left_eq_some, Nat.not_lt, Option.some.injEq, exists_eq_left',
      forall_eq', false_and, or_false]
    exact and_congr_right fun _ => eq_comm

/-! ### Admission -/

/-- The request is about the endpoint: `/mcp`, or a path below it. -/
def NamesEndpoint (r : Request) : Prop :=
  ∃ path, r.target.path? = some path ∧ (path = "/mcp" ∨ "/mcp/".toList <+: path.toList)

theorem resourceAt_eq_endpoint_iff : resourceAt r.target = .endpoint ↔ NamesEndpoint r := by
  rw [resourceAt, NamesEndpoint]
  cases r.target.path? with
  | none => simp
  | some path =>
    simp only [Option.some.injEq, exists_eq_left', ← String.startsWith_string_iff]
    -- neither path of the endpoint is that of the health of the server
    by_cases hendpoint : path = "/mcp" ∨ path.startsWith "/mcp/" = true
    · have hne : path ≠ "/health" := by
        rintro rfl
        obtain h | h := hendpoint
        · exact absurd h (by decide)
        · exact absurd (String.startsWith_string_iff.mp h) (by decide)
      rw [if_neg hne, if_pos hendpoint]
      exact iff_of_true rfl hendpoint
    · rw [if_neg hendpoint]
      refine iff_of_false ?_ hendpoint
      split_ifs <;> exact fun h => nomatch h

/-- What stands before the message of a request: its method, its first `Accept` and `Content-Type`,
and its length. -/
structure Admitted (limit : Nat) (r : Request) : Prop where
  method : r.method = "POST"
  accepts : ∃ s, HeaderText r "accept" s ∧ ∀ format ∈ acceptedFormats, format.toList <:+: s.toList
  isDocument : ∃ s, HeaderText r "content-type" s ∧ "application/json".toList <+: s.toList
  length : r.body.length ≤ limit

/-- A body has a message exactly if it is a document that is one. -/
theorem message_eq_ok_iff {body : List UInt8} {m : Message} :
    message body = .ok m ↔ ∃ v, Document body v ∧ Message.ofJson? v = some m := by
  simp only [← Json.read_eq_ok_iff]
  constructor
  · intro h
    obtain ⟨⟨v, rest⟩, hread, h⟩ := bind_eq_ok_iff.mp h
    have hread := mapError_eq_ok_iff.mp hread
    dsimp only at h
    split at h
    next m' hm' =>
      rw [pure_bind] at h
      obtain ⟨⟨⟩, hend, h⟩ := bind_eq_ok_iff.mp h
      have hend := mapError_eq_ok_iff.mp hend
      obtain rfl := Except.ok.inj h
      exact ⟨v, bind_eq_ok_iff.mpr ⟨_, hread, bind_eq_ok_iff.mpr ⟨(), hend, rfl⟩⟩, hm'⟩
    next => cases h
  · rintro ⟨v, h, hm⟩
    obtain ⟨⟨v', rest⟩, hread, h⟩ := bind_eq_ok_iff.mp h
    obtain ⟨⟨⟩, hend, h⟩ := bind_eq_ok_iff.mp h
    obtain rfl := Except.ok.inj h
    refine bind_eq_ok_iff.mpr ⟨_, mapError_eq_ok_iff.mpr hread, ?_⟩
    simp only [hm, pure_bind]
    exact bind_eq_ok_iff.mpr ⟨(), mapError_eq_ok_iff.mpr hend, rfl⟩

/-- Exactly the admitted requests have the message of their body. -/
theorem accept_eq_ok_iff {m : Message} :
    accept limit r = .ok m ↔ Admitted limit r ∧ message r.body = .ok m := by
  have hadmitted : Admitted limit r ↔ r.method = "POST" ∧ acceptsFormats r = true ∧
      isDocument r = true ∧ r.body.length ≤ limit := by
    rw [acceptsFormats_iff, isDocument_iff]
    exact ⟨fun h => ⟨h.method, h.accepts, h.isDocument, h.length⟩,
      fun ⟨hmethod, haccepts, hdocument, hlength⟩ => ⟨hmethod, haccepts, hdocument, hlength⟩⟩
  rw [hadmitted]
  constructor
  · intro h
    rw [accept] at h
    -- the gates in their order
    by_cases hmethod : r.method ≠ "POST"
    · rw [if_pos hmethod] at h
      exact nomatch h
    by_cases haccepts : (!acceptsFormats r) = true
    · rw [if_neg hmethod, if_pos haccepts] at h
      exact nomatch h
    by_cases hdocument : (!isDocument r) = true
    · rw [if_neg hmethod, if_neg haccepts, if_pos hdocument] at h
      exact nomatch h
    by_cases hlength : limit < r.body.length
    · rw [if_neg hmethod, if_neg haccepts, if_neg hdocument, if_pos hlength] at h
      exact nomatch h
    rw [if_neg hmethod, if_neg haccepts, if_neg hdocument, if_neg hlength] at h
    exact ⟨⟨not_not.mp hmethod, by simpa using haccepts, by simpa using hdocument,
      Nat.not_lt.mp hlength⟩, mapError_eq_ok_iff.mp h⟩
  · rintro ⟨⟨hmethod, haccepts, hdocument, hlength⟩, hm⟩
    rw [accept, if_neg (not_not_intro hmethod), if_neg (by simp [haccepts]),
      if_neg (by simp [hdocument]), if_neg (Nat.not_lt.mpr hlength)]
    exact mapError_eq_ok_iff.mpr hm

end ScriptSandbox.Http
