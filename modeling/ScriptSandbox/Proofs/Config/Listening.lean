import ScriptSandbox.Config.Listening
import ScriptSandbox.Proofs.Net.Printing

/-!
# Which servers have an address

The host and the port of a server are joined by a colon and read as one text. The host may hold
colons itself, yet the port that is read is the configured one: a port holds none, so the last colon
of the text is the one that joins. Hence the host alone decides whether there is an address and
which machine it names.

## Main results

* `Config.Server.address_eq_ok_iff`: the address of a server, told by its host
* `Config.Server.exists_address_iff`, `Config.Server.toOption_address_withPort`: the port has no
  part in it
* `Config.Server.address_reads`: hosts that have an address, and what is read when it is written
-/

namespace ScriptSandbox.Config.Server

open Net (SocketAddress Host IsHost IsNumeral)

variable {s : Server} {a : SocketAddress}

theorem toList_addressText (s : Server) :
    s.addressText.toList = s.host.toList ++ ':' :: Nat.toDigits 10 s.port.toNat := by
  simp [addressText, Nat.repr]

theorem address_eq_ok_iff_ofText? :
    s.address = .ok a ↔ SocketAddress.ofText? s.addressText.toList = some a := by
  unfold address
  split
  next b hread => rw [hread, Except.ok.injEq, Option.some_inj]
  next hread => simp [hread]

/-- A text is split in one way at a colon that is its last one. -/
theorem append_colon_inj {s t p q : List Char} (hp : ':' ∉ p) (hq : ':' ∉ q)
    (h : s ++ ':' :: p = t ++ ':' :: q) : s = t ∧ p = q := by
  rcases List.append_eq_append_iff.mp h with ⟨as, ht, has⟩ | ⟨bs, hs, hbs⟩
  · cases as with
    | nil => exact ⟨by rw [ht, List.append_nil], (List.cons.inj has).2⟩
    | cons c as =>
      obtain ⟨-, rfl⟩ := List.cons.inj has
      exact absurd (by simp) hp
  · cases bs with
    | nil => exact ⟨by rw [hs, List.append_nil], (List.cons.inj hbs).2.symm⟩
    | cons c bs =>
      obtain ⟨-, rfl⟩ := List.cons.inj hbs
      exact absurd (by simp) hq

/-- A server has the address of the machine that its host names, with its own port. -/
theorem address_eq_ok_iff : s.address = .ok a ↔ IsHost s.host.toList a.host ∧ a.port = s.port := by
  have hwritten : IsNumeral 10 (Nat.toDigits 10 s.port.toNat) s.port.toNat :=
    Net.isNumeral_toDigits (by decide) (by decide) _
  rw [address_eq_ok_iff_ofText?, toList_addressText, SocketAddress.ofText?_eq_some_iff]
  constructor
  · rintro ⟨t, p, htext, hhost, hport⟩
    obtain ⟨rfl, rfl⟩ := append_colon_inj (hwritten.not_mem rfl) (hport.not_mem rfl) htext
    exact ⟨hhost, UInt16.toNat_inj.mp (hport.unique hwritten)⟩
  · rintro ⟨hhost, hport⟩
    exact ⟨_, _, rfl, hhost, by rwa [hport]⟩

/-- A server has an address exactly if its host is a literal. -/
theorem exists_address_iff : (∃ a, s.address = .ok a) ↔ ∃ host, IsHost s.host.toList host := by
  constructor
  · rintro ⟨a, ha⟩
    exact ⟨a.host, (address_eq_ok_iff.mp ha).1⟩
  · rintro ⟨host, hhost⟩
    exact ⟨⟨host, s.port⟩, address_eq_ok_iff.mpr ⟨hhost, rfl⟩⟩

/-- On another port a server has the same address but for the port, or none again. -/
theorem toOption_address_withPort (s : Server) (port : UInt16) :
    { s with port }.address.toOption = s.address.toOption.map ({ · with port }) := by
  cases ha : s.address with
  | ok a =>
    have hport : { s with port }.address = .ok { a with port } := by
      rw [address_eq_ok_iff]
      exact ⟨(address_eq_ok_iff.mp ha).1, rfl⟩
    rw [hport]
    rfl
  | error r =>
    cases hb : { s with port }.address with
    | ok b =>
      have hsome : ∃ a, s.address = .ok a := by
        rw [exists_address_iff]
        exact ⟨b.host, (address_eq_ok_iff.mp hb).1⟩
      obtain ⟨a, ha'⟩ := hsome
      exact nomatch ha.symm.trans ha'
    | error r' => rfl

/-- An address that is found is found again where its host is written as the address has it. -/
theorem address_writtenHost (h : s.address = .ok a) :
    { s with host := String.ofList a.host.text }.address = .ok a := by
  refine address_eq_ok_iff.mpr ⟨?_, (address_eq_ok_iff.mp h).2⟩
  rw [String.toList_ofList]
  exact Net.isHost_text a.host

/-- A server has an address exactly if its host is a literal of a machine: four octets between
points, or groups, perhaps with a scope of 32 bits, between brackets. The address is that machine
with the port of the server, and another port would change nothing but the port. When the address is
written and read, or its host is configured as it is written there, it is the address again. -/
theorem address_reads (s : Server) :
    ((∃ a, s.address = .ok a) ↔ ∃ host, IsHost s.host.toList host) ∧
    (∀ a, s.address = .ok a ↔ IsHost s.host.toList a.host ∧ a.port = s.port) ∧
    (∀ port, { s with port }.address.toOption = s.address.toOption.map ({ · with port })) ∧
    ∀ a, s.address = .ok a → SocketAddress.ofText? a.text = some a ∧
      a.text = a.host.text ++ ':' :: Nat.toDigits 10 s.port.toNat ∧
      { s with host := String.ofList a.host.text }.address = .ok a := by
  refine ⟨exists_address_iff, fun a => address_eq_ok_iff, toOption_address_withPort s,
    fun a ha => ⟨SocketAddress.ofText?_text a, ?_, address_writtenHost ha⟩⟩
  rw [SocketAddress.text, (address_eq_ok_iff.mp ha).2]

example : ({ host := "[::1%7]" } : Server).address =
    .ok ⟨.v6 ⟨[0, 0, 0, 0, 0, 0, 0, 1], rfl⟩ 7, 12040⟩ := by decide

end ScriptSandbox.Config.Server
