import ScriptSandbox.Proofs.Net.Literals

/-!
# How addresses are written

An address is written as a literal of itself, so it is read again. What is left out of eight groups
is a run of zeros, whichever run that is, and this is all that it takes.

## Main definitions

* `Net.Ipv6.IsZero`: a run of groups that are zero

## Main results

* `Net.Ipv6.isZero_longestZeros`: the run that is left out is one of zeros
* `Net.isIpv6_text`, `Net.isHost_text`: names of machines are written as literals
* `Net.SocketAddress.ofText?_text`: an address that is written is read again
-/

namespace ScriptSandbox.Net

variable {gs : List UInt16} {quads : Bool}

/-! ### Octets and groups -/

theorem isQuad_text (q : Ipv4) : IsQuad q.text q := by
  have htext : q.text = Nat.toDigits 10 q.first.toNat ++ '.' :: (Nat.toDigits 10 q.second.toNat ++
      '.' :: (Nat.toDigits 10 q.third.toNat ++ '.' :: Nat.toDigits 10 q.fourth.toNat)) := by
    simp [Ipv4.text, Ipv4.octets, List.intercalate]
  rw [htext]
  exact .mk (isOctet_toDigits _) (isOctet_toDigits _) (isOctet_toDigits _) (isOctet_toDigits _)

/-- Octets of two groups are these groups. -/
theorem Ipv4.groups_ofGroups (high low : UInt16) :
    (Ipv4.ofGroups high low).groups = [high, low] := by
  have hjoin (g : UInt16) :
      (g / 256).toUInt8.toUInt16 * 256 + (g % 256).toUInt8.toUInt16 = g := by
    refine UInt16.toNat_inj.mp ?_
    have hg := g.toNat_lt
    simp
    omega
  rw [Ipv4.groups, Ipv4.ofGroups, hjoin, hjoin]

theorem isGroups_colonSeparated (h : gs ≠ []) : IsGroups quads (Ipv6.colonSeparated gs) gs := by
  induction gs with
  | nil => exact absurd rfl h
  | cons g gs ih =>
    cases gs with
    | nil =>
      have htext : Ipv6.colonSeparated [g] = Nat.toDigits 16 g.toNat := by
        simp [Ipv6.colonSeparated]
      rw [htext]
      exact .last (isGroup_toDigits g)
    | cons g' gs =>
      have htext : Ipv6.colonSeparated (g :: g' :: gs) =
          Nat.toDigits 16 g.toNat ++ ':' :: Ipv6.colonSeparated (g' :: gs) := by
        simp [Ipv6.colonSeparated]
      rw [htext]
      exact .cons (isGroup_toDigits g) (ih (List.cons_ne_nil _ _))

theorem isSide_colonSeparated (gs : List UInt16) : IsSide quads (Ipv6.colonSeparated gs) gs := by
  cases gs with
  | nil => exact .inl ⟨rfl, rfl⟩
  | cons g gs => exact .inr (isGroups_colonSeparated (List.cons_ne_nil g gs))

/-! ### Runs of zeros -/

namespace Ipv6

/-- All groups of a run are zero. -/
def IsZero (gs : List UInt16) (run : Run) : Prop :=
  ∀ i, run.start ≤ i → i < run.start + run.length → gs[i]? = some 0

theorem isZero_of_length_eq_zero {run : Run} (h : run.length = 0) : IsZero gs run := by
  intro i hle hlt
  omega

/-- A run that ends before a zero group goes on with it. -/
theorem IsZero.snoc {run : Run} (h : IsZero gs run) (hzero : gs[run.start + run.length]? = some 0) :
    IsZero gs ⟨run.start, run.length + 1⟩ := by
  intro i hle hlt
  by_cases hi : i = run.start + run.length
  · rw [hi]
    exact hzero
  · exact h i hle (by dsimp only at hlt; omega)

/-- The run that ends at the index and the longest one so far are zero, and so is the longest one in
the end. -/
theorem isZero_longestZeros_of_isZero {index : Nat} {current longest : Run} {rest : List UInt16}
    (hrest : gs.drop index = rest) (hcurrent : IsZero gs current)
    (hends : current.length ≠ 0 → current.start + current.length = index)
    (hlongest : IsZero gs longest) : IsZero gs (longestZeros index current longest rest) := by
  induction rest generalizing index current longest with
  | nil => exact hlongest
  | cons g rest ih =>
    have hg : gs[index]? = some g := by
      rw [← List.head?_drop, hrest]
      rfl
    have hrest' : gs.drop (index + 1) = rest := by
      rw [← List.tail_drop, hrest]
      rfl
    rw [longestZeros]
    by_cases hzero : g = 0
    · subst hzero
      rw [if_pos rfl]
      dsimp only
      generalize hrun : (if current.length = 0 then (⟨index, 1⟩ : Run)
        else ⟨current.start, current.length + 1⟩) = run
      have hrun : IsZero gs run ∧ run.start + run.length = index + 1 := by
        subst hrun
        split_ifs with hlength
        · have hempty : IsZero gs ⟨index, 0⟩ := isZero_of_length_eq_zero rfl
          exact ⟨hempty.snoc hg, rfl⟩
        · have hindex := hends hlength
          exact ⟨hcurrent.snoc (hindex ▸ hg), by dsimp only; omega⟩
      refine ih hrest' hrun.1 (fun _ => hrun.2) ?_
      split_ifs
      · exact hrun.1
      · exact hlongest
    · rw [if_neg hzero]
      exact ih hrest' (isZero_of_length_eq_zero rfl) (fun h => absurd rfl h) hlongest

/-- The longest run of zeros is one of zeros. -/
theorem isZero_longestZeros (gs : List UInt16) : IsZero gs (longestZeros 0 ⟨0, 0⟩ ⟨0, 0⟩ gs) :=
  isZero_longestZeros_of_isZero rfl (isZero_of_length_eq_zero rfl) (fun h => absurd rfl h)
    (isZero_of_length_eq_zero rfl)

/-- Groups around a run of zeros. -/
theorem IsZero.eq_append {run : Run} (h : IsZero gs run) : gs = gs.take run.start ++
    List.replicate run.length 0 ++ gs.drop (run.start + run.length) := by
  have hzeros : (gs.drop run.start).take run.length = List.replicate run.length 0 := by
    refine List.ext_getElem? fun i => ?_
    rw [List.getElem?_take, List.getElem?_drop, List.getElem?_replicate]
    split_ifs with hi
    · exact h _ (Nat.le_add_right _ _) (Nat.add_lt_add_left hi _)
    · rfl
  rw [← hzeros, ← List.take_add, List.take_append_drop]

end Ipv6

/-! ### Names of machines -/

/-- Octets are embedded behind five zero groups and one of ones. -/
theorem Ipv6.groups_of_embedded? {ip : Ipv6} {q : Ipv4} (h : ip.embedded? = some q) :
    ip.groups = [] ++ List.replicate 5 0 ++ 0xFFFF :: q.groups := by
  unfold Ipv6.embedded? at h
  split at h
  next high low hgroups =>
    obtain rfl := Option.some.inj h
    rw [Ipv4.groups_ofGroups, hgroups]
    rfl
  next => cases h

/-- Eight groups are written as a literal of them. -/
theorem isIpv6_text (ip : Ipv6) : IsIpv6 ip.text ip := by
  unfold Ipv6.text
  split
  next q hembedded =>
    have hones : IsGroup ['f', 'f', 'f', 'f'] 0xFFFF := isGroup_toDigits 0xFFFF
    have htail : IsSide true (['f', 'f', 'f', 'f'] ++ ':' :: q.text) (0xFFFF :: q.groups) :=
      .inr (.cons hones (.quad rfl (isQuad_text q)))
    exact .short (s := []) (.inl ⟨rfl, rfl⟩) htail (by decide) (Ipv6.groups_of_embedded? hembedded)
  next =>
    dsimp only
    have hzero := Ipv6.isZero_longestZeros ip.groups
    generalize Ipv6.longestZeros 0 ⟨0, 0⟩ ⟨0, 0⟩ ip.groups = zeros at hzero
    split_ifs with hlong
    · rw [List.append_assoc]
      exact .short (isSide_colonSeparated _) (isSide_colonSeparated _) (Nat.zero_lt_of_lt hlong)
        hzero.eq_append
    · refine .whole (isGroups_colonSeparated fun hnil => ?_)
      have hlength := ip.length_groups
      rw [hnil] at hlength
      cases hlength

/-- A machine is named by a literal of it. -/
theorem isHost_text (host : Host) : IsHost host.text host := by
  cases host with
  | v4 q => exact .v4 (isQuad_text q)
  | v6 ip scope =>
    by_cases hscope : scope = 0
    · have htext : (Host.v6 ip scope).text = '[' :: (ip.text ++ [']']) := by
        simp [Host.text, hscope]
      rw [htext, hscope]
      exact .v6 (isIpv6_text ip)
    · have htext : (Host.v6 ip scope).text =
          '[' :: (ip.text ++ '%' :: (Nat.toDigits 10 scope.toNat ++ [']'])) := by
        simp [Host.text, hscope]
      rw [htext]
      exact .withScope (isIpv6_text ip) (isNumeral_toDigits (by decide) (by decide) _)

/-! ### Addresses -/

/-- An address that is written is read again. -/
theorem SocketAddress.ofText?_text (a : SocketAddress) : ofText? a.text = some a :=
  ofText?_eq_some_iff.mpr ⟨_, _, rfl, isHost_text a.host,
    isNumeral_toDigits (by decide) (by decide) _⟩

end ScriptSandbox.Net
