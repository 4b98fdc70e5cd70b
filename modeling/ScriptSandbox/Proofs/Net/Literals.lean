import Mathlib.Tactic.Common
import ScriptSandbox.Proofs.Net.Numerals

/-!
# Literals of addresses

Which texts name a machine, told without the reader: four octets between points, or, between
brackets, groups and perhaps a scope. There are eight groups between colons, or fewer around a
double colon that stands for the missing ones, all of them zero. Two groups may be given by four
octets if no group comes after them.

The reader takes one way through a text and does not come back, except that it tries octets before a
group. It finds every literal all the same, because a group is never followed by a point.

## Main definitions

* `Net.IsQuad`, `Net.IsGroups`, `Net.IsIpv6`, `Net.IsHost`: literals

## Main results

* `Net.readIpv4_eq_some_iff`, `Net.isGroups_of_readGroups`, `Net.readGroups_of_isGroups`
* `Net.isIpv6_of_readIpv6`, `Net.readIpv6_of_isIpv6`
* `Net.SocketAddress.ofText?_eq_some_iff`: an address is a literal, a colon and a port
-/

namespace ScriptSandbox.Net

/-! ### Literals -/

/-- Four octets between points. -/
inductive IsQuad : List Char → Ipv4 → Prop where
  | mk {s₁ s₂ s₃ s₄ : List Char} {ip : Ipv4} (h₁ : IsOctet s₁ ip.first) (h₂ : IsOctet s₂ ip.second)
      (h₃ : IsOctet s₃ ip.third) (h₄ : IsOctet s₄ ip.fourth) :
      IsQuad (s₁ ++ '.' :: (s₂ ++ '.' :: (s₃ ++ '.' :: s₄))) ip

/-- Groups between colons. Where `quads`, the last two may be given by octets. -/
inductive IsGroups (quads : Bool) : List Char → List UInt16 → Prop where
  | last {s : List Char} {g : UInt16} (h : IsGroup s g) : IsGroups quads s [g]
  | quad {s : List Char} {ip : Ipv4} (hquads : quads) (h : IsQuad s ip) :
      IsGroups quads s ip.groups
  | cons {s t : List Char} {g : UInt16} {gs : List UInt16} (h : IsGroup s g)
      (ht : IsGroups quads t gs) : IsGroups quads (s ++ ':' :: t) (g :: gs)

/-- Groups between colons, or none. -/
def IsSide (quads : Bool) (s : List Char) (gs : List UInt16) : Prop :=
  s = [] ∧ gs = [] ∨ IsGroups quads s gs

/-- Eight groups, all of them written, or with a double colon for one or more that are zero. -/
inductive IsIpv6 : List Char → Ipv6 → Prop where
  | whole {s : List Char} {ip : Ipv6} (h : IsGroups true s ip.groups) : IsIpv6 s ip
  | short {s t : List Char} {ip : Ipv6} {before behind : List UInt16} {zeros : Nat}
      (hs : IsSide false s before) (ht : IsSide true t behind) (hzeros : 0 < zeros)
      (hip : ip.groups = before ++ List.replicate zeros 0 ++ behind) :
      IsIpv6 (s ++ ':' :: ':' :: t) ip

/-- Four octets, or groups and perhaps a scope between brackets. -/
inductive IsHost : List Char → Host → Prop where
  | v4 {s : List Char} {ip : Ipv4} (h : IsQuad s ip) : IsHost s (.v4 ip)
  | v6 {s : List Char} {ip : Ipv6} (h : IsIpv6 s ip) : IsHost ('[' :: (s ++ [']'])) (.v6 ip 0)
  | withScope {s t : List Char} {ip : Ipv6} {scope : UInt32} (h : IsIpv6 s ip)
      (ht : IsNumeral 10 t scope.toNat) : IsHost ('[' :: (s ++ '%' :: (t ++ [']']))) (.v6 ip scope)

variable {c : Char} {s t r rest : List Char} {ip : Ipv6} {q : Ipv4} {gs : List UInt16} {g : UInt16}
  {limit : Nat} {quads starts : Bool}

/-! ### Octets between points -/

theorem after_eq_some_iff : after c s = some rest ↔ s = c :: rest := by
  cases s with
  | nil => exact ⟨fun h => (nomatch h), fun h => (nomatch h)⟩
  | cons d s =>
    rw [after]
    constructor
    · intro h
      split_ifs at h with hd
      rw [hd, Option.some.inj h]
    · intro h
      obtain ⟨rfl, rfl⟩ := List.cons.inj h
      rw [if_pos rfl]

theorem readIpv4_eq_some_iff : readIpv4 s = some (q, rest) ↔
    ∃ t, s = t ++ rest ∧ IsQuad t q ∧ NoDigit 10 rest := by
  constructor
  · intro h
    simp only [readIpv4, Option.bind_eq_bind, Option.bind_eq_some_iff, Prod.exists,
      readOctet_eq_some_iff, after_eq_some_iff] at h
    obtain ⟨a, _, ⟨s₁, rfl, h₁, -⟩, _, rfl, b, _, ⟨s₂, rfl, h₂, -⟩, _, rfl, c, _, ⟨s₃, rfl, h₃, -⟩,
      _, rfl, d, _, ⟨s₄, rfl, h₄, hrest⟩, hq⟩ := h
    obtain ⟨rfl, rfl⟩ := Prod.mk.inj (Option.some.inj hq)
    exact ⟨_, by simp, .mk h₁ h₂ h₃ h₄, hrest⟩
  · rintro ⟨_, rfl, ⟨h₁, h₂, h₃, h₄⟩, hrest⟩
    have hpoint (s : List Char) : NoDigit 10 ('.' :: s) := noDigit_cons rfl
    simp only [readIpv4, Option.bind_eq_bind, Option.bind_eq_some_iff, Prod.exists,
      readOctet_eq_some_iff, after_eq_some_iff]
    exact ⟨_, _, ⟨_, by simp, h₁, hpoint _⟩, _, rfl, _, _, ⟨_, rfl, h₂, hpoint _⟩, _, rfl, _, _,
      ⟨_, rfl, h₃, hpoint _⟩, _, rfl, _, _, ⟨_, rfl, h₄, hrest⟩, rfl⟩

/-- What is followed by something else than a point does not begin with octets. -/
theorem readIpv4_eq_none (hs : '.' ∉ s) (hdigit : digit? 10 c = none) (hpoint : c ≠ '.')
    (r : List Char) : readIpv4 (s ++ c :: r) = none := by
  by_contra hsome
  obtain ⟨⟨q, rest⟩, hread⟩ := Option.ne_none_iff_exists'.mp hsome
  rw [readIpv4_eq_some_iff] at hread
  obtain ⟨t, hsplit, ⟨hfirst, -, -, -⟩, -⟩ := hread
  rw [List.append_assoc, List.cons_append, List.append_eq_append_iff] at hsplit
  -- the first point ends the first octet
  rcases hsplit with ⟨as, hfirst', has⟩ | ⟨bs, hs', hbs⟩
  · cases as with
    | nil => exact hpoint (List.cons.inj has).1
    | cons a as =>
      obtain ⟨rfl, -⟩ := List.cons.inj has
      exact hfirst.numeral.not_mem hdigit (by simp [hfirst'])
  · cases bs with
    | nil => exact hpoint (List.cons.inj hbs).1.symm
    | cons b bs =>
      obtain ⟨rfl, -⟩ := List.cons.inj hbs
      exact hs (by simp [hs'])

/-! ### Groups -/

theorem IsGroup.point_not_mem (h : IsGroup s g) : '.' ∉ s := h.numeral.not_mem rfl

theorem readGroup_eq_none (h : digit? 16 c = none) (r : List Char) : readGroup (c :: r) = none := by
  by_contra hsome
  obtain ⟨⟨g, rest⟩, hread⟩ := Option.ne_none_iff_exists'.mp hsome
  obtain ⟨t, hsplit, hgroup, -⟩ := readGroup_eq_some_iff.mp hread
  cases t with
  | nil => exact hgroup.numeral.1 rfl
  | cons d t =>
    obtain ⟨rfl, -⟩ := List.cons.inj hsplit
    exact hgroup.numeral.not_mem h List.mem_cons_self

/-- What stands before the first of some groups. -/
def lead (starts : Bool) : List Char := if starts then [] else [':']

theorem readGroups_succ (limit : Nat) (starts : Bool) (s : List Char) :
    readGroups (limit + 1) starts (lead starts ++ s) =
      match if limit = 0 then none else readIpv4 s with
      | some (ip, rest) => ⟨ip.groups, true, rest⟩
      | none =>
        match readGroup s with
        | none => ⟨[], false, lead starts ++ s⟩
        | some (g, rest) =>
          let more := readGroups limit false rest
          { more with groups := g :: more.groups } := by
  cases starts with
  | true => rfl
  | false => rfl

/-- Groups are not read where they would need a colon. -/
theorem readGroups_of_not_colon (h : ∀ r, s ≠ ':' :: r) (limit : Nat) :
    readGroups limit false s = ⟨[], false, s⟩ := by
  cases limit with
  | zero => rfl
  | succ limit =>
    have hnone : after ':' s = none := by
      by_contra hsome
      obtain ⟨r, hr⟩ := Option.ne_none_iff_exists'.mp hsome
      exact h r (after_eq_some_iff.mp hr)
    rw [readGroups]
    simp [hnone]

/-- Groups are not read where none of them begins. -/
theorem readGroups_of_not_digit (hdecimal : digit? 10 c = none) (hdigit : digit? 16 c = none)
    (hpoint : c ≠ '.') (limit : Nat) (starts : Bool) (r : List Char) :
    readGroups limit starts (lead starts ++ c :: r) = ⟨[], false, lead starts ++ c :: r⟩ := by
  cases limit with
  | zero => rfl
  | succ limit =>
    have hquad : readIpv4 (c :: r) = none :=
      readIpv4_eq_none (s := []) (by simp) hdecimal hpoint r
    rw [readGroups_succ, hquad, ite_self, readGroup_eq_none hdigit]

/-- What is read as groups is groups, or nothing is read. -/
theorem isGroups_of_readGroups {found : Groups} (h : readGroups limit starts s = found) :
    found.groups = [] ∧ found.endsInOctets = false ∧ found.rest = s ∨
      ∃ t, s = lead starts ++ t ++ found.rest ∧ IsGroups found.endsInOctets t found.groups ∧
        found.groups.length ≤ limit := by
  induction limit generalizing starts s found with
  | zero =>
    subst h
    exact .inl ⟨rfl, rfl, rfl⟩
  | succ limit ih =>
    by_cases hlead : ∃ s', s = lead starts ++ s'
    · obtain ⟨s, rfl⟩ := hlead
      rw [readGroups_succ] at h
      split at h
      next q rest hquad =>
        subst h
        obtain ⟨hlimit, hquad⟩ : limit ≠ 0 ∧ readIpv4 s = some (q, rest) := by
          split_ifs at hquad with hlimit
          exact ⟨hlimit, hquad⟩
        rw [readIpv4_eq_some_iff] at hquad
        obtain ⟨t, rfl, hq, -⟩ := hquad
        refine .inr ⟨t, by simp, .quad rfl hq, ?_⟩
        change 2 ≤ limit + 1
        omega
      next =>
        split at h
        next =>
          subst h
          exact .inl ⟨rfl, rfl, rfl⟩
        next g rest hgroup =>
          subst h
          obtain ⟨t, rfl, hg, -⟩ := readGroup_eq_some_iff.mp hgroup
          dsimp only
          rcases ih rfl with ⟨hgroups, hoctets, hrest⟩ | ⟨t', hrest, hgroups, hlength⟩
          · rw [hgroups, hoctets, hrest]
            exact .inr ⟨t, by simp, .last hg, by simp⟩
          · refine .inr ⟨t ++ ':' :: t', ?_, .cons hg hgroups, Nat.succ_le_succ hlength⟩
            nth_rewrite 1 [hrest]
            simp [lead]
    · cases starts with
      | true => exact absurd ⟨s, rfl⟩ hlead
      | false =>
        rw [readGroups_of_not_colon fun r hr => hlead ⟨r, hr⟩] at h
        subst h
        exact .inl ⟨rfl, rfl, rfl⟩

/-- What ends groups: a bracket, a scope or a double colon. -/
inductive Closes : List Char → Prop where
  | bracket (r : List Char) : Closes (']' :: r)
  | scope (r : List Char) : Closes ('%' :: r)
  | doubleColon (r : List Char) : Closes (':' :: ':' :: r)

theorem Closes.exists_cons (h : Closes rest) : ∃ c r, rest = c :: r ∧ digit? 10 c = none ∧
    digit? 16 c = none ∧ c ≠ '.' := by
  cases h with
  | _ => exact ⟨_, _, rfl, rfl, rfl, by decide⟩

theorem Closes.readGroups (h : Closes rest) (limit : Nat) :
    Net.readGroups limit false rest = ⟨[], false, rest⟩ := by
  cases h with
  | bracket r => exact readGroups_of_not_colon (by simp) limit
  | scope r => exact readGroups_of_not_colon (by simp) limit
  | doubleColon r => exact readGroups_of_not_digit rfl rfl (by decide) limit false r

/-- Nothing is read as groups where they end. -/
theorem Closes.readGroups_true (h : Closes rest) (limit : Nat) :
    Net.readGroups limit true rest = ⟨[], false, rest⟩ := by
  obtain ⟨c, r, rfl, hdecimal, hdigit, hpoint⟩ := h.exists_cons
  exact readGroups_of_not_digit hdecimal hdigit hpoint limit true r

/-- A group is read before something that is neither a digit nor a point. -/
theorem readGroups_group (hg : IsGroup s g) (hdecimal : digit? 10 c = none)
    (hdigit : digit? 16 c = none) (hpoint : c ≠ '.') (limit : Nat) (starts : Bool) (r : List Char) :
    readGroups (limit + 1) starts (lead starts ++ (s ++ c :: r)) =
      let more := readGroups limit false (c :: r)
      { more with groups := g :: more.groups } := by
  have hquad : readIpv4 (s ++ c :: r) = none :=
    readIpv4_eq_none hg.point_not_mem hdecimal hpoint r
  have hgroup : readGroup (s ++ c :: r) = some (g, c :: r) :=
    readGroup_eq_some_iff.mpr ⟨s, rfl, hg, noDigit_cons hdigit⟩
  rw [readGroups_succ, hquad, ite_self, hgroup]

/-- Groups are read up to where they end. -/
theorem readGroups_of_isGroups (h : IsGroups quads t gs) (hclose : Closes rest)
    (hlimit : gs.length ≤ limit) (starts : Bool) :
    ∃ octets, readGroups limit starts (lead starts ++ (t ++ rest)) = ⟨gs, octets, rest⟩ ∧
      (quads = false → octets = false) := by
  induction h generalizing limit starts with
  | @last s g hg =>
    obtain ⟨limit, rfl⟩ : ∃ l, limit = l + 1 := Nat.exists_eq_add_of_le' hlimit
    have hmore := hclose.readGroups limit
    obtain ⟨c, r, rfl, hdecimal, hdigit, hpoint⟩ := hclose.exists_cons
    refine ⟨false, ?_, fun _ => rfl⟩
    rw [readGroups_group hg hdecimal hdigit hpoint, hmore]
  | @quad s q hquads hq =>
    obtain ⟨limit, rfl⟩ : ∃ l, limit = l + 1 + 1 := Nat.exists_eq_add_of_le' hlimit
    obtain ⟨c, r, rfl, hdecimal, -, -⟩ := hclose.exists_cons
    have hquad : readIpv4 (s ++ c :: r) = some (q, c :: r) :=
      readIpv4_eq_some_iff.mpr ⟨s, rfl, hq, noDigit_cons hdecimal⟩
    refine ⟨true, ?_, fun hnot => absurd (hquads.symm.trans hnot) (by decide)⟩
    rw [readGroups_succ, if_neg (Nat.succ_ne_zero _), hquad]
  | @cons s t g gs hg _ ih =>
    obtain ⟨limit, rfl⟩ : ∃ l, limit = l + 1 :=
      Nat.exists_eq_add_of_le' (Nat.le_trans (by simp) hlimit)
    obtain ⟨octets, hmore, hoctets⟩ := ih (Nat.le_of_succ_le_succ hlimit) false
    refine ⟨octets, ?_, hoctets⟩
    rw [List.append_assoc, List.cons_append, readGroups_group hg rfl rfl (by decide),
      show ':' :: (t ++ rest) = lead false ++ (t ++ rest) from rfl, hmore]

/-! ### Eight groups -/

/-- A reading of groups is that of an address if there are eight of them. -/
theorem dite_groups_eq_some_iff :
    (if h : gs.length = 8 then some ((⟨gs, h⟩ : Ipv6), t) else none) = some (ip, rest) ↔
      ip.groups = gs ∧ t = rest := by
  constructor
  · intro h
    split_ifs at h with hlength
    obtain ⟨rfl, rfl⟩ := Prod.mk.inj (Option.some.inj h)
    exact ⟨rfl, rfl⟩
  · rintro ⟨rfl, rfl⟩
    rw [dif_pos ip.length_groups]

theorem readIpv6_eq_some_iff : readIpv6 s = some (ip, rest) ↔
    let head := readGroups 8 true s
    ip.groups = head.groups ∧ head.rest = rest ∨
      head.groups.length ≠ 8 ∧ head.endsInOctets = false ∧ ∃ r, head.rest = ':' :: ':' :: r ∧
        let tail := readGroups (7 - head.groups.length) true r
        ip.groups = head.groups ++
          List.replicate (8 - head.groups.length - tail.groups.length) 0 ++ tail.groups ∧
        tail.rest = rest := by
  unfold readIpv6
  generalize readGroups 8 true s = head
  dsimp only
  by_cases hlength : head.groups.length = 8
  · rw [or_iff_left fun h => h.1 hlength, ← dite_groups_eq_some_iff, dif_pos hlength,
      dif_pos hlength]
    exact Iff.rfl
  · have hnot : ip.groups ≠ head.groups := fun h => hlength (h ▸ ip.length_groups)
    rw [dif_neg hlength, or_iff_right fun h => hnot h.1]
    cases hoctets : head.endsInOctets with
    | true => simp
    | false =>
      simp only [Bool.false_eq_true, if_false, Option.bind_eq_bind, Option.bind_eq_some_iff,
        after_eq_some_iff, Option.pure_def, dite_groups_eq_some_iff]
      constructor
      · rintro ⟨_, hrest, r, rfl, htail⟩
        exact ⟨hlength, trivial, r, hrest, htail⟩
      · rintro ⟨-, -, r, hrest, htail⟩
        exact ⟨_, hrest, r, rfl, htail⟩

theorem IsGroups.withQuads (h : IsGroups quads t gs) : IsGroups true t gs := by
  induction h with
  | last h => exact .last h
  | quad _ h => exact .quad rfl h
  | cons h _ ih => exact .cons h ih

theorem IsSide.withQuads (h : IsSide quads t gs) : IsSide true t gs :=
  h.imp_right IsGroups.withQuads

theorem isSide_of_readGroups (limit : Nat) (s : List Char) :
    let found := readGroups limit true s
    ∃ t, s = t ++ found.rest ∧ IsSide found.endsInOctets t found.groups ∧
      found.groups.length ≤ limit := by
  intro found
  have hfound : readGroups limit true s = found := rfl
  rcases isGroups_of_readGroups hfound with ⟨hnone, -, hrest⟩ | ⟨t, hs, ht, hlimit⟩
  · exact ⟨[], by rw [hrest]; rfl, .inl ⟨rfl, hnone⟩, by rw [hnone]; exact Nat.zero_le _⟩
  · exact ⟨t, by simpa [lead] using hs, .inr ht, hlimit⟩

theorem readGroups_of_isSide (h : IsSide quads t gs) (hclose : Closes rest)
    (hlimit : gs.length ≤ limit) :
    ∃ octets, readGroups limit true (t ++ rest) = ⟨gs, octets, rest⟩ ∧
      (quads = false → octets = false) := by
  rcases h with ⟨rfl, rfl⟩ | h
  · exact ⟨false, hclose.readGroups_true limit, fun _ => rfl⟩
  · exact readGroups_of_isGroups h hclose hlimit true

/-- What is read as eight groups is a literal of them. -/
theorem isIpv6_of_readIpv6 (h : readIpv6 s = some (ip, rest)) :
    ∃ t, s = t ++ rest ∧ IsIpv6 t ip := by
  obtain ⟨t, hs, ht, hlimit⟩ := isSide_of_readGroups 8 s
  rw [readIpv6_eq_some_iff] at h
  rcases h with ⟨hip, rfl⟩ | ⟨hlength, hoctets, r, hrest, hip, rfl⟩
  · refine ⟨t, hs, .whole ?_⟩
    rw [hip]
    refine ht.withQuads.resolve_left fun hnone => ?_
    have hzero := congrArg List.length (hip.trans hnone.2)
    rw [ip.length_groups] at hzero
    cases hzero
  · obtain ⟨t', hr, ht', hlimit'⟩ :=
      isSide_of_readGroups (7 - (readGroups 8 true s).groups.length) r
    rw [hoctets] at ht
    refine ⟨t ++ ':' :: ':' :: t', ?_, .short ht ht'.withQuads (by omega) hip⟩
    rw [List.append_assoc, List.cons_append, List.cons_append, ← hr, ← hrest]
    exact hs

/-- A literal of eight groups is read as them. -/
theorem readIpv6_of_isIpv6 (h : IsIpv6 t ip) (hclose : Closes rest) :
    readIpv6 (t ++ rest) = some (ip, rest) := by
  rw [readIpv6_eq_some_iff]
  cases h with
  | whole h =>
    obtain ⟨octets, hread, -⟩ :=
      readGroups_of_isGroups h hclose (Nat.le_of_eq ip.length_groups) true
    rw [show readGroups 8 true (t ++ rest) = _ from hread]
    exact .inl ⟨rfl, rfl⟩
  | @short s t _ before behind zeros hs ht hzeros hip =>
    have hlength := congrArg List.length hip
    rw [ip.length_groups] at hlength
    simp only [List.length_append, List.length_replicate] at hlength
    have hbefore : before.length ≤ 8 := by omega
    have hbehind : behind.length ≤ 7 - before.length := by omega
    obtain ⟨octets, hhead, hoctets⟩ :=
      readGroups_of_isSide hs (.doubleColon (t ++ rest)) hbefore
    obtain ⟨octets', htail, -⟩ := readGroups_of_isSide ht hclose hbehind
    have hzeros' : 8 - before.length - behind.length = zeros := by omega
    rw [List.append_assoc, List.cons_append, List.cons_append, hhead]
    refine .inr ⟨?_, hoctets rfl, t ++ rest, rfl, ?_⟩
    · dsimp only
      omega
    · dsimp only
      rw [htail]
      exact ⟨by rw [hzeros']; exact hip, rfl⟩

/-! ### Machines -/

/-- What is read as a scope is none, or a number behind a percent sign. -/
theorem of_readScope {scope : UInt32} (h : readScope s = (scope, rest)) :
    scope = 0 ∧ rest = s ∨ ∃ t, s = '%' :: (t ++ rest) ∧ IsNumeral 10 t scope.toNat := by
  unfold readScope at h
  split at h
  next n r hread =>
    obtain ⟨rfl, rfl⟩ := Prod.mk.inj h
    obtain ⟨r', hafter, hread⟩ := Option.bind_eq_some_iff.mp hread
    obtain rfl := after_eq_some_iff.mp hafter
    obtain ⟨hbound, t, rfl, ht, -⟩ := readDecimal_eq_some_iff.mp hread
    have hn : n.toUInt32.toNat = n := by simpa using hbound
    exact .inr ⟨t, rfl, by rwa [hn]⟩
  next =>
    obtain ⟨rfl, rfl⟩ := Prod.mk.inj h
    exact .inl ⟨rfl, rfl⟩

theorem readScope_scope {scope : UInt32} (ht : IsNumeral 10 t scope.toNat) (r : List Char) :
    readScope ('%' :: (t ++ ']' :: r)) = (scope, ']' :: r) := by
  have hread : readDecimal UInt32.size (t ++ ']' :: r) = some (scope.toNat, ']' :: r) :=
    readDecimal_eq_some_iff.mpr ⟨scope.toNat_lt, t, rfl, ht, noDigit_cons rfl⟩
  have hafter : after '%' ('%' :: (t ++ ']' :: r)) = some (t ++ ']' :: r) := rfl
  rw [readScope, hafter, Option.bind_some, hread]
  exact Prod.ext UInt32.ofNat_toNat rfl

/-- What is read as a machine is a literal of it. -/
theorem isHost_of_readHost {host : Host} (h : readHost s = some (host, rest)) :
    ∃ t, s = t ++ rest ∧ IsHost t host := by
  unfold readHost at h
  split at h
  next q r hquad =>
    obtain ⟨rfl, rfl⟩ := Prod.mk.inj (Option.some.inj h)
    obtain ⟨t, hs, hq, -⟩ := readIpv4_eq_some_iff.mp hquad
    exact ⟨t, hs, .v4 hq⟩
  next =>
    simp only [readBracketed, Option.bind_eq_bind, Option.bind_eq_some_iff, Prod.exists,
      after_eq_some_iff, Option.pure_def, Option.some_inj, Prod.mk.injEq] at h
    obtain ⟨_, rfl, ip, r, hread, r', hbracket, rfl, rfl⟩ := h
    obtain ⟨t, rfl, ht⟩ := isIpv6_of_readIpv6 hread
    generalize hscope : readScope r = found at hbracket
    obtain ⟨scope, after⟩ := found
    dsimp only at hbracket
    subst hbracket
    rcases of_readScope hscope with ⟨rfl, rfl⟩ | ⟨t', rfl, ht'⟩
    · exact ⟨_, by simp, .v6 ht⟩
    · exact ⟨_, by simp, .withScope ht ht'⟩

/-- A literal of a machine is read as that machine before a colon. -/
theorem readHost_of_isHost {host : Host} (h : IsHost t host) (r : List Char) :
    readHost (t ++ ':' :: r) = some (host, ':' :: r) := by
  unfold readHost
  cases h with
  | v4 h => rw [readIpv4_eq_some_iff.mpr ⟨t, rfl, h, noDigit_cons rfl⟩]
  | @v6 s ip h =>
    have hquad : readIpv4 ('[' :: (s ++ [']']) ++ ':' :: r) = none :=
      readIpv4_eq_none (s := []) (by simp) rfl (by decide) _
    have hread := readIpv6_of_isIpv6 h (.bracket (':' :: r))
    rw [hquad, List.cons_append, List.append_assoc]
    simp only [readBracketed, after, if_true, Option.bind_eq_bind, Option.bind_some]
    rw [List.cons_append, List.nil_append, hread]
    rfl
  | @withScope s t' ip scope h ht =>
    have hquad : readIpv4 ('[' :: (s ++ '%' :: (t' ++ [']'])) ++ ':' :: r) = none :=
      readIpv4_eq_none (s := []) (by simp) rfl (by decide) _
    have hread := readIpv6_of_isIpv6 h (.scope (t' ++ ']' :: ':' :: r))
    have htext : s ++ '%' :: (t' ++ [']']) ++ ':' :: r = s ++ '%' :: (t' ++ ']' :: ':' :: r) := by
      simp
    rw [hquad, List.cons_append, htext]
    simp only [readBracketed, after, if_true, Option.bind_eq_bind, Option.bind_some]
    rw [hread]
    simp only [Option.bind_some]
    rw [readScope_scope ht]
    rfl

/-! ### Addresses -/

/-- A text is an address exactly if it is a literal of the machine, a colon and the port. -/
theorem SocketAddress.ofText?_eq_some_iff {a : SocketAddress} : ofText? s = some a ↔
    ∃ t p, s = t ++ ':' :: p ∧ IsHost t a.host ∧ IsNumeral 10 p a.port.toNat := by
  unfold ofText?
  constructor
  · intro h
    simp only [Option.bind_eq_bind, Option.bind_eq_some_iff, Prod.exists, after_eq_some_iff] at h
    obtain ⟨host, _, hhost, _, rfl, port, r, hport, hend⟩ := h
    obtain ⟨t, rfl, ht⟩ := isHost_of_readHost hhost
    obtain ⟨hbound, p, rfl, hp, -⟩ := readDecimal_eq_some_iff.mp hport
    split_ifs at hend with hr
    subst hr
    obtain rfl := Option.some.inj hend
    have hvalue : port.toUInt16.toNat = port := by simpa using hbound
    exact ⟨t, p, by simp, ht, by rwa [hvalue]⟩
  · rintro ⟨t, p, rfl, ht, hp⟩
    have hport : readDecimal UInt16.size p = some (a.port.toNat, []) :=
      readDecimal_eq_some_iff.mpr ⟨a.port.toNat_lt, p, by simp, hp, noDigit_nil⟩
    rw [readHost_of_isHost ht]
    simp only [after, if_true, Option.bind_eq_bind, Option.bind_some]
    rw [hport]
    exact congrArg some (congrArg (SocketAddress.mk a.host) UInt16.ofNat_toNat)

end ScriptSandbox.Net
