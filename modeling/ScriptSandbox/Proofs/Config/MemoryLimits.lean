import ScriptSandbox.Proofs.Config.Limits
import ScriptSandbox.Proofs.Sandbox.MemoryLimits

/-!
# The memory limit on its way to an instance

The memory limit of a configuration is given in mebibytes, checked and handed on in pages, clamped
to what the host allows and given to the memories of an instance in bytes. All of this is counted in
words of 32 or 64 bits. None of the words wraps around where the configuration is valid, and then no
clamp changes the limit. The check itself is counted in words that cannot wrap around, so that it
refuses every configuration for which a later word would.

## Main definitions

* `Config.Engine.narrowPages`, `Config.Engine.widePages`: a memory limit in pages, in words
* `Sandbox.clampedPages`, `Sandbox.clampedBytes`: a clamped limit in words

## Main results

* `Config.Engine.memoryLimitPages?_eq_none_iff`: which limits do not fit 32 bits
* `Sandbox.Host.toNat_clampedBytes`: the bytes of a clamped limit are counted exactly
* `Config.memory_limit_kept`: the limit of a valid configuration is that of every instance
-/

namespace ScriptSandbox

/-! ### Words for pages -/

namespace Config.Engine

variable {e : Engine}

/-- The memory limit in pages, counted in 32 bits. -/
def narrowPages (e : Engine) : UInt32 := e.memoryLimitMib * 16

/-- The memory limit in pages, counted in 64 bits. -/
def widePages (e : Engine) : UInt64 := e.memoryLimitMib.toUInt64 * 16

/-- No memory limit is too large to be counted in 64 bits. -/
theorem toNat_widePages (e : Engine) :
    e.widePages.toNat = e.memoryLimitMib.toNat * pagesPerMib := by
  have hlt : e.memoryLimitMib.toNat < UInt32.size := e.memoryLimitMib.toNat_lt_size
  have hproduct : e.widePages.toNat = e.memoryLimitMib.toNat * 16 % 2 ^ 64 := UInt64.toNat_mul _ _
  rw [hproduct, pagesPerMib]
  exact Nat.mod_eq_of_lt (by simp only [UInt32.size] at hlt; omega)

/-- The check of the memory limit is one of words. -/
theorem maxPages_lt_widePages_iff :
    65536 < e.widePages ↔ Wasm.maxPages < e.memoryLimitMib.toNat * pagesPerMib := by
  rw [UInt64.lt_iff_toNat_lt, toNat_widePages]
  rfl

theorem memoryLimitPages?_eq_none_iff :
    e.memoryLimitPages? = none ↔ 2 ^ 28 ≤ e.memoryLimitMib.toNat := by
  unfold memoryLimitPages?
  rw [ite_eq_right_iff]
  simp only [pagesPerMib, UInt32.size, reduceCtorEq, imp_false]
  omega

/-- A limit that does not fit is one whose word has wrapped around. -/
theorem toNat_narrowPages_ne_iff :
    e.narrowPages.toNat ≠ e.memoryLimitMib.toNat * pagesPerMib ↔
      2 ^ 28 ≤ e.memoryLimitMib.toNat := by
  have hproduct : e.narrowPages.toNat = e.memoryLimitMib.toNat * 16 % 2 ^ 32 := UInt32.toNat_mul _ _
  rw [hproduct, pagesPerMib]
  omega

/-- A limit that fits is the word. -/
theorem memoryLimitPages?_of_lt (h : e.memoryLimitMib.toNat < 2 ^ 28) :
    e.memoryLimitPages? = some e.narrowPages := by
  have hproduct : e.narrowPages.toNat = e.memoryLimitMib.toNat * pagesPerMib :=
    not_not.mp (mt toNat_narrowPages_ne_iff.mp (Nat.not_le.mpr h))
  unfold memoryLimitPages?
  rw [← hproduct, if_pos e.narrowPages.toNat_lt_size]
  exact congrArg some e.narrowPages.ofNat_toNat

end Config.Engine

/-! ### Words for clamped limits -/

namespace Sandbox

/-- A number of pages, clamped to a ceiling and to what can be addressed. -/
def clampedPages (request ceiling : UInt32) : UInt32 := min request (min ceiling 65536)

/-- The bytes of a clamped number of pages, counted in 64 bits. -/
def clampedBytes (request ceiling : UInt32) : UInt64 :=
  (clampedPages request ceiling).toUInt64 * 65536

namespace Host

variable {h : Host} {request request' ceiling : UInt32} {pages pages' : Nat}

theorem effectivePages_eq (h : Host) (pages : Nat) :
    h.effectivePages pages = min pages (min h.options.memoryLimitPages 65536) := rfl

theorem effectivePages_le_maxPages (h : Host) (pages : Nat) : h.effectivePages pages ≤ 65536 :=
  (Nat.min_le_right _ _).trans (Nat.min_le_right _ _)

theorem effectivePages_mono (hle : pages ≤ pages') :
    h.effectivePages pages ≤ h.effectivePages pages' :=
  min_le_min_right _ hle

theorem toNat_clampedPages (hceiling : h.options.memoryLimitPages = ceiling.toNat) :
    (clampedPages request ceiling).toNat = h.effectivePages request.toNat := by
  have hmin (a b : UInt32) : (min a b).toNat = min a.toNat b.toNat := by
    change (if a ≤ b then a else b).toNat = _
    rw [apply_ite UInt32.toNat, Nat.min_def]
    rfl
  rw [effectivePages_eq, hceiling, clampedPages, hmin, hmin]
  rfl

/-- The bytes of a clamped limit are counted exactly. -/
theorem toNat_clampedBytes (hceiling : h.options.memoryLimitPages = ceiling.toNat) :
    (clampedBytes request ceiling).toNat = h.limitBytes request.toNat := by
  have hpages : (clampedPages request ceiling).toNat = h.effectivePages request.toNat :=
    toNat_clampedPages hceiling
  have hle := h.effectivePages_le_maxPages request.toNat
  have hproduct : (clampedBytes request ceiling).toNat =
      (clampedPages request ceiling).toNat * 65536 % 2 ^ 64 := UInt64.toNat_mul _ _
  rw [hproduct, hpages, limitBytes, Wasm.pageBytes]
  exact Nat.mod_eq_of_lt (by omega)

end Host

end Sandbox

/-! ### The limit of instances -/

namespace Config

open Sandbox (Course Evaluator Host)

variable {c : Settings} {e : Evaluator} {k : Course} {source : List UInt8} {s : Wasm.Store}

/-- An evaluator with the limits of a configuration. -/
structure Engine.Configures (engine : Engine) (e : Evaluator) : Prop where
  options : engine.options? = some e.host.options
  limits : engine.limits? = some e.limits

/-- The pages of a mebibyte are all of its bytes. -/
theorem mul_pagesPerMib_mul_pageBytes (mib : Nat) :
    mib * pagesPerMib * Wasm.pageBytes = mib * 2 ^ 20 :=
  Nat.mul_assoc _ _ _

/-- A configuration is refused for its memory limit if and only if there are too many pages in
words. -/
theorem Settings.fault?_eq_tooMuchMemory_iff :
    c.fault? = some (.tooMuchMemory c.engine.memoryLimitMib) ↔ 65536 < c.engine.widePages := by
  rw [Engine.maxPages_lt_widePages_iff]
  unfold fault?
  have hzero : c.engine.memoryLimitMib = 0 → ¬ Wasm.maxPages < c.engine.memoryLimitMib.toNat *
      pagesPerMib := fun hzero => by rw [hzero]; decide
  dsimp only
  split_ifs <;> simp_all

namespace Settings.Valid

theorem toNat_narrowPages (h : c.Valid) :
    c.engine.narrowPages.toNat = c.engine.memoryLimitMib.toNat * pagesPerMib := by
  by_contra hne
  have hge := Engine.toNat_narrowPages_ne_iff.mp hne
  exact absurd (h.memoryLimit.2.trans' hge) (by decide)

theorem ceilingPages_eq (h : c.Valid) (he : c.engine.Configures e) :
    e.host.ceilingPages = c.engine.memoryLimitMib.toNat * pagesPerMib := by
  have hoptions := Option.some.inj (h.options?_eq.symm.trans he.options)
  rw [Host.ceilingPages, ← hoptions]
  exact Nat.min_eq_left h.pages_le_maxPages

theorem memoryLimitPages_eq (h : c.Valid) (he : c.engine.Configures e) :
    e.limits.memoryLimitPages = c.engine.memoryLimitMib.toNat * pagesPerMib := by
  have hlimits := Option.some.inj (h.limits?_eq.symm.trans he.limits)
  rw [← hlimits]
  rfl

/-- No clamp changes the limit of a valid configuration. -/
theorem pageLimit_eq (h : c.Valid) (he : c.engine.Configures e) :
    e.pageLimit = c.engine.memoryLimitMib.toNat * pagesPerMib := by
  rw [Evaluator.pageLimit, Host.effectivePages, h.ceilingPages_eq he, h.memoryLimitPages_eq he]
  exact Nat.min_self _

/-- The store of an instance is given the limit of the configuration, in whatever state of a run. -/
theorem store_bytes_eq (h : c.Valid) (he : c.engine.Configures e)
    (hk : k.Of e.settings e.host.guest source) (hs : k.HasStore e.settings e.host.guest s) :
    s.pageLimit * Wasm.pageBytes = c.engine.memoryLimitMib.toNat * 2 ^ 20 := by
  have hlimit : s.pageLimit = e.pageLimit := (hk.bounded hs).pageLimit
  rw [hlimit, h.pageLimit_eq he, mul_pagesPerMib_mul_pageBytes]

theorem memory_size_le (h : c.Valid) (he : c.engine.Configures e)
    (hk : k.Of e.settings e.host.guest source) (hs : k.HasStore e.settings e.host.guest s)
    {memory : Wasm.Memory} (hmemory : memory ∈ s.memories) :
    memory.size ≤ c.engine.memoryLimitMib.toNat * 2 ^ 20 := by
  rw [← h.store_bytes_eq he hk hs]
  exact Nat.mul_le_mul_right _ ((hk.bounded hs).within memory hmemory)

end Settings.Valid

/-- The memory limit of a valid configuration is handed on unchanged and without overflow: it is the
same number of pages wherever it stands, and the same number of bytes in the store of every
instance. Whatever the configuration, its limit overflows 32 bits from 2²⁸ mebibytes on, and then
the configuration is refused, by a check that does not overflow. Whatever is requested of a host,
valid or not, the clamped limit is within all bounds, grows with what is requested and is exact in
bytes. -/
theorem memory_limit_kept (c : Settings) :
    let mib := c.engine.memoryLimitMib.toNat
    (c.fault? = none →
      16 ≤ mib * 16 ∧ mib * 16 ≤ 65536 ∧ c.engine.narrowPages.toNat = mib * 16 ∧
      (∃ options limits, c.engine.options? = some options ∧ c.engine.limits? = some limits) ∧
      ∀ e : Evaluator, c.engine.Configures e →
        e.host.options.memoryLimitPages = mib * 16 ∧ e.limits.memoryLimitPages = mib * 16 ∧
        e.host.ceilingPages = mib * 16 ∧ e.pageLimit = mib * 16 ∧
        e.host.limitBytes e.limits.memoryLimitPages = mib * 2 ^ 20 ∧ mib * 2 ^ 20 ≤ 2 ^ 32 ∧
        ∀ (k : Course) (source : List UInt8) (s : Wasm.Store),
          k.Of e.settings e.host.guest source → k.HasStore e.settings e.host.guest s →
          s.pageLimit * Wasm.pageBytes = mib * 2 ^ 20 ∧
            ∀ memory ∈ s.memories, memory.size ≤ mib * 2 ^ 20) ∧
    (c.engine.memoryLimitPages? = none ↔ 2 ^ 28 ≤ mib) ∧
    (c.engine.narrowPages.toNat ≠ mib * 16 ↔ 2 ^ 28 ≤ mib) ∧
    (mib < 2 ^ 28 → c.engine.memoryLimitPages? = some c.engine.narrowPages) ∧
    (2 ^ 28 ≤ mib → c.fault? = some (.tooMuchMemory c.engine.memoryLimitMib)) ∧
    (c.fault? = some (.tooMuchMemory c.engine.memoryLimitMib) ↔ 65536 < c.engine.widePages) ∧
    c.engine.widePages.toNat = mib * 16 ∧
    ∀ (h : Host) (request ceiling : UInt32), h.options.memoryLimitPages = ceiling.toNat →
      h.effectivePages request.toNat ≤ request.toNat ∧
      h.effectivePages request.toNat ≤ ceiling.toNat ∧ h.effectivePages request.toNat ≤ 65536 ∧
      (∀ request', request ≤ request' →
        h.effectivePages request.toNat ≤ h.effectivePages request'.toNat) ∧
      (Sandbox.clampedPages request ceiling).toNat = h.effectivePages request.toNat ∧
      (Sandbox.clampedBytes request ceiling).toNat = h.effectivePages request.toNat * 65536 := by
  intro mib
  refine ⟨fun hfault => ?_, Engine.memoryLimitPages?_eq_none_iff, Engine.toNat_narrowPages_ne_iff,
    Engine.memoryLimitPages?_of_lt, fun hge => ?_, Settings.fault?_eq_tooMuchMemory_iff,
    c.engine.toNat_widePages, fun h request ceiling hceiling => ?_⟩
  · have hvalid := Settings.fault?_eq_none_iff.mp hfault
    have hone : 1 * 16 ≤ mib * 16 := Nat.mul_le_mul_right 16 hvalid.memoryLimit.1
    have hbytes : mib * 2 ^ 20 ≤ 2 ^ 32 := Nat.mul_le_mul_right (2 ^ 20) hvalid.memoryLimit.2
    refine ⟨hone, hvalid.pages_le_maxPages, hvalid.toNat_narrowPages,
      ⟨_, _, hvalid.options?_eq, hvalid.limits?_eq⟩, fun e he => ?_⟩
    have hoptions := Option.some.inj (hvalid.options?_eq.symm.trans he.options)
    have hlimitBytes : e.host.limitBytes e.limits.memoryLimitPages = mib * 2 ^ 20 := by
      change e.pageLimit * Wasm.pageBytes = mib * 2 ^ 20
      rw [hvalid.pageLimit_eq he, mul_pagesPerMib_mul_pageBytes]
    exact ⟨hoptions ▸ rfl, hvalid.memoryLimitPages_eq he, hvalid.ceilingPages_eq he,
      hvalid.pageLimit_eq he, hlimitBytes, hbytes, fun k source s hk hs =>
        ⟨hvalid.store_bytes_eq he hk hs, fun memory => hvalid.memory_size_le he hk hs⟩⟩
  · refine Settings.fault?_eq_tooMuchMemory_iff.mpr (Engine.maxPages_lt_widePages_iff.mpr ?_)
    have hlarge : 2 ^ 28 * 16 ≤ mib * 16 := Nat.mul_le_mul_right 16 hge
    exact Nat.lt_of_lt_of_le (by decide) hlarge
  · have heq := h.effectivePages_eq request.toNat
    rw [hceiling] at heq
    refine ⟨Nat.min_le_left _ _, ?_, h.effectivePages_le_maxPages _, fun request' hle => ?_,
      Host.toNat_clampedPages hceiling, Host.toNat_clampedBytes hceiling⟩
    · rw [heq]
      exact (Nat.min_le_right _ _).trans (Nat.min_le_left _ _)
    · exact Host.effectivePages_mono (UInt32.le_iff_toNat_le.mp hle)

/-- The largest limit that is valid, and one whose word wraps around to a small number of pages. -/
example :
    ({ memoryLimitMib := 4096 } : Engine).memoryLimitPages? = some 65536 ∧
      ({ memoryLimitMib := 268436480 } : Engine).narrowPages = 16384 ∧
      ({ memoryLimitMib := 268436480 } : Engine).memoryLimitPages? = none := by
  decide

/-- An evaluator of a guest with the default limits. -/
theorem memory_limit_kept_default : ∃ h : Host,
    Host.compile Sandbox.Session.twoMemories ({} : Engine).exactOptions = .ok h ∧
    ({} : Engine).Configures { host := h, limits := ({} : Engine).exactLimits } ∧
    h.effectivePages ({} : Engine).exactLimits.memoryLimitPages = 1024 := by
  have hcompiles : (Host.compile Sandbox.Session.twoMemories
      ({} : Engine).exactOptions).toOption.any
        (fun h => h.options = ({} : Engine).exactOptions) = true := by decide +kernel
  obtain ⟨h, hh, hoptions⟩ := Sandbox.Session.exists_compiled hcompiles
  have hfault : ({} : Settings).fault? = none := by decide
  have hvalid : ({} : Settings).Valid := Settings.fault?_eq_none_iff.mp hfault
  have hconfigures : ({} : Engine).Configures { host := h, limits := ({} : Engine).exactLimits } :=
    ⟨hvalid.options?_eq.trans (congrArg some (of_decide_eq_true hoptions).symm),
      hvalid.limits?_eq⟩
  obtain ⟨-, -, -, -, hkept⟩ := (memory_limit_kept {}).1 hfault
  exact ⟨h, hh, hconfigures, (hkept _ hconfigures).2.2.2.1⟩

end Config

end ScriptSandbox
