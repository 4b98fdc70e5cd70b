import ScriptSandbox.Proofs.Config.Sources

/-!
# Limits of a valid configuration

The limits that are derived from a configuration fit their types if it is valid: the memory limit in
pages is at most that of an address space of 32 bits.

## Main definitions

* `Config.Engine.exactOptions`, `Config.Engine.exactLimits`: the derived limits in whole numbers

## Main results

* `Config.Settings.Valid.options?_eq`, `Config.Settings.Valid.limits?_eq`: none of them overflows
-/

namespace ScriptSandbox.Config

variable {c : Settings}

/-- The settings for runs, in whole numbers. -/
def Engine.exactOptions (e : Engine) : Sandbox.Options where
  memoryLimitPages := e.memoryLimitMib.toNat * pagesPerMib
  maxOutputBytes := e.maxOutputBytes.toNat
  tick := e.epochTickMs.toNat * Sandbox.nanosPerMilli

/-- The limits of evaluators, in whole numbers. -/
def Engine.exactLimits (e : Engine) : Sandbox.Limits where
  memoryLimitPages := e.memoryLimitMib.toNat * pagesPerMib
  deadline := e.timeoutMs.toNat * Sandbox.nanosPerMilli

theorem Settings.Valid.pages_le_maxPages (h : c.Valid) :
    c.engine.memoryLimitMib.toNat * pagesPerMib ≤ Wasm.maxPages :=
  Nat.mul_le_mul_right pagesPerMib h.memoryLimit.2

theorem Settings.Valid.pages_lt (h : c.Valid) :
    c.engine.memoryLimitMib.toNat * pagesPerMib < UInt32.size :=
  Nat.lt_of_le_of_lt h.pages_le_maxPages (by decide)

/-- No limit of a valid configuration overflows. -/
theorem Settings.Valid.memoryLimitPages?_eq (h : c.Valid) :
    c.engine.memoryLimitPages? =
      some (c.engine.memoryLimitMib.toNat * pagesPerMib).toUInt32 := by
  unfold Engine.memoryLimitPages?
  exact if_pos h.pages_lt

theorem Settings.Valid.toNat_pages (h : c.Valid) :
    (c.engine.memoryLimitMib.toNat * pagesPerMib).toUInt32.toNat =
      c.engine.memoryLimitMib.toNat * pagesPerMib :=
  UInt32.toNat_ofNat_of_lt h.pages_lt

theorem Settings.Valid.options?_eq (h : c.Valid) :
    c.engine.options? = some c.engine.exactOptions := by
  rw [Engine.options?, h.memoryLimitPages?_eq, Option.map_some, h.toNat_pages, Engine.exactOptions]

theorem Settings.Valid.limits?_eq (h : c.Valid) :
    c.engine.limits? = some c.engine.exactLimits := by
  rw [Engine.limits?, h.memoryLimitPages?_eq, Option.map_some, h.toNat_pages, Engine.exactLimits]

end ScriptSandbox.Config
