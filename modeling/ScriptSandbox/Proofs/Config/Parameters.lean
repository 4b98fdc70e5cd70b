import ScriptSandbox.Config.Decoding
import ScriptSandbox.Config.Flags
import ScriptSandbox.Proofs.Except

/-!
# Parameters of a configuration

A configuration is ten parameters. Each of them has a place in documents, a value there, and six of
them have a flag; so what holds of all of them can be said once.

## Main definitions

* `Config.Parameter`: the parameters, with their names and places in documents
* `Config.Settings.value`: a parameter as a document would give it
* `Config.Parameter.Admits`: the values that a parameter can have
* `Config.Flags.value?`: a parameter as a flag gives it
* `Config.Field.Sets`: a field that holds a parameter

## Main results

* `Config.Settings.ext_value`: a configuration is its parameters
* `Config.Settings.exists_value_eq`: every choice of values is a configuration
* `Config.Settings.value_apply`: what flags override
-/

namespace ScriptSandbox.Toml.Node

/-- A string. -/
def text (s : String) : Node := .scalar (.text s)

/-- An integer from zero on. -/
def natural (k : Nat) : Node := .scalar (.integer (Int.ofNat k))

theorem text_inj {s s' : String} : text s = text s' ↔ s = s' := by
  simp [text]

theorem natural_inj {k k' : Nat} : natural k = natural k' ↔ k = k' := by
  rw [natural, natural, scalar.injEq, Scalar.integer.injEq]
  exact Int.ofNat_inj

end ScriptSandbox.Toml.Node

namespace ScriptSandbox.Config

open Toml (Node)

/-- The parameters of a configuration. -/
inductive Parameter where
  | host
  | port
  | maxBodyBytes
  | requestTimeoutMs
  | path
  | maxImageSizeMib
  | memoryLimitMib
  | timeoutMs
  | maxOutputBytes
  | epochTickMs
  deriving Repr, DecidableEq

namespace Parameter

/-- The parameters of the server section, in order. -/
def ofServer : List Parameter := [host, port, maxBodyBytes, requestTimeoutMs]

/-- The parameters of the engine section, in order. -/
def ofEngine : List Parameter :=
  [path, maxImageSizeMib, memoryLimitMib, timeoutMs, maxOutputBytes, epochTickMs]

/-- The key of the section. -/
def group (p : Parameter) : String := if p ∈ ofServer then "server" else "engine"

/-- The place in a section that is an array. -/
def position (p : Parameter) : Nat := (if p ∈ ofServer then ofServer else ofEngine).idxOf p

/-- The key in a section that is a table. -/
def name : Parameter → String
  | .host => "host"
  | .port => "port"
  | .maxBodyBytes => "max_body_bytes"
  | .requestTimeoutMs => "request_timeout_ms"
  | .path => "path"
  | .maxImageSizeMib => "max_image_size_mib"
  | .memoryLimitMib => "memory_limit_mib"
  | .timeoutMs => "timeout_ms"
  | .maxOutputBytes => "max_output_bytes"
  | .epochTickMs => "epoch_tick_ms"

/-- The least number that is too large; `none` for a text. -/
def bound? : Parameter → Option Nat
  | .host | .path => none
  | .port => some UInt16.size
  | .memoryLimitMib => some UInt32.size
  | _ => some UInt64.size

/-- The values that a parameter can have. -/
def Admits (p : Parameter) (n : Node) : Prop :=
  match p.bound? with
  | none => ∃ s, n = .text s
  | some bound => ∃ k < bound, n = .natural k

end Parameter

/-! ### Values -/

/-- A parameter as a document would give it. -/
def Settings.value (c : Settings) : Parameter → Node
  | .host => .text c.server.host
  | .port => .natural c.server.port.toNat
  | .maxBodyBytes => .natural c.server.maxBodyBytes.toNat
  | .requestTimeoutMs => .natural c.server.requestTimeoutMs.toNat
  | .path => .text c.engine.path
  | .maxImageSizeMib => .natural c.engine.maxImageSizeMib.toNat
  | .memoryLimitMib => .natural c.engine.memoryLimitMib.toNat
  | .timeoutMs => .natural c.engine.timeoutMs.toNat
  | .maxOutputBytes => .natural c.engine.maxOutputBytes.toNat
  | .epochTickMs => .natural c.engine.epochTickMs.toNat

/-- A parameter as a flag gives it; `none` where there is no flag or it is absent. -/
def Flags.value? (v : Flags) : Parameter → Option Node
  | .host => v.host.map .text
  | .port => v.port.map fun n => .natural n.toNat
  | .path => v.engine.map .text
  | .maxImageSizeMib => v.imageSize.map fun n => .natural n.toNat
  | .memoryLimitMib => v.memory.map fun n => .natural n.toNat
  | .timeoutMs => v.timeout.map fun n => .natural n.toNat
  | .maxBodyBytes | .requestTimeoutMs | .maxOutputBytes | .epochTickMs => none

theorem asText_eq_ok_iff {n : Node} {s : String} : asText n = .ok s ↔ n = .text s := by
  unfold asText Node.text
  split <;> simp_all

theorem asNatural_eq_ok_iff {n : Node} {bound k : Nat} {expected : String} :
    asNatural bound expected n = .ok k ↔ k < bound ∧ n = .natural k := by
  unfold asNatural Node.natural
  split
  next i =>
    rw [Node.scalar.injEq, Toml.Scalar.integer.injEq]
    split_ifs with hrange
    · rw [Except.ok.injEq, Int.ofNat_eq_natCast]
      omega
    · simp only [false_iff, Int.ofNat_eq_natCast]
      omega
  next hn => simpa using fun _ => hn _

namespace Settings

/-- A configuration is its parameters. -/
theorem ext_value {c c' : Settings} (h : ∀ p, c.value p = c'.value p) : c = c' := by
  obtain ⟨⟨host, port, body, request⟩, ⟨path, image, memory, timeout, output, tick⟩⟩ := c
  obtain ⟨⟨host', port', body', request'⟩, ⟨path', image', memory', timeout', output', tick'⟩⟩ := c'
  obtain rfl : host = host' := Node.text_inj.mp (h .host)
  obtain rfl : port = port' := UInt16.toNat_inj.mp (Node.natural_inj.mp (h .port))
  obtain rfl : body = body' := UInt64.toNat_inj.mp (Node.natural_inj.mp (h .maxBodyBytes))
  obtain rfl : request = request' :=
    UInt64.toNat_inj.mp (Node.natural_inj.mp (h .requestTimeoutMs))
  obtain rfl : path = path' := Node.text_inj.mp (h .path)
  obtain rfl : image = image' := UInt64.toNat_inj.mp (Node.natural_inj.mp (h .maxImageSizeMib))
  obtain rfl : memory = memory' := UInt32.toNat_inj.mp (Node.natural_inj.mp (h .memoryLimitMib))
  obtain rfl : timeout = timeout' := UInt64.toNat_inj.mp (Node.natural_inj.mp (h .timeoutMs))
  obtain rfl : output = output' := UInt64.toNat_inj.mp (Node.natural_inj.mp (h .maxOutputBytes))
  obtain rfl : tick = tick' := UInt64.toNat_inj.mp (Node.natural_inj.mp (h .epochTickMs))
  rfl

theorem admits_value (c : Settings) (p : Parameter) : p.Admits (c.value p) := by
  cases p
  case host | path => exact ⟨_, rfl⟩
  case port => exact ⟨_, UInt16.toNat_lt _, rfl⟩
  case memoryLimitMib => exact ⟨_, UInt32.toNat_lt _, rfl⟩
  all_goals exact ⟨_, UInt64.toNat_lt _, rfl⟩

/-- Every choice of values is a configuration. -/
theorem exists_value_eq {x : Parameter → Node} (h : ∀ p, Parameter.Admits p (x p)) :
    ∃ c : Settings, ∀ p, c.value p = x p := by
  obtain ⟨host, hhost⟩ := h .host
  obtain ⟨port, hport, hport'⟩ := h .port
  obtain ⟨body, hbody, hbody'⟩ := h .maxBodyBytes
  obtain ⟨request, hrequest, hrequest'⟩ := h .requestTimeoutMs
  obtain ⟨path, hpath⟩ := h .path
  obtain ⟨image, himage, himage'⟩ := h .maxImageSizeMib
  obtain ⟨memory, hmemory, hmemory'⟩ := h .memoryLimitMib
  obtain ⟨timeout, htimeout, htimeout'⟩ := h .timeoutMs
  obtain ⟨output, houtput, houtput'⟩ := h .maxOutputBytes
  obtain ⟨tick, htick, htick'⟩ := h .epochTickMs
  refine ⟨⟨⟨host, port.toUInt16, body.toUInt64, request.toUInt64⟩,
    ⟨path, image.toUInt64, memory.toUInt32, timeout.toUInt64, output.toUInt64,
      tick.toUInt64⟩⟩, fun p => ?_⟩
  cases p
  case host => exact hhost.symm
  case path => exact hpath.symm
  case port => exact hport' ▸ congrArg Node.natural (UInt16.toNat_ofNat_of_lt hport)
  case maxBodyBytes => exact hbody' ▸ congrArg Node.natural (UInt64.toNat_ofNat_of_lt hbody)
  case requestTimeoutMs =>
    exact hrequest' ▸ congrArg Node.natural (UInt64.toNat_ofNat_of_lt hrequest)
  case maxImageSizeMib => exact himage' ▸ congrArg Node.natural (UInt64.toNat_ofNat_of_lt himage)
  case memoryLimitMib => exact hmemory' ▸ congrArg Node.natural (UInt32.toNat_ofNat_of_lt hmemory)
  case timeoutMs => exact htimeout' ▸ congrArg Node.natural (UInt64.toNat_ofNat_of_lt htimeout)
  case maxOutputBytes => exact houtput' ▸ congrArg Node.natural (UInt64.toNat_ofNat_of_lt houtput)
  case epochTickMs => exact htick' ▸ congrArg Node.natural (UInt64.toNat_ofNat_of_lt htick)

/-- Flags override the parameters that they give. -/
theorem value_apply (c : Settings) (v : Flags) (p : Parameter) :
    (c.apply v).value p = (v.value? p).getD (c.value p) := by
  obtain ⟨config, port, host, engine, memory, timeout, imageSize⟩ := v
  cases p
  case host => cases host <;> rfl
  case port => cases port <;> rfl
  case path => cases engine <;> rfl
  case maxImageSizeMib => cases imageSize <;> rfl
  case memoryLimitMib => cases memory <;> rfl
  case timeoutMs => cases timeout <;> rfl
  all_goals rfl

end Settings

/-! ### Fields -/

/-- A field that holds a parameter of a section, whose states `embed` makes configurations. -/
structure Field.Sets {σ : Type} (embed : σ → Settings) (f : Field σ) (p : Parameter) : Prop where
  name : f.name = p.name
  put : ∀ {s s' : σ} {n : Node}, f.store s n = .ok s' → (embed s').value p = n
  keep : ∀ {s s' : σ} {n : Node} {q : Parameter}, f.store s n = .ok s' → q ≠ p →
    (embed s').value q = (embed s).value q
  succeed : ∀ (s : σ) {n : Node}, p.Admits n → ∃ s', f.store s n = .ok s'

section Fields

variable {σ : Type} {embed : σ → Settings} {p : Parameter}

theorem Field.sets_text {put : σ → String → σ} (hbound : p.bound? = none)
    (hput : ∀ s t, (embed (put s t)).value p = .text t)
    (hkeep : ∀ s t q, q ≠ p → (embed (put s t)).value q = (embed s).value q) :
    (Field.text p.name put).Sets embed p where
  name := rfl
  put h := by
    obtain ⟨t, ht, rfl⟩ := map_eq_ok_iff.mp h
    rw [asText_eq_ok_iff.mp ht, hput]
  keep h hq := by
    obtain ⟨t, ht, rfl⟩ := map_eq_ok_iff.mp h
    exact hkeep _ t _ hq
  succeed s n hn := by
    rw [Parameter.Admits, hbound] at hn
    obtain ⟨t, rfl⟩ := hn
    exact ⟨put s t, rfl⟩

theorem Field.sets_natural {put : σ → Nat → σ} {bound : Nat} {expected : String}
    (hbound : p.bound? = some bound)
    (hput : ∀ s k, k < bound → (embed (put s k)).value p = .natural k)
    (hkeep : ∀ s k q, q ≠ p → (embed (put s k)).value q = (embed s).value q) :
    (Field.natural p.name bound expected put).Sets embed p where
  name := rfl
  put h := by
    obtain ⟨k, hk, rfl⟩ := map_eq_ok_iff.mp h
    obtain ⟨hrange, rfl⟩ := asNatural_eq_ok_iff.mp hk
    exact hput _ k hrange
  keep h hq := by
    obtain ⟨k, hk, rfl⟩ := map_eq_ok_iff.mp h
    exact hkeep _ k _ hq
  succeed s n hn := by
    rw [Parameter.Admits, hbound] at hn
    obtain ⟨k, hrange, rfl⟩ := hn
    exact ⟨put s k, map_eq_ok_iff.mpr ⟨k, asNatural_eq_ok_iff.mpr ⟨hrange, rfl⟩, rfl⟩⟩

end Fields

theorem Server.sets_fields :
    List.Forall₂ (Field.Sets fun s => { server := s }) Server.fields Parameter.ofServer := by
  refine .cons (Field.sets_text (p := .host) rfl (fun _ _ => rfl) ?_) <|
    .cons (Field.sets_natural (p := .port) rfl (fun _ _ hk => ?_) ?_) <|
    .cons (Field.sets_natural (p := .maxBodyBytes) rfl (fun _ _ hk => ?_) ?_) <|
    .cons (Field.sets_natural (p := .requestTimeoutMs) rfl (fun _ _ hk => ?_) ?_) .nil
  case refine_2 => exact congrArg Node.natural (UInt16.toNat_ofNat_of_lt hk)
  case refine_4 | refine_6 => exact congrArg Node.natural (UInt64.toNat_ofNat_of_lt hk)
  all_goals
    intro s x q hq
    cases q <;> first | rfl | contradiction

theorem Engine.sets_fields :
    List.Forall₂ (Field.Sets fun e => { engine := e }) Engine.fields Parameter.ofEngine := by
  refine .cons (Field.sets_text (p := .path) rfl (fun _ _ => rfl) ?_) <|
    .cons (Field.sets_natural (p := .maxImageSizeMib) rfl (fun _ _ hk => ?_) ?_) <|
    .cons (Field.sets_natural (p := .memoryLimitMib) rfl (fun _ _ hk => ?_) ?_) <|
    .cons (Field.sets_natural (p := .timeoutMs) rfl (fun _ _ hk => ?_) ?_) <|
    .cons (Field.sets_natural (p := .maxOutputBytes) rfl (fun _ _ hk => ?_) ?_) <|
    .cons (Field.sets_natural (p := .epochTickMs) rfl (fun _ _ hk => ?_) ?_) .nil
  case refine_4 => exact congrArg Node.natural (UInt32.toNat_ofNat_of_lt hk)
  case refine_2 | refine_6 | refine_8 | refine_10 =>
    exact congrArg Node.natural (UInt64.toNat_ofNat_of_lt hk)
  all_goals
    intro s x q hq
    cases q <;> first | rfl | contradiction

end ScriptSandbox.Config
