import ScriptSandbox.Proofs.Echo.Rounds
import ScriptSandbox.Proofs.Sandbox.Promptness

/-!
# Evaluations by the echo

An evaluation by the guest that echoes returns what its source is classified as when it is taken for
the output of a run, if there is room for it. It takes as many steps as the length of the source
tells, and whatever else happens in the session, only its deadline or its token can keep it from
returning.

## Main definitions

* `Sandbox.Echo.IsEcho`: all of a source has come through

## Main results

* `Sandbox.Echo.of_course`: the courses of such evaluations
* `Sandbox.Echo.returns_source`: what they return, and when
-/

namespace ScriptSandbox.Sandbox.Echo

open Course (begun go)
open Session (course ofEvaluator)

variable {c : Settings} {e : Evaluator} {g : Guest} {k : Course} {i limit : Nat} {limits : Limits}
  {source : List UInt8} {x : Context} {r : Run} {ops : List Operation}

/-! ### Transcripts -/

/-- All of a source was taken from the input and passed to the output, each byte once and in order,
and then the input has ended. -/
structure IsEcho (source : List UInt8) (xs : List Exchange) : Prop where
  taken : xs.flatMap (·.taken) = source
  passed : xs.flatMap (·.passed) = source
  ends : xs.getLast? = some (reading [])

theorem isEcho_transcript (space : Nat) (source : List UInt8) :
    IsEcho source (transcript space source) := by
  induction space, source using transcript.induct with
  | case1 space =>
    rw [transcript, if_pos rfl]
    exact ⟨rfl, rfl, rfl⟩
  | case2 space source hne ih =>
    rw [transcript, if_neg hne]
    refine ⟨?_, ?_, ?_⟩
    · rw [List.flatMap_cons, List.flatMap_cons, ih.taken]
      exact List.take_append_drop chunkBytes source
    · rw [List.flatMap_cons, List.flatMap_cons, ih.passed]
      exact List.take_append_drop chunkBytes source
    · rw [List.getLast?_cons, List.getLast?_cons, ih.ends]
      rfl

/-! ### Courses -/

theorem not_observes (hg : IsCompiled g) (m : Moment) : ¬ m.Observes g := by
  obtain ⟨names, describesSource, rfl⟩ := hg.exists_eq
  have himports : (guest names describesSource).imports = #[.fdRead, .fdWrite] := rfl
  refine Moment.not_observes (fun f hf => ?_) m
  rw [himports] at hf
  simp only [List.mem_toArray, List.mem_cons, List.not_mem_nil, or_false] at hf
  rcases hf with rfl | rfl
  · decide
  · decide

/-- What a run has taken in and given back so far is how all of it begins. When it has ended, it is
all of it. -/
theorem of_course (hg : IsCompiled g) (hpages : 1 ≤ c.pageLimit) (hk : k.Of c g source) :
    k.exchanges c.world g <+: transcript c.maxOutputBytes source ∧
      ∀ ended, k.progress = .ended ended →
        k.exchanges c.world g = transcript c.maxOutputBytes source ∧
        ended.result = Evaluation.classify (.ok ()) (source.take c.maxOutputBytes) [] := by
  obtain ⟨names, describesSource, rfl⟩ := hg.exists_eq
  obtain ⟨n, hlike⟩ := hk.exists_like (fun m _ => not_observes hg m) c.world
  have hsame := hlike.exchanges (fun m _ => not_observes hg m) c.world c.world
  obtain ⟨hend, hall⟩ := of_begun names describesSource hpages source 0
  have hworld : c.inWorld c.world = c := rfl
  rw [hworld] at hlike hsame
  rw [← hsame, ← hall]
  refine ⟨?_, fun ended hended => ?_⟩
  · -- fewer steps have exchanged less, and after more of them the run has long ended
    rcases Nat.le_total n (steps source.length) with hle | hle
    · obtain ⟨d, hd⟩ := Nat.exists_eq_add_of_le' hle
      rw [hd, Function.iterate_add_apply]
      exact Course.exchanges_of_suffix (Course.suffix_iterate _ d) _ _
    · obtain ⟨d, rfl⟩ := Nat.exists_eq_add_of_le' hle
      simp only [Function.iterate_add_apply, Course.iterate_of_ended hend, List.prefix_rfl]
  · obtain ⟨ended', hended', hresult⟩ := hlike.exists_ended hended
    have hlast := Course.ended_unique hended' hend
    rw [hlast] at hended' ⊢
    obtain rfl := Progress.ended.inj (hended'.symm.trans hend)
    exact ⟨rfl, hresult.symm⟩

/-! ### Evaluations -/

/-- The time that an evaluation takes, in nanoseconds. -/
def time (source : List UInt8) : Nat := stepTime * steps source.length

theorem time_pos (source : List UInt8) : 0 < time source :=
  Nat.mul_pos (by decide) (Nat.succ_pos _)

section

variable (hg : IsCompiled e.host.guest)
  (hpages : 1 ≤ e.host.effectivePages r.limits.memoryLimitPages)
  (hspace : (Utf8.encode r.source).length ≤ e.host.options.maxOutputBytes)
  (hr : ((ofEvaluator e).performAll ops).runs[i]? = some r)
include hg hpages hspace hr

/-- Nothing but its deadline and its token keeps an evaluation from returning its source. -/
theorem of_returned {result : Evaluation.Result} (hresult : r.stage = .returned result) :
    (result = Evaluation.classify (.ok ()) (Utf8.encode r.source) [] ∧
      ∃ k ended, course e ops i = some k ∧ k.progress = .ended ended) ∨
    (result = .error (.ofInterrupt .deadlineExceeded) ∧
      r.context.deadline ≤ ((ofEvaluator e).performAll ops).now) ∨
    (result = .error (.ofInterrupt .canceled) ∧
      ((ofEvaluator e).performAll ops).tokens.isCanceled r.context.token = true) := by
  cases Session.justified_of_returned hr hresult with
  | @completed k ended hk hended =>
    obtain ⟨r', hr', hof⟩ := Session.exists_run_of_course hk
    obtain rfl := Option.some.inj (hr.symm.trans hr')
    have htake : (Utf8.encode r.source).take (e.settingsWithin r.limits).maxOutputBytes =
        Utf8.encode r.source := List.take_of_length_le hspace
    obtain ⟨-, hcome⟩ := of_course hg hpages hof
    rw [(hcome ended hended).2, htake]
    exact .inl ⟨rfl, k, ended, hk, hended⟩
  | late h => exact .inr (.inl ⟨rfl, h⟩)
  | canceled h => exact .inr (.inr ⟨rfl, h⟩)

/-- Wherever an evaluation stands, it returns its source when it is polled for as long as all of it
takes. -/
theorem stage_poll (hst : r.stage ≠ .dropped)
    (hdone : ((ofEvaluator e).performAll ops).done r.context = none)
    (hlimit : ((ofEvaluator e).performAll ops).now + time (Utf8.encode r.source) ≤ limit)
    (hdeadline : limit ≤ r.context.deadline) :
    (((ofEvaluator e).performAll ops).poll i limit).stage i =
      .returned (Evaluation.classify (.ok ()) (Utf8.encode r.source) []) := by
  obtain ⟨names, describesSource, hguest⟩ := hg.exists_eq
  have hpos : 0 < limit :=
    Nat.lt_of_lt_of_le (time_pos _) (Nat.le_trans (Nat.le_add_left _ _) hlimit)
  obtain ⟨hend, -⟩ := of_begun (c := e.settingsWithin r.limits) names describesSource hpages
    (Utf8.encode r.source) ((ofEvaluator e).performAll ops).now
  rw [← hguest] at hend
  have htake : (Utf8.encode r.source).take (e.settingsWithin r.limits).maxOutputBytes =
      Utf8.encode r.source := List.take_of_length_le hspace
  rw [htake] at hend
  exact Session.stage_poll_of_ended (not_observes hg) hr hst hdone hpos hdeadline hend hlimit

end

/-- An evaluation from its beginning to its end returns its source if its context is not done by the
time that it takes. -/
theorem evaluateWithin_eq_source (hg : IsCompiled e.host.guest)
    (hpages : 1 ≤ e.host.effectivePages limits.memoryLimitPages) {code : String}
    (hspace : (Utf8.encode code).length ≤ e.host.options.maxOutputBytes)
    (hdone : ((ofEvaluator e).performAll ops).done x = none)
    (hdeadline : ((ofEvaluator e).performAll ops).now + time (Utf8.encode code) ≤ x.deadline) :
    (((ofEvaluator e).performAll ops).evaluateWithin limits x code).1 =
      Evaluation.classify (.ok ()) (Utf8.encode code) [] := by
  have hbegin : (((ofEvaluator e).performAll ops).begin limits x code).2 =
      (ofEvaluator e).performAll (ops ++ [.begin limits x code]) := by
    rw [Session.performAll_append]
    rfl
  have hr := ((ofEvaluator e).performAll ops).getElem?_begin limits x code
  have hreturned := ((ofEvaluator e).performAll ops).stage_evaluateWithin limits x code
  -- the only poll goes up to the deadline
  have hpoll : (((ofEvaluator e).performAll ops).evaluateWithin limits x code).2 =
      (((ofEvaluator e).performAll ops).begin limits x code).2.poll
        ((ofEvaluator e).performAll ops).runs.size x.deadline := by
    rw [Session.evaluateWithin_eq, Session.complete, hr, Option.elim_some]
  rw [hpoll, hbegin] at hreturned
  rw [hbegin] at hr
  have hdone' : ((ofEvaluator e).performAll (ops ++ [.begin limits x code])).done x = none :=
    hbegin ▸ hdone
  have hlimit : ((ofEvaluator e).performAll (ops ++ [.begin limits x code])).now +
      time (Utf8.encode code) ≤ x.deadline := hbegin ▸ hdeadline
  have hecho := stage_poll hg hpages hspace hr (by simp) hdone' hlimit (Nat.le_refl _)
  exact Stage.returned.inj (hreturned.symm.trans hecho)

/-- In every session of the guest that echoes, with room for a page and for the source in the
output, an evaluation of the source returns it, classified like the output of a run that has
returned. It is long enough for that to be polled for the time that its steps take, however far it
has come and whatever else has happened. It returns nothing else, unless its deadline has come or
its token is canceled. Its calls pass on the source in chunks, each byte once and in order, and then
the end of the input. -/
theorem returns_source (e : Evaluator) (hg : IsCompiled e.host.guest) (limits : Limits)
    (hpages : 1 ≤ e.host.effectivePages limits.memoryLimitPages) (code : String)
    (hspace : (Utf8.encode code).length ≤ e.host.options.maxOutputBytes) (ops : List Operation) :
    let s := (ofEvaluator e).performAll ops
    let bytes := Utf8.encode code
    let echo := Evaluation.classify (.ok ()) bytes []
    (∀ x, s.done x = none → s.now + time bytes ≤ x.deadline →
      (s.evaluateWithin limits x code).1 = echo) ∧
    ∀ i r, s.runs[i]? = some r → r.limits = limits → r.source = code →
      (r.stage ≠ .dropped → s.done r.context = none → ∀ limit, s.now + time bytes ≤ limit →
        limit ≤ r.context.deadline → (s.poll i limit).stage i = .returned echo) ∧
      (∀ result, r.stage = .returned result →
        (result = echo ∧ ∃ k ended, course e ops i = some k ∧ k.progress = .ended ended) ∨
        (result = .error (.ofInterrupt .deadlineExceeded) ∧ r.context.deadline ≤ s.now) ∨
        (result = .error (.ofInterrupt .canceled) ∧
          s.tokens.isCanceled r.context.token = true)) ∧
      ∀ k, course e ops i = some k →
        let xs := k.exchanges e.host.world e.host.guest
        xs <+: transcript e.host.options.maxOutputBytes bytes ∧
        ∀ ended, k.progress = .ended ended →
          xs = transcript e.host.options.maxOutputBytes bytes ∧ IsEcho bytes xs := by
  refine ⟨fun x => evaluateWithin_eq_source hg hpages hspace, ?_⟩
  rintro i r hr rfl rfl
  refine ⟨fun hst hdone limit => stage_poll hg hpages hspace hr hst hdone,
    fun result => of_returned hg hpages hspace hr, fun k hk => ?_⟩
  obtain ⟨r', hr', hof⟩ := Session.exists_run_of_course hk
  obtain rfl := Option.some.inj (hr.symm.trans hr')
  obtain ⟨hbegins, hcome⟩ := of_course hg hpages hof
  refine ⟨hbegins, fun ended hended => ⟨(hcome ended hended).1, ?_⟩⟩
  have hall : k.exchanges e.host.world e.host.guest = _ := (hcome ended hended).1
  rw [hall]
  exact isEcho_transcript _ _

/-- A host that runs the guest with one page and with room for one byte. -/
def oneByte : Host := { guest := guest {} false, options := ⟨1, 1, 1000⟩ }

/-- A source of one byte is returned, also by an evaluation that has begun already. -/
theorem returns_source_of_oneByte :
    let s := (ofEvaluator (Session.onePage oneByte)).performAll
      [.begin ⟨1, 5000⟩ ⟨5000, 0⟩ "7", .enter 0]
    Host.compile image ⟨1, 1, 1000⟩ = .ok oneByte ∧
      (s.evaluateWithin ⟨1, 5000⟩ ⟨5000, 0⟩ "7").1 = Evaluation.classify (.ok ()) [0x37] [] ∧
      (s.poll 0 1000).stage 0 = .returned (Evaluation.classify (.ok ()) [0x37] []) := by
  intro s
  have hcompile : Guest.compile image = .ok (guest {} false) :=
    compile_of_readModule readModule_image
  have hg : IsCompiled oneByte.guest := ⟨image, {}, false, readModule_image, hcompile⟩
  have hbytes : Utf8.encode "7" = [0x37] := by with_unfolding_all decide
  have hspace : (Utf8.encode "7").length ≤ 1 := by rw [hbytes]; decide
  obtain ⟨hevaluate, hpoll⟩ := returns_source (Session.onePage oneByte) hg ⟨1, 5000⟩ (by decide) "7"
    hspace [.begin ⟨1, 5000⟩ ⟨5000, 0⟩ "7", .enter 0]
  have hdone : ((ofEvaluator (Session.onePage oneByte)).begin ⟨1, 5000⟩ ⟨5000, 0⟩ "7").2.done
      ⟨5000, 0⟩ = none := by with_unfolding_all decide
  have hr : ((ofEvaluator (Session.onePage oneByte)).begin ⟨1, 5000⟩ ⟨5000, 0⟩ "7").2.runs[0]? =
      some ⟨⟨1, 5000⟩, ⟨5000, 0⟩, "7", .fresh⟩ := rfl
  have hentered : s = Session.entered _ 0 ⟨1, 5000⟩ "7" := Session.enter_of_not_done hdone hr
  have hnow : s.now = 0 := by rw [hentered]; rfl
  have hdone' : s.done ⟨5000, 0⟩ = none := by rw [hentered]; exact hdone
  have hr' := Session.getElem?_entered hr
  rw [← hentered] at hr'
  have htime : s.now + time [0x37] = 1000 := by rw [hnow]; rfl
  rw [hbytes] at hevaluate hpoll
  refine ⟨?_, hevaluate ⟨5000, 0⟩ hdone' (htime ▸ by decide), ?_⟩
  · rw [Host.compile, hcompile]
    rfl
  · exact (hpoll 0 _ hr' rfl rfl).1 nofun hdone' 1000 (Nat.le_of_eq htime) (by decide)

end ScriptSandbox.Sandbox.Echo
