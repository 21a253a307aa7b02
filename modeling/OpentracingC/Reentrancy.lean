import OpentracingC.GlobalTracer

/-!
# Re-entrancy of Tracer Replacement

The destroy method of a tracer may call `opentracing_global_tracer` and
`opentracing_init_global_tracer` itself: a tracer must flush on destruction, and the code
it runs then may be instrumented. A `Script` is a terminating program over the two
functions, as the tree of its calls; an installation carries what the destroy methods of
the tracers would do if it calls them, again as scripts. `exec` runs a script and records
its calls.

`opentracing_init_global_tracer` assigns `global_tracer` only after the destroy method
has returned, so that whatever a destroy method calls still finds the tracer that is being
destroyed installed: `opentracing_global_tracer` returns it, and installing a third tracer
destroys it again. `Safe` says that neither happens, and `safe_iff_callbackFree` that a
run is safe exactly when no destroy method of a tracer it replaces, the no-op apart, calls
back.
-/

namespace OpentracingC

/-- What is observed of a run. -/
inductive TracerEvent
  /-- `opentracing_init_global_tracer` was called. -/
  | initCalled (t : TracerPtr)
  /-- The destroy method of a tracer was begun. -/
  | destroyBegun (t : TracerPtr)
  /-- `opentracing_global_tracer` returned. -/
  | globalTracerReturned (t : Option TracerPtr)
deriving DecidableEq

/-- A terminating program over the two functions of the global tracer. -/
inductive Script
  | done
  /-- A call of `opentracing_global_tracer`; the rest depends on what it returns. -/
  | globalTracer (rest : Option TracerPtr → Script)
  /-- A call of `opentracing_init_global_tracer`, at a time when the destroy method of each
  tracer would run `destroy`. -/
  | initGlobalTracer (t : TracerPtr) (destroy : TracerPtr → Script) (rest : Script)

/-- A process that records the calls of a run. -/
abbrev RecordedState := GlobalState (List TracerEvent)

/-- One more event. -/
def GlobalState.record (s : GlobalState (List TracerEvent)) (e : TracerEvent) :
    GlobalState (List TracerEvent) :=
  { s with world := s.world ++ [e] }

@[simp] theorem globalTracer_record (s : RecordedState) (e : TracerEvent) :
    (s.record e).globalTracer = s.globalTracer := rfl

@[simp] theorem world_record (s : RecordedState) (e : TracerEvent) :
    (s.record e).world = s.world ++ [e] := rfl

/-- The run of a script, `none` when an assertion fails. The destroy method of the no-op
tracer does nothing. -/
def exec : Script → RecordedState → Option RecordedState
  | .done, s => some s
  | .globalTracer rest, s =>
      exec (rest (opentracingGlobalTracer s))
        (s.record (.globalTracerReturned (opentracingGlobalTracer s)))
  | .initGlobalTracer t destroy rest, s => do
      let s ← opentracingInitGlobalTracer
        (fun p s =>
          if p = .noopTracerSingleton then some (s.record (.destroyBegun p))
          else exec (destroy p) (s.record (.destroyBegun p)))
        (some t) (s.record (.initCalled t))
      exec rest s

section

variable {s : RecordedState} {cur t : TracerPtr} {destroy : TracerPtr → Script} {rest : Script}

/-- Installing the tracer that is installed. -/
theorem exec_init_self (hs : s.globalTracer = some t) :
    exec (.initGlobalTracer t destroy rest) s = exec rest (s.record (.initCalled t)) := by
  have hs' : (s.record (.initCalled t)).globalTracer = some t := hs
  rw [exec, init_self hs']
  rfl

/-- Replacing the no-op tracer. -/
theorem exec_init_noop (hs : s.globalTracer = some .noopTracerSingleton)
    (ht : t ≠ .noopTracerSingleton) :
    exec (.initGlobalTracer t destroy rest) s =
      exec rest
        { (s.record (.initCalled t)).record (.destroyBegun .noopTracerSingleton) with
          globalTracer := some t } := by
  have hs' : (s.record (.initCalled t)).globalTracer = some .noopTracerSingleton := hs
  rw [exec, init_other hs' ht, if_pos rfl]
  rfl

/-- Replacing another tracer: its destroy method runs while it is still installed. -/
theorem exec_init_other (hs : s.globalTracer = some cur) (ht : t ≠ cur)
    (hcur : cur ≠ .noopTracerSingleton) :
    exec (.initGlobalTracer t destroy rest) s =
      (exec (destroy cur) ((s.record (.initCalled t)).record (.destroyBegun cur))).bind
        fun s => exec rest { s with globalTracer := some t } := by
  have hs' : (s.record (.initCalled t)).globalTracer = some cur := hs
  rw [exec, init_other hs' ht, if_neg hcur]
  exact Option.bind_map

/-- Replacing a tracer whose destroy method does nothing, as that of the no-op tracer. -/
theorem exec_init_quiet (hs : s.globalTracer = some cur) (ht : t ≠ cur)
    (hdone : cur ≠ .noopTracerSingleton → destroy cur = .done) :
    exec (.initGlobalTracer t destroy rest) s =
      exec rest
        { (s.record (.initCalled t)).record (.destroyBegun cur) with globalTracer := some t } := by
  by_cases hcur : cur = .noopTracerSingleton
  · subst hcur
    exact exec_init_noop hs ht
  · rw [exec_init_other hs ht hcur, hdone hcur]
    rfl

end

/-- **Scripts terminate** without a failed assertion, and only add to the record. -/
theorem exec_total (script : Script) {s : RecordedState} {cur : TracerPtr}
    (hs : s.globalTracer = some cur) :
    ∃ s' cur', exec script s = some s' ∧ s'.globalTracer = some cur' ∧ s.world <+: s'.world := by
  induction script generalizing s cur with
  | done => exact ⟨s, cur, rfl, hs, List.prefix_rfl⟩
  | globalTracer rest ih =>
      obtain ⟨s', cur', hexec, hs', hpre⟩ := ih (opentracingGlobalTracer s)
        (s := s.record (.globalTracerReturned (opentracingGlobalTracer s))) hs
      exact ⟨s', cur', hexec, hs', (List.prefix_append _ _).trans hpre⟩
  | initGlobalTracer t destroy rest ihDestroy ihRest =>
      by_cases ht : t = cur
      · subst ht
        obtain ⟨s', cur', hexec, hs', hpre⟩ := ihRest (s := s.record (.initCalled t)) hs
        rw [exec_init_self hs]
        exact ⟨s', cur', hexec, hs', (List.prefix_append _ _).trans hpre⟩
      · by_cases hcur : cur = .noopTracerSingleton
        · subst hcur
          rw [exec_init_noop hs ht]
          obtain ⟨s', cur', hexec, hs', hpre⟩ := ihRest
            (s := { (s.record (.initCalled t)).record (.destroyBegun .noopTracerSingleton) with
              globalTracer := some t }) rfl
          refine ⟨s', cur', hexec, hs', List.IsPrefix.trans ?_ hpre⟩
          simp
        · rw [exec_init_other hs ht hcur]
          obtain ⟨s₁, cur₁, hexec₁, -, hpre₁⟩ := ihDestroy cur
            (s := (s.record (.initCalled t)).record (.destroyBegun cur)) hs
          obtain ⟨s', cur', hexec, hs', hpre⟩ := ihRest
            (s := { s₁ with globalTracer := some t }) rfl
          refine ⟨s', cur', by rw [hexec₁]; exact hexec, hs', List.IsPrefix.trans ?_ hpre⟩
          refine List.IsPrefix.trans ?_ hpre₁
          simp

/-- A run only adds to the record. -/
theorem prefix_of_exec {script : Script} {s s' : RecordedState} {cur : TracerPtr}
    (hs : s.globalTracer = some cur) (hexec : exec script s = some s') :
    s.world <+: s'.world := by
  obtain ⟨s₁, -, hexec₁, -, hpre⟩ := exec_total script hs
  obtain rfl : s₁ = s' := by
    rw [hexec₁] at hexec
    exact Option.some.inj hexec
  exact hpre

/-! ### What may follow the begin of a destroy -/

/-- After the destroy of a tracer other than the no-op was begun, only events that meet
`P` follow. -/
def AfterDestroy (P : TracerPtr → TracerEvent → Prop) (events : List TracerEvent) : Prop :=
  events.Pairwise fun a b => ∀ t, a = .destroyBegun t → t ≠ .noopTracerSingleton → P t b

/-- The caller's discipline: a tracer is not installed after its destroy was begun. -/
def Disciplined : List TracerEvent → Prop :=
  AfterDestroy fun t e => e ≠ .initCalled t

/-- **Safety**: a destroy is not begun a second time, and a tracer whose destroy was begun
is not returned as the global tracer. -/
def Safe : List TracerEvent → Prop :=
  AfterDestroy fun t e => e ≠ .destroyBegun t ∧ e ≠ .globalTracerReturned (some t)

section

variable {P : TracerPtr → TracerEvent → Prop} {events events' : List TracerEvent}

/-- One more event. -/
theorem afterDestroy_append_singleton_iff {e : TracerEvent} :
    AfterDestroy P (events ++ [e]) ↔
      AfterDestroy P events ∧
        ∀ t, t ≠ .noopTracerSingleton → .destroyBegun t ∈ events → P t e := by
  rw [AfterDestroy, List.pairwise_append]
  constructor
  · rintro ⟨hevents, -, hlast⟩
    exact ⟨hevents, fun t ht hmem => hlast _ hmem e (List.mem_singleton_self e) t rfl ht⟩
  · rintro ⟨hevents, hlast⟩
    refine ⟨hevents, List.pairwise_singleton _ _, ?_⟩
    rintro a ha b hb t rfl ht
    obtain rfl : b = e := List.mem_singleton.mp hb
    exact hlast t ht ha

/-- What holds of a record holds of its beginnings. -/
theorem AfterDestroy.of_prefix (h : AfterDestroy P events') (hpre : events <+: events') :
    AfterDestroy P events :=
  List.Pairwise.sublist hpre.sublist h

end

/-! ### Runs without callbacks -/

/-- No destroy method that a script calls does anything, the one of the no-op apart:
`cur` is the tracer installed when the script starts. -/
def CallbackFree : TracerPtr → Script → Prop
  | _, .done => True
  | cur, .globalTracer rest => CallbackFree cur (rest (some cur))
  | cur, .initGlobalTracer t destroy rest =>
      (t ≠ cur → cur ≠ .noopTracerSingleton → destroy cur = .done) ∧ CallbackFree t rest

/-- **Without callbacks a disciplined run is safe.** The invariant carried through the run
is that the installed tracer's destroy was not begun. -/
theorem safe_of_callbackFree {script : Script} {s s' : RecordedState} {cur : TracerPtr}
    (hs : s.globalTracer = some cur) (hfree : CallbackFree cur script)
    (hexec : exec script s = some s') (hdisc : Disciplined s'.world) (hsafe : Safe s.world)
    (hlive : cur ≠ .noopTracerSingleton → .destroyBegun cur ∉ s.world) : Safe s'.world := by
  induction script generalizing s cur with
  | done =>
      obtain rfl : s = s' := Option.some.inj hexec
      exact hsafe
  | globalTracer rest ih =>
      have hret : opentracingGlobalTracer s = some cur := hs
      rw [exec, hret] at hexec
      refine ih (some cur) (s := s.record (.globalTracerReturned (some cur))) hs hfree hexec ?_ ?_
      · refine afterDestroy_append_singleton_iff.mpr ⟨hsafe, fun t ht hmem => ?_⟩
        refine ⟨by simp, fun heq => ?_⟩
        obtain rfl : cur = t := by simpa using heq
        exact hlive ht hmem
      · intro hnoop
        simpa using hlive hnoop
  | initGlobalTracer t destroy rest ihDestroy ihRest =>
      obtain ⟨hdone, hrest⟩ := hfree
      -- the record after the call of `opentracing_init_global_tracer`
      have hsafe₁ : Safe (s.record (.initCalled t)).world :=
        afterDestroy_append_singleton_iff.mpr ⟨hsafe, fun _ _ _ => by simp⟩
      by_cases ht : t = cur
      · subst ht
        rw [exec_init_self hs] at hexec
        refine ihRest (s := s.record (.initCalled t)) hs hrest hexec hsafe₁ ?_
        intro hnoop
        simpa using hlive hnoop
      · rw [exec_init_quiet hs ht (hdone ht)] at hexec
        have hpre := prefix_of_exec rfl hexec
        refine ihRest rfl hrest hexec ?_ ?_
        · refine afterDestroy_append_singleton_iff.mpr ⟨hsafe₁, fun u hu hmem => ?_⟩
          refine ⟨fun heq => ?_, by simp⟩
          obtain rfl : cur = u := by simpa using heq
          have hmem' : .destroyBegun cur ∈ s.world := by simpa using hmem
          exact hlive hu hmem'
        · intro hnoop hmem
          have hinit : Disciplined (s.world ++ [.initCalled t]) := by
            refine hdisc.of_prefix (List.IsPrefix.trans ?_ hpre)
            simp
          have hbefore : .destroyBegun t ∈ s.world := by
            simpa [ht] using hmem
          exact (afterDestroy_append_singleton_iff.mp hinit).2 t hnoop hbefore rfl

/-- A destroy method that calls back is not safe: with its tracer still installed, its
first call either returns the tracer, or installs it, or begins its destroy again. -/
theorem eq_done_of_safe {body : Script} {s s' : RecordedState} {cur : TracerPtr}
    (hs : s.globalTracer = some cur) (hcur : cur ≠ .noopTracerSingleton)
    (hexec : exec body (s.record (.destroyBegun cur)) = some s')
    (hdisc : Disciplined s'.world) (hsafe : Safe s'.world) : body = .done := by
  have hs₁ : (s.record (.destroyBegun cur)).globalTracer = some cur := hs
  have hbegun : .destroyBegun cur ∈ (s.record (.destroyBegun cur)).world := by simp
  cases body with
  | done => rfl
  | globalTracer rest =>
      have hret : opentracingGlobalTracer (s.record (.destroyBegun cur)) = some cur := hs
      rw [exec, hret] at hexec
      have hpre := prefix_of_exec
        (s := (s.record (.destroyBegun cur)).record (.globalTracerReturned (some cur))) hs hexec
      obtain ⟨-, hlast⟩ := afterDestroy_append_singleton_iff.mp (hsafe.of_prefix hpre)
      exact absurd rfl (hlast cur hcur hbegun).2
  | initGlobalTracer t destroy rest =>
      by_cases ht : t = cur
      · subst ht
        rw [exec_init_self hs₁] at hexec
        have hpre := prefix_of_exec
          (s := (s.record (.destroyBegun t)).record (.initCalled t)) hs hexec
        obtain ⟨-, hlast⟩ := afterDestroy_append_singleton_iff.mp (hdisc.of_prefix hpre)
        exact absurd rfl (hlast t hcur hbegun)
      · rw [exec_init_other hs₁ ht hcur, Option.bind_eq_some_iff] at hexec
        obtain ⟨s₁, hdestroy, hexec⟩ := hexec
        have hpre₁ := prefix_of_exec
          (s := ((s.record (.destroyBegun cur)).record (.initCalled t)).record
            (.destroyBegun cur)) hs hdestroy
        have hpre₂ : s₁.world <+: s'.world :=
          prefix_of_exec (s := { s₁ with globalTracer := some t }) rfl hexec
        obtain ⟨-, hlast⟩ :=
          afterDestroy_append_singleton_iff.mp (hsafe.of_prefix (hpre₁.trans hpre₂))
        exact absurd rfl (hlast cur hcur (by simp)).1

/-- **A safe disciplined run has no callbacks**. -/
theorem callbackFree_of_safe {script : Script} {s s' : RecordedState} {cur : TracerPtr}
    (hs : s.globalTracer = some cur) (hexec : exec script s = some s')
    (hdisc : Disciplined s'.world) (hsafe : Safe s'.world) : CallbackFree cur script := by
  induction script generalizing s cur with
  | done => trivial
  | globalTracer rest ih =>
      have hret : opentracingGlobalTracer s = some cur := hs
      rw [exec, hret] at hexec
      exact ih (some cur) (s := s.record (.globalTracerReturned (some cur))) hs hexec
  | initGlobalTracer t destroy rest ihDestroy ihRest =>
      by_cases ht : t = cur
      · subst ht
        rw [exec_init_self hs] at hexec
        exact ⟨fun h => absurd rfl h, ihRest (s := s.record (.initCalled t)) hs hexec⟩
      · by_cases hcur : cur = .noopTracerSingleton
        · subst hcur
          rw [exec_init_noop hs ht] at hexec
          exact ⟨fun _ h => absurd rfl h, ihRest rfl hexec⟩
        · rw [exec_init_other hs ht hcur, Option.bind_eq_some_iff] at hexec
          obtain ⟨s₁, hdestroy, hexec⟩ := hexec
          refine ⟨fun _ _ => ?_, ihRest rfl hexec⟩
          have hpre₁ : s₁.world <+: s'.world :=
            prefix_of_exec (s := { s₁ with globalTracer := some t }) rfl hexec
          exact eq_done_of_safe (s := s.record (.initCalled t)) hs hcur hdestroy
            (hdisc.of_prefix hpre₁) (hsafe.of_prefix hpre₁)

/-- **Re-entrancy**: every script runs to its end without a failed assertion, and a run
that is disciplined is safe exactly when it is free of callbacks. -/
theorem safe_iff_callbackFree (script : Script) :
    ∃ s, exec script (.start []) = some s ∧
      (Disciplined s.world → (Safe s.world ↔ CallbackFree .noopTracerSingleton script)) := by
  obtain ⟨s, -, hexec, -, -⟩ := exec_total script (s := .start []) rfl
  refine ⟨s, hexec, fun hdisc => ⟨fun hsafe => ?_, fun hfree => ?_⟩⟩
  · exact callbackFree_of_safe (s := .start []) rfl hexec hdisc hsafe
  · exact safe_of_callbackFree (s := .start []) rfl hfree hexec hdisc List.Pairwise.nil
      fun h => absurd rfl h

/-- The first tracer is replaced by the second, and its destroy method runs `body`. -/
def Script.replaceFirst (body : Script) : Script :=
  .initGlobalTracer (.object 1) (fun _ => .done)
    (.initGlobalTracer (.object 2) (fun _ => body) .done)

/-- The first tracer is replaced by the second, the global tracer is asked for, and the
second tracer is replaced by a third. -/
def Script.replaceTwice : Script :=
  .initGlobalTracer (.object 1) (fun _ => .done)
    (.initGlobalTracer (.object 2) (fun _ => .done)
      (.globalTracer fun _ => .initGlobalTracer (.object 3) (fun _ => .done) .done))

/-- Destroy methods that do nothing are run safely. -/
theorem safe_replaceTwice :
    ∃ s, exec Script.replaceTwice (.start []) = some s ∧
      s.world = [.initCalled (.object 1), .destroyBegun .noopTracerSingleton,
        .initCalled (.object 2), .destroyBegun (.object 1),
        .globalTracerReturned (some (.object 2)), .initCalled (.object 3),
        .destroyBegun (.object 2)] ∧ Safe s.world := by
  obtain ⟨s, hexec, hiff⟩ := safe_iff_callbackFree Script.replaceTwice
  obtain rfl := Option.some.inj hexec
  refine ⟨_, rfl, rfl, (hiff ?_).mpr ?_⟩
  · simp [Disciplined, AfterDestroy, GlobalState.record, GlobalState.start]
  · simp [Script.replaceTwice, CallbackFree]

/-- Re-entrancy is not safe: a destroy method that asks for the global tracer gets its own
tracer, and one that installs a third tracer is begun a second time, in disciplined
runs. -/
theorem not_safe_of_callback :
    (∃ s, exec (Script.replaceFirst (.globalTracer fun _ => .done)) (.start []) = some s ∧
      Disciplined s.world ∧ ¬ Safe s.world) ∧
    ∃ s, exec (Script.replaceFirst (.initGlobalTracer (.object 3) (fun _ => .done) .done))
        (.start []) = some s ∧
      Disciplined s.world ∧ s.world.count (.destroyBegun (.object 1)) = 2 ∧ ¬ Safe s.world := by
  refine ⟨⟨_, rfl, ?_, ?_⟩, _, rfl, ?_, ?_, ?_⟩
  · simp [Disciplined, AfterDestroy, GlobalState.record, GlobalState.start]
  · simp [Safe, AfterDestroy, GlobalState.record, GlobalState.start, opentracingGlobalTracer]
  · simp [Disciplined, AfterDestroy, GlobalState.record, GlobalState.start]
  · rfl
  · simp [Safe, AfterDestroy, GlobalState.record, GlobalState.start]

end OpentracingC
