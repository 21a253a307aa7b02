import OpentracingC.Lib.RefLedger
import OpentracingC.TracerRuns

/-!
# Tracing Implementations

What a program that traces relies on. A `Tracing` is any implementation of the functions of
`tracer.h` and `span.h`, with the two allocators of the documentation's programs.
`apiMachine` makes calls to it one after another under the callers' contract of the headers
(`Tracing.Ready`): methods are called on the global tracer while it was not destroyed, and on
spans whose reference is open, with arguments that meet the `NONNULL` attributes and span
contexts of spans that are still there; once a span is finished, only its context is asked for
before it is destroyed; and a tracer that was destroyed is not installed again.

`Tracing.MeetsHeaders` is what the headers promise in return: an allowed call does not
abort, and answers as its `@return` says, where a start call may answer NULL; and the global
tracer is one that can be used.

`tracer.c` is one such implementation (`tracerC_meetsHeaders`), and its runs through this
interface are runs of `tracerMachine` (`apiMachine_simulation_tracer`).
-/

open CMemory RefLedger

namespace OpentracingC

open OpentracingPropagationErrorCode

/-- A tracing implementation, with the allocators of the programs that use it. -/
structure Tracing (σ : Type) where
  /-- `opentracing_global_tracer`. -/
  globalTracer : σ → Option TracerPtr
  /-- `opentracing_init_global_tracer`, `none` when it aborts. -/
  initGlobalTracer : TracerPtr → σ → Option σ
  /-- A method call through the table of its object, `none` when it aborts. -/
  call : NoopCall → σ → Option (Answer × σ)
  /-- `make_tracing_impl`; NULL on failure. -/
  makeTracingImpl : σ → Option TracerPtr × σ
  /-- `text_map_new`: whether it returned a map. -/
  textMapNew : σ → Bool × σ
  /-- The base of an initialised `text_map_writer`. -/
  writer : Carrier

/-- A program that traces: the process, and what the program has done. -/
structure ApiState (σ : Type) where
  world : σ
  /-- The method calls, with their answers. -/
  log : List (NoopCall × Answer)
  /-- The tracers `make_tracing_impl` returned. -/
  made : List TracerPtr
  /-- The tracers that installations destroyed, but for those that were made anew. -/
  destroyed : List TracerPtr
  /-- The number of text maps allocated; there is no call that frees one. -/
  maps : ℕ
  /-- The error codes printed on `stderr`. -/
  stderr : List OpentracingPropagationErrorCode

namespace ApiState

variable {σ : Type}

/-- A program at its start. -/
def start (world : σ) : ApiState σ where
  world := world
  log := []
  made := []
  destroyed := []
  maps := 0
  stderr := []

/-- The state after a method call. -/
def logged (s : ApiState σ) (call : NoopCall) (answer : Answer) (world : σ) : ApiState σ :=
  { s with world, log := s.log ++ [(call, answer)] }

/-- The state after `make_tracing_impl` returned `t`. A pointer that is returned again is to
a new tracer. -/
def afterMake (s : ApiState σ) (t : Option TracerPtr) (world : σ) : ApiState σ :=
  { s with
    world
    made := s.made ++ t.toList
    destroyed := s.destroyed.filter fun u => some u ≠ t }

/-- The state after the installation of `t` in the place of `replaced`, which it destroys. -/
def afterInit (s : ApiState σ) (replaced : Option TracerPtr) (t : TracerPtr) (world : σ) :
    ApiState σ :=
  { s with
    world
    destroyed := s.destroyed ++ replaced.toList.filter fun u => u ≠ t }

/-- A tracer that was just made was not destroyed. -/
theorem new_afterMake {s : ApiState σ} {t : TracerPtr} {world : σ} :
    t ∈ (s.afterMake (some t) world).made ∧ t ∉ (s.afterMake (some t) world).destroyed := by
  constructor
  · exact List.mem_append_right _ (List.mem_singleton_self t)
  · intro hmem
    have hne : some t ≠ some t := of_decide_eq_true (List.mem_filter.mp hmem).2
    exact hne rfl

/-- A tracer that is installed is not destroyed by its installation. -/
theorem not_mem_afterInit {s : ApiState σ} {replaced : Option TracerPtr} {t : TracerPtr}
    {world : σ} (ht : t ∉ s.destroyed) : t ∉ (s.afterInit replaced t world).destroyed := by
  intro hmem
  rcases List.mem_append.mp hmem with hold | hnew
  · exact ht hold
  · have hne : t ≠ t := of_decide_eq_true (List.mem_filter.mp hnew).2
    exact hne rfl

end ApiState

/-- What a method call does to the references to spans: a start call adds one to the span it
answers, `destroy` removes one, and any other method of a span uses it. -/
def refEvent : NoopCall × Answer → Option (Event SpanPtr)
  | (.tracer _ _, .span (some p)) => some (.acquire p)
  | (.span p .destroy, _) => some (.release p)
  | (.span p _, _) => some (.use p)
  | _ => none

/-- The ledger of the references to spans. -/
def spanRefs (log : List (NoopCall × Answer)) : List (Event SpanPtr) :=
  log.filterMap refEvent

theorem spanRefs_append (log log' : List (NoopCall × Answer)) :
    spanRefs (log ++ log') = spanRefs log ++ spanRefs log' :=
  List.filterMap_append

/-- The ledger after a method call. -/
theorem spanRefs_logged {σ : Type} (s : ApiState σ) (call : NoopCall) (answer : Answer)
    (world : σ) :
    spanRefs (s.logged call answer world).log =
      spanRefs s.log ++ (refEvent (call, answer)).toList := by
  rw [ApiState.logged, spanRefs_append]
  cases h : refEvent (call, answer) <;> simp [spanRefs, h]

/-! ### Calls under the contract of the headers -/

/-- What a call says of the span `p`: that it was started, or that it was finished. -/
def startsOrFinishes (p : SpanPtr) : NoopCall × Answer → Option Bool
  | (.tracer _ _, .span (some q)) => if q = p then some true else none
  | (.span q .finish, _) => if q = p then some false else none
  | (.span q (.finishWithOptions _), _) => if q = p then some false else none
  | _ => none

/-- The span `p` was started, and has not been finished since. -/
def Unfinished (log : List (NoopCall × Answer)) (p : SpanPtr) : Prop :=
  (log.filterMap (startsOrFinishes p)).getLast? = some true

/-- The span context `c` was asked of a span that has not been destroyed since. -/
def Current (log : List (NoopCall × Answer)) (c : SpanContextPtr) : Prop :=
  ∃ p before after, log = before ++ (.span p .spanContext, .spanContext (some c)) :: after ∧
    ∀ e ∈ after, e.1 ≠ .span p .destroy

/-- A span context is passed: it is not NULL, and current. -/
def Passed (log : List (NoopCall × Answer)) (spanContext : Option SpanContextPtr) : Prop :=
  ∃ c, spanContext = some c ∧ Current log c

/-- The contract of the methods of a tracer, for a program whose one carrier is `writer`. A
tracer is destroyed by the installation that replaces it, and not by the program. -/
def TracerMethod.Permitted (writer : Carrier) (log : List (NoopCall × Answer)) :
    TracerMethod → Prop
  | .destroy => False
  | .close => True
  | .startSpan operationName => operationName ≠ none
  | .startSpanWithOptions operationName options =>
      operationName ≠ none ∧
        ∀ o ∈ options, ∀ reference ∈ o.references, Passed log reference.referencedContext
  | .inject format carrier spanContext =>
      format = .textMap ∧ carrier = some writer ∧ Passed log spanContext
  | .injectBinary _ _ _ => False
  | .extract _ _ _ => False
  | .extractBinary _ _ _ => False

/-- The contract of the methods of the span `p`, for a program that has no tag values, log
fields and finish options to point to. Its context can be asked for after `finish`, and the
documentation destroys it after `finish`; all other calls come before. -/
def SpanMethod.Permitted (log : List (NoopCall × Answer)) (p : SpanPtr) : SpanMethod → Prop
  | .destroy => True
  | .spanContext => True
  | .finish => Unfinished log p
  | .finishWithOptions options => options = none ∧ Unfinished log p
  | .setOperationName operationName => operationName ≠ none ∧ Unfinished log p
  | .setTag _ _ => False
  | .logFields fields numFields => fields = none ∧ numFields.val = 0 ∧ Unfinished log p
  | .setBaggageItem key value => key ≠ none ∧ value ≠ none ∧ Unfinished log p
  | .baggageItem key => key ≠ none ∧ Unfinished log p
  | .tracer => Unfinished log p

/-- A permitted method meets the `NONNULL` attributes of `tracer.h`. -/
theorem TracerMethod.Permitted.nonnull {writer : Carrier} {log : List (NoopCall × Answer)}
    {method : TracerMethod} (h : method.Permitted writer log) : method.Nonnull := by
  cases method with
  | destroy => cases h
  | close => trivial
  | startSpan operationName => exact h
  | startSpanWithOptions operationName options => exact h.1
  | inject format carrier spanContext =>
      obtain ⟨-, rfl, c, rfl, -⟩ := h
      exact ⟨Option.some_ne_none _, Option.some_ne_none _⟩
  | injectBinary callback arg spanContext => cases h
  | extract format carrier spanContext => cases h
  | extractBinary callback arg spanContext => cases h

/-- A permitted method meets the `NONNULL` attributes of `span.h`. -/
theorem SpanMethod.Permitted.nonnull {log : List (NoopCall × Answer)} {p : SpanPtr}
    {method : SpanMethod} (h : method.Permitted log p) : method.Nonnull := by
  cases method with
  | setOperationName operationName => exact h.1
  | setTag key value => cases h
  | setBaggageItem key value => exact ⟨h.1, h.2.1⟩
  | baggageItem key => exact h.1
  | _ => trivial

/-- The calls of a program that traces. -/
inductive ApiCall
  | method (call : NoopCall)
  | initGlobalTracer (t : TracerPtr)
  | makeTracingImpl
  | textMapNew
  /-- A message on `stderr`. -/
  | report (code : OpentracingPropagationErrorCode)

/-- The answers the headers allow a method. -/
def NoopCall.Answers : NoopCall → Answer → Prop
  | .tracer _ .destroy, answer => answer = .void
  | .tracer _ .close, answer => answer = .void
  | .tracer _ (.startSpan _), answer => ∃ p, answer = .span p
  | .tracer _ (.startSpanWithOptions _ _), answer => ∃ p, answer = .span p
  | .tracer _ _, answer => ∃ code, answer = .code code
  | .span _ .spanContext, answer => ∃ p, answer = .spanContext (some p)
  | .span _ (.baggageItem _), answer => ∃ text, answer = .string (some text)
  | .span _ .tracer, answer => ∃ t, answer = .tracer (some t)
  | .span _ _, answer => answer = .void
  | .spanContext _ _, answer => answer = .void

namespace Tracing

variable {σ : Type} (T : Tracing σ)

/-- The global tracer is `t`, and it was not destroyed. -/
def Usable (s : ApiState σ) (t : TracerPtr) : Prop :=
  T.globalTracer s.world = some t ∧ t ∉ s.destroyed

/-- The callers' contract of a method call. A span may outlive its tracer: the headers say that
a tracer is not used after it was destroyed, and nothing of the spans it started. -/
def Ready (s : ApiState σ) : NoopCall → Prop
  | .tracer t method => T.Usable s t ∧ method.Permitted T.writer s.log
  | .span p method => Held (spanRefs s.log) p ∧ method.Permitted s.log p
  | .spanContext _ _ => False

/-- Calls to an implementation, one after another. -/
def apiMachine : Machine (ApiState σ) ApiCall where
  step s
    | .method call => (T.call call s.world).map fun r => s.logged call r.1 r.2
    | .initGlobalTracer t =>
        (T.initGlobalTracer t s.world).map (s.afterInit (T.globalTracer s.world) t)
    | .makeTracingImpl =>
        some (s.afterMake (T.makeTracingImpl s.world).1 (T.makeTracingImpl s.world).2)
    | .textMapNew =>
        some
          { s with
            world := (T.textMapNew s.world).2
            maps := if (T.textMapNew s.world).1 then s.maps + 1 else s.maps }
    | .report code => some { s with stderr := s.stderr ++ [code] }
  Allowed s
    | .method call => T.Ready s call
    | .initGlobalTracer t => t ∈ s.made ∧ t ∉ s.destroyed
    | .makeTracingImpl => True
    | .textMapNew => True
    | .report code => code ≠ success

/-- **The promises of the headers**, in the states of an invariant: there is a global tracer
and it was not destroyed, an installation returns, and a method call under the contract returns
an answer of its kind and installs no tracer. -/
structure MeetsHeaders (Inv : ApiState σ → Prop) : Prop where
  globalTracer : ∀ s, Inv s → ∃ t, T.Usable s t
  answers : ∀ s call, Inv s → T.Ready s call →
    ∃ answer world, T.call call s.world = some (answer, world) ∧ call.Answers answer ∧
      T.globalTracer world = T.globalTracer s.world
  init : ∀ s t, Inv s → T.apiMachine.Allowed s (.initGlobalTracer t) →
    ∃ world, T.initGlobalTracer t s.world = some world
  keeps : ∀ s a s', Inv s → T.apiMachine.Allowed s a → T.apiMachine.step s a = some s' → Inv s'

variable {T} {s s' : ApiState σ}

/-- One call under the contract uses only spans whose reference is open. -/
theorem covered_step {a : ApiCall} (hs : Covered (spanRefs s.log))
    (hallowed : T.apiMachine.Allowed s a) (hstep : T.apiMachine.step s a = some s') :
    Covered (spanRefs s'.log) := by
  cases a with
  | method call =>
      obtain ⟨⟨answer, world⟩, -, rfl⟩ := Option.map_eq_some_iff.mp hstep
      rw [spanRefs_logged]
      cases hevent : refEvent (call, answer) with
      | none => rwa [Option.toList_none, List.append_nil]
      | some e =>
          refine covered_append_singleton_iff.mpr ⟨hs, fun r hr => ?_⟩
          rcases call with ⟨t, method⟩ | ⟨p, method⟩ | ⟨p, method⟩
          · -- an answered span is acquired, which needs nothing
            rcases answer with _ | (_ | q) | _ | _ | _ | _ <;> cases hevent
            cases hr
          · have hp : p = r := by
              cases method <;> cases hevent <;> exact hr
            subst hp
            exact hallowed.1
          · cases hallowed
  | initGlobalTracer t =>
      obtain ⟨world, -, rfl⟩ := Option.map_eq_some_iff.mp hstep
      exact hs
  | makeTracingImpl =>
      obtain rfl := Option.some.inj hstep
      exact hs
  | textMapNew =>
      obtain rfl := Option.some.inj hstep
      exact hs
  | report code =>
      obtain rfl := Option.some.inj hstep
      exact hs

end Tracing

/-! ### `tracer.c` -/

section

variable {ρ : Type}

/-- `tracer.c` as an implementation, in a process with the allocators `make` and `textMapNew`. -/
def tracerC (make : ρ → Option TracerPtr × ρ) (textMapNew : ρ → Bool × ρ) (writer : Carrier) :
    Tracing (TracerState × ρ) where
  globalTracer s := opentracingGlobalTracer s.1
  initGlobalTracer t s :=
    (opentracingInitGlobalTracer TracerState.destroy (some t) s.1).map fun u => (u, s.2)
  call call s := (call.run.run s.1.world.memory).map fun r =>
    (r.1, { s.1 with world := s.1.world.next call r.1 r.2 }, s.2)
  makeTracingImpl s := ((make s.2).1, s.1, (make s.2).2)
  textMapNew s := ((textMapNew s.2).1, s.1, (textMapNew s.2).2)
  writer := writer

/-- Every tracer that `make` returns has the no-op table. -/
def MakesNoop (memory : Memory) (make : ρ → Option TracerPtr × ρ) : Prop :=
  ∀ r t, (make r).1 = some t → memory.tracers t = some noopTracerInit

/-- **The invariant of `tracer.c` behind the interface**: besides that of its runs, the
global tracer has the no-op table and was not destroyed, no code outside `tracer.c` was called,
every answer was that of the null object, and an open reference is to a span that was
obtained. -/
structure TracerCInv (memory : Memory) (t : NoopState) (s : ApiState (TracerState × ρ)) :
    Prop where
  inv : TracerInv memory t s.world.1
  table : ∃ cur, s.world.1.globalTracer = some cur ∧ memory.tracers cur = some noopTracerInit ∧
    cur ∉ s.destroyed
  made : ∀ p ∈ s.made, memory.tracers p = some noopTracerInit
  invoked : s.world.1.world.memory.invoked = []
  answered : ∀ e ∈ s.log, ∃ last, e.2 = e.1.answer last
  held : ∀ p, Held (spanRefs s.log) p → p ∈ t.spans

variable {memory : Memory} {t : NoopState} {s s' : ApiState (TracerState × ρ)}
  {make : ρ → Option TracerPtr × ρ} {textMapNew : ρ → Bool × ρ} {writer : Carrier}

/-- The invariant holds at the start. -/
theorem tracerCInv_start (hm : memory.AtProcessStart) (r : ρ) :
    TracerCInv memory (.start memory) (.start (.start memory, r)) where
  inv := tracerInv_start hm
  table := ⟨.noopTracerSingleton, rfl, hm.tracer, List.not_mem_nil⟩
  made p hp := by cases hp
  invoked := hm.invoked
  answered e he := by cases he
  held p hp := by cases hp

/-- The contract of the headers implies the contract of the null object. -/
theorem TracerCInv.allowed (hinv : TracerCInv memory t s) {call : NoopCall}
    (hready : (tracerC make textMapNew writer).Ready s call) : noopMachine.Allowed t call := by
  cases call with
  | tracer p method =>
      obtain ⟨cur, hcur, htable, -⟩ := hinv.table
      have hglobal : s.world.1.globalTracer = some p := hready.1.1
      obtain rfl : cur = p := Option.some.inj (hcur.symm.trans hglobal)
      exact ⟨hready.2.nonnull, by rw [hinv.inv.noop.tracers_eq, htable]⟩
  | span p method => exact ⟨hready.2.nonnull, hinv.held p hready.1⟩
  | spanContext p method => cases hready

/-- A tracer with the no-op table can be destroyed. -/
theorem destroyable_of_table {p : TracerPtr} (hp : memory.tracers p = some noopTracerInit) :
    memory.Destroyable p :=
  ⟨noopTracerInit, hp, Or.inl rfl⟩

/-- The answers of the null object are those the headers allow. -/
theorem NoopInv.answers (hinv : NoopInv memory t) {call : NoopCall}
    (hallowed : noopMachine.Allowed t call) : call.Answers (call.answer t.lastStart) := by
  rcases call with ⟨p, method⟩ | ⟨p, method⟩ | ⟨p, method⟩
  · cases method <;> first | rfl | exact ⟨_, rfl⟩
  · obtain ⟨-, hlast⟩ := hinv.mem_spans p hallowed.2
    obtain ⟨u, hu⟩ := Option.ne_none_iff_exists'.mp hlast
    cases method with
    | spanContext => exact ⟨_, rfl⟩
    | baggageItem key => exact ⟨_, rfl⟩
    | tracer => exact ⟨u, congrArg Answer.tracer hu⟩
    | _ => rfl
  · rfl

/-- **A method call through the interface** is one of the null object. -/
theorem TracerCInv.call_eq (hm : memory.AtProcessStart) (hinv : TracerCInv memory t s)
    {call : NoopCall} (hready : (tracerC make textMapNew writer).Ready s call) :
    (tracerC make textMapNew writer).call call s.world =
      some (call.answer t.lastStart,
        { s.world.1 with
          world := (t.after call).withInvoked s.world.1.world.memory.invoked }, s.world.2) := by
  have hrun := hinv.inv.noop.run_withInvoked hm (hinv.allowed hready)
    s.world.1.world.memory.invoked
  have hmemory : s.world.1.world.memory =
      t.memory.withInvoked s.world.1.world.memory.invoked := by
    conv_lhs => rw [hinv.inv.world_eq]
    rfl
  have hnext : ∀ answer memory', s.world.1.world.next call answer memory' =
      (t.withInvoked s.world.1.world.memory.invoked).next call answer memory' := by
    intro answer memory'
    conv_lhs => rw [hinv.inv.world_eq]
  rw [← hmemory] at hrun
  simp only [tracerC, hrun, Option.map_some, hnext]
  rfl

/-- An open reference after one more event was open before, or was added by it. -/
theorem held_append_toList {ξ : Type} [DecidableEq ξ] {es : List (Event ξ)}
    {e : Option (Event ξ)} {r : ξ} (h : Held (es ++ e.toList) r) :
    Held es r ∨ e = some (.acquire r) := by
  rcases e with _ | (q | q | q)
  · left
    simpa using h
  · by_cases hq : q = r
    · right
      rw [hq]
    · left
      simpa [Held, hq] using h
  · left
    simp only [Held, Option.toList_some, released_append, released_cons_release, released_nil,
      acquired_append, acquired_cons_release, acquired_nil] at h ⊢
    omega
  · left
    simpa [Held] using h

/-- The event of a method call adds a reference only to a span that it answers. -/
theorem mem_spans_of_refEvent {call : NoopCall} {answer : Answer} {p : SpanPtr}
    (h : refEvent (call, answer) = some (.acquire p)) : p ∈ answer.spans := by
  rcases call with ⟨q, method⟩ | ⟨q, method⟩ | ⟨q, method⟩
  · rcases answer with _ | (_ | q) | _ | _ | _ | _ <;> cases h
    exact List.mem_singleton_self p
  · cases method <;> cases h
  · cases h

/-- A method call preserves the invariant. -/
theorem TracerCInv.method (hm : memory.AtProcessStart) (hinv : TracerCInv memory t s)
    {call : NoopCall}
    (hallowed : (tracerC make textMapNew writer).apiMachine.Allowed s (.method call))
    (hstep : (tracerC make textMapNew writer).apiMachine.step s (.method call) = some s') :
    TracerCInv memory (t.after call) s' := by
  have hready : (tracerC make textMapNew writer).Ready s call := hallowed
  have hallowed' := hinv.allowed hready
  obtain ⟨⟨answer, world⟩, hcall, rfl⟩ := Option.map_eq_some_iff.mp hstep
  rw [hinv.call_eq hm hready] at hcall
  obtain ⟨rfl, rfl⟩ := Prod.mk.inj (Option.some.inj hcall)
  refine ⟨⟨hinv.inv.noop.after call, rfl, hinv.inv.installed⟩, hinv.table, hinv.made,
    hinv.invoked, fun e he => ?_, fun p hp => ?_⟩
  · rcases List.mem_append.mp he with hold | hnew
    · exact hinv.answered e hold
    · obtain rfl := List.mem_singleton.mp hnew
      exact ⟨t.lastStart, rfl⟩
  · rw [spanRefs_logged] at hp
    rcases held_append_toList hp with hold | hnew
    · exact List.mem_append_left _ (hinv.held p hold)
    · exact List.mem_append_right _ (mem_spans_of_refEvent hnew)

/-- An installation preserves the invariant: the tracer it replaces has the no-op table, and
destroying it calls nothing. -/
theorem TracerCInv.initGlobalTracer (hinv : TracerCInv memory t s) {p : TracerPtr}
    (hallowed : (tracerC make textMapNew writer).apiMachine.Allowed s (.initGlobalTracer p))
    (hstep : (tracerC make textMapNew writer).apiMachine.step s (.initGlobalTracer p) = some s') :
    TracerCInv memory t s' := by
  have hp : memory.tracers p = some noopTracerInit := hinv.made p hallowed.1
  have hlive : p ∉ ((s.afterInit s.world.1.globalTracer p s.world).destroyed) :=
    ApiState.not_mem_afterInit hallowed.2
  obtain ⟨⟨u, r⟩, hinstall, rfl⟩ := Option.map_eq_some_iff.mp hstep
  obtain ⟨u', hinit, hu⟩ := Option.map_eq_some_iff.mp hinstall
  obtain ⟨rfl, rfl⟩ := Prod.mk.inj hu
  obtain ⟨cur, hcur, htable, -⟩ := hinv.table
  have hinv' := hinv.inv.initGlobalTracer (destroyable_of_table hp) hinit
  rw [hinv.inv.init_eq hcur] at hinit
  obtain rfl := Option.some.inj hinit
  by_cases hpcur : p = cur
  · subst hpcur
    rw [if_pos rfl] at hinv' ⊢
    exact ⟨hinv', ⟨p, hcur, htable, hlive⟩, hinv.made, hinv.invoked, hinv.answered, hinv.held⟩
  · rw [if_neg hpcur] at hinv' ⊢
    refine ⟨hinv', ⟨p, rfl, hp, hlive⟩, hinv.made, ?_, hinv.answered, hinv.held⟩
    have haddress : memory.destroyAddress cur = none := by
      rw [Memory.destroyAddress, htable]
      rfl
    calc s.world.1.world.memory.invoked ++ (memory.destroyAddress cur).toList
        = s.world.1.world.memory.invoked := by
          rw [haddress, Option.toList_none, List.append_nil]
      _ = [] := hinv.invoked

/-- **Calls preserve the invariant.** -/
theorem TracerCInv.step (hm : memory.AtProcessStart) (hmake : MakesNoop memory make)
    (hinv : TracerCInv memory t s) {a : ApiCall}
    (hallowed : (tracerC make textMapNew writer).apiMachine.Allowed s a)
    (hstep : (tracerC make textMapNew writer).apiMachine.step s a = some s') :
    ∃ t', TracerCInv memory t' s' := by
  cases a with
  | method call => exact ⟨t.after call, hinv.method hm hallowed hstep⟩
  | initGlobalTracer p => exact ⟨t, hinv.initGlobalTracer hallowed hstep⟩
  | makeTracingImpl =>
      obtain rfl := Option.some.inj hstep
      obtain ⟨cur, hcur, htable, hlive⟩ := hinv.table
      refine ⟨t, hinv.inv, ⟨cur, hcur, htable, ?_⟩, ?_, hinv.invoked, hinv.answered, hinv.held⟩
      · intro hmem
        exact hlive (List.mem_of_mem_filter hmem)
      · intro p hp
        rcases List.mem_append.mp hp with hold | hnew
        · exact hinv.made p hold
        · exact hmake s.world.2 p (Option.mem_toList.mp hnew)
  | textMapNew =>
      obtain rfl := Option.some.inj hstep
      exact ⟨t, hinv.inv, hinv.table, hinv.made, hinv.invoked, hinv.answered, hinv.held⟩
  | report code =>
      obtain rfl := Option.some.inj hstep
      exact ⟨t, hinv.inv, hinv.table, hinv.made, hinv.invoked, hinv.answered, hinv.held⟩

/-- **`tracer.c` meets its headers**, as long as every tracer that is installed has the no-op
table. -/
theorem tracerC_meetsHeaders (textMapNew : ρ → Bool × ρ) (writer : Carrier)
    (hm : memory.AtProcessStart) (hmake : MakesNoop memory make) :
    (tracerC make textMapNew writer).MeetsHeaders fun s => ∃ t, TracerCInv memory t s where
  globalTracer := by
    rintro s ⟨t, hinv⟩
    obtain ⟨cur, hcur, -, hlive⟩ := hinv.table
    exact ⟨cur, hcur, hlive⟩
  answers := by
    rintro s call ⟨t, hinv⟩ hready
    exact ⟨_, _, hinv.call_eq hm hready, hinv.inv.noop.answers (hinv.allowed hready), rfl⟩
  init := by
    rintro s p ⟨t, hinv⟩ hp
    obtain ⟨cur, hcur, -⟩ := hinv.table
    have hinit := hinv.inv.init_eq (p := p) hcur
    exact ⟨_, Option.map_eq_some_iff.mpr ⟨_, hinit, rfl⟩⟩
  keeps := by
    rintro s a s' ⟨t, hinv⟩ hallowed hstep
    exact hinv.step hm hmake hallowed hstep

/-- What a call is to `tracer.c`. -/
def ApiCall.toTracerCall : ApiCall → Option TracerCall
  | .method call => some (.method call)
  | .initGlobalTracer t => some (.initGlobalTracer t)
  | _ => none

/-- A run logs its method calls, one after another. -/
theorem log_of_run {σ : Type} {T : Tracing σ} {s s' : ApiState σ} {calls : List ApiCall}
    (hrun : T.apiMachine.Run s calls s') :
    s'.log.map Prod.fst = s.log.map Prod.fst ++
      (calls.filterMap ApiCall.toTracerCall).filterMap TracerCall.methodCall := by
  induction hrun with
  | nil s => simp
  | @cons s s₁ s' a calls _ hstep _ ih =>
      rw [ih]
      cases a with
      | method call =>
          obtain ⟨r, -, rfl⟩ := Option.map_eq_some_iff.mp hstep
          simp [ApiState.logged, ApiCall.toTracerCall, TracerCall.methodCall]
      | initGlobalTracer t =>
          obtain ⟨world, -, rfl⟩ := Option.map_eq_some_iff.mp hstep
          simp [ApiState.afterInit, ApiCall.toTracerCall, TracerCall.methodCall,
            List.filterMap_cons]
      | _ =>
          obtain rfl := Option.some.inj hstep
          simp [ApiState.afterMake, ApiCall.toTracerCall, List.filterMap_cons]

/-- **Calls through the interface are calls of `tracer.c`**, and keep the contract of its
runs. -/
theorem apiMachine_simulation_tracer (hm : memory.AtProcessStart)
    (hmake : MakesNoop memory make) :
    Machine.Simulation (tracerC make textMapNew writer).apiMachine tracerMachine
      ApiCall.toTracerCall (fun s u => s.world.1 = u ∧ ∃ t, TracerCInv memory t s) where
  matched s s' u a b hrel hallowed hstep hlabel := by
    obtain ⟨rfl, t, hinv⟩ := hrel
    have hinv' := hinv.step hm hmake hallowed hstep
    cases a with
    | method call =>
        obtain rfl := Option.some.inj hlabel
        have hready : (tracerC make textMapNew writer).Ready s call := hallowed
        refine ⟨(hinv.inv.allowed_iff call).mpr (hinv.allowed hready), s'.world.1, ?_, rfl, hinv'⟩
        obtain ⟨⟨answer, world⟩, hcall, rfl⟩ := Option.map_eq_some_iff.mp hstep
        obtain ⟨r, hr, hworld⟩ := Option.map_eq_some_iff.mp hcall
        obtain ⟨rfl, rfl⟩ := Prod.mk.inj hworld
        simp only [tracerMachine, noopMachine, hr, Option.map_some]
        rfl
    | initGlobalTracer p =>
        obtain rfl := Option.some.inj hlabel
        refine ⟨(hinv.inv.destroyable_iff p).mpr (destroyable_of_table (hinv.made p hallowed.1)),
          s'.world.1, ?_, rfl, hinv'⟩
        obtain ⟨⟨u, r⟩, hinstall, rfl⟩ := Option.map_eq_some_iff.mp hstep
        obtain ⟨u', hinit, hu⟩ := Option.map_eq_some_iff.mp hinstall
        obtain ⟨rfl, rfl⟩ := Prod.mk.inj hu
        exact hinit
    | _ => cases hlabel
  silent s s' u a hrel hallowed hstep hlabel := by
    obtain ⟨rfl, t, hinv⟩ := hrel
    refine ⟨?_, hinv.step hm hmake hallowed hstep⟩
    cases a with
    | method call => cases hlabel
    | initGlobalTracer p => cases hlabel
    | _ =>
        obtain rfl := Option.some.inj hstep
        rfl

end

end OpentracingC
