import OpentracingC.Lib.Machine
import OpentracingC.NoopTracer

/-!
# Runs of the No-op Tracer

The built-in tracer is a null object: every method has one fixed answer, and does nothing
but the two assignments of `tracer.c`, that of a start call to the `tracer_ptr` of the span
and that of an extract to its out parameter. `NoopCall.answer` and `NoopCall.effect` state
this without the tables, and `NoopCall.run_eq` proves it of the calls through them.

`noopMachine` makes such calls in any order, on any tracers that have the no-op table and on
the spans and span contexts obtained before, with arguments that meet the `NONNULL`
attributes. `NoopInv` holds throughout a run, and `noop_null_object` reads the null object
law off it.

There is only one span object, so the tracer of a span is that of the latest start call,
whichever call returned the span: `span.h` promises the tracer that created it, which is the
same exactly when all start calls are made on one tracer (`spans_know_tracer_iff`).
-/

open CMemory

namespace OpentracingC

/-! ### The null object -/

/-- The fixed answer of a tracer method. -/
def TracerMethod.answer : TracerMethod → Answer
  | .destroy => .void
  | .close => .void
  | .startSpan _ => .span (some .noopSpanSingleton)
  | .startSpanWithOptions _ _ => .span (some .noopSpanSingleton)
  | .inject _ _ _ => .code .success
  | .injectBinary _ _ _ => .code .success
  | .extract _ _ _ => .code .success
  | .extractBinary _ _ _ => .code .success

/-- The fixed answer of a span method; `lastStart` is the tracer of the latest start
call. -/
def SpanMethod.answer (lastStart : Option TracerPtr) : SpanMethod → Answer
  | .spanContext => .spanContext (some .noopSpanContextSingleton)
  | .baggageItem _ => .string (some emptyStr)
  | .tracer => .tracer lastStart
  | _ => .void

/-- The tracer a start call is made on. -/
def TracerMethod.starter (t : TracerPtr) : TracerMethod → Option TracerPtr
  | .startSpan _ => some t
  | .startSpanWithOptions _ _ => some t
  | _ => none

/-- The out parameter of a method. -/
def TracerMethod.outParam : TracerMethod → Option OutParam
  | .extract _ _ outParam => outParam
  | .extractBinary _ _ outParam => outParam
  | _ => none

/-- A start call retargets the span. -/
def Memory.retarget (memory : Memory) : Option TracerPtr → Memory
  | none => memory
  | some t =>
      { memory with
        spans := Function.update memory.spans .noopSpanSingleton
          ((memory.spans .noopSpanSingleton).map fun object =>
            { object with tracerPtr := some t }) }

/-- An extract stores the span context in its out parameter. -/
def Memory.store (memory : Memory) : Option OutParam → Memory
  | none => memory
  | some outParam =>
      { memory with
        outParams :=
          Function.update memory.outParams outParam (some .noopSpanContextSingleton) }

section

variable (memory : Memory) (starter : Option TracerPtr) (outParam : Option OutParam)

@[simp] theorem retarget_tracers : (memory.retarget starter).tracers = memory.tracers := by
  cases starter <;> rfl

@[simp] theorem retarget_spanContexts :
    (memory.retarget starter).spanContexts = memory.spanContexts := by
  cases starter <;> rfl

@[simp] theorem retarget_outParams : (memory.retarget starter).outParams = memory.outParams := by
  cases starter <;> rfl

@[simp] theorem retarget_invoked : (memory.retarget starter).invoked = memory.invoked := by
  cases starter <;> rfl

@[simp] theorem store_tracers : (memory.store outParam).tracers = memory.tracers := by
  cases outParam <;> rfl

@[simp] theorem store_spans : (memory.store outParam).spans = memory.spans := by
  cases outParam <;> rfl

@[simp] theorem store_spanContexts :
    (memory.store outParam).spanContexts = memory.spanContexts := by
  cases outParam <;> rfl

@[simp] theorem store_invoked : (memory.store outParam).invoked = memory.invoked := by
  cases outParam <;> rfl

/-- The span after a start call. -/
theorem retarget_spans_self {object : NoopSpan}
    (hspan : memory.spans .noopSpanSingleton = some object) :
    (memory.retarget starter).spans .noopSpanSingleton =
      some { object with tracerPtr := starter <|> object.tracerPtr } := by
  cases starter with
  | none => exact hspan
  | some t => simp [Memory.retarget, hspan]

/-- A start call writes no other span. -/
theorem retarget_spans_of_ne {p : SpanPtr} (hp : p ≠ .noopSpanSingleton) :
    (memory.retarget starter).spans p = memory.spans p := by
  cases starter with
  | none => rfl
  | some t => exact Function.update_of_ne hp _ _

/-- An extract writes no other span context pointer. -/
theorem store_outParams_of_ne {c : OutParam} (hc : outParam ≠ some c) :
    (memory.store outParam).outParams c = memory.outParams c := by
  cases outParam with
  | none => rfl
  | some outParam =>
      have hne : c ≠ outParam := fun heq => hc (congrArg some heq.symm)
      exact Function.update_of_ne hne _ _

/-- What an extract stores. -/
theorem store_outParams_self (c : OutParam) :
    (memory.store (some c)).outParams c = some .noopSpanContextSingleton :=
  Function.update_self _ _ _

end

/-- The effect of a method of the tracer `t`. -/
def TracerMethod.effect (t : TracerPtr) (method : TracerMethod) (memory : Memory) : Memory :=
  (memory.retarget (method.starter t)).store method.outParam

/-! ### The `NONNULL` attributes -/

/-- The arguments of a tracer method meet the attributes of `tracer.h`. -/
def TracerMethod.Nonnull : TracerMethod → Prop
  | .destroy => True
  | .close => True
  | .startSpan operationName => operationName ≠ none
  | .startSpanWithOptions operationName _ => operationName ≠ none
  | .inject _ carrier spanContext => carrier ≠ none ∧ spanContext ≠ none
  | .injectBinary callback _ spanContext => callback ≠ none ∧ spanContext ≠ none
  | .extract _ carrier spanContext => carrier ≠ none ∧ spanContext ≠ none
  | .extractBinary callback _ spanContext => callback ≠ none ∧ spanContext ≠ none

/-- The arguments of a span method meet the attributes of `span.h`. -/
def SpanMethod.Nonnull : SpanMethod → Prop
  | .destroy => True
  | .finish => True
  | .finishWithOptions _ => True
  | .spanContext => True
  | .setOperationName operationName => operationName ≠ none
  | .setTag key value => key ≠ none ∧ value ≠ none
  | .logFields _ _ => True
  | .setBaggageItem key value => key ≠ none ∧ value ≠ none
  | .baggageItem key => key ≠ none
  | .tracer => True

/-! ### One call -/

section

variable {memory : Memory} {t : TracerPtr} {object : NoopSpan} {cur : Option TracerPtr}

/-- A start call returns the span and retargets it, whether it points to the tracer already
or not. -/
theorem noopTracerStartSpanWithOptions_eq
    (hspan : memory.spans .noopSpanSingleton = some object) (operationName : Option CString)
    (options : Option OpentracingStartSpanOptions) :
    (noopTracerStartSpanWithOptions t operationName options).run memory =
      some (some .noopSpanSingleton, memory.retarget (some t)) := by
  by_cases hcur : object.tracerPtr = some t
  · have hsame : memory.retarget (some t) = memory := by
      have hobject : { object with tracerPtr := some t } = object := by rw [← hcur]
      rw [Memory.retarget, hspan, Option.map_some, hobject, ← hspan, Function.update_eq_self]
    simp [noopTracerStartSpanWithOptions, hspan, hcur, hsame]
  · simp [noopTracerStartSpanWithOptions, hspan, hcur, Memory.retarget]

/-- `start_span` is `start_span_with_options` without options. -/
theorem noopTracerStartSpan_eq (ht : memory.tracers t = some noopTracerInit)
    (operationName : Option CString) :
    (noopTracerStartSpan t operationName).run memory =
      (noopTracerStartSpanWithOptions t operationName none).run memory := by
  simp [noopTracerStartSpan, ht, noopTracerInit, callStartSpanWithOptions]

/-- An extract stores the span context. -/
theorem extractBody_eq (outParam : OutParam) :
    (extractBody (some outParam)).run memory = some (.success, memory.store (some outParam)) := by
  simp [extractBody, Memory.store]

/-- `finish` is `finish_with_options`, and does nothing. -/
theorem noopSpanFinish_eq
    (hspan : memory.spans .noopSpanSingleton = some { noopSpanInit with tracerPtr := cur }) :
    (noopSpanFinish .noopSpanSingleton).run memory = some ((), memory) := by
  simp [noopSpanFinish, hspan, noopSpanInit, callFinishWithOptions, noopSpanFinishWithOptions]

/-- What a program returns may be wrapped. -/
theorem run_map_of_run_eq {α : Type} {program : NoopM α} {a : α} {memory' : Memory}
    (h : program.run memory = some (a, memory')) (f : α → Answer) :
    (f <$> program).run memory = some (f a, memory') := by
  rw [StateT.run_map, h]
  rfl

/-- **A method of a tracer with the no-op table** answers and acts as the null object. -/
theorem callTracer_eq (ht : memory.tracers t = some noopTracerInit)
    (hspan : memory.spans .noopSpanSingleton = some object) {method : TracerMethod}
    (hmethod : method.Nonnull) :
    (callTracer t method).run memory = some (method.answer, method.effect t memory) := by
  have hcall : (callTracer t method).run memory =
      (callTracerFn (noopTracerInit.slot method) t method).run memory := by
    simp [callTracer, ht]
  rw [hcall]
  cases method with
  | destroy => rfl
  | close => rfl
  | startSpan operationName =>
      have hstart := (noopTracerStartSpan_eq ht operationName).trans
        (noopTracerStartSpanWithOptions_eq hspan operationName none)
      exact run_map_of_run_eq hstart Answer.span
  | startSpanWithOptions operationName options =>
      have hstart := noopTracerStartSpanWithOptions_eq (t := t) hspan operationName options
      exact run_map_of_run_eq hstart Answer.span
  | inject format carrier spanContext => cases format <;> rfl
  | injectBinary callback arg spanContext => rfl
  | extract format carrier outParam =>
      obtain ⟨outParam, rfl⟩ := Option.ne_none_iff_exists'.mp hmethod.2
      cases format <;> exact run_map_of_run_eq (extractBody_eq outParam) Answer.code
  | extractBinary callback arg outParam =>
      obtain ⟨outParam, rfl⟩ := Option.ne_none_iff_exists'.mp hmethod.2
      exact run_map_of_run_eq (extractBody_eq outParam) Answer.code

/-- **A method of the no-op span** answers as the null object, and does nothing. -/
theorem callSpan_eq
    (hspan : memory.spans .noopSpanSingleton = some { noopSpanInit with tracerPtr := cur })
    (method : SpanMethod) :
    (callSpan .noopSpanSingleton method).run memory = some (method.answer cur, memory) := by
  have hcall : (callSpan .noopSpanSingleton method).run memory =
      (callSpanFn (noopSpanInit.base.slot method) .noopSpanSingleton method).run memory := by
    simp [callSpan, hspan]
  rw [hcall]
  cases method with
  | finish =>
      have hfinish := noopSpanFinish_eq hspan
      exact run_map_of_run_eq hfinish fun _ => .void
  | tracer =>
      have htracer : (noopSpanTracer (some .noopSpanSingleton)).run memory =
          some (cur, memory) := by
        simp [noopSpanTracer, hspan]
      exact run_map_of_run_eq htracer Answer.tracer
  | _ => rfl

/-- **A method of the no-op span context** does nothing. -/
theorem callSpanContext_eq
    (hcontext : memory.spanContexts .noopSpanContextSingleton = some noopSpanContextInit)
    (method : SpanContextMethod) :
    (callSpanContext .noopSpanContextSingleton method).run memory = some (.void, memory) := by
  have hcall : (callSpanContext .noopSpanContextSingleton method).run memory =
      (callSpanContextFn (noopSpanContextInit.slot method) .noopSpanContextSingleton
        method).run memory := by
    simp [callSpanContext, hcontext]
  rw [hcall]
  cases method <;> rfl

end

/-! ### Runs -/

/-- A method call on a tracer, a span or a span context. -/
inductive NoopCall
  | tracer (t : TracerPtr) (method : TracerMethod)
  | span (p : SpanPtr) (method : SpanMethod)
  | spanContext (p : SpanContextPtr) (method : SpanContextMethod)

/-- The call, through the table of its object. -/
def NoopCall.run : NoopCall → NoopM Answer
  | .tracer t method => callTracer t method
  | .span p method => callSpan p method
  | .spanContext p method => callSpanContext p method

/-- The answer of the null object. -/
def NoopCall.answer (lastStart : Option TracerPtr) : NoopCall → Answer
  | .tracer _ method => method.answer
  | .span _ method => method.answer lastStart
  | .spanContext _ _ => .void

/-- The tracer a start call is made on. -/
def NoopCall.starter : NoopCall → Option TracerPtr
  | .tracer t method => method.starter t
  | .span _ _ => none
  | .spanContext _ _ => none

/-- The out parameter of a call. -/
def NoopCall.outParam : NoopCall → Option OutParam
  | .tracer _ method => method.outParam
  | .span _ _ => none
  | .spanContext _ _ => none

/-- The effect of the null object. -/
def NoopCall.effect (call : NoopCall) (memory : Memory) : Memory :=
  (memory.retarget call.starter).store call.outParam

/-- The spans an answer gives its caller. -/
def Answer.spans : Answer → List SpanPtr
  | .span p => p.toList
  | _ => []

/-- The span contexts an answer gives its caller. -/
def Answer.spanContexts : Answer → List SpanContextPtr
  | .spanContext p => p.toList
  | _ => []

/-- The memory of a run, and what its caller has obtained. -/
structure NoopState where
  memory : Memory
  spans : List SpanPtr
  spanContexts : List SpanContextPtr
  /-- The tracers start calls were made on, with the spans these returned. -/
  starts : List (TracerPtr × SpanPtr)

/-- A run at its start. -/
def NoopState.start (memory : Memory) : NoopState where
  memory := memory
  spans := []
  spanContexts := []
  starts := []

/-- The tracer of the latest start call. -/
def NoopState.lastStart (s : NoopState) : Option TracerPtr :=
  s.starts.getLast?.map Prod.fst

/-- The state after a call, with its answer and the memory it leaves. -/
def NoopState.next (s : NoopState) (call : NoopCall) (answer : Answer) (memory : Memory) :
    NoopState where
  memory := memory
  spans := s.spans ++ answer.spans
  spanContexts :=
    s.spanContexts ++ (answer.spanContexts ++ (call.outParam.bind memory.outParams).toList)
  starts := s.starts ++ call.starter.toList.flatMap fun t => answer.spans.map fun p => (t, p)

/-- Method calls under their contract: arguments meet the `NONNULL` attributes, tracers have
the no-op table, and spans and span contexts were obtained before. -/
def noopMachine : Machine NoopState NoopCall where
  step s call := (call.run.run s.memory).map fun r => s.next call r.1 r.2
  Allowed s
    | .tracer t method => method.Nonnull ∧ s.memory.tracers t = some noopTracerInit
    | .span p method => method.Nonnull ∧ p ∈ s.spans
    | .spanContext p _ => p ∈ s.spanContexts

/-- The static objects of `tracer.c` as the program starts. -/
structure Memory.AtProcessStart (memory : Memory) : Prop where
  tracer : memory.tracers .noopTracerSingleton = some noopTracerInit
  span : memory.spans .noopSpanSingleton = some noopSpanInit
  spanContext : memory.spanContexts .noopSpanContextSingleton = some noopSpanContextInit
  invoked : memory.invoked = []

/-- **The invariant of a run**: the memory is that of the start but for the `tracer_ptr` of
the span, which points to the tracer of the latest start call, and for out parameters; and
nothing was obtained but the no-op span and span context. -/
structure NoopInv (memory : Memory) (s : NoopState) : Prop where
  tracers_eq : s.memory.tracers = memory.tracers
  span_eq : s.memory.spans .noopSpanSingleton =
    some { noopSpanInit with tracerPtr := s.lastStart }
  spans_eq : ∀ p, p ≠ .noopSpanSingleton → s.memory.spans p = memory.spans p
  spanContexts_eq : s.memory.spanContexts = memory.spanContexts
  invoked_eq : s.memory.invoked = []
  mem_spans : ∀ p ∈ s.spans, p = .noopSpanSingleton ∧ s.lastStart ≠ none
  mem_spanContexts : ∀ p ∈ s.spanContexts, p = .noopSpanContextSingleton
  mem_starts : ∀ x ∈ s.starts, x.2 = .noopSpanSingleton

variable {memory : Memory} {s : NoopState} {call : NoopCall}

/-- The invariant holds at the start. -/
theorem noopInv_start (hm : memory.AtProcessStart) : NoopInv memory (.start memory) where
  tracers_eq := rfl
  span_eq := hm.span
  spans_eq _ _ := rfl
  spanContexts_eq := rfl
  invoked_eq := hm.invoked
  mem_spans _ h := by cases h
  mem_spanContexts _ h := by cases h
  mem_starts _ h := by cases h

/-- **Every allowed call answers and acts as the null object.** -/
theorem NoopCall.run_eq (hm : memory.AtProcessStart) (hinv : NoopInv memory s)
    (hallowed : noopMachine.Allowed s call) :
    call.run.run s.memory = some (call.answer s.lastStart, call.effect s.memory) := by
  cases call with
  | tracer t method => exact callTracer_eq hallowed.2 hinv.span_eq hallowed.1
  | span p method =>
      obtain ⟨rfl, -⟩ := hinv.mem_spans p hallowed.2
      exact callSpan_eq hinv.span_eq method
  | spanContext p method =>
      obtain rfl := hinv.mem_spanContexts p hallowed
      have hcontext : s.memory.spanContexts .noopSpanContextSingleton =
          some noopSpanContextInit := by
        rw [hinv.spanContexts_eq]
        exact hm.spanContext
      exact callSpanContext_eq hcontext method

/-- The state after an allowed call. -/
def NoopState.after (s : NoopState) (call : NoopCall) : NoopState :=
  s.next call (call.answer s.lastStart) (call.effect s.memory)

/-- The null object gives its caller a span exactly at a start call. -/
theorem NoopCall.spans_answer (call : NoopCall) (lastStart : Option TracerPtr) :
    (call.answer lastStart).spans = call.starter.toList.map fun _ => .noopSpanSingleton := by
  rcases call with ⟨t, method⟩ | ⟨p, method⟩ | ⟨p, method⟩
  · cases method <;> rfl
  · cases method <;> rfl
  · rfl

/-- The null object gives its caller no span context but its own. -/
theorem NoopCall.eq_of_mem_spanContexts_answer {call : NoopCall} {lastStart : Option TracerPtr}
    {p : SpanContextPtr} (hp : p ∈ (call.answer lastStart).spanContexts) :
    p = .noopSpanContextSingleton := by
  rcases call with ⟨t, method⟩ | ⟨q, method⟩ | ⟨q, method⟩
  · cases method <;> cases hp
  · cases method with
    | spanContext => exact List.mem_singleton.mp hp
    | _ => cases hp
  · cases hp

/-- A start call is recorded with the no-op span. -/
theorem NoopState.starts_after (s : NoopState) (call : NoopCall) :
    (s.after call).starts =
      s.starts ++ call.starter.toList.map fun t => (t, .noopSpanSingleton) := by
  rw [NoopState.after, NoopState.next, NoopCall.spans_answer]
  cases call.starter <;> rfl

/-- The latest start call after one more call. -/
theorem NoopState.lastStart_after (s : NoopState) (call : NoopCall) :
    (s.after call).lastStart = (call.starter <|> s.lastStart) := by
  rw [NoopState.lastStart, NoopState.starts_after]
  cases hstart : call.starter with
  | none => simp [NoopState.lastStart]
  | some t => simp

/-- What the caller has obtained as a span is still the no-op span, and a start call was
made. -/
theorem NoopInv.mem_spans_after (hinv : NoopInv memory s) {p : SpanPtr}
    (hp : p ∈ (s.after call).spans) :
    p = .noopSpanSingleton ∧ (s.after call).lastStart ≠ none := by
  rw [NoopState.lastStart_after]
  rcases List.mem_append.mp hp with hold | hnew
  · obtain ⟨hp, hlast⟩ := hinv.mem_spans p hold
    refine ⟨hp, ?_⟩
    cases call.starter with
    | none => exact hlast
    | some t => exact Option.some_ne_none t
  · rw [NoopCall.spans_answer] at hnew
    cases hstart : call.starter with
    | none => simp [hstart] at hnew
    | some t =>
        rw [hstart] at hnew
        exact ⟨List.mem_singleton.mp hnew, Option.some_ne_none t⟩

/-- What the caller has obtained as a span context is still the no-op span context. -/
theorem NoopInv.mem_spanContexts_after (hinv : NoopInv memory s) {p : SpanContextPtr}
    (hp : p ∈ (s.after call).spanContexts) : p = .noopSpanContextSingleton := by
  rcases List.mem_append.mp hp with hold | hnew
  · exact hinv.mem_spanContexts p hold
  · rcases List.mem_append.mp hnew with hanswer | hstored
    · exact NoopCall.eq_of_mem_spanContexts_answer hanswer
    · rw [Option.mem_toList, Option.bind_eq_some_iff] at hstored
      obtain ⟨c, hc, hstored⟩ := hstored
      rw [NoopCall.effect, hc, store_outParams_self] at hstored
      exact (Option.some.inj hstored).symm

/-- The spans after a call are those after its start, if it is one. -/
theorem NoopState.memory_spans_after (s : NoopState) (call : NoopCall) :
    (s.after call).memory.spans = (s.memory.retarget call.starter).spans := by
  rw [NoopState.after, NoopState.next, NoopCall.effect, store_spans]

/-- **The null object preserves the invariant.** -/
theorem NoopInv.after (hinv : NoopInv memory s) (call : NoopCall) :
    NoopInv memory (s.after call) := by
  refine ⟨?_, ?_, fun p hp => ?_, ?_, ?_, fun p hp => hinv.mem_spans_after hp,
    fun p hp => hinv.mem_spanContexts_after hp, fun x hx => ?_⟩
  · exact (store_tracers _ _).trans ((retarget_tracers _ _).trans hinv.tracers_eq)
  · rw [NoopState.lastStart_after, NoopState.memory_spans_after]
    exact retarget_spans_self s.memory call.starter hinv.span_eq
  · rw [NoopState.memory_spans_after, retarget_spans_of_ne _ _ hp]
    exact hinv.spans_eq p hp
  · exact (store_spanContexts _ _).trans
      ((retarget_spanContexts _ _).trans hinv.spanContexts_eq)
  · exact (store_invoked _ _).trans ((retarget_invoked _ _).trans hinv.invoked_eq)
  · rw [NoopState.starts_after] at hx
    rcases List.mem_append.mp hx with hold | hnew
    · exact hinv.mem_starts x hold
    · obtain ⟨t, -, rfl⟩ := List.mem_map.mp hnew
      rfl

/-- No allowed call fails. -/
theorem noopMachine_step_eq (hm : memory.AtProcessStart) (hinv : NoopInv memory s)
    (hallowed : noopMachine.Allowed s call) : noopMachine.step s call = some (s.after call) := by
  calc noopMachine.step s call
      = (call.run.run s.memory).map fun r => s.next call r.1 r.2 := rfl
    _ = some (s.after call) := by
      rw [NoopCall.run_eq hm hinv hallowed]
      rfl

/-- **A run preserves the invariant**, records the start calls among its calls, and writes
no span context pointer but its out parameters. -/
theorem NoopInv.run (hm : memory.AtProcessStart) (hinv : NoopInv memory s)
    {calls : List NoopCall} {s' : NoopState} (hrun : noopMachine.Run s calls s') :
    NoopInv memory s' ∧
      s'.starts.map Prod.fst = s.starts.map Prod.fst ++ calls.filterMap NoopCall.starter ∧
      ∀ c, (∀ call ∈ calls, call.outParam ≠ some c) →
        s'.memory.outParams c = s.memory.outParams c := by
  induction hrun with
  | nil s => exact ⟨hinv, by simp, fun _ _ => rfl⟩
  | @cons s s₁ s' call calls hallowed hstep hrun ih =>
      rw [noopMachine_step_eq hm hinv hallowed] at hstep
      obtain rfl := Option.some.inj hstep
      obtain ⟨hinv', hstarts, hframe⟩ := ih (hinv.after call)
      refine ⟨hinv', ?_, fun c hc => ?_⟩
      · rw [hstarts, NoopState.starts_after]
        cases hstart : call.starter <;> simp [hstart]
      · have hrest := hframe c fun call hcall => hc call (List.mem_cons_of_mem _ hcall)
        have hcall : call.outParam ≠ some c := hc call List.mem_cons_self
        calc s'.memory.outParams c = (call.effect s.memory).outParams c := hrest
          _ = s.memory.outParams c := by
            rw [NoopCall.effect, store_outParams_of_ne _ _ hcall, retarget_outParams]

/-! ### The null object law -/

/-- A method that propagates a span context: the four inject and the four extract
methods. -/
def TracerMethod.Propagates : TracerMethod → Prop
  | .inject _ _ _ => True
  | .injectBinary _ _ _ => True
  | .extract _ _ _ => True
  | .extractBinary _ _ _ => True
  | _ => False

/-- **The answer of a null object** to a call in the state `s`, with the memory it
leaves. -/
structure NullObjectAnswer (s : NoopState) (call : NoopCall) (answer : Answer)
    (memory : Memory) : Prop where
  not_null : answer ≠ .span none ∧ answer ≠ .spanContext none ∧ answer ≠ .tracer none ∧
    answer ≠ .string none
  /-- A start call returns a span, whatever its references. -/
  started : ∀ t, call.starter = some t → ∃ p, answer = .span (some p)
  /-- Inject and extract succeed, whatever the span context. -/
  success : ∀ t method, call = .tracer t method → method.Propagates → answer = .code .success
  /-- An extract stores a span context, which its caller may use from then on. -/
  stored : ∀ c, call.outParam = some c →
    ∃ p, memory.outParams c = some p ∧ p ∈ (s.next call answer memory).spanContexts
  /-- The tracer of a span is that of the latest start call. -/
  tracer : ∀ p, call = .span p .tracer → ∃ t, s.lastStart = some t ∧ answer = .tracer (some t)
  baggageItem : ∀ p key, call = .span p (.baggageItem key) → answer = .string (some emptyStr)

/-- The part of the memory that calls may write: the `tracer_ptr` of the no-op span, and
their out parameters. -/
structure OnlyWrites (calls : List NoopCall) (memory memory' : Memory) : Prop where
  tracers : memory'.tracers = memory.tracers
  span : ∃ tracerPtr, memory'.spans .noopSpanSingleton = some { noopSpanInit with tracerPtr }
  spans : ∀ p, p ≠ .noopSpanSingleton → memory'.spans p = memory.spans p
  spanContexts : memory'.spanContexts = memory.spanContexts
  outParams : ∀ c, (∀ call ∈ calls, call.outParam ≠ some c) →
    memory'.outParams c = memory.outParams c

/-- An allowed call has the answer of a null object. -/
theorem NoopInv.nullObjectAnswer (hinv : NoopInv memory s)
    (hallowed : noopMachine.Allowed s call) :
    NullObjectAnswer s call (call.answer s.lastStart) (call.effect s.memory) := by
  have hstored : ∀ c, call.outParam = some c →
      (call.effect s.memory).outParams c = some .noopSpanContextSingleton := by
    intro c hc
    rw [NoopCall.effect, hc, store_outParams_self]
  refine ⟨?_, fun t ht => ?_, ?_, fun c hc => ⟨_, hstored c hc, ?_⟩, ?_, ?_⟩
  · rcases call with ⟨t, method⟩ | ⟨p, method⟩ | ⟨p, method⟩
    · cases method <;> simp [NoopCall.answer, TracerMethod.answer]
    · obtain ⟨-, hlast⟩ := hinv.mem_spans p hallowed.2
      cases method <;> simp [NoopCall.answer, SpanMethod.answer, hlast]
    · simp [NoopCall.answer]
  · rcases call with ⟨u, method⟩ | ⟨p, method⟩ | ⟨p, method⟩
    · cases method with
      | startSpan operationName => exact ⟨_, rfl⟩
      | startSpanWithOptions operationName options => exact ⟨_, rfl⟩
      | _ => cases ht
    · cases ht
    · cases ht
  · rintro t method rfl hmethod
    cases method <;> first | rfl | cases hmethod
  · refine List.mem_append_right _ (List.mem_append_right _ ?_)
    rw [Option.mem_toList, Option.bind_eq_some_iff]
    exact ⟨c, hc, hstored c hc⟩
  · rintro p rfl
    obtain ⟨-, hlast⟩ := hinv.mem_spans p hallowed.2
    obtain ⟨t, ht⟩ := Option.ne_none_iff_exists'.mp hlast
    exact ⟨t, ht, congrArg Answer.tracer ht⟩
  · rintro p key rfl
    rfl

/-- **The null object law**: callers that keep the contract always get a run; in it nothing
is written but the `tracer_ptr` of the span and out parameters of extracts, and no code
outside `tracer.c` is called; and whatever call comes next, no assertion fails and it has
the answer of a null object. -/
theorem noop_null_object (hm : memory.AtProcessStart) {calls : List NoopCall}
    (hobeys : noopMachine.Obeys (.start memory) calls) :
    ∃ s, noopMachine.Run (.start memory) calls s ∧
      OnlyWrites calls memory s.memory ∧
      s.memory.invoked = [] ∧
      s.lastStart = (calls.filterMap NoopCall.starter).getLast? ∧
      ∀ call, noopMachine.Allowed s call → ∃ answer memory',
        call.run.run s.memory = some (answer, memory') ∧
          NullObjectAnswer s call answer memory' := by
  obtain ⟨s, hrun, -⟩ := Machine.exists_run_of_obeys (NoopInv memory)
    (fun s call hinv ha => ⟨_, noopMachine_step_eq hm hinv ha, hinv.after call⟩)
    (noopInv_start hm) hobeys
  obtain ⟨hinv, hstarts, hframe⟩ := (noopInv_start hm).run hm hrun
  refine ⟨s, hrun, ?_, hinv.invoked_eq, ?_, fun call ha => ?_⟩
  · exact ⟨hinv.tracers_eq, ⟨_, hinv.span_eq⟩, hinv.spans_eq, hinv.spanContexts_eq, hframe⟩
  · have hstarts' : s.starts.map Prod.fst = calls.filterMap NoopCall.starter := hstarts
    rw [NoopState.lastStart, ← hstarts', List.getLast?_map]
  · exact ⟨_, _, NoopCall.run_eq hm hinv ha, hinv.nullObjectAnswer ha⟩

/-- A memory at the start of the program, in which every other tracer is a copy of the
built-in one. -/
def Memory.copies : Memory where
  tracers _ := some noopTracerInit
  spans p := if p = .noopSpanSingleton then some noopSpanInit else none
  spanContexts p := if p = .noopSpanContextSingleton then some noopSpanContextInit else none
  outParams _ := none
  invoked := []

theorem atProcessStart_copies : Memory.copies.AtProcessStart :=
  ⟨rfl, rfl, rfl, rfl⟩

/-- A span is started on a copy after `destroy`, and asked for its tracer. -/
def copyCalls : List NoopCall :=
  [.tracer (.object 1) .destroy, .tracer (.object 1) (.startSpan (some emptyStr)),
    .span .noopSpanSingleton .tracer]

/-- A destroyed copy of the built-in tracer is a null object. -/
theorem noop_null_object_copy :
    ∃ s, noopMachine.Run (.start Memory.copies) copyCalls s ∧
      s.memory.invoked = [] ∧ s.lastStart = some (.object 1) := by
  have hobeys : noopMachine.Obeys (.start Memory.copies) copyCalls := by
    refine ⟨⟨trivial, rfl⟩, fun s₁ h₁ => ?_⟩
    obtain rfl := Option.some.inj h₁
    refine ⟨⟨Option.some_ne_none _, rfl⟩, fun s₂ h₂ => ?_⟩
    obtain rfl := Option.some.inj h₂
    exact ⟨⟨trivial, List.mem_singleton_self _⟩, fun _ _ => trivial⟩
  obtain ⟨s, hrun, -, hinvoked, hlast, -⟩ := noop_null_object atProcessStart_copies hobeys
  exact ⟨s, hrun, hinvoked, hlast⟩

/-! ### The tracer of a span -/

/-- **The promise of `span.h`**: every span returned so far has as its tracer the one whose
start call returned it. -/
def NoopState.SpansKnowTracer (s : NoopState) : Prop :=
  ∀ t p, (t, p) ∈ s.starts →
    ∃ memory, (NoopCall.span p .tracer).run.run s.memory = some (.tracer (some t), memory)

/-- All spans answer with the tracer of the latest start call. -/
theorem NoopInv.spansKnowTracer_iff (hinv : NoopInv memory s) :
    s.SpansKnowTracer ↔ ∀ t ∈ s.starts.map Prod.fst, s.lastStart = some t := by
  have hanswer : (NoopCall.span .noopSpanSingleton .tracer).run.run s.memory =
      some (.tracer s.lastStart, s.memory) := callSpan_eq hinv.span_eq .tracer
  constructor
  · intro h t ht
    obtain ⟨⟨u, p⟩, hmem, rfl⟩ := List.mem_map.mp ht
    obtain rfl : p = .noopSpanSingleton := hinv.mem_starts _ hmem
    obtain ⟨memory', hrun⟩ := h u _ hmem
    rw [hanswer] at hrun
    simpa using congrArg (Option.map Prod.fst) hrun
  · intro h t p hmem
    obtain rfl : p = .noopSpanSingleton := hinv.mem_starts _ hmem
    have hlast : s.lastStart = some t := h t (List.mem_map.mpr ⟨_, hmem, rfl⟩)
    exact ⟨s.memory, by rw [hanswer, hlast]⟩

/-- **Spans know their tracer exactly when there is one**: at every point of a run every
span returned so far has the tracer whose start call returned it, if and only if all start
calls of the run are made on the same tracer. -/
theorem spans_know_tracer_iff (hm : memory.AtProcessStart) {calls : List NoopCall}
    {s : NoopState} (hrun : noopMachine.Run (.start memory) calls s) :
    (∀ pre s', pre <+: calls → noopMachine.Run (.start memory) pre s' → s'.SpansKnowTracer) ↔
      ∀ t ∈ calls.filterMap NoopCall.starter, ∀ u ∈ calls.filterMap NoopCall.starter, t = u := by
  constructor
  · intro h t ht u hu
    obtain ⟨hinv, hstarts, -⟩ := (noopInv_start hm).run hm hrun
    have hstarts' : s.starts.map Prod.fst = calls.filterMap NoopCall.starter := hstarts
    have hlast := hinv.spansKnowTracer_iff.mp (h calls s List.prefix_rfl hrun)
    rw [hstarts'] at hlast
    exact Option.some.inj ((hlast t ht).symm.trans (hlast u hu))
  · intro h pre s' hpre hrun'
    obtain ⟨hinv, hstarts, -⟩ := (noopInv_start hm).run hm hrun'
    have hstarts' : s'.starts.map Prod.fst = pre.filterMap NoopCall.starter := hstarts
    refine hinv.spansKnowTracer_iff.mpr fun t ht => ?_
    -- the latest start call is one of the run, and so was made on `t`
    have hne : s'.starts.map Prod.fst ≠ [] := List.ne_nil_of_mem ht
    have hlast : s'.lastStart = some ((s'.starts.map Prod.fst).getLast hne) := by
      rw [NoopState.lastStart, ← List.getLast?_map, List.getLast?_eq_some_getLast hne]
    have hsub : ∀ v ∈ s'.starts.map Prod.fst, v ∈ calls.filterMap NoopCall.starter := by
      rw [hstarts']
      exact fun v hv => (hpre.filterMap _).subset hv
    rw [hlast, h _ (hsub _ (List.getLast_mem hne)) t (hsub t ht)]

/-- Start calls on two tracers. -/
def startCalls (t u : TracerPtr) : List NoopCall :=
  [.tracer t (.startSpan (some emptyStr)), .tracer u (.startSpan (some emptyStr))]

/-- After two start calls on one tracer, the span they returned knows it. -/
theorem spans_know_single_tracer :
    ∃ s, noopMachine.Run (.start Memory.copies) (startCalls (.object 1) (.object 1)) s ∧
      s.SpansKnowTracer := by
  obtain ⟨s, hrun⟩ :
      ∃ s, noopMachine.Run (.start Memory.copies) (startCalls (.object 1) (.object 1)) s :=
    ⟨_, .cons ⟨Option.some_ne_none _, rfl⟩ rfl
      (.cons ⟨Option.some_ne_none _, rfl⟩ rfl (.nil _))⟩
  have hknow := (spans_know_tracer_iff atProcessStart_copies hrun).mpr
    (by simp [startCalls, NoopCall.starter, TracerMethod.starter])
  exact ⟨s, hrun, hknow _ s List.prefix_rfl hrun⟩

/-- Spans do not always know their tracer: after a start call on the built-in tracer and one
on a copy of it, the span the first returned has the copy as its tracer. -/
theorem span_forgets_tracer :
    ∃ s, noopMachine.Run (.start Memory.copies) (startCalls .noopTracerSingleton (.object 1)) s ∧
      ¬ s.SpansKnowTracer := by
  refine ⟨_, .cons ⟨Option.some_ne_none _, rfl⟩ rfl
    (.cons ⟨Option.some_ne_none _, rfl⟩ rfl (.nil _)), fun h => ?_⟩
  obtain ⟨memory, hrun⟩ := h .noopTracerSingleton .noopSpanSingleton List.mem_cons_self
  have hanswer : some (Answer.tracer (some (.object 1))) =
      some (Answer.tracer (some .noopTracerSingleton)) := congrArg (Option.map Prod.fst) hrun
  simp at hanswer

end OpentracingC
