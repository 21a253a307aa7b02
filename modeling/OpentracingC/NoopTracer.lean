import OpentracingC.GlobalTracer
import OpentracingC.Propagation
import Mathlib.Logic.Function.Basic

/-!
# The No-op Tracer

The built-in tracer of `tracer.c`: a tracer, a span and a span context that are static
objects, each with a table of function pointers. A `FnPtr` is the address of a function of
`tracer.c`, or of code that is not (a carrier method or a callback of the caller), and the
tables are filled in the order of the initialisers of the source. A method is called
through the table of the object it is called on (`callTracer`, `callSpan`,
`callSpanContext`); a call of code that is not in `tracer.c` is recorded.

Functions are programs in `NoopM`, state passing over the objects in memory, with `none`
for a failed assertion, a NULL or dangling object, or a function called at another type.
-/

open CMemory

namespace OpentracingC

/-! ### Pointers -/

/-- A non-NULL `opentracing_span` pointer. -/
inductive SpanPtr
  /-- `&noop_span_singleton`. -/
  | noopSpanSingleton
  /-- Any other span. -/
  | object (address : ℕ)
deriving DecidableEq

/-- A non-NULL `opentracing_span_context` pointer. -/
inductive SpanContextPtr
  /-- `&noop_span_context_singleton`. -/
  | noopSpanContextSingleton
  /-- Any other span context. -/
  | object (address : ℕ)
deriving DecidableEq

/-- The address of a span context pointer, as `extract` gets it. -/
abbrev OutParam := ℕ

/-- A pointer that is never dereferenced; `none` is NULL. -/
abbrev VoidPtr := Option ℕ

/-- What a method returns; `none` is NULL. -/
inductive Answer
  | void
  | span (span : Option SpanPtr)
  | spanContext (spanContext : Option SpanContextPtr)
  | tracer (tracer : Option TracerPtr)
  | string (string : Option CString)
  | code (code : OpentracingPropagationErrorCode)
deriving DecidableEq

/-- A function pointer. -/
inductive FnPtr
  | noopDestroy
  | noopForeachBaggageItem
  | noopSpanFinish
  | noopSpanFinishWithOptions
  | noopSpanSpanContext
  | noopSpanSetOperationName
  | noopSpanSetTag
  | noopSpanLogFields
  | noopSpanSetBaggageItem
  | noopSpanBaggageItem
  | noopSpanTracer
  | noopTracerClose
  | noopTracerStartSpan
  | noopTracerStartSpanWithOptions
  | noopTracerInjectTextMap
  | noopTracerInjectHttpHeaders
  | noopTracerInjectBinary
  | noopTracerInjectCustomCarrier
  | noopTracerExtractTextMap
  | noopTracerExtractHttpHeaders
  | noopTracerExtractBinary
  | noopTracerExtractCustomCarrier
  /-- Code that is not in `tracer.c`, with what it returns. -/
  | foreign (address : ℕ) (answer : Answer)
deriving DecidableEq

/-! ### Objects -/

/-- `opentracing_destructible`. -/
structure OpentracingDestructible where
  destroy : FnPtr
deriving DecidableEq

/-- `opentracing_span_context`. -/
structure OpentracingSpanContext where
  base : OpentracingDestructible
  foreachBaggageItem : FnPtr
  typeDescriptor : VoidPtr
  typeDescriptorLength : ℕ
deriving DecidableEq

/-- `opentracing_span`. -/
structure OpentracingSpan where
  base : OpentracingDestructible
  finish : FnPtr
  finishWithOptions : FnPtr
  spanContext : FnPtr
  setOperationName : FnPtr
  setTag : FnPtr
  logFields : FnPtr
  setBaggageItem : FnPtr
  baggageItem : FnPtr
  tracer : FnPtr
deriving DecidableEq

/-- `noop_span`. -/
structure NoopSpan where
  base : OpentracingSpan
  tracerPtr : Option TracerPtr
deriving DecidableEq

/-- `opentracing_tracer`. -/
structure OpentracingTracer where
  base : OpentracingDestructible
  close : FnPtr
  startSpan : FnPtr
  startSpanWithOptions : FnPtr
  injectTextMap : FnPtr
  injectHttpHeaders : FnPtr
  injectBinary : FnPtr
  injectCustom : FnPtr
  extractTextMap : FnPtr
  extractHttpHeaders : FnPtr
  extractBinary : FnPtr
  extractCustom : FnPtr
deriving DecidableEq

/-- A carrier of `propagation.h`: a destroy method, and `set`, `inject`, `foreach_key` or
`extract`, as its type has it. -/
structure Carrier where
  base : OpentracingDestructible
  method : FnPtr
deriving DecidableEq

/-- `opentracing_span_reference_type`. -/
inductive OpentracingSpanReferenceType
  | childOf
  | followsFrom
deriving DecidableEq

/-- `opentracing_span_reference`. -/
structure OpentracingSpanReference where
  type : OpentracingSpanReferenceType
  referencedContext : Option SpanContextPtr
deriving DecidableEq

/-- The references of `opentracing_start_span_options`. -/
structure OpentracingStartSpanOptions where
  references : List OpentracingSpanReference
deriving DecidableEq

/-- The memory a method can reach. -/
structure Memory where
  tracers : TracerPtr → Option OpentracingTracer
  spans : SpanPtr → Option NoopSpan
  spanContexts : SpanContextPtr → Option OpentracingSpanContext
  /-- What the span context pointers at their addresses hold. -/
  outParams : OutParam → Option SpanContextPtr
  /-- The code outside `tracer.c` that was called. -/
  invoked : List ℕ

/-- Programs over memory. -/
abbrev NoopM := StateT Memory Option

/-- The call of code that is not in `tracer.c`. -/
def callForeign (address : ℕ) : NoopM Unit :=
  modify fun memory => { memory with invoked := memory.invoked ++ [address] }

/-! ### Destructibles and span contexts -/

/-- `noop_destroy`, on an object of any type. -/
def noopDestroy {π : Type} (_destructible : π) : NoopM Unit :=
  pure ()

/-- `NOOP_DESTRUCTIBLE_INIT`. -/
def noopDestructibleInit : OpentracingDestructible :=
  ⟨.noopDestroy⟩

/-- `noop_foreach_baggage_item`. -/
def noopForeachBaggageItem (_spanContext : SpanContextPtr) (_f : Option FnPtr)
    (_arg : VoidPtr) : NoopM Unit :=
  pure ()

/-- The initialiser of `noop_span_context_singleton`. -/
def noopSpanContextInit : OpentracingSpanContext :=
  ⟨noopDestructibleInit, .noopForeachBaggageItem, none, 0⟩

/-! ### Spans -/

/-- `noop_span_finish_with_options`. -/
def noopSpanFinishWithOptions (_span : SpanPtr) (_options : VoidPtr) : NoopM Unit :=
  pure ()

/-- A call of a function pointer as `finish_with_options`. -/
def callFinishWithOptions (f : FnPtr) (span : SpanPtr) (options : VoidPtr) : NoopM Unit :=
  match f with
  | .noopSpanFinishWithOptions => noopSpanFinishWithOptions span options
  | .foreign address _ => callForeign address
  | _ => failure

/-- `noop_span_finish`, which calls `finish_with_options` through the table of the span. -/
def noopSpanFinish (span : SpanPtr) : NoopM Unit := do
  let memory ← get
  let object ← memory.spans span
  callFinishWithOptions object.base.finishWithOptions span none

/-- `noop_span_span_context`. -/
def noopSpanSpanContext (_span : SpanPtr) : NoopM SpanContextPtr :=
  pure .noopSpanContextSingleton

/-- `noop_span_set_operation_name`. -/
def noopSpanSetOperationName (_span : SpanPtr) (_operationName : Option CString) : NoopM Unit :=
  pure ()

/-- `noop_span_set_tag`. -/
def noopSpanSetTag (_span : SpanPtr) (_key : Option CString) (_value : VoidPtr) : NoopM Unit :=
  pure ()

/-- `noop_span_log_fields`. -/
def noopSpanLogFields (_span : SpanPtr) (_fields : VoidPtr) (_numFields : CInt) : NoopM Unit :=
  pure ()

/-- `noop_span_set_baggage_item`. -/
def noopSpanSetBaggageItem (_span : SpanPtr) (_key _value : Option CString) : NoopM Unit :=
  pure ()

/-- `empty_str`. -/
def emptyStr : CString := ⟨[], by decide⟩

/-- `noop_span_baggage_item`. -/
def noopSpanBaggageItem (_span : SpanPtr) (_key : Option CString) : NoopM (Option CString) :=
  pure (some emptyStr)

/-- `noop_span_tracer`. -/
def noopSpanTracer (span : Option SpanPtr) : NoopM (Option TracerPtr) := do
  -- `assert(span != NULL)`
  let span ← span
  let memory ← get
  let object ← memory.spans span
  return object.tracerPtr

/-- `NOOP_SPAN_INIT`. -/
def noopSpanInit : NoopSpan :=
  ⟨⟨noopDestructibleInit, .noopSpanFinish, .noopSpanFinishWithOptions, .noopSpanSpanContext,
      .noopSpanSetOperationName, .noopSpanSetTag, .noopSpanLogFields, .noopSpanSetBaggageItem,
      .noopSpanBaggageItem, .noopSpanTracer⟩,
    none⟩

/-! ### Tracers -/

/-- `noop_tracer_close`. -/
def noopTracerClose (_tracer : TracerPtr) : NoopM Unit :=
  pure ()

/-- `noop_tracer_start_span_with_options`. -/
def noopTracerStartSpanWithOptions (tracer : TracerPtr) (_operationName : Option CString)
    (_options : Option OpentracingStartSpanOptions) : NoopM (Option SpanPtr) := do
  let span : SpanPtr := .noopSpanSingleton
  let memory ← get
  let object ← memory.spans span
  if object.tracerPtr ≠ some tracer then
    set { memory with
      spans := Function.update memory.spans span (some { object with tracerPtr := some tracer }) }
  return some span

/-- A call of a function pointer as `start_span_with_options`. -/
def callStartSpanWithOptions (f : FnPtr) (tracer : TracerPtr)
    (operationName : Option CString) (options : Option OpentracingStartSpanOptions) :
    NoopM (Option SpanPtr) :=
  match f with
  | .noopTracerStartSpanWithOptions =>
      noopTracerStartSpanWithOptions tracer operationName options
  | .foreign address (.span span) => do
      callForeign address
      return span
  | _ => failure

/-- `noop_tracer_start_span`, which calls `start_span_with_options` through the table of the
tracer. -/
def noopTracerStartSpan (tracer : TracerPtr) (operationName : Option CString) :
    NoopM (Option SpanPtr) := do
  let memory ← get
  let object ← memory.tracers tracer
  callStartSpanWithOptions object.startSpanWithOptions tracer operationName none

/-- The body of `INJECT` and of `noop_tracer_inject_binary`. -/
def injectBody : NoopM OpentracingPropagationErrorCode :=
  pure .success

/-- `INJECT(text_map)`. -/
def noopTracerInjectTextMap (_tracer : TracerPtr) (_carrier : Option Carrier)
    (_spanContext : Option SpanContextPtr) : NoopM OpentracingPropagationErrorCode :=
  injectBody

/-- `INJECT(http_headers)`. -/
def noopTracerInjectHttpHeaders (_tracer : TracerPtr) (_carrier : Option Carrier)
    (_spanContext : Option SpanContextPtr) : NoopM OpentracingPropagationErrorCode :=
  injectBody

/-- `INJECT(custom_carrier)`. -/
def noopTracerInjectCustomCarrier (_tracer : TracerPtr) (_carrier : Option Carrier)
    (_spanContext : Option SpanContextPtr) : NoopM OpentracingPropagationErrorCode :=
  injectBody

/-- `noop_tracer_inject_binary`. -/
def noopTracerInjectBinary (_tracer : TracerPtr) (_callback : Option FnPtr) (_arg : VoidPtr)
    (_spanContext : Option SpanContextPtr) : NoopM OpentracingPropagationErrorCode :=
  injectBody

/-- The body of `EXTRACT` and of `noop_tracer_extract_binary`. -/
def extractBody (spanContext : Option OutParam) : NoopM OpentracingPropagationErrorCode := do
  -- `assert(span_context != NULL)`
  let spanContext ← spanContext
  modify fun memory =>
    { memory with
      outParams :=
        Function.update memory.outParams spanContext (some .noopSpanContextSingleton) }
  return .success

/-- `EXTRACT(text_map)`. -/
def noopTracerExtractTextMap (_tracer : TracerPtr) (_carrier : Option Carrier)
    (spanContext : Option OutParam) : NoopM OpentracingPropagationErrorCode :=
  extractBody spanContext

/-- `EXTRACT(http_headers)`. -/
def noopTracerExtractHttpHeaders (_tracer : TracerPtr) (_carrier : Option Carrier)
    (spanContext : Option OutParam) : NoopM OpentracingPropagationErrorCode :=
  extractBody spanContext

/-- `EXTRACT(custom_carrier)`. -/
def noopTracerExtractCustomCarrier (_tracer : TracerPtr) (_carrier : Option Carrier)
    (spanContext : Option OutParam) : NoopM OpentracingPropagationErrorCode :=
  extractBody spanContext

/-- `noop_tracer_extract_binary`. -/
def noopTracerExtractBinary (_tracer : TracerPtr) (_callback : Option FnPtr) (_arg : VoidPtr)
    (spanContext : Option OutParam) : NoopM OpentracingPropagationErrorCode :=
  extractBody spanContext

/-- `NOOP_TRACER_INIT`. -/
def noopTracerInit : OpentracingTracer :=
  ⟨noopDestructibleInit, .noopTracerClose, .noopTracerStartSpan,
    .noopTracerStartSpanWithOptions, .noopTracerInjectTextMap, .noopTracerInjectHttpHeaders,
    .noopTracerInjectBinary, .noopTracerInjectCustomCarrier, .noopTracerExtractTextMap,
    .noopTracerExtractHttpHeaders, .noopTracerExtractBinary, .noopTracerExtractCustomCarrier⟩

/-! ### Method calls -/

/-- The carriers of `inject` and `extract`, the binary one apart. -/
inductive CarrierFormat
  | textMap
  | httpHeaders
  | custom
deriving DecidableEq

/-- A method of a tracer, with its arguments. -/
inductive TracerMethod
  | destroy
  | close
  | startSpan (operationName : Option CString)
  | startSpanWithOptions (operationName : Option CString)
      (options : Option OpentracingStartSpanOptions)
  | inject (format : CarrierFormat) (carrier : Option Carrier)
      (spanContext : Option SpanContextPtr)
  | injectBinary (callback : Option FnPtr) (arg : VoidPtr) (spanContext : Option SpanContextPtr)
  | extract (format : CarrierFormat) (carrier : Option Carrier) (spanContext : Option OutParam)
  | extractBinary (callback : Option FnPtr) (arg : VoidPtr) (spanContext : Option OutParam)

/-- A method of a span, with its arguments. -/
inductive SpanMethod
  | destroy
  | finish
  | finishWithOptions (options : VoidPtr)
  | spanContext
  | setOperationName (operationName : Option CString)
  | setTag (key : Option CString) (value : VoidPtr)
  | logFields (fields : VoidPtr) (numFields : CInt)
  | setBaggageItem (key value : Option CString)
  | baggageItem (key : Option CString)
  | tracer

/-- A method of a span context, with its arguments. -/
inductive SpanContextMethod
  | destroy
  | foreachBaggageItem (f : Option FnPtr) (arg : VoidPtr)

/-- The slot of a method in the table of a tracer. -/
def OpentracingTracer.slot (object : OpentracingTracer) : TracerMethod → FnPtr
  | .destroy => object.base.destroy
  | .close => object.close
  | .startSpan _ => object.startSpan
  | .startSpanWithOptions _ _ => object.startSpanWithOptions
  | .inject .textMap _ _ => object.injectTextMap
  | .inject .httpHeaders _ _ => object.injectHttpHeaders
  | .inject .custom _ _ => object.injectCustom
  | .injectBinary _ _ _ => object.injectBinary
  | .extract .textMap _ _ => object.extractTextMap
  | .extract .httpHeaders _ _ => object.extractHttpHeaders
  | .extract .custom _ _ => object.extractCustom
  | .extractBinary _ _ _ => object.extractBinary

/-- The slot of a method in the table of a span. -/
def OpentracingSpan.slot (object : OpentracingSpan) : SpanMethod → FnPtr
  | .destroy => object.base.destroy
  | .finish => object.finish
  | .finishWithOptions _ => object.finishWithOptions
  | .spanContext => object.spanContext
  | .setOperationName _ => object.setOperationName
  | .setTag _ _ => object.setTag
  | .logFields _ _ => object.logFields
  | .setBaggageItem _ _ => object.setBaggageItem
  | .baggageItem _ => object.baggageItem
  | .tracer => object.tracer

/-- The slot of a method in the table of a span context. -/
def OpentracingSpanContext.slot (object : OpentracingSpanContext) : SpanContextMethod → FnPtr
  | .destroy => object.base.destroy
  | .foreachBaggageItem _ _ => object.foreachBaggageItem

/-- A call of a function pointer as a method of a tracer. -/
def callTracerFn (f : FnPtr) (tracer : TracerPtr) (method : TracerMethod) : NoopM Answer :=
  match f, method with
  | .noopDestroy, .destroy => do
      noopDestroy tracer
      return .void
  | .noopTracerClose, .close => do
      noopTracerClose tracer
      return .void
  | .noopTracerStartSpan, .startSpan operationName =>
      .span <$> noopTracerStartSpan tracer operationName
  | .noopTracerStartSpanWithOptions, .startSpanWithOptions operationName options =>
      .span <$> noopTracerStartSpanWithOptions tracer operationName options
  | .noopTracerInjectTextMap, .inject .textMap carrier spanContext =>
      .code <$> noopTracerInjectTextMap tracer carrier spanContext
  | .noopTracerInjectHttpHeaders, .inject .httpHeaders carrier spanContext =>
      .code <$> noopTracerInjectHttpHeaders tracer carrier spanContext
  | .noopTracerInjectCustomCarrier, .inject .custom carrier spanContext =>
      .code <$> noopTracerInjectCustomCarrier tracer carrier spanContext
  | .noopTracerInjectBinary, .injectBinary callback arg spanContext =>
      .code <$> noopTracerInjectBinary tracer callback arg spanContext
  | .noopTracerExtractTextMap, .extract .textMap carrier spanContext =>
      .code <$> noopTracerExtractTextMap tracer carrier spanContext
  | .noopTracerExtractHttpHeaders, .extract .httpHeaders carrier spanContext =>
      .code <$> noopTracerExtractHttpHeaders tracer carrier spanContext
  | .noopTracerExtractCustomCarrier, .extract .custom carrier spanContext =>
      .code <$> noopTracerExtractCustomCarrier tracer carrier spanContext
  | .noopTracerExtractBinary, .extractBinary callback arg spanContext =>
      .code <$> noopTracerExtractBinary tracer callback arg spanContext
  | .foreign address answer, _ => do
      callForeign address
      return answer
  | _, _ => failure

/-- A call of a function pointer as a method of a span. -/
def callSpanFn (f : FnPtr) (span : SpanPtr) (method : SpanMethod) : NoopM Answer :=
  match f, method with
  | .noopDestroy, .destroy => do
      noopDestroy span
      return .void
  | .noopSpanFinish, .finish => do
      noopSpanFinish span
      return .void
  | .noopSpanFinishWithOptions, .finishWithOptions options => do
      noopSpanFinishWithOptions span options
      return .void
  | .noopSpanSpanContext, .spanContext => do
      let spanContext ← noopSpanSpanContext span
      return .spanContext (some spanContext)
  | .noopSpanSetOperationName, .setOperationName operationName => do
      noopSpanSetOperationName span operationName
      return .void
  | .noopSpanSetTag, .setTag key value => do
      noopSpanSetTag span key value
      return .void
  | .noopSpanLogFields, .logFields fields numFields => do
      noopSpanLogFields span fields numFields
      return .void
  | .noopSpanSetBaggageItem, .setBaggageItem key value => do
      noopSpanSetBaggageItem span key value
      return .void
  | .noopSpanBaggageItem, .baggageItem key => .string <$> noopSpanBaggageItem span key
  | .noopSpanTracer, .tracer => .tracer <$> noopSpanTracer (some span)
  | .foreign address answer, _ => do
      callForeign address
      return answer
  | _, _ => failure

/-- A call of a function pointer as a method of a span context. -/
def callSpanContextFn (f : FnPtr) (spanContext : SpanContextPtr)
    (method : SpanContextMethod) : NoopM Answer :=
  match f, method with
  | .noopDestroy, .destroy => do
      noopDestroy spanContext
      return .void
  | .noopForeachBaggageItem, .foreachBaggageItem callback arg => do
      noopForeachBaggageItem spanContext callback arg
      return .void
  | .foreign address answer, _ => do
      callForeign address
      return answer
  | _, _ => failure

/-- `tracer->method(tracer, ...)`. -/
def callTracer (tracer : TracerPtr) (method : TracerMethod) : NoopM Answer := do
  let memory ← get
  let object ← memory.tracers tracer
  callTracerFn (object.slot method) tracer method

/-- `span->method(span, ...)`. -/
def callSpan (span : SpanPtr) (method : SpanMethod) : NoopM Answer := do
  let memory ← get
  let object ← memory.spans span
  callSpanFn (object.base.slot method) span method

/-- `span_context->method(span_context, ...)`. -/
def callSpanContext (spanContext : SpanContextPtr) (method : SpanContextMethod) :
    NoopM Answer := do
  let memory ← get
  let object ← memory.spanContexts spanContext
  callSpanContextFn (object.slot method) spanContext method

end OpentracingC
