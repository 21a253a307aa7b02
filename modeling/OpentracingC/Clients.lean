import OpentracingC.Tracing

/-!
# The Programs of the Documentation

The programs that the README shows as users of the interface, `main` of `main_snippet.c`,
`abc` of `new_span_snippet.c`, `xyz` of `existing_span_snippet.c` and `inject` of
`inject_snippet.c`, over an arbitrary tracing implementation. A program is in `ClientM`: it
changes the state of the process and may stop at a fault.

Where a start call may answer NULL, the programs test for it and go on regardless, since
the test has no statement. That is their only fault besides the assertion of `main`
(`clients_keep_headers`): over any implementation that meets its headers they keep the
callers' contract, destroy every span that `abc` and `xyz` start, and leave behind the span
and the text map of every `inject`.

Over `tracer.c` a start call never answers NULL, so that the programs always complete, and
nothing outside `tracer.c` is called (`clients_over_tracer`).
-/

open CMemory RefLedger

namespace OpentracingC

open OpentracingPropagationErrorCode

/-! ### Programs -/

/-- Why a program stops. -/
inductive Fault
  /-- A NULL pointer is dereferenced. -/
  | nullPointer
  /-- An assertion fails. -/
  | assertion
  /-- The implementation aborts, or answers with a value of another type. -/
  | aborted
deriving DecidableEq

/-- Programs over the state of a process that traces. -/
abbrev ClientM (σ : Type) := EStateM Fault (ApiState σ)

section

variable {σ : Type} (T : Tracing σ)

/-- A dereferenced pointer. -/
def deref {π : Type} (fault : Fault) : Option π → ClientM σ π
  | some p => pure p
  | none => throw fault

/-- A method call. -/
def callMethod (call : NoopCall) : ClientM σ Answer := do
  let s ← get
  match T.call call s.world with
  | some (answer, world) => do
      set (s.logged call answer world)
      return answer
  | none => throw .aborted

/-- `tracer->start_span(...)` and `tracer->start_span_with_options(...)`. -/
def callStart (tracer : TracerPtr) (method : TracerMethod) : ClientM σ (Option SpanPtr) := do
  match ← callMethod T (.tracer tracer method) with
  | .span p => return p
  | _ => throw .aborted

/-- `span->span_context(span)`. -/
def callSpanContextOf (span : SpanPtr) : ClientM σ (Option SpanContextPtr) := do
  match ← callMethod T (.span span .spanContext) with
  | .spanContext p => return p
  | _ => throw .aborted

/-- `tracer->inject_text_map(...)`. -/
def callInjectTextMap (tracer : TracerPtr) (carrier : Option Carrier)
    (spanContext : Option SpanContextPtr) : ClientM σ OpentracingPropagationErrorCode := do
  match ← callMethod T (.tracer tracer (.inject .textMap carrier spanContext)) with
  | .code code => return code
  | _ => throw .aborted

/-- `"operation_name"`. -/
def operationName : CString := ⟨asciiBytes "operation_name", by decide⟩

/-- `"test-inject"`. -/
def testInject : CString := ⟨asciiBytes "test-inject", by decide⟩

/-- `opentracing_global_tracer()`, dereferenced. -/
def globalTracer : ClientM σ TracerPtr := do
  let s ← get
  deref .nullPointer (T.globalTracer s.world)

/-- Both calls at the end of a span. -/
def finishAndDestroy (span : SpanPtr) : ClientM σ Unit := do
  let _ ← callMethod T (.span span .finish)
  let _ ← callMethod T (.span span .destroy)

/-- `make_tracing_impl()`. -/
def makeTracingImpl : ClientM σ (Option TracerPtr) := do
  let s ← get
  let (tracer, world) := T.makeTracingImpl s.world
  set (s.afterMake tracer world)
  return tracer

/-- `opentracing_init_global_tracer(tracer)`. -/
def initGlobalTracer (tracer : TracerPtr) : ClientM σ Unit := do
  let s ← get
  match T.initGlobalTracer tracer s.world with
  | some world => set (s.afterInit (T.globalTracer s.world) tracer world)
  | none => throw .aborted

/-- `main` of `main_snippet.c`. -/
def mainSnippet : ClientM σ Unit := do
  let tracer ← makeTracingImpl T
  -- `assert(tracer != NULL)`
  let tracer ← deref .assertion tracer
  initGlobalTracer T tracer

/-- `abc`. -/
def abc : ClientM σ Unit := do
  let tracer ← globalTracer T
  let span ← callStart T tracer (.startSpan (some operationName))
  -- `if (span == NULL)` has no statement
  let span ← deref .nullPointer span
  finishAndDestroy T span

/-- `xyz`. -/
def xyz (parentSpan : Option SpanPtr) : ClientM σ Unit := do
  let parentSpan ← deref .nullPointer parentSpan
  let parentContext ← callSpanContextOf T parentSpan
  let tracer ← globalTracer T
  -- `OPENTRACINGC_CHILD_OF(*parent_context)` takes the address of what it is given
  let options : OpentracingStartSpanOptions := { references := [⟨.childOf, parentContext⟩] }
  let span ← callStart T tracer (.startSpanWithOptions (some operationName) (some options))
  -- `if (span == NULL)` has no statement
  let span ← deref .nullPointer span
  finishAndDestroy T span

/-- The allocation of `text_map_writer_init`. -/
def textMapNew : ClientM σ Bool := do
  let s ← get
  let (allocated, world) := T.textMapNew s.world
  set { s with world, maps := if allocated then s.maps + 1 else s.maps }
  return allocated

/-- The end of `inject`, which prints an error code. -/
def report (returnCode : OpentracingPropagationErrorCode) : ClientM σ Unit :=
  if returnCode ≠ success then
    modify fun s => { s with stderr := s.stderr ++ [returnCode] }
  else
    pure ()

/-- `inject`. -/
def inject : ClientM σ Unit := do
  if ← textMapNew T then
    let tracer ← globalTracer T
    let span ← callStart T tracer (.startSpan (some testInject))
    let span ← deref .nullPointer span
    let spanContext ← callSpanContextOf T span
    let returnCode ← callInjectTextMap T tracer (some T.writer) spanContext
    report returnCode

end

/-- The programs. -/
inductive Client
  | main
  | abc
  | xyz (parentSpan : SpanPtr)
  | inject
deriving DecidableEq

/-- A program over an implementation. -/
def Client.program {σ : Type} (T : Tracing σ) : Client → ClientM σ Unit
  | .main => mainSnippet T
  | .abc => OpentracingC.abc T
  | .xyz parentSpan => OpentracingC.xyz T (some parentSpan)
  | .inject => OpentracingC.inject T

/-- Programs one after another; the parent that `xyz` is given has an open reference. -/
def clientMachine {σ : Type} (T : Tracing σ) : Machine (ApiState σ) Client where
  step s c :=
    match c.program T s with
    | .ok _ s' => some s'
    | .error _ _ => none
  Allowed s
    | .xyz parentSpan => Held (spanRefs s.log) parentSpan
    | _ => True

/-! ### Accounts -/

/-- The span a start call of `inject` answered. -/
def injectedSpan : NoopCall × Answer → Option SpanPtr
  | (.tracer _ (.startSpan (some name)), .span p) => if name = testInject then p else none
  | _ => none

/-- A start call of `inject`. -/
def startsInject : NoopCall × Answer → Bool
  | (.tracer _ (.startSpan (some name)), _) => name = testInject
  | _ => false

/-- The error code an inject method returned. -/
def injectFailure : NoopCall × Answer → Option OpentracingPropagationErrorCode
  | (.tracer _ (.inject _ _ _), .code code) => if code = success then none else some code
  | _ => none

/-- A call of `finish` on the span `p`. -/
def finishes (p : SpanPtr) : NoopCall × Answer → Bool
  | (.span q .finish, _) => q = p
  | _ => false

/-- **What the programs leave behind**: the references still open are those to the spans of
`inject`, a span was finished as often as it was destroyed, every `inject` that started left
its text map, and the codes that inject methods returned were printed. -/
structure Accounts (log : List (NoopCall × Answer)) (maps : ℕ)
    (stderr : List OpentracingPropagationErrorCode) : Prop where
  refs : ∀ p, acquired p (spanRefs log) =
    released p (spanRefs log) + (log.filterMap injectedSpan).count p
  finished : ∀ p, log.countP (finishes p) = released p (spanRefs log)
  maps_eq : maps = log.countP startsInject
  stderr_eq : stderr = log.filterMap injectFailure

/-- Nothing leaves nothing behind. -/
theorem accounts_nil : Accounts [] 0 [] :=
  ⟨fun _ => rfl, fun _ => rfl, rfl, rfl⟩

/-- Accounts add up. -/
theorem Accounts.append {log log' : List (NoopCall × Answer)} {maps maps' : ℕ}
    {stderr stderr' : List OpentracingPropagationErrorCode} (h : Accounts log maps stderr)
    (h' : Accounts log' maps' stderr') :
    Accounts (log ++ log') (maps + maps') (stderr ++ stderr') where
  refs p := by
    have hp := h.refs p
    have hp' := h'.refs p
    rw [spanRefs_append, acquired_append, released_append, List.filterMap_append,
      List.count_append]
    omega
  finished p := by
    rw [List.countP_append, h.finished p, h'.finished p, spanRefs_append, released_append]
  maps_eq := by rw [List.countP_append, ← h.maps_eq, ← h'.maps_eq]
  stderr_eq := by rw [List.filterMap_append, ← h.stderr_eq, ← h'.stderr_eq]

/-! ### One program -/

section

variable {σ : Type} {T : Tracing σ} {Inv : ApiState σ → Prop} {s s' : ApiState σ}

/-- A program that returned is continued. -/
theorem bind_ok {α β : Type} {x : ClientM σ α} {a : α} (h : x s = .ok a s') (f : α → ClientM σ β) :
    (x >>= f) s = f a s' := by
  change EStateM.bind x f s = f a s'
  rw [EStateM.bind, h]

/-- A state of the invariant, in which no span was used after its last reference. -/
structure Sound (Inv : ApiState σ → Prop) (s : ApiState σ) : Prop where
  inv : Inv s
  covered : Covered (spanRefs s.log)

/-- A call under the contract leaves a sound state. -/
theorem Sound.step (hT : T.MeetsHeaders Inv) (hs : Sound Inv s) {a : ApiCall}
    (hallowed : T.apiMachine.Allowed s a) (hstep : T.apiMachine.step s a = some s') :
    Sound Inv s' :=
  ⟨hT.keeps s a s' hs.inv hallowed hstep, Tracing.covered_step hs.covered hallowed hstep⟩

/-- A method call of an implementation that meets its headers, as a call of `apiMachine`. -/
structure Called (T : Tracing σ) (Inv : ApiState σ → Prop) (s : ApiState σ) (call : NoopCall)
    (answer : Answer) (s' : ApiState σ) : Prop where
  run : T.apiMachine.Run s [.method call] s'
  sound : Sound Inv s'
  global_eq : T.globalTracer s'.world = T.globalTracer s.world
  destroyed_eq : s'.destroyed = s.destroyed
  log_eq : s'.log = s.log ++ [(call, answer)]
  maps_eq : s'.maps = s.maps
  stderr_eq : s'.stderr = s.stderr

/-- **A method call under the contract** returns an answer of its kind. -/
theorem callMethod_eq (hT : T.MeetsHeaders Inv) (hs : Sound Inv s) (call : NoopCall)
    (hready : T.Ready s call) :
    ∃ answer s', callMethod T call s = .ok answer s' ∧ call.Answers answer ∧
      Called T Inv s call answer s' := by
  obtain ⟨answer, world, hcall, hanswer, hglobal⟩ := hT.answers s call hs.inv hready
  have hstep : T.apiMachine.step s (.method call) = some (s.logged call answer world) := by
    simp only [Tracing.apiMachine, hcall, Option.map_some]
  have hallowed : T.apiMachine.Allowed s (.method call) := hready
  refine ⟨answer, s.logged call answer world, ?_, hanswer, .cons hallowed hstep (.nil _),
    hs.step hT hallowed hstep, hglobal, rfl, rfl, rfl, rfl⟩
  rw [callMethod, bind_ok (x := get) rfl]
  simp only [hcall]
  rfl

/-- A start call answers a span or NULL. -/
theorem callStart_eq (hT : T.MeetsHeaders Inv) (hs : Sound Inv s) {t : TracerPtr}
    (method : TracerMethod) (hmethod : method.starter t ≠ none)
    (hready : T.Ready s (.tracer t method)) :
    ∃ p s', callStart T t method s = .ok p s' ∧
      Called T Inv s (.tracer t method) (.span p) s' := by
  obtain ⟨answer, s', hcall, hanswer, hcalled⟩ := callMethod_eq hT hs (.tracer t method) hready
  have hspan : ∃ p, answer = .span p := by
    cases method with
    | startSpan name => exact hanswer
    | startSpanWithOptions name options => exact hanswer
    | _ => exact absurd rfl hmethod
  obtain ⟨p, rfl⟩ := hspan
  refine ⟨p, s', ?_, hcalled⟩
  rw [callStart, bind_ok hcall]
  rfl

/-- The global tracer stays usable. -/
theorem Called.usable {call : NoopCall} {answer : Answer} {t : TracerPtr}
    (h : Called T Inv s call answer s') (ht : T.Usable s t) : T.Usable s' t := by
  rwa [Tracing.Usable, h.global_eq, h.destroyed_eq]

/-- The span a start call answered has an open reference. -/
theorem Called.held {t : TracerPtr} {method : TracerMethod} {p : SpanPtr}
    (h : Called T Inv s (.tracer t method) (.span (some p)) s') (hs : Sound Inv s) :
    Held (spanRefs s'.log) p := by
  have hle := hs.covered.released_le p
  have hrefs : spanRefs s'.log = spanRefs s.log ++ [.acquire p] := by
    rw [h.log_eq, spanRefs_append]
    rfl
  rw [hrefs, Held, released_append, acquired_append, released_cons_acquire,
    acquired_cons_acquire, released_nil, acquired_nil, if_pos rfl]
  omega

/-- The span a start call answered is not finished. -/
theorem Called.unfinished {t : TracerPtr} {method : TracerMethod} {p : SpanPtr}
    (h : Called T Inv s (.tracer t method) (.span (some p)) s') : Unfinished s'.log p := by
  have hstart : startsOrFinishes p (.tracer t method, .span (some p)) = some true := if_pos rfl
  rw [Unfinished, h.log_eq, List.filterMap_append, List.filterMap_cons_some hstart,
    List.filterMap_nil, List.getLast?_concat]

/-- The span context that a span answered is current. -/
theorem Called.current {p : SpanPtr} {c : SpanContextPtr}
    (h : Called T Inv s (.span p .spanContext) (.spanContext (some c)) s') : Current s'.log c :=
  ⟨p, s.log, [], h.log_eq, fun _ he => absurd he List.not_mem_nil⟩

/-- A method of a span other than `destroy` leaves its reference open. -/
theorem Called.held_span {p : SpanPtr} {method : SpanMethod} {answer : Answer}
    (h : Called T Inv s (.span p method) answer s') (hmethod : method ≠ .destroy)
    (hp : Held (spanRefs s.log) p) : Held (spanRefs s'.log) p := by
  have hrefs : spanRefs s'.log = spanRefs s.log ++ [.use p] := by
    rw [h.log_eq, spanRefs_append]
    cases method <;> first | rfl | exact absurd rfl hmethod
  rw [hrefs]
  simpa [Held] using hp

/-- The span context of a span is not NULL. -/
theorem callSpanContextOf_eq (hT : T.MeetsHeaders Inv) (hs : Sound Inv s) {p : SpanPtr}
    (hp : Held (spanRefs s.log) p) :
    ∃ c s', callSpanContextOf T p s = .ok (some c) s' ∧
      Called T Inv s (.span p .spanContext) (.spanContext (some c)) s' := by
  obtain ⟨answer, s', hcall, ⟨c, rfl⟩, hcalled⟩ :=
    callMethod_eq hT hs (.span p .spanContext) ⟨hp, trivial⟩
  refine ⟨c, s', ?_, hcalled⟩
  rw [callSpanContextOf, bind_ok hcall]
  rfl

/-- An inject method returns a code. -/
theorem callInjectTextMap_eq (c : SpanContextPtr) (hT : T.MeetsHeaders Inv)
    (hs : Sound Inv s) {t : TracerPtr} (ht : T.Usable s t) (hc : Current s.log c) :
    ∃ code s', callInjectTextMap T t (some T.writer) (some c) s = .ok code s' ∧
      Called T Inv s (.tracer t (.inject .textMap (some T.writer) (some c))) (.code code) s' := by
  obtain ⟨answer, s', hcall, ⟨code, rfl⟩, hcalled⟩ :=
    callMethod_eq hT hs (.tracer t (.inject .textMap (some T.writer) (some c)))
      ⟨ht, rfl, rfl, c, rfl, hc⟩
  refine ⟨code, s', ?_, hcalled⟩
  rw [callInjectTextMap, bind_ok hcall]
  rfl

/-- There is a global tracer, and it was not destroyed. -/
theorem globalTracer_eq (hT : T.MeetsHeaders Inv) (hs : Sound Inv s) :
    ∃ t, globalTracer T s = .ok t s ∧ T.Usable s t := by
  obtain ⟨t, ht⟩ := hT.globalTracer s hs.inv
  refine ⟨t, ?_, ht⟩
  rw [globalTracer, bind_ok (x := get) rfl, ht.1]
  rfl

/-- **The end of a span** returns: it finishes the span, and destroys it. -/
theorem finishAndDestroy_eq (hT : T.MeetsHeaders Inv) (hs : Sound Inv s) {p : SpanPtr}
    (hp : Held (spanRefs s.log) p) (hunfinished : Unfinished s.log p) :
    ∃ calls s' a b, finishAndDestroy T p s = .ok () s' ∧ T.apiMachine.Run s calls s' ∧
      Sound Inv s' ∧ s'.log = s.log ++ [(.span p .finish, a), (.span p .destroy, b)] ∧
      s'.maps = s.maps ∧ s'.stderr = s.stderr := by
  obtain ⟨a, s₁, hfinish, -, hcalled₁⟩ :=
    callMethod_eq hT hs (.span p .finish) ⟨hp, hunfinished⟩
  have hp₁ : Held (spanRefs s₁.log) p := hcalled₁.held_span SpanMethod.noConfusion hp
  obtain ⟨b, s₂, hdestroy, -, hcalled₂⟩ :=
    callMethod_eq hT hcalled₁.sound (.span p .destroy) ⟨hp₁, trivial⟩
  refine ⟨_, s₂, a, b, ?_, hcalled₁.run.append hcalled₂.run, hcalled₂.sound, ?_, ?_, ?_⟩
  · rw [finishAndDestroy, bind_ok hfinish, bind_ok hdestroy]
    rfl
  · rw [hcalled₂.log_eq, hcalled₁.log_eq, List.append_assoc]
    rfl
  · rw [hcalled₂.maps_eq, hcalled₁.maps_eq]
  · rw [hcalled₂.stderr_eq, hcalled₁.stderr_eq]

/-- **What a program leaves behind**, between two states: it made calls under the contract,
and its accounts say what is left. -/
structure Trail (T : Tracing σ) (Inv : ApiState σ → Prop) (s s' : ApiState σ) : Prop where
  run : ∃ calls, T.apiMachine.Run s calls s'
  sound : Sound Inv s'
  accounts : ∃ log maps stderr, Accounts log maps stderr ∧ s'.log = s.log ++ log ∧
    s'.maps = s.maps + maps ∧ s'.stderr = s.stderr ++ stderr

/-- A program that did nothing. -/
theorem Trail.refl (hs : Sound Inv s) : Trail T Inv s s where
  run := ⟨[], .nil s⟩
  sound := hs
  accounts := ⟨[], 0, [], accounts_nil, (List.append_nil _).symm, rfl, (List.append_nil _).symm⟩

/-- Programs one after another. -/
theorem Trail.trans {s'' : ApiState σ} (h : Trail T Inv s s') (h' : Trail T Inv s' s'') :
    Trail T Inv s s'' where
  run := by
    obtain ⟨calls, hrun⟩ := h.run
    obtain ⟨calls', hrun'⟩ := h'.run
    exact ⟨calls ++ calls', hrun.append hrun'⟩
  sound := h'.sound
  accounts := by
    obtain ⟨log, maps, stderr, hacc, hlog, hmaps, hstderr⟩ := h.accounts
    obtain ⟨log', maps', stderr', hacc', hlog', hmaps', hstderr'⟩ := h'.accounts
    refine ⟨_, _, _, hacc.append hacc', ?_, ?_, ?_⟩
    · rw [hlog', hlog, List.append_assoc]
    · rw [hmaps', hmaps, Nat.add_assoc]
    · rw [hstderr', hstderr, List.append_assoc]

/-- A method call that neither starts nor ends anything. -/
theorem Called.trail {call : NoopCall} {answer : Answer} (h : Called T Inv s call answer s')
    (hacc : Accounts [(call, answer)] 0 []) : Trail T Inv s s' where
  run := ⟨_, h.run⟩
  sound := h.sound
  accounts := ⟨_, 0, [], hacc, h.log_eq, h.maps_eq, by rw [h.stderr_eq, List.append_nil]⟩

/-- The accounts of a start call outside `inject` that answered NULL. -/
theorem accounts_null {t : TracerPtr} {method : TracerMethod}
    (hstarter : method.starter t ≠ none)
    (hinject : startsInject (.tracer t method, .span none) = false) :
    Accounts [(.tracer t method, .span none)] 0 [] where
  refs q := by
    cases method with
    | startSpan name => cases name <;> simp [spanRefs, List.filterMap_cons, refEvent, injectedSpan]
    | startSpanWithOptions name options => rfl
    | _ => exact absurd rfl hstarter
  finished q := rfl
  maps_eq := by rw [List.countP_singleton, hinject]; rfl
  stderr_eq := by
    cases method with
    | startSpan name => rfl
    | startSpanWithOptions name options => rfl
    | _ => exact absurd rfl hstarter

/-- The accounts of a span, started outside `inject`, that is finished and destroyed. -/
theorem accounts_finished {t : TracerPtr} {method : TracerMethod} {p : SpanPtr} {a b : Answer}
    (hstarter : method.starter t ≠ none)
    (hinject : startsInject (.tracer t method, .span (some p)) = false) :
    Accounts [(.tracer t method, .span (some p)), (.span p .finish, a), (.span p .destroy, b)]
      0 [] where
  refs q := by
    cases method with
    | startSpan name =>
        cases name with
        | none => simp [spanRefs, List.filterMap_cons, refEvent, injectedSpan]
        | some name =>
            have hname : name ≠ testInject := by simpa [startsInject] using hinject
            simp [spanRefs, List.filterMap_cons, refEvent, injectedSpan, hname]
    | startSpanWithOptions name options =>
        simp [spanRefs, List.filterMap_cons, refEvent, injectedSpan]
    | _ => exact absurd rfl hstarter
  finished q := by simp [spanRefs, List.countP_cons, refEvent, finishes]
  maps_eq := by
    rw [List.countP_cons_of_neg (by rw [hinject]; decide)]
    rfl
  stderr_eq := by simp [List.filterMap_cons, injectFailure]

/-- Why a program stopped: a start call answered NULL, or `make_tracing_impl` did. -/
def Client.Stopped (c : Client) (fault : Fault) (s : ApiState σ) : Prop :=
  (fault = .nullPointer ∧ ∃ call, s.log.getLast? = some (call, .span none)) ∨
    (fault = .assertion ∧ c = .main)

/-- **A span from its start to its end**, outside `inject`: where the start call answers NULL,
the program stops at it. -/
theorem span_trail (hT : T.MeetsHeaders Inv) (hs : Sound Inv s) {t : TracerPtr}
    (method : TracerMethod) (hstarter : method.starter t ≠ none)
    (hinject : ∀ answer, startsInject (.tracer t method, answer) = false)
    (hready : T.Ready s (.tracer t method)) :
    ∃ s', Trail T Inv s s' ∧
      ((callStart T t method >>= fun span => deref .nullPointer span >>= finishAndDestroy T) s =
          .ok () s' ∨
        (callStart T t method >>= fun span => deref .nullPointer span >>= finishAndDestroy T) s =
            .error .nullPointer s' ∧
          ∃ call, s'.log.getLast? = some (call, .span none)) := by
  obtain ⟨span, s₁, hstart, hcalled⟩ := callStart_eq hT hs method hstarter hready
  cases span with
  | none =>
      refine ⟨s₁, hcalled.trail (accounts_null hstarter (hinject _)), Or.inr ⟨?_, ?_⟩⟩
      · rw [bind_ok hstart]
        rfl
      · exact ⟨_, by rw [hcalled.log_eq, List.getLast?_concat]⟩
  | some p =>
      obtain ⟨calls, s', a, b, hend, hrun, hsound, hlog, hmaps, hstderr⟩ :=
        finishAndDestroy_eq hT hcalled.sound (hcalled.held hs) hcalled.unfinished
      refine ⟨s', ⟨⟨_, hcalled.run.append hrun⟩, hsound, _, 0, [],
        accounts_finished (a := a) (b := b) hstarter (hinject (.span (some p))), ?_, ?_, ?_⟩,
        Or.inl ?_⟩
      · rw [hlog, hcalled.log_eq, List.append_assoc, List.singleton_append]
      · rw [hmaps, hcalled.maps_eq, Nat.add_zero]
      · rw [hstderr, hcalled.stderr_eq, List.append_nil]
      · rw [bind_ok hstart]
        exact hend

/-- **The outcome of a program**: what it leaves behind, and whether it returned. -/
def Outcome (T : Tracing σ) (Inv : ApiState σ → Prop) (c : Client) (s s' : ApiState σ) : Prop :=
  Trail T Inv s s' ∧
    (c.program T s = .ok () s' ∨ ∃ fault, c.program T s = .error fault s' ∧ c.Stopped fault s')

/-- The start calls of `abc` and `xyz` are not those of `inject`. -/
theorem operationName_ne_testInject : operationName ≠ testInject := by
  decide

/-- `abc` starts a span and ends it. -/
theorem abc_outcome (hT : T.MeetsHeaders Inv) (hs : Sound Inv s) :
    ∃ s', Outcome T Inv .abc s s' := by
  obtain ⟨t, hglobal, ht⟩ := globalTracer_eq hT hs
  obtain ⟨s', htrail, hend⟩ := span_trail hT hs (.startSpan (some operationName))
    (Option.some_ne_none t) (fun _ => by simp [startsInject, operationName_ne_testInject])
    ⟨ht, Option.some_ne_none _⟩
  have hprogram := bind_ok hglobal fun t => callStart T t (.startSpan (some operationName)) >>=
    fun span => deref .nullPointer span >>= finishAndDestroy T
  refine ⟨s', htrail, ?_⟩
  rcases hend with hok | ⟨herror, hnull⟩
  · exact Or.inl (hprogram.trans hok)
  · exact Or.inr ⟨_, hprogram.trans herror, Or.inl ⟨rfl, hnull⟩⟩

/-- `xyz` asks its parent for a context, starts a span and ends it. -/
theorem xyz_outcome (hT : T.MeetsHeaders Inv) (hs : Sound Inv s) {p : SpanPtr}
    (hp : Held (spanRefs s.log) p) : ∃ s', Outcome T Inv (.xyz p) s s' := by
  obtain ⟨c, s₁, hcontext, hcalled⟩ := callSpanContextOf_eq hT hs hp
  have hparent : Trail T Inv s s₁ :=
    hcalled.trail ⟨fun q => by simp [spanRefs, List.filterMap_cons, refEvent, injectedSpan],
      fun q => by simp [spanRefs, refEvent, finishes], rfl, rfl⟩
  obtain ⟨t, hglobal, ht⟩ := globalTracer_eq hT hcalled.sound
  have hpermitted : TracerMethod.Permitted T.writer s₁.log
      (.startSpanWithOptions (some operationName) (some ⟨[⟨.childOf, some c⟩]⟩)) := by
    constructor
    · exact Option.some_ne_none _
    · intro options hoptions reference hreference
      obtain rfl := Option.mem_some_iff.mp hoptions
      obtain rfl := List.mem_singleton.mp hreference
      exact ⟨c, rfl, hcalled.current⟩
  obtain ⟨s', htrail, hend⟩ := span_trail hT hcalled.sound
    (.startSpanWithOptions (some operationName) (some ⟨[⟨.childOf, some c⟩]⟩))
    (Option.some_ne_none t) (fun _ => rfl) ⟨ht, hpermitted⟩
  have hprogram : (Client.xyz p).program T s = _ :=
    (bind_ok hcontext _).trans (bind_ok hglobal _)
  refine ⟨s', hparent.trans htrail, ?_⟩
  rcases hend with hok | ⟨herror, hnull⟩
  · exact Or.inl (hprogram.trans hok)
  · exact Or.inr ⟨_, hprogram.trans herror, Or.inl ⟨rfl, hnull⟩⟩

/-- The allocation of a text map. -/
theorem textMapNew_eq (hT : T.MeetsHeaders Inv) (hs : Sound Inv s) :
    ∃ s', textMapNew T s = .ok (T.textMapNew s.world).1 s' ∧ T.apiMachine.Run s [.textMapNew] s' ∧
      Sound Inv s' ∧ s'.log = s.log ∧
      s'.maps = (if (T.textMapNew s.world).1 then s.maps + 1 else s.maps) ∧
      s'.stderr = s.stderr :=
  ⟨_, rfl, .cons trivial rfl (.nil _), hs.step hT (a := .textMapNew) trivial rfl, rfl, rfl, rfl⟩

/-- The accounts of an `inject` whose start call answered NULL. -/
theorem accounts_inject_null {t : TracerPtr} :
    Accounts [(.tracer t (.startSpan (some testInject)), .span none)] 1 [] where
  refs q := by simp [spanRefs, List.filterMap_cons, refEvent, injectedSpan]
  finished q := rfl
  maps_eq := by simp [startsInject]
  stderr_eq := rfl

/-- The accounts of an `inject` that injected: the reference to its span stays open. -/
theorem accounts_inject (t : TracerPtr) (p : SpanPtr) (c : Option SpanContextPtr)
    (carrier : Option Carrier) (code : OpentracingPropagationErrorCode) :
    Accounts [(.tracer t (.startSpan (some testInject)), .span (some p)),
      (.span p .spanContext, .spanContext c), (.tracer t (.inject .textMap carrier c), .code code)]
      1 (if code = success then [] else [code]) where
  refs q := by simp [spanRefs, List.filterMap_cons, refEvent, injectedSpan, List.count_singleton]
  finished q := by simp [spanRefs, List.filterMap_cons, refEvent, finishes]
  maps_eq := by simp [startsInject]
  stderr_eq := by
    by_cases hcode : code = success <;> simp [List.filterMap_cons, injectFailure, hcode]

/-- The message of an injection that failed. -/
theorem report_eq (hT : T.MeetsHeaders Inv) (hs : Sound Inv s)
    (code : OpentracingPropagationErrorCode) :
    ∃ calls s', report code s = .ok () s' ∧ T.apiMachine.Run s calls s' ∧ Sound Inv s' ∧
      s'.log = s.log ∧ s'.maps = s.maps ∧
      s'.stderr = s.stderr ++ if code = success then [] else [code] := by
  by_cases hcode : code = success
  · refine ⟨[], s, ?_, .nil s, hs, rfl, rfl, ?_⟩
    · rw [report, if_neg (not_not.mpr hcode)]
      rfl
    · rw [if_pos hcode, List.append_nil]
  · refine ⟨[.report code], { s with stderr := s.stderr ++ [code] }, ?_, .cons hcode rfl (.nil _),
      hs.step hT (a := .report code) hcode rfl, rfl, rfl, ?_⟩
    · rw [report, if_pos hcode]
      rfl
    · rw [if_neg hcode]

/-- **The injection of a span**: its context, the inject method, and the message if it
failed. -/
theorem injection_eq (hT : T.MeetsHeaders Inv) (hs : Sound Inv s) {t : TracerPtr} {p : SpanPtr}
    (ht : T.Usable s t) (hp : Held (spanRefs s.log) p) :
    ∃ calls s' c code,
      (callSpanContextOf T p >>= fun c => callInjectTextMap T t (some T.writer) c >>= report) s =
          .ok () s' ∧
        T.apiMachine.Run s calls s' ∧ Sound Inv s' ∧
        s'.log = s.log ++ [(.span p .spanContext, .spanContext c),
          (.tracer t (.inject .textMap (some T.writer) c), .code code)] ∧
        s'.maps = s.maps ∧ s'.stderr = s.stderr ++ if code = success then [] else [code] := by
  obtain ⟨c, s₁, hcontext, hcalled₁⟩ := callSpanContextOf_eq hT hs hp
  obtain ⟨code, s₂, hinject, hcalled₂⟩ :=
    callInjectTextMap_eq c hT hcalled₁.sound (hcalled₁.usable ht) hcalled₁.current
  obtain ⟨calls, s', hreport, hrun, hsound, hlog, hmaps, hstderr⟩ :=
    report_eq hT hcalled₂.sound code
  refine ⟨_, s', some c, code, ?_, (hcalled₁.run.append hcalled₂.run).append hrun, hsound, ?_, ?_,
    ?_⟩
  · rw [bind_ok hcontext, bind_ok hinject, hreport]
  · rw [hlog, hcalled₂.log_eq, hcalled₁.log_eq, List.append_assoc]
    rfl
  · rw [hmaps, hcalled₂.maps_eq, hcalled₁.maps_eq]
  · rw [hstderr, hcalled₂.stderr_eq, hcalled₁.stderr_eq]

/-- `inject` starts a span, asks it for its context, injects it and prints what failed. -/
theorem inject_outcome (hT : T.MeetsHeaders Inv) (hs : Sound Inv s) :
    ∃ s', Outcome T Inv .inject s s' := by
  obtain ⟨s₁, hnew, hrun₁, hs₁, hlog₁, hmaps₁, hstderr₁⟩ := textMapNew_eq hT hs
  by_cases hallocated : (T.textMapNew s.world).1 = true
  · obtain ⟨t, hglobal, ht⟩ := globalTracer_eq hT hs₁
    obtain ⟨span, s₂, hstart, hcalled⟩ :=
      callStart_eq hT hs₁ (.startSpan (some testInject)) (Option.some_ne_none t)
        ⟨ht, Option.some_ne_none _⟩
    rw [if_pos hallocated] at hmaps₁
    rw [hallocated] at hnew
    have hprogram : Client.inject.program T s = _ :=
      (bind_ok hnew _).trans ((bind_ok hglobal _).trans (bind_ok hstart _))
    cases span with
    | none =>
        refine ⟨s₂, ⟨⟨_, hrun₁.append hcalled.run⟩, hcalled.sound, _, 1, [],
          accounts_inject_null (t := t), ?_, ?_, ?_⟩,
          Or.inr ⟨.nullPointer, hprogram, Or.inl ⟨rfl, ?_⟩⟩⟩
        · rw [hcalled.log_eq, hlog₁]
        · rw [hcalled.maps_eq, hmaps₁]
        · rw [hcalled.stderr_eq, hstderr₁, List.append_nil]
        · exact ⟨_, by rw [hcalled.log_eq, List.getLast?_concat]⟩
    | some p =>
        obtain ⟨calls, s', c, code, hend, hrun, hsound, hlog, hmaps, hstderr⟩ :=
          injection_eq hT hcalled.sound (hcalled.usable ht) (hcalled.held hs₁)
        refine ⟨s', ⟨⟨_, (hrun₁.append hcalled.run).append hrun⟩, hsound, _, 1, _,
          accounts_inject t p c (some T.writer) code, ?_, ?_, ?_⟩, Or.inl (hprogram.trans hend)⟩
        · rw [hlog, hcalled.log_eq, hlog₁, List.append_assoc, List.singleton_append]
        · rw [hmaps, hcalled.maps_eq, hmaps₁]
        · rw [hstderr, hcalled.stderr_eq, hstderr₁]
  · rw [if_neg hallocated] at hmaps₁
    rw [Bool.eq_false_iff.mpr hallocated] at hnew
    refine ⟨s₁, ⟨⟨_, hrun₁⟩, hs₁, [], 0, [], accounts_nil, ?_, hmaps₁, ?_⟩,
      Or.inl (bind_ok hnew _)⟩
    · rw [hlog₁, List.append_nil]
    · rw [hstderr₁, List.append_nil]

/-- A call that is no method call leaves nothing behind but what it returned. -/
theorem Trail.silent {a : ApiCall} (hT : T.MeetsHeaders Inv) (hs : Sound Inv s)
    (hallowed : T.apiMachine.Allowed s a) (hstep : T.apiMachine.step s a = some s')
    (hlog : s'.log = s.log) (hmaps : s'.maps = s.maps) (hstderr : s'.stderr = s.stderr) :
    Trail T Inv s s' where
  run := ⟨[a], .cons hallowed hstep (.nil _)⟩
  sound := hs.step hT hallowed hstep
  accounts := ⟨[], 0, [], accounts_nil, by rw [hlog, List.append_nil], hmaps,
    by rw [hstderr, List.append_nil]⟩

/-- `main` installs the tracer that `make_tracing_impl` returned. -/
theorem main_outcome (hT : T.MeetsHeaders Inv) (hs : Sound Inv s) :
    ∃ s', Outcome T Inv .main s s' := by
  obtain ⟨s₁, hmake, hstep, hafter⟩ : ∃ s₁,
      makeTracingImpl T s = .ok (T.makeTracingImpl s.world).1 s₁ ∧
        T.apiMachine.step s .makeTracingImpl = some s₁ ∧
        s₁ = s.afterMake (T.makeTracingImpl s.world).1 (T.makeTracingImpl s.world).2 :=
    ⟨_, rfl, rfl, rfl⟩
  have htrail : Trail T Inv s s₁ := by
    refine .silent hT hs (a := .makeTracingImpl) trivial hstep ?_ ?_ ?_ <;>
      · obtain rfl := Option.some.inj hstep
        rfl
  cases ht : (T.makeTracingImpl s.world).1 with
  | none =>
      rw [ht] at hmake
      exact ⟨s₁, htrail, Or.inr ⟨.assertion, bind_ok hmake _, Or.inr ⟨rfl, rfl⟩⟩⟩
  | some t =>
      rw [ht] at hmake hafter
      have hnew : T.apiMachine.Allowed s₁ (.initGlobalTracer t) := by
        rw [hafter]
        exact ApiState.new_afterMake
      obtain ⟨world, hinit⟩ := hT.init s₁ t htrail.sound.inv hnew
      have hstep₂ : T.apiMachine.step s₁ (.initGlobalTracer t) =
          some (s₁.afterInit (T.globalTracer s₁.world) t world) := by
        simp only [Tracing.apiMachine, hinit, Option.map_some]
      refine ⟨_, htrail.trans (.silent hT htrail.sound (a := .initGlobalTracer t) hnew hstep₂
        rfl rfl rfl), Or.inl ?_⟩
      have hinstall : initGlobalTracer T t s₁ =
          .ok () (s₁.afterInit (T.globalTracer s₁.world) t world) := by
        rw [initGlobalTracer, bind_ok (x := get) rfl]
        simp only [hinit]
        rfl
      exact (bind_ok hmake _).trans hinstall

/-- **Every program has an outcome**, when its contract is kept. -/
theorem client_outcome (hT : T.MeetsHeaders Inv) (hs : Sound Inv s) {c : Client}
    (hallowed : (clientMachine T).Allowed s c) : ∃ s', Outcome T Inv c s s' := by
  cases c with
  | main => exact main_outcome hT hs
  | abc => exact abc_outcome hT hs
  | xyz p => exact xyz_outcome hT hs hallowed
  | inject => exact inject_outcome hT hs

/-! ### Programs one after another -/

/-- Programs one after another ran to the end, or one of them stopped. -/
def Finished (T : Tracing σ) (s : ApiState σ) (cs : List Client) (s' : ApiState σ) : Prop :=
  (clientMachine T).Run s cs s' ∨
    ∃ before c after s₁ fault, cs = before ++ c :: after ∧ (clientMachine T).Run s before s₁ ∧
      c.program T s₁ = .error fault s' ∧ c.Stopped fault s'

/-- The induction is on the programs. -/
theorem clients_trail (hT : T.MeetsHeaders Inv) (hs : Sound Inv s) {cs : List Client}
    (hobeys : (clientMachine T).Obeys s cs) : ∃ s', Trail T Inv s s' ∧ Finished T s cs s' := by
  induction cs generalizing s with
  | nil => exact ⟨s, .refl hs, Or.inl (.nil s)⟩
  | cons c cs ih =>
      obtain ⟨hallowed, hrest⟩ := hobeys
      obtain ⟨s₁, htrail, hprogram | ⟨fault, hprogram, hstopped⟩⟩ := client_outcome hT hs hallowed
      · have hstep : (clientMachine T).step s c = some s₁ := by
          simp only [clientMachine, hprogram]
        obtain ⟨s', htrail', hfinished⟩ := ih htrail.sound (hrest s₁ hstep)
        refine ⟨s', htrail.trans htrail', ?_⟩
        rcases hfinished with hrun | ⟨before, d, after, s₂, fault, rfl, hrun, hstop⟩
        · exact Or.inl (.cons hallowed hstep hrun)
        · exact Or.inr ⟨c :: before, d, after, s₂, fault, rfl, .cons hallowed hstep hrun, hstop⟩
      · exact ⟨s₁, htrail, Or.inr ⟨[], c, cs, s, fault, rfl, .nil s, hprogram, hstopped⟩⟩

/-- **The programs keep the headers' contract**: over every implementation that meets its
headers, programs in any order and number, with open spans as parents, make only calls
that the headers allow, and use and destroy spans only while their reference is open. They all
return, but for a start call that answers NULL, which they dereference, and for the assertion
of `main`. At the end the spans that `abc` and `xyz` started have been finished and destroyed
once for each start; the span and the text map of every `inject` have not been freed; and
what was printed is the codes of the injections that failed. -/
theorem clients_keep_headers (hT : T.MeetsHeaders Inv) {world : σ} (hstart : Inv (.start world))
    {cs : List Client} (hobeys : (clientMachine T).Obeys (.start world) cs) :
    ∃ s calls, T.apiMachine.Run (.start world) calls s ∧ Covered (spanRefs s.log) ∧
      Accounts s.log s.maps s.stderr ∧ Finished T (.start world) cs s := by
  have hs : Sound Inv (.start world) := ⟨hstart, covered_nil⟩
  obtain ⟨s, htrail, hfinished⟩ := clients_trail hT hs hobeys
  obtain ⟨calls, hrun⟩ := htrail.run
  obtain ⟨log, maps, stderr, hacc, hlog, hmaps, hstderr⟩ := htrail.accounts
  have haccounts : Accounts s.log s.maps s.stderr := by
    rw [hlog, hmaps, hstderr]
    simpa [ApiState.start] using hacc
  exact ⟨s, calls, hrun, htrail.sound.covered, haccounts, hfinished⟩

end

/-! ### Over `tracer.c` -/

section

variable {ρ : Type} {memory : Memory} {make : ρ → Option TracerPtr × ρ}
  {textMapNew : ρ → Bool × ρ} {writer : Carrier}

/-- No injection of the null object fails. -/
theorem injectFailure_answer (call : NoopCall) (last : Option TracerPtr) :
    injectFailure (call, call.answer last) = none := by
  rcases call with ⟨t, method⟩ | ⟨p, method⟩ | ⟨p, method⟩
  · cases method <;> rfl
  · rfl
  · rfl

/-- The null object never answers NULL for a span. -/
theorem answer_ne_null (call : NoopCall) (last : Option TracerPtr) :
    call.answer last ≠ .span none := by
  rcases call with ⟨t, method⟩ | ⟨p, method⟩ | ⟨p, method⟩
  · cases method <;> simp [NoopCall.answer, TracerMethod.answer]
  · cases method <;> simp [NoopCall.answer, SpanMethod.answer]
  · simp [NoopCall.answer]

/-- **The programs over `tracer.c`**: from process start, in any order and number, with
installations of tracers that have the no-op table among them, they all return, but for the
assertion of `main` where `make_tracing_impl` returns NULL. They print nothing and call no code
outside `tracer.c`, and their calls are a run of `tracer.c` under its callers' contract, with
the method calls that they logged. -/
theorem clients_over_tracer (hm : memory.AtProcessStart) (hmake : MakesNoop memory make) {r : ρ}
    {cs : List Client}
    (hobeys : (clientMachine (tracerC make textMapNew writer)).Obeys
      (.start (.start memory, r)) cs) :
    ∃ s calls, tracerMachine.Run (.start memory) calls s.world.1 ∧
      calls.filterMap TracerCall.methodCall = s.log.map Prod.fst ∧
      s.world.1.world.memory.invoked = [] ∧ s.stderr = [] ∧
      ((clientMachine (tracerC make textMapNew writer)).Run (.start (.start memory, r)) cs s ∨
        ∃ before after s₁, cs = before ++ .main :: after ∧
          (clientMachine (tracerC make textMapNew writer)).Run (.start (.start memory, r)) before
            s₁ ∧
          Client.main.program (tracerC make textMapNew writer) s₁ = .error .assertion s) := by
  have hT := tracerC_meetsHeaders textMapNew writer hm hmake
  have hs : Sound (fun s => ∃ t, TracerCInv memory t s) (.start (.start memory, r)) :=
    ⟨⟨_, tracerCInv_start hm r⟩, covered_nil⟩
  obtain ⟨s, htrail, hfinished⟩ := clients_trail hT hs hobeys
  obtain ⟨calls, hrun⟩ := htrail.run
  obtain ⟨u, htracer, rfl, t, hinv⟩ := (apiMachine_simulation_tracer hm hmake).run
    ⟨rfl, _, tracerCInv_start hm r⟩ hrun
  obtain ⟨log, maps, stderr, hacc, hlog, -, hstderr⟩ := htrail.accounts
  have hmethods := log_of_run hrun
  refine ⟨s, _, htracer, hmethods.symm, hinv.invoked, ?_, ?_⟩
  · have hfailures : log.filterMap injectFailure = [] := by
      refine List.filterMap_eq_nil_iff.mpr fun e he => ?_
      obtain ⟨last, hlast⟩ := hinv.answered e (by rw [hlog]; exact List.mem_append_right _ he)
      have heq : e = (e.1, e.1.answer last) := Prod.ext rfl hlast
      rw [heq]
      exact injectFailure_answer e.1 last
    rw [hstderr, hacc.stderr_eq, hfailures]
    rfl
  · rcases hfinished with hclients | ⟨before, c, after, s₁, fault, hcs, hbefore, hprogram, hstopped⟩
    · exact Or.inl hclients
    · rcases hstopped with ⟨-, call, hnull⟩ | ⟨rfl, rfl⟩
      · obtain ⟨last, hlast⟩ := hinv.answered _ (List.mem_of_getLast? hnull)
        exact absurd hlast.symm (answer_ne_null call last)
      · exact Or.inr ⟨before, after, s₁, hcs, hbefore, hprogram⟩

end

/-- A process whose tracers are all copies of the built-in one, and whose allocators
return. -/
def copiesTracing : Tracing (TracerState × Unit) :=
  tracerC (fun r => (some (.object 1), r)) (fun r => (true, r))
    ⟨⟨.foreign 3 .void⟩, .foreign 4 (.code success)⟩

/-- The span that `inject` leaves open is the parent of `xyz`. -/
theorem obeys_copies : (clientMachine copiesTracing).Obeys (.start (.start Memory.copies, ()))
    [.main, .inject, .xyz .noopSpanSingleton, .abc] := by
  refine ⟨trivial, fun s₁ h₁ => ⟨trivial, fun s₂ h₂ => ⟨?_, fun _ _ => ⟨trivial, fun _ _ =>
    trivial⟩⟩⟩⟩
  obtain rfl := Option.some.inj h₁
  obtain rfl := Option.some.inj h₂
  change released SpanPtr.noopSpanSingleton _ < acquired SpanPtr.noopSpanSingleton _
  exact Nat.zero_lt_one

/-- Every tracer is a copy of the built-in one. -/
theorem makesNoop_copies :
    MakesNoop Memory.copies fun r : Unit => (some (.object 1), r) :=
  fun _ _ _ => rfl

/-- On a copy of the built-in tracer the programs leave behind what their accounts say. -/
theorem clients_keep_headers_copies :
    ∃ s calls, copiesTracing.apiMachine.Run (.start (.start Memory.copies, ())) calls s ∧
      Covered (spanRefs s.log) ∧ Accounts s.log s.maps s.stderr := by
  have hT : copiesTracing.MeetsHeaders fun s => ∃ t, TracerCInv Memory.copies t s :=
    tracerC_meetsHeaders _ _ atProcessStart_copies makesNoop_copies
  obtain ⟨s, calls, hrun, hcovered, haccounts, -⟩ := clients_keep_headers hT
    ⟨_, tracerCInv_start atProcessStart_copies ()⟩ obeys_copies
  exact ⟨s, calls, hrun, hcovered, haccounts⟩

/-- On a copy of the built-in tracer the programs print nothing. -/
theorem clients_over_tracer_copies :
    ∃ (s : ApiState (TracerState × Unit)) (calls : List TracerCall),
      tracerMachine.Run (.start Memory.copies) calls s.world.1 ∧
        calls.filterMap TracerCall.methodCall = s.log.map Prod.fst ∧
        s.world.1.world.memory.invoked = [] ∧ s.stderr = [] := by
  obtain ⟨s, calls, hrun, hmethods, hinvoked, hstderr, -⟩ :=
    clients_over_tracer atProcessStart_copies makesNoop_copies obeys_copies
  exact ⟨s, calls, hrun, hmethods, hinvoked, hstderr⟩

end OpentracingC
