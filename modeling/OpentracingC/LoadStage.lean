import OpentracingC.DynamicLoad

/-!
# The Stages of a Load

A call of `opentracing_dynamically_load_tracing_library` ends in one of six ways, which
its arguments, the linker and the plugin's hook determine before the call is made
(`loadStage`). This module defines what each stage does to the handle, the buffer and the
linker's log, and which text it reports, and proves that the call does exactly that:

* `load_eq`: the return code, the final handle, the final buffer, the copy and the events
  of every call whose arguments the assertion admits;
* `load_eq_none`: a call whose arguments the assertion does not admit aborts.
-/

open CMemory

namespace OpentracingC

/-- The ways a load can end. -/
inductive LoadStage
  /-- The build has no weak symbols. -/
  | unsupported
  /-- `dlopen` returned NULL and recorded a text. -/
  | dlopenFailed (text : CString)
  /-- `dlsym` returned NULL, with or without a text. -/
  | hookMissing (lib : RawHandle) (text : Option CString)
  /-- The hook reported an error. -/
  | hookRejected (lib : RawHandle) (result : HookResult)
      (code : OpentracingDynamicLoadErrorCode) (hcode : code ≠ .success)
  /-- The hook reported success and returned NULL. -/
  | factoryMissing (lib : RawHandle) (result : HookResult)
  /-- The hook reported success and returned a factory. -/
  | loaded (lib : RawHandle) (result : HookResult) (factory : OpentracingTracerFactory)

/-- The stage at which the hook's answer ends a load. -/
def hookStage (lib : RawHandle) (result : HookResult) : LoadStage :=
  if hcode : result.returnCode.getD .success ≠ .success then
    .hookRejected lib result (result.returnCode.getD .success) hcode
  else
    match result.factory with
    | none => .factoryMissing lib result
    | some factory => .loaded lib result factory

/-- The stage at which a load ends. -/
def loadStage (build : Build) (dl : DlLibrary) (lib : CString) (errorBuffer : Option Bytes)
    (errorBufferLength : CInt) : LoadStage :=
  match build with
  | .noWeakSymbols => .unsupported
  | .weakSymbols =>
      match dl.dlopen lib [.rtldNow, .rtldLocal] with
      | .failed text => .dlopenFailed text
      | .opened handle _ =>
          match dl.dlsym handle makeTracerFactorySymbol with
          | .null text => .hookMissing handle text
          | .found hook =>
              hookStage handle (hook opentracingcVersionString errorBuffer errorBufferLength)

namespace LoadStage

/-- The return code of a stage. -/
def returnCode : LoadStage → OpentracingDynamicLoadErrorCode
  | .unsupported => .notSupported
  | .dlopenFailed _ => .failure
  | .hookMissing _ _ => .failure
  | .hookRejected _ _ code _ => code
  | .factoryMissing _ _ => .failure
  | .loaded _ _ _ => .success

/-- The text a stage hands to `COPY_ERROR`. -/
def error : LoadStage → Option CString
  | .unsupported => some noWeakSymbolMessage
  | .dlopenFailed text => some text
  | .hookMissing _ text => text
  | .hookRejected _ _ _ _ => none
  | .factoryMissing _ _ => some factoryNullMessage
  | .loaded _ _ _ => none

/-- The handle a stage leaves behind, from the handle before the call. -/
def handle : LoadStage → OpentracingLibraryHandle → OpentracingLibraryHandle
  | .unsupported, h => h
  | .dlopenFailed _, h => { h with libHandle := none }
  | .hookMissing _ _, h => { h with libHandle := none }
  | .hookRejected _ result _ _, _ => { factory := result.factory, libHandle := none }
  | .factoryMissing _ _, _ => { factory := none, libHandle := none }
  | .loaded lib _ factory, _ => { factory := some factory, libHandle := some lib }

/-- The buffer as `COPY_ERROR` finds it: only the hook writes before. -/
def bufferBefore : LoadStage → Option Bytes → Option Bytes
  | .hookRejected _ result _ _, b => b.map fun _ => result.errorBuffer
  | .factoryMissing _ result, b => b.map fun _ => result.errorBuffer
  | .loaded _ result _, b => b.map fun _ => result.errorBuffer
  | _, b => b

/-- What a stage asked the linker and the plugin to do. -/
def events : LoadStage → List LinkerEvent
  | .unsupported => []
  | .dlopenFailed _ => [.dlopen none, .dlerror]
  | .hookMissing lib _ => [.dlopen (some lib), .dlerror, .dlsym lib, .dlerror, .dlclose lib]
  | .hookRejected lib _ _ _ => [.dlopen (some lib), .dlerror, .dlsym lib, .hook lib, .dlclose lib]
  | .factoryMissing lib _ => [.dlopen (some lib), .dlerror, .dlsym lib, .hook lib, .dlclose lib]
  | .loaded lib _ _ => [.dlopen (some lib), .dlerror, .dlsym lib, .hook lib]

/-- What `COPY_ERROR` does at a stage. -/
def copied (stage : LoadStage) (errorBuffer : Option Bytes) (errorBufferLength : CInt) :
    Option CopyReport :=
  copyError stage.error (stage.bufferBefore errorBuffer) errorBufferLength

/-- The buffer a stage leaves behind. -/
def bufferAfter (stage : LoadStage) (errorBuffer : Option Bytes) (errorBufferLength : CInt) :
    Option Bytes :=
  match stage.copied errorBuffer errorBufferLength with
  | some report => some report.errorBuffer
  | none => stage.bufferBefore errorBuffer

end LoadStage

/-- The arguments that `assert(error_buffer != NULL || error_buffer_length == 0)` admits;
builds without weak symbols do not assert. -/
def Admits (build : Build) (errorBuffer : Option Bytes) (errorBufferLength : CInt) : Prop :=
  build = .weakSymbols → errorBuffer.isSome ∨ errorBufferLength.val = 0

/-- The final state of a load that ends at a stage. -/
structure LoadStage.EndsIn (stage : LoadStage) (handle : OpentracingLibraryHandle)
    (errorBuffer : Option Bytes) (errorBufferLength : CInt) (linker : LinkerState)
    (s : LoadState) : Prop where
  handle_eq : s.handle = stage.handle handle
  buffer_eq : s.errorBuffer = stage.bufferAfter errorBuffer errorBufferLength
  copied_eq : s.copied = stage.copied errorBuffer errorBufferLength
  events_eq : s.linker.events = linker.events ++ stage.events

/-! ### The statements of the load, run -/

/-- A linker call changes the linker only. -/
@[simp] theorem liftLinker_run {α : Type} (f : LinkerState → α × LinkerState) (s : LoadState) :
    (liftLinker f).run s = some ((f s.linker).1, { s with linker := (f s.linker).2 }) := rfl

/-- The assignment to `handle->lib_handle`. -/
@[simp] theorem setLibHandle_run (lib : Option RawHandle) (s : LoadState) :
    (setLibHandle lib).run s = some ((), { s with handle := { s.handle with libHandle := lib } }) :=
  rfl

/-- A passed assertion does nothing. -/
theorem assert_run {p : Prop} [Decidable p] (h : p) (s : LoadState) :
    (assert p).run s = some ((), s) := by
  simp [assert, h]

/-- A failed assertion aborts. -/
theorem assert_run_none {p : Prop} [Decidable p] (h : ¬ p) (s : LoadState) :
    (assert p).run s = none := by
  simp only [assert, if_neg h]
  rfl

/-- The call of the hook: it changes the factory, the buffer and the linker. -/
@[simp] theorem callMakeTracerFactory_run (hook : MakeTracerFactory) (lib : RawHandle)
    (errorBufferLength : CInt) (s : LoadState) :
    (callMakeTracerFactory hook lib errorBufferLength).run s =
      let result := hook opentracingcVersionString s.errorBuffer errorBufferLength
      some (result.returnCode.getD .success,
        { s with
          handle := { s.handle with factory := result.factory }
          errorBuffer := s.errorBuffer.map fun _ => result.errorBuffer
          linker := ⟨result.dlerrorText, s.linker.events ++ [.hook lib]⟩ }) := rfl

/-- `COPY_ERROR` in a state where nothing has been copied yet. -/
theorem copyErrorM_run (error : Option CString) (errorBufferLength : CInt) {s : LoadState}
    (hs : s.copied = none) :
    (copyErrorM error errorBufferLength).run s =
      some ((),
        { s with
          errorBuffer :=
            match copyError error s.errorBuffer errorBufferLength with
            | some report => some report.errorBuffer
            | none => s.errorBuffer
          copied := copyError error s.errorBuffer errorBufferLength }) := by
  obtain ⟨handle, errorBuffer, linker, copied⟩ := s
  subst hs
  cases h : copyError error errorBuffer errorBufferLength with
  | none => simp [copyErrorM, h]
  | some report => simp [copyErrorM, h]

/-- The linker after the handle's library, if it has one, was closed. -/
def closeHandle (dl : DlLibrary) (libHandle : Option RawHandle) (linker : LinkerState) :
    LinkerState :=
  match libHandle with
  | none => linker
  | some lib => linker.dlclose dl lib

/-- Behind the label `cleanup`, success leaves everything as it is. -/
theorem cleanup_run_success (dl : DlLibrary) (error : Option CString) (errorBufferLength : CInt)
    (s : LoadState) :
    (cleanup dl error .success errorBufferLength).run s = some (.success, s) := by
  simp [cleanup]

/-- Behind the label `cleanup`, a failure copies the text, closes the library and clears
`lib_handle`. The factory is not touched. -/
theorem cleanup_run_failure (dl : DlLibrary) (error : Option CString) (errorBufferLength : CInt)
    {returnCode : OpentracingDynamicLoadErrorCode} (hcode : returnCode ≠ .success)
    {s : LoadState} (hs : s.copied = none) :
    (cleanup dl error returnCode errorBufferLength).run s =
      some (returnCode,
        { handle := { s.handle with libHandle := none }
          errorBuffer :=
            match copyError error s.errorBuffer errorBufferLength with
            | some report => some report.errorBuffer
            | none => s.errorBuffer
          linker := closeHandle dl s.handle.libHandle s.linker
          copied := copyError error s.errorBuffer errorBufferLength }) := by
  obtain ⟨⟨factory, libHandle⟩, errorBuffer, linker, copied⟩ := s
  cases libHandle with
  | none => simp [cleanup, hcode, copyErrorM_run _ _ hs, closeHandle]
  | some lib => simp [cleanup, hcode, copyErrorM_run _ _ hs, closeHandle]

/-! ### The load, stage by stage -/

theorem failure_ne_success :
    OpentracingDynamicLoadErrorCode.failure ≠ OpentracingDynamicLoadErrorCode.success := by
  decide

theorem notSupported_ne_success :
    OpentracingDynamicLoadErrorCode.notSupported ≠ OpentracingDynamicLoadErrorCode.success := by
  decide

/-- With an admitted buffer, the load is its body followed by the cleanup. -/
theorem load_eq_body_bind_cleanup {dl : DlLibrary} {lib : CString}
    {handle : OpentracingLibraryHandle} {errorBuffer : Option Bytes} {errorBufferLength : CInt}
    {linker : LinkerState} (hadm : Admits .weakSymbols errorBuffer errorBufferLength) :
    opentracingDynamicallyLoadTracingLibrary .weakSymbols dl lib handle errorBuffer
        errorBufferLength linker =
      ((loadBody dl lib errorBufferLength).run ⟨handle, errorBuffer, linker, none⟩).bind
        fun r => (cleanup dl r.1.1 r.1.2 errorBufferLength).run r.2 := by
  simp only [opentracingDynamicallyLoadTracingLibrary, StateT.run_bind, assert_run (hadm rfl)]
  rfl

/-- A failing body followed by the cleanup ends in its stage, when the body has left the
factory, the buffer and the log as the stage says. -/
theorem LoadStage.endsIn_cleanup (stage : LoadStage) {dl : DlLibrary}
    {handle : OpentracingLibraryHandle} {errorBuffer : Option Bytes} {errorBufferLength : CInt}
    {linker : LinkerState} {s : LoadState} (hcode : stage.returnCode ≠ .success)
    (hhandle : { s.handle with libHandle := none } = stage.handle handle)
    (hbuffer : s.errorBuffer = stage.bufferBefore errorBuffer) (hcopied : s.copied = none)
    (hevents : (closeHandle dl s.handle.libHandle s.linker).events =
      linker.events ++ stage.events) :
    ∃ s', (cleanup dl stage.error stage.returnCode errorBufferLength).run s =
        some (stage.returnCode, s') ∧
      stage.EndsIn handle errorBuffer errorBufferLength linker s' := by
  refine ⟨_, cleanup_run_failure dl stage.error errorBufferLength hcode hcopied, ?_⟩
  refine ⟨hhandle, ?_, ?_, hevents⟩
  · rw [hbuffer]
    rfl
  · rw [hbuffer]
    rfl

/-- The load when `dlopen` fails. -/
theorem load_eq_of_dlopenFailed {dl : DlLibrary} {lib text : CString}
    (hopen : dl.dlopen lib [.rtldNow, .rtldLocal] = .failed text)
    (handle : OpentracingLibraryHandle) {errorBuffer : Option Bytes} {errorBufferLength : CInt}
    (linker : LinkerState) (hadm : Admits .weakSymbols errorBuffer errorBufferLength) :
    ∃ s, opentracingDynamicallyLoadTracingLibrary .weakSymbols dl lib handle errorBuffer
        errorBufferLength linker = some (.failure, s) ∧
      (LoadStage.dlopenFailed text).EndsIn handle errorBuffer errorBufferLength linker s := by
  rw [load_eq_body_bind_cleanup hadm]
  simp only [loadBody, StateT.run_bind, liftLinker_run, LinkerState.dlopen, hopen,
    setLibHandle_run, StateT.run_pure, Option.bind_eq_bind, Option.bind_some, Option.pure_def]
  refine LoadStage.endsIn_cleanup (.dlopenFailed text) failure_ne_success rfl rfl rfl ?_
  simp [closeHandle, LinkerState.dlerror, LoadStage.events]

/-- The load when `dlsym` returns NULL. -/
theorem load_eq_of_hookMissing {dl : DlLibrary} {lib : CString} {raw : RawHandle}
    {pending text : Option CString}
    (hopen : dl.dlopen lib [.rtldNow, .rtldLocal] = .opened raw pending)
    (hsym : dl.dlsym raw makeTracerFactorySymbol = .null text)
    (handle : OpentracingLibraryHandle) {errorBuffer : Option Bytes} {errorBufferLength : CInt}
    (linker : LinkerState) (hadm : Admits .weakSymbols errorBuffer errorBufferLength) :
    ∃ s, opentracingDynamicallyLoadTracingLibrary .weakSymbols dl lib handle errorBuffer
        errorBufferLength linker = some (.failure, s) ∧
      (LoadStage.hookMissing raw text).EndsIn handle errorBuffer errorBufferLength linker s := by
  rw [load_eq_body_bind_cleanup hadm]
  simp only [loadBody, StateT.run_bind, liftLinker_run, LinkerState.dlopen, hopen,
    setLibHandle_run, LinkerState.dlsym, hsym, StateT.run_pure, Option.bind_eq_bind,
    Option.bind_some, Option.pure_def]
  -- the text read is the one of this `dlsym`: the pending one has been cleared
  have herror : (text <|> none) = text := by cases text <;> rfl
  simp only [LinkerState.dlerror, herror]
  refine LoadStage.endsIn_cleanup (.hookMissing raw text) failure_ne_success rfl rfl rfl ?_
  simp [closeHandle, LinkerState.dlclose, LoadStage.events]

/-- The load when the hook is called. -/
theorem load_eq_of_hookCalled {dl : DlLibrary} {lib : CString} {raw : RawHandle}
    {pending : Option CString} {hook : MakeTracerFactory}
    (hopen : dl.dlopen lib [.rtldNow, .rtldLocal] = .opened raw pending)
    (hsym : dl.dlsym raw makeTracerFactorySymbol = .found hook)
    (handle : OpentracingLibraryHandle) {errorBuffer : Option Bytes} {errorBufferLength : CInt}
    (linker : LinkerState) (hadm : Admits .weakSymbols errorBuffer errorBufferLength) :
    let stage := hookStage raw (hook opentracingcVersionString errorBuffer errorBufferLength)
    ∃ s, opentracingDynamicallyLoadTracingLibrary .weakSymbols dl lib handle errorBuffer
        errorBufferLength linker = some (stage.returnCode, s) ∧
      stage.EndsIn handle errorBuffer errorBufferLength linker s := by
  intro stage
  rw [load_eq_body_bind_cleanup hadm]
  simp only [loadBody, StateT.run_bind, liftLinker_run, LinkerState.dlopen, hopen,
    setLibHandle_run, LinkerState.dlsym, hsym, callMakeTracerFactory_run, Option.bind_eq_bind,
    Option.bind_some]
  simp only [stage, hookStage]
  generalize hook opentracingcVersionString errorBuffer errorBufferLength = result
  by_cases hcode : result.returnCode.getD .success = .success
  · have hzero : ¬ result.returnCode.getD OpentracingDynamicLoadErrorCode.success ≠ 0 :=
      not_not.mpr hcode
    rw [dif_neg (not_not.mpr hcode), if_neg hzero]
    cases hfactory : result.factory with
    | none =>
        simp only [StateT.run_bind, StateT.run_get, Option.bind_eq_bind, Option.pure_def,
          Option.bind_some, if_true, StateT.run_pure]
        refine LoadStage.endsIn_cleanup (.factoryMissing raw result) failure_ne_success rfl rfl
          rfl ?_
        simp [closeHandle, LinkerState.dlclose, LinkerState.dlerror, LoadStage.events]
    | some factory =>
        simp only [StateT.run_bind, StateT.run_get, Option.bind_eq_bind, Option.pure_def,
          Option.bind_some, reduceCtorEq, if_false, StateT.run_pure, hcode]
        refine ⟨_, cleanup_run_success .., rfl, rfl, rfl, ?_⟩
        simp [LinkerState.dlerror, LoadStage.events]
  · have hnonzero : result.returnCode.getD OpentracingDynamicLoadErrorCode.success ≠ 0 := hcode
    rw [dif_pos hcode, if_pos hnonzero]
    simp only [StateT.run_pure, Option.pure_def, Option.bind_some]
    refine LoadStage.endsIn_cleanup (.hookRejected raw result _ hcode) hcode rfl rfl rfl ?_
    simp [closeHandle, LinkerState.dlclose, LinkerState.dlerror, LoadStage.events]

/-- The load in a build without weak symbols. -/
theorem load_eq_of_unsupported (dl : DlLibrary) (lib : CString)
    (handle : OpentracingLibraryHandle) (errorBuffer : Option Bytes) (errorBufferLength : CInt)
    (linker : LinkerState) :
    ∃ s, opentracingDynamicallyLoadTracingLibrary .noWeakSymbols dl lib handle errorBuffer
        errorBufferLength linker = some (.notSupported, s) ∧
      LoadStage.unsupported.EndsIn handle errorBuffer errorBufferLength linker s := by
  simp only [opentracingDynamicallyLoadTracingLibrary, StateT.run_bind, copyErrorM_run,
    Option.bind_eq_bind, Option.bind_some, StateT.run_pure, Option.pure_def]
  exact ⟨_, rfl, rfl, rfl, rfl, (List.append_nil _).symm⟩

variable {build : Build} {dl : DlLibrary} {lib : CString} {handle : OpentracingLibraryHandle}
  {errorBuffer : Option Bytes} {errorBufferLength : CInt} {linker : LinkerState}

/-- **The effect of a load**: with an admitted buffer, it returns the code of its stage
and ends in the state its stage describes. -/
theorem load_eq (dl : DlLibrary) (lib : CString) (handle : OpentracingLibraryHandle)
    (linker : LinkerState) (hadm : Admits build errorBuffer errorBufferLength) :
    ∃ s, opentracingDynamicallyLoadTracingLibrary build dl lib handle errorBuffer
        errorBufferLength linker =
        some ((loadStage build dl lib errorBuffer errorBufferLength).returnCode, s) ∧
      (loadStage build dl lib errorBuffer errorBufferLength).EndsIn handle errorBuffer
        errorBufferLength linker s := by
  cases build with
  | noWeakSymbols => exact load_eq_of_unsupported ..
  | weakSymbols =>
      simp only [loadStage]
      cases hopen : dl.dlopen lib [.rtldNow, .rtldLocal] with
      | failed text => exact load_eq_of_dlopenFailed hopen handle linker hadm
      | opened raw pending =>
          simp only
          cases hsym : dl.dlsym raw makeTracerFactorySymbol with
          | null text => exact load_eq_of_hookMissing hopen hsym handle linker hadm
          | found hook => exact load_eq_of_hookCalled hopen hsym handle linker hadm

/-- A call whose buffer the assertion does not admit aborts. -/
theorem load_eq_none (hadm : ¬ Admits build errorBuffer errorBufferLength) :
    opentracingDynamicallyLoadTracingLibrary build dl lib handle errorBuffer
      errorBufferLength linker = none := by
  simp only [Admits, Classical.not_imp] at hadm
  obtain ⟨rfl, hassert⟩ := hadm
  simp only [opentracingDynamicallyLoadTracingLibrary, StateT.run_bind, assert_run_none hassert]
  rfl

/-- What is known about a load that returned: it was admitted, it returned the code of its
stage, and it ended as its stage says. -/
theorem load_eq_some {returnCode : OpentracingDynamicLoadErrorCode} {s : LoadState}
    (h : opentracingDynamicallyLoadTracingLibrary build dl lib handle errorBuffer
      errorBufferLength linker = some (returnCode, s)) :
    Admits build errorBuffer errorBufferLength ∧
      returnCode = (loadStage build dl lib errorBuffer errorBufferLength).returnCode ∧
      (loadStage build dl lib errorBuffer errorBufferLength).EndsIn handle errorBuffer
        errorBufferLength linker s := by
  by_cases hadm : Admits build errorBuffer errorBufferLength
  · obtain ⟨s', heq, hend⟩ := load_eq dl lib handle linker hadm
    rw [h, Option.some.injEq, Prod.mk.injEq] at heq
    obtain ⟨rfl, rfl⟩ := heq
    exact ⟨hadm, rfl, hend⟩
  · rw [load_eq_none hadm] at h
    cases h

/-! ### Sample linkers -/

/-- A library name. -/
def libraryName : CString :=
  ⟨asciiBytes "libtracer.so", by decide⟩

/-- The text of a linker that does not find a library. -/
def notFoundText : CString :=
  ⟨asciiBytes "cannot open shared object file", by decide⟩

/-- A linker that finds no library. -/
def DlLibrary.absent : DlLibrary where
  dlopen _ _ := .failed notFoundText
  dlsym _ _ := .null none
  dlclose _ := none

/-- A linker that opens one library, under every name, with a hook that stores a return
code and returns a factory, and writes no text. -/
def DlLibrary.present (lib : RawHandle) (returnCode : OpentracingDynamicLoadErrorCode)
    (factory : Option OpentracingTracerFactory) : DlLibrary where
  dlopen _ _ := .opened lib none
  dlsym _ _ := .found fun _ errorBuffer _ =>
    { returnCode := some returnCode
      factory
      errorBuffer := errorBuffer.getD fun _ => 0
      dlerrorText := none }
  dlclose _ := none

end OpentracingC
