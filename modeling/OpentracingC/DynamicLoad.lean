import OpentracingC.Lib.CMemory

/-!
# Dynamic Loading of Tracing Libraries

The two functions of `dynamic_load.c`, `opentracing_dynamically_load_tracing_library` and
`opentracing_library_handle_destroy`, over a dynamic linker that is a parameter of the
call. `DlLibrary` says what `dlopen`, `dlsym` and `dlclose` answer, and `DlsymResult`
carries the plugin's `opentracing_make_tracer_factory` hook as a function of its
arguments. `LinkerState` is what survives a call: the text `dlerror` would return next,
and the log of what the linker was asked to do.

The load is a program in `LoadM`, state passing over the handle, the error buffer and the
linker with `none` for a failed assertion. It follows the source statement by statement:
`loadBody` is the part before the label `cleanup` (each `goto cleanup` returns the error
text and the return code), `cleanup` the part behind it, and `copyError` the macro
`COPY_ERROR`, which besides the new buffer reports the narrowed length and the accesses
it made.

A call ends in one of the six ways of `LoadStage`. `load_eq` gives the whole effect of a
call as a function of its stage; every later statement about the loader is a case split
on it.
-/

open CMemory

namespace OpentracingC

/-- `opentracing_dynamic_load_error_code`. A C enumeration is stored as an integer, and a
plugin's hook can write any value. -/
abbrev OpentracingDynamicLoadErrorCode := ℤ

namespace OpentracingDynamicLoadErrorCode

/-- Success value. -/
def success : OpentracingDynamicLoadErrorCode := 0

/-- Dynamically loading a tracer library failed. -/
def failure : OpentracingDynamicLoadErrorCode := -1

/-- The platform has no support for loading tracing libraries. -/
def notSupported : OpentracingDynamicLoadErrorCode := -2

/-- The library uses an incompatible version of opentracing. -/
def incompatibleLibraryVersions : OpentracingDynamicLoadErrorCode := -3

end OpentracingDynamicLoadErrorCode

/-- A non-NULL `opentracing_tracer_factory` function pointer. -/
abbrev OpentracingTracerFactory := ℕ

/-- A non-NULL raw library handle, as `dlopen` returns it. -/
abbrev RawHandle := ℕ

/-- `opentracing_library_handle`; `none` is NULL. -/
structure OpentracingLibraryHandle where
  /-- Tracer factory function. -/
  factory : Option OpentracingTracerFactory
  /-- Raw library handle. -/
  libHandle : Option RawHandle
deriving DecidableEq

/-- The handle with both fields NULL. -/
def OpentracingLibraryHandle.null : OpentracingLibraryHandle :=
  { factory := none, libHandle := none }

/-! ### The dynamic linker -/

/-- The flags the loader passes to `dlopen`. -/
inductive DlopenFlag
  | rtldNow
  | rtldLocal
deriving DecidableEq

/-- What one call of a plugin's hook leaves behind. -/
structure HookResult where
  /-- The value stored in `*return_code`, if any. -/
  returnCode : Option OpentracingDynamicLoadErrorCode
  /-- The returned factory. -/
  factory : Option OpentracingTracerFactory
  /-- The contents of the error buffer, where there is one. -/
  errorBuffer : Bytes
  /-- The text `dlerror` would return next: the hook may use the linker itself. -/
  dlerrorText : Option CString

/-- `opentracing_make_tracer_factory` of a plugin, as a function of the caller's version,
the error buffer and its length. -/
abbrev MakeTracerFactory := CString → Option Bytes → CInt → HookResult

/-- The answer of `dlopen`. -/
inductive DlopenResult
  /-- NULL, and the text recorded for `dlerror`. -/
  | failed (text : CString)
  /-- The library, and the text `dlerror` would return next: its constructors may use the
  linker themselves. -/
  | opened (lib : RawHandle) (dlerrorText : Option CString)

/-- The answer of `dlsym`. -/
inductive DlsymResult
  /-- The symbol. -/
  | found (hook : MakeTracerFactory)
  /-- NULL: a failure with its text, or a symbol whose value is NULL, without one. -/
  | null (text : Option CString)

/-- The dynamic linker during one call. -/
structure DlLibrary where
  dlopen : CString → List DlopenFlag → DlopenResult
  dlsym : RawHandle → CString → DlsymResult
  /-- The text `dlerror` would return next after `dlclose`: its own, or one that the
  destructors of the library leave. -/
  dlclose : RawHandle → Option CString

/-- What the linker and the plugin were asked to do. -/
inductive LinkerEvent
  /-- `dlopen`, with the library it returned. -/
  | dlopen (result : Option RawHandle)
  | dlerror
  | dlsym (lib : RawHandle)
  /-- The hook of a library was run. -/
  | hook (lib : RawHandle)
  /-- A factory of a library was run. -/
  | factory (lib : RawHandle)
  /-- The destroy method of a tracer of a library was run. -/
  | destroy (lib : RawHandle)
  | dlclose (lib : RawHandle)
deriving DecidableEq

/-- The state of the linker between calls. -/
structure LinkerState where
  /-- The text recorded since the previous `dlerror`. -/
  dlerrorText : Option CString
  /-- The log of the calls so far. -/
  events : List LinkerEvent
deriving DecidableEq

namespace LinkerState

/-- `dlopen(lib, flags)`. -/
def dlopen (dl : DlLibrary) (lib : CString) (flags : List DlopenFlag) (s : LinkerState) :
    Option RawHandle × LinkerState :=
  match dl.dlopen lib flags with
  | .failed text => (none, ⟨some text, s.events ++ [.dlopen none]⟩)
  | .opened handle text => (some handle, ⟨text, s.events ++ [.dlopen (some handle)]⟩)

/-- `dlerror()`: the recorded text, which is cleared. -/
def dlerror (s : LinkerState) : Option CString × LinkerState :=
  (s.dlerrorText, ⟨none, s.events ++ [.dlerror]⟩)

/-- `dlsym(handle, symbol)`. -/
def dlsym (dl : DlLibrary) (handle : RawHandle) (symbol : CString) (s : LinkerState) :
    Option MakeTracerFactory × LinkerState :=
  match dl.dlsym handle symbol with
  | .found hook => (some hook, ⟨s.dlerrorText, s.events ++ [.dlsym handle]⟩)
  | .null text => (none, ⟨text <|> s.dlerrorText, s.events ++ [.dlsym handle]⟩)

/-- `dlclose(handle)`. An earlier text does not survive it. -/
def dlclose (dl : DlLibrary) (handle : RawHandle) (s : LinkerState) : LinkerState :=
  ⟨dl.dlclose handle, s.events ++ [.dlclose handle]⟩

end LinkerState

/-! ### `opentracing_library_handle_destroy` -/

/-- `opentracing_library_handle_destroy`, on the handle the pointer points to; `none` is
the NULL pointer. -/
def opentracingLibraryHandleDestroy (dl : DlLibrary) (handle : Option OpentracingLibraryHandle)
    (linker : LinkerState) : Option OpentracingLibraryHandle × LinkerState :=
  match handle with
  | none => (none, linker)
  | some handle =>
      match handle.libHandle with
      | none => (some handle, linker)
      | some lib => (some { factory := none, libHandle := none }, linker.dlclose dl lib)

/-! ### `COPY_ERROR` -/

/-- What one execution of `COPY_ERROR` did. -/
structure CopyReport where
  /-- The text. -/
  error : CString
  /-- The local `error_len`. -/
  errorLen : CInt
  /-- The accesses to the buffer, in order. -/
  accesses : List Access
  /-- The contents of the buffer afterwards. -/
  errorBuffer : Bytes

/-- `COPY_ERROR()`, `none` when there is no text or no buffer. -/
def copyError (error : Option CString) (errorBuffer : Option Bytes)
    (errorBufferLength : CInt) : Option CopyReport :=
  match error, errorBuffer with
  | some error, some errorBuffer =>
      -- `strlen(error) + 1` is a `size_t`, and `error_len` an `int`
      let errorLen := CInt.ofSize (sizeAdd (strlen error) 1)
      if errorLen.val > errorBufferLength.val then
        let last := errorBufferLength.val - 1
        some
          { error, errorLen
            accesses := [.memcpy (toSize last), .store last]
            errorBuffer := storeByte (memcpy errorBuffer error.chars (toSize last)) last 0 }
      else
        some
          { error, errorLen
            accesses := [.memcpy (toSize errorLen.val)]
            errorBuffer := memcpy errorBuffer error.chars (toSize errorLen.val) }
  | _, _ => none

/-! ### `opentracing_dynamically_load_tracing_library` -/

/-- The state of a load: what the handle and the buffer pointer point to, the linker, and
what `COPY_ERROR` did, once it ran. -/
structure LoadState where
  handle : OpentracingLibraryHandle
  errorBuffer : Option Bytes
  linker : LinkerState
  copied : Option CopyReport

/-- Programs over the state of a load; `none` is a failed assertion. -/
abbrev LoadM := StateT LoadState Option

/-- `assert(p)`. -/
def assert (p : Prop) [Decidable p] : LoadM Unit :=
  if p then pure () else failure

/-- A linker call within a load. -/
def liftLinker {α : Type} (f : LinkerState → α × LinkerState) : LoadM α := do
  let s ← get
  set { s with linker := (f s.linker).2 }
  return (f s.linker).1

/-- `handle->lib_handle = lib`. -/
def setLibHandle (lib : Option RawHandle) : LoadM Unit :=
  modify fun s => { s with handle := { s.handle with libHandle := lib } }

/-- `COPY_ERROR()` within a load. -/
def copyErrorM (error : Option CString) (errorBufferLength : CInt) : LoadM Unit :=
  modify fun s =>
    match copyError error s.errorBuffer errorBufferLength with
    | some report =>
        { s with errorBuffer := some report.errorBuffer, copied := some report }
    | none => s

/-- `"opentracing_make_tracer_factory"`. -/
def makeTracerFactorySymbol : CString :=
  ⟨asciiBytes "opentracing_make_tracer_factory", by decide⟩

/-- `OPENTRACINGC_VERSION_STRING`, the project version of `CMakeLists.txt`. -/
def opentracingcVersionString : CString :=
  ⟨asciiBytes "0.0.1", by decide⟩

/-- The text for a hook that reports success and returns NULL. -/
def factoryNullMessage : CString :=
  ⟨asciiBytes "Tracer factory is NULL, no error code specified", by decide⟩

/-- The text of builds without weak symbols. -/
def noWeakSymbolMessage : CString :=
  ⟨asciiBytes "Platform has no weak symbol support", by decide⟩

/-- `handle->factory = (*make_tracer_factory)(OPENTRACINGC_VERSION_STRING, &return_code,
error_buffer, error_buffer_length)`, with `return_code` initialised to success. Returns
`return_code`. -/
def callMakeTracerFactory (hook : MakeTracerFactory) (lib : RawHandle)
    (errorBufferLength : CInt) : LoadM OpentracingDynamicLoadErrorCode := do
  let s ← get
  let result := hook opentracingcVersionString s.errorBuffer errorBufferLength
  set
    { s with
      handle := { s.handle with factory := result.factory }
      errorBuffer := s.errorBuffer.map fun _ => result.errorBuffer
      linker := ⟨result.dlerrorText, s.linker.events ++ [LinkerEvent.hook lib]⟩ }
  return result.returnCode.getD .success

/-- The load up to the label `cleanup`: the error text, NULL if there is none, and the
return code. -/
def loadBody (dl : DlLibrary) (lib : CString) (errorBufferLength : CInt) :
    LoadM (Option CString × OpentracingDynamicLoadErrorCode) := do
  let libHandle ← liftLinker (LinkerState.dlopen dl lib [.rtldNow, .rtldLocal])
  setLibHandle libHandle
  match libHandle with
  | none =>
      let error ← liftLinker LinkerState.dlerror
      return (error, .failure)
  | some libHandle =>
      -- clear any existing error
      let _ ← liftLinker LinkerState.dlerror
      let makeTracerFactory ← liftLinker (LinkerState.dlsym dl libHandle makeTracerFactorySymbol)
      match makeTracerFactory with
      | none =>
          let error ← liftLinker LinkerState.dlerror
          return (error, .failure)
      | some makeTracerFactory =>
          let returnCode ← callMakeTracerFactory makeTracerFactory libHandle errorBufferLength
          if returnCode ≠ 0 then
            return (none, returnCode)
          else if (← get).handle.factory = none then
            return (some factoryNullMessage, .failure)
          else
            return (none, returnCode)

/-- The load behind the label `cleanup`. -/
def cleanup (dl : DlLibrary) (error : Option CString)
    (returnCode : OpentracingDynamicLoadErrorCode) (errorBufferLength : CInt) :
    LoadM OpentracingDynamicLoadErrorCode := do
  if returnCode ≠ .success then
    copyErrorM error errorBufferLength
    match (← get).handle.libHandle with
    | some lib =>
        liftLinker fun linker => ((), linker.dlclose dl lib)
        setLibHandle none
    | none => pure ()
  return returnCode

/-- The two build configurations: with `OPENTRACINGC_HAVE_WEAK_SYMBOLS` and without. -/
inductive Build
  | weakSymbols
  | noWeakSymbols
deriving DecidableEq

/-- `opentracing_dynamically_load_tracing_library`: the return code and the final state,
`none` when an assertion fails. `lib` and `handle` are non-NULL by the `NONNULL`
attribute. -/
def opentracingDynamicallyLoadTracingLibrary (build : Build) (dl : DlLibrary)
    (lib : CString) (handle : OpentracingLibraryHandle) (errorBuffer : Option Bytes)
    (errorBufferLength : CInt) (linker : LinkerState) :
    Option (OpentracingDynamicLoadErrorCode × LoadState) :=
  let program : LoadM OpentracingDynamicLoadErrorCode :=
    match build with
    | .weakSymbols => do
        assert (errorBuffer.isSome ∨ errorBufferLength.val = 0)
        let (error, returnCode) ← loadBody dl lib errorBufferLength
        cleanup dl error returnCode errorBufferLength
    | .noWeakSymbols => do
        copyErrorM (some noWeakSymbolMessage) errorBufferLength
        return .notSupported
  program.run { handle, errorBuffer, linker, copied := none }

end OpentracingC
