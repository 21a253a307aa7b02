import OpentracingC.LoaderInterleaving

/-!
# Calls of the Loader within Calls

Code of the libraries runs inside the loader's calls: constructors while `dlopen` runs, the
hook, and destructors while `dlclose` runs. Nothing keeps that code from loading and
destroying tracing libraries itself.

A `LoaderScript` is a terminating program over the two functions, as the tree of its calls; a
call carries what the code of the libraries calls while it runs, again as scripts.
`LoaderScript.exec` follows the source statement by statement, so that the calls of a library
find the handles as they are in the middle of the outer call, and keeps the calls in the order
in which they return.

A constructor or a hook can destroy the handle its own library is loaded into. The linker then
unmaps the code that is running, and the process crashes when the destroy returns into it.
The model goes on there, and says so: `running` holds the libraries whose constructors and
hooks are running, and `intoClosed` those that a call returned into although their last
reference was closed.

Scripts whose libraries call nothing are the runs of `freeLoaderMachine`
(`LoaderScript.exec_ofCalls`), and a script whose buffers are admitted runs to its end
(`LoaderScript.exec_total`). `LoaderScript.AvoidsBusy` is the discipline of the libraries'
code under which nesting does no harm.
-/

open CMemory RefLedger

namespace OpentracingC

variable {H : Type*}

/-- A terminating program over the two functions of the loader. -/
inductive LoaderScript (H : Type*)
  | done
  /-- A load, during which the constructors, the hook and the destructors call; the rest
  depends on the return code. -/
  | load (dl : DlLibrary) (lib : CString) (h : H) (errorBuffer : Option Bytes)
      (errorBufferLength : CInt) (onOpen onHook onClose : LoaderScript H)
      (rest : OpentracingDynamicLoadErrorCode → LoaderScript H)
  /-- A destroy of a handle, or of NULL, during which the destructors call. -/
  | destroy (dl : DlLibrary) (h : Option H) (onClose rest : LoaderScript H)

/-- No call of a script is made on a handle in `busy`, nor on one whose hook or whose
`dlclose` is running. -/
def LoaderScript.AvoidsBusy : List H → LoaderScript H → Prop
  | _, .done => True
  | busy, .load _ _ h _ _ onOpen onHook onClose rest =>
      h ∉ busy ∧ onOpen.AvoidsBusy busy ∧ onHook.AvoidsBusy (h :: busy) ∧
        onClose.AvoidsBusy (h :: busy) ∧ ∀ code, (rest code).AvoidsBusy busy
  | busy, .destroy _ none _ rest => rest.AvoidsBusy busy
  | busy, .destroy _ (some h) onClose rest =>
      h ∉ busy ∧ onClose.AvoidsBusy (h :: busy) ∧ rest.AvoidsBusy busy

/-- A process in the middle of calls. -/
structure NestedState (H : Type*) extends LoaderState H where
  /-- The calls, in the order in which they returned. -/
  returned : List (LoaderCall H)
  /-- The libraries whose constructors or hook are running, the innermost first. -/
  running : List RawHandle
  /-- The running libraries that had no open reference when a call returned. -/
  intoClosed : List RawHandle

/-- A process before its first call. -/
def NestedState.of (t : LoaderState H) : NestedState H where
  toLoaderState := t
  returned := []
  running := []
  intoClosed := []

/-- A process with every handle zeroed and no call made. -/
def NestedState.start (H : Type*) (dlerrorText : Option CString) : NestedState H :=
  .of (LoaderState.start H dlerrorText)

/-- What the code of the libraries does when it runs; `none` is a failed assertion. -/
abbrev LibraryCode (H : Type*) := NestedState H → Option (NestedState H)

namespace NestedState

/-- A linker call. -/
def withLinker (s : NestedState H) (linker : LinkerState) : NestedState H :=
  { s with linker }

@[simp] theorem handles_withLinker (s : NestedState H) (linker : LinkerState) :
    (s.withLinker linker).handles = s.handles := rfl

@[simp] theorem linker_withLinker (s : NestedState H) (linker : LinkerState) :
    (s.withLinker linker).linker = linker := rfl

@[simp] theorem overwritten_withLinker (s : NestedState H) (linker : LinkerState) :
    (s.withLinker linker).overwritten = s.overwritten := rfl

/-- The constructors or the hook of a library begin or end. -/
def withRunning (s : NestedState H) (running : List RawHandle) : NestedState H :=
  { s with running }

@[simp] theorem handles_withRunning (s : NestedState H) (running : List RawHandle) :
    (s.withRunning running).handles = s.handles := rfl

@[simp] theorem linker_withRunning (s : NestedState H) (running : List RawHandle) :
    (s.withRunning running).linker = s.linker := rfl

@[simp] theorem running_withRunning (s : NestedState H) (running : List RawHandle) :
    (s.withRunning running).running = running := rfl

/-- The hook of a library begins. -/
def enterHook (s : NestedState H) (lib : RawHandle) : NestedState H :=
  s.withLinker ⟨s.linker.dlerrorText, s.linker.events ++ [.hook lib]⟩

/-- The running libraries without an open reference. -/
def closedRunning (s : NestedState H) : List RawHandle :=
  s.running.filter fun lib => !decide (Held (refs s.linker.events) lib)

/-- A call returns, into whatever is running. -/
def returns (s : NestedState H) (call : LoaderCall H)
    (lastLoad : Option (H × OpentracingDynamicLoadErrorCode)) : NestedState H :=
  { s with
    lastLoad
    returned := s.returned ++ [call]
    intoClosed := s.intoClosed ++ s.closedRunning }

variable [DecidableEq H]

/-- `handle->lib_handle = lib`. -/
def setLibHandle (s : NestedState H) (h : H) (lib : Option RawHandle) : NestedState H :=
  { s with handles := Function.update s.handles h { s.handles h with libHandle := lib } }

/-- `handle->lib_handle = dlopen(lib, flags)`, after `dlopen` has returned: what the handle
held is dropped. -/
def storeOpened (s : NestedState H) (h : H) (lib : Option RawHandle) : NestedState H :=
  { s.setLibHandle h lib with
    overwritten := (s.handles h).libHandle.toList ++ s.overwritten }

/-- `handle->factory = factory`. -/
def setFactory (s : NestedState H) (h : H) (factory : Option OpentracingTracerFactory) :
    NestedState H :=
  { s with handles := Function.update s.handles h { s.handles h with factory := factory } }

@[simp] theorem handles_setLibHandle_self (s : NestedState H) (h : H) (lib : Option RawHandle) :
    (s.setLibHandle h lib).handles h = { s.handles h with libHandle := lib } :=
  Function.update_self _ _ _

@[simp] theorem handles_storeOpened_self (s : NestedState H) (h : H) (lib : Option RawHandle) :
    (s.storeOpened h lib).handles h = { s.handles h with libHandle := lib } :=
  Function.update_self _ _ _

@[simp] theorem handles_setFactory_self (s : NestedState H) (h : H)
    (factory : Option OpentracingTracerFactory) :
    (s.setFactory h factory).handles h = { s.handles h with factory := factory } :=
  Function.update_self _ _ _

/-- The load up to the label `cleanup`: the return code, and the process. -/
def loadBody (dl : DlLibrary) (lib : CString) (h : H) (errorBuffer : Option Bytes)
    (errorBufferLength : CInt) (onOpen onHook : LibraryCode H) (s : NestedState H) :
    Option (OpentracingDynamicLoadErrorCode × NestedState H) := do
  let running := s.running
  let (libHandle, linker) := s.linker.dlopen dl lib [.rtldNow, .rtldLocal]
  let s ← onOpen ((s.withLinker linker).withRunning (libHandle.toList ++ running))
  let s := (s.withRunning running).storeOpened h libHandle
  match libHandle with
  | none => return (.failure, s.withLinker s.linker.dlerror.2)
  | some libHandle =>
      let s := s.withLinker s.linker.dlerror.2
      let (makeTracerFactory, linker) := s.linker.dlsym dl libHandle makeTracerFactorySymbol
      let s := s.withLinker linker
      match makeTracerFactory with
      | none => return (.failure, s.withLinker s.linker.dlerror.2)
      | some makeTracerFactory =>
          let result := makeTracerFactory opentracingcVersionString errorBuffer errorBufferLength
          let s ← onHook ((s.enterHook libHandle).withRunning (libHandle :: running))
          let s := ((s.withRunning running).setFactory h result.factory).withLinker
            ⟨result.dlerrorText, s.linker.events⟩
          let returnCode := result.returnCode.getD .success
          if returnCode ≠ 0 then
            return (returnCode, s)
          else if (s.handles h).factory = none then
            return (.failure, s)
          else
            return (returnCode, s)

/-- The load behind the label `cleanup`; `lib_handle` is read again. -/
def cleanup (dl : DlLibrary) (h : H) (onClose : LibraryCode H)
    (returnCode : OpentracingDynamicLoadErrorCode) (s : NestedState H) :
    Option (NestedState H) :=
  if returnCode ≠ .success then
    match (s.handles h).libHandle with
    | some lib => do
        let s ← onClose (s.withLinker (s.linker.dlclose dl lib))
        return s.setLibHandle h none
    | none => some s
  else
    some s

/-- `opentracing_dynamically_load_tracing_library` on the handle `h`: the return code, and
the process. -/
def load (build : Build) (dl : DlLibrary) (lib : CString) (h : H) (errorBuffer : Option Bytes)
    (errorBufferLength : CInt) (onOpen onHook onClose : LibraryCode H) (s : NestedState H) :
    Option (OpentracingDynamicLoadErrorCode × NestedState H) :=
  let call := LoaderCall.load dl lib h errorBuffer errorBufferLength
  match build with
  | .weakSymbols =>
      if errorBuffer.isSome ∨ errorBufferLength.val = 0 then do
        let (returnCode, s) ← loadBody dl lib h errorBuffer errorBufferLength onOpen onHook s
        let s ← cleanup dl h onClose returnCode s
        return (returnCode, s.returns call (some (h, returnCode)))
      else
        none
  | .noWeakSymbols => some (.notSupported, s.returns call (some (h, .notSupported)))

/-- `opentracing_library_handle_destroy` on the handle `h`, or on NULL. -/
def destroy (dl : DlLibrary) (h : Option H) (onClose : LibraryCode H) (s : NestedState H) :
    Option (NestedState H) :=
  match h with
  | none => some (s.returns (.destroy dl none) none)
  | some h =>
      match (s.handles h).libHandle with
      | none => some (s.returns (.destroy dl (some h)) none)
      | some lib => do
          let s := s.setFactory h none
          let s ← onClose (s.withLinker (s.linker.dlclose dl lib))
          return (s.setLibHandle h none).returns (.destroy dl (some h)) none

end NestedState

/-- The run of a script, `none` when an assertion fails. -/
def LoaderScript.exec [DecidableEq H] (build : Build) : LoaderScript H → LibraryCode H
  | .done, s => some s
  | .load dl lib h errorBuffer errorBufferLength onOpen onHook onClose rest, s => do
      let (returnCode, s) ← s.load build dl lib h errorBuffer errorBufferLength
        (onOpen.exec build) (onHook.exec build) (onClose.exec build)
      (rest returnCode).exec build s
  | .destroy dl h onClose rest, s => do
      let s ← s.destroy dl h (onClose.exec build)
      rest.exec build s

/-! ### The statements of a load, run -/

namespace NestedState

variable [DecidableEq H] {build : Build} {dl : DlLibrary} {lib : CString} {h : H}
  {raw : RawHandle} {errorBuffer : Option Bytes} {errorBufferLength : CInt}
  {onOpen onHook onClose : LibraryCode H} {s s' : NestedState H}

/-- The body of a load when `dlopen` fails. -/
theorem loadBody_of_dlopenFailed {text : CString}
    (hopen : dl.dlopen lib [.rtldNow, .rtldLocal] = .failed text) :
    loadBody dl lib h errorBuffer errorBufferLength onOpen onHook s =
      (onOpen ((s.withLinker ⟨some text, s.linker.events ++ [.dlopen none]⟩).withRunning
          s.running)).bind fun s₁ =>
        some (.failure, ((s₁.withRunning s.running).storeOpened h none).withLinker
          ⟨none, s₁.linker.events ++ [.dlerror]⟩) := by
  simp only [loadBody, LinkerState.dlopen, hopen]
  rfl

/-- The body of a load when `dlsym` returns NULL. -/
theorem loadBody_of_hookMissing {pending text : Option CString}
    (hopen : dl.dlopen lib [.rtldNow, .rtldLocal] = .opened raw pending)
    (hsym : dl.dlsym raw makeTracerFactorySymbol = .null text) :
    loadBody dl lib h errorBuffer errorBufferLength onOpen onHook s =
      (onOpen ((s.withLinker ⟨pending, s.linker.events ++ [.dlopen (some raw)]⟩).withRunning
          (raw :: s.running))).bind fun s₁ =>
        some (.failure, ((s₁.withRunning s.running).storeOpened h (some raw)).withLinker
          ⟨none, s₁.linker.events ++ [.dlerror, .dlsym raw, .dlerror]⟩) := by
  simp only [loadBody, LinkerState.dlopen, hopen, LinkerState.dlsym, hsym]
  simp [LinkerState.dlerror, withLinker, storeOpened, setLibHandle, withRunning]

/-- The body of a load when the hook is called. -/
theorem loadBody_of_hookCalled {pending : Option CString} {hook : MakeTracerFactory}
    (hopen : dl.dlopen lib [.rtldNow, .rtldLocal] = .opened raw pending)
    (hsym : dl.dlsym raw makeTracerFactorySymbol = .found hook) :
    let result := hook opentracingcVersionString errorBuffer errorBufferLength
    loadBody dl lib h errorBuffer errorBufferLength onOpen onHook s =
      (onOpen ((s.withLinker ⟨pending, s.linker.events ++ [.dlopen (some raw)]⟩).withRunning
          (raw :: s.running))).bind fun s₁ =>
        (onHook ((((s₁.withRunning s.running).storeOpened h (some raw)).withLinker
            ⟨none, s₁.linker.events ++ [.dlerror, .dlsym raw, .hook raw]⟩).withRunning
          (raw :: s.running))).bind fun s₂ =>
          some ((hookStage raw result).returnCode,
            ((s₂.withRunning s.running).setFactory h result.factory).withLinker
              ⟨result.dlerrorText, s₂.linker.events⟩) := by
  intro result
  simp only [loadBody, LinkerState.dlopen, hopen, LinkerState.dlsym, hsym, result]
  generalize hook opentracingcVersionString errorBuffer errorBufferLength = result
  simp only [hookStage]
  by_cases hcode : result.returnCode.getD .success = .success
  · have hzero : ¬ result.returnCode.getD OpentracingDynamicLoadErrorCode.success ≠ 0 :=
      not_not.mpr hcode
    simp only [dif_neg (not_not.mpr hcode), if_neg hzero]
    cases hfactory : result.factory with
    | none =>
        simp [LinkerState.dlerror, withLinker, storeOpened, setLibHandle, enterHook, setFactory,
          withRunning, LoadStage.returnCode]
    | some factory =>
        simp [LinkerState.dlerror, withLinker, storeOpened, setLibHandle, enterHook, setFactory,
          withRunning, LoadStage.returnCode, hcode]
  · have hnonzero : result.returnCode.getD OpentracingDynamicLoadErrorCode.success ≠ 0 := hcode
    simp only [dif_pos hcode, if_pos hnonzero]
    simp [LinkerState.dlerror, withLinker, storeOpened, setLibHandle, enterHook, setFactory,
      withRunning, LoadStage.returnCode]

/-- Behind the label `cleanup`, success leaves everything as it is. -/
theorem cleanup_success : cleanup dl h onClose .success s = some s :=
  if_neg (not_not.mpr rfl)

/-- Behind the label `cleanup`, a handle without a library is left as it is. -/
theorem cleanup_of_libHandle_none (code : OpentracingDynamicLoadErrorCode)
    (hs : (s.handles h).libHandle = none) : cleanup dl h onClose code s = some s := by
  simp only [cleanup, hs, ite_self]

/-- Behind the label `cleanup`, a failure closes the library of the handle. -/
theorem cleanup_of_libHandle_some {code : OpentracingDynamicLoadErrorCode}
    (hcode : code ≠ .success) (hs : (s.handles h).libHandle = some raw) :
    cleanup dl h onClose code s =
      (onClose (s.withLinker (s.linker.dlclose dl raw))).map fun s₁ =>
        s₁.setLibHandle h none := by
  simp only [cleanup, if_pos hcode, hs, Option.map_eq_bind]
  rfl

/-- The steps of a load that returned, in a build with weak symbols. -/
theorem load_eq_some_iff {code : OpentracingDynamicLoadErrorCode} :
    s.load .weakSymbols dl lib h errorBuffer errorBufferLength onOpen onHook onClose =
        some (code, s') ↔
      Admits .weakSymbols errorBuffer errorBufferLength ∧ ∃ s₁ s₂,
        loadBody dl lib h errorBuffer errorBufferLength onOpen onHook s = some (code, s₁) ∧
          cleanup dl h onClose code s₁ = some s₂ ∧
          s' = s₂.returns (.load dl lib h errorBuffer errorBufferLength) (some (h, code)) := by
  by_cases hadm : errorBuffer.isSome ∨ errorBufferLength.val = 0
  · simp only [load, if_pos hadm, Option.bind_eq_bind, Option.bind_eq_some_iff, Prod.exists,
      Option.pure_def, Option.some.injEq, Prod.mk.injEq]
    constructor
    · rintro ⟨code, s₁, hbody, s₂, hcleanup, rfl, rfl⟩
      exact ⟨fun _ => hadm, s₁, s₂, hbody, hcleanup, rfl⟩
    · rintro ⟨-, s₁, s₂, hbody, hcleanup, rfl⟩
      exact ⟨code, s₁, hbody, s₂, hcleanup, rfl, rfl⟩
  · simp [load, Admits, hadm]

/-- Destroying a handle that holds no library. -/
theorem destroy_of_libHandle_none (hs : (s.handles h).libHandle = none) :
    s.destroy dl (some h) onClose = some (s.returns (.destroy dl (some h)) none) := by
  simp only [destroy, hs]

/-- Destroying a handle that holds a library: the destructors find `lib_handle` as it was. -/
theorem destroy_of_libHandle_some (hs : (s.handles h).libHandle = some raw) :
    s.destroy dl (some h) onClose =
      (onClose ((s.setFactory h none).withLinker (s.linker.dlclose dl raw))).map fun s₁ =>
        (s₁.setLibHandle h none).returns (.destroy dl (some h)) none := by
  simp only [destroy, hs, Option.map_eq_bind]
  rfl

end NestedState

/-! ### Scripts without callbacks -/

/-- The script that makes calls one after another, with libraries that call nothing. -/
def LoaderScript.ofCalls : List (LoaderCall H) → LoaderScript H
  | [] => .done
  | .load dl lib h errorBuffer errorBufferLength :: calls =>
      .load dl lib h errorBuffer errorBufferLength .done .done .done fun _ => ofCalls calls
  | .destroy dl h :: calls => .destroy dl h .done (ofCalls calls)

section

variable [DecidableEq H]

namespace NestedState

variable {dl : DlLibrary} {lib : CString} {raw : RawHandle} {errorBuffer : Option Bytes}
  {errorBufferLength : CInt}

/-- What the load of `DynamicLoad` leaves, in a process in the middle of calls. -/
def loaded (s : NestedState H) (h : H) (r : LoadState) : NestedState H :=
  { s with
    handles := Function.update s.handles h r.handle
    linker := r.linker
    overwritten := (s.handles h).libHandle.toList ++ s.overwritten }

/-- A load up to the label `cleanup` whose libraries call nothing, beside the one of
`DynamicLoad`: it returns the same code, and leaves what that leaves. -/
def BodyAgrees (dl : DlLibrary) (lib : CString) (h : H) (errorBuffer : Option Bytes)
    (errorBufferLength : CInt) (s : NestedState H) (code : OpentracingDynamicLoadErrorCode) :
    Prop :=
  ∃ error r, (OpentracingC.loadBody dl lib errorBufferLength).run
      ⟨s.handles h, errorBuffer, s.linker, none⟩ = some ((error, code), r) ∧
    r.copied = none ∧
    loadBody dl lib h errorBuffer errorBufferLength some some s = some (code, s.loaded h r)

/-- When `dlopen` fails. -/
theorem bodyAgrees_of_dlopenFailed {text : CString}
    (hopen : dl.dlopen lib [.rtldNow, .rtldLocal] = .failed text) (h : H) (s : NestedState H) :
    s.BodyAgrees dl lib h errorBuffer errorBufferLength .failure := by
  rw [BodyAgrees, loadBody_of_dlopenFailed hopen]
  simp only [OpentracingC.loadBody, StateT.run_bind, liftLinker_run, LinkerState.dlopen, hopen,
    setLibHandle_run, StateT.run_pure, Option.bind_eq_bind, Option.bind_some, Option.pure_def]
  exact ⟨_, _, rfl, rfl, rfl⟩

/-- When `dlsym` finds no hook. -/
theorem bodyAgrees_of_hookMissing {pending text : Option CString}
    (hopen : dl.dlopen lib [.rtldNow, .rtldLocal] = .opened raw pending)
    (hsym : dl.dlsym raw makeTracerFactorySymbol = .null text) (h : H) (s : NestedState H) :
    s.BodyAgrees dl lib h errorBuffer errorBufferLength .failure := by
  rw [BodyAgrees, loadBody_of_hookMissing hopen hsym]
  simp only [OpentracingC.loadBody, StateT.run_bind, liftLinker_run, LinkerState.dlopen, hopen,
    setLibHandle_run, LinkerState.dlsym, hsym, StateT.run_pure, Option.bind_eq_bind,
    Option.bind_some, Option.pure_def]
  refine ⟨_, _, rfl, rfl, ?_⟩
  simp [loaded, storeOpened, setLibHandle, withLinker, withRunning, LinkerState.dlerror]

/-- When the hook is called. -/
theorem bodyAgrees_of_hookCalled {pending : Option CString} {hook : MakeTracerFactory}
    (hopen : dl.dlopen lib [.rtldNow, .rtldLocal] = .opened raw pending)
    (hsym : dl.dlsym raw makeTracerFactorySymbol = .found hook) (h : H) (s : NestedState H) :
    s.BodyAgrees dl lib h errorBuffer errorBufferLength
      (hookStage raw
        (hook opentracingcVersionString errorBuffer errorBufferLength)).returnCode := by
  rw [BodyAgrees, loadBody_of_hookCalled hopen hsym]
  simp only [OpentracingC.loadBody, StateT.run_bind, liftLinker_run, LinkerState.dlopen, hopen,
    setLibHandle_run, LinkerState.dlsym, hsym, callMakeTracerFactory_run, Option.bind_eq_bind,
    Option.bind_some]
  generalize hook opentracingcVersionString errorBuffer errorBufferLength = result
  -- whatever the hook reports, the handle has the library and what the hook returned
  refine ⟨(hookStage raw result).error,
    { handle := ⟨result.factory, some raw⟩
      errorBuffer := errorBuffer.map fun _ => result.errorBuffer
      linker := ⟨result.dlerrorText,
        s.linker.events ++ [.dlopen (some raw), .dlerror, .dlsym raw, .hook raw]⟩
      copied := none }, ?_, rfl, ?_⟩
  · by_cases hcode : result.returnCode.getD .success = .success
    · have hzero : ¬ result.returnCode.getD OpentracingDynamicLoadErrorCode.success ≠ 0 :=
        not_not.mpr hcode
      rw [if_neg hzero]
      cases hfactory : result.factory <;>
        simp [hookStage, hcode, hfactory, LoadStage.error, LoadStage.returnCode,
          LinkerState.dlerror]
    · have hnonzero : result.returnCode.getD OpentracingDynamicLoadErrorCode.success ≠ 0 := hcode
      rw [if_pos hnonzero]
      simp [hookStage, hcode, LoadStage.error, LoadStage.returnCode, LinkerState.dlerror]
  · simp [loaded, storeOpened, setLibHandle, setFactory, withLinker, withRunning]

/-- The body of a load whose libraries call nothing is the one of `DynamicLoad`. -/
theorem bodyAgrees (dl : DlLibrary) (lib : CString) (h : H) (errorBuffer : Option Bytes)
    (errorBufferLength : CInt) (s : NestedState H) :
    s.BodyAgrees dl lib h errorBuffer errorBufferLength
      (loadStage .weakSymbols dl lib errorBuffer errorBufferLength).returnCode := by
  simp only [loadStage]
  cases hopen : dl.dlopen lib [.rtldNow, .rtldLocal] with
  | failed text => exact bodyAgrees_of_dlopenFailed hopen h s
  | opened raw pending =>
      simp only
      cases hsym : dl.dlsym raw makeTracerFactorySymbol with
      | null text => exact bodyAgrees_of_hookMissing hopen hsym h s
      | found hook => exact bodyAgrees_of_hookCalled hopen hsym h s

/-- The rest of a load whose destructors call nothing is that of `DynamicLoad`. -/
theorem cleanup_quiet (dl : DlLibrary) (h : H) (error : Option CString)
    (code : OpentracingDynamicLoadErrorCode) (errorBufferLength : CInt) {r : LoadState}
    (hcopied : r.copied = none) (s : NestedState H) :
    ∃ r', (OpentracingC.cleanup dl error code errorBufferLength).run r = some (code, r') ∧
      cleanup dl h some code (s.loaded h r) = some (s.loaded h r') := by
  by_cases hcode : code = .success
  · subst hcode
    exact ⟨r, cleanup_run_success dl error errorBufferLength r, cleanup_success⟩
  · refine ⟨_, cleanup_run_failure dl error errorBufferLength hcode hcopied, ?_⟩
    have hhandle : (s.loaded h r).handles h = r.handle := Function.update_self _ _ _
    cases hlib : r.handle.libHandle with
    | none =>
        rw [cleanup_of_libHandle_none code (by rw [hhandle, hlib])]
        obtain ⟨⟨factory, libHandle⟩, buffer, linker, copied⟩ := r
        obtain rfl : libHandle = none := hlib
        rfl
    | some raw =>
        rw [cleanup_of_libHandle_some hcode (by rw [hhandle, hlib])]
        simp [loaded, setLibHandle, withLinker, closeHandle]

/-- **A load during which the libraries call nothing** is the load of `DynamicLoad`. -/
theorem load_quiet (build : Build) (dl : DlLibrary) (lib : CString) (h : H)
    (errorBuffer : Option Bytes) (errorBufferLength : CInt) (s : NestedState H) :
    s.load build dl lib h errorBuffer errorBufferLength some some some =
      (s.toLoaderState.load build dl lib h errorBuffer errorBufferLength).map fun t =>
        ((loadStage build dl lib errorBuffer errorBufferLength).returnCode,
          ({ s with toLoaderState := t } : NestedState H).returns
            (.load dl lib h errorBuffer errorBufferLength) t.lastLoad) := by
  cases build with
  | noWeakSymbols =>
      simp [load, LoaderState.load, opentracingDynamicallyLoadTracingLibrary, copyErrorM_run,
        returns, closedRunning, droppedBy, loadStage, LoadStage.returnCode]
  | weakSymbols =>
      by_cases hadm : Admits .weakSymbols errorBuffer errorBufferLength
      · obtain ⟨error, r, hrun, hcopied, hbody⟩ :=
          s.bodyAgrees dl lib h errorBuffer errorBufferLength
        obtain ⟨r', hrun', hcleanup⟩ := cleanup_quiet dl h error
          (loadStage .weakSymbols dl lib errorBuffer errorBufferLength).returnCode
          errorBufferLength hcopied s
        rw [load_eq_some_iff.mpr ⟨hadm, _, _, hbody, hcleanup, rfl⟩, LoaderState.load,
          load_eq_body_bind_cleanup hadm, hrun, Option.bind_some, hrun']
        rfl
      · have hassert := hadm
        simp only [Admits, forall_const] at hassert
        simp only [load, if_neg hassert, LoaderState.load, load_eq_none hadm, Option.map_none]

/-- A destroy during which the libraries call nothing is the destroy of `DynamicLoad`. -/
theorem destroy_quiet (dl : DlLibrary) (h : Option H) (s : NestedState H) :
    s.destroy dl h some =
      some (({ s with toLoaderState := s.toLoaderState.destroy dl h } : NestedState H).returns
        (.destroy dl h) none) := by
  rcases h with _ | h
  · rfl
  · cases hs : (s.handles h).libHandle with
    | none =>
        simp only [destroy, hs, LoaderState.destroy_of_slots_none hs]
        rfl
    | some raw =>
        rw [destroy_of_libHandle_some hs, LoaderState.destroy_of_slots_some hs]
        have hhandles : (((s.setFactory h none).withLinker (s.linker.dlclose dl raw)).setLibHandle h
            none).handles = Function.update s.handles h OpentracingLibraryHandle.null := by
          simp [setFactory, withLinker, setLibHandle, OpentracingLibraryHandle.null]
        simp only [Option.map_some, returns, ← hhandles]
        rfl

omit [DecidableEq H] in
/-- A call that nothing waits for returns into nothing. -/
theorem returns_of_running_nil {s : NestedState H} (hs : s.running = []) (call : LoaderCall H)
    (lastLoad : Option (H × OpentracingDynamicLoadErrorCode)) :
    s.returns call lastLoad = { s with lastLoad, returned := s.returned ++ [call] } := by
  simp [returns, closedRunning, hs]

end NestedState

/-- **Scripts without callbacks are runs of the free loader.** -/
theorem LoaderScript.exec_ofCalls (build : Build) (calls : List (LoaderCall H))
    {s : NestedState H} (hs : s.running = []) (s' : NestedState H) :
    (ofCalls calls).exec build s = some s' ↔
      (freeLoaderMachine build H).Run s.toLoaderState calls s'.toLoaderState ∧
        s'.returned = s.returned ++ calls ∧ s'.running = [] ∧ s'.intoClosed = s.intoClosed := by
  induction calls generalizing s with
  | nil =>
      simp only [ofCalls, exec, Option.some.injEq, List.append_nil]
      constructor
      · rintro rfl
        exact ⟨.nil _, rfl, hs, rfl⟩
      · rintro ⟨hrun, hreturned, hrunning, hclosed⟩
        obtain ⟨t, returned, running, intoClosed⟩ := s
        obtain ⟨t', returned', running', intoClosed'⟩ := s'
        cases hrun
        obtain rfl : returned' = returned := hreturned
        obtain rfl : running = running' := hs.trans hrunning.symm
        obtain rfl : intoClosed' = intoClosed := hclosed
        rfl
  | cons call calls ih =>
      -- the first call is a step of the machine
      have hstep : (ofCalls (call :: calls)).exec build s =
          ((freeLoaderMachine build H).step s.toLoaderState call).bind fun t =>
            (ofCalls calls).exec build
              { s with toLoaderState := t, returned := s.returned ++ [call] } := by
        cases call with
        | load dl lib h errorBuffer errorBufferLength =>
            simp only [ofCalls, exec, NestedState.load_quiet, Option.bind_eq_bind,
              Option.bind_map]
            refine Option.bind_congr fun t _ => ?_
            exact congrArg _
              (NestedState.returns_of_running_nil (s := { s with toLoaderState := t }) hs _ _)
        | destroy dl h =>
            simp only [ofCalls, exec, NestedState.destroy_quiet, Option.bind_eq_bind,
              Option.bind_some]
            refine congrArg _ ((NestedState.returns_of_running_nil
              (s := { s with toLoaderState := s.toLoaderState.destroy dl h }) hs _ _).trans ?_)
            cases h <;> rfl
      simp only [hstep, Option.bind_eq_some_iff]
      constructor
      · rintro ⟨t, ht, hexec⟩
        obtain ⟨hrun, hreturned, hrest⟩ :=
          (ih (s := { s with toLoaderState := t, returned := s.returned ++ [call] }) hs).mp hexec
        refine ⟨.cons trivial ht hrun, ?_, hrest⟩
        rw [hreturned, List.append_assoc, List.singleton_append]
      · rintro ⟨hrun, hreturned, hrest⟩
        cases hrun with
        | cons _ ht hrun =>
            refine ⟨_, ht, (ih
              (s := { s with toLoaderState := _, returned := s.returned ++ [call] }) hs).mpr
                ⟨hrun, ?_, hrest⟩⟩
            rw [hreturned, List.append_assoc, List.singleton_append]

end

/-! ### Admitted scripts return -/

/-- The buffers of every load of a script are admitted. -/
def LoaderScript.Admitted (build : Build) : LoaderScript H → Prop
  | .done => True
  | .load _ _ _ errorBuffer errorBufferLength onOpen onHook onClose rest =>
      Admits build errorBuffer errorBufferLength ∧ onOpen.Admitted build ∧
        onHook.Admitted build ∧ onClose.Admitted build ∧ ∀ code, (rest code).Admitted build
  | .destroy _ _ onClose rest => onClose.Admitted build ∧ rest.Admitted build

/-- Code that runs to its end, from wherever it is started. -/
def LibraryCode.Total (code : LibraryCode H) : Prop :=
  ∀ s, ∃ s', code s = some s'

section

variable [DecidableEq H] {build : Build} {dl : DlLibrary} {lib : CString} {h : H}
  {errorBuffer : Option Bytes} {errorBufferLength : CInt} {onOpen onHook onClose : LibraryCode H}

namespace NestedState

/-- The body of a load returns. -/
theorem exists_loadBody (dl : DlLibrary) (lib : CString) (hopen : onOpen.Total)
    (hhook : onHook.Total) (s : NestedState H) :
    ∃ r, loadBody dl lib h errorBuffer errorBufferLength onOpen onHook s = some r := by
  cases hanswer : dl.dlopen lib [.rtldNow, .rtldLocal] with
  | failed text =>
      rw [loadBody_of_dlopenFailed hanswer]
      obtain ⟨s₁, h₁⟩ := hopen
        ((s.withLinker ⟨some text, s.linker.events ++ [.dlopen none]⟩).withRunning s.running)
      exact ⟨_, by rw [h₁]; rfl⟩
  | opened raw pending =>
      obtain ⟨s₁, h₁⟩ := hopen
        ((s.withLinker ⟨pending, s.linker.events ++ [.dlopen (some raw)]⟩).withRunning
          (raw :: s.running))
      cases hsym : dl.dlsym raw makeTracerFactorySymbol with
      | null text =>
          rw [loadBody_of_hookMissing hanswer hsym]
          exact ⟨_, by rw [h₁]; rfl⟩
      | found hook =>
          rw [loadBody_of_hookCalled hanswer hsym]
          obtain ⟨s₂, h₂⟩ := hhook
            ((((s₁.withRunning s.running).storeOpened h (some raw)).withLinker
              ⟨none, s₁.linker.events ++ [.dlerror, .dlsym raw, .hook raw]⟩).withRunning
                (raw :: s.running))
          exact ⟨_, by rw [h₁, Option.bind_some, h₂]; rfl⟩

/-- The rest of a load returns. -/
theorem exists_cleanup (hclose : onClose.Total) (returnCode : OpentracingDynamicLoadErrorCode)
    (s : NestedState H) : ∃ s', cleanup dl h onClose returnCode s = some s' := by
  by_cases hcode : returnCode = .success
  · subst hcode
    exact ⟨s, cleanup_success⟩
  · cases hs : (s.handles h).libHandle with
    | none => exact ⟨s, cleanup_of_libHandle_none returnCode hs⟩
    | some raw =>
        obtain ⟨s₁, h₁⟩ := hclose (s.withLinker (s.linker.dlclose dl raw))
        exact ⟨_, by rw [cleanup_of_libHandle_some hcode hs, h₁]; rfl⟩

/-- A load whose buffer is admitted returns. -/
theorem exists_load (dl : DlLibrary) (lib : CString) (h : H)
    (hadm : Admits build errorBuffer errorBufferLength) (hopen : onOpen.Total)
    (hhook : onHook.Total) (hclose : onClose.Total) (s : NestedState H) :
    ∃ r, s.load build dl lib h errorBuffer errorBufferLength onOpen onHook onClose = some r := by
  cases build with
  | noWeakSymbols => exact ⟨_, rfl⟩
  | weakSymbols =>
      obtain ⟨⟨code, s₁⟩, h₁⟩ := exists_loadBody dl lib hopen hhook s
      obtain ⟨s₂, h₂⟩ := exists_cleanup hclose code s₁
      exact ⟨_, load_eq_some_iff.mpr ⟨hadm, s₁, s₂, h₁, h₂, rfl⟩⟩

/-- A destroy returns. -/
theorem exists_destroy (dl : DlLibrary) (h : Option H) (hclose : onClose.Total)
    (s : NestedState H) :
    ∃ s', s.destroy dl h onClose = some s' := by
  rcases h with _ | h
  · exact ⟨_, rfl⟩
  · cases hs : (s.handles h).libHandle with
    | none => exact ⟨_, destroy_of_libHandle_none hs⟩
    | some raw =>
        obtain ⟨s₁, h₁⟩ := hclose ((s.setFactory h none).withLinker (s.linker.dlclose dl raw))
        exact ⟨_, by rw [destroy_of_libHandle_some hs, h₁]; rfl⟩

end NestedState

/-- A script whose buffers are admitted returns. -/
theorem LoaderScript.exec_total {script : LoaderScript H} (hadm : script.Admitted build) :
    LibraryCode.Total (script.exec build) := by
  induction script with
  | done => exact fun s => ⟨s, rfl⟩
  | load dl lib h errorBuffer errorBufferLength onOpen onHook onClose rest ihOpen ihHook ihClose
      ihRest =>
      obtain ⟨hload, hopen, hhook, hclose, hrest⟩ := hadm
      intro s
      obtain ⟨⟨code, s₁⟩, h₁⟩ := NestedState.exists_load dl lib h hload
        (ihOpen hopen) (ihHook hhook) (ihClose hclose) s
      obtain ⟨s', h'⟩ := ihRest code (hrest code) s₁
      exact ⟨s', by rw [exec, h₁]; exact h'⟩
  | destroy dl h onClose rest ihClose ihRest =>
      obtain ⟨hclose, hrest⟩ := hadm
      intro s
      obtain ⟨s₁, h₁⟩ := NestedState.exists_destroy dl h (ihClose hclose) s
      obtain ⟨s', h'⟩ := ihRest hrest s₁
      exact ⟨s', by rw [exec, h₁]; exact h'⟩

end

/-! ### A sample script -/

/-- A library is loaded whose constructor loads another library into the same handle, and whose
hook loads a third one into the other handle; then both handles are destroyed, the second from
the destructor of the first. -/
def nestedScript : LoaderScript Bool :=
  .load (DlLibrary.present 7 .success (some 1)) libraryName true none CInt.zero
    (.load (DlLibrary.present 8 .success (some 2)) libraryName true none CInt.zero .done .done
      .done fun _ => .done)
    (.load (DlLibrary.present 9 .success (some 3)) libraryName false none CInt.zero .done .done
      .done fun _ => .done)
    .done fun _ =>
      .destroy DlLibrary.absent (some true)
        (.destroy DlLibrary.absent (some false) .done .done) .done

theorem nestedScript_admitted : nestedScript.Admitted .weakSymbols := by
  have hnone : Admits .weakSymbols none CInt.zero := fun _ => Or.inr rfl
  simp [nestedScript, LoaderScript.Admitted, hnone]

end OpentracingC
