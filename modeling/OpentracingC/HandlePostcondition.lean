import OpentracingC.LoadStage

/-!
# The Handle after a Load

`dynamic_load.h` makes the handle an out parameter of the load, and the tests expect both
of its fields to be NULL after every failure. The code clears `lib_handle` at the label
`cleanup` but never `factory`: what the handle held before the call, or what a hook that
reports an error returned, stays there, although the library has been closed or was never
opened. `opentracing_library_handle_destroy` does not help, since it returns before
`handle->factory = NULL` when `lib_handle` is NULL.

`LoadClearsHandle` is the postcondition, `LoadStage.LeavesNoFactory` the condition under
which the code meets it, and `load_clears_handle_iff` their equivalence.
-/

open CMemory

namespace OpentracingC

/-- **The postcondition of a load**: after a return code other than success both fields of
the handle are NULL, and destroying the handle afterwards leaves both NULL whatever the
return code. -/
def LoadClearsHandle (build : Build) (dl : DlLibrary) (lib : CString)
    (handle : OpentracingLibraryHandle) (errorBuffer : Option Bytes) (errorBufferLength : CInt)
    (linker : LinkerState) : Prop :=
  ∀ returnCode s,
    opentracingDynamicallyLoadTracingLibrary build dl lib handle errorBuffer errorBufferLength
      linker = some (returnCode, s) →
    (returnCode ≠ .success → s.handle.libHandle = none ∧ s.handle.factory = none) ∧
    ∀ dl', (opentracingLibraryHandleDestroy dl' (some s.handle) s.linker).1 =
      some OpentracingLibraryHandle.null

/-- No factory is left behind at a stage: the handle held none before the call, where the
stage does not write the field, and the hook returned none, where it reported an error. -/
def LoadStage.LeavesNoFactory (stage : LoadStage) (handle : OpentracingLibraryHandle) : Prop :=
  match stage with
  | .unsupported => handle.libHandle = none ∧ handle.factory = none
  | .dlopenFailed _ => handle.factory = none
  | .hookMissing _ _ => handle.factory = none
  | .hookRejected _ result _ _ => result.factory = none
  | .factoryMissing _ _ => True
  | .loaded _ _ _ => True

/-- Destroying a handle without a library does nothing. -/
theorem destroy_eq_of_libHandle_none {handle : OpentracingLibraryHandle}
    (h : handle.libHandle = none) (dl : DlLibrary) (linker : LinkerState) :
    opentracingLibraryHandleDestroy dl (some handle) linker = (some handle, linker) := by
  simp [opentracingLibraryHandleDestroy, h]

/-- Destroying a handle with a library closes it and clears both fields. -/
theorem destroy_eq_of_libHandle_some {handle : OpentracingLibraryHandle} {lib : RawHandle}
    (h : handle.libHandle = some lib) (dl : DlLibrary) (linker : LinkerState) :
    opentracingLibraryHandleDestroy dl (some handle) linker =
      (some OpentracingLibraryHandle.null, linker.dlclose dl lib) := by
  simp [opentracingLibraryHandleDestroy, h, OpentracingLibraryHandle.null]

/-- A destroy clears both fields exactly when there is a library or no factory. -/
theorem destroy_fst_eq_null_iff {handle : OpentracingLibraryHandle} {dl : DlLibrary}
    {linker : LinkerState} :
    (opentracingLibraryHandleDestroy dl (some handle) linker).1 =
        some OpentracingLibraryHandle.null ↔
      handle.libHandle ≠ none ∨ handle.factory = none := by
  obtain ⟨factory, libHandle⟩ := handle
  cases libHandle with
  | none => simp [destroy_eq_of_libHandle_none, OpentracingLibraryHandle.null]
  | some lib => simp [opentracingLibraryHandleDestroy, OpentracingLibraryHandle.null]

/-- The postcondition, for the handle a stage leaves behind. -/
theorem LoadStage.leavesNoFactory_iff (stage : LoadStage) (handle : OpentracingLibraryHandle) :
    ((stage.returnCode ≠ .success →
        (stage.handle handle).libHandle = none ∧ (stage.handle handle).factory = none) ∧
      ((stage.handle handle).libHandle ≠ none ∨ (stage.handle handle).factory = none)) ↔
      stage.LeavesNoFactory handle := by
  cases stage with
  | unsupported =>
      constructor
      · intro h
        exact h.1 notSupported_ne_success
      · intro h
        exact ⟨fun _ => h, Or.inr h.2⟩
  | dlopenFailed text => simp +contextual [LoadStage.handle, LeavesNoFactory]
  | hookMissing lib text => simp +contextual [LoadStage.handle, LeavesNoFactory]
  | hookRejected lib result code hcode =>
      simp +contextual [LoadStage.handle, LeavesNoFactory]
  | factoryMissing lib result => simp [LoadStage.handle, LeavesNoFactory]
  | loaded lib result factory => simp [LoadStage.handle, LeavesNoFactory, returnCode]

variable {build : Build} {dl : DlLibrary} {lib : CString} {handle : OpentracingLibraryHandle}
  {errorBuffer : Option Bytes} {errorBufferLength : CInt} {linker : LinkerState}

/-- **A load clears the handle exactly when no factory is left behind.** -/
theorem load_clears_handle_iff (hadm : Admits build errorBuffer errorBufferLength) :
    LoadClearsHandle build dl lib handle errorBuffer errorBufferLength linker ↔
      (loadStage build dl lib errorBuffer errorBufferLength).LeavesNoFactory handle := by
  obtain ⟨s, hload, hend⟩ := load_eq dl lib handle linker hadm
  rw [← LoadStage.leavesNoFactory_iff, ← hend.handle_eq]
  simp only [LoadClearsHandle, hload, Option.some.injEq, Prod.mk.injEq,
    destroy_fst_eq_null_iff]
  constructor
  · intro h
    obtain ⟨hfail, hdestroy⟩ := h _ s ⟨rfl, rfl⟩
    exact ⟨hfail, hdestroy dl⟩
  · rintro ⟨hfail, hdestroy⟩ returnCode s' ⟨rfl, rfl⟩
    exact ⟨hfail, fun _ => hdestroy⟩

/-- A load clears a zeroed handle when the library is missing, and one with stale contents
when the hook reports success without a factory, or an error. -/
theorem load_clears_stale_handle :
    LoadClearsHandle .weakSymbols DlLibrary.absent libraryName OpentracingLibraryHandle.null none
        CInt.zero ⟨none, []⟩ ∧
      LoadClearsHandle .weakSymbols (DlLibrary.present 7 .success none) libraryName
        { factory := some 1, libHandle := some 5 } none CInt.zero ⟨none, []⟩ ∧
      LoadClearsHandle .weakSymbols
        (DlLibrary.present 7 .incompatibleLibraryVersions none) libraryName
        { factory := some 1, libHandle := some 5 } none CInt.zero ⟨none, []⟩ := by
  refine ⟨?_, ?_, ?_⟩
  · exact (load_clears_handle_iff fun _ => Or.inr rfl).mpr rfl
  · exact (load_clears_handle_iff fun _ => Or.inr rfl).mpr trivial
  · exact (load_clears_handle_iff fun _ => Or.inr rfl).mpr rfl

/-- A load does not clear the handle when `dlopen` fails and the handle still holds a
factory from an earlier use, nor, on a zeroed handle, when the hook reports an error and
returns a factory all the same. -/
theorem load_leaves_stale_factory :
    ¬ LoadClearsHandle .weakSymbols DlLibrary.absent libraryName
        { factory := some 1, libHandle := none } none CInt.zero ⟨none, []⟩ ∧
      ¬ LoadClearsHandle .weakSymbols
        (DlLibrary.present 7 .incompatibleLibraryVersions (some 1)) libraryName
        OpentracingLibraryHandle.null none CInt.zero ⟨none, []⟩ := by
  constructor
  · intro h
    exact absurd ((h _ _ rfl).1 (by decide)).2 (by decide)
  · intro h
    exact absurd ((h _ _ rfl).1 (by decide)).2 (by decide)

end OpentracingC
