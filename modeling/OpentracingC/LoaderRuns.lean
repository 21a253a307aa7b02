import OpentracingC.HandlePostcondition
import OpentracingC.Lib.Machine
import OpentracingC.Lib.RefLedger

/-!
# Runs of the Loader

Any number of handles share one dynamic linker. `LoaderState` is the state of a process
that loads and destroys them, and the events of its linker, read as a reference ledger
(`refs`), say which libraries are open: a `dlopen` adds a reference, a `dlclose` removes
one, and a `dlsym`, a hook, a factory or a destroy method of a tracer runs inside its
library.

The handles are the slots of that ledger. `LoaderInv` says that the ledger is covered and
that every open reference is either held by a handle or was lost when a load overwrote a
handle that still held it (`overwritten`). Every load and every destroy preserves it, in
any order and on any handle (`LoaderInv.load`, `LoaderInv.destroy`).

`loaderMachine` adds the contract of `dynamic_load.h`: a load is made on a handle that
holds no library, and a hook that reports an error returns NULL. Under it no call fails
(`loader_runs_progress`), nothing is overwritten, and each handle has a factory exactly when
it has a library (`loader_runs_balanced`).
-/

open CMemory RefLedger

namespace OpentracingC

/-! ### The ledger of the linker -/

/-- What a linker event means to the libraries' reference counts. -/
def LinkerEvent.toRef : LinkerEvent → Option (RefLedger.Event RawHandle)
  | .dlopen (some lib) => some (.acquire lib)
  | .dlopen none => none
  | .dlerror => none
  | .dlsym lib => some (.use lib)
  | .hook lib => some (.use lib)
  | .factory lib => some (.use lib)
  | .destroy lib => some (.use lib)
  | .dlclose lib => some (.release lib)

/-- The reference ledger of a linker log. -/
def refs (events : List LinkerEvent) : List (RefLedger.Event RawHandle) :=
  events.filterMap LinkerEvent.toRef

@[simp] theorem refs_nil : refs [] = [] := rfl

@[simp] theorem refs_append (es fs : List LinkerEvent) : refs (es ++ fs) = refs es ++ refs fs :=
  List.filterMap_append

/-- The library that is still open at the end of a stage. -/
def LoadStage.kept : LoadStage → Option RawHandle
  | .loaded lib _ _ => some lib
  | _ => none

/-- The references of a stage. -/
def LoadStage.refs : LoadStage → List (RefLedger.Event RawHandle)
  | .unsupported => []
  | .dlopenFailed _ => []
  | .hookMissing lib _ => [.acquire lib, .use lib, .release lib]
  | .hookRejected lib _ _ _ => [.acquire lib, .use lib, .use lib, .release lib]
  | .factoryMissing lib _ => [.acquire lib, .use lib, .use lib, .release lib]
  | .loaded lib _ _ => [.acquire lib, .use lib, .use lib]

theorem LoadStage.refs_events (stage : LoadStage) :
    OpentracingC.refs stage.events = stage.refs := by
  cases stage <;> rfl

/-- A stage acquires what it releases, and the library it keeps. -/
theorem LoadStage.acquired_refs (stage : LoadStage) (r : RawHandle) :
    acquired r stage.refs = released r stage.refs + if stage.kept = some r then 1 else 0 := by
  cases stage <;> simp [LoadStage.refs, kept]

/-- A stage releases and uses only the library it has opened, whatever was open before. -/
theorem LoadStage.coveredAfter_refs (stage : LoadStage)
    {es : List (RefLedger.Event RawHandle)} (h : Covered es) : CoveredAfter es stage.refs := by
  -- once opened, a library is held until the stage closes it
  have hheld : ∀ lib, released lib es < acquired lib es + 1 :=
    fun lib => Nat.lt_succ_of_le (h.released_le lib)
  cases stage <;> simp [LoadStage.refs, CoveredAfter, Held, hheld]

/-! ### Loads and destroys over many handles -/

/-- A process that loads and destroys tracing libraries through the handles `H`. -/
structure LoaderState (H : Type*) where
  handles : H → OpentracingLibraryHandle
  linker : LinkerState
  /-- The libraries that a load dropped from a handle without closing them. -/
  overwritten : List RawHandle
  /-- The handle and the return code of the last call, if it was a load. -/
  lastLoad : Option (H × OpentracingDynamicLoadErrorCode)

variable {H : Type*}

/-- The libraries the handles hold. -/
def LoaderState.slots (s : LoaderState H) (h : H) : Option RawHandle :=
  (s.handles h).libHandle

/-- A process with every handle zeroed. -/
def LoaderState.start (H : Type*) (dlerrorText : Option CString) : LoaderState H where
  handles _ := OpentracingLibraryHandle.null
  linker := ⟨dlerrorText, []⟩
  overwritten := []
  lastLoad := none

/-- **The loader invariant**: the ledger is covered, and every open reference is held by a
handle or was dropped from one. -/
structure LoaderInv [Fintype H] (s : LoaderState H) : Prop where
  covered : Covered (refs s.linker.events)
  balanced : ∀ r, acquired r (refs s.linker.events) =
    released r (refs s.linker.events) + holders s.slots r + s.overwritten.count r

/-- The invariant holds at the start. -/
theorem loaderInv_start [Fintype H] (dlerrorText : Option CString) :
    LoaderInv (LoaderState.start H dlerrorText) := by
  refine ⟨covered_nil, fun r => ?_⟩
  have hslots : (LoaderState.start H dlerrorText).slots = fun _ => none := rfl
  rw [hslots]
  simp [LoaderState.start]

/-- A handle's library is open. -/
theorem LoaderInv.held [Fintype H] {s : LoaderState H} (hinv : LoaderInv s) {h : H}
    {r : RawHandle} (hr : s.slots h = some r) : Held (refs s.linker.events) r := by
  have hone := one_le_holders hr
  have hbal := hinv.balanced r
  simp only [Held]
  omega

/-- A library that was dropped without being closed stays open. -/
theorem LoaderInv.held_of_mem_overwritten [Fintype H] {s : LoaderState H} (hinv : LoaderInv s)
    {r : RawHandle} (hr : r ∈ s.overwritten) : Held (refs s.linker.events) r := by
  have hone := List.count_pos_iff.mpr hr
  have hbal := hinv.balanced r
  simp only [Held]
  omega

/-- **The pairing of the fields**: every handle has a factory exactly when it has a
library, no library was dropped, and a load that just returned succeeded exactly when its
handle has a library. -/
structure PairedInv (s : LoaderState H) : Prop where
  paired : ∀ h, (s.handles h).factory ≠ none ↔ (s.handles h).libHandle ≠ none
  overwritten_eq : s.overwritten = []
  lastLoad_iff : ∀ h returnCode, s.lastLoad = some (h, returnCode) →
    (returnCode = .success ↔ (s.handles h).libHandle ≠ none)

/-- The pairing holds at the start. -/
theorem pairedInv_start (dlerrorText : Option CString) :
    PairedInv (LoaderState.start H dlerrorText) := by
  refine ⟨fun h => ?_, rfl, fun h returnCode hlast => ?_⟩
  · simp [LoaderState.start, OpentracingLibraryHandle.null]
  · cases hlast

variable [DecidableEq H]

/-- The libraries a load on a handle drops: builds with weak symbols assign
`handle->lib_handle` first. -/
def droppedBy (build : Build) (handle : OpentracingLibraryHandle) : List RawHandle :=
  match build with
  | .weakSymbols => handle.libHandle.toList
  | .noWeakSymbols => []

/-- A load on the handle `h`. -/
def LoaderState.load (build : Build) (dl : DlLibrary) (lib : CString) (h : H)
    (errorBuffer : Option Bytes) (errorBufferLength : CInt) (s : LoaderState H) :
    Option (LoaderState H) :=
  (opentracingDynamicallyLoadTracingLibrary build dl lib (s.handles h) errorBuffer
      errorBufferLength s.linker).map fun r =>
    { handles := Function.update s.handles h r.2.handle
      linker := r.2.linker
      overwritten := droppedBy build (s.handles h) ++ s.overwritten
      lastLoad := some (h, r.1) }

/-- A destroy of the handle `h`, or of NULL. -/
def LoaderState.destroy (dl : DlLibrary) (h : Option H) (s : LoaderState H) : LoaderState H :=
  match h with
  | none =>
      { s with
        linker := (opentracingLibraryHandleDestroy dl none s.linker).2
        lastLoad := none }
  | some h =>
      let r := opentracingLibraryHandleDestroy dl (some (s.handles h)) s.linker
      { s with
        handles := Function.update s.handles h (r.1.getD (s.handles h))
        linker := r.2
        lastLoad := none }

/-- What a load on a handle does, in terms of its stage. -/
structure LoadStage.StepsTo (stage : LoadStage) (build : Build) (h : H)
    (s s' : LoaderState H) : Prop where
  handles_eq : s'.handles = Function.update s.handles h (stage.handle (s.handles h))
  events_eq : s'.linker.events = s.linker.events ++ stage.events
  overwritten_eq : s'.overwritten = droppedBy build (s.handles h) ++ s.overwritten
  lastLoad_eq : s'.lastLoad = some (h, stage.returnCode)

/-- A load with an admitted buffer returns. -/
theorem LoaderState.exists_load {build : Build} {errorBuffer : Option Bytes}
    {errorBufferLength : CInt} (hadm : Admits build errorBuffer errorBufferLength)
    (dl : DlLibrary) (lib : CString) (h : H) (s : LoaderState H) :
    ∃ s', s.load build dl lib h errorBuffer errorBufferLength = some s' := by
  obtain ⟨r, hr, -⟩ := load_eq dl lib (s.handles h) s.linker hadm
  simp [LoaderState.load, hr]

/-- A load that returned had an admitted buffer. -/
theorem LoaderState.admits_of_load {build : Build} {dl : DlLibrary} {lib : CString} {h : H}
    {errorBuffer : Option Bytes} {errorBufferLength : CInt} {s s' : LoaderState H}
    (hload : s.load build dl lib h errorBuffer errorBufferLength = some s') :
    Admits build errorBuffer errorBufferLength := by
  simp only [LoaderState.load, Option.map_eq_some_iff] at hload
  obtain ⟨_, hr, -⟩ := hload
  exact (load_eq_some hr).1

/-- Inversion of a load. -/
theorem LoaderState.stepsTo_of_load {build : Build} {dl : DlLibrary} {lib : CString} {h : H}
    {errorBuffer : Option Bytes} {errorBufferLength : CInt} {s s' : LoaderState H}
    (hload : s.load build dl lib h errorBuffer errorBufferLength = some s') :
    (loadStage build dl lib errorBuffer errorBufferLength).StepsTo build h s s' := by
  simp only [LoaderState.load, Option.map_eq_some_iff] at hload
  obtain ⟨⟨returnCode, r⟩, hr, rfl⟩ := hload
  obtain ⟨-, rfl, hend⟩ := load_eq_some hr
  exact ⟨by rw [hend.handle_eq], hend.events_eq, rfl, rfl⟩

/-- Destroying a handle that holds no library changes neither the handles nor the log. -/
theorem LoaderState.destroy_of_slots_none {dl : DlLibrary} {h : H} {s : LoaderState H}
    (hs : s.slots h = none) : s.destroy dl (some h) = { s with lastLoad := none } := by
  simp only [LoaderState.destroy, destroy_eq_of_libHandle_none hs, Option.getD_some,
    Function.update_eq_self]

/-- Destroying a handle that holds a library closes it and zeroes the handle. -/
theorem LoaderState.destroy_of_slots_some {dl : DlLibrary} {h : H} {s : LoaderState H}
    {lib : RawHandle} (hs : s.slots h = some lib) :
    s.destroy dl (some h) =
      { s with
        handles := Function.update s.handles h OpentracingLibraryHandle.null
        linker := s.linker.dlclose dl lib
        lastLoad := none } := by
  simp only [LoaderState.destroy, destroy_eq_of_libHandle_some hs, Option.getD_some]

/-- The slots after an assignment to one handle. -/
theorem slots_update (handles : H → OpentracingLibraryHandle) (h : H)
    (handle : OpentracingLibraryHandle) :
    (fun k => (Function.update handles h handle k).libHandle) =
      Function.update (fun k => (handles k).libHandle) h handle.libHandle := by
  funext k
  by_cases hk : k = h
  · subst hk
    simp
  · simp [hk]

/-! ### Every call preserves the invariant -/

/-- With weak symbols a load leaves in `lib_handle` what its stage keeps open. -/
theorem LoadStage.libHandle_handle {stage : LoadStage} (h : stage ≠ .unsupported)
    (handle : OpentracingLibraryHandle) : (stage.handle handle).libHandle = stage.kept := by
  cases stage with
  | unsupported => exact absurd rfl h
  | _ => rfl

/-- A stage that keeps a library open leaves it in `lib_handle`. -/
theorem LoadStage.libHandle_of_kept {stage : LoadStage} {lib : RawHandle}
    (h : stage.kept = some lib) (handle : OpentracingLibraryHandle) :
    (stage.handle handle).libHandle = some lib := by
  cases stage with
  | loaded raw result factory => exact h
  | _ => cases h

/-- With weak symbols no load ends as unsupported. -/
theorem loadStage_weakSymbols_ne_unsupported (dl : DlLibrary) (lib : CString)
    (errorBuffer : Option Bytes) (errorBufferLength : CInt) :
    loadStage .weakSymbols dl lib errorBuffer errorBufferLength ≠ .unsupported := by
  simp only [loadStage, hookStage]
  repeat' split
  all_goals simp

/-- A load preserves the invariant, on any handle. -/
theorem LoaderInv.load [Fintype H] {build : Build} {dl : DlLibrary} {lib : CString} {h : H}
    {errorBuffer : Option Bytes} {errorBufferLength : CInt} {s s' : LoaderState H}
    (hinv : LoaderInv s) (hload : s.load build dl lib h errorBuffer errorBufferLength = some s') :
    LoaderInv s' := by
  have hstep := LoaderState.stepsTo_of_load hload
  have hevents : refs s'.linker.events = refs s.linker.events ++
      (loadStage build dl lib errorBuffer errorBufferLength).refs := by
    rw [hstep.events_eq, refs_append, LoadStage.refs_events]
  have hslots : s'.slots = Function.update s.slots h
      ((loadStage build dl lib errorBuffer errorBufferLength).handle (s.handles h)).libHandle := by
    calc s'.slots = fun k => (s'.handles k).libHandle := rfl
      _ = _ := by
        rw [hstep.handles_eq, slots_update]
        rfl
  refine ⟨?_, fun r => ?_⟩
  · rw [hevents, covered_append_iff]
    exact ⟨hinv.covered, LoadStage.coveredAfter_refs _ hinv.covered⟩
  · have hbal := hinv.balanced r
    have hstage := (loadStage build dl lib errorBuffer errorBufferLength).acquired_refs r
    have hholders := holders_update s.slots h
      ((loadStage build dl lib errorBuffer errorBufferLength).handle (s.handles h)).libHandle r
    rw [hevents, acquired_append, released_append, hslots, hstep.overwritten_eq,
      List.count_append]
    cases build with
    | noWeakSymbols =>
        -- nothing is opened, and the handle keeps its library
        have hsame : Function.update s.slots h (LoadStage.unsupported.handle
            (s.handles h)).libHandle = s.slots := Function.update_eq_self h s.slots
        simp only [loadStage, LoadStage.kept, reduceCtorEq, if_false] at hstage
        simp only [loadStage, hsame, droppedBy, List.count_nil]
        omega
    | weakSymbols =>
        rw [LoadStage.libHandle_handle
          (loadStage_weakSymbols_ne_unsupported dl lib errorBuffer errorBufferLength)]
          at hholders ⊢
        have hdropped : (droppedBy .weakSymbols (s.handles h)).count r =
            if s.slots h = some r then 1 else 0 :=
          count_toList (s.slots h) r
        omega

/-- A destroy preserves the invariant, on any handle and on NULL. -/
theorem LoaderInv.destroy [Fintype H] {s : LoaderState H} (hinv : LoaderInv s)
    (dl : DlLibrary) (h : Option H) : LoaderInv (s.destroy dl h) := by
  rcases h with _ | h
  · exact ⟨hinv.covered, hinv.balanced⟩
  · rcases hs : s.slots h with _ | lib
    · rw [LoaderState.destroy_of_slots_none hs]
      exact ⟨hinv.covered, hinv.balanced⟩
    · have hevents : refs (s.destroy dl (some h)).linker.events =
          refs s.linker.events ++ [.release lib] := by
        rw [LoaderState.destroy_of_slots_some hs]
        exact refs_append _ [.dlclose lib]
      have hslots : (s.destroy dl (some h)).slots = Function.update s.slots h none := by
        rw [LoaderState.destroy_of_slots_some hs]
        exact slots_update s.handles h OpentracingLibraryHandle.null
      have hover : (s.destroy dl (some h)).overwritten = s.overwritten := by
        rw [LoaderState.destroy_of_slots_some hs]
      refine ⟨?_, fun r => ?_⟩
      · rw [hevents, covered_append_singleton_iff]
        exact ⟨hinv.covered, by rintro r rfl; exact hinv.held hs⟩
      · have hbal := hinv.balanced r
        have hholders := holders_update s.slots h none r
        rw [hevents, hslots, hover]
        simp only [acquired_append, acquired_cons_release, acquired_nil, released_append,
          released_cons_release, released_nil]
        simp only [hs, Option.some.injEq, reduceCtorEq, if_false] at hholders
        omega

/-! ### Runs under the contract -/

/-- `opentracing_make_tracer_factory` as its header documents it: NULL on failure. -/
def DlLibrary.HooksReturnNullOnFailure (dl : DlLibrary) : Prop :=
  ∀ raw symbol hook version errorBuffer errorBufferLength,
    dl.dlsym raw symbol = .found hook →
    (hook version errorBuffer errorBufferLength).returnCode.getD .success ≠ .success →
    (hook version errorBuffer errorBufferLength).factory = none

/-- The calls of a process that loads and destroys. -/
inductive LoaderCall (H : Type*)
  | load (dl : DlLibrary) (lib : CString) (h : H) (errorBuffer : Option Bytes)
      (errorBufferLength : CInt)
  /-- A destroy of a handle, or of NULL. -/
  | destroy (dl : DlLibrary) (h : Option H)

/-- The loader with weak symbols, and the contract of its callers: a load is made on a
handle that holds no library, hooks return NULL on failure, and without an error buffer its
length is zero. -/
def loaderMachine (H : Type*) [DecidableEq H] : Machine (LoaderState H) (LoaderCall H) where
  step s
    | .load dl lib h errorBuffer errorBufferLength =>
        s.load .weakSymbols dl lib h errorBuffer errorBufferLength
    | .destroy dl h => some (s.destroy dl h)
  Allowed s
    | .load dl _ h errorBuffer errorBufferLength =>
        s.slots h = none ∧ dl.HooksReturnNullOnFailure ∧
          Admits .weakSymbols errorBuffer errorBufferLength
    | .destroy _ _ => True

/-- A stage returns success exactly when it keeps a library open. -/
theorem LoadStage.returnCode_eq_success_iff (stage : LoadStage) :
    stage.returnCode = .success ↔ stage.kept ≠ none := by
  cases stage with
  | unsupported => simpa [returnCode, kept] using notSupported_ne_success
  | dlopenFailed text => simpa [returnCode, kept] using failure_ne_success
  | hookMissing lib text => simpa [returnCode, kept] using failure_ne_success
  | hookRejected lib result code hcode => simpa [returnCode, kept] using hcode
  | factoryMissing lib result => simpa [returnCode, kept] using failure_ne_success
  | loaded lib result factory => simp [returnCode, kept]

/-- When hooks return NULL on failure, a load on a zeroed handle leaves no factory
behind. -/
theorem LoadStage.leavesNoFactory_null {dl : DlLibrary} (hdl : dl.HooksReturnNullOnFailure)
    (build : Build) (lib : CString) (errorBuffer : Option Bytes) (errorBufferLength : CInt) :
    (loadStage build dl lib errorBuffer errorBufferLength).LeavesNoFactory
      OpentracingLibraryHandle.null := by
  cases build with
  | noWeakSymbols => exact ⟨rfl, rfl⟩
  | weakSymbols =>
      simp only [loadStage]
      cases dl.dlopen lib [.rtldNow, .rtldLocal] with
      | failed text => rfl
      | opened raw pending =>
          simp only
          cases hsym : dl.dlsym raw makeTracerFactorySymbol with
          | null text => rfl
          | found hook =>
              simp only [hookStage]
              split
              · next hcode =>
                exact hdl _ _ _ _ _ _ hsym hcode
              · next hcode =>
                cases (hook opentracingcVersionString errorBuffer errorBufferLength).factory <;>
                  trivial

/-- The two fields of the handle after a stage that leaves no factory behind. -/
theorem LoadStage.paired_handle {stage : LoadStage} {handle : OpentracingLibraryHandle}
    (h : stage.LeavesNoFactory handle) :
    (stage.handle handle).factory ≠ none ↔ (stage.handle handle).libHandle ≠ none := by
  obtain ⟨hfail, -⟩ := (stage.leavesNoFactory_iff handle).mpr h
  by_cases hcode : stage.returnCode = .success
  · cases stage with
    | loaded lib result factory => simp [LoadStage.handle]
    | _ => simp [returnCode_eq_success_iff, kept] at hcode
  · obtain ⟨hlib, hfactory⟩ := hfail hcode
    simp [hlib, hfactory]

/-- A load on a handle that holds no library preserves the pairing, when hooks return NULL
on failure. -/
theorem PairedInv.load {dl : DlLibrary} {lib : CString} {h : H} {errorBuffer : Option Bytes}
    {errorBufferLength : CInt} {s s' : LoaderState H} (hinv : PairedInv s)
    (hslot : s.slots h = none) (hdl : dl.HooksReturnNullOnFailure)
    (hload : s.load .weakSymbols dl lib h errorBuffer errorBufferLength = some s') :
    PairedInv s' := by
  have hto := LoaderState.stepsTo_of_load hload
  have hlib : (s.handles h).libHandle = none := hslot
  have hfactory : (s.handles h).factory = none := by
    by_contra hne
    exact (hinv.paired h).mp hne hlib
  have hnull : s.handles h = OpentracingLibraryHandle.null := by
    calc s.handles h = ⟨(s.handles h).factory, (s.handles h).libHandle⟩ := rfl
      _ = OpentracingLibraryHandle.null := by rw [hfactory, hlib]; rfl
  have hpaired := LoadStage.paired_handle
    (LoadStage.leavesNoFactory_null hdl .weakSymbols lib errorBuffer errorBufferLength)
  refine ⟨fun k => ?_, ?_, fun k returnCode hlast => ?_⟩
  · rw [hto.handles_eq]
    by_cases hk : k = h
    · rw [hk, Function.update_self, hnull]
      exact hpaired
    · rw [Function.update_of_ne hk]
      exact hinv.paired k
  · rw [hto.overwritten_eq, hnull, hinv.overwritten_eq]
    rfl
  · rw [hto.lastLoad_eq, Option.some.injEq, Prod.mk.injEq] at hlast
    obtain ⟨rfl, rfl⟩ := hlast
    rw [hto.handles_eq, Function.update_self, LoadStage.libHandle_handle
      (loadStage_weakSymbols_ne_unsupported dl lib errorBuffer errorBufferLength)]
    exact LoadStage.returnCode_eq_success_iff _

/-- A destroy preserves the pairing, on any handle and on NULL. -/
theorem PairedInv.destroy {s : LoaderState H} (hinv : PairedInv s) (dl : DlLibrary)
    (h : Option H) : PairedInv (s.destroy dl h) := by
  rcases h with _ | h
  · exact ⟨hinv.paired, hinv.overwritten_eq, fun _ _ hlast => by cases hlast⟩
  · rcases hs : s.slots h with _ | lib
    · rw [LoaderState.destroy_of_slots_none hs]
      exact ⟨hinv.paired, hinv.overwritten_eq, fun _ _ hlast => by cases hlast⟩
    · rw [LoaderState.destroy_of_slots_some hs]
      refine ⟨fun k => ?_, hinv.overwritten_eq, fun _ _ hlast => by cases hlast⟩
      by_cases hk : k = h
      · simp [hk, OpentracingLibraryHandle.null]
      · simp only [Function.update_of_ne hk]
        exact hinv.paired k

/-- Every allowed call preserves the pairing. -/
theorem PairedInv.step {s s' : LoaderState H} {call : LoaderCall H} (hinv : PairedInv s)
    (hallowed : (loaderMachine H).Allowed s call)
    (hstep : (loaderMachine H).step s call = some s') : PairedInv s' := by
  cases call with
  | load dl lib h errorBuffer errorBufferLength =>
      exact hinv.load hallowed.1 hallowed.2.1 hstep
  | destroy dl h =>
      obtain rfl : s.destroy dl h = s' := Option.some.inj hstep
      exact hinv.destroy dl h

/-- Every allowed call preserves the loader invariant. -/
theorem LoaderInv.step [Fintype H] {s s' : LoaderState H} {call : LoaderCall H}
    (hinv : LoaderInv s) (hstep : (loaderMachine H).step s call = some s') : LoaderInv s' := by
  cases call with
  | load dl lib h errorBuffer errorBufferLength => exact hinv.load hstep
  | destroy dl h =>
      obtain rfl : s.destroy dl h = s' := Option.some.inj hstep
      exact hinv.destroy dl h

/-- **Progress**: callers that keep the contract get a run. -/
theorem loader_runs_progress {s : LoaderState H} {calls : List (LoaderCall H)}
    (hobeys : (loaderMachine H).Obeys s calls) : ∃ s', (loaderMachine H).Run s calls s' := by
  obtain ⟨s', hrun, -⟩ := Machine.exists_run_of_obeys (fun _ => True)
    (fun s call _ hallowed => by
      cases call with
      | load dl lib h errorBuffer errorBufferLength =>
          obtain ⟨s', hload⟩ := LoaderState.exists_load hallowed.2.2 dl lib h s
          exact ⟨s', hload, trivial⟩
      | destroy dl h => exact ⟨_, rfl, trivial⟩)
    trivial hobeys
  exact ⟨s', hrun⟩

/-- A run under the contract is paired and covered, and has dropped nothing: the open
references are those of the handles. -/
theorem loaderMachine_run_invariant [Fintype H] {dlerrorText : Option CString}
    {calls : List (LoaderCall H)} {s : LoaderState H}
    (hrun : (loaderMachine H).Run (LoaderState.start H dlerrorText) calls s) :
    PairedInv s ∧ Covered (refs s.linker.events) ∧
      ∀ lib, acquired lib (refs s.linker.events) =
        released lib (refs s.linker.events) + holders s.slots lib := by
  have hpaired : PairedInv s :=
    hrun.invariant (fun _ _ _ hinv ha hs => hinv.step ha hs) (pairedInv_start dlerrorText)
  have hloader : LoaderInv s :=
    hrun.invariant (fun _ _ _ hinv _ hs => hinv.step hs) (loaderInv_start dlerrorText)
  refine ⟨hpaired, hloader.covered, fun lib => ?_⟩
  have hbal := hloader.balanced lib
  rw [hpaired.overwritten_eq, List.count_nil] at hbal
  exact hbal

/-- **Runs of the loader are balanced**: after every call of a run from zeroed handles,
each handle has a factory exactly when it has a library; a load returned success exactly
when its handle now has one; for each library, the successful `dlopen`s minus the
`dlclose`s are the handles that hold it; and every `dlclose`, every `dlsym` and every hook
invocation was made while its library had an open reference. -/
theorem loader_runs_balanced [Fintype H] {dlerrorText : Option CString}
    {calls : List (LoaderCall H)} {s : LoaderState H}
    (hrun : (loaderMachine H).Run (LoaderState.start H dlerrorText) calls s) :
    (∀ h, (s.handles h).factory ≠ none ↔ (s.handles h).libHandle ≠ none) ∧
      (∀ h returnCode, s.lastLoad = some (h, returnCode) →
        (returnCode = .success ↔ (s.handles h).libHandle ≠ none)) ∧
      (∀ lib, acquired lib (refs s.linker.events) =
        released lib (refs s.linker.events) + holders s.slots lib) ∧
      Covered (refs s.linker.events) := by
  obtain ⟨hpaired, hcovered, hbalanced⟩ := loaderMachine_run_invariant hrun
  exact ⟨hpaired.paired, hpaired.lastLoad_iff, hbalanced, hcovered⟩

/-- A hook that reports success reports no failure. -/
theorem DlLibrary.hooksReturnNullOnFailure_present (lib : RawHandle)
    (factory : Option OpentracingTracerFactory) :
    (DlLibrary.present lib .success factory).HooksReturnNullOnFailure := by
  rintro raw symbol hook version errorBuffer errorBufferLength hsym hcode
  obtain rfl := DlsymResult.found.inj hsym
  exact absurd rfl hcode

/-- Two handles are loaded with the same library, and one of them is destroyed. -/
def sharedCalls : List (LoaderCall Bool) :=
  [.load (DlLibrary.present 7 .success (some 1)) libraryName true none CInt.zero,
    .load (DlLibrary.present 7 .success (some 1)) libraryName false none CInt.zero,
    .destroy (DlLibrary.present 7 .success (some 1)) (some true)]

/-- The references of two handles that share a library are balanced. -/
theorem loader_runs_balanced_shared :
    ∃ s, (loaderMachine Bool).Run (LoaderState.start Bool none) sharedCalls s ∧
      acquired 7 (refs s.linker.events) = 2 ∧
      ∀ lib, acquired lib (refs s.linker.events) =
        released lib (refs s.linker.events) + holders s.slots lib := by
  have hdl := DlLibrary.hooksReturnNullOnFailure_present 7 (some 1)
  have hadm : Admits .weakSymbols none CInt.zero := fun _ => Or.inr rfl
  obtain ⟨s, hrun, hcount⟩ : ∃ s, (loaderMachine Bool).Run (LoaderState.start Bool none)
      sharedCalls s ∧ acquired 7 (refs s.linker.events) = 2 :=
    ⟨_, .cons ⟨rfl, hdl, hadm⟩ rfl (.cons ⟨rfl, hdl, hadm⟩ rfl (.cons trivial rfl (.nil _))), rfl⟩
  exact ⟨s, hrun, hcount, (loader_runs_balanced hrun).2.2.1⟩

end OpentracingC
