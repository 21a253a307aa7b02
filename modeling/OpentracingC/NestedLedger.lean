import OpentracingC.LoaderNesting

/-!
# The Ledger of Nested Calls

A constructor may do anything to the handle it is loaded into: the load has not touched the
handle yet. A hook may not: a destroy of the handle closes the library the hook is code of,
and returns into it (`hook_destroys_into_closed_iff`). Nor may a destructor: `dlclose` has been
called and `lib_handle` is not yet cleared, so that a destroy of the handle closes the library
once more (`covered_destroy_twice_iff`). `LoaderScript.AvoidsBusy` excludes both.

`NestedInv` is the loader invariant in the middle of calls, where some handles still hold
libraries that were closed (`closing`) and some opened libraries are not held yet
(`opening`). `RunningHeld` says that the libraries whose code is running are open: one whose
constructors run is being opened, and one whose hook runs is held by the handle of its load,
which is busy. Every statement of the two functions preserves the two, as long as no call is
made on a busy handle; the libraries' code only has to preserve them in turn
(`LibraryCode.KeepsLedger`), which an induction on the script gives. At the end every library
was closed as often as it was opened, held or dropped, and no call has returned into a closed
library (`reentrant_runs_balance`).
-/

open CMemory RefLedger

namespace OpentracingC

variable {H : Type*}

section

variable [DecidableEq H]

/-- The libraries the handles hold, but for those that are being closed. -/
def NestedState.openSlots (closing : List H) (s : NestedState H) (h : H) : Option RawHandle :=
  if h ∈ closing then none else s.slots h

/-- **The invariant in the middle of calls**: the handles in `closing` still hold libraries
that were closed, the libraries in `opening` were opened and are not yet held, and no call has
returned into a library that was closed. -/
structure NestedInv [Fintype H] (closing : List H) (opening : List RawHandle)
    (s : NestedState H) : Prop where
  covered : Covered (refs s.linker.events)
  balanced : ∀ r, acquired r (refs s.linker.events) = released r (refs s.linker.events) +
    holders (s.openSlots closing) r + s.overwritten.count r + opening.count r
  intoClosed_eq : s.intoClosed = []

/-- The libraries whose constructors or hook are running are open: they are being opened, or a
busy handle holds them that is not being closed. -/
def RunningHeld (busy closing : List H) (opening : List RawHandle) (s : NestedState H) : Prop :=
  ∀ lib ∈ s.running, lib ∈ opening ∨ ∃ k ∈ busy, k ∉ closing ∧ s.slots k = some lib

/-- What a call leaves as it is: what is running, and the libraries of the busy handles. -/
structure BusyFrame (busy : List H) (s s' : NestedState H) : Prop where
  running_eq : s'.running = s.running
  slots_eq : ∀ k ∈ busy, s'.slots k = s.slots k

/-- Code that preserves the invariant, whatever is being opened and closed, and the busy
handles. -/
def LibraryCode.KeepsLedger [Fintype H] (busy : List H) (code : LibraryCode H) : Prop :=
  ∀ closing opening s s', closing ⊆ busy → NestedInv closing opening s →
    RunningHeld busy closing opening s → code s = some s' →
    NestedInv closing opening s' ∧ BusyFrame busy s s'

omit [DecidableEq H] in
/-- Libraries that are held stay held when the busy handles do not change. -/
theorem RunningHeld.of_frame {busy closing : List H} {opening : List RawHandle}
    {s s' : NestedState H} (hheld : RunningHeld busy closing opening s)
    (hframe : BusyFrame busy s s') : RunningHeld busy closing opening s' := by
  intro lib hlib
  rw [hframe.running_eq] at hlib
  refine (hheld lib hlib).imp_right ?_
  rintro ⟨k, hk, hclosing, hslot⟩
  exact ⟨k, hk, hclosing, (hframe.slots_eq k hk).trans hslot⟩

omit [DecidableEq H] in
/-- The constructors of a library run while it is being opened. -/
theorem RunningHeld.enterConstructors {busy closing : List H} {opening : List RawHandle}
    {s : NestedState H} (hheld : RunningHeld busy closing opening s) (result : Option RawHandle)
    (linker : LinkerState) :
    RunningHeld busy closing (result.toList ++ opening)
      ((s.withLinker linker).withRunning (result.toList ++ s.running)) := by
  intro lib hlib
  rcases List.mem_append.mp hlib with hresult | hrunning
  · exact Or.inl (List.mem_append_left _ hresult)
  · exact (hheld lib hrunning).imp_left (List.mem_append_right _)

omit [DecidableEq H] in
/-- The hook of a library runs while the handle of its load is busy. -/
theorem RunningHeld.enterHook {busy closing : List H} {opening : List RawHandle}
    {s s' : NestedState H} (hheld : RunningHeld busy closing opening s) {h : H} {raw : RawHandle}
    (hslots : ∀ k ∈ busy, s'.slots k = s.slots k) (hh : h ∉ closing)
    (hraw : s'.slots h = some raw) :
    RunningHeld (h :: busy) closing opening (s'.withRunning (raw :: s.running)) := by
  intro lib hlib
  rcases List.mem_cons.mp hlib with rfl | hrunning
  · exact Or.inr ⟨h, List.mem_cons_self, hh, hraw⟩
  · refine (hheld lib hrunning).imp_right ?_
    rintro ⟨k, hk, hclosing, hslot⟩
    exact ⟨k, List.mem_cons_of_mem h hk, hclosing, (hslots k hk).trans hslot⟩

omit [DecidableEq H] in
/-- The destructors of a library run while its handle is being closed. -/
theorem RunningHeld.enterDestructors {busy closing : List H} {opening : List RawHandle}
    {s : NestedState H} (hheld : RunningHeld busy closing opening s) {h : H} (hh : h ∉ busy) :
    RunningHeld (h :: busy) (h :: closing) opening s := by
  intro lib hlib
  refine (hheld lib hlib).imp_right ?_
  rintro ⟨k, hk, hclosing, hslot⟩
  refine ⟨k, List.mem_cons_of_mem h hk, ?_, hslot⟩
  exact List.not_mem_cons_of_ne_of_not_mem (ne_of_mem_of_not_mem hk hh) hclosing

namespace BusyFrame

variable {busy : List H} {s s' s'' : NestedState H} {h : H}

omit [DecidableEq H]

theorem refl (busy : List H) (s : NestedState H) : BusyFrame busy s s :=
  ⟨rfl, fun _ _ => rfl⟩

theorem trans (h₁ : BusyFrame busy s s') (h₂ : BusyFrame busy s' s'') : BusyFrame busy s s'' :=
  ⟨h₂.running_eq.trans h₁.running_eq, fun k hk => (h₂.slots_eq k hk).trans (h₁.slots_eq k hk)⟩

/-- Fewer handles are busy outside a call. -/
theorem of_cons (h₁ : BusyFrame (h :: busy) s s') : BusyFrame busy s s' :=
  ⟨h₁.running_eq, fun k hk => h₁.slots_eq k (List.mem_cons_of_mem h hk)⟩

/-- An assignment to a handle that is not busy. -/
theorem assign (h₁ : BusyFrame busy s s') (hh : h ∉ busy) (hrunning : s''.running = s'.running)
    (hhandles : ∀ k, k ≠ h → s''.handles k = s'.handles k) : BusyFrame busy s s'' where
  running_eq := hrunning.trans h₁.running_eq
  slots_eq k hk := by
    rw [LoaderState.slots, hhandles k (ne_of_mem_of_not_mem hk hh)]
    exact h₁.slots_eq k hk

end BusyFrame

namespace NestedState

variable {closing : List H} {h : H} {s : NestedState H}

@[simp] theorem openSlots_withLinker (closing : List H) (s : NestedState H)
    (linker : LinkerState) : (s.withLinker linker).openSlots closing = s.openSlots closing := rfl

theorem openSlots_of_notMem (hh : h ∉ closing) : s.openSlots closing h = s.slots h :=
  if_neg hh

/-- One more handle is being closed. -/
theorem openSlots_cons (h : H) (closing : List H) (s : NestedState H) :
    s.openSlots (h :: closing) = Function.update (s.openSlots closing) h none := by
  funext k
  by_cases hk : k = h
  · subst hk
    simp [openSlots]
  · simp [openSlots, hk]

/-- An assignment to a handle that is not being closed. -/
theorem openSlots_setLibHandle (hh : h ∉ closing) (lib : Option RawHandle) (s : NestedState H) :
    (s.setLibHandle h lib).openSlots closing = Function.update (s.openSlots closing) h lib := by
  funext k
  by_cases hk : k = h
  · subst hk
    simp [openSlots, hh, LoaderState.slots, setLibHandle]
  · simp [openSlots, hk, LoaderState.slots, setLibHandle]

/-- The factories do not matter. -/
theorem openSlots_setFactory (closing : List H) (h : H)
    (factory : Option OpentracingTracerFactory) (s : NestedState H) :
    (s.setFactory h factory).openSlots closing = s.openSlots closing := by
  funext k
  by_cases hk : k = h
  · subst hk
    simp [openSlots, LoaderState.slots, setFactory]
  · simp [openSlots, hk, LoaderState.slots, setFactory]

end NestedState

namespace NestedInv

variable [Fintype H] {closing : List H} {opening : List RawHandle} {s : NestedState H} {h : H}
  {raw : RawHandle}

/-- The library of a handle that is not being closed is open. -/
theorem held (hinv : NestedInv closing opening s) (hh : h ∉ closing) (hr : s.slots h = some raw) :
    Held (refs s.linker.events) raw := by
  have hslot : s.openSlots closing h = some raw := by
    rw [NestedState.openSlots_of_notMem hh, hr]
  have hone := one_le_holders hslot
  have hbal := hinv.balanced raw
  simp only [Held]
  omega

/-- The libraries whose code is running are open. -/
theorem held_of_running {busy : List H} (hinv : NestedInv closing opening s)
    (hheld : RunningHeld busy closing opening s) {lib : RawHandle} (hlib : lib ∈ s.running) :
    Held (refs s.linker.events) lib := by
  rcases hheld lib hlib with hopening | ⟨k, -, hclosing, hslot⟩
  · have hone := List.count_pos_iff.mpr hopening
    have hbal := hinv.balanced lib
    simp only [Held]
    omega
  · exact hinv.held hclosing hslot

/-- So a call that returns finds them all open. -/
theorem closedRunning_eq {busy : List H} (hinv : NestedInv closing opening s)
    (hheld : RunningHeld busy closing opening s) : s.closedRunning = [] := by
  refine List.filter_eq_nil_iff.mpr fun lib hlib => ?_
  simpa using hinv.held_of_running hheld hlib

/-- What is running does not matter to the ledger. -/
theorem withRunning (hinv : NestedInv closing opening s) (running : List RawHandle) :
    NestedInv closing opening (s.withRunning running) :=
  ⟨hinv.covered, hinv.balanced, hinv.intoClosed_eq⟩

/-- Linker calls that open and close nothing, and run code of open libraries only. -/
theorem uses (hinv : NestedInv closing opening s) {text : Option CString}
    {events : List LinkerEvent} (hevents : UsesHeld (refs s.linker.events) (refs events)) :
    NestedInv closing opening (s.withLinker ⟨text, s.linker.events ++ events⟩) := by
  refine ⟨?_, fun r => ?_, hinv.intoClosed_eq⟩
  · simp only [NestedState.linker_withLinker, refs_append]
    exact covered_append_iff.mpr ⟨hinv.covered, hevents.coveredAfter⟩
  · simp only [NestedState.linker_withLinker, NestedState.overwritten_withLinker,
      NestedState.openSlots_withLinker, refs_append, acquired_append, released_append,
      hevents.acquired_eq r, hevents.released_eq r]
    exact hinv.balanced r

/-- `dlopen` has returned. -/
theorem opened (hinv : NestedInv closing opening s) (text : Option CString)
    (result : Option RawHandle) :
    NestedInv closing (result.toList ++ opening)
      (s.withLinker ⟨text, s.linker.events ++ [.dlopen result]⟩) := by
  rcases result with _ | raw
  · have hnone : UsesHeld (refs s.linker.events) (refs [.dlopen none]) := by
      intro e he
      cases he
    exact hinv.uses hnone
  · have hrefs : refs [.dlopen (some raw)] = [.acquire raw] := rfl
    refine ⟨?_, fun r => ?_, hinv.intoClosed_eq⟩
    · simp only [NestedState.linker_withLinker, refs_append, hrefs]
      exact covered_append_singleton_iff.mpr ⟨hinv.covered, fun _ h => absurd h id⟩
    · have hbal := hinv.balanced r
      have hcount := count_toList (some raw) r
      simp only [Option.some.injEq] at hcount
      simp only [NestedState.linker_withLinker, NestedState.overwritten_withLinker,
        NestedState.openSlots_withLinker, refs_append, hrefs, acquired_append, released_append,
        acquired_cons_acquire, acquired_nil, released_cons_acquire, released_nil,
        List.count_append, hcount]
      omega

/-- The handle takes what `dlopen` returned. -/
theorem storeOpened {lib : Option RawHandle} (hinv : NestedInv closing (lib.toList ++ opening) s)
    (hh : h ∉ closing) : NestedInv closing opening (s.storeOpened h lib) := by
  refine ⟨hinv.covered, fun r => ?_, hinv.intoClosed_eq⟩
  have hbal := hinv.balanced r
  have hholders := holders_update (s.openSlots closing) h lib r
  have hslots : (s.storeOpened h lib).openSlots closing =
      Function.update (s.openSlots closing) h lib := NestedState.openSlots_setLibHandle hh lib s
  have hdropped : (s.storeOpened h lib).overwritten.count r =
      (if s.slots h = some r then 1 else 0) + s.overwritten.count r := by
    rw [← count_toList]
    exact List.count_append
  rw [NestedState.openSlots_of_notMem hh] at hholders
  rw [List.count_append, count_toList] at hbal
  rw [hslots, hdropped]
  have hevents : (s.storeOpened h lib).linker = s.linker := rfl
  rw [hevents]
  omega

/-- `dlclose` has begun. -/
theorem closed (hinv : NestedInv closing opening s) (text : Option CString) (hh : h ∉ closing)
    (hr : s.slots h = some raw) :
    NestedInv (h :: closing) opening
      (s.withLinker ⟨text, s.linker.events ++ [.dlclose raw]⟩) := by
  have hrefs : refs [.dlclose raw] = [.release raw] := rfl
  have hholders := holders_update (s.openSlots closing) h none
  simp only [NestedState.openSlots_of_notMem hh, hr] at hholders
  have hslots : (s.withLinker ⟨text, s.linker.events ++ [.dlclose raw]⟩).openSlots (h :: closing)
      = Function.update (s.openSlots closing) h none := NestedState.openSlots_cons h closing s
  refine ⟨?_, fun r => ?_, hinv.intoClosed_eq⟩
  · simp only [NestedState.linker_withLinker, refs_append, hrefs]
    refine covered_append_singleton_iff.mpr ⟨hinv.covered, ?_⟩
    rintro r rfl
    exact hinv.held hh hr
  · have hbal := hinv.balanced r
    have hr := hholders r
    simp only [Option.some.injEq, reduceCtorEq, if_false] at hr
    simp only [hslots, NestedState.linker_withLinker, NestedState.overwritten_withLinker,
      refs_append, hrefs, acquired_append, released_append, acquired_cons_release, acquired_nil,
      released_cons_release, released_nil]
    omega

/-- The handle no longer holds what was closed. -/
theorem cleared (hinv : NestedInv (h :: closing) opening s) (hh : h ∉ closing) :
    NestedInv closing opening (s.setLibHandle h none) := by
  refine ⟨hinv.covered, fun r => ?_, hinv.intoClosed_eq⟩
  rw [NestedState.openSlots_setLibHandle hh, ← NestedState.openSlots_cons]
  exact hinv.balanced r

/-- The factories do not matter. -/
theorem setFactory (hinv : NestedInv closing opening s) (h : H)
    (factory : Option OpentracingTracerFactory) :
    NestedInv closing opening (s.setFactory h factory) := by
  refine ⟨hinv.covered, fun r => ?_, hinv.intoClosed_eq⟩
  rw [NestedState.openSlots_setFactory]
  exact hinv.balanced r

/-- Returning changes neither the handles nor the log, and finds what is running open. -/
theorem returns {busy : List H} (hinv : NestedInv closing opening s)
    (hheld : RunningHeld busy closing opening s) (call : LoaderCall H)
    (lastLoad : Option (H × OpentracingDynamicLoadErrorCode)) :
    NestedInv closing opening (s.returns call lastLoad) ∧
      BusyFrame busy s (s.returns call lastLoad) := by
  refine ⟨⟨hinv.covered, hinv.balanced, ?_⟩, rfl, fun _ _ => rfl⟩
  rw [NestedState.returns, hinv.closedRunning_eq hheld, hinv.intoClosed_eq]
  rfl

variable {build : Build} {dl : DlLibrary} {lib : CString} {errorBuffer : Option Bytes}
  {errorBufferLength : CInt} {onOpen onHook onClose : LibraryCode H}
  {code : OpentracingDynamicLoadErrorCode} {s' : NestedState H} {busy : List H}

/-- A load up to the assignment of what `dlopen` returned, with constructors that preserve the
invariant. -/
theorem constructed (hinv : NestedInv closing opening s)
    (hheld : RunningHeld busy closing opening s) (hsub : closing ⊆ busy) (hh : h ∉ busy)
    (hopen : onOpen.KeepsLedger busy) (result : Option RawHandle) {text : Option CString}
    (h₁ : onOpen ((s.withLinker ⟨text, s.linker.events ++ [.dlopen result]⟩).withRunning
      (result.toList ++ s.running)) = some s') :
    NestedInv closing opening ((s'.withRunning s.running).storeOpened h result) ∧
      BusyFrame busy s ((s'.withRunning s.running).storeOpened h result) := by
  obtain ⟨hinv₁, hframe⟩ := hopen closing (result.toList ++ opening) _ s' hsub
    ((hinv.opened text result).withRunning _) (hheld.enterConstructors result _) h₁
  refine ⟨(hinv₁.withRunning _).storeOpened fun hmem => hh (hsub hmem), ?_⟩
  have hentered : BusyFrame busy s (s'.withRunning s.running) := ⟨rfl, hframe.slots_eq⟩
  exact hentered.assign hh rfl fun k hk => Function.update_of_ne hk _ _

/-- A load up to the label `cleanup`, with code that preserves the invariant. -/
theorem loadBody (hinv : NestedInv closing opening s)
    (hheld : RunningHeld busy closing opening s) (hsub : closing ⊆ busy) (hh : h ∉ busy)
    (hopen : onOpen.KeepsLedger busy) (hhook : onHook.KeepsLedger (h :: busy))
    (hbody : NestedState.loadBody dl lib h errorBuffer errorBufferLength onOpen onHook s =
      some (code, s')) : NestedInv closing opening s' ∧ BusyFrame busy s s' := by
  have hclosing : h ∉ closing := fun hmem => hh (hsub hmem)
  have hslot : ∀ (raw : RawHandle) (s₁ : NestedState H),
      (s₁.storeOpened h (some raw)).slots h = some raw := by
    intro raw s₁
    simp [LoaderState.slots]
  cases hanswer : dl.dlopen lib [.rtldNow, .rtldLocal] with
  | failed text =>
      rw [NestedState.loadBody_of_dlopenFailed hanswer] at hbody
      obtain ⟨s₁, h₁, hs'⟩ := Option.bind_eq_some_iff.mp hbody
      obtain ⟨-, rfl⟩ := Prod.mk.inj (Option.some.inj hs')
      obtain ⟨hinv₁, hframe⟩ := hinv.constructed hheld hsub hh hopen none h₁
      have hcalled : UsesHeld
          (refs ((s₁.withRunning s.running).storeOpened h none).linker.events)
          (refs [.dlerror]) := fun e he => by cases he
      exact ⟨hinv₁.uses hcalled, hframe.running_eq, hframe.slots_eq⟩
  | opened raw pending =>
      cases hsym : dl.dlsym raw makeTracerFactorySymbol with
      | null text =>
          rw [NestedState.loadBody_of_hookMissing hanswer hsym] at hbody
          obtain ⟨s₁, h₁, hs'⟩ := Option.bind_eq_some_iff.mp hbody
          obtain ⟨-, rfl⟩ := Prod.mk.inj (Option.some.inj hs')
          obtain ⟨hinv₁, hframe⟩ := hinv.constructed hheld hsub hh hopen (some raw) h₁
          have hcalled : UsesHeld
              (refs ((s₁.withRunning s.running).storeOpened h (some raw)).linker.events)
              (refs [.dlerror, .dlsym raw, .dlerror]) := by
            refine fun e he => ⟨raw, ?_, hinv₁.held hclosing (hslot raw _)⟩
            exact List.mem_singleton.mp he
          exact ⟨hinv₁.uses hcalled, hframe.running_eq, hframe.slots_eq⟩
      | found hook =>
          rw [NestedState.loadBody_of_hookCalled hanswer hsym] at hbody
          obtain ⟨s₁, h₁, hbody⟩ := Option.bind_eq_some_iff.mp hbody
          obtain ⟨s₂, h₂, hs'⟩ := Option.bind_eq_some_iff.mp hbody
          obtain ⟨-, rfl⟩ := Prod.mk.inj (Option.some.inj hs')
          obtain ⟨hinv₁, hframe₁⟩ := hinv.constructed hheld hsub hh hopen (some raw) h₁
          have hcalled : UsesHeld
              (refs ((s₁.withRunning s.running).storeOpened h (some raw)).linker.events)
              (refs [.dlerror, .dlsym raw, .hook raw]) := by
            refine fun e he => ⟨raw, ?_, hinv₁.held hclosing (hslot raw _)⟩
            exact List.eq_of_mem_replicate (n := 2) he
          -- the hook runs with its handle busy, so that the library stays open
          obtain ⟨hinv₂, hframe₂⟩ := hhook closing opening _ s₂
            (fun k hk => List.mem_cons_of_mem h (hsub hk)) ((hinv₁.uses hcalled).withRunning _)
            (hheld.enterHook hframe₁.slots_eq hclosing (hslot raw _)) h₂
          have hinv₃ := (hinv₂.withRunning s.running).setFactory h
            (hook opentracingcVersionString errorBuffer errorBufferLength).factory
          refine ⟨⟨hinv₃.covered, hinv₃.balanced, hinv₃.intoClosed_eq⟩, ?_⟩
          have hentered : BusyFrame busy s (s₂.withRunning s.running) :=
            ⟨rfl, fun k hk => (hframe₂.of_cons.slots_eq k hk).trans (hframe₁.slots_eq k hk)⟩
          exact hentered.assign hh rfl fun k hk => Function.update_of_ne hk _ _

/-- A `dlclose` and the assignment after it, with destructors that preserve the invariant. -/
theorem destructed (hinv : NestedInv closing opening s)
    (hheld : RunningHeld busy closing opening s) (hsub : closing ⊆ busy) (hh : h ∉ busy)
    (hclose : onClose.KeepsLedger (h :: busy)) (hs : (s.handles h).libHandle = some raw)
    (h₁ : onClose (s.withLinker (s.linker.dlclose dl raw)) = some s') :
    NestedInv closing opening (s'.setLibHandle h none) ∧
      BusyFrame busy s (s'.setLibHandle h none) := by
  have hclosing : h ∉ closing := fun hmem => hh (hsub hmem)
  have hsub' : h :: closing ⊆ h :: busy := List.cons_subset_cons h hsub
  obtain ⟨hinv₁, hframe⟩ := hclose (h :: closing) opening _ s' hsub' (hinv.closed _ hclosing hs)
    (hheld.enterDestructors hh) h₁
  have hentered : BusyFrame busy s s' := ⟨hframe.running_eq, hframe.of_cons.slots_eq⟩
  exact ⟨hinv₁.cleared hclosing, hentered.assign hh rfl fun k hk => Function.update_of_ne hk _ _⟩

/-- A load behind the label `cleanup`. -/
theorem cleanup (hinv : NestedInv closing opening s)
    (hheld : RunningHeld busy closing opening s) (hsub : closing ⊆ busy) (hh : h ∉ busy)
    (hclose : onClose.KeepsLedger (h :: busy))
    (hcleanup : NestedState.cleanup dl h onClose code s = some s') :
    NestedInv closing opening s' ∧ BusyFrame busy s s' := by
  by_cases hcode : code = .success
  · rw [hcode, NestedState.cleanup_success] at hcleanup
    obtain rfl := Option.some.inj hcleanup
    exact ⟨hinv, .refl busy s⟩
  · cases hs : (s.handles h).libHandle with
    | none =>
        rw [NestedState.cleanup_of_libHandle_none code hs] at hcleanup
        obtain rfl := Option.some.inj hcleanup
        exact ⟨hinv, .refl busy s⟩
    | some raw =>
        rw [NestedState.cleanup_of_libHandle_some hcode hs] at hcleanup
        obtain ⟨s₁, h₁, rfl⟩ := Option.map_eq_some_iff.mp hcleanup
        exact hinv.destructed hheld hsub hh hclose hs h₁

/-- A load, with code that preserves the invariant. -/
theorem load (hinv : NestedInv closing opening s)
    (hheld : RunningHeld busy closing opening s) (hsub : closing ⊆ busy) (hh : h ∉ busy)
    (hopen : onOpen.KeepsLedger busy) (hhook : onHook.KeepsLedger (h :: busy))
    (hclose : onClose.KeepsLedger (h :: busy))
    (hload : s.load build dl lib h errorBuffer errorBufferLength onOpen onHook onClose =
      some (code, s')) : NestedInv closing opening s' ∧ BusyFrame busy s s' := by
  cases build with
  | noWeakSymbols =>
      obtain ⟨-, rfl⟩ := Prod.mk.inj (Option.some.inj hload)
      exact hinv.returns hheld _ _
  | weakSymbols =>
      obtain ⟨-, s₁, s₂, h₁, h₂, rfl⟩ := NestedState.load_eq_some_iff.mp hload
      obtain ⟨hinv₁, hframe₁⟩ := hinv.loadBody hheld hsub hh hopen hhook h₁
      have hheld₁ := hheld.of_frame hframe₁
      obtain ⟨hinv₂, hframe₂⟩ := hinv₁.cleanup hheld₁ hsub hh hclose h₂
      obtain ⟨hinv₃, hframe₃⟩ := hinv₂.returns (hheld₁.of_frame hframe₂) _ _
      exact ⟨hinv₃, hframe₁.trans (hframe₂.trans hframe₃)⟩

/-- A destroy of a handle, with code that preserves the invariant. -/
theorem destroy (hinv : NestedInv closing opening s)
    (hheld : RunningHeld busy closing opening s) (hsub : closing ⊆ busy) (hh : h ∉ busy)
    (hclose : onClose.KeepsLedger (h :: busy))
    (hdestroy : s.destroy dl (some h) onClose = some s') :
    NestedInv closing opening s' ∧ BusyFrame busy s s' := by
  cases hs : (s.handles h).libHandle with
  | none =>
      rw [NestedState.destroy_of_libHandle_none hs] at hdestroy
      obtain rfl := Option.some.inj hdestroy
      exact hinv.returns hheld _ _
  | some raw =>
      rw [NestedState.destroy_of_libHandle_some hs] at hdestroy
      obtain ⟨s₁, h₁, rfl⟩ := Option.map_eq_some_iff.mp hdestroy
      have hframe : BusyFrame busy s (s.setFactory h none) :=
        (BusyFrame.refl busy s).assign hh rfl fun k hk => Function.update_of_ne hk _ _
      have hslot : ((s.setFactory h none).handles h).libHandle = some raw := by
        rw [NestedState.handles_setFactory_self, hs]
      obtain ⟨hinv₁, hframe₁⟩ := (hinv.setFactory h none).destructed (hheld.of_frame hframe) hsub
        hh hclose hslot h₁
      have hframe₂ := hframe.trans hframe₁
      obtain ⟨hinv₂, hframe₃⟩ := hinv₁.returns (hheld.of_frame hframe₂) (.destroy dl (some h)) none
      exact ⟨hinv₂, hframe₂.trans hframe₃⟩

end NestedInv

/-- A destroy of a handle that holds a library, whose destructors call nothing. -/
theorem exec_destroy_done {build : Build} {dl : DlLibrary} {h : H} {raw : RawHandle}
    {s : NestedState H} (hs : (s.handles h).libHandle = some raw) :
    ∃ s', (LoaderScript.destroy dl (some h) .done .done).exec build s = some s' ∧
      (s'.handles h).libHandle = none ∧
      s'.intoClosed = s.intoClosed ++ s.running.filter fun lib =>
        !decide (Held (refs (s.linker.events ++ [.dlclose raw])) lib) := by
  simp only [LoaderScript.exec, NestedState.destroy_of_libHandle_some hs, Option.map_some,
    Option.bind_eq_bind, Option.bind_some, Option.some.injEq, exists_eq_left']
  refine ⟨?_, rfl⟩
  simp [NestedState.returns]

/-- **A hook that destroys the handle it is loaded into** is returned into after its library
was closed, exactly when there was no other open reference. -/
theorem hook_destroys_into_closed_iff {dl : DlLibrary} {lib : CString} {h : H} {raw : RawHandle}
    {pending : Option CString} {hook : MakeTracerFactory} {errorBuffer : Option Bytes}
    {errorBufferLength : CInt} {s : NestedState H}
    (hadm : Admits .weakSymbols errorBuffer errorBufferLength)
    (hopen : dl.dlopen lib [.rtldNow, .rtldLocal] = .opened raw pending)
    (hsym : dl.dlsym raw makeTracerFactorySymbol = .found hook) (hrunning : s.running = [])
    (hnone : s.intoClosed = []) (dl' : DlLibrary) :
    ∃ s', (LoaderScript.load dl lib h errorBuffer errorBufferLength .done
        (.destroy dl' (some h) .done .done) .done fun _ => .done).exec .weakSymbols s = some s' ∧
      (s'.intoClosed = [] ↔ Held (refs s.linker.events) raw) := by
  -- the hook is entered with `lib_handle` stored
  obtain ⟨s₁, hs₁⟩ : ∃ s₁, s₁ = (((((s.withLinker
      ⟨pending, s.linker.events ++ [.dlopen (some raw)]⟩).withRunning
        (raw :: s.running)).withRunning s.running).storeOpened h (some raw)).withLinker
      ⟨none, s.linker.events ++ [.dlopen (some raw)] ++
        [.dlerror, .dlsym raw, .hook raw]⟩).withRunning (raw :: s.running) := ⟨_, rfl⟩
  have hslot : (s₁.handles h).libHandle = some raw := by
    rw [hs₁]
    simp
  obtain ⟨s₂, hexec, hlib, hinto⟩ : ∃ s₂, (LoaderScript.destroy dl' (some h) .done
      .done).exec .weakSymbols s₁ = some s₂ ∧ _ := exec_destroy_done hslot
  -- the load goes on with `lib_handle` cleared
  obtain ⟨result, hresult⟩ : ∃ result,
      hook opentracingcVersionString errorBuffer errorBufferLength = result := ⟨_, rfl⟩
  obtain ⟨s₃, hs₃⟩ : ∃ s₃, s₃ = ((s₂.withRunning s.running).setFactory h result.factory).withLinker
      ⟨result.dlerrorText, s₂.linker.events⟩ := ⟨_, rfl⟩
  have hbody : NestedState.loadBody dl lib h errorBuffer errorBufferLength
      (LoaderScript.done.exec .weakSymbols)
      ((LoaderScript.destroy dl' (some h) .done .done).exec .weakSymbols) s =
        some ((hookStage raw result).returnCode, s₃) := by
    rw [NestedState.loadBody_of_hookCalled hopen hsym, hresult, hs₃]
    rw [hs₁] at hexec
    exact (congrArg (Option.bind · _) hexec).trans rfl
  have hlib₃ : (s₃.handles h).libHandle = none := by
    rw [hs₃]
    simpa using hlib
  have hcleanup : NestedState.cleanup dl h (LoaderScript.done.exec .weakSymbols)
      (hookStage raw result).returnCode s₃ = some s₃ :=
    NestedState.cleanup_of_libHandle_none _ hlib₃
  have hload := NestedState.load_eq_some_iff.mpr ⟨hadm, s₃, s₃, hbody, hcleanup, rfl⟩
  refine ⟨_, (congrArg (Option.bind · _) hload).trans rfl, ?_⟩
  -- when the destroy returns, the library is open if it was before the load
  have hheld : Held (refs (s₁.linker.events ++ [.dlclose raw])) raw ↔
      Held (refs s.linker.events) raw := by
    have hrefs : refs s₁.linker.events =
        refs s.linker.events ++ [.acquire raw, .use raw, .use raw] := by
      rw [hs₁]
      change refs (s.linker.events ++ [.dlopen (some raw)] ++ [.dlerror, .dlsym raw, .hook raw]) = _
      rw [refs_append, refs_append, List.append_assoc]
      rfl
    have hclose : refs [.dlclose raw] = [.release raw] := rfl
    rw [refs_append, hrefs, hclose]
    simp [Held]
  have hinto₃ : s₃.intoClosed = [raw].filter fun lib =>
      !decide (Held (refs (s₁.linker.events ++ [.dlclose raw])) lib) := by
    rw [hs₁] at hinto ⊢
    rw [hs₃]
    refine hinto.trans ?_
    simp only [NestedState.running_withRunning, hrunning]
    exact congrArg (· ++ _) hnone
  have hclosedRunning : s₃.closedRunning = [] := by
    rw [NestedState.closedRunning, hs₃]
    exact congrArg (List.filter _) hrunning
  rw [NestedState.returns, hclosedRunning, hinto₃, List.append_nil, ← hheld]
  simp [List.filter_cons]

/-- **A destructor that destroys its own handle** closes the library once more: the ledger
stays covered exactly when the library has another open reference. -/
theorem covered_destroy_twice_iff [Fintype H] {build : Build} {s : NestedState H} {h : H}
    {raw : RawHandle} (hinv : LoaderInv s.toLoaderState) (hs : s.slots h = some raw)
    (dl dl' : DlLibrary) :
    ∃ s', (LoaderScript.destroy dl (some h) (.destroy dl' (some h) .done .done) .done).exec build
        s = some s' ∧
      (Covered (refs s'.linker.events) ↔
        released raw (refs s.linker.events) + 2 ≤ acquired raw (refs s.linker.events)) := by
  have hheld := hinv.held hs
  -- the destroy of the destructor finds `lib_handle` as the outer one found it
  have hslot : (((s.setFactory h none).withLinker (s.linker.dlclose dl raw)).handles h).libHandle =
      some raw := by
    rw [NestedState.handles_withLinker, NestedState.handles_setFactory_self]
    exact hs
  obtain ⟨s', hexec, hevents⟩ : ∃ s', (LoaderScript.destroy dl (some h)
      (.destroy dl' (some h) .done .done) .done).exec build s = some s' ∧
      refs s'.linker.events = refs s.linker.events ++ [.release raw, .release raw] := by
    simp only [LoaderScript.exec, NestedState.destroy_of_libHandle_some hs,
      NestedState.destroy_of_libHandle_some hslot, Option.map_some, Option.bind_eq_bind,
      Option.bind_some, Option.some.injEq, exists_eq_left']
    change refs (s.linker.events ++ [.dlclose raw] ++ [.dlclose raw]) = _
    rw [refs_append, refs_append, List.append_assoc]
    rfl
  refine ⟨s', hexec, ?_⟩
  rw [hevents, covered_append_iff]
  simp only [Held] at hheld
  simp [CoveredAfter, hinv.covered, Held]
  omega

end

end OpentracingC
