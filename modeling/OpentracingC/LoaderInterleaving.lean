import OpentracingC.Lib.Simulation
import OpentracingC.LoaderRuns

/-!
# Interleaved Loads without a Contract

`loaderMachine` asks its callers to load only into handles that hold no library.
`freeLoaderMachine` asks for nothing: either build, loads and destroys of any handles in any
order, and hooks that answer as they like.

What remains true there is the ledger. No library is closed more often than it was opened,
and every call into a library finds it open; the references that are open are those of the
handles and those that loads dropped, one for each load into a handle that held the library
(`free_runs_balance`). The calls on a handle are a run of their own: what is in a handle,
and what was done to the libraries for it, does not depend on the other handles, nor on
the text the linker had pending (`free_runs_project`).

Under the contract nothing is dropped, so that destroying the handles, in any order and
any number of times, closes every library as often as it was opened (`loader_shutdown`).
-/

open CMemory RefLedger

namespace OpentracingC

variable {H : Type*} [DecidableEq H]

/-- The loader of a build, with no contract of its callers. -/
def freeLoaderMachine (build : Build) (H : Type*) [DecidableEq H] :
    Machine (LoaderState H) (LoaderCall H) where
  step s
    | .load dl lib h errorBuffer errorBufferLength =>
        s.load build dl lib h errorBuffer errorBufferLength
    | .destroy dl h => some (s.destroy dl h)
  Allowed _ _ := True

/-! ### Dropped libraries -/

/-- The library a call drops from a handle: a load into a handle that holds one, in a build
with weak symbols. -/
def LoaderState.dropped (build : Build) (s : LoaderState H) : LoaderCall H → List RawHandle
  | .load _ _ h _ _ => droppedBy build (s.handles h)
  | .destroy _ _ => []

/-- The libraries that calls drop one after another. -/
def LoaderState.drops (build : Build) : LoaderState H → List (LoaderCall H) → List RawHandle
  | _, [] => []
  | s, call :: calls =>
      s.dropped build call ++
        match (freeLoaderMachine build H).step s call with
        | some s' => s'.drops build calls
        | none => []

/-- A call adds what it drops to what was dropped before. -/
theorem overwritten_of_step {build : Build} {s s' : LoaderState H} {call : LoaderCall H}
    (hstep : (freeLoaderMachine build H).step s call = some s') :
    s'.overwritten = s.dropped build call ++ s.overwritten := by
  cases call with
  | load dl lib h errorBuffer errorBufferLength =>
      exact (LoaderState.stepsTo_of_load hstep).overwritten_eq
  | destroy dl h =>
      obtain rfl : s.destroy dl h = s' := Option.some.inj hstep
      cases h <;> rfl

/-- What was dropped by the end of a run. -/
theorem count_overwritten_of_run {build : Build} {s s' : LoaderState H}
    {calls : List (LoaderCall H)} (hrun : (freeLoaderMachine build H).Run s calls s')
    (lib : RawHandle) :
    s'.overwritten.count lib = s.overwritten.count lib + (s.drops build calls).count lib := by
  induction hrun with
  | nil s => rfl
  | @cons s s₁ s' call calls _ hstep _ ih =>
      rw [ih, overwritten_of_step hstep, LoaderState.drops, hstep, List.count_append,
        List.count_append]
      dsimp only
      omega

/-! ### The ledger -/

/-- Every call preserves the loader invariant. -/
theorem LoaderInv.free_step [Fintype H] {build : Build} {s s' : LoaderState H}
    {call : LoaderCall H} (hinv : LoaderInv s)
    (hstep : (freeLoaderMachine build H).step s call = some s') : LoaderInv s' := by
  cases call with
  | load dl lib h errorBuffer errorBufferLength => exact hinv.load hstep
  | destroy dl h =>
      obtain rfl : s.destroy dl h = s' := Option.some.inj hstep
      exact hinv.destroy dl h

/-- **The ledger without a contract**: in every run of either build from zeroed handles, with
libraries that do not call the loader, whatever the hooks and the order of the calls, every
`dlclose`, `dlsym` and hook invocation is made while its library has an open reference, and
the references that are open at the end are those of the handles and one for each load that
was made into a handle that held the library. -/
theorem free_runs_balance [Fintype H] {build : Build} {dlerrorText : Option CString}
    {calls : List (LoaderCall H)} {s : LoaderState H}
    (hrun : (freeLoaderMachine build H).Run (.start H dlerrorText) calls s) :
    Covered (refs s.linker.events) ∧
      ∀ lib, acquired lib (refs s.linker.events) =
        released lib (refs s.linker.events) + holders s.slots lib +
          ((LoaderState.start H dlerrorText).drops build calls).count lib := by
  have hinv : LoaderInv s :=
    hrun.invariant (fun _ _ _ hinv _ hs => hinv.free_step hs) (loaderInv_start dlerrorText)
  refine ⟨hinv.covered, fun lib => ?_⟩
  have hdropped := count_overwritten_of_run hrun lib
  have hstart : (LoaderState.start H dlerrorText).overwritten.count lib = 0 := rfl
  rw [hstart, Nat.zero_add] at hdropped
  rw [← hdropped]
  exact hinv.balanced lib

/-! ### One handle of many -/

/-- What a call means to the handle `k`. -/
def LoaderCall.on (k : H) : LoaderCall H → Option (LoaderCall Unit)
  | .load dl lib h errorBuffer errorBufferLength =>
      if h = k then some (.load dl lib () errorBuffer errorBufferLength) else none
  | .destroy dl (some h) => if h = k then some (.destroy dl (some ())) else none
  | .destroy _ none => none

/-- A process with one handle is in the state of the handle `k`, and what was done for it
was done. -/
structure HandleRel (k : H) (s : LoaderState H) (t : LoaderState Unit) : Prop where
  handle_eq : t.handles () = s.handles k
  events_sublist : t.linker.events.Sublist s.linker.events
  overwritten_sublist : t.overwritten.Sublist s.overwritten

/-- A load on the handle `k`, made on both sides. -/
theorem HandleRel.load {build : Build} {k : H} {s s' : LoaderState H} {t : LoaderState Unit}
    (hrel : HandleRel k s t) {dl : DlLibrary} {lib : CString} {errorBuffer : Option Bytes}
    {errorBufferLength : CInt}
    (hload : s.load build dl lib k errorBuffer errorBufferLength = some s') :
    ∃ t', t.load build dl lib () errorBuffer errorBufferLength = some t' ∧ HandleRel k s' t' := by
  obtain ⟨t', ht⟩ := LoaderState.exists_load (LoaderState.admits_of_load hload) dl lib () t
  have hto := LoaderState.stepsTo_of_load hload
  have hto' := LoaderState.stepsTo_of_load ht
  refine ⟨t', ht, ?_, ?_, ?_⟩
  · rw [hto.handles_eq, hto'.handles_eq, Function.update_self, Function.update_self,
      hrel.handle_eq]
  · rw [hto.events_eq, hto'.events_eq]
    exact hrel.events_sublist.append (List.Sublist.refl _)
  · rw [hto.overwritten_eq, hto'.overwritten_eq, hrel.handle_eq]
    exact (List.Sublist.refl _).append hrel.overwritten_sublist

/-- A destroy of the handle `k`, made on both sides. -/
theorem HandleRel.destroy {k : H} {s : LoaderState H} {t : LoaderState Unit}
    (hrel : HandleRel k s t) (dl : DlLibrary) :
    HandleRel k (s.destroy dl (some k)) (t.destroy dl (some ())) := by
  have hslots : t.slots () = s.slots k := by
    rw [LoaderState.slots, LoaderState.slots, hrel.handle_eq]
  rcases hs : s.slots k with _ | lib
  · rw [LoaderState.destroy_of_slots_none hs,
      LoaderState.destroy_of_slots_none (hslots.trans hs)]
    exact ⟨hrel.handle_eq, hrel.events_sublist, hrel.overwritten_sublist⟩
  · rw [LoaderState.destroy_of_slots_some hs,
      LoaderState.destroy_of_slots_some (hslots.trans hs)]
    refine ⟨?_, hrel.events_sublist.append (List.Sublist.refl _), hrel.overwritten_sublist⟩
    dsimp only
    rw [Function.update_self, Function.update_self]

/-- A load on another handle. -/
theorem HandleRel.load_other {build : Build} {k h : H} {s s' : LoaderState H}
    {t : LoaderState Unit} (hrel : HandleRel k s t) (hne : h ≠ k) {dl : DlLibrary}
    {lib : CString} {errorBuffer : Option Bytes} {errorBufferLength : CInt}
    (hload : s.load build dl lib h errorBuffer errorBufferLength = some s') :
    HandleRel k s' t := by
  have hto := LoaderState.stepsTo_of_load hload
  refine ⟨?_, ?_, ?_⟩
  · rw [hto.handles_eq, Function.update_of_ne (Ne.symm hne)]
    exact hrel.handle_eq
  · rw [hto.events_eq]
    exact hrel.events_sublist.trans (List.sublist_append_left _ _)
  · rw [hto.overwritten_eq]
    exact hrel.overwritten_sublist.trans (List.sublist_append_right _ _)

/-- A destroy of another handle. -/
theorem HandleRel.destroy_other {k h : H} {s : LoaderState H} {t : LoaderState Unit}
    (hrel : HandleRel k s t) (hne : h ≠ k) (dl : DlLibrary) :
    HandleRel k (s.destroy dl (some h)) t := by
  rcases hs : s.slots h with _ | lib
  · rw [LoaderState.destroy_of_slots_none hs]
    exact ⟨hrel.handle_eq, hrel.events_sublist, hrel.overwritten_sublist⟩
  · rw [LoaderState.destroy_of_slots_some hs]
    refine ⟨?_, hrel.events_sublist.trans (List.sublist_append_left _ _),
      hrel.overwritten_sublist⟩
    dsimp only
    rw [Function.update_of_ne (Ne.symm hne)]
    exact hrel.handle_eq

/-- **A handle is explained by the calls on it.** -/
theorem freeLoaderMachine_simulation (build : Build) (k : H) :
    Machine.Simulation (freeLoaderMachine build H) (freeLoaderMachine build Unit)
      (LoaderCall.on k) (HandleRel k) where
  matched s s' t call call' hrel _ hstep hlabel := by
    refine ⟨trivial, ?_⟩
    cases call with
    | load dl lib h errorBuffer errorBufferLength =>
        obtain ⟨rfl, rfl⟩ : h = k ∧ .load dl lib () errorBuffer errorBufferLength = call' := by
          simpa [LoaderCall.on] using hlabel
        exact hrel.load hstep
    | destroy dl h =>
        rcases h with _ | h
        · cases hlabel
        · obtain ⟨rfl, rfl⟩ : h = k ∧ .destroy dl (some ()) = call' := by
            simpa [LoaderCall.on] using hlabel
          obtain rfl : s.destroy dl (some h) = s' := Option.some.inj hstep
          exact ⟨t.destroy dl (some ()), rfl, hrel.destroy dl⟩
  silent s s' t call hrel _ hstep hlabel := by
    cases call with
    | load dl lib h errorBuffer errorBufferLength =>
        have hne : h ≠ k := by
          intro heq
          simp [LoaderCall.on, heq] at hlabel
        exact hrel.load_other hne hstep
    | destroy dl h =>
        obtain rfl : s.destroy dl h = s' := Option.some.inj hstep
        rcases h with _ | h
        · exact ⟨hrel.handle_eq, hrel.events_sublist, hrel.overwritten_sublist⟩
        · have hne : h ≠ k := by
            intro heq
            simp [LoaderCall.on, heq] at hlabel
          exact hrel.destroy_other hne dl

/-- **Handles do not interfere**: in every run of either build, the calls on a handle alone,
on a linker with any text pending, are a run that leaves the handle as it is after the whole
run; what that run did with the libraries is part, in the same order, of what was done, and
so are the libraries it dropped. -/
theorem free_runs_project {build : Build} {dlerrorText : Option CString}
    {calls : List (LoaderCall H)} {s : LoaderState H}
    (hrun : (freeLoaderMachine build H).Run (.start H dlerrorText) calls s) (k : H)
    (dlerrorText' : Option CString) :
    ∃ t, (freeLoaderMachine build Unit).Run (.start Unit dlerrorText')
        (calls.filterMap (LoaderCall.on k)) t ∧
      t.handles () = s.handles k ∧ t.linker.events.Sublist s.linker.events ∧
      t.overwritten.Sublist s.overwritten := by
  have hrel : HandleRel k (LoaderState.start H dlerrorText) (.start Unit dlerrorText') :=
    ⟨rfl, List.Sublist.refl _, List.Sublist.refl _⟩
  obtain ⟨t, ht, hrel'⟩ := (freeLoaderMachine_simulation build k).run hrel hrun
  exact ⟨t, ht, hrel'.handle_eq, hrel'.events_sublist, hrel'.overwritten_sublist⟩

/-- Two handles share a library, and one of them is loaded again. -/
def reloadCalls : List (LoaderCall Bool) :=
  [.load (DlLibrary.present 7 .success (some 1)) libraryName true none CInt.zero,
    .load (DlLibrary.present 7 .success (some 1)) libraryName false none CInt.zero,
    .load (DlLibrary.present 7 .success (some 1)) libraryName true none CInt.zero,
    .destroy DlLibrary.absent (some true), .destroy DlLibrary.absent (some false)]

/-- A load into a loaded handle costs one reference: with both handles destroyed, one of
three is open. -/
theorem free_runs_balance_reload :
    ∃ s, (freeLoaderMachine .weakSymbols Bool).Run (.start Bool none) reloadCalls s ∧
      acquired 7 (refs s.linker.events) = released 7 (refs s.linker.events) +
        holders s.slots 7 + 1 := by
  obtain ⟨s, hrun⟩ : ∃ s, (freeLoaderMachine .weakSymbols Bool).Run (.start Bool none)
      reloadCalls s :=
    ⟨_, .cons trivial rfl (.cons trivial rfl (.cons trivial rfl (.cons trivial rfl
      (.cons trivial rfl (.nil _)))))⟩
  exact ⟨s, hrun, (free_runs_balance hrun).2 7⟩

/-- After these calls, the second handle is as if it had been used alone. -/
theorem free_runs_project_reload :
    ∃ s t, (freeLoaderMachine .weakSymbols Bool).Run (.start Bool none) reloadCalls s ∧
      (freeLoaderMachine .weakSymbols Unit).Run (.start Unit (some notFoundText))
        [.load (DlLibrary.present 7 .success (some 1)) libraryName () none CInt.zero,
          .destroy DlLibrary.absent (some ())] t ∧
      t.handles () = s.handles false := by
  obtain ⟨s, hrun⟩ : ∃ s, (freeLoaderMachine .weakSymbols Bool).Run (.start Bool none)
      reloadCalls s :=
    ⟨_, .cons trivial rfl (.cons trivial rfl (.cons trivial rfl (.cons trivial rfl
      (.cons trivial rfl (.nil _)))))⟩
  obtain ⟨t, ht, hhandle, -⟩ := free_runs_project hrun false (some notFoundText)
  exact ⟨s, t, hrun, ht, hhandle⟩

/-! ### Shutting down under the contract -/

/-- A call that destroys a handle, or NULL. -/
def LoaderCall.IsDestroy : LoaderCall H → Prop
  | .load _ _ _ _ _ => False
  | .destroy _ _ => True

omit [DecidableEq H] in
theorem LoaderCall.exists_of_isDestroy {call : LoaderCall H} (h : call.IsDestroy) :
    ∃ dl k, call = .destroy dl k := by
  cases call with
  | load dl lib k errorBuffer errorBufferLength => exact absurd h id
  | destroy dl k => exact ⟨dl, k, rfl⟩

/-- A destroy empties its handle, and fills none. -/
theorem slots_destroy (s : LoaderState H) (dl : DlLibrary) (h : Option H) :
    (∀ k, s.slots k = none → (s.destroy dl h).slots k = none) ∧
      ∀ k, h = some k → (s.destroy dl h).slots k = none := by
  rcases h with _ | h
  · exact ⟨fun k hk => hk, fun k hk => by cases hk⟩
  · rcases hs : s.slots h with _ | lib
    · rw [LoaderState.destroy_of_slots_none hs]
      refine ⟨fun k hk => hk, fun k hk => ?_⟩
      obtain rfl : h = k := Option.some.inj hk
      exact hs
    · rw [LoaderState.destroy_of_slots_some hs]
      have hslots := slots_update s.handles h OpentracingLibraryHandle.null
      refine ⟨fun k hk => (congrFun hslots k).trans ?_, fun k hk => (congrFun hslots k).trans ?_⟩
      · by_cases hkh : k = h
        · subst hkh
          exact Function.update_self _ _ _
        · exact (Function.update_of_ne hkh _ _).trans hk
      · obtain rfl : h = k := Option.some.inj hk
        exact Function.update_self _ _ _

/-- A destroy opens no library. -/
theorem acquired_destroy (s : LoaderState H) (dl : DlLibrary) (h : Option H) (lib : RawHandle) :
    acquired lib (refs (s.destroy dl h).linker.events) =
      acquired lib (refs s.linker.events) := by
  rcases h with _ | h
  · rfl
  · rcases hs : s.slots h with _ | raw
    · rw [LoaderState.destroy_of_slots_none hs]
    · have hevents : refs (s.destroy dl (some h)).linker.events =
          refs s.linker.events ++ [.release raw] := by
        rw [LoaderState.destroy_of_slots_some hs]
        exact refs_append _ [.dlclose raw]
      rw [hevents, acquired_append, acquired_cons_release, acquired_nil, Nat.add_zero]

/-- Destroys, in any order, are a run that empties their handles. -/
theorem exists_run_destroys (calls : List (LoaderCall H)) (hcalls : ∀ call ∈ calls, call.IsDestroy)
    (s : LoaderState H) :
    ∃ s', (loaderMachine H).Run s calls s' ∧ (∀ h, s.slots h = none → s'.slots h = none) ∧
      (∀ dl h, .destroy dl (some h) ∈ calls → s'.slots h = none) ∧
      ∀ lib, acquired lib (refs s'.linker.events) = acquired lib (refs s.linker.events) := by
  induction calls generalizing s with
  | nil => exact ⟨s, .nil s, fun h hs => hs, fun dl h hmem => (by cases hmem), fun lib => rfl⟩
  | cons call calls ih =>
      obtain ⟨dl, k, rfl⟩ := LoaderCall.exists_of_isDestroy (hcalls _ List.mem_cons_self)
      obtain ⟨hkept, hemptied⟩ := slots_destroy s dl k
      obtain ⟨s', hrun, hkept', hemptied', hacquired⟩ :=
        ih (fun call hcall => hcalls call (List.mem_cons_of_mem _ hcall)) (s.destroy dl k)
      refine ⟨s', .cons trivial rfl hrun, fun h hs => hkept' h (hkept h hs), fun dl' h hmem => ?_,
        fun lib => (hacquired lib).trans (acquired_destroy s dl k lib)⟩
      rcases List.mem_cons.mp hmem with heq | hmem
      · obtain ⟨-, rfl⟩ : dl' = dl ∧ some h = k := by simpa using heq
        exact hkept' h (hemptied h rfl)
      · exact hemptied' dl' h hmem

/-- **Orderly shutdown**: after every run under the contract, destroying the handles, in any
order, any number of times and with NULL in between, is again a run; it leaves every field of
every handle NULL, closes each library once for each handle that held it, and so leaves it
closed as often as it was opened. -/
theorem loader_shutdown [Fintype H] {dlerrorText : Option CString} {calls : List (LoaderCall H)}
    {s : LoaderState H} (hrun : (loaderMachine H).Run (.start H dlerrorText) calls s)
    {destroys : List (LoaderCall H)} (hdestroys : ∀ call ∈ destroys, call.IsDestroy)
    (hall : ∀ h, ∃ dl, .destroy dl (some h) ∈ destroys) :
    ∃ s', (loaderMachine H).Run s destroys s' ∧
      (∀ h, s'.handles h = OpentracingLibraryHandle.null) ∧
      ∀ lib, released lib (refs s'.linker.events) =
          released lib (refs s.linker.events) + holders s.slots lib ∧
        acquired lib (refs s'.linker.events) = released lib (refs s'.linker.events) := by
  obtain ⟨s', hrun', -, hemptied, hacquired⟩ := exists_run_destroys destroys hdestroys s
  obtain ⟨-, -, hbal⟩ := loaderMachine_run_invariant hrun
  obtain ⟨hpaired', -, hbal'⟩ := loaderMachine_run_invariant (hrun.append hrun')
  have hslots : s'.slots = fun _ => none := by
    funext h
    obtain ⟨dl, hmem⟩ := hall h
    exact hemptied dl h hmem
  refine ⟨s', hrun', fun h => ?_, fun lib => ?_⟩
  · have hlib : (s'.handles h).libHandle = none := congrFun hslots h
    have hfactory : (s'.handles h).factory = none := by
      by_contra hne
      exact (hpaired'.paired h).mp hne hlib
    calc s'.handles h = ⟨(s'.handles h).factory, (s'.handles h).libHandle⟩ := rfl
      _ = OpentracingLibraryHandle.null := by rw [hlib, hfactory]; rfl
  · have hclosed := hbal' lib
    rw [hslots, holders_none, Nat.add_zero] at hclosed
    refine ⟨?_, hclosed⟩
    rw [← hclosed, hacquired lib, hbal lib]

/-- Two handles that share a library are destroyed, one of them twice. -/
theorem loader_shutdown_shared :
    ∃ s s', (loaderMachine Bool).Run (LoaderState.start Bool none) (sharedCalls.take 2) s ∧
      (loaderMachine Bool).Run s
        [.destroy DlLibrary.absent (some true), .destroy DlLibrary.absent none,
          .destroy DlLibrary.absent (some true), .destroy DlLibrary.absent (some false)] s' ∧
      acquired 7 (refs s'.linker.events) = released 7 (refs s'.linker.events) := by
  have hdl := DlLibrary.hooksReturnNullOnFailure_present 7 (some 1)
  have hadm : Admits .weakSymbols none CInt.zero := fun _ => Or.inr rfl
  obtain ⟨s, hrun⟩ : ∃ s, (loaderMachine Bool).Run (LoaderState.start Bool none)
      (sharedCalls.take 2) s :=
    ⟨_, .cons ⟨rfl, hdl, hadm⟩ rfl (.cons ⟨rfl, hdl, hadm⟩ rfl (.nil _))⟩
  have hdestroys : ∀ call ∈ [LoaderCall.destroy DlLibrary.absent (some true),
      .destroy DlLibrary.absent none, .destroy DlLibrary.absent (some true),
      .destroy DlLibrary.absent (some false)], call.IsDestroy := by
    simp [LoaderCall.IsDestroy]
  obtain ⟨s', hrun', -, hclosed⟩ := loader_shutdown hrun hdestroys fun h =>
    ⟨DlLibrary.absent, by cases h <;> simp⟩
  exact ⟨s, s', hrun, hrun', (hclosed 7).2⟩

end OpentracingC
