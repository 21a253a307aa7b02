import OpentracingC.GlobalTracer
import OpentracingC.LoaderRuns

/-!
# Tracers of Loaded Libraries

The loader and the global tracer share no state, but the destroy method of a tracer that
was created through a handle is code of the library the handle was loaded with, and
`opentracing_init_global_tracer` calls it. `ProcessState` puts the two modules together:
the handles and the linker, the library whose factory each handle holds, and for every
tracer created through a handle that handle and its library.

A handle may hold a pointer that no successful load has stored, since a load that fails does
not reset `handle->factory`. `factoryLib` tells the two apart: it is the library of a factory
that came from a successful load.

The contract of the callers is that of `dynamic_load.h`, that a handle is destroyed only
after every tracer created through it was, and that a destroyed tracer is not installed.
`PluginsInv` carries it through a run: a tracer that was not destroyed belongs to a library
that is still open, either in its handle or because a later load overwrote the handle
without closing it. So no call fails (`process_runs_progress`), every call into a library
finds it open, and the global tracer is always one that was not destroyed
(`plugin_calls_covered`).
-/

open CMemory RefLedger

namespace OpentracingC

/-- The plugins of a process with the handles `H`. -/
structure Plugins (H : Type) where
  loader : LoaderState H
  /-- The library of the factory a handle holds, where a load that succeeded stored it and
  the handle was not destroyed since. -/
  factoryLib : H → Option RawHandle
  /-- The handle a tracer was created through, and its library. -/
  origin : TracerPtr → Option (H × RawHandle)
  /-- The destroy method of a tracer was called. -/
  destroyed : TracerPtr → Bool
  /-- The tracers from libraries whose destroy method was called, each with its library. -/
  destroyLog : List (TracerPtr × RawHandle)

/-- A process with plugins and a global tracer. -/
abbrev ProcessState (H : Type) := GlobalState (Plugins H)

variable {H : Type}

/-- A call into a library, as the log of the linker records it. -/
def LoaderState.callPlugin (event : LinkerEvent) (s : LoaderState H) : LoaderState H :=
  { s with linker := { s.linker with events := s.linker.events ++ [event] } }

/-- The call of a destroy method that is code of `lib`, if it is code of a library. -/
def LoaderState.callDestroy (lib : Option RawHandle) (s : LoaderState H) : LoaderState H :=
  match lib with
  | some lib => s.callPlugin (.destroy lib)
  | none => s

/-- The call of a tracer's destroy method. -/
def Plugins.destroyTracer (t : TracerPtr) (p : Plugins H) : Plugins H :=
  { p with
    loader := p.loader.callDestroy ((p.origin t).map Prod.snd)
    destroyed := Function.update p.destroyed t true
    destroyLog := p.destroyLog ++ ((p.origin t).map fun origin => (t, origin.2)).toList }

/-- The call of a tracer's destroy method, which does not call back; the one of the no-op
tracer does nothing. -/
def ProcessState.destroyMethod (t : TracerPtr) (s : ProcessState H) : Option (ProcessState H) :=
  if t = .noopTracerSingleton then some s
  else some { s with world := s.world.destroyTracer t }

/-- A process at its start. -/
def ProcessState.start (H : Type) (dlerrorText : Option CString) : ProcessState H :=
  GlobalState.start
    { loader := .start H dlerrorText
      factoryLib := fun _ => none
      origin := fun _ => none
      destroyed := fun _ => false
      destroyLog := [] }

/-- A call of `handle->factory` of the handle `h`, which yields the tracer `t`. -/
def Plugins.makeTracer (h : H) (t : TracerPtr) (p : Plugins H) : Option (Plugins H) :=
  match (p.loader.handles h).factory, p.factoryLib h with
  | some _, some lib =>
      some
        { p with
          loader := p.loader.callPlugin (.factory lib)
          origin := Function.update p.origin t (some (h, lib))
          destroyed := Function.update p.destroyed t false }
  -- a NULL pointer, or one that no successful load has stored
  | _, _ => none

/-- Inversion of a factory call. -/
theorem Plugins.makeTracer_eq_some {h : H} {t : TracerPtr} {p p' : Plugins H}
    (hmake : p.makeTracer h t = some p') :
    ∃ lib, p.factoryLib h = some lib ∧
      p' =
        { p with
          loader := p.loader.callPlugin (.factory lib)
          origin := Function.update p.origin t (some (h, lib))
          destroyed := Function.update p.destroyed t false } := by
  rw [Plugins.makeTracer] at hmake
  split at hmake
  · next factory lib hfactory hlib => exact ⟨lib, hlib, (Option.some.inj hmake).symm⟩
  · cases hmake

/-! ### Open libraries -/

/-- A library a handle was loaded with was not closed: the handle holds it, or a later load
dropped it. -/
def LoaderState.Keeps (s : LoaderState H) (h : H) (lib : RawHandle) : Prop :=
  s.slots h = some lib ∨ lib ∈ s.overwritten

/-- A library that was not closed is open. -/
theorem LoaderInv.held_of_keeps [Fintype H] {s : LoaderState H} (hinv : LoaderInv s) {h : H}
    {lib : RawHandle} (hkeeps : s.Keeps h lib) : Held (refs s.linker.events) lib := by
  rcases hkeeps with hslot | hmem
  · exact hinv.held hslot
  · exact hinv.held_of_mem_overwritten hmem

/-! ### The invariant -/

/-- A tracer that may be installed: the no-op tracer, or one that was not destroyed. -/
def Plugins.Installable (p : Plugins H) (t : TracerPtr) : Prop :=
  t = .noopTracerSingleton ∨ p.destroyed t = false

/-- **The plugin invariant**: besides the loader's, a handle that holds the factory of a
library holds a factory, and that library was not closed, nor that of a tracer that was not
destroyed. -/
structure PluginsInv [Fintype H] (p : Plugins H) : Prop where
  loader : LoaderInv p.loader
  factory_ne_none : ∀ h, p.factoryLib h ≠ none → (p.loader.handles h).factory ≠ none
  factoryLib_kept : ∀ h lib, p.factoryLib h = some lib → p.loader.Keeps h lib
  origin_kept : ∀ t h lib, p.origin t = some (h, lib) → p.destroyed t = false →
    p.loader.Keeps h lib

variable [Fintype H]

/-- The invariant holds at the start. -/
theorem pluginsInv_start (dlerrorText : Option CString) :
    PluginsInv (ProcessState.start H dlerrorText).world where
  loader := loaderInv_start dlerrorText
  factory_ne_none _ h := absurd rfl h
  factoryLib_kept _ _ h := by cases h
  origin_kept _ _ _ h _ := by cases h

/-- A call into a library that is open preserves the loader invariant. -/
theorem LoaderInv.callPlugin {s : LoaderState H} (hinv : LoaderInv s) {event : LinkerEvent}
    {lib : RawHandle} (hevent : event.toRef = some (.use lib))
    (hheld : Held (refs s.linker.events) lib) : LoaderInv (s.callPlugin event) := by
  have hevents : refs (s.callPlugin event).linker.events = refs s.linker.events ++ [.use lib] := by
    calc refs (s.linker.events ++ [event]) = refs s.linker.events ++ refs [event] :=
          refs_append _ _
      _ = refs s.linker.events ++ [.use lib] := by
          simp [refs, hevent]
  have hslots : (s.callPlugin event).slots = s.slots := rfl
  have hover : (s.callPlugin event).overwritten = s.overwritten := rfl
  refine ⟨?_, fun r => ?_⟩
  · rw [hevents, covered_append_singleton_iff]
    refine ⟨hinv.covered, ?_⟩
    rintro r rfl
    exact hheld
  · have hbal := hinv.balanced r
    rw [hevents, hslots, hover]
    simp only [acquired_append, acquired_cons_use, acquired_nil, released_append,
      released_cons_use, released_nil]
    omega

/-- Running a destroy method preserves the loader invariant when its library is open. -/
theorem LoaderInv.callDestroy {s : LoaderState H} (hinv : LoaderInv s) {lib : Option RawHandle}
    (hheld : ∀ r, lib = some r → Held (refs s.linker.events) r) :
    LoaderInv (s.callDestroy lib) := by
  rcases lib with _ | lib
  · exact hinv
  · exact hinv.callPlugin rfl (hheld lib rfl)

/-- A factory call preserves the invariant. -/
theorem PluginsInv.makeTracer {p p' : Plugins H} (hinv : PluginsInv p) {h : H} {t : TracerPtr}
    (hmake : p.makeTracer h t = some p') : PluginsInv p' := by
  obtain ⟨lib, hlib, rfl⟩ := Plugins.makeTracer_eq_some hmake
  have hkeeps := hinv.factoryLib_kept h lib hlib
  refine ⟨hinv.loader.callPlugin rfl (hinv.loader.held_of_keeps hkeeps), hinv.factory_ne_none,
    hinv.factoryLib_kept, fun u k raw horigin hlive => ?_⟩
  dsimp only at horigin hlive
  by_cases hu : u = t
  · subst hu
    rw [Function.update_self] at horigin
    obtain ⟨rfl, rfl⟩ : h = k ∧ lib = raw := by simpa using horigin
    exact hkeeps
  · rw [Function.update_of_ne hu] at horigin hlive
    exact hinv.origin_kept u k raw horigin hlive

omit [Fintype H] in
/-- The destroy of a tracer changes no handle and drops nothing. -/
theorem destroyTracer_loader (p : Plugins H) (t : TracerPtr) :
    (p.destroyTracer t).loader.handles = p.loader.handles ∧
      (p.destroyTracer t).loader.overwritten = p.loader.overwritten := by
  simp only [Plugins.destroyTracer]
  cases p.origin t <;> exact ⟨rfl, rfl⟩

/-- The destroy of a tracer that was not destroyed before preserves the invariant. -/
theorem PluginsInv.destroyTracer {p : Plugins H} (hinv : PluginsInv p) {t : TracerPtr}
    (ht : p.destroyed t = false) : PluginsInv (p.destroyTracer t) := by
  obtain ⟨hhandles, hover⟩ := destroyTracer_loader p t
  have hkeeps : ∀ k raw, p.loader.Keeps k raw → (p.destroyTracer t).loader.Keeps k raw := by
    intro k raw hk
    rw [LoaderState.Keeps, LoaderState.slots, hhandles, hover]
    exact hk
  refine ⟨hinv.loader.callDestroy fun r hr => ?_, fun k hk => ?_, fun k raw hk => ?_,
    fun u k raw horigin hu => hkeeps k raw ?_⟩
  · simp only [Option.map_eq_some_iff] at hr
    obtain ⟨⟨h, lib⟩, horigin, rfl⟩ := hr
    exact hinv.loader.held_of_keeps (hinv.origin_kept t h lib horigin ht)
  · rw [hhandles]
    exact hinv.factory_ne_none k hk
  · exact hkeeps k raw (hinv.factoryLib_kept k raw hk)
  · by_cases hut : u = t
    · subst hut
      exact hinv.origin_kept u k raw horigin ht
    · have hlive : p.destroyed u = false := by
        simpa [Plugins.destroyTracer, Function.update_of_ne hut] using hu
      exact hinv.origin_kept u k raw horigin hlive

/-- **The process invariant**: the plugins', and the installed tracer was not destroyed. -/
structure ProcessInv (s : ProcessState H) : Prop where
  plugins : PluginsInv s.world
  installed : ∃ t, s.globalTracer = some t ∧ s.world.Installable t

/-- An installation preserves the invariant: the tracer it destroys, if any, was not
destroyed before. -/
theorem ProcessInv.initGlobalTracer {s s' : ProcessState H} (hinv : ProcessInv s)
    {t : TracerPtr} (ht : s.world.Installable t)
    (hinit : opentracingInitGlobalTracer ProcessState.destroyMethod (some t) s = some s') :
    ProcessInv s' := by
  obtain ⟨cur, hcur, hlive⟩ := hinv.installed
  by_cases heq : t = cur
  · subst heq
    rw [init_self hcur] at hinit
    obtain rfl : s = s' := Option.some.inj hinit
    exact hinv
  · rw [init_other hcur heq] at hinit
    by_cases hnoop : cur = .noopTracerSingleton
    · simp only [ProcessState.destroyMethod, if_pos hnoop, Option.map_some] at hinit
      obtain rfl := Option.some.inj hinit
      exact ⟨hinv.plugins, t, rfl, ht⟩
    · simp only [ProcessState.destroyMethod, if_neg hnoop, Option.map_some] at hinit
      obtain rfl := Option.some.inj hinit
      refine ⟨hinv.plugins.destroyTracer (hlive.resolve_left hnoop), t, rfl, ?_⟩
      refine ht.imp_right fun hfresh => ?_
      simpa [Plugins.destroyTracer, Function.update_of_ne heq] using hfresh

/-! ### Loads and destroys of handles -/

variable [DecidableEq H]

/-- The library of the factory a stage leaves in the handle, where a load that succeeded
stored it: a hook that was run has replaced the factory of the loads before. -/
def LoadStage.factoryLib (stage : LoadStage) (before : Option RawHandle) : Option RawHandle :=
  match stage with
  | .unsupported => before
  | .dlopenFailed _ => before
  | .hookMissing _ _ => before
  | .hookRejected _ _ _ _ => none
  | .factoryMissing _ _ => none
  | .loaded lib _ _ => some lib

/-- A load on the handle `h`. -/
def Plugins.load (build : Build) (dl : DlLibrary) (lib : CString) (h : H)
    (errorBuffer : Option Bytes) (errorBufferLength : CInt) (p : Plugins H) :
    Option (Plugins H) :=
  (p.loader.load build dl lib h errorBuffer errorBufferLength).map fun loader =>
    { p with
      loader
      factoryLib :=
        Function.update p.factoryLib h
          ((loadStage build dl lib errorBuffer errorBufferLength).factoryLib (p.factoryLib h)) }

/-- A destroy of the handle `h`, or of NULL. -/
def Plugins.destroyHandle (dl : DlLibrary) (h : Option H) (p : Plugins H) : Plugins H :=
  { p with
    loader := p.loader.destroy dl h
    factoryLib :=
      match h with
      | some h => Function.update p.factoryLib h none
      | none => p.factoryLib }

section

omit [Fintype H]

/-- A load closes no library of any handle. -/
theorem LoaderState.Keeps.load {build : Build} {dl : DlLibrary} {lib : CString} {h k : H}
    {errorBuffer : Option Bytes} {errorBufferLength : CInt} {s s' : LoaderState H}
    {raw : RawHandle} (hkeeps : s.Keeps k raw)
    (hload : s.load build dl lib h errorBuffer errorBufferLength = some s') :
    s'.Keeps k raw := by
  have hto := LoaderState.stepsTo_of_load hload
  rcases hkeeps with hslot | hmem
  · by_cases hk : k = h
    · subst hk
      cases build with
      | noWeakSymbols =>
          left
          have hhandle : s'.handles k = s.handles k := by
            rw [hto.handles_eq, Function.update_self]
            rfl
          rw [LoaderState.slots, hhandle]
          exact hslot
      | weakSymbols =>
          right
          have hlib : (s.handles k).libHandle = some raw := hslot
          rw [hto.overwritten_eq, droppedBy, hlib]
          exact List.mem_cons_self
    · left
      rw [LoaderState.slots, hto.handles_eq, Function.update_of_ne hk]
      exact hslot
  · right
    rw [hto.overwritten_eq]
    exact List.mem_append_right _ hmem

/-- A destroy changes no other handle. -/
theorem LoaderState.handles_destroy_of_ne (dl : DlLibrary) {h : Option H} {k : H}
    {s : LoaderState H} (hk : h ≠ some k) : (s.destroy dl h).handles k = s.handles k := by
  rcases h with _ | h
  · rfl
  · have hne : k ≠ h := fun heq => hk (congrArg some heq.symm)
    simp only [LoaderState.destroy, Function.update_of_ne hne]

/-- A destroy closes no library of another handle. -/
theorem LoaderState.Keeps.destroy {dl : DlLibrary} {h : Option H} {k : H}
    {s : LoaderState H} {raw : RawHandle} (hkeeps : s.Keeps k raw) (hk : h ≠ some k) :
    (s.destroy dl h).Keeps k raw := by
  have hover : (s.destroy dl h).overwritten = s.overwritten := by cases h <;> rfl
  rw [LoaderState.Keeps, LoaderState.slots, LoaderState.handles_destroy_of_ne dl hk, hover]
  exact hkeeps

end

/-- A stage that leaves the factory of a library leaves a factory. -/
theorem LoadStage.factory_handle_ne_none {stage : LoadStage} {handle : OpentracingLibraryHandle}
    {before : Option RawHandle} (hbefore : before ≠ none → handle.factory ≠ none)
    (h : stage.factoryLib before ≠ none) : (stage.handle handle).factory ≠ none := by
  cases stage with
  | unsupported => exact hbefore h
  | dlopenFailed text => exact hbefore h
  | hookMissing lib text => exact hbefore h
  | hookRejected lib result code hcode => exact absurd rfl h
  | factoryMissing lib result => exact absurd rfl h
  | loaded lib result factory => exact Option.some_ne_none factory

/-- The library of the factory a stage leaves is the one it keeps open, or that of the
factory it found. -/
theorem LoadStage.factoryLib_eq_some {stage : LoadStage} {before : Option RawHandle}
    {lib : RawHandle} (h : stage.factoryLib before = some lib) :
    stage.kept = some lib ∨ before = some lib := by
  cases stage with
  | unsupported => exact Or.inr h
  | dlopenFailed text => exact Or.inr h
  | hookMissing raw text => exact Or.inr h
  | hookRejected raw result code hcode => cases h
  | factoryMissing raw result => cases h
  | loaded raw result factory => exact Or.inl h

/-- A load preserves the invariant. -/
theorem PluginsInv.load {p p' : Plugins H} (hinv : PluginsInv p) {build : Build}
    {dl : DlLibrary} {lib : CString} {h : H} {errorBuffer : Option Bytes}
    {errorBufferLength : CInt}
    (hload : p.load build dl lib h errorBuffer errorBufferLength = some p') :
    PluginsInv p' := by
  simp only [Plugins.load, Option.map_eq_some_iff] at hload
  obtain ⟨loader, hload, rfl⟩ := hload
  have hto := LoaderState.stepsTo_of_load hload
  refine ⟨hinv.loader.load hload, fun k hk => ?_, fun k raw hk => ?_,
    fun t k raw horigin hlive => (hinv.origin_kept t k raw horigin hlive).load hload⟩
  · dsimp only at hk ⊢
    rw [hto.handles_eq]
    by_cases hkh : k = h
    · subst hkh
      rw [Function.update_self] at hk ⊢
      exact LoadStage.factory_handle_ne_none (hinv.factory_ne_none k) hk
    · rw [Function.update_of_ne hkh] at hk ⊢
      exact hinv.factory_ne_none k hk
  · dsimp only at hk ⊢
    by_cases hkh : k = h
    · subst hkh
      rw [Function.update_self] at hk
      rcases LoadStage.factoryLib_eq_some hk with hkept | hbefore
      · left
        rw [LoaderState.slots, hto.handles_eq, Function.update_self]
        exact LoadStage.libHandle_of_kept hkept _
      · exact (hinv.factoryLib_kept k raw hbefore).load hload
    · rw [Function.update_of_ne hkh] at hk
      exact (hinv.factoryLib_kept k raw hk).load hload

/-- A factory that a rejected hook left in a handle is not called. -/
example : ((ProcessState.start Unit none).world.load .weakSymbols
    (DlLibrary.present 7 .success (some 1)) libraryName () none CInt.zero).bind (fun p =>
      (p.load .weakSymbols (DlLibrary.present 8 (-3) (some 99)) libraryName () none
        CInt.zero).bind (Plugins.makeTracer () (.object 1))) = none :=
  rfl

omit [Fintype H] in
/-- A handle that holds the factory of a library after a destroy is another one, which held
it before. -/
theorem factoryLib_destroyHandle {p : Plugins H} {dl : DlLibrary} {h : Option H} {k : H}
    (hk : (p.destroyHandle dl h).factoryLib k ≠ none) :
    h ≠ some k ∧ (p.destroyHandle dl h).factoryLib k = p.factoryLib k := by
  have hne : h ≠ some k := by
    rintro rfl
    simp [Plugins.destroyHandle] at hk
  refine ⟨hne, ?_⟩
  rcases h with _ | h
  · rfl
  · have hkh : k ≠ h := fun heq => hne (congrArg some heq.symm)
    exact Function.update_of_ne hkh none p.factoryLib

/-- A destroy of a handle preserves the invariant when the tracers created through it were
destroyed. -/
theorem PluginsInv.destroyHandle {p : Plugins H} (hinv : PluginsInv p) {dl : DlLibrary}
    {h : Option H}
    (hdone : ∀ k t lib, h = some k → p.origin t = some (k, lib) → p.destroyed t = true) :
    PluginsInv (p.destroyHandle dl h) := by
  refine ⟨hinv.loader.destroy dl h, fun k hk => ?_, fun k raw hk => ?_,
    fun t k raw horigin hlive => ?_⟩
  · obtain ⟨hne, heq⟩ := factoryLib_destroyHandle hk
    rw [heq] at hk
    have hhandle : (p.destroyHandle dl h).loader.handles k = p.loader.handles k :=
      LoaderState.handles_destroy_of_ne dl hne
    rw [hhandle]
    exact hinv.factory_ne_none k hk
  · obtain ⟨hne, heq⟩ := factoryLib_destroyHandle (hk.trans_ne (Option.some_ne_none raw))
    rw [heq] at hk
    exact (hinv.factoryLib_kept k raw hk).destroy hne
  · have hne : h ≠ some k := by
      intro heq
      have htrue : p.destroyed t = true := hdone k t raw heq horigin
      exact Bool.false_ne_true (hlive.symm.trans htrue)
    exact (hinv.origin_kept t k raw horigin hlive).destroy hne

/-! ### Runs -/

/-- The calls of a process with plugins. -/
inductive ProcessCall (H : Type)
  | load (build : Build) (dl : DlLibrary) (lib : CString) (h : H) (errorBuffer : Option Bytes)
      (errorBufferLength : CInt)
  /-- A factory call through a handle. -/
  | makeTracer (h : H) (t : TracerPtr)
  | initGlobalTracer (t : TracerPtr)
  /-- A destroy of a handle, or of NULL. -/
  | destroyHandle (dl : DlLibrary) (h : Option H)

/-- A process with plugins, and the contract of its callers: the error buffer of a load is
admitted, factories are called through handles whose factory a successful load has stored,
and yield a tracer that is not in use, a destroyed tracer is not installed, and a handle is
destroyed after the tracers created through it. -/
def processMachine (H : Type) [DecidableEq H] : Machine (ProcessState H) (ProcessCall H) where
  step s
    | .load build dl lib h errorBuffer errorBufferLength =>
        (s.world.load build dl lib h errorBuffer errorBufferLength).map fun world =>
          { s with world }
    | .makeTracer h t => (s.world.makeTracer h t).map fun world => { s with world }
    | .initGlobalTracer t => opentracingInitGlobalTracer ProcessState.destroyMethod (some t) s
    | .destroyHandle dl h => some { s with world := s.world.destroyHandle dl h }
  Allowed s
    | .load build _ _ _ errorBuffer errorBufferLength =>
        Admits build errorBuffer errorBufferLength
    | .makeTracer h t =>
        s.world.factoryLib h ≠ none ∧ t ≠ .noopTracerSingleton ∧
          opentracingGlobalTracer s ≠ some t ∧
          (s.world.origin t ≠ none → s.world.destroyed t = true)
    | .initGlobalTracer t => t = .noopTracerSingleton ∨ s.world.destroyed t = false
    | .destroyHandle _ h =>
        ∀ k t lib, h = some k → s.world.origin t = some (k, lib) → s.world.destroyed t = true

/-- Every allowed call preserves the invariant. -/
theorem ProcessInv.step {s s' : ProcessState H} {call : ProcessCall H} (hinv : ProcessInv s)
    (hallowed : (processMachine H).Allowed s call)
    (hstep : (processMachine H).step s call = some s') : ProcessInv s' := by
  cases call with
  | load build dl lib h errorBuffer errorBufferLength =>
      obtain ⟨p, hload, rfl⟩ := Option.map_eq_some_iff.mp hstep
      obtain ⟨cur, hcur, hlive⟩ := hinv.installed
      refine ⟨hinv.plugins.load hload, cur, hcur, ?_⟩
      obtain ⟨loader, -, rfl⟩ := Option.map_eq_some_iff.mp hload
      exact hlive
  | makeTracer h t =>
      obtain ⟨p, hmake, rfl⟩ := Option.map_eq_some_iff.mp hstep
      obtain ⟨cur, hcur, hlive⟩ := hinv.installed
      refine ⟨hinv.plugins.makeTracer hmake, cur, hcur, ?_⟩
      obtain ⟨lib, -, rfl⟩ := Plugins.makeTracer_eq_some hmake
      -- the new tracer is not the installed one
      have hne : cur ≠ t := by
        rintro rfl
        exact hallowed.2.2.1 hcur
      refine hlive.imp_right fun hfresh => ?_
      simpa [Function.update_of_ne hne] using hfresh
  | initGlobalTracer t => exact hinv.initGlobalTracer hallowed hstep
  | destroyHandle dl h =>
      obtain rfl := Option.some.inj hstep
      exact ⟨hinv.plugins.destroyHandle hallowed, hinv.installed⟩

omit [Fintype H] [DecidableEq H] in
/-- A destroy method returns. -/
theorem exists_destroyMethod (t : TracerPtr) (s : ProcessState H) :
    ∃ s', ProcessState.destroyMethod t s = some s' := by
  by_cases hnoop : t = .noopTracerSingleton
  · exact ⟨_, if_pos hnoop⟩
  · exact ⟨_, if_neg hnoop⟩

/-- **No allowed call fails**: neither an assertion of the two modules nor a missing factory
stops a process that keeps the contract. -/
theorem ProcessInv.exists_step {s : ProcessState H} {call : ProcessCall H} (hinv : ProcessInv s)
    (hallowed : (processMachine H).Allowed s call) :
    ∃ s', (processMachine H).step s call = some s' := by
  cases call with
  | load build dl lib h errorBuffer errorBufferLength =>
      obtain ⟨loader, hload⟩ := LoaderState.exists_load hallowed dl lib h s.world.loader
      simp [processMachine, Plugins.load, hload]
  | makeTracer h t =>
      obtain ⟨lib, hlib⟩ := Option.ne_none_iff_exists'.mp hallowed.1
      obtain ⟨factory, hfactory⟩ :=
        Option.ne_none_iff_exists'.mp (hinv.plugins.factory_ne_none h hallowed.1)
      simp [processMachine, Plugins.makeTracer, hlib, hfactory]
  | initGlobalTracer t =>
      obtain ⟨cur, hcur, -⟩ := hinv.installed
      by_cases heq : t = cur
      · subst heq
        exact ⟨s, init_self hcur⟩
      · obtain ⟨s₁, hdestroy⟩ := exists_destroyMethod cur s
        refine ⟨{ s₁ with globalTracer := some t }, ?_⟩
        calc opentracingInitGlobalTracer ProcessState.destroyMethod (some t) s
            = (ProcessState.destroyMethod cur s).map fun s =>
                { s with globalTracer := some t } := init_other hcur heq
          _ = some { s₁ with globalTracer := some t } := by
              rw [hdestroy]
              rfl
  | destroyHandle dl h => exact ⟨_, rfl⟩

omit [DecidableEq H] in
/-- The invariant holds at the start. -/
theorem processInv_start (dlerrorText : Option CString) :
    ProcessInv (ProcessState.start H dlerrorText) :=
  ⟨pluginsInv_start dlerrorText, .noopTracerSingleton, rfl, Or.inl rfl⟩

/-- **Progress**: callers that keep the contract get a run. -/
theorem process_runs_progress {dlerrorText : Option CString} {calls : List (ProcessCall H)}
    (hobeys : (processMachine H).Obeys (ProcessState.start H dlerrorText) calls) :
    ∃ s, (processMachine H).Run (ProcessState.start H dlerrorText) calls s := by
  obtain ⟨s, hrun, -⟩ := Machine.exists_run_of_obeys ProcessInv
    (fun s call hinv hallowed => by
      obtain ⟨s', hstep⟩ := hinv.exists_step hallowed
      exact ⟨s', hstep, hinv.step hallowed hstep⟩)
    (processInv_start dlerrorText) hobeys
  exact ⟨s, hrun⟩

/-- **Calls into plugins are covered**: in every run that keeps the contract, each hook a
load runs, each factory call and each destroy method `opentracing_init_global_tracer` runs
is made while its library has an open reference; and after every call
`opentracing_global_tracer` returns the no-op tracer or one that was not destroyed and whose
library, if it came from one, is open. -/
theorem plugin_calls_covered {dlerrorText : Option CString} {calls : List (ProcessCall H)}
    {s : ProcessState H}
    (hrun : (processMachine H).Run (ProcessState.start H dlerrorText) calls s) :
    Covered (refs s.world.loader.linker.events) ∧
      ∃ t, opentracingGlobalTracer s = some t ∧
        (t = .noopTracerSingleton ∨
          s.world.destroyed t = false ∧
          ∀ h lib, s.world.origin t = some (h, lib) →
            Held (refs s.world.loader.linker.events) lib) := by
  have hinv : ProcessInv s :=
    hrun.invariant (fun _ _ _ hinv ha hs => hinv.step ha hs) (processInv_start dlerrorText)
  refine ⟨hinv.plugins.loader.covered, ?_⟩
  obtain ⟨t, ht, hlive⟩ := hinv.installed
  refine ⟨t, ht, hlive.imp_right fun hdestroyed => ⟨hdestroyed, fun h lib horigin => ?_⟩⟩
  exact hinv.plugins.loader.held_of_keeps (hinv.plugins.origin_kept t h lib horigin hdestroyed)

/-- A tracer of a loaded library is installed and replaced by the no-op tracer, and the
library is unloaded. -/
def unloadCalls : List (ProcessCall Unit) :=
  [.load .weakSymbols (DlLibrary.present 7 .success (some 1)) libraryName () none CInt.zero,
    .makeTracer () (.object 1), .initGlobalTracer (.object 1),
    .initGlobalTracer .noopTracerSingleton,
    .destroyHandle (DlLibrary.present 7 .success (some 1)) (some ())]

/-- The hook, the factory and the destroy method of an unloaded library ran before it was
closed. -/
theorem plugin_calls_covered_unload :
    ∃ s, (processMachine Unit).Run (ProcessState.start Unit none) unloadCalls s ∧
      refs s.world.loader.linker.events =
        [.acquire 7, .use 7, .use 7, .use 7, .use 7, .release 7] ∧
      Covered (refs s.world.loader.linker.events) := by
  obtain ⟨s, hrun, hevents⟩ :
      ∃ s, (processMachine Unit).Run (ProcessState.start Unit none) unloadCalls s ∧
        refs s.world.loader.linker.events =
          [.acquire 7, .use 7, .use 7, .use 7, .use 7, .release 7] := by
    refine ⟨_, .cons (fun _ => Or.inr rfl) rfl (.cons ⟨?_, ?_, ?_, ?_⟩ rfl (.cons (Or.inr ?_) rfl
      (.cons (Or.inl rfl) rfl (.cons ?_ rfl (.nil _))))), rfl⟩
    · exact Option.some_ne_none 7
    · intro h
      cases h
    · intro h
      cases h
    · intro h
      exact absurd rfl h
    · rfl
    · intro k t lib _ horigin
      by_cases ht : t = .object 1
      · subst ht
        rfl
      · have hupdate : Function.update (fun _ => none) (TracerPtr.object 1) (some ((), 7)) t =
            some (k, lib) := horigin
        rw [Function.update_of_ne ht] at hupdate
        cases hupdate
  exact ⟨s, hrun, hevents, (plugin_calls_covered hrun).1⟩

end OpentracingC
