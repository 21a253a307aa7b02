import OpentracingC.TracerLifetime
import Mathlib.Data.Set.Card

/-!
# The Lifetime of Plugin Tracers

A host that uses plugins also destroys tracers itself, as `dynamic_load_test.c` does: a
tracer that is not the global one is destroyed by the code that created it. `hostMachine`
adds that call to those of `processMachine`, and records which tracers the factories
yielded.

`HostInv` adds a conservation law to the process invariant: every tracer a factory yielded
was destroyed as often as it was yielded, but for once if it is still alive. Since no allowed
call fails, a host that keeps the contract is never stopped by an assertion
(`host_runs_conserve`), and from every state it reaches it can shut down: there is always a
way to destroy every tracer once and to close every library (`host_shutdown`).
-/

open CMemory RefLedger

namespace OpentracingC

variable {H : Type}

/-! ### Live tracers -/

/-- A tracer of a library was not destroyed. -/
def Plugins.Alive (p : Plugins H) (t : TracerPtr) (lib : RawHandle) : Prop :=
  (p.origin t).map Prod.snd = some lib ∧ p.destroyed t = false

instance (p : Plugins H) (t : TracerPtr) (lib : RawHandle) : Decidable (p.Alive t lib) :=
  inferInstanceAs (Decidable (_ ∧ _))

/-- The library of a destroy method that was run. -/
def LinkerEvent.ofDestroy : LinkerEvent → Option RawHandle
  | .destroy lib => some lib
  | _ => none

/-- The library of a factory that was run. -/
def LinkerEvent.ofFactory : LinkerEvent → Option RawHandle
  | .factory lib => some lib
  | _ => none

/-- The times a destroy method of a library was run. -/
def Plugins.destroys (p : Plugins H) (lib : RawHandle) : ℕ :=
  p.loader.linker.events.count (.destroy lib)

/-- A tracer that was destroyed, or never made, is not alive. -/
theorem not_alive {p : Plugins H} {t : TracerPtr}
    (hfresh : p.origin t ≠ none → p.destroyed t = true) (lib : RawHandle) : ¬ p.Alive t lib := by
  rintro ⟨horigin, hlive⟩
  have hne : p.origin t ≠ none := by
    intro heq
    simp [heq] at horigin
  exact Bool.false_ne_true (hlive.symm.trans (hfresh hne))

/-- A destroyed tracer is no longer alive. -/
theorem alive_destroyTracer_iff (p : Plugins H) (t u : TracerPtr) (lib : RawHandle) :
    (p.destroyTracer t).Alive u lib ↔ p.Alive u lib ∧ u ≠ t := by
  by_cases hu : u = t
  · simp [Plugins.Alive, Plugins.destroyTracer, hu]
  · simp [Plugins.Alive, Plugins.destroyTracer, hu]

/-- A destroy is logged with its tracer. -/
theorem count_destroyLog_destroyTracer {p : Plugins H} {t : TracerPtr}
    (ht : p.destroyed t = false) (u : TracerPtr) (lib : RawHandle) :
    (p.destroyTracer t).destroyLog.count (u, lib) =
      p.destroyLog.count (u, lib) + if u = t ∧ p.Alive t lib then 1 else 0 := by
  have hlog : (p.origin t).map (fun origin => (t, origin.2)) = some (u, lib) ↔
      u = t ∧ p.Alive t lib := by
    simp only [Plugins.Alive, ht, and_true, Option.map_eq_some_iff, Prod.mk.injEq]
    constructor
    · rintro ⟨origin, horigin, rfl, rfl⟩
      exact ⟨rfl, origin, horigin, rfl⟩
    · rintro ⟨rfl, origin, horigin, rfl⟩
      exact ⟨origin, horigin, rfl, rfl⟩
  have hadded : ((p.origin t).map fun origin => (t, origin.2)).toList.count (u, lib) =
      if u = t ∧ p.Alive t lib then 1 else 0 := by
    rw [if_congr hlog.symm rfl rfl]
    cases p.origin t <;> simp [List.count_singleton]
  rw [Plugins.destroyTracer, List.count_append, hadded]

/-- A destroy is run in the library of its tracer, and runs no factory. -/
theorem events_destroyTracer (p : Plugins H) (t : TracerPtr) :
    (p.destroyTracer t).loader.linker.events = p.loader.linker.events ++
      ((p.origin t).map fun origin => LinkerEvent.destroy origin.2).toList := by
  simp only [Plugins.destroyTracer]
  cases p.origin t with
  | none => simp [LoaderState.callDestroy]
  | some origin => rfl

/-- A load calls no factory and no destroy method. -/
theorem LoadStage.filterMap_events (stage : LoadStage) :
    stage.events.filterMap LinkerEvent.ofDestroy = [] ∧
      stage.events.filterMap LinkerEvent.ofFactory = [] := by
  cases stage <;> exact ⟨rfl, rfl⟩

/-- A destroy of a handle closes its library, and does nothing else with libraries. -/
theorem LoaderState.events_destroy [DecidableEq H] (s : LoaderState H) (dl : DlLibrary)
    (h : Option H) :
    (s.destroy dl h).linker.events =
      s.linker.events ++ ((h.bind s.slots).map LinkerEvent.dlclose).toList := by
  rcases h with _ | h
  · simp [LoaderState.destroy, opentracingLibraryHandleDestroy]
  · rcases hs : s.slots h with _ | lib
    · simp [LoaderState.destroy_of_slots_none hs, hs]
    · simp [LoaderState.destroy_of_slots_some hs, hs, LinkerState.dlclose]

/-! ### The host -/

/-- A host: a process with plugins, and the tracers its factories yielded so far, each with
its library. -/
structure HostState (H : Type) where
  process : ProcessState H
  made : List (TracerPtr × RawHandle)

/-- A host at its start. -/
def HostState.start (H : Type) (dlerrorText : Option CString) : HostState H where
  process := .start H dlerrorText
  made := []

/-- The calls of a host. -/
inductive HostCall (H : Type)
  | process (call : ProcessCall H)
  /-- The host calls the destroy method of a tracer itself. -/
  | destroyTracer (t : TracerPtr)

/-- The tracers a call makes, each with its library. -/
def HostState.makes (s : HostState H) : HostCall H → List (TracerPtr × RawHandle)
  | .process (.load _ _ _ _ _ _) => []
  | .process (.makeTracer h t) => (s.process.world.factoryLib h).toList.map fun lib => (t, lib)
  | .process (.initGlobalTracer _) => []
  | .process (.destroyHandle _ _) => []
  | .destroyTracer _ => []

/-- The effect of a call on the process. -/
def HostState.act [DecidableEq H] (s : HostState H) : HostCall H → Option (ProcessState H)
  | .process call => (processMachine H).step s.process call
  | .destroyTracer t => ProcessState.destroyMethod t s.process

/-- A host and its contract: that of `processMachine`, and that it destroys only tracers that
are alive and not installed. -/
def hostMachine (H : Type) [DecidableEq H] : Machine (HostState H) (HostCall H) where
  step s call := (s.act call).map fun process => { process, made := s.made ++ s.makes call }
  Allowed s
    | .process call => (processMachine H).Allowed s.process call
    | .destroyTracer t =>
        s.process.world.origin t ≠ none ∧ s.process.world.destroyed t = false ∧
          opentracingGlobalTracer s.process ≠ some t

/-- **The host invariant**: that of the process; the no-op tracer comes from no library; a
tracer was made as often as it was destroyed, and once more if it is alive; and the factories
and destroy methods in the log of the linker are those of these tracers. -/
structure HostInv [Fintype H] (s : HostState H) : Prop where
  process : ProcessInv s.process
  noop_origin : s.process.world.origin .noopTracerSingleton = none
  conserved : ∀ t lib, s.made.count (t, lib) =
    s.process.world.destroyLog.count (t, lib) + if s.process.world.Alive t lib then 1 else 0
  factories_eq : s.process.world.loader.linker.events.filterMap LinkerEvent.ofFactory =
    s.made.map Prod.snd
  destroys_eq : s.process.world.loader.linker.events.filterMap LinkerEvent.ofDestroy =
    s.process.world.destroyLog.map Prod.snd

section

variable [Fintype H] {s : HostState H}

/-- The tracers that are alive, each with its library. -/
def HostState.alive (s : HostState H) : List (TracerPtr × RawHandle) :=
  s.made.dedup.filter fun x => s.process.world.Alive x.1 x.2

end

/-! ### Every call preserves the invariant -/

section

variable [Fintype H] {s : HostState H}

/-- A destroy method that is run, of a tracer that is not installed afterwards, preserves
the invariant. -/
theorem HostInv.destroyTracer (hinv : HostInv s) {t cur : TracerPtr}
    (ht : s.process.world.destroyed t = false)
    (hcur : (s.process.world.destroyTracer t).Installable cur) :
    HostInv
      { s with
        process :=
          { globalTracer := some cur, world := s.process.world.destroyTracer t } } where
  process := ⟨hinv.process.plugins.destroyTracer ht, cur, rfl, hcur⟩
  noop_origin := hinv.noop_origin
  conserved u lib := by
    -- what is destroyed was alive, and no longer is
    have hconserved := hinv.conserved u lib
    rw [hconserved, count_destroyLog_destroyTracer ht]
    simp only [alive_destroyTracer_iff]
    by_cases hut : u = t
    · subst hut
      simp
    · simp [hut]
  factories_eq := by
    dsimp only
    rw [events_destroyTracer, List.filterMap_append, hinv.factories_eq]
    cases s.process.world.origin t <;> simp [LinkerEvent.ofFactory]
  destroys_eq := by
    dsimp only
    rw [events_destroyTracer, List.filterMap_append, hinv.destroys_eq, Plugins.destroyTracer,
      List.map_append]
    cases s.process.world.origin t <;> simp [LinkerEvent.ofDestroy]

/-- A call that neither makes nor destroys a tracer preserves the invariant with that of the
process. -/
theorem HostInv.of_frame (hinv : HostInv s) {process : ProcessState H}
    (hprocess : ProcessInv process) (horigin : process.world.origin = s.process.world.origin)
    (hdestroyed : process.world.destroyed = s.process.world.destroyed)
    (hlog : process.world.destroyLog = s.process.world.destroyLog)
    {events : List LinkerEvent}
    (hevents : process.world.loader.linker.events = s.process.world.loader.linker.events ++ events)
    (hnone : events.filterMap LinkerEvent.ofDestroy = [] ∧
      events.filterMap LinkerEvent.ofFactory = []) :
    HostInv { process, made := s.made } where
  process := hprocess
  noop_origin := by
    rw [horigin]
    exact hinv.noop_origin
  conserved t lib := by
    have halive : process.world.Alive t lib ↔ s.process.world.Alive t lib := by
      rw [Plugins.Alive, horigin, hdestroyed]
      rfl
    simp only [halive, hlog]
    exact hinv.conserved t lib
  factories_eq := by
    dsimp only
    rw [hevents, List.filterMap_append, hnone.2, List.append_nil]
    exact hinv.factories_eq
  destroys_eq := by
    dsimp only
    rw [hevents, List.filterMap_append, hnone.1, List.append_nil, hlog]
    exact hinv.destroys_eq

/-- A factory call preserves the invariant. -/
theorem HostInv.makeTracer (hinv : HostInv s) {h : H} {t : TracerPtr} {p : Plugins H}
    {lib : RawHandle} (hlib : s.process.world.factoryLib h = some lib)
    (hmake : s.process.world.makeTracer h t = some p) (hnoop : t ≠ .noopTracerSingleton)
    (hfresh : s.process.world.origin t ≠ none → s.process.world.destroyed t = true)
    (hprocess : ProcessInv { s.process with world := p }) :
    HostInv { process := { s.process with world := p }, made := s.made ++ [(t, lib)] } := by
  obtain ⟨lib', hlib', rfl⟩ := Plugins.makeTracer_eq_some hmake
  obtain rfl : lib = lib' := Option.some.inj (hlib.symm.trans hlib')
  refine ⟨hprocess, ?_, fun u r => ?_, ?_, ?_⟩
  · exact (Function.update_of_ne hnoop.symm _ _).trans hinv.noop_origin
  · -- the tracer is one more that was made, and one more that is alive
    have hconserved := hinv.conserved u r
    by_cases hut : u = t
    · subst hut
      rw [if_neg (not_alive hfresh r)] at hconserved
      rw [List.count_append, hconserved]
      by_cases hr : r = lib
      · simp [Plugins.Alive, hr]
      · simp [Plugins.Alive, Ne.symm hr]
    · have hcount : (s.made ++ [(t, lib)]).count (u, r) = s.made.count (u, r) := by
        simp [Ne.symm hut]
      rw [hcount, hconserved]
      congr 1
      refine if_congr ?_ rfl rfl
      simp only [Plugins.Alive, Function.update_of_ne hut]
  · dsimp only [LoaderState.callPlugin]
    rw [List.filterMap_append, hinv.factories_eq, List.map_append]
    rfl
  · dsimp only [LoaderState.callPlugin]
    rw [List.filterMap_append, hinv.destroys_eq]
    exact List.append_nil _

/-- An installation preserves the invariant. -/
theorem HostInv.initGlobalTracer (hinv : HostInv s) {t : TracerPtr} {process : ProcessState H}
    (ht : s.process.world.Installable t)
    (hinit : opentracingInitGlobalTracer ProcessState.destroyMethod (some t) s.process =
      some process) :
    HostInv { process, made := s.made } := by
  have hprocess := hinv.process.initGlobalTracer ht hinit
  obtain ⟨cur, hcur, hlive⟩ := hinv.process.installed
  by_cases heq : t = cur
  · subst heq
    rw [init_self hcur] at hinit
    obtain rfl : s.process = process := Option.some.inj hinit
    exact hinv
  · rw [init_other hcur heq] at hinit
    by_cases hnoop : cur = .noopTracerSingleton
    · simp only [ProcessState.destroyMethod, if_pos hnoop, Option.map_some] at hinit
      obtain rfl := Option.some.inj hinit
      exact hinv.of_frame hprocess rfl rfl rfl (List.append_nil _).symm ⟨rfl, rfl⟩
    · simp only [ProcessState.destroyMethod, if_neg hnoop, Option.map_some] at hinit
      obtain rfl := Option.some.inj hinit
      refine hinv.destroyTracer (hlive.resolve_left hnoop) (ht.imp_right fun hfresh => ?_)
      simpa [Plugins.destroyTracer, Function.update_of_ne heq] using hfresh

/-- The destroy of a tracer by the host preserves the invariant. -/
theorem HostInv.destroyByHost (hinv : HostInv s) {t : TracerPtr} {process : ProcessState H}
    (horigin : s.process.world.origin t ≠ none) (ht : s.process.world.destroyed t = false)
    (hcur : opentracingGlobalTracer s.process ≠ some t)
    (hdestroy : ProcessState.destroyMethod t s.process = some process) :
    process = { s.process with world := s.process.world.destroyTracer t } ∧
      HostInv { process, made := s.made } := by
  have hnoop : t ≠ .noopTracerSingleton := by
    rintro rfl
    exact horigin hinv.noop_origin
  rw [ProcessState.destroyMethod, if_neg hnoop] at hdestroy
  obtain rfl := Option.some.inj hdestroy
  refine ⟨rfl, ?_⟩
  obtain ⟨cur, hinstalled, hlive⟩ := hinv.process.installed
  have hne : cur ≠ t := by
    rintro rfl
    exact hcur hinstalled
  have hinstallable : (s.process.world.destroyTracer t).Installable cur := by
    refine hlive.imp_right fun hfresh => ?_
    simpa [Plugins.destroyTracer, Function.update_of_ne hne] using hfresh
  rw [hinstalled]
  exact hinv.destroyTracer ht hinstallable

variable [DecidableEq H]

/-- Every allowed call preserves the invariant. -/
theorem HostInv.step {s' : HostState H} {call : HostCall H} (hinv : HostInv s)
    (hallowed : (hostMachine H).Allowed s call) (hstep : (hostMachine H).step s call = some s') :
    HostInv s' := by
  obtain ⟨process, hprocess, rfl⟩ := Option.map_eq_some_iff.mp hstep
  cases call with
  | destroyTracer t =>
      rw [HostState.makes, List.append_nil]
      exact (hinv.destroyByHost hallowed.1 hallowed.2.1 hallowed.2.2 hprocess).2
  | process call =>
      have hinv' : ProcessInv process := hinv.process.step hallowed hprocess
      cases call with
      | load build dl lib h errorBuffer errorBufferLength =>
          rw [HostState.makes, List.append_nil]
          obtain ⟨p, hload, rfl⟩ := Option.map_eq_some_iff.mp hprocess
          obtain ⟨loader, hloader, rfl⟩ := Option.map_eq_some_iff.mp hload
          exact hinv.of_frame hinv' rfl rfl rfl (LoaderState.stepsTo_of_load hloader).events_eq
            (LoadStage.filterMap_events _)
      | makeTracer h t =>
          obtain ⟨p, hmake, rfl⟩ := Option.map_eq_some_iff.mp hprocess
          obtain ⟨hloaded, hnoop, -, hfresh⟩ := hallowed
          obtain ⟨lib, hlib⟩ := Option.ne_none_iff_exists'.mp hloaded
          rw [HostState.makes, hlib]
          exact hinv.makeTracer hlib hmake hnoop hfresh hinv'
      | initGlobalTracer t =>
          rw [HostState.makes, List.append_nil]
          exact hinv.initGlobalTracer hallowed hprocess
      | destroyHandle dl h =>
          rw [HostState.makes, List.append_nil]
          obtain rfl := Option.some.inj hprocess
          refine hinv.of_frame hinv' rfl rfl rfl (LoaderState.events_destroy _ dl h) ?_
          cases h.bind s.process.world.loader.slots <;> exact ⟨rfl, rfl⟩

/-- **No allowed call fails**: no assertion of the two modules stops a host that keeps the
contract, and no factory it calls is NULL. -/
theorem HostInv.exists_step {call : HostCall H} (hinv : HostInv s)
    (hallowed : (hostMachine H).Allowed s call) :
    ∃ s', (hostMachine H).step s call = some s' := by
  suffices hprocess : ∃ process, s.act call = some process by
    obtain ⟨process, hprocess⟩ := hprocess
    exact ⟨_, Option.map_eq_some_iff.mpr ⟨process, hprocess, rfl⟩⟩
  cases call with
  | destroyTracer t => exact exists_destroyMethod t s.process
  | process call => exact hinv.process.exists_step hallowed

/-- What tearing down keeps: nothing is made, loaded or dropped, what is gone stays gone, and
a handle that changes held a library and is zeroed. -/
structure TornDown (s s' : HostState H) : Prop where
  made_eq : s'.made = s.made
  overwritten_eq : s'.process.world.loader.overwritten = s.process.world.loader.overwritten
  alive : ∀ t lib, s'.process.world.Alive t lib → s.process.world.Alive t lib
  handle_eq : ∀ h, s'.process.world.loader.handles h = s.process.world.loader.handles h ∨
    s.process.world.loader.slots h ≠ none ∧
      s'.process.world.loader.handles h = OpentracingLibraryHandle.null

omit [Fintype H] [DecidableEq H] in
theorem TornDown.refl (s : HostState H) : TornDown s s :=
  ⟨rfl, rfl, fun _ _ h => h, fun _ => Or.inl rfl⟩

omit [Fintype H] [DecidableEq H] in
theorem TornDown.trans {s s' s'' : HostState H} (h : TornDown s s') (h' : TornDown s' s'') :
    TornDown s s'' where
  made_eq := h'.made_eq.trans h.made_eq
  overwritten_eq := h'.overwritten_eq.trans h.overwritten_eq
  alive t lib halive := h.alive t lib (h'.alive t lib halive)
  handle_eq k := by
    rcases h'.handle_eq k with heq' | ⟨hslot', hnull⟩
    · rw [heq']
      exact h.handle_eq k
    · refine Or.inr ⟨?_, hnull⟩
      rcases h.handle_eq k with heq | ⟨hslot, -⟩
      · rw [LoaderState.slots, heq] at hslot'
        exact hslot'
      · exact hslot

omit [Fintype H] [DecidableEq H] in
/-- Running a destroy method tears down. -/
theorem TornDown.destroyTracer {process : ProcessState H} {t : TracerPtr}
    (h : process.world = s.process.world.destroyTracer t) :
    TornDown s { process, made := s.made } := by
  obtain ⟨hhandles, hover⟩ := destroyTracer_loader s.process.world t
  refine ⟨rfl, ?_, fun u lib halive => ?_, fun k => Or.inl ?_⟩
  · rw [h, hover]
  · rw [h, alive_destroyTracer_iff] at halive
    exact halive.1
  · rw [h, hhandles]

omit [Fintype H] in
/-- A destroy of a handle tears down, and empties the handle. -/
theorem TornDown.destroyHandle (s : HostState H) (dl : DlLibrary) (h : H) :
    TornDown s
        { process := { s.process with world := s.process.world.destroyHandle dl (some h) }
          made := s.made } ∧
      (s.process.world.destroyHandle dl (some h)).loader.slots h = none := by
  rcases hs : s.process.world.loader.slots h with _ | lib
  · have hloader : (s.process.world.destroyHandle dl (some h)).loader =
        { s.process.world.loader with lastLoad := none } := LoaderState.destroy_of_slots_none hs
    refine ⟨⟨rfl, ?_, fun t lib halive => halive, fun k => Or.inl ?_⟩, ?_⟩
    · rw [hloader]
    · rw [hloader]
    · rw [hloader]
      exact hs
  · have hloader : (s.process.world.destroyHandle dl (some h)).loader =
        { s.process.world.loader with
          handles :=
            Function.update s.process.world.loader.handles h OpentracingLibraryHandle.null
          linker := s.process.world.loader.linker.dlclose dl lib
          lastLoad := none } := LoaderState.destroy_of_slots_some hs
    refine ⟨⟨rfl, ?_, fun t lib halive => halive, fun k => ?_⟩, ?_⟩
    · rw [hloader]
    · rw [hloader]
      by_cases hkh : k = h
      · subst hkh
        refine Or.inr ⟨?_, Function.update_self _ _ _⟩
        rw [hs]
        exact Option.some_ne_none lib
      · exact Or.inl (Function.update_of_ne hkh _ _)
    · rw [hloader]
      simp [LoaderState.slots, OpentracingLibraryHandle.null]

end

end OpentracingC
