import OpentracingC.Reentrancy

/-!
# Re-entrant Runs, Seen from the Top Level

Destroy methods that call back can make a run unsafe (`Reentrancy`). This module says what
they cannot do, for every script and callbacks nested to any depth.

The calls a script makes itself, outside any destroy method, are its top level. Since
`opentracing_init_global_tracer` assigns its argument after the destroy method has
returned, whatever a destroy method installs is overwritten: the tracers the top level sees
are those it installed itself (`Script.topLevel`), the last of them is installed at the
end, and every tracer of the top level that is replaced is destroyed, in the order of
replacement. Destroy methods that replace tracers add destroys to these, and only they do
(`callbacks_keep_top_level`).
-/

open Replacement

namespace OpentracingC

/-! ### The top level of a script -/

/-- The tracers the top level of a script installs, when `cur` is installed at its start. -/
def Script.topLevel : TracerPtr → Script → List TracerPtr
  | _, .done => []
  | cur, .globalTracer rest => (rest (some cur)).topLevel cur
  | _, .initGlobalTracer t _ rest => t :: rest.topLevel t

/-- The top level of a script replaces no tracer: it installs only the one that is
installed. -/
def Script.ReplacesNothing (cur : TracerPtr) (script : Script) : Prop :=
  ∀ t ∈ script.topLevel cur, t = cur

/-- No destroy method that the top level of a script runs replaces a tracer, the one of the
no-op apart. -/
def Script.CallbacksReplaceNothing : TracerPtr → Script → Prop
  | _, .done => True
  | cur, .globalTracer rest => (rest (some cur)).CallbacksReplaceNothing cur
  | cur, .initGlobalTracer t destroy rest =>
      (t ≠ cur → cur ≠ .noopTracerSingleton → (destroy cur).ReplacesNothing cur) ∧
        rest.CallbacksReplaceNothing t

/-- The tracers whose destroy was begun, in order. -/
def begun (events : List TracerEvent) : List TracerPtr :=
  events.filterMap fun
    | .destroyBegun t => some t
    | .initCalled _ => none
    | .globalTracerReturned _ => none

@[simp] theorem begun_nil : begun [] = [] := rfl

@[simp] theorem begun_cons_destroyBegun (t : TracerPtr) (events : List TracerEvent) :
    begun (.destroyBegun t :: events) = t :: begun events := rfl

@[simp] theorem begun_cons_initCalled (t : TracerPtr) (events : List TracerEvent) :
    begun (.initCalled t :: events) = begun events := rfl

@[simp] theorem begun_cons_globalTracerReturned (t : Option TracerPtr)
    (events : List TracerEvent) :
    begun (.globalTracerReturned t :: events) = begun events := rfl

@[simp] theorem begun_append (events events' : List TracerEvent) :
    begun (events ++ events') = begun events ++ begun events' :=
  List.filterMap_append

/-- A script that replaces nothing runs no destroy method. -/
theorem Script.ReplacesNothing.callbacks {script : Script} {cur : TracerPtr}
    (h : script.ReplacesNothing cur) : script.CallbacksReplaceNothing cur := by
  induction script generalizing cur with
  | done => trivial
  | globalTracer rest ih => exact ih (some cur) h
  | initGlobalTracer t destroy rest ihDestroy ihRest =>
      obtain rfl : t = cur := h t List.mem_cons_self
      exact ⟨fun hne => absurd rfl hne,
        ihRest fun u hu => h u (List.mem_cons_of_mem _ hu)⟩

/-- What a run of a script with `cur` installed has in common with its top level. -/
structure Script.SeenFromTop (script : Script) (cur : TracerPtr) (s s' : RecordedState)
    (events : List TracerEvent) : Prop where
  exec_eq : exec script s = some s'
  world_eq : s'.world = s.world ++ events
  globalTracer_eq : s'.globalTracer = (cur :: script.topLevel cur).getLast?
  /-- Every replaced tracer of the top level is destroyed. -/
  sublist : (outgoing (cur :: script.topLevel cur)).Sublist (begun events)
  /-- Further destroys are those of callbacks that replace a tracer. -/
  begun_eq_iff : begun events = outgoing (cur :: script.topLevel cur) ↔
    script.CallbacksReplaceNothing cur

/-- A destroy method replaces nothing exactly when no destroy is begun in it. -/
theorem Script.SeenFromTop.begun_eq_nil_iff {script : Script} {cur : TracerPtr}
    {s s' : RecordedState} {events : List TracerEvent}
    (h : script.SeenFromTop cur s s' events) :
    begun events = [] ↔ script.ReplacesNothing cur := by
  constructor
  · intro hnil
    have hsub := h.sublist
    rw [hnil] at hsub
    exact outgoing_cons_eq_nil_iff.mp (List.sublist_nil.mp hsub)
  · intro hnothing
    rw [h.begun_eq_iff.mpr hnothing.callbacks]
    exact outgoing_cons_eq_nil_iff.mpr hnothing

section

variable {s s' s₁ : RecordedState} {cur t : TracerPtr} {destroy : TracerPtr → Script}
  {rest : Script} {events events₁ : List TracerEvent}

/-- Installing the tracer that is installed. -/
theorem Script.SeenFromTop.initSelf (hs : s.globalTracer = some t)
    (h : rest.SeenFromTop t (s.record (.initCalled t)) s' events) :
    (Script.initGlobalTracer t destroy rest).SeenFromTop t s s' (.initCalled t :: events) := by
  have houtgoing : outgoing (t :: (Script.initGlobalTracer t destroy rest).topLevel t) =
      outgoing (t :: rest.topLevel t) := outgoing_cons_self _ _
  refine ⟨?_, ?_, ?_, ?_, ?_⟩
  · rw [exec_init_self hs]
    exact h.exec_eq
  · rw [h.world_eq, world_record, List.append_assoc, List.singleton_append]
  · rw [Script.topLevel, List.getLast?_cons_cons]
    exact h.globalTracer_eq
  · rw [houtgoing]
    exact h.sublist
  · rw [houtgoing, begun_cons_initCalled, h.begun_eq_iff]
    exact ⟨fun hrest => ⟨fun hne => absurd rfl hne, hrest⟩, fun hrest => hrest.2⟩

/-- Replacing the no-op tracer. -/
theorem Script.SeenFromTop.initNoop (hs : s.globalTracer = some .noopTracerSingleton)
    (ht : t ≠ .noopTracerSingleton)
    (h : rest.SeenFromTop t
      { (s.record (.initCalled t)).record (.destroyBegun .noopTracerSingleton) with
        globalTracer := some t } s' events) :
    (Script.initGlobalTracer t destroy rest).SeenFromTop .noopTracerSingleton s s'
      (.initCalled t :: .destroyBegun .noopTracerSingleton :: events) := by
  have houtgoing : outgoing (.noopTracerSingleton ::
      (Script.initGlobalTracer t destroy rest).topLevel .noopTracerSingleton) =
      .noopTracerSingleton :: outgoing (t :: rest.topLevel t) :=
    outgoing_cons_of_ne (Ne.symm ht) _
  refine ⟨?_, ?_, ?_, ?_, ?_⟩
  · rw [exec_init_noop hs ht]
    exact h.exec_eq
  · rw [h.world_eq]
    simp
  · rw [Script.topLevel, List.getLast?_cons_cons]
    exact h.globalTracer_eq
  · rw [houtgoing]
    exact h.sublist.cons_cons _
  · rw [houtgoing, begun_cons_initCalled, begun_cons_destroyBegun, List.cons_inj_right,
      h.begun_eq_iff]
    exact ⟨fun hrest => ⟨fun _ hne => absurd rfl hne, hrest⟩, fun hrest => hrest.2⟩

/-- Replacing another tracer: what its destroy method does comes in between. -/
theorem Script.SeenFromTop.initOther (hs : s.globalTracer = some cur) (ht : t ≠ cur)
    (hcur : cur ≠ .noopTracerSingleton)
    (h₁ : (destroy cur).SeenFromTop cur
      ((s.record (.initCalled t)).record (.destroyBegun cur)) s₁ events₁)
    (h : rest.SeenFromTop t { s₁ with globalTracer := some t } s' events) :
    (Script.initGlobalTracer t destroy rest).SeenFromTop cur s s'
      (.initCalled t :: .destroyBegun cur :: (events₁ ++ events)) := by
  have houtgoing : outgoing (cur :: (Script.initGlobalTracer t destroy rest).topLevel cur) =
      cur :: outgoing (t :: rest.topLevel t) := outgoing_cons_of_ne (Ne.symm ht) _
  refine ⟨?_, ?_, ?_, ?_, ?_⟩
  · rw [exec_init_other hs ht hcur, h₁.exec_eq]
    exact h.exec_eq
  · have hworld₁ : s₁.world =
        s.world ++ [.initCalled t] ++ [.destroyBegun cur] ++ events₁ := h₁.world_eq
    rw [h.world_eq]
    simp [hworld₁]
  · rw [Script.topLevel, List.getLast?_cons_cons]
    exact h.globalTracer_eq
  · rw [houtgoing, begun_cons_initCalled, begun_cons_destroyBegun, begun_append]
    exact (h.sublist.trans (List.sublist_append_right _ _)).cons_cons _
  · rw [houtgoing, begun_cons_initCalled, begun_cons_destroyBegun, List.cons_inj_right,
      begun_append]
    constructor
    · intro heq
      -- the destroys of the rest are as many already, so the callback has none
      have hlen := h.sublist.length_le
      have hcount := congrArg List.length heq
      rw [List.length_append] at hcount
      have hnil : begun events₁ = [] := List.eq_nil_of_length_eq_zero (by omega)
      rw [hnil, List.nil_append] at heq
      exact ⟨fun _ _ => h₁.begun_eq_nil_iff.mp hnil, h.begun_eq_iff.mp heq⟩
    · rintro ⟨hnothing, hrest⟩
      rw [h₁.begun_eq_nil_iff.mpr (hnothing ht hcur), List.nil_append,
        h.begun_eq_iff.mpr hrest]

end

/-- **A run, seen from its top level.** The induction is on the script; the callbacks of a
replacement are seen through their own top level, which starts with the tracer that is being
destroyed. -/
theorem exec_seenFromTop (script : Script) {s : RecordedState} {cur : TracerPtr}
    (hs : s.globalTracer = some cur) :
    ∃ s' events, script.SeenFromTop cur s s' events := by
  induction script generalizing s cur with
  | done =>
      refine ⟨s, [], rfl, (List.append_nil _).symm, hs, List.nil_sublist _, ?_⟩
      simp [Script.topLevel, outgoing, Script.CallbacksReplaceNothing]
  | globalTracer rest ih =>
      obtain ⟨s', events, h⟩ := ih (some cur)
        (s := s.record (.globalTracerReturned (some cur))) hs
      refine ⟨s', .globalTracerReturned (some cur) :: events, ?_, ?_, h.globalTracer_eq,
        h.sublist, h.begun_eq_iff⟩
      · have hret : opentracingGlobalTracer s = some cur := hs
        rw [exec, hret]
        exact h.exec_eq
      · rw [h.world_eq, world_record, List.append_assoc, List.singleton_append]
  | initGlobalTracer t destroy rest ihDestroy ihRest =>
      by_cases ht : t = cur
      · subst ht
        obtain ⟨s', events, h⟩ := ihRest (s := s.record (.initCalled t)) hs
        exact ⟨s', _, .initSelf hs h⟩
      · by_cases hcur : cur = .noopTracerSingleton
        · subst hcur
          obtain ⟨s', events, h⟩ := ihRest
            (s := { (s.record (.initCalled t)).record (.destroyBegun .noopTracerSingleton) with
              globalTracer := some t }) rfl
          exact ⟨s', _, .initNoop hs ht h⟩
        · obtain ⟨s₁, events₁, h₁⟩ := ihDestroy cur
            (s := (s.record (.initCalled t)).record (.destroyBegun cur)) hs
          obtain ⟨s', events, h⟩ := ihRest (s := { s₁ with globalTracer := some t }) rfl
          exact ⟨s', _, .initOther hs ht hcur h₁ h⟩

/-- **Callbacks cannot touch the top level**: every script, whatever its destroy methods
call and however deeply nested, ends with the last tracer its top level installed as the
global tracer; the tracers its top level replaced are destroyed, in the order of
replacement; and no other destroy is begun exactly when no destroy method replaces a
tracer. -/
theorem callbacks_keep_top_level (script : Script) :
    ∃ s, exec script (.start []) = some s ∧
      opentracingGlobalTracer s =
        (.noopTracerSingleton :: script.topLevel .noopTracerSingleton).getLast? ∧
      (outgoing (.noopTracerSingleton :: script.topLevel .noopTracerSingleton)).Sublist
        (begun s.world) ∧
      (begun s.world =
          outgoing (.noopTracerSingleton :: script.topLevel .noopTracerSingleton) ↔
        script.CallbacksReplaceNothing .noopTracerSingleton) := by
  obtain ⟨s, events, h⟩ := exec_seenFromTop script (s := .start []) rfl
  have hworld : s.world = events := h.world_eq
  refine ⟨s, h.exec_eq, h.globalTracer_eq, ?_, ?_⟩
  · rw [hworld]
    exact h.sublist
  · rw [hworld]
    exact h.begun_eq_iff

end OpentracingC
