import OpentracingC.Lib.Replacement

/-!
# The Global Tracer

`opentracing_global_tracer` and `opentracing_init_global_tracer` of `tracer.c`, over a
state that holds the static `global_tracer` and the rest of the process, on which the
destroy methods of the tracers act. What calling the destroy method of a tracer does is a
parameter: here it is code that does not call back (`DestroyLog.destroy`), in
`Reentrancy` an arbitrary program.

Installing tracers one after another is assigning a slot (`Replacement`): the tracers
whose destroy is called are the elements of `noop :: ts` that are replaced by a different
one (`installAll_eq`).

## Main results

* `install_trace`: after any sequence of installations from process start, which tracer is
  installed and which ones were destroyed, in which order.
-/

open Replacement

namespace OpentracingC

/-- A non-NULL `opentracing_tracer` pointer. -/
inductive TracerPtr
  /-- `&noop_tracer_singleton`. -/
  | noopTracerSingleton
  /-- Any other tracer. -/
  | object (address : ℕ)
deriving DecidableEq

/-- A process with a global tracer. -/
structure GlobalState (ω : Type) where
  /-- `global_tracer`. -/
  globalTracer : Option TracerPtr
  /-- The rest of the process. -/
  world : ω
deriving DecidableEq

variable {ω : Type}

/-- A process at its start. -/
def GlobalState.start (world : ω) : GlobalState ω where
  globalTracer := some .noopTracerSingleton
  world := world

/-- `opentracing_global_tracer`. -/
def opentracingGlobalTracer (s : GlobalState ω) : Option TracerPtr :=
  s.globalTracer

/-- `opentracing_init_global_tracer`, `none` when an assertion fails or the destroy method
does not return. `destroy` is the call of a tracer's destroy method. -/
def opentracingInitGlobalTracer (destroy : TracerPtr → GlobalState ω → Option (GlobalState ω))
    (tracer : Option TracerPtr) (s : GlobalState ω) : Option (GlobalState ω) := do
  -- `assert(tracer != NULL)` and `assert(global_tracer != NULL)`
  let tracer ← tracer
  let globalTracer ← s.globalTracer
  if globalTracer = tracer then
    return s
  else
    let s ← destroy globalTracer s
    return { s with globalTracer := some tracer }

/-- Installing the tracer that is installed does nothing. -/
theorem init_self {destroy : TracerPtr → GlobalState ω → Option (GlobalState ω)}
    {s : GlobalState ω} {t : TracerPtr} (hs : s.globalTracer = some t) :
    opentracingInitGlobalTracer destroy (some t) s = some s := by
  simp [opentracingInitGlobalTracer, hs]

/-- Installing another tracer destroys the installed one first, and assigns afterwards. -/
theorem init_other {destroy : TracerPtr → GlobalState ω → Option (GlobalState ω)}
    {s : GlobalState ω} {cur t : TracerPtr} (hs : s.globalTracer = some cur) (ht : t ≠ cur) :
    opentracingInitGlobalTracer destroy (some t) s =
      (destroy cur s).map fun s => { s with globalTracer := some t } := by
  have hne : cur ≠ t := ht.symm
  simp only [opentracingInitGlobalTracer, hs]
  cases hd : destroy cur s <;> simp [hne, hd]

/-! ### Destroy methods that do not call back -/

/-- A process that keeps track of the tracers whose destroy was called. -/
structure DestroyLog (ω : Type) where
  destroyed : List TracerPtr
  rest : ω

/-- The call of a destroy method that does not call back: whatever it does to the rest of
the process, it leaves `global_tracer` as it is. -/
def DestroyLog.destroy (effect : TracerPtr → ω → ω) (t : TracerPtr)
    (s : GlobalState (DestroyLog ω)) : Option (GlobalState (DestroyLog ω)) :=
  some { s with world := ⟨s.world.destroyed ++ [t], effect t s.world.rest⟩ }

/-- Installations one after another. -/
def installAll (effect : TracerPtr → ω → ω) (ts : List TracerPtr)
    (s : GlobalState (DestroyLog ω)) : Option (GlobalState (DestroyLog ω)) :=
  ts.foldlM (fun s t => opentracingInitGlobalTracer (DestroyLog.destroy effect) (some t) s) s

/-- **Installations are assignments to a slot**: with `cur` installed, they end with the
last of `cur :: ts` installed, and destroy the tracers that were replaced. -/
theorem installAll_eq (effect : TracerPtr → ω → ω) (ts : List TracerPtr)
    {s : GlobalState (DestroyLog ω)} {cur : TracerPtr} (hs : s.globalTracer = some cur) :
    installAll effect ts s =
      some
        { globalTracer := (cur :: ts).getLast?
          world :=
            { destroyed := s.world.destroyed ++ outgoing (cur :: ts)
              rest := (outgoing (cur :: ts)).foldl (fun world t => effect t world)
                s.world.rest } } := by
  induction ts generalizing s cur with
  | nil => simp [installAll, outgoing, ← hs]
  | cons t ts ih =>
      by_cases ht : t = cur
      · subst ht
        have hstep : installAll effect (t :: ts) s = installAll effect ts s := by
          simp [installAll, init_self hs]
        rw [hstep, ih hs, List.getLast?_cons_cons, outgoing_cons_self]
      · have hstep : installAll effect (t :: ts) s = installAll effect ts
            { globalTracer := some t
              world := ⟨s.world.destroyed ++ [cur], effect cur s.world.rest⟩ } := by
          simp [installAll, init_other hs ht, DestroyLog.destroy]
        rw [hstep, ih rfl, List.getLast?_cons_cons, outgoing_cons_of_ne (Ne.symm ht)]
        simp

/-- **The trace of the global tracer**: for every sequence of tracers installed from
process start, no assertion fails; afterwards the last of `noop :: ts` is installed; the
tracers whose destroy was called are, in order, `noop :: ts` with adjacent repetitions
collapsed, less the last, which are those that were replaced, once for each replacement. So
a replaced tracer that does not reappear was destroyed exactly once, and an installed one
that does not reappear was never destroyed; and if only the no-op tracer reappears, this
holds of every other tracer. -/
theorem install_trace (effect : TracerPtr → ω → ω) (world : ω) (ts : List TracerPtr) :
    ∃ s, installAll effect ts (.start ⟨[], world⟩) = some s ∧
      opentracingGlobalTracer s = (.noopTracerSingleton :: ts).getLast? ∧
      s.world.destroyed =
        ((.noopTracerSingleton :: ts).destutter (· ≠ ·)).dropLast ∧
      s.world.destroyed = outgoing (.noopTracerSingleton :: ts) ∧
      (∀ t ∈ outgoing (.noopTracerSingleton :: ts), ¬ Reappears t (.noopTracerSingleton :: ts) →
        s.world.destroyed.count t = 1) ∧
      (∀ t, opentracingGlobalTracer s = some t → ¬ Reappears t (.noopTracerSingleton :: ts) →
        t ∉ s.world.destroyed) ∧
      ((∀ t ≠ .noopTracerSingleton, ¬ Reappears t (.noopTracerSingleton :: ts)) →
        (∀ t ∈ outgoing (.noopTracerSingleton :: ts), t ≠ .noopTracerSingleton →
          s.world.destroyed.count t = 1) ∧
        ∀ t, opentracingGlobalTracer s = some t → t ≠ .noopTracerSingleton →
          t ∉ s.world.destroyed) := by
  refine ⟨_, installAll_eq effect ts rfl, rfl, ?_, rfl, ?_, ?_, fun hnone => ⟨?_, ?_⟩⟩
  · exact outgoing_eq_dropLast_destutter _
  · intro t ht hnot
    exact count_outgoing_of_mem ht hnot
  · intro t hlast hnot
    exact notMem_outgoing_of_getLast? hlast hnot
  · intro t ht hnoop
    exact count_outgoing_of_mem ht (hnone t hnoop)
  · intro t hlast hnoop
    exact notMem_outgoing_of_getLast? hlast (hnone t hnoop)

/-- The no-op tracer may reappear, and is then destroyed once for each time it is replaced:
twice when it is installed between two other tracers, neither of which reappears. -/
theorem install_destroys_noop_twice :
    (∀ t ≠ TracerPtr.noopTracerSingleton, ¬ Reappears t
        [.noopTracerSingleton, .object 1, .noopTracerSingleton, .object 2]) ∧
      ∃ s, installAll (fun _ world => world) [.object 1, .noopTracerSingleton, .object 2]
          (.start ⟨[], ()⟩) = some s ∧
        TracerPtr.noopTracerSingleton ∈
          outgoing [.noopTracerSingleton, .object 1, .noopTracerSingleton, .object 2] ∧
        s.world.destroyed = [.noopTracerSingleton, .object 1, .noopTracerSingleton] ∧
        s.world.destroyed.count .noopTracerSingleton ≠ 1 := by
  refine ⟨fun t hnoop hreappears => ?_, _, rfl, by decide, rfl, by decide⟩
  have htwo := hreappears.two_le_count
  by_cases hone : t = .object 1
  · subst hone
    exact absurd htwo (by decide)
  · by_cases hlast : t = .object 2
    · subst hlast
      exact absurd htwo (by decide)
    · simp [Ne.symm hnoop, Ne.symm hone, Ne.symm hlast] at htwo

/-- Installing A, B and A again destroys both, and installing A twice does not. -/
example : (installAll (fun _ world => world)
      [.object 1, .object 2, .object 1, .object 1] (.start ⟨[], ()⟩)).map (·.world.destroyed) =
    some [.noopTracerSingleton, .object 1, .object 2] := by
  decide

end OpentracingC
