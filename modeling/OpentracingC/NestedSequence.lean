import OpentracingC.LoaderNesting

/-!
# Nested Calls, One after Another

While a hook or a destructor runs, the handle of the call that runs it is between two
assignments. If the code of the libraries makes no call on such a handle
(`LoaderScript.AvoidsBusy`), then nesting cannot be seen in the handles: the calls in the
order in which they return, made one after another with libraries that call nothing, leave
them as the nested calls do (`reentrant_runs_linearize`). A constructor may even use the
handle it is loaded into, for the load has not assigned it yet.

The proof runs the two side by side. `Tracks` relates the process in the middle of its calls
to one that has made only the calls that have returned: off the busy handles they agree, and
what the running calls have done so far is kept beside them. A call is added to the second
process when it returns, which undoes the difference (`Tracks.load`, `Tracks.destroy`).
-/

open CMemory RefLedger

namespace OpentracingC

variable {H : Type*}

section

variable [DecidableEq H]

/-- A process in the middle of calls on the handles in `busy`, beside one that has made only
the calls that have returned: it is ahead by what the running calls have done, the linker
events `events` and the dropped libraries `drops`. -/
structure Tracks (busy : List H) (events : List LinkerEvent) (drops : List RawHandle)
    (s : NestedState H) (t : LoaderState H) : Prop where
  handles_eq : ∀ k, k ∉ busy → s.handles k = t.handles k
  events_perm : s.linker.events.Perm (t.linker.events ++ events)
  overwritten_perm : s.overwritten.Perm (drops ++ t.overwritten)
  lastLoad_eq : s.lastLoad = t.lastLoad

/-- The calls that returned between `s` and `s'` take `t` to `t'`, and neither way do the
handles in `busy` change. -/
structure Sequential (build : Build) (busy : List H) (s : NestedState H) (t : LoaderState H)
    (calls : List (LoaderCall H)) (s' : NestedState H) (t' : LoaderState H) : Prop where
  returned_eq : s'.returned = s.returned ++ calls
  run : (freeLoaderMachine build H).Run t calls t'
  nested_eq : ∀ k ∈ busy, s'.handles k = s.handles k
  sequential_eq : ∀ k ∈ busy, t'.handles k = t.handles k

/-- Code whose calls can be made one after another instead. -/
def LibraryCode.Linearizes (build : Build) (busy : List H) (code : LibraryCode H) : Prop :=
  ∀ events drops s s' t, Tracks busy events drops s t → code s = some s' →
    ∃ calls t', Sequential build busy s t calls s' t' ∧ Tracks busy events drops s' t'

/-- What `cleanup` does to the handle. -/
def cleaned (code : OpentracingDynamicLoadErrorCode) (handle : OpentracingLibraryHandle) :
    OpentracingLibraryHandle :=
  if code = .success then handle else { handle with libHandle := none }

/-- What `cleanup` asks of the linker. -/
def cleanupEvents (code : OpentracingDynamicLoadErrorCode) (handle : OpentracingLibraryHandle) :
    List LinkerEvent :=
  if code = .success then [] else (handle.libHandle.map LinkerEvent.dlclose).toList

/-- A stage, split at the label `cleanup`. -/
structure LoadStage.SplitsAt (stage : LoadStage) (before after : OpentracingLibraryHandle)
    (events : List LinkerEvent) : Prop where
  handle_eq : stage.handle before = cleaned stage.returnCode after
  events_eq : stage.events = events ++ cleanupEvents stage.returnCode after

theorem LoadStage.splitsAt_dlopenFailed (text : CString) (before : OpentracingLibraryHandle) :
    (LoadStage.dlopenFailed text).SplitsAt before { before with libHandle := none }
      [.dlopen none, .dlerror] := by
  constructor <;> simp [handle, LoadStage.events, returnCode, cleaned, cleanupEvents,
    failure_ne_success]

theorem LoadStage.splitsAt_hookMissing (raw : RawHandle) (text : Option CString)
    (before : OpentracingLibraryHandle) :
    (LoadStage.hookMissing raw text).SplitsAt before { before with libHandle := some raw }
      [.dlopen (some raw), .dlerror, .dlsym raw, .dlerror] := by
  constructor <;> simp [handle, LoadStage.events, returnCode, cleaned, cleanupEvents,
    failure_ne_success]

theorem LoadStage.splitsAt_hookStage (raw : RawHandle) (result : HookResult)
    (before : OpentracingLibraryHandle) :
    (hookStage raw result).SplitsAt before ⟨result.factory, some raw⟩
      [.dlopen (some raw), .dlerror, .dlsym raw, .hook raw] := by
  by_cases hcode : result.returnCode.getD .success = .success
  · cases hfactory : result.factory with
    | none =>
        constructor <;> simp [hookStage, hcode, hfactory, handle, LoadStage.events, returnCode,
          cleaned, cleanupEvents, failure_ne_success]
    | some factory =>
        constructor <;> simp [hookStage, hcode, hfactory, handle, LoadStage.events, returnCode,
          cleaned, cleanupEvents]
  · constructor <;> simp [hookStage, hcode, handle, LoadStage.events, returnCode, cleaned,
      cleanupEvents]

variable {build : Build} {busy : List H} {events : List LinkerEvent} {drops : List RawHandle}
  {dl : DlLibrary} {lib : CString} {h : H} {errorBuffer : Option Bytes}
  {errorBufferLength : CInt} {onOpen onHook onClose : LibraryCode H}
  {code : OpentracingDynamicLoadErrorCode} {s s' : NestedState H} {t : LoaderState H}

namespace Tracks

omit [DecidableEq H] in
/-- A linker call of a running call. -/
theorem withLinker (htracks : Tracks busy events drops s t) (text : Option CString)
    (es : List LinkerEvent) :
    Tracks busy (events ++ es) drops (s.withLinker ⟨text, s.linker.events ++ es⟩) t where
  handles_eq := htracks.handles_eq
  events_perm := by
    rw [← List.append_assoc]
    exact htracks.events_perm.append_right es
  overwritten_perm := htracks.overwritten_perm
  lastLoad_eq := htracks.lastLoad_eq

omit [DecidableEq H] in
/-- Something else is running. -/
theorem withRunning (htracks : Tracks busy events drops s t) (running : List RawHandle) :
    Tracks busy events drops (s.withRunning running) t :=
  ⟨htracks.handles_eq, htracks.events_perm, htracks.overwritten_perm, htracks.lastLoad_eq⟩

omit [DecidableEq H] in
/-- One more handle is busy. -/
theorem cons (htracks : Tracks busy events drops s t) (h : H) :
    Tracks (h :: busy) events drops s t where
  handles_eq k hk := htracks.handles_eq k fun hmem => hk (List.mem_cons_of_mem h hmem)
  events_perm := htracks.events_perm
  overwritten_perm := htracks.overwritten_perm
  lastLoad_eq := htracks.lastLoad_eq

/-- An assignment to a busy handle. -/
theorem update (htracks : Tracks (h :: busy) events drops s t)
    (handle : OpentracingLibraryHandle) :
    Tracks (h :: busy) events drops
      { s with handles := Function.update s.handles h handle } t where
  handles_eq k hk :=
    (Function.update_of_ne (List.ne_of_not_mem_cons hk) _ _).trans (htracks.handles_eq k hk)
  events_perm := htracks.events_perm
  overwritten_perm := htracks.overwritten_perm
  lastLoad_eq := htracks.lastLoad_eq

/-- The handle takes what `dlopen` returned. -/
theorem storeOpened (htracks : Tracks busy events drops s t) (hh : h ∉ busy)
    (lib : Option RawHandle) :
    Tracks (h :: busy) events ((t.handles h).libHandle.toList ++ drops) (s.storeOpened h lib)
      t where
  handles_eq := ((htracks.cons h).update _).handles_eq
  events_perm := htracks.events_perm
  overwritten_perm := by
    rw [← htracks.handles_eq h hh, List.append_assoc]
    exact htracks.overwritten_perm.append_left _
  lastLoad_eq := htracks.lastLoad_eq

/-- A load returns, and is made. -/
theorem load {stage : LoadStage} {t' : LoaderState H} {call : LoaderCall H}
    (htracks : Tracks (h :: busy) (events ++ stage.events)
      (droppedBy build (t.handles h) ++ drops) s t)
    (hto : stage.StepsTo build h t t') (hhandle : s.handles h = stage.handle (t.handles h)) :
    Tracks busy events drops (s.returns call (some (h, stage.returnCode))) t' where
  handles_eq k hk := by
    rw [hto.handles_eq]
    by_cases hkh : k = h
    · subst hkh
      rw [Function.update_self]
      exact hhandle
    · rw [Function.update_of_ne hkh]
      exact htracks.handles_eq k (List.not_mem_cons_of_ne_of_not_mem hkh hk)
  events_perm := by
    rw [hto.events_eq, List.append_assoc]
    exact htracks.events_perm.trans (List.perm_append_comm.append_left _)
  overwritten_perm := by
    rw [hto.overwritten_eq]
    refine htracks.overwritten_perm.trans ?_
    rw [List.append_assoc]
    exact List.perm_append_comm_assoc _ _ _
  lastLoad_eq := hto.lastLoad_eq.symm

/-- A destroy that closed a library returns, and is made. -/
theorem destroy {raw : RawHandle} {call : LoaderCall H}
    (htracks : Tracks (h :: busy) (events ++ [.dlclose raw]) drops s t)
    (hslot : t.slots h = some raw) (hfactory : (s.handles h).factory = none) :
    Tracks busy events drops ((s.setLibHandle h none).returns call none)
      (t.destroy dl (some h)) where
  handles_eq k hk := by
    rw [LoaderState.destroy_of_slots_some hslot]
    by_cases hkh : k = h
    · subst hkh
      refine (s.handles_setLibHandle_self k none).trans ?_
      simp [hfactory, OpentracingLibraryHandle.null]
    · refine (htracks.update _).handles_eq k (List.not_mem_cons_of_ne_of_not_mem hkh hk) |>.trans ?_
      exact (Function.update_of_ne hkh _ _).symm
  events_perm := by
    rw [LoaderState.destroy_of_slots_some hslot]
    refine htracks.events_perm.trans ?_
    rw [LinkerState.dlclose, List.append_assoc]
    exact List.perm_append_comm.append_left _
  overwritten_perm := by
    rw [LoaderState.destroy_of_slots_some hslot]
    exact htracks.overwritten_perm
  lastLoad_eq := by
    rw [LoaderState.destroy_of_slots_some hslot]
    rfl

end Tracks

namespace Sequential

variable {s'' : NestedState H} {t' t'' : LoaderState H} {calls calls' : List (LoaderCall H)}

theorem refl (s : NestedState H) (t : LoaderState H) : Sequential build busy s t [] s t where
  returned_eq := (List.append_nil _).symm
  run := .nil t
  nested_eq _ _ := rfl
  sequential_eq _ _ := rfl

/-- A linker call of a running call, before. -/
theorem of_withLinker {linker : LinkerState}
    (h₁ : Sequential build busy (s.withLinker linker) t calls s' t') :
    Sequential build busy s t calls s' t' :=
  ⟨h₁.returned_eq, h₁.run, h₁.nested_eq, h₁.sequential_eq⟩

/-- The code of a library is run, before. -/
theorem of_withRunning {running : List RawHandle}
    (h₁ : Sequential build busy (s.withRunning running) t calls s' t') :
    Sequential build busy s t calls s' t' :=
  ⟨h₁.returned_eq, h₁.run, h₁.nested_eq, h₁.sequential_eq⟩

/-- A linker call of a running call, after. -/
theorem withLinker (h₁ : Sequential build busy s t calls s' t') (linker : LinkerState) :
    Sequential build busy s t calls (s'.withLinker linker) t' :=
  ⟨h₁.returned_eq, h₁.run, h₁.nested_eq, h₁.sequential_eq⟩

/-- An assignment of a running call to its handle, after. -/
theorem assign (h₁ : Sequential build busy s t calls s' t') (hh : h ∉ busy)
    (hreturned : s''.returned = s'.returned)
    (hhandles : ∀ k, k ≠ h → s''.handles k = s'.handles k) :
    Sequential build busy s t calls s'' t' where
  returned_eq := by rw [hreturned, h₁.returned_eq]
  run := h₁.run
  nested_eq k hk := (hhandles k (ne_of_mem_of_not_mem hk hh)).trans (h₁.nested_eq k hk)
  sequential_eq := h₁.sequential_eq

theorem trans (h₁ : Sequential build busy s t calls s' t')
    (h₂ : Sequential build busy s' t' calls' s'' t'') :
    Sequential build busy s t (calls ++ calls') s'' t'' where
  returned_eq := by rw [h₂.returned_eq, h₁.returned_eq, List.append_assoc]
  run := h₁.run.append h₂.run
  nested_eq k hk := (h₂.nested_eq k hk).trans (h₁.nested_eq k hk)
  sequential_eq k hk := (h₂.sequential_eq k hk).trans (h₁.sequential_eq k hk)

/-- A call returns, and is made. -/
theorem returns {call : LoaderCall H} (h₁ : Sequential build busy s t calls s' t')
    (hstep : (freeLoaderMachine build H).step t' call = some t'')
    (hkept : ∀ k ∈ busy, t''.handles k = t'.handles k)
    (lastLoad : Option (H × OpentracingDynamicLoadErrorCode)) :
    Sequential build busy s t (calls ++ [call]) (s'.returns call lastLoad) t'' where
  returned_eq := by
    rw [← List.append_assoc, ← h₁.returned_eq]
    rfl
  run := h₁.run.append (.cons trivial hstep (.nil _))
  nested_eq := h₁.nested_eq
  sequential_eq k hk := (hkept k hk).trans (h₁.sequential_eq k hk)

/-- Fewer handles are busy outside a call. -/
theorem of_cons (h₁ : Sequential build (h :: busy) s t calls s' t') :
    Sequential build busy s t calls s' t' where
  returned_eq := h₁.returned_eq
  run := h₁.run
  nested_eq k hk := h₁.nested_eq k (List.mem_cons_of_mem h hk)
  sequential_eq k hk := h₁.sequential_eq k (List.mem_cons_of_mem h hk)

end Sequential

namespace NestedState

/-- The constructors run before the handle is assigned, so that their calls can be made before
the load. -/
theorem storeOpened_linearizes (hh : h ∉ busy) (hopen : onOpen.Linearizes build busy)
    (htracks : Tracks busy events drops s t) (result : Option RawHandle)
    {text : Option CString} {running : List RawHandle}
    (h₁ : onOpen ((s.withLinker ⟨text, s.linker.events ++ [.dlopen result]⟩).withRunning
      running) = some s') :
    ∃ calls t', Sequential build busy s t calls
        ((s'.withRunning s.running).storeOpened h result) t' ∧
      Tracks (h :: busy) (events ++ [.dlopen result]) ((t'.handles h).libHandle.toList ++ drops)
        ((s'.withRunning s.running).storeOpened h result) t' ∧
      ((s'.withRunning s.running).storeOpened h result).handles h =
        { t'.handles h with libHandle := result } := by
  obtain ⟨calls, t', hseq, htracks'⟩ :=
    hopen _ _ _ _ _ ((htracks.withLinker text _).withRunning running) h₁
  refine ⟨calls, t', ?_, (htracks'.withRunning s.running).storeOpened hh result, ?_⟩
  · exact hseq.of_withRunning.of_withLinker.assign hh rfl fun k hk => Function.update_of_ne hk _ _
  · rw [← htracks'.handles_eq h hh, handles_storeOpened_self, handles_withRunning]

/-- **A load up to the label `cleanup`**: the calls of the constructors and of the hook can be
made before it, and it has done what its stage does up to there. -/
theorem loadBody_linearizes (hh : h ∉ busy) (hopen : onOpen.Linearizes build busy)
    (hhook : onHook.Linearizes build (h :: busy)) (htracks : Tracks busy events drops s t)
    (hbody : loadBody dl lib h errorBuffer errorBufferLength onOpen onHook s = some (code, s')) :
    ∃ calls t' es, Sequential build busy s t calls s' t' ∧
      Tracks (h :: busy) (events ++ es) ((t'.handles h).libHandle.toList ++ drops) s' t' ∧
      code = (loadStage .weakSymbols dl lib errorBuffer errorBufferLength).returnCode ∧
      (loadStage .weakSymbols dl lib errorBuffer errorBufferLength).SplitsAt (t'.handles h)
        (s'.handles h) es := by
  simp only [loadStage]
  cases hanswer : dl.dlopen lib [.rtldNow, .rtldLocal] with
  | failed text =>
      rw [loadBody_of_dlopenFailed hanswer] at hbody
      obtain ⟨s₁, h₁, hs'⟩ := Option.bind_eq_some_iff.mp hbody
      obtain ⟨rfl, rfl⟩ := Prod.mk.inj (Option.some.inj hs')
      obtain ⟨calls, t₁, hseq, htracks₁, hhandle⟩ :=
        storeOpened_linearizes hh hopen htracks none h₁
      have htracks₂ := htracks₁.withLinker none [.dlerror]
      rw [List.append_assoc] at htracks₂
      refine ⟨calls, t₁, _, hseq.withLinker _, htracks₂, rfl, ?_⟩
      rw [handles_withLinker, hhandle]
      exact LoadStage.splitsAt_dlopenFailed text _
  | opened raw pending =>
      simp only
      cases hsym : dl.dlsym raw makeTracerFactorySymbol with
      | null text =>
          rw [loadBody_of_hookMissing hanswer hsym] at hbody
          obtain ⟨s₁, h₁, hs'⟩ := Option.bind_eq_some_iff.mp hbody
          obtain ⟨rfl, rfl⟩ := Prod.mk.inj (Option.some.inj hs')
          obtain ⟨calls, t₁, hseq, htracks₁, hhandle⟩ :=
            storeOpened_linearizes hh hopen htracks (some raw) h₁
          have htracks₂ := htracks₁.withLinker none [.dlerror, .dlsym raw, .dlerror]
          rw [List.append_assoc] at htracks₂
          refine ⟨calls, t₁, _, hseq.withLinker _, htracks₂, rfl, ?_⟩
          rw [handles_withLinker, hhandle]
          exact LoadStage.splitsAt_hookMissing raw text _
      | found hook =>
          rw [loadBody_of_hookCalled hanswer hsym] at hbody
          obtain ⟨s₁, h₁, hbody⟩ := Option.bind_eq_some_iff.mp hbody
          obtain ⟨s₂, h₂, hs'⟩ := Option.bind_eq_some_iff.mp hbody
          obtain ⟨rfl, rfl⟩ := Prod.mk.inj (Option.some.inj hs')
          obtain ⟨calls, t₁, hseq, htracks₁, hhandle⟩ :=
            storeOpened_linearizes hh hopen htracks (some raw) h₁
          -- the hook finds the handle busy, and neither it nor the run of its calls changes it
          obtain ⟨calls', t₂, hseq', htracks₂⟩ := hhook _ _ _ _ _
            ((htracks₁.withLinker none [.dlerror, .dlsym raw, .hook raw]).withRunning _) h₂
          have hnested := hseq'.nested_eq h List.mem_cons_self
          have hsequential := hseq'.sequential_eq h List.mem_cons_self
          rw [handles_withRunning, handles_withLinker, hhandle] at hnested
          rw [← hsequential, List.append_assoc] at htracks₂
          refine ⟨calls ++ calls', t₂, [.dlopen (some raw), .dlerror, .dlsym raw, .hook raw], ?_,
            ?_, rfl, ?_⟩
          · have hall := hseq.trans hseq'.of_withRunning.of_withLinker.of_cons
            exact hall.assign hh rfl fun k hk => Function.update_of_ne hk _ _
          · exact ⟨(htracks₂.update _).handles_eq, htracks₂.events_perm,
              htracks₂.overwritten_perm, htracks₂.lastLoad_eq⟩
          · rw [handles_withLinker, handles_setFactory_self, handles_withRunning, hnested]
            exact LoadStage.splitsAt_hookStage raw _ _

/-- **A load behind the label `cleanup`.** -/
theorem cleanup_linearizes (hh : h ∉ busy) (hclose : onClose.Linearizes build (h :: busy))
    (htracks : Tracks (h :: busy) events drops s t)
    (hcleanup : cleanup dl h onClose code s = some s') :
    ∃ calls t', Sequential build busy s t calls s' t' ∧ t'.handles h = t.handles h ∧
      Tracks (h :: busy) (events ++ cleanupEvents code (s.handles h)) drops s' t' ∧
      s'.handles h = cleaned code (s.handles h) := by
  by_cases hcode : code = .success
  · subst hcode
    rw [cleanup_success] at hcleanup
    obtain rfl := Option.some.inj hcleanup
    refine ⟨[], t, .refl s t, rfl, ?_, rfl⟩
    simpa [cleanupEvents] using htracks
  · cases hs : (s.handles h).libHandle with
    | none =>
        rw [cleanup_of_libHandle_none code hs] at hcleanup
        obtain rfl := Option.some.inj hcleanup
        refine ⟨[], t, .refl s t, rfl, ?_, ?_⟩
        · simpa [cleanupEvents, hs] using htracks
        · simp only [cleaned, if_neg hcode, ← hs]
    | some raw =>
        rw [cleanup_of_libHandle_some hcode hs] at hcleanup
        obtain ⟨s₁, h₁, rfl⟩ := Option.map_eq_some_iff.mp hcleanup
        obtain ⟨calls, t₁, hseq, htracks₁⟩ := hclose _ _ _ _ _
          (htracks.withLinker (s.linker.dlclose dl raw).dlerrorText [.dlclose raw]) h₁
        have hnested := hseq.nested_eq h List.mem_cons_self
        refine ⟨calls, t₁, ?_, hseq.sequential_eq h List.mem_cons_self, ?_, ?_⟩
        · exact hseq.of_withLinker.of_cons.assign hh rfl fun k hk => Function.update_of_ne hk _ _
        · simp only [cleanupEvents, if_neg hcode, hs]
          exact htracks₁.update _
        · rw [cleaned, if_neg hcode, handles_setLibHandle_self, hnested, handles_withLinker]

/-- **A load**: its calls can be made one after another, and it after them. -/
theorem load_linearizes (hh : h ∉ busy) (hopen : onOpen.Linearizes build busy)
    (hhook : onHook.Linearizes build (h :: busy)) (hclose : onClose.Linearizes build (h :: busy))
    (htracks : Tracks busy events drops s t)
    (hload : s.load build dl lib h errorBuffer errorBufferLength onOpen onHook onClose =
      some (code, s')) :
    ∃ calls t', Sequential build busy s t calls s' t' ∧ Tracks busy events drops s' t' := by
  -- when the load returns, it is made
  have hmade : ∀ {calls s₂ t₂}, Admits build errorBuffer errorBufferLength →
      Sequential build busy s t calls s₂ t₂ →
      Tracks (h :: busy)
        (events ++ (loadStage build dl lib errorBuffer errorBufferLength).events)
        (droppedBy build (t₂.handles h) ++ drops) s₂ t₂ →
      s₂.handles h =
        (loadStage build dl lib errorBuffer errorBufferLength).handle (t₂.handles h) →
      s' = s₂.returns (.load dl lib h errorBuffer errorBufferLength)
        (some (h, (loadStage build dl lib errorBuffer errorBufferLength).returnCode)) →
      ∃ calls t', Sequential build busy s t calls s' t' ∧ Tracks busy events drops s' t' := by
    rintro calls s₂ t₂ hadm hseq htracks₂ hhandle rfl
    obtain ⟨t₃, hload₃⟩ := LoaderState.exists_load hadm dl lib h t₂
    have hstep : (freeLoaderMachine build H).step t₂
        (.load dl lib h errorBuffer errorBufferLength) = some t₃ := hload₃
    have hto := LoaderState.stepsTo_of_load hload₃
    refine ⟨_, t₃, hseq.returns hstep (fun k hk => ?_) _, htracks₂.load hto hhandle⟩
    rw [hto.handles_eq]
    exact Function.update_of_ne (ne_of_mem_of_not_mem hk hh) _ _
  cases build with
  | noWeakSymbols =>
      obtain ⟨-, rfl⟩ := Prod.mk.inj (Option.some.inj hload)
      refine hmade (fun hbuild => by cases hbuild) (.refl s t) ?_ (htracks.handles_eq h hh) rfl
      rw [loadStage, LoadStage.events, List.append_nil]
      exact htracks.cons h
  | weakSymbols =>
      obtain ⟨hadm, s₁, s₂, h₁, h₂, rfl⟩ := load_eq_some_iff.mp hload
      obtain ⟨calls, t₁, es, hseq₁, htracks₁, rfl, hsplit⟩ :=
        loadBody_linearizes hh hopen hhook htracks h₁
      obtain ⟨calls', t₂, hseq₂, hkept, htracks₂, hhandle⟩ :=
        cleanup_linearizes hh hclose htracks₁ h₂
      rw [← hsplit.handle_eq, ← hkept] at hhandle
      rw [List.append_assoc, ← hsplit.events_eq, ← hkept] at htracks₂
      exact hmade hadm (hseq₁.trans hseq₂) htracks₂ hhandle rfl

/-- **A destroy**: the calls of the destructors can be made before it. -/
theorem destroy_linearizes (hh : h ∉ busy) (hclose : onClose.Linearizes build (h :: busy))
    (htracks : Tracks busy events drops s t)
    (hdestroy : s.destroy dl (some h) onClose = some s') :
    ∃ calls t', Sequential build busy s t calls s' t' ∧ Tracks busy events drops s' t' := by
  have hsame := htracks.handles_eq h hh
  cases hs : (s.handles h).libHandle with
  | none =>
      rw [destroy_of_libHandle_none hs] at hdestroy
      obtain rfl := Option.some.inj hdestroy
      have hslot : t.slots h = none := (congrArg _ hsame).symm.trans hs
      have hstep : (freeLoaderMachine build H).step t (.destroy dl (some h)) =
          some { t with lastLoad := none } :=
        congrArg some (LoaderState.destroy_of_slots_none hslot)
      refine ⟨_, _, (Sequential.refl s t).returns hstep (fun _ _ => rfl) none, ?_⟩
      exact ⟨htracks.handles_eq, htracks.events_perm, htracks.overwritten_perm, rfl⟩
  | some raw =>
      rw [destroy_of_libHandle_some hs] at hdestroy
      obtain ⟨s₁, h₁, rfl⟩ := Option.map_eq_some_iff.mp hdestroy
      have hbusy : Tracks (h :: busy) events drops (s.setFactory h none) t :=
        (htracks.cons h).update _
      obtain ⟨calls, t₁, hseq, htracks₁⟩ := hclose _ _ _ _ _
        (hbusy.withLinker (s.linker.dlclose dl raw).dlerrorText [.dlclose raw]) h₁
      have hslot : t₁.slots h = some raw := by
        rw [LoaderState.slots, hseq.sequential_eq h List.mem_cons_self, ← hsame, hs]
      have hfactory : (s₁.handles h).factory = none := by
        rw [hseq.nested_eq h List.mem_cons_self, handles_withLinker, handles_setFactory_self]
      have hstep : (freeLoaderMachine build H).step t₁ (.destroy dl (some h)) =
          some (t₁.destroy dl (some h)) := rfl
      have hquiet : Sequential build busy s t [] (s.setFactory h none) t :=
        (Sequential.refl s t).assign hh rfl fun k hk => Function.update_of_ne hk _ _
      have hall : Sequential build busy s t _ (s₁.setLibHandle h none) t₁ :=
        (hquiet.trans hseq.of_withLinker.of_cons).assign hh rfl fun k hk =>
          Function.update_of_ne hk _ _
      refine ⟨_, _, hall.returns hstep (fun k hk => ?_) none, htracks₁.destroy hslot hfactory⟩
      rw [LoaderState.destroy_of_slots_some hslot]
      exact Function.update_of_ne (ne_of_mem_of_not_mem hk hh) _ _

end NestedState

/-- **Scripts linearize**, when they do not touch what is busy. -/
theorem LoaderScript.linearizes (build : Build) (script : LoaderScript H) {busy : List H}
    (havoid : script.AvoidsBusy busy) : LibraryCode.Linearizes build busy (script.exec build) := by
  induction script generalizing busy with
  | done =>
      intro events drops s s' t htracks hexec
      obtain rfl := Option.some.inj hexec
      exact ⟨[], t, .refl s t, htracks⟩
  | load dl lib h errorBuffer errorBufferLength onOpen onHook onClose rest ihOpen ihHook ihClose
      ihRest =>
      obtain ⟨hh, hopen, hhook, hclose, hrest⟩ := havoid
      intro events drops s s' t htracks hexec
      obtain ⟨⟨code, s₁⟩, h₁, h₂⟩ := Option.bind_eq_some_iff.mp hexec
      obtain ⟨calls, t₁, hseq, htracks₁⟩ :=
        NestedState.load_linearizes hh (ihOpen hopen) (ihHook hhook) (ihClose hclose) htracks h₁
      obtain ⟨calls', t', hseq', htracks'⟩ := ihRest code (hrest code) _ _ _ _ _ htracks₁ h₂
      exact ⟨calls ++ calls', t', hseq.trans hseq', htracks'⟩
  | destroy dl h onClose rest ihClose ihRest =>
      intro events drops s s' t htracks hexec
      obtain ⟨s₁, h₁, h₂⟩ := Option.bind_eq_some_iff.mp hexec
      rcases h with _ | h
      · obtain rfl := Option.some.inj h₁
        have hstep : (freeLoaderMachine build H).step t (.destroy dl none) =
            some { t with lastLoad := none } := rfl
        have hquiet : Sequential build busy s t [] s t := .refl s t
        have hseq := hquiet.returns hstep (fun _ _ => rfl) none
        have htracks₁ : Tracks busy events drops (s.returns (.destroy dl none) none)
            { t with lastLoad := none } :=
          ⟨htracks.handles_eq, htracks.events_perm, htracks.overwritten_perm, rfl⟩
        obtain ⟨calls', t', hseq', htracks'⟩ := ihRest havoid _ _ _ _ _ htracks₁ h₂
        exact ⟨_, t', hseq.trans hseq', htracks'⟩
      · obtain ⟨hh, hclose, hrest⟩ := havoid
        obtain ⟨calls, t₁, hseq, htracks₁⟩ :=
          NestedState.destroy_linearizes hh (ihClose hclose) htracks h₁
        obtain ⟨calls', t', hseq', htracks'⟩ := ihRest hrest _ _ _ _ _ htracks₁ h₂
        exact ⟨calls ++ calls', t', hseq.trans hseq', htracks'⟩

/-- **Nested calls are calls one after another**: whatever the constructors, the hooks and the
destructors load and destroy, to any depth, as long as no hook or destructor makes a call on a
handle that an outer call is busy with, the calls in the order in which they return, made one
after another from the same state with libraries that call nothing, leave the same handles and
the same return code; and what was asked of the linker and what was dropped is the same up to
the order. -/
theorem reentrant_runs_linearize {build : Build} {script : LoaderScript H}
    (hadm : script.Admitted build) (havoid : script.AvoidsBusy []) (t : LoaderState H) :
    ∃ s t', script.exec build (.of t) = some s ∧
      (freeLoaderMachine build H).Run t s.returned t' ∧
      t'.handles = s.handles ∧ t'.lastLoad = s.lastLoad ∧
      t'.linker.events.Perm s.linker.events ∧ t'.overwritten.Perm s.overwritten := by
  obtain ⟨s, hexec⟩ := LoaderScript.exec_total hadm (.of t)
  have hevents : (NestedState.of t).linker.events.Perm (t.linker.events ++ []) := by
    rw [List.append_nil]
    exact List.Perm.refl _
  have htracks : Tracks [] [] [] (NestedState.of t) t :=
    ⟨fun _ _ => rfl, hevents, List.Perm.refl _, rfl⟩
  obtain ⟨calls, t', hseq, htracks'⟩ :=
    LoaderScript.linearizes build script havoid _ _ _ _ _ htracks hexec
  have hreturned : s.returned = calls := hseq.returned_eq
  refine ⟨s, t', hexec, ?_, ?_, htracks'.lastLoad_eq.symm, ?_, htracks'.overwritten_perm.symm⟩
  · rw [hreturned]
    exact hseq.run
  · funext k
    exact (htracks'.handles_eq k List.not_mem_nil).symm
  · have hperm := htracks'.events_perm.symm
    rwa [List.append_nil] at hperm

/-- The calls of `nestedScript` return from the inside out. -/
theorem reentrant_runs_linearize_nested :
    ∃ s t', nestedScript.exec .weakSymbols (.start Bool none) = some s ∧
      (freeLoaderMachine .weakSymbols Bool).Run (LoaderState.start Bool none) s.returned t' ∧
      t'.handles = s.handles := by
  obtain ⟨s, t', hexec, hrun, hhandles, -⟩ := reentrant_runs_linearize nestedScript_admitted
    (by simp [nestedScript, LoaderScript.AvoidsBusy]) (LoaderState.start Bool none)
  exact ⟨s, t', hexec, hrun, hhandles⟩

end

end OpentracingC
