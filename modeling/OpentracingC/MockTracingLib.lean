import OpentracingC.ErrorBuffer

/-!
# The Mock Tracing Libraries

`mock_tracing_lib.c` is compiled to four libraries, one with each way a plugin can answer:
its hook accepts the version, expects another version, or returns NULL without an error, or
there is no hook. With the name of a library that does not exist they are the five loads of
`dynamic_load_test.c`.

The test makes these loads in one order, on one handle and one error buffer, and asserts the
return code and the two fields of the handle after each. `mockMachine` makes them in any
order, and any number of times, with a destroy where a load has succeeded: the assertions of
the test hold after every load, and the error buffer reads as the text of the latest load
that failed (`mock_runs`).
-/

open CMemory

namespace OpentracingC

/-! ### The libraries -/

/-- The libraries that the test loads. -/
inductive TestLibrary
  /-- `"libdoesnotexist.so"`. -/
  | doesNotExist
  /-- `MOCK_TRACING_LIB_NO_HOOK_NAME`: without `DEFINE_HOOK`. -/
  | noHook
  /-- `MOCK_TRACING_LIB_BAD_VERSION_NAME`: with `BAD_VERSION`. -/
  | badVersion
  /-- `MOCK_TRACING_LIB_HOOK_RETURNS_NULL_NAME`: with `RETURN_NULL_NO_ERROR`. -/
  | hookReturnsNull
  /-- `MOCK_TRACING_LIB_NAME`. -/
  | mock
deriving DecidableEq

/-- `OPENTRACINGC_VERSION_COMPAT`. -/
def TestLibrary.versionCompat : TestLibrary → CString
  | .badVersion => ⟨asciiBytes "0.0.0", by decide⟩
  | _ => opentracingcVersionString

/-- `"Tracer expected opentracing-c version %s, called with %s"`, with
`OPENTRACINGC_VERSION_STRING` and the version of the caller. -/
def versionMessage (opentracingVersion : CString) : CString where
  bytes := asciiBytes "Tracer expected opentracing-c version " ++ opentracingcVersionString.bytes ++
    asciiBytes ", called with " ++ opentracingVersion.bytes
  nul_notMem := by
    have hversion := opentracingVersion.nul_notMem
    have hliteral : (0 : UInt8) ∉ asciiBytes "Tracer expected opentracing-c version " ++
        opentracingcVersionString.bytes ++ asciiBytes ", called with " := by decide
    rw [List.mem_append]
    exact not_or.mpr ⟨hliteral, hversion⟩

/-- `opentracing_make_tracer_factory` of `mock_tracing_lib.c`; `mockTracerFactory` is the
address of its factory. -/
def TestLibrary.makeTracerFactory (lib : TestLibrary)
    (mockTracerFactory : OpentracingTracerFactory) : MakeTracerFactory :=
  fun opentracingVersion errorBuffer errorBufferLength =>
    let buffer := errorBuffer.getD fun _ => 0
    if opentracingVersion ≠ lib.versionCompat then
      { returnCode := some .incompatibleLibraryVersions
        factory := none
        errorBuffer :=
          snprintf buffer (toSize errorBufferLength.val) (versionMessage opentracingVersion)
        dlerrorText := none }
    else if lib = .hookReturnsNull then
      { returnCode := none, factory := none, errorBuffer := buffer, dlerrorText := none }
    else
      { returnCode := some .success
        factory := some mockTracerFactory
        errorBuffer := buffer
        dlerrorText := none }

/-- Where the libraries are found, and the texts of the two failures of the linker. -/
structure TestLinker where
  name : TestLibrary → CString
  raw : TestLibrary → RawHandle
  mockTracerFactory : TestLibrary → OpentracingTracerFactory
  notFound : CString
  noSymbol : CString

/-- **A linker that finds the test's libraries.** -/
structure TestLinker.Serves (L : TestLinker) (dl : DlLibrary) : Prop where
  doesNotExist : dl.dlopen (L.name .doesNotExist) [.rtldNow, .rtldLocal] = .failed L.notFound
  opened : ∀ lib, lib ≠ .doesNotExist →
    ∃ text, dl.dlopen (L.name lib) [.rtldNow, .rtldLocal] = .opened (L.raw lib) text
  noHook : dl.dlsym (L.raw .noHook) makeTracerFactorySymbol = .null (some L.noSymbol)
  hook : ∀ lib, lib ≠ .doesNotExist → lib ≠ .noHook →
    dl.dlsym (L.raw lib) makeTracerFactorySymbol =
      .found (lib.makeTracerFactory (L.mockTracerFactory lib))
  notFound_fits : (strlen L.notFound : ℤ) + 1 ≤ intMax
  noSymbol_fits : (strlen L.noSymbol : ℤ) + 1 ≤ intMax

/-! ### What the test expects -/

/-- The return code that the test asserts. -/
def TestLibrary.expected : TestLibrary → OpentracingDynamicLoadErrorCode
  | .doesNotExist => .failure
  | .noHook => .failure
  | .badVersion => .incompatibleLibraryVersions
  | .hookReturnsNull => .failure
  | .mock => .success

/-- The handle that the test asserts: both fields NULL after a failure, both set after a
success. -/
def TestLinker.expectedHandle (L : TestLinker) : TestLibrary → OpentracingLibraryHandle
  | .mock => { factory := some (L.mockTracerFactory .mock), libHandle := some (L.raw .mock) }
  | _ => OpentracingLibraryHandle.null

/-- The text a load leaves in the error buffer, none if it leaves the buffer alone. -/
def TestLinker.expectedText (L : TestLinker) : TestLibrary → Option CString
  | .doesNotExist => some L.notFound
  | .noHook => some L.noSymbol
  | .badVersion => some (versionMessage opentracingcVersionString)
  | .hookReturnsNull => some factoryNullMessage
  | .mock => none

/-! ### One load -/

section

variable {L : TestLinker} {dl : DlLibrary} {n : CInt} {buffer : Bytes}

/-- A load whose stage keeps the contract of the buffer: the code, the handle and the text. -/
theorem load_of_stage {lib : CString} (handle : OpentracingLibraryHandle) {stage : LoadStage}
    (hstage : loadStage .weakSymbols dl lib (some buffer) n = stage)
    (hrespects : stage.RespectsBuffer n buffer) (hone : 1 ≤ n.val)
    (hterm : Terminated buffer (CInt.bytes n)) (linker : LinkerState) :
    ∃ s after, opentracingDynamicallyLoadTracingLibrary .weakSymbols dl lib handle (some buffer) n
        linker = some (stage.returnCode, s) ∧
      s.handle = stage.handle handle ∧ s.errorBuffer = some after ∧
      Terminated after (CInt.bytes n) ∧
      readString after (CInt.bytes n) =
        (stage.message n).getD (readString buffer (CInt.bytes n)) := by
  have hadm : Admits .weakSymbols (some buffer) n := fun _ => Or.inl rfl
  obtain ⟨s, hload, hend⟩ := load_eq dl lib handle linker hadm
  rw [hstage] at hload hend
  obtain ⟨after, hafter, hreports⟩ := stage.exists_bufferAfter_reportsIn buffer hone
  obtain ⟨hafterTerm, hread, -⟩ := stage.read_message hone hterm hrespects hreports
  exact ⟨s, after, hload, hend.handle_eq, hend.buffer_eq.trans hafter, hafterTerm, hread⟩

/-- The stage of a library whose hook is found. -/
theorem loadStage_of_hook (hserves : L.Serves dl) (buffer : Bytes) (n : CInt) (lib : TestLibrary)
    (hexists : lib ≠ .doesNotExist) (hhook : lib ≠ .noHook) :
    loadStage .weakSymbols dl (L.name lib) (some buffer) n =
      hookStage (L.raw lib) (lib.makeTracerFactory (L.mockTracerFactory lib)
        opentracingcVersionString (some buffer) n) := by
  obtain ⟨text, hopen⟩ := hserves.opened lib hexists
  simp only [loadStage, hopen, hserves.hook lib hexists hhook]

/-- The mock library built with `BAD_VERSION` expects another version. -/
theorem versionCompat_badVersion :
    opentracingcVersionString ≠ TestLibrary.badVersion.versionCompat := by
  decide

/-- The hook of the library built with `BAD_VERSION` leaves its message in the buffer. -/
theorem holdsText_versionMessage (buffer : Bytes) (hone : 1 ≤ n.val) :
    HoldsText (versionMessage opentracingcVersionString) n.val buffer
      (snprintf buffer (toSize n.val) (versionMessage opentracingcVersionString)) := by
  have hcast := toSize_of_nonneg (by omega : 0 ≤ n.val) n.le_intMax
  have hsnprintf := holdsText_snprintf (s := versionMessage opentracingcVersionString)
    (n := toSize n.val) buffer (by omega)
  rwa [hcast] at hsnprintf

/-- **A load of a test library**, on an empty handle: it returns the code and leaves the handle
and the text that the test expects. -/
theorem load_test_library (hserves : L.Serves dl) (lib : TestLibrary) (hone : 1 ≤ n.val)
    (hterm : Terminated buffer (CInt.bytes n)) (linker : LinkerState) :
    ∃ s after, opentracingDynamicallyLoadTracingLibrary .weakSymbols dl (L.name lib)
        OpentracingLibraryHandle.null (some buffer) n linker = some (lib.expected, s) ∧
      s.handle = L.expectedHandle lib ∧ s.errorBuffer = some after ∧
      Terminated after (CInt.bytes n) ∧
      readString after (CInt.bytes n) =
        ((L.expectedText lib).map fun text => CString.inBuffer text n).getD
          (readString buffer (CInt.bytes n)) := by
  cases lib with
  | doesNotExist =>
      have hstage : loadStage .weakSymbols dl (L.name .doesNotExist) (some buffer) n =
          .dlopenFailed L.notFound := by
        simp only [loadStage, hserves.doesNotExist]
      exact load_of_stage .null hstage hserves.notFound_fits hone hterm linker
  | noHook =>
      obtain ⟨text, hopen⟩ := hserves.opened .noHook (by decide)
      have hstage : loadStage .weakSymbols dl (L.name .noHook) (some buffer) n =
          .hookMissing (L.raw .noHook) (some L.noSymbol) := by
        simp only [loadStage, hopen, hserves.noHook]
      exact load_of_stage .null hstage hserves.noSymbol_fits hone hterm linker
  | badVersion =>
      have hstage := loadStage_of_hook hserves buffer n .badVersion (by decide) (by decide)
      obtain ⟨hafter, hread, hout⟩ := HoldsText.read hone (holdsText_versionMessage buffer hone)
      rw [TestLibrary.makeTracerFactory, if_pos versionCompat_badVersion, Option.getD_some]
        at hstage
      obtain ⟨s, after, hload, hhandle, hbuffer, hterm', hread'⟩ :=
        load_of_stage .null hstage
          (hookStage_respectsBuffer _ hafter hout) hone hterm linker
      refine ⟨s, after, hload, hhandle, hbuffer, hterm', hread'.trans ?_⟩
      exact hread
  | hookReturnsNull =>
      have hstage := loadStage_of_hook hserves buffer n .hookReturnsNull (by decide) (by decide)
      exact load_of_stage .null hstage (hookStage_respectsBuffer _ hterm fun _ _ => rfl) hone hterm
        linker
  | mock =>
      have hstage := loadStage_of_hook hserves buffer n .mock (by decide) (by decide)
      exact load_of_stage .null hstage (hookStage_respectsBuffer _ hterm fun _ _ => rfl) hone hterm
        linker

end

/-! ### Loads in any order -/

/-- A program with one handle and one error buffer that loads the test's libraries. -/
structure TestState where
  handle : OpentracingLibraryHandle
  buffer : Bytes
  linker : LinkerState
  /-- What each load loaded, returned and left in the handle. -/
  results : List (TestLibrary × OpentracingDynamicLoadErrorCode × OpentracingLibraryHandle)

/-- The calls of the test. -/
inductive TestCall
  | load (lib : TestLibrary)
  | destroy
deriving DecidableEq

/-- The library a call loads. -/
def TestCall.loaded : TestCall → Option TestLibrary
  | .load lib => some lib
  | .destroy => none

/-- The loads of the test in any order; as there, a load that succeeded is destroyed before
the next. -/
def mockMachine (L : TestLinker) (dl : DlLibrary) (n : CInt) : Machine TestState TestCall where
  step s
    | .load lib =>
        (opentracingDynamicallyLoadTracingLibrary .weakSymbols dl (L.name lib) s.handle
            (some s.buffer) n s.linker).map fun r =>
          { handle := r.2.handle
            buffer := r.2.errorBuffer.getD s.buffer
            linker := r.2.linker
            results := s.results ++ [(lib, r.1, r.2.handle)] }
    | .destroy =>
        let r := opentracingLibraryHandleDestroy dl (some s.handle) s.linker
        some { s with handle := r.1.getD s.handle, linker := r.2 }
  Allowed s
    | .load _ => s.handle.libHandle = none
    | .destroy => True

/-- The texts that loads of libraries leave in the error buffer. -/
def TestLinker.texts (L : TestLinker) (n : CInt) (libs : List TestLibrary) : List CString :=
  libs.filterMap fun lib => (L.expectedText lib).map fun text => CString.inBuffer text n

/-- **The invariant of the test**, after loads of the libraries `libs`. -/
structure TestInv (L : TestLinker) (n : CInt) (text : CString) (libs : List TestLibrary)
    (s : TestState) : Prop where
  handle_eq : s.handle = OpentracingLibraryHandle.null ∨ s.handle = L.expectedHandle .mock
  results_eq : s.results = libs.map fun lib => (lib, lib.expected, L.expectedHandle lib)
  terminated : Terminated s.buffer (CInt.bytes n)
  read_eq : some (readString s.buffer (CInt.bytes n)) = (text :: L.texts n libs).getLast?

section

variable {L : TestLinker} {dl : DlLibrary} {n : CInt} {text : CString} {libs : List TestLibrary}
  {s : TestState}

/-- The handle a load leaves is empty or that of the mock library. -/
theorem expectedHandle_eq (L : TestLinker) (lib : TestLibrary) :
    L.expectedHandle lib = OpentracingLibraryHandle.null ∨
      L.expectedHandle lib = L.expectedHandle .mock := by
  cases lib with
  | mock => exact Or.inr rfl
  | _ => exact Or.inl rfl

/-- The texts after one more load. -/
theorem texts_append (L : TestLinker) (n : CInt) (libs : List TestLibrary) (lib : TestLibrary) :
    L.texts n (libs ++ [lib]) =
      L.texts n libs ++
        ((L.expectedText lib).map fun text => CString.inBuffer text n).toList := by
  rw [TestLinker.texts, List.filterMap_append]
  cases h : L.expectedText lib <;> simp [TestLinker.texts, h]

/-- **An allowed call returns**, and preserves the invariant. -/
theorem TestInv.step (hserves : L.Serves dl) (hone : 1 ≤ n.val)
    (hinv : TestInv L n text libs s) {call : TestCall}
    (hallowed : (mockMachine L dl n).Allowed s call) :
    ∃ s', (mockMachine L dl n).step s call = some s' ∧
      TestInv L n text (libs ++ call.loaded.toList) s' := by
  cases call with
  | load lib =>
      have hnull : s.handle = OpentracingLibraryHandle.null := by
        rcases hinv.handle_eq with hnull | hmock
        · exact hnull
        · have hempty : s.handle.libHandle = none := hallowed
          rw [hmock] at hempty
          cases hempty
      obtain ⟨r, after, hload, hhandle, hbuffer, hterm, hread⟩ :=
        load_test_library hserves lib hone hinv.terminated s.linker
      rw [← hnull] at hload
      refine ⟨_, Option.map_eq_some_iff.mpr ⟨_, hload, rfl⟩, ?_, ?_, ?_, ?_⟩
      · rw [hhandle]
        exact expectedHandle_eq L lib
      · rw [hhandle, hinv.results_eq, TestCall.loaded, Option.toList_some, List.map_append]
        rfl
      · rw [hbuffer, Option.getD_some]
        exact hterm
      · rw [hbuffer, Option.getD_some, hread, TestCall.loaded, Option.toList_some, texts_append]
        exact getLast?_messages _ hinv.read_eq
  | destroy =>
      refine ⟨_, rfl, ?_, ?_, hinv.terminated, ?_⟩
      · rcases hinv.handle_eq with hnull | hmock
        · rw [hnull]
          exact Or.inl rfl
        · rw [hmock]
          exact Or.inl rfl
      · rw [TestCall.loaded, Option.toList_none, List.append_nil]
        exact hinv.results_eq
      · rw [TestCall.loaded, Option.toList_none, List.append_nil]
        exact hinv.read_eq

/-- Calls that keep the contract are a run. -/
theorem TestInv.exists_run (hserves : L.Serves dl) (hone : 1 ≤ n.val)
    (hinv : TestInv L n text libs s) {calls : List TestCall}
    (hobeys : (mockMachine L dl n).Obeys s calls) :
    ∃ s', (mockMachine L dl n).Run s calls s' ∧
      TestInv L n text (libs ++ calls.filterMap TestCall.loaded) s' := by
  induction calls generalizing s libs with
  | nil =>
      refine ⟨s, .nil s, ?_⟩
      rw [List.filterMap_nil, List.append_nil]
      exact hinv
  | cons call calls ih =>
      obtain ⟨hallowed, hrest⟩ := hobeys
      obtain ⟨s₁, hstep, hinv₁⟩ := hinv.step hserves hone hallowed
      obtain ⟨s', hrun, hinv'⟩ := ih hinv₁ (hrest s₁ hstep)
      refine ⟨s', .cons hallowed hstep hrun, ?_⟩
      have hloaded : (call :: calls).filterMap TestCall.loaded =
          call.loaded.toList ++ calls.filterMap TestCall.loaded := by
        cases hcall : call.loaded <;> simp [hcall]
      rw [hloaded, ← List.append_assoc]
      exact hinv'

/-- **The assertions of the test hold in every order**: on an empty handle and a terminated
buffer of at least one byte, and with any linker that finds the test's libraries, loads of
them in any order and number, with a destroy after each that succeeds, all return; each returns
the code and leaves the handle that the test asserts; and the error buffer always reads as the
text of the latest load that failed, cut to the buffer. -/
theorem mock_runs (hserves : L.Serves dl) (hone : 1 ≤ n.val)
    (hhandle : s.handle = OpentracingLibraryHandle.null) (hresults : s.results = [])
    (hterm : Terminated s.buffer (CInt.bytes n)) {calls : List TestCall}
    (hobeys : (mockMachine L dl n).Obeys s calls) :
    ∃ s', (mockMachine L dl n).Run s calls s' ∧
      s'.results = (calls.filterMap TestCall.loaded).map
        (fun lib => (lib, lib.expected, L.expectedHandle lib)) ∧
      Terminated s'.buffer (CInt.bytes n) ∧
      some (readString s'.buffer (CInt.bytes n)) =
        (readString s.buffer (CInt.bytes n) ::
          L.texts n (calls.filterMap TestCall.loaded)).getLast? := by
  have hinv : TestInv L n (readString s.buffer (CInt.bytes n)) [] s :=
    ⟨Or.inl hhandle, hresults, hterm, rfl⟩
  obtain ⟨s', hrun, hinv'⟩ := hinv.exists_run hserves hone hobeys
  exact ⟨s', hrun, hinv'.results_eq, hinv'.terminated, hinv'.read_eq⟩

end

/-- A place for the test's libraries. -/
def testLinker : TestLinker where
  name
    | .doesNotExist => ⟨asciiBytes "libdoesnotexist.so", by decide⟩
    | .noHook => ⟨asciiBytes "libmock_tracing_lib_no_hook.so", by decide⟩
    | .badVersion => ⟨asciiBytes "libmock_tracing_lib_bad_version.so", by decide⟩
    | .hookReturnsNull => ⟨asciiBytes "libmock_tracing_lib_hook_return_null.so", by decide⟩
    | .mock => ⟨asciiBytes "libmock_tracing_lib.so", by decide⟩
  raw
    | .doesNotExist => 0
    | .noHook => 1
    | .badVersion => 2
    | .hookReturnsNull => 3
    | .mock => 4
  mockTracerFactory _ := 5
  notFound := notFoundText
  noSymbol := ⟨asciiBytes "undefined symbol", by decide⟩

/-- A linker that finds them there. -/
def testDlLibrary : DlLibrary where
  dlopen name _ :=
    match [TestLibrary.noHook, .badVersion, .hookReturnsNull, .mock].find? fun lib =>
        testLinker.name lib = name with
    | some lib => .opened (testLinker.raw lib) none
    | none => .failed testLinker.notFound
  dlsym raw _ :=
    match [TestLibrary.badVersion, .hookReturnsNull, .mock].find? fun lib =>
        testLinker.raw lib = raw with
    | some lib => .found (lib.makeTracerFactory (testLinker.mockTracerFactory lib))
    | none => .null (some testLinker.noSymbol)
  dlclose _ := none

/-- It finds them. -/
theorem testLinker_serves : testLinker.Serves testDlLibrary where
  doesNotExist := rfl
  opened lib hlib := by
    cases lib with
    | doesNotExist => exact absurd rfl hlib
    | _ => exact ⟨none, rfl⟩
  noHook := rfl
  hook lib hexists hhook := by
    cases lib with
    | doesNotExist => exact absurd rfl hexists
    | noHook => exact absurd rfl hhook
    | _ => rfl
  notFound_fits := by decide
  noSymbol_fits := by decide

/-- A program with a zeroed handle and a zeroed buffer. -/
def TestState.zeroed : TestState where
  handle := OpentracingLibraryHandle.null
  buffer := fun _ => 0
  linker := ⟨none, []⟩
  results := []

/-- The mock library is loaded first, and one without a hook after it: the text is that of the
second, in a buffer of ten bytes. -/
theorem mock_runs_reordered :
    ∃ s, (mockMachine testLinker testDlLibrary (CInt.ofNat 10 (by decide))).Run .zeroed
        [.load .mock, .destroy, .load .noHook] s ∧
      readString s.buffer 10 = testLinker.noSymbol.truncate 9 := by
  have hobeys : (mockMachine testLinker testDlLibrary (CInt.ofNat 10 (by decide))).Obeys .zeroed
      [.load .mock, .destroy, .load .noHook] := by
    refine ⟨rfl, fun s₁ h₁ => ⟨trivial, fun s₂ h₂ => ⟨?_, fun _ _ => trivial⟩⟩⟩
    obtain rfl := Option.some.inj h₁
    obtain rfl := Option.some.inj h₂
    rfl
  obtain ⟨s, hrun, -, -, hread⟩ := mock_runs testLinker_serves (by decide) rfl rfl
    ⟨0, by decide, rfl⟩ hobeys
  exact ⟨s, hrun, Option.some.inj hread⟩

end OpentracingC
