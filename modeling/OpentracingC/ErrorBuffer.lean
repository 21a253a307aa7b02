import OpentracingC.ErrorReport
import OpentracingC.Lib.CText
import OpentracingC.Lib.Machine

/-!
# One Error Buffer for Many Loads

A program that loads libraries usually has one handle and one error buffer, as the tests do,
and passes them to every load. `bufferMachine` makes loads and destroys on them in any order,
with any linker and any plugin at each. Its contract is that the texts of the linker are no
longer than an `int` can count, and that a hook neither writes outside the buffer nor leaves
it without a terminator.

What the program may rely on is that it can always read the buffer as a string
(`error_buffer_runs`): the text is that of the latest load that wrote one, cut to the buffer.
A load that succeeds and a `dlsym` that fails without a text leave an older text standing.
-/

open CMemory

namespace OpentracingC

/-- The length of a buffer as a number of bytes. -/
def CInt.bytes (n : CInt) : ℕ :=
  n.val.toNat

/-- A text as it is read from a buffer of length `n`. -/
def CString.inBuffer (text : CString) (n : CInt) : CString :=
  text.truncate (n.val - 1).toNat

/-- The text a stage leaves for the caller to read, none if it leaves the buffer alone. -/
def LoadStage.message (n : CInt) : LoadStage → Option CString
  | .unsupported => some (CString.inBuffer noWeakSymbolMessage n)
  | .dlopenFailed text => some (CString.inBuffer text n)
  | .hookMissing _ text => text.map fun text => CString.inBuffer text n
  | .hookRejected _ result _ _ => some (readString result.errorBuffer (CInt.bytes n))
  | .factoryMissing _ _ => some (CString.inBuffer factoryNullMessage n)
  | .loaded _ result _ => some (readString result.errorBuffer (CInt.bytes n))

/-- **The contract of a hook about the buffer**: it does not write outside, and it leaves a
terminated buffer terminated. -/
structure MakeTracerFactory.RespectsBuffer (hook : MakeTracerFactory) (n : CInt) : Prop where
  terminated : ∀ buffer, Terminated buffer (CInt.bytes n) →
    Terminated (hook opentracingcVersionString (some buffer) n).errorBuffer (CInt.bytes n)
  outside : ∀ buffer j, j < 0 ∨ n.val ≤ j →
    (hook opentracingcVersionString (some buffer) n).errorBuffer j = buffer j

/-- The contract of a linker: its texts can be counted, and its hooks respect the buffer. -/
structure DlLibrary.RespectsBuffer (dl : DlLibrary) (n : CInt) : Prop where
  dlopen_text : ∀ lib flags text, dl.dlopen lib flags = .failed text →
    (strlen text : ℤ) + 1 ≤ intMax
  dlsym_text : ∀ raw symbol text, dl.dlsym raw symbol = .null (some text) →
    (strlen text : ℤ) + 1 ≤ intMax
  hook : ∀ raw symbol hook, dl.dlsym raw symbol = .found hook → hook.RespectsBuffer n

/-- A program with one handle and one error buffer. -/
structure BufferState where
  handle : OpentracingLibraryHandle
  buffer : Bytes
  linker : LinkerState
  /-- The stages at which its loads ended. -/
  stages : List LoadStage

/-- The calls of such a program, each with the linker it meets. -/
inductive BufferCall
  | load (dl : DlLibrary) (lib : CString)
  | destroy (dl : DlLibrary)

/-- Loads and destroys on one handle and one buffer of length `n`. -/
def bufferMachine (build : Build) (n : CInt) : Machine BufferState BufferCall where
  step s
    | .load dl lib =>
        (opentracingDynamicallyLoadTracingLibrary build dl lib s.handle (some s.buffer) n
            s.linker).map fun r =>
          { handle := r.2.handle
            buffer := r.2.errorBuffer.getD s.buffer
            linker := r.2.linker
            stages := s.stages ++ [loadStage build dl lib (some s.buffer) n] }
    | .destroy dl =>
        let r := opentracingLibraryHandleDestroy dl (some s.handle) s.linker
        some { s with handle := r.1.getD s.handle, linker := r.2 }
  Allowed _
    | .load dl _ => dl.RespectsBuffer n
    | .destroy _ => True

/-! ### One load -/

/-- What the contract says about the stage at which a load ends. -/
def LoadStage.RespectsBuffer (n : CInt) (buffer : Bytes) : LoadStage → Prop
  | .unsupported => True
  | .dlopenFailed text => (strlen text : ℤ) + 1 ≤ intMax
  | .hookMissing _ none => True
  | .hookMissing _ (some text) => (strlen text : ℤ) + 1 ≤ intMax
  | .hookRejected _ result _ _ => Terminated result.errorBuffer (CInt.bytes n) ∧
      ∀ j, j < 0 ∨ n.val ≤ j → result.errorBuffer j = buffer j
  | .factoryMissing _ result => Terminated result.errorBuffer (CInt.bytes n) ∧
      ∀ j, j < 0 ∨ n.val ≤ j → result.errorBuffer j = buffer j
  | .loaded _ result _ => Terminated result.errorBuffer (CInt.bytes n) ∧
      ∀ j, j < 0 ∨ n.val ≤ j → result.errorBuffer j = buffer j

section

variable {build : Build} {dl : DlLibrary} {lib : CString} {n : CInt} {buffer after : Bytes}

/-- The stage of a hook that keeps the contract. -/
theorem hookStage_respectsBuffer (raw : RawHandle) {result : HookResult}
    (hterm : Terminated result.errorBuffer (CInt.bytes n))
    (hout : ∀ j, j < 0 ∨ n.val ≤ j → result.errorBuffer j = buffer j) :
    (hookStage raw result).RespectsBuffer n buffer := by
  rw [hookStage]
  by_cases hcode : result.returnCode.getD .success ≠ .success
  · rw [dif_pos hcode]
    exact ⟨hterm, hout⟩
  · rw [dif_neg hcode]
    cases result.factory with
    | none => exact ⟨hterm, hout⟩
    | some factory => exact ⟨hterm, hout⟩

/-- With a linker that keeps the contract, so does the stage of a load. -/
theorem loadStage_respectsBuffer (hdl : dl.RespectsBuffer n)
    (hterm : Terminated buffer (CInt.bytes n)) :
    (loadStage build dl lib (some buffer) n).RespectsBuffer n buffer := by
  cases build with
  | noWeakSymbols => trivial
  | weakSymbols =>
      simp only [loadStage]
      cases hopen : dl.dlopen lib [.rtldNow, .rtldLocal] with
      | failed text => exact hdl.dlopen_text lib _ text hopen
      | opened raw pending =>
          simp only
          cases hsym : dl.dlsym raw makeTracerFactorySymbol with
          | null text =>
              cases text with
              | none => trivial
              | some text => exact hdl.dlsym_text raw _ text hsym
          | found hook =>
              have hhook := hdl.hook raw _ hook hsym
              exact hookStage_respectsBuffer raw (hhook.terminated buffer hterm)
                fun j hj => hhook.outside buffer j hj

/-- A text in the buffer is read as the stage's message, and nothing outside the buffer was
written. -/
theorem HoldsText.read {text : CString} (hone : 1 ≤ n.val)
    (h : HoldsText text n.val buffer after) :
    Terminated after (CInt.bytes n) ∧
      readString after (CInt.bytes n) = CString.inBuffer text n ∧
      ∀ j, j < 0 ∨ n.val ≤ j → after j = buffer j := by
  refine ⟨h.terminated hone, h.readString_eq hone, fun j hj => h.rest_eq j ?_⟩
  omega

/-- **What is read after one load**: the message of its stage, or what was read before. -/
theorem LoadStage.read_message (stage : LoadStage) (hone : 1 ≤ n.val)
    (hterm : Terminated buffer (CInt.bytes n)) (hrespects : stage.RespectsBuffer n buffer)
    (hreports : stage.ReportsIn n.val buffer after) :
    Terminated after (CInt.bytes n) ∧
      readString after (CInt.bytes n) =
        (stage.message n).getD (readString buffer (CInt.bytes n)) ∧
      ∀ j, j < 0 ∨ n.val ≤ j → after j = buffer j := by
  cases stage with
  | unsupported => exact HoldsText.read hone hreports
  | dlopenFailed text => exact HoldsText.read hone (hreports hrespects)
  | hookMissing raw text =>
      cases text with
      | none =>
          obtain rfl : after = buffer := hreports
          exact ⟨hterm, rfl, fun _ _ => rfl⟩
      | some text => exact HoldsText.read hone (hreports hrespects)
  | hookRejected raw result code hcode =>
      obtain rfl : after = result.errorBuffer := hreports
      exact ⟨hrespects.1, rfl, hrespects.2⟩
  | factoryMissing raw result =>
      obtain ⟨hafter, hread, hout⟩ := HoldsText.read hone hreports
      exact ⟨hafter, hread, fun j hj => (hout j hj).trans (hrespects.2 j hj)⟩
  | loaded raw result factory =>
      obtain rfl : after = result.errorBuffer := hreports
      exact ⟨hrespects.1, rfl, hrespects.2⟩

end

/-! ### Runs -/

section

variable {build : Build} {n : CInt} {s s' : BufferState}

/-- The messages of the loads so far. -/
def BufferState.messages (n : CInt) (s : BufferState) : List CString :=
  s.stages.filterMap (LoadStage.message n)

/-- **The invariant of the buffer**: it is terminated, the latest message is read from it, or
`text` before there is one, and the memory outside is `before`. -/
structure BufferInv (n : CInt) (text : CString) (before : Bytes) (s : BufferState) : Prop where
  terminated : Terminated s.buffer (CInt.bytes n)
  read_eq : some (readString s.buffer (CInt.bytes n)) = (text :: s.messages n).getLast?
  outside : ∀ j, j < 0 ∨ n.val ≤ j → s.buffer j = before j

/-- The latest message after one more load. -/
theorem getLast?_messages {text : CString} {messages : List CString} {read : CString}
    (message : Option CString) (h : some read = (text :: messages).getLast?) :
    some (message.getD read) = (text :: (messages ++ message.toList)).getLast? := by
  cases message with
  | none => rw [Option.toList_none, List.append_nil, ← h, Option.getD_none]
  | some message =>
      rw [Option.toList_some, ← List.cons_append, List.getLast?_concat, Option.getD_some]

/-- Every call preserves the invariant. -/
theorem BufferInv.step (hone : 1 ≤ n.val) {text : CString} {before : Bytes}
    (hinv : BufferInv n text before s) {call : BufferCall}
    (hallowed : (bufferMachine build n).Allowed s call)
    (hstep : (bufferMachine build n).step s call = some s') : BufferInv n text before s' := by
  cases call with
  | load dl lib =>
      obtain ⟨⟨returnCode, r⟩, hload, rfl⟩ := Option.map_eq_some_iff.mp hstep
      obtain ⟨-, -, hend⟩ := load_eq_some hload
      have hrespects : (loadStage build dl lib (some s.buffer) n).RespectsBuffer n s.buffer :=
        loadStage_respectsBuffer hallowed hinv.terminated
      generalize loadStage build dl lib (some s.buffer) n = stage at hend hrespects ⊢
      obtain ⟨after, hafter, hreports⟩ := stage.exists_bufferAfter_reportsIn s.buffer hone
      have hbuffer : r.errorBuffer.getD s.buffer = after := by
        rw [hend.buffer_eq, hafter, Option.getD_some]
      obtain ⟨hterm, hread, hout⟩ :=
        stage.read_message hone hinv.terminated hrespects hreports
      refine ⟨?_, ?_, fun j hj => ?_⟩
      · rwa [hbuffer]
      · have hmessages : (s.stages ++ [stage]).filterMap (LoadStage.message n) =
            s.messages n ++ (stage.message n).toList := by
          rw [List.filterMap_append]
          cases hmessage : stage.message n <;> simp [BufferState.messages, hmessage]
        simp only [BufferState.messages, hbuffer, hread, hmessages]
        exact getLast?_messages _ hinv.read_eq
      · simp only [hbuffer]
        exact (hout j hj).trans (hinv.outside j hj)
  | destroy dl =>
      obtain rfl := Option.some.inj hstep
      exact ⟨hinv.terminated, hinv.read_eq, hinv.outside⟩

/-- **The error buffer over a whole run**: whatever loads and destroys are made with one buffer
of at least one byte that is terminated at the start, in any order and with any linkers and
plugins that keep the contract, the buffer can always be read as a string, the text read is
that of the latest load that left one, cut to the buffer, and no byte outside the buffer is
ever written. -/
theorem error_buffer_runs (hone : 1 ≤ n.val) (hterm : Terminated s.buffer (CInt.bytes n))
    (hfresh : s.stages = []) {calls : List BufferCall}
    (hrun : (bufferMachine build n).Run s calls s') :
    Terminated s'.buffer (CInt.bytes n) ∧
      some (readString s'.buffer (CInt.bytes n)) =
        (readString s.buffer (CInt.bytes n) :: s'.messages n).getLast? ∧
      ∀ j, j < 0 ∨ n.val ≤ j → s'.buffer j = s.buffer j := by
  have hstart : BufferInv n (readString s.buffer (CInt.bytes n)) s.buffer s := by
    refine ⟨hterm, ?_, fun _ _ => rfl⟩
    rw [BufferState.messages, hfresh]
    rfl
  have hinv := hrun.invariant
    (fun _ _ _ hinv hallowed hstep => hinv.step hone hallowed hstep) hstart
  exact ⟨hinv.terminated, hinv.read_eq, hinv.outside⟩

end

/-- The linker that finds no library keeps the contract. -/
theorem absent_respectsBuffer (n : CInt) : DlLibrary.absent.RespectsBuffer n where
  dlopen_text lib flags text h := by
    have htext : notFoundText = text := DlopenResult.failed.inj h
    rw [← htext]
    decide
  dlsym_text raw symbol text h := by cases h
  hook raw symbol hook h := by cases h

/-- A program with a zeroed handle and a zeroed buffer. -/
def BufferState.zeroed : BufferState where
  handle := OpentracingLibraryHandle.null
  buffer := fun _ => 0
  linker := ⟨none, []⟩
  stages := []

/-- A missing library is read in a buffer of four bytes as the first three of its text. -/
theorem error_buffer_runs_missing :
    ∃ s, (bufferMachine .weakSymbols (CInt.ofNat 4 (by decide))).Run .zeroed
        [.load DlLibrary.absent libraryName, .destroy DlLibrary.absent] s ∧
      readString s.buffer 4 = notFoundText.truncate 3 := by
  obtain ⟨s, hrun, hmessages⟩ : ∃ s,
      (bufferMachine .weakSymbols (CInt.ofNat 4 (by decide))).Run .zeroed
        [.load DlLibrary.absent libraryName, .destroy DlLibrary.absent] s ∧
      s.messages (CInt.ofNat 4 (by decide)) = [notFoundText.truncate 3] :=
    ⟨_, .cons (absent_respectsBuffer _) rfl (.cons trivial rfl (.nil _)), rfl⟩
  obtain ⟨-, hread, -⟩ := error_buffer_runs (by decide) ⟨0, by decide, rfl⟩ rfl hrun
  rw [hmessages] at hread
  exact ⟨s, hrun, Option.some.inj hread⟩

end OpentracingC
