import OpentracingC.LoadStage

/-!
# The Error Buffer after a Load

`COPY_ERROR` mixes `size_t` and `int`: it narrows `strlen(error) + 1` to the `int`
`error_len`, compares that with the buffer's length, and widens `error_buffer_length - 1`
or `error_len` back to the byte count of a `memcpy`. This module settles what comes out.

* `copyError_inRange_iff`: the arithmetic stays in range exactly when the buffer has at
  least one byte and the text with its terminator is at most `intMax` long. With length
  `0`, which the assertion admits for a non-NULL buffer, the byte count is that of `-1`
  and the terminator goes to offset `-1`; a longer text narrows to another number.
* `copyError_holdsText`: in range, the buffer ends with the text, truncated so that the
  terminator fits, and every other byte is untouched.

Both are carried to the whole load by `load_eq`: `load_copies_in_range_iff` and
`load_reports_error`. Which text is copied depends on the stage only, so neither a text
pending from before the call nor one recorded by the cleanup's `dlclose` can appear.
-/

open CMemory

namespace OpentracingC

/-! ### One execution of `COPY_ERROR` -/

/-- The arithmetic of one execution of `COPY_ERROR` stays in range. -/
structure CopyReport.InRange (report : CopyReport) (errorBufferLength : CInt) : Prop where
  /-- The narrowing to `error_len` loses nothing. -/
  errorLen_eq : report.errorLen.val = strlen report.error + 1
  /-- No `memcpy` is handed more bytes than the buffer has. -/
  count_le : ∀ count : ℕ, .memcpy count ∈ report.accesses → (count : ℤ) ≤ errorBufferLength.val
  /-- Every index written lies in the buffer. -/
  writes_lt : ∀ access ∈ report.accesses, ∀ i, access.Writes i →
    0 ≤ i ∧ i < errorBufferLength.val

/-- Nothing is copied without a buffer. -/
@[simp] theorem copyError_bufferNone (error : Option CString) (errorBufferLength : CInt) :
    copyError error none errorBufferLength = none := by
  cases error <;> rfl

/-- Nothing is copied without a text. -/
@[simp] theorem copyError_textNone (errorBuffer : Option Bytes) (errorBufferLength : CInt) :
    copyError none errorBuffer errorBufferLength = none := rfl

/-- The copy, when the narrowed length does not fit the buffer. -/
theorem copyError_of_gt {error : CString} {errorBuffer : Bytes} {errorBufferLength : CInt}
    (h : (CInt.ofSize (sizeAdd (strlen error) 1)).val > errorBufferLength.val) :
    copyError (some error) (some errorBuffer) errorBufferLength =
      some
        { error, errorLen := CInt.ofSize (sizeAdd (strlen error) 1)
          accesses :=
            [.memcpy (toSize (errorBufferLength.val - 1)), .store (errorBufferLength.val - 1)]
          errorBuffer :=
            storeByte (memcpy errorBuffer error.chars (toSize (errorBufferLength.val - 1)))
              (errorBufferLength.val - 1) 0 } := by
  simp only [copyError, if_pos h]

/-- The copy, when the narrowed length fits the buffer. -/
theorem copyError_of_le {error : CString} {errorBuffer : Bytes} {errorBufferLength : CInt}
    (h : (CInt.ofSize (sizeAdd (strlen error) 1)).val ≤ errorBufferLength.val) :
    copyError (some error) (some errorBuffer) errorBufferLength =
      some
        { error, errorLen := CInt.ofSize (sizeAdd (strlen error) 1)
          accesses := [.memcpy (toSize (CInt.ofSize (sizeAdd (strlen error) 1)).val)]
          errorBuffer :=
            memcpy errorBuffer error.chars
              (toSize (CInt.ofSize (sizeAdd (strlen error) 1)).val) } := by
  simp only [copyError, if_neg (Int.not_lt.mpr h)]

/-- With a text and a buffer, something is copied, and the report carries the text. -/
theorem copyError_eq_some (error : CString) (errorBuffer : Bytes) (errorBufferLength : CInt) :
    ∃ report, copyError (some error) (some errorBuffer) errorBufferLength = some report ∧
      report.error = error := by
  rcases Int.lt_or_le errorBufferLength.val (CInt.ofSize (sizeAdd (strlen error) 1)).val with h | h
  · exact ⟨_, copyError_of_gt h, rfl⟩
  · exact ⟨_, copyError_of_le h, rfl⟩

/-- The range of a copy whose narrowed length does not fit the buffer. -/
theorem copyError_inRange_iff_of_gt {error : CString} {errorBuffer : Bytes}
    {errorBufferLength : CInt} {report : CopyReport} (hlen : 0 ≤ errorBufferLength.val)
    (hgt : (CInt.ofSize (sizeAdd (strlen error) 1)).val > errorBufferLength.val)
    (h : copyError (some error) (some errorBuffer) errorBufferLength = some report) :
    report.InRange errorBufferLength ↔
      1 ≤ errorBufferLength.val ∧ (strlen error : ℤ) + 1 ≤ intMax := by
  have hmax := errorBufferLength.le_intMax
  rw [copyError_of_gt hgt, Option.some.injEq] at h
  subst h
  constructor
  · rintro ⟨hlenEq, hcount, -⟩
    refine ⟨?_, CInt.val_ofSize_succ_eq_iff.mp hlenEq⟩
    -- with length 0 the byte count is that of -1, more than any `int`
    by_contra hzero
    have hneg : intMax < (toSize (errorBufferLength.val - 1) : ℤ) :=
      intMax_lt_toSize_of_neg (by omega) (by omega)
    have hle := hcount _ List.mem_cons_self
    omega
  · rintro ⟨hone, hfits⟩
    have hcount : (toSize (errorBufferLength.val - 1) : ℤ) = errorBufferLength.val - 1 :=
      toSize_of_nonneg (by omega) (by omega)
    refine ⟨CInt.val_ofSize_succ_eq_iff.mpr hfits, ?_, ?_⟩
    · intro count hmem
      simp only [List.mem_cons, Access.memcpy.injEq, reduceCtorEq, List.not_mem_nil,
        or_false] at hmem
      omega
    · intro access hmem i hi
      simp only [List.mem_cons, List.not_mem_nil, or_false] at hmem
      rcases hmem with rfl | rfl
      · simp only [Access.Writes] at hi
        omega
      · simp only [Access.Writes] at hi
        omega

/-- The range of a copy whose narrowed length fits the buffer. -/
theorem copyError_inRange_iff_of_le {error : CString} {errorBuffer : Bytes}
    {errorBufferLength : CInt} {report : CopyReport}
    (hle : (CInt.ofSize (sizeAdd (strlen error) 1)).val ≤ errorBufferLength.val)
    (h : copyError (some error) (some errorBuffer) errorBufferLength = some report) :
    report.InRange errorBufferLength ↔
      1 ≤ errorBufferLength.val ∧ (strlen error : ℤ) + 1 ≤ intMax := by
  have hmax := errorBufferLength.le_intMax
  rw [copyError_of_le hle, Option.some.injEq] at h
  subst h
  constructor
  · rintro ⟨hlenEq, -, -⟩
    have hfits := CInt.val_ofSize_succ_eq_iff.mp hlenEq
    simp only at hlenEq
    exact ⟨by omega, hfits⟩
  · rintro ⟨hone, hfits⟩
    have hlenEq := CInt.val_ofSize_succ_eq_iff.mpr hfits
    have hcount : (toSize (CInt.ofSize (sizeAdd (strlen error) 1)).val : ℤ) =
        (CInt.ofSize (sizeAdd (strlen error) 1)).val :=
      toSize_of_nonneg (by omega) (by omega)
    refine ⟨hlenEq, ?_, ?_⟩
    · intro count hmem
      simp only [List.mem_singleton, Access.memcpy.injEq] at hmem
      omega
    · intro access hmem i hi
      obtain rfl := List.mem_singleton.mp hmem
      simp only [Access.Writes] at hi
      omega

/-- **The range of `COPY_ERROR`**: its arithmetic stays in range exactly when the buffer
has at least one byte and the text with its terminator is at most `intMax` long. -/
theorem copyError_inRange_iff {error : CString} {errorBuffer : Bytes}
    {errorBufferLength : CInt} {report : CopyReport} (hlen : 0 ≤ errorBufferLength.val)
    (h : copyError (some error) (some errorBuffer) errorBufferLength = some report) :
    report.InRange errorBufferLength ↔
      1 ≤ errorBufferLength.val ∧ (strlen error : ℤ) + 1 ≤ intMax := by
  rcases Int.lt_or_le errorBufferLength.val (CInt.ofSize (sizeAdd (strlen error) 1)).val with
    hgt | hle
  · exact copyError_inRange_iff_of_gt hlen hgt h
  · exact copyError_inRange_iff_of_le hle h

/-- **What `COPY_ERROR` leaves in the buffer**: the text, truncated to the buffer. -/
theorem copyError_holdsText {error : CString} {errorBuffer : Bytes} {errorBufferLength : CInt}
    {report : CopyReport} (hone : 1 ≤ errorBufferLength.val)
    (hfits : (strlen error : ℤ) + 1 ≤ intMax)
    (h : copyError (some error) (some errorBuffer) errorBufferLength = some report) :
    HoldsText error errorBufferLength.val errorBuffer report.errorBuffer := by
  have hmax := errorBufferLength.le_intMax
  have hlenEq := CInt.val_ofSize_succ_eq_iff.mpr hfits
  rcases Int.lt_or_le errorBufferLength.val (CInt.ofSize (sizeAdd (strlen error) 1)).val with
    hgt | hle
  · rw [copyError_of_gt hgt, Option.some.injEq] at h
    subst h
    exact holdsText_memcpy_storeByte (by omega) (toSize_of_nonneg (by omega) (by omega))
  · rw [copyError_of_le hle, Option.some.injEq] at h
    subst h
    refine holdsText_memcpy (by omega) ?_
    rw [toSize_of_nonneg (by omega) (by omega), hlenEq]

/-! ### The whole load -/

/-- The arithmetic of a load stays in range, whatever it copies. -/
def LoadCopiesInRange (build : Build) (dl : DlLibrary) (lib : CString)
    (handle : OpentracingLibraryHandle) (errorBuffer : Option Bytes) (errorBufferLength : CInt)
    (linker : LinkerState) : Prop :=
  ∀ returnCode s report,
    opentracingDynamicallyLoadTracingLibrary build dl lib handle errorBuffer errorBufferLength
      linker = some (returnCode, s) →
    s.copied = some report → report.InRange errorBufferLength

/-- The hook keeps a buffer where there is one. -/
theorem LoadStage.bufferBefore_eq_none_iff (stage : LoadStage) (errorBuffer : Option Bytes) :
    stage.bufferBefore errorBuffer = none ↔ errorBuffer = none := by
  cases stage <;> simp [bufferBefore]

variable {build : Build} {dl : DlLibrary} {lib : CString} {handle : OpentracingLibraryHandle}
  {errorBuffer : Option Bytes} {errorBufferLength : CInt} {linker : LinkerState}

/-- **The range of a load**: with a nonnegative length and an admitted buffer, the
arithmetic of a load stays in range exactly when there is no buffer, or every text its
stage reports meets a buffer of at least one byte and is at most `intMax` long, its
terminator included. -/
theorem load_copies_in_range_iff (hlen : 0 ≤ errorBufferLength.val)
    (hadm : Admits build errorBuffer errorBufferLength) :
    LoadCopiesInRange build dl lib handle errorBuffer errorBufferLength linker ↔
      errorBuffer = none ∨
        ∀ text, (loadStage build dl lib errorBuffer errorBufferLength).error = some text →
          1 ≤ errorBufferLength.val ∧ (strlen text : ℤ) + 1 ≤ intMax := by
  obtain ⟨s, hload, hend⟩ := load_eq dl lib handle linker hadm
  generalize loadStage build dl lib errorBuffer errorBufferLength = stage at hload hend
  simp only [LoadCopiesInRange, hload, Option.some.injEq, Prod.mk.injEq]
  constructor
  · intro h
    rcases hbefore : stage.bufferBefore errorBuffer with _ | before
    · exact Or.inl ((stage.bufferBefore_eq_none_iff errorBuffer).mp hbefore)
    · refine Or.inr fun text htext => ?_
      obtain ⟨report, hcopy, -⟩ := copyError_eq_some text before errorBufferLength
      refine (copyError_inRange_iff hlen hcopy).mp (h _ s report ⟨rfl, rfl⟩ ?_)
      rw [hend.copied_eq, LoadStage.copied, htext, hbefore, hcopy]
  · rintro h returnCode s' report ⟨rfl, rfl⟩ hcopied
    rw [hend.copied_eq, LoadStage.copied] at hcopied
    rcases htext : stage.error with _ | text
    · rw [htext, copyError_textNone] at hcopied
      cases hcopied
    · rcases hbefore : stage.bufferBefore errorBuffer with _ | before
      · rw [hbefore, copyError_bufferNone] at hcopied
        cases hcopied
      · rw [htext, hbefore] at hcopied
        refine (copyError_inRange_iff hlen hcopied).mpr ?_
        rcases h with hnone | htexts
        · rw [(stage.bufferBefore_eq_none_iff errorBuffer).mpr hnone] at hbefore
          cases hbefore
        · exact htexts text htext

/-- In a buffer of four bytes the text of a missing library is cut to the buffer, and the
copy stays in range. -/
theorem load_copies_in_range_truncated :
    (∃ returnCode s report,
      opentracingDynamicallyLoadTracingLibrary .weakSymbols DlLibrary.absent libraryName
        OpentracingLibraryHandle.null (some fun _ => 7) (CInt.ofNat 4 (by decide))
        ⟨none, []⟩ = some (returnCode, s) ∧
      s.copied = some report ∧ 4 < report.errorLen.val) ∧
      LoadCopiesInRange .weakSymbols DlLibrary.absent libraryName OpentracingLibraryHandle.null
        (some fun _ => 7) (CInt.ofNat 4 (by decide)) ⟨none, []⟩ := by
  refine ⟨⟨_, _, _, rfl, rfl, by decide⟩,
    (load_copies_in_range_iff (by decide) fun _ => Or.inl rfl).mpr (Or.inr fun text htext => ?_)⟩
  obtain rfl : notFoundText = text := Option.some.inj htext
  exact ⟨by decide, by decide⟩

/-- With a non-NULL buffer of length `0` and a missing library, the byte count handed to
`memcpy` exceeds the length of the buffer. -/
theorem load_copies_out_of_range :
    ¬ LoadCopiesInRange .weakSymbols DlLibrary.absent libraryName OpentracingLibraryHandle.null
      (some fun _ => 0) CInt.zero ⟨none, []⟩ := by
  intro h
  have hcount := (h _ _ _ rfl rfl).count_le _ List.mem_cons_self
  exact absurd hcount (by decide)

/-- What a stage leaves in a buffer of `n` bytes, from the contents before the call: the
text of this call's failure, or what the hook left. -/
def LoadStage.ReportsIn (stage : LoadStage) (n : ℤ) (before after : Bytes) : Prop :=
  match stage with
  | .unsupported => HoldsText noWeakSymbolMessage n before after
  | .dlopenFailed text => (strlen text : ℤ) + 1 ≤ intMax → HoldsText text n before after
  | .hookMissing _ (some text) => (strlen text : ℤ) + 1 ≤ intMax → HoldsText text n before after
  | .hookMissing _ none => after = before
  | .hookRejected _ result _ _ => after = result.errorBuffer
  | .factoryMissing _ result => HoldsText factoryNullMessage n result.errorBuffer after
  | .loaded _ result _ => after = result.errorBuffer

/-- The buffer after a stage that hands a text to `COPY_ERROR`. -/
theorem LoadStage.bufferAfter_of_error (stage : LoadStage) (buffer : Bytes) {before : Bytes}
    {text : CString} (herror : stage.error = some text)
    (hbefore : stage.bufferBefore (some buffer) = some before)
    (hone : 1 ≤ errorBufferLength.val) :
    ∃ after, stage.bufferAfter (some buffer) errorBufferLength = some after ∧
      ((strlen text : ℤ) + 1 ≤ intMax →
        HoldsText text errorBufferLength.val before after) := by
  obtain ⟨report, hcopy, -⟩ := copyError_eq_some text before errorBufferLength
  refine ⟨report.errorBuffer, ?_, fun hfits => copyError_holdsText hone hfits hcopy⟩
  rw [bufferAfter, copied, herror, hbefore, hcopy]

/-- The buffer after a stage without a text is the one before it. -/
theorem LoadStage.bufferAfter_of_error_none {stage : LoadStage} (herror : stage.error = none)
    (errorBuffer : Option Bytes) :
    stage.bufferAfter errorBuffer errorBufferLength = stage.bufferBefore errorBuffer := by
  rw [bufferAfter, copied, herror, copyError_textNone]

/-- What a stage leaves in a buffer of at least one byte. -/
theorem LoadStage.exists_bufferAfter_reportsIn (stage : LoadStage) (buffer : Bytes)
    (hone : 1 ≤ errorBufferLength.val) :
    ∃ after, stage.bufferAfter (some buffer) errorBufferLength = some after ∧
      stage.ReportsIn errorBufferLength.val buffer after := by
  cases stage with
  | unsupported =>
      obtain ⟨after, hafter, hholds⟩ :=
        bufferAfter_of_error .unsupported buffer rfl rfl hone
      exact ⟨after, hafter, hholds (by decide)⟩
  | dlopenFailed text =>
      exact bufferAfter_of_error (.dlopenFailed text) buffer rfl rfl hone
  | hookMissing lib text =>
      cases text with
      | none => exact ⟨buffer, bufferAfter_of_error_none rfl _, rfl⟩
      | some text =>
          exact bufferAfter_of_error (.hookMissing lib (some text)) buffer rfl rfl hone
  | hookRejected lib result code hcode =>
      exact ⟨result.errorBuffer, bufferAfter_of_error_none rfl _, rfl⟩
  | factoryMissing lib result =>
      obtain ⟨after, hafter, hholds⟩ :=
        bufferAfter_of_error (.factoryMissing lib result) buffer rfl rfl hone
      exact ⟨after, hafter, hholds (by decide)⟩
  | loaded lib result factory =>
      exact ⟨result.errorBuffer, bufferAfter_of_error_none rfl _, rfl⟩

/-- **Error reporting, end to end**: with a buffer of at least one byte, every load
returns, and leaves in the buffer what its stage reports. -/
theorem load_reports_error (buffer : Bytes) (hone : 1 ≤ errorBufferLength.val) :
    ∃ returnCode s after,
      opentracingDynamicallyLoadTracingLibrary build dl lib handle (some buffer)
        errorBufferLength linker = some (returnCode, s) ∧
      s.errorBuffer = some after ∧
      (loadStage build dl lib (some buffer) errorBufferLength).ReportsIn
        errorBufferLength.val buffer after := by
  obtain ⟨s, hload, hend⟩ := load_eq dl lib handle linker
    (fun _ => Or.inl rfl : Admits build (some buffer) errorBufferLength)
  obtain ⟨after, hafter, hreports⟩ :=
    (loadStage build dl lib (some buffer) errorBufferLength).exists_bufferAfter_reportsIn
      buffer hone
  exact ⟨_, s, after, hload, hend.buffer_eq.trans hafter, hreports⟩

/-- A missing library is reported in a buffer of four bytes, whatever text was pending. -/
theorem load_reports_missing_library :
    ∃ returnCode s after,
      opentracingDynamicallyLoadTracingLibrary .weakSymbols DlLibrary.absent libraryName
        OpentracingLibraryHandle.null (some fun _ => 7) (CInt.ofNat 4 (by decide))
        ⟨some factoryNullMessage, []⟩ = some (returnCode, s) ∧
      s.errorBuffer = some after ∧
      HoldsText notFoundText 4 (fun _ => 7) after := by
  have hone : 1 ≤ (CInt.ofNat 4 (by decide)).val := by decide
  obtain ⟨returnCode, s, after, hload, hbuffer, hreports⟩ : ∃ returnCode s after,
      opentracingDynamicallyLoadTracingLibrary .weakSymbols DlLibrary.absent libraryName
        OpentracingLibraryHandle.null (some fun _ => 7) (CInt.ofNat 4 (by decide))
        ⟨some factoryNullMessage, []⟩ = some (returnCode, s) ∧
      s.errorBuffer = some after ∧
      (loadStage .weakSymbols DlLibrary.absent libraryName (some fun _ => 7)
        (CInt.ofNat 4 (by decide))).ReportsIn 4 (fun _ => 7) after :=
    load_reports_error (fun _ => 7) hone
  exact ⟨returnCode, s, after, hload, hbuffer, hreports (by decide)⟩

end OpentracingC
