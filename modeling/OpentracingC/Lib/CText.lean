import OpentracingC.Lib.CMemory
import Mathlib.Data.List.TakeWhile

/-!
# Texts Read Back from Buffers

`CMemory` says what the copying functions of C write into a bounded buffer. This module
says what its owner reads there afterwards: `readString buffer n` is the text up to the
first NUL within the `n` bytes of the buffer, and `Terminated buffer n` that there is one,
without which a reader runs past the end.

## Main results

* `readString_eq`: a buffer that holds the bytes of a text and a NUL behind them reads as
  that text.
* `HoldsText.terminated`, `HoldsText.readString_eq`: a buffer that holds a text truncated to
  its size is terminated, and reads as the truncated text (`CString.truncate`).
* `holdsText_snprintf`: `snprintf` leaves its text in the buffer, truncated to its size.
-/

namespace CMemory

/-- Texts with the same bytes are equal. -/
theorem CString.eq_of_bytes_eq {s t : CString} (h : s.bytes = t.bytes) : s = t := by
  cases s
  cases t
  rwa [CString.mk.injEq]

/-- There is a NUL within the first `n` bytes of a buffer. -/
def Terminated (buffer : Bytes) (n : ℕ) : Prop :=
  ∃ i : ℕ, i < n ∧ buffer i = 0

/-- The text up to the first NUL within the first `n` bytes of a buffer. -/
def readString (buffer : Bytes) (n : ℕ) : CString where
  bytes := ((List.range n).map fun i : ℕ => buffer i).takeWhile (· ≠ 0)
  nul_notMem := by
    intro h
    simpa using List.mem_takeWhile_imp h

/-- The first `n` bytes of a text. -/
def CString.truncate (s : CString) (n : ℕ) : CString where
  bytes := s.bytes.take n
  nul_notMem h := s.nul_notMem (List.mem_of_mem_take h)

@[simp] theorem strlen_truncate (s : CString) (n : ℕ) : strlen (s.truncate n) = min n (strlen s) :=
  List.length_take

/-- **Reading back**: a buffer with the bytes of a text and a NUL behind them reads as that
text. -/
theorem readString_eq {buffer : Bytes} {n : ℕ} {s : CString} (hlen : strlen s < n)
    (htext : ∀ i : ℕ, i < strlen s → buffer i = s.bytes.getD i 0)
    (hnul : buffer (strlen s) = 0) : readString buffer n = s := by
  obtain ⟨m, rfl⟩ := Nat.exists_eq_add_of_lt hlen
  have hbytes : (List.range (strlen s)).map (fun i : ℕ => buffer i) = s.bytes := by
    refine List.ext_getElem (by simp [strlen]) fun i hi hi' => ?_
    rw [List.getElem_map, List.getElem_range, htext i hi', List.getD_eq_getElem _ _ hi']
  have hne : ∀ byte ∈ s.bytes, decide (byte ≠ 0) = true := by
    intro byte hbyte
    refine decide_eq_true fun hzero => s.nul_notMem ?_
    rwa [hzero] at hbyte
  have hread : ((List.range (strlen s + (m + 1))).map fun i : ℕ => buffer i).takeWhile (· ≠ 0) =
      s.bytes := by
    rw [List.range_add, List.map_append, hbytes, List.takeWhile_append_of_pos hne,
      List.range_succ_eq_map]
    simp [hnul]
  exact CString.eq_of_bytes_eq hread

/-- A buffer that holds a text is terminated. -/
theorem HoldsText.terminated {e : CString} {n : ℤ} {before after : Bytes}
    (h : HoldsText e n before after) (hn : 1 ≤ n) : Terminated after n.toNat := by
  have hcast : ((min (strlen e : ℤ) (n - 1)).toNat : ℤ) = min (strlen e : ℤ) (n - 1) := by omega
  refine ⟨(min (strlen e : ℤ) (n - 1)).toNat, by omega, ?_⟩
  rw [hcast]
  exact h.nul_eq

/-- **A buffer that holds a text reads as that text**, truncated to the buffer. -/
theorem HoldsText.readString_eq {e : CString} {n : ℤ} {before after : Bytes}
    (h : HoldsText e n before after) (hn : 1 ≤ n) :
    readString after n.toNat = e.truncate (n - 1).toNat := by
  have hlen : (strlen (e.truncate (n - 1).toNat) : ℤ) = min (strlen e : ℤ) (n - 1) := by
    rw [strlen_truncate]
    omega
  refine CMemory.readString_eq (by omega) (fun i hi => ?_) ?_
  · have hi' : (i : ℤ) < min (strlen e : ℤ) (n - 1) := by omega
    rw [h.text_eq i hi', CString.truncate, List.getD_eq_getElem?_getD, List.getD_eq_getElem?_getD,
      List.getElem?_take_of_lt (by omega)]
  · rw [hlen]
    exact h.nul_eq

/-- `snprintf(buffer, n, ...)`, for the text it formats. -/
def snprintf (buffer : Bytes) (n : ℕ) (s : CString) : Bytes :=
  if n = 0 then buffer
  else storeByte (memcpy buffer s.bytes (min (strlen s) (n - 1))) (min (strlen s) (n - 1)) 0

/-- **`snprintf` leaves its text in the buffer**, truncated to its size. -/
theorem holdsText_snprintf {s : CString} {n : ℕ} (buffer : Bytes) (hn : 1 ≤ n) :
    HoldsText s n buffer (snprintf buffer n s) := by
  rw [snprintf, if_neg (by omega)]
  refine ⟨fun i hi => ?_, ?_, fun j hj => ?_⟩
  · have hlt : i < s.bytes.length := by
      have hlen : i < strlen s := by omega
      exact hlen
    rw [storeByte_eq_of_not_writes (by simp only [Access.Writes]; omega),
      memcpy_eq_getElem (by omega) hlt, List.getD_eq_getElem _ _ hlt]
  · have hcast : min (strlen s : ℤ) ((n : ℤ) - 1) = min (strlen s : ℤ) ((n - 1 : ℕ) : ℤ) := by omega
    rw [hcast, storeByte_self]
  · rw [storeByte_eq_of_not_writes (by simp only [Access.Writes]; omega),
      memcpy_eq_of_not_writes (by simp only [Access.Writes]; omega)]

end CMemory
