import Mathlib.Algebra.Ring.Int.Defs
import Mathlib.Algebra.Ring.Nat
import Mathlib.Data.Int.Basic
import Mathlib.Data.List.GetD

/-!
# C Integers, Strings and Byte Buffers

The part of the C language that buffer-handling code rests on, for a 32-bit `int` and
a 64-bit `size_t`:

* `CInt`, the values of an `int`, with the two conversions that mixed arithmetic goes
  through: `CInt.ofSize` narrows a `size_t` to an `int` (modulo `2 ^ 32`, into the
  signed range) and `toSize` widens an integer to a `size_t` (modulo `2 ^ 64`);
* `CString`, a NUL-terminated text, and its `strlen`;
* `Bytes`, the memory around a buffer, addressed by the offset from its start, so that
  a write before or after the buffer is a write at an offset outside its range;
* `memcpy` and `storeByte`, each with the offsets it writes (`Access.Writes`).

## Main results

* `CInt.val_ofSize_succ_eq_iff`: the length of a text with its terminator survives the
  narrowing exactly when it is at most `intMax`.
* `memcpy_eq_of_not_writes`, `storeByte_eq_of_not_writes`: what an access does not
  write, it leaves alone.
* `holdsText_memcpy`, `holdsText_memcpy_storeByte`: the two ways to copy a text into a
  bounded buffer, whole or truncated, leave it holding that text (`HoldsText`).
-/

namespace CMemory

/-! ### Integers -/

/-- `INT_MAX`. -/
def intMax : ℤ := 2 ^ 31 - 1

/-- The values of a C `int`. -/
structure CInt where
  /-- The value as a mathematical integer. -/
  val : ℤ
  /-- It is at least `INT_MIN`. -/
  ge_intMin : -(2 ^ 31) ≤ val
  /-- It is at most `INT_MAX`. -/
  le_intMax : val ≤ intMax
deriving DecidableEq

/-- The `int` of a numeral that is in range. -/
def CInt.ofNat (n : ℕ) (h : (n : ℤ) ≤ intMax) : CInt :=
  ⟨n, by omega, h⟩

/-- The `int` zero. -/
def CInt.zero : CInt :=
  CInt.ofNat 0 (by decide)

/-- Addition of two `size_t` values, modulo `2 ^ 64`. -/
def sizeAdd (m n : ℕ) : ℕ :=
  (m + n) % 2 ^ 64

/-- The conversion of a `size_t` to an `int`: modulo `2 ^ 32`, into the signed range. -/
def CInt.ofSize (n : ℕ) : CInt where
  val := ((n : ℤ) + 2 ^ 31) % 2 ^ 32 - 2 ^ 31
  ge_intMin := by omega
  le_intMax := by
    simp only [intMax]
    omega

/-- The conversion of an integer to a `size_t`: modulo `2 ^ 64`. -/
def toSize (z : ℤ) : ℕ :=
  (z % 2 ^ 64).toNat

/-- The length of a text with its terminator survives the narrowing exactly when it is
at most `intMax`; the addition is made in `size_t`. -/
theorem CInt.val_ofSize_succ_eq_iff {n : ℕ} :
    (CInt.ofSize (sizeAdd n 1)).val = n + 1 ↔ (n : ℤ) + 1 ≤ intMax := by
  simp only [CInt.ofSize, sizeAdd, intMax]
  omega

/-- A nonnegative `int` widens to itself. -/
theorem toSize_of_nonneg {z : ℤ} (h0 : 0 ≤ z) (h : z ≤ intMax) : (toSize z : ℤ) = z := by
  simp only [toSize, intMax] at *
  omega

/-- A negative `int` widens to a value above every `int`. -/
theorem intMax_lt_toSize_of_neg {z : ℤ} (h0 : z < 0) (h : -(2 ^ 31) ≤ z) :
    intMax < (toSize z : ℤ) := by
  simp only [toSize, intMax]
  omega

/-! ### Strings -/

/-- A C string: its bytes before the terminating NUL, none of which is NUL. -/
structure CString where
  /-- The bytes before the terminator. -/
  bytes : List UInt8
  /-- The terminator is the first NUL. -/
  nul_notMem : (0 : UInt8) ∉ bytes
deriving DecidableEq

/-- `strlen`: the number of bytes before the terminator. -/
def strlen (s : CString) : ℕ :=
  s.bytes.length

/-- The bytes a string occupies in memory, terminator included. -/
def CString.chars (s : CString) : List UInt8 :=
  s.bytes ++ [0]

@[simp] theorem CString.length_chars (s : CString) : s.chars.length = strlen s + 1 := by
  simp [CString.chars, strlen]

/-- The bytes of an ASCII literal. -/
def asciiBytes (s : String) : List UInt8 :=
  s.toList.map fun c => c.toNat.toUInt8

/-! ### Buffers -/

/-- Memory around a buffer, addressed by the offset from the start of the buffer. -/
abbrev Bytes := ℤ → UInt8

/-- `memcpy(buffer, src, n)`: the first `n` bytes of the buffer become those of `src`.
What lies behind the end of `src` reads as `0`. -/
def memcpy (buffer : Bytes) (src : List UInt8) (n : ℕ) : Bytes := fun i =>
  if 0 ≤ i ∧ i < n then src.getD i.toNat 0 else buffer i

/-- `buffer[index] = byte`. -/
def storeByte (buffer : Bytes) (index : ℤ) (byte : UInt8) : Bytes := fun i =>
  if i = index then byte else buffer i

/-- A write access to a buffer. -/
inductive Access
  /-- `memcpy` to the start of the buffer, with its byte count. -/
  | memcpy (count : ℕ)
  /-- A store of one byte, at an offset. -/
  | store (index : ℤ)
deriving DecidableEq

/-- The offsets an access writes. -/
def Access.Writes : Access → ℤ → Prop
  | .memcpy count, i => 0 ≤ i ∧ i < count
  | .store index, i => i = index

/-- `memcpy` leaves alone what it does not write. -/
theorem memcpy_eq_of_not_writes {buffer : Bytes} {src : List UInt8} {n : ℕ} {i : ℤ}
    (h : ¬ (Access.memcpy n).Writes i) : memcpy buffer src n i = buffer i :=
  if_neg h

/-- A one-byte store leaves alone what it does not write. -/
theorem storeByte_eq_of_not_writes {buffer : Bytes} {index : ℤ} {byte : UInt8} {i : ℤ}
    (h : ¬ (Access.store index).Writes i) : storeByte buffer index byte i = buffer i :=
  if_neg h

/-- What `memcpy` writes within the source is the source. -/
theorem memcpy_eq_getElem {buffer : Bytes} {src : List UInt8} {n i : ℕ} (hi : i < n)
    (hs : i < src.length) : memcpy buffer src n i = src[i] := by
  rw [memcpy, if_pos ⟨by omega, by omega⟩, Int.toNat_natCast, List.getD_eq_getElem _ _ hs]

/-- A one-byte store is read back. -/
@[simp] theorem storeByte_self (buffer : Bytes) (index : ℤ) (byte : UInt8) :
    storeByte buffer index byte index = byte :=
  if_pos rfl

/-- What `memcpy` writes within the bytes of a string is those bytes. -/
theorem memcpy_chars_of_lt {buffer : Bytes} {s : CString} {n i : ℕ} (hi : i < n)
    (hs : i < s.bytes.length) : memcpy buffer s.chars n i = s.bytes[i] := by
  have hlen : i < s.chars.length := by
    rw [CString.length_chars]
    exact Nat.lt_succ_of_lt hs
  rw [memcpy_eq_getElem hi hlen]
  exact List.getElem_append_left hs

/-- A `memcpy` that reaches the terminator of a string writes it. -/
theorem memcpy_chars_strlen {buffer : Bytes} {s : CString} {n : ℕ} (h : strlen s < n) :
    memcpy buffer s.chars n (strlen s) = 0 := by
  rw [memcpy_eq_getElem h (by simp)]
  simp [CString.chars, strlen]

/-! ### Texts in bounded buffers -/

/-- The buffer `after` holds the text `e`, truncated to a buffer of `n` bytes, and is
`before` elsewhere: with `k = min (strlen e) (n - 1)`, its first `k` bytes are those of
the text, byte `k` is NUL, and all others are untouched. -/
structure HoldsText (e : CString) (n : ℤ) (before after : Bytes) : Prop where
  text_eq : ∀ i : ℕ, (i : ℤ) < min (strlen e : ℤ) (n - 1) → after i = e.bytes.getD i 0
  nul_eq : after (min (strlen e : ℤ) (n - 1)) = 0
  rest_eq : ∀ j, j < 0 ∨ min (strlen e : ℤ) (n - 1) < j → after j = before j

/-- A text that fits is copied whole, with its terminator. -/
theorem holdsText_memcpy {e : CString} {n : ℤ} {buffer : Bytes} {count : ℕ}
    (hfits : (strlen e : ℤ) + 1 ≤ n) (hcount : (count : ℤ) = strlen e + 1) :
    HoldsText e n buffer (memcpy buffer e.chars count) := by
  have hk : min (strlen e : ℤ) (n - 1) = strlen e := by omega
  refine ⟨?_, ?_, ?_⟩
  · intro i hi
    have hlt : i < e.bytes.length := by
      rw [hk] at hi
      exact Int.ofNat_lt.mp hi
    rw [memcpy_chars_of_lt (by omega) hlt, List.getD_eq_getElem _ _ hlt]
  · rw [hk, memcpy_chars_strlen (by omega)]
  · intro j hj
    refine memcpy_eq_of_not_writes ?_
    simp only [Access.Writes]
    omega

/-- A text that does not fit is cut at the last byte, which becomes the terminator. -/
theorem holdsText_memcpy_storeByte {e : CString} {n : ℤ} {buffer : Bytes} {count : ℕ}
    (hcut : n ≤ strlen e) (hcount : (count : ℤ) = n - 1) :
    HoldsText e n buffer (storeByte (memcpy buffer e.chars count) (n - 1) 0) := by
  have hk : min (strlen e : ℤ) (n - 1) = n - 1 := by omega
  refine ⟨?_, ?_, ?_⟩
  · intro i hi
    rw [hk] at hi
    have hlt : i < e.bytes.length := by
      have hlen : i < strlen e := by omega
      exact hlen
    rw [storeByte_eq_of_not_writes (by simp only [Access.Writes]; omega),
      memcpy_chars_of_lt (by omega) hlt, List.getD_eq_getElem _ _ hlt]
  · rw [hk, storeByte_self]
  · intro j hj
    rw [storeByte_eq_of_not_writes (by simp only [Access.Writes]; omega),
      memcpy_eq_of_not_writes (by simp only [Access.Writes]; omega)]

end CMemory
