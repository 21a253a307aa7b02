import OpentracingC.Lib.CMemory

/-!
# Propagation

The error codes of `propagation.h`, and the contract it states for `foreach_key`, through
which a tracer reads the entries of a carrier: the handler is called for every entry, and
the first error it returns ends the traversal and is returned.

A handler is a function of the calls made to it before. `Delivery` is the contract as a
relation between the entries, the calls made and the returned code; `deliver` computes the
only calls and the only code that meet it (`delivery_iff`).
-/

open CMemory

namespace OpentracingC

/-- `opentracing_propagation_error_code`. A C enumeration is stored as an integer. -/
abbrev OpentracingPropagationErrorCode := ℤ

namespace OpentracingPropagationErrorCode

/-- Success value. -/
def success : OpentracingPropagationErrorCode := 0

/-- An unknown exception, for instance an out-of-memory error. -/
def unknown : OpentracingPropagationErrorCode := -6

end OpentracingPropagationErrorCode

open OpentracingPropagationErrorCode

/-- A non-NULL key with its non-NULL value. -/
abbrev Entry := CString × CString

/-- The handler of `foreach_key`: the code it returns for an entry, after the calls made
to it before. -/
abbrev Handler := List Entry → Entry → OpentracingPropagationErrorCode

/-- A handler after one call. -/
def Handler.after (handler : Handler) (e : Entry) : Handler :=
  fun before => handler (e :: before)

/-- The handler returns success for every entry of a list, one after another. -/
def Handler.Accepts (handler : Handler) (entries : List Entry) : Prop :=
  ∀ before e rest, entries = before ++ e :: rest → handler before e = success

/-- **The contract of `foreach_key`**: either the handler was called for every entry,
always returned success, and so did `foreach_key`; or it was called for every entry up to
the first for which it returned an error, and `foreach_key` returned that error. -/
def Delivery (handler : Handler) (entries calls : List Entry)
    (returnCode : OpentracingPropagationErrorCode) : Prop :=
  (handler.Accepts entries ∧ calls = entries ∧ returnCode = success) ∨
    ∃ before e rest, entries = before ++ e :: rest ∧ handler.Accepts before ∧
      handler before e = returnCode ∧ returnCode ≠ success ∧ calls = before ++ [e]

/-- The calls and the code the contract of `foreach_key` asks for. -/
def deliver (handler : Handler) :
    List Entry → List Entry × OpentracingPropagationErrorCode
  | [] => ([], success)
  | e :: entries =>
      if handler [] e = success then
        let r := deliver (handler.after e) entries
        (e :: r.1, r.2)
      else
        ([e], handler [] e)

section

variable {handler : Handler} {e : Entry} {entries calls : List Entry}
  {returnCode : OpentracingPropagationErrorCode}

theorem accepts_nil : handler.Accepts [] := by
  intro before e rest h
  simp at h

/-- A handler accepts a nonempty list when it accepts the first entry, and the others
after it. -/
theorem accepts_cons_iff :
    handler.Accepts (e :: entries) ↔
      handler [] e = success ∧ (handler.after e).Accepts entries := by
  constructor
  · intro h
    refine ⟨h [] e entries rfl, fun before f rest hsplit => ?_⟩
    exact h (e :: before) f rest (by rw [hsplit, List.cons_append])
  · rintro ⟨hfirst, hrest⟩ before f rest hsplit
    cases before with
    | nil =>
        obtain ⟨rfl, rfl⟩ : e = f ∧ entries = rest := by simpa using hsplit
        exact hfirst
    | cons g before =>
        obtain ⟨rfl, htail⟩ : e = g ∧ entries = before ++ f :: rest := by simpa using hsplit
        exact hrest before f rest htail

/-- Where the first entry is refused, it is the only call. -/
theorem delivery_cons_iff_of_refused (hfirst : handler [] e ≠ success) :
    Delivery handler (e :: entries) calls returnCode ↔
      calls = [e] ∧ returnCode = handler [] e := by
  constructor
  · rintro (⟨haccepts, -, -⟩ | ⟨before, f, rest, hsplit, haccepts, hcode, -, rfl⟩)
    · exact absurd (accepts_cons_iff.mp haccepts).1 hfirst
    · cases before with
      | nil =>
          obtain ⟨rfl, rfl⟩ : e = f ∧ entries = rest := by simpa using hsplit
          exact ⟨rfl, hcode.symm⟩
      | cons g before =>
          obtain ⟨rfl, -⟩ : e = g ∧ entries = before ++ f :: rest := by simpa using hsplit
          exact absurd (accepts_cons_iff.mp haccepts).1 hfirst
  · rintro ⟨rfl, rfl⟩
    exact Or.inr ⟨[], e, entries, rfl, accepts_nil, rfl, hfirst, rfl⟩

/-- Where the first entry is accepted, the others are delivered after it. -/
theorem delivery_cons_iff_of_accepted (hfirst : handler [] e = success) :
    Delivery handler (e :: entries) calls returnCode ↔
      ∃ calls', calls = e :: calls' ∧ Delivery (handler.after e) entries calls' returnCode := by
  constructor
  · rintro (⟨haccepts, rfl, rfl⟩ | ⟨before, f, rest, hsplit, haccepts, hcode, herror, rfl⟩)
    · exact ⟨entries, rfl, Or.inl ⟨(accepts_cons_iff.mp haccepts).2, rfl, rfl⟩⟩
    · cases before with
      | nil =>
          obtain ⟨rfl, rfl⟩ : e = f ∧ entries = rest := by simpa using hsplit
          exact absurd (hcode.symm.trans hfirst) herror
      | cons g before =>
          obtain ⟨rfl, rfl⟩ : e = g ∧ entries = before ++ f :: rest := by simpa using hsplit
          exact ⟨before ++ [f], rfl, Or.inr
            ⟨before, f, rest, rfl, (accepts_cons_iff.mp haccepts).2, hcode, herror, rfl⟩⟩
  · rintro ⟨calls', rfl,
      ⟨haccepts, rfl, rfl⟩ | ⟨before, f, rest, rfl, haccepts, hcode, herror, rfl⟩⟩
    · exact Or.inl ⟨accepts_cons_iff.mpr ⟨hfirst, haccepts⟩, rfl, rfl⟩
    · exact Or.inr ⟨e :: before, f, rest, rfl, accepts_cons_iff.mpr ⟨hfirst, haccepts⟩, hcode,
        herror, rfl⟩

/-- **The contract determines the calls and the code.** -/
theorem delivery_iff :
    Delivery handler entries calls returnCode ↔ deliver handler entries = (calls, returnCode) := by
  induction entries generalizing handler calls with
  | nil =>
      constructor
      · rintro (⟨-, rfl, rfl⟩ | ⟨before, f, rest, hsplit, -⟩)
        · rfl
        · simp at hsplit
      · intro h
        obtain ⟨rfl, rfl⟩ : [] = calls ∧ success = returnCode := by simpa [deliver] using h
        exact Or.inl ⟨accepts_nil, rfl, rfl⟩
  | cons e entries ih =>
      by_cases hfirst : handler [] e = success
      · rw [delivery_cons_iff_of_accepted hfirst, deliver, if_pos hfirst]
        simp only [ih, Prod.mk.injEq]
        constructor
        · rintro ⟨calls', rfl, h⟩
          rw [h]
          exact ⟨rfl, rfl⟩
        · rintro ⟨rfl, rfl⟩
          exact ⟨_, rfl, rfl⟩
      · rw [delivery_cons_iff_of_refused hfirst, deliver, if_neg hfirst, Prod.mk.injEq]
        constructor
        · rintro ⟨rfl, rfl⟩
          exact ⟨rfl, rfl⟩
        · rintro ⟨rfl, rfl⟩
          exact ⟨rfl, rfl⟩

end

end OpentracingC
