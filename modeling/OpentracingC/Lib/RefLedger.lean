import Mathlib.Algebra.BigOperators.Group.Finset.Piecewise
import Mathlib.Data.Fintype.Basic
import Mathlib.Data.List.Count
import Mathlib.Data.List.Induction
import Mathlib.Tactic.Common

/-!
# Reference Ledgers

A ledger is the sequence of things that happened to reference-counted resources:
`Event.acquire r` adds a reference to `r`, `Event.release r` removes one, and
`Event.use r` runs something that lives in `r`. At any point of the ledger the count of
`r` is the number of its acquires minus the number of its releases; `Held es r` says that
it is positive after `es`.

A ledger is **covered** when every release and every use is made while its resource is
held (`Covered`). Coverage is decided event by event: `covered_append_iff` splits it at
any point, with `CoveredAfter` for the second part, and evaluates on explicit event
lists.

References are kept in slots, each of which holds one resource or none;
`holders slots r` is the number of slots that hold `r`.

## Main results

* `covered_append_iff`: coverage of `es ++ fs` is coverage of `es` and of `fs` after it.
* `Covered.released_le`: a covered ledger never releases more than it acquired.
* `UsesHeld.coveredAfter`: uses of held resources are covered, and change no count.
* `holders_update`: what the assignment to one slot does to the number of holders.
-/

namespace RefLedger

/-- What can happen to a reference-counted resource. -/
inductive Event (ρ : Type*)
  /-- A reference is added. -/
  | acquire (r : ρ)
  /-- A reference is removed. -/
  | release (r : ρ)
  /-- Something that lives in the resource is run. -/
  | use (r : ρ)
deriving DecidableEq

/-- The resource an event needs to be held: a release and a use need theirs. -/
def Event.Needs {ρ : Type*} : Event ρ → ρ → Prop
  | .acquire _, _ => False
  | .release r, s => r = s
  | .use r, s => r = s

variable {ρ : Type*}

@[simp] theorem not_needs_acquire (r s : ρ) : ¬ (Event.acquire r).Needs s := fun h => h

@[simp] theorem needs_release_iff (r s : ρ) : (Event.release r).Needs s ↔ r = s := Iff.rfl

@[simp] theorem needs_use_iff (r s : ρ) : (Event.use r).Needs s ↔ r = s := Iff.rfl

variable [DecidableEq ρ]

/-- The number of references to `r` a ledger added. -/
def acquired (r : ρ) (es : List (Event ρ)) : ℕ :=
  es.count (.acquire r)

/-- The number of references to `r` a ledger removed. -/
def released (r : ρ) (es : List (Event ρ)) : ℕ :=
  es.count (.release r)

/-- After `es`, at least one reference to `r` is open. -/
def Held (es : List (Event ρ)) (r : ρ) : Prop :=
  released r es < acquired r es

instance (es : List (Event ρ)) (r : ρ) : Decidable (Held es r) :=
  inferInstanceAs (Decidable (_ < _))

/-- **Coverage**: every release and every use is made while its resource is held. -/
def Covered (es : List (Event ρ)) : Prop :=
  ∀ pre e post, es = pre ++ e :: post → ∀ r, e.Needs r → Held pre r

/-- Coverage of the second part of a ledger, after the first. -/
def CoveredAfter : List (Event ρ) → List (Event ρ) → Prop
  | _, [] => True
  | es, e :: fs => (∀ r, e.Needs r → Held es r) ∧ CoveredAfter (es ++ [e]) fs

/-! ### Counts -/

@[simp] theorem acquired_nil (r : ρ) : acquired r [] = 0 := rfl

@[simp] theorem released_nil (r : ρ) : released r [] = 0 := rfl

@[simp] theorem acquired_append (r : ρ) (es fs : List (Event ρ)) :
    acquired r (es ++ fs) = acquired r es + acquired r fs :=
  List.count_append

@[simp] theorem released_append (r : ρ) (es fs : List (Event ρ)) :
    released r (es ++ fs) = released r es + released r fs :=
  List.count_append

@[simp] theorem acquired_cons_acquire (r s : ρ) (es : List (Event ρ)) :
    acquired r (.acquire s :: es) = acquired r es + if s = r then 1 else 0 := by
  simp [acquired, List.count_cons]

@[simp] theorem acquired_cons_release (r s : ρ) (es : List (Event ρ)) :
    acquired r (.release s :: es) = acquired r es := by
  simp [acquired]

@[simp] theorem acquired_cons_use (r s : ρ) (es : List (Event ρ)) :
    acquired r (.use s :: es) = acquired r es := by
  simp [acquired]

@[simp] theorem released_cons_acquire (r s : ρ) (es : List (Event ρ)) :
    released r (.acquire s :: es) = released r es := by
  simp [released]

@[simp] theorem released_cons_release (r s : ρ) (es : List (Event ρ)) :
    released r (.release s :: es) = released r es + if s = r then 1 else 0 := by
  simp [released, List.count_cons]

@[simp] theorem released_cons_use (r s : ρ) (es : List (Event ρ)) :
    released r (.use s :: es) = released r es := by
  simp [released]

/-! ### Coverage -/

/-- The empty ledger is covered. -/
theorem covered_nil : Covered ([] : List (Event ρ)) := by
  intro pre e post h
  simp at h

/-- One more event is covered when what it needs is held. -/
theorem covered_append_singleton_iff {es : List (Event ρ)} {e : Event ρ} :
    Covered (es ++ [e]) ↔ Covered es ∧ ∀ r, e.Needs r → Held es r := by
  constructor
  · intro h
    refine ⟨fun pre f post hes => ?_, h es e [] rfl⟩
    exact h pre f (post ++ [e]) (by simp [hes])
  · rintro ⟨hes, he⟩ pre f post hsplit
    rcases List.eq_nil_or_concat post with rfl | ⟨post, g, rfl⟩
    · obtain ⟨rfl, hef⟩ := List.append_inj' hsplit rfl
      obtain rfl : e = f := by simpa using hef
      exact he
    · have hcat : es ++ [e] = (pre ++ f :: post) ++ [g] := by simpa using hsplit
      obtain ⟨hpre, -⟩ := List.append_inj' hcat rfl
      exact hes pre f post hpre

/-- Coverage splits at any point of a ledger. -/
theorem covered_append_iff {es fs : List (Event ρ)} :
    Covered (es ++ fs) ↔ Covered es ∧ CoveredAfter es fs := by
  induction fs generalizing es with
  | nil => simp [CoveredAfter]
  | cons e fs ih =>
      rw [← List.singleton_append, ← List.append_assoc, ih, covered_append_singleton_iff,
        and_assoc]
      rfl

/-- A covered ledger never releases more references than it acquired. -/
theorem Covered.released_le {es : List (Event ρ)} (h : Covered es) (r : ρ) :
    released r es ≤ acquired r es := by
  induction es using List.reverseRecOn with
  | nil => simp
  | append_singleton es e ih =>
      obtain ⟨hes, he⟩ := covered_append_singleton_iff.mp h
      have hle := ih hes
      cases e with
      | acquire s =>
          simp only [released_append, released_cons_acquire, released_nil, acquired_append]
          omega
      | release s =>
          simp only [released_append, released_cons_release, released_nil, acquired_append,
            acquired_cons_release, acquired_nil]
          by_cases hs : s = r
          · have hheld : Held es r := he r hs
            simp only [Held] at hheld
            rw [if_pos hs]
            omega
          · rw [if_neg hs]
            omega
      | use s =>
          simp only [released_append, released_cons_use, released_nil, acquired_append]
          omega

/-! ### Uses -/

/-- Uses of resources that are held. -/
def UsesHeld (es fs : List (Event ρ)) : Prop :=
  ∀ e ∈ fs, ∃ r, e = .use r ∧ Held es r

/-- Uses add no reference. -/
theorem UsesHeld.acquired_eq {es fs : List (Event ρ)} (h : UsesHeld es fs) (r : ρ) :
    acquired r fs = 0 := by
  refine List.count_eq_zero.mpr fun hmem => ?_
  obtain ⟨s, hs, -⟩ := h _ hmem
  cases hs

/-- Uses remove no reference. -/
theorem UsesHeld.released_eq {es fs : List (Event ρ)} (h : UsesHeld es fs) (r : ρ) :
    released r fs = 0 := by
  refine List.count_eq_zero.mpr fun hmem => ?_
  obtain ⟨s, hs, -⟩ := h _ hmem
  cases hs

/-- Uses of held resources are covered. -/
theorem UsesHeld.coveredAfter {es fs : List (Event ρ)} (h : UsesHeld es fs) :
    CoveredAfter es fs := by
  induction fs generalizing es with
  | nil => trivial
  | cons e fs ih =>
      obtain ⟨r, rfl, hr⟩ := h e List.mem_cons_self
      refine ⟨by rintro s rfl; exact hr, ih fun f hf => ?_⟩
      obtain ⟨s, rfl, hs⟩ := h f (List.mem_cons_of_mem _ hf)
      exact ⟨s, rfl, by simpa [Held] using hs⟩

/-! ### Slots -/

/-- A slot, as a list, counts what it holds. -/
theorem count_toList (x : Option ρ) (r : ρ) :
    x.toList.count r = if x = some r then 1 else 0 := by
  cases x <;> simp [List.count_singleton]

variable {H : Type*} [Fintype H]

/-- The number of slots that hold `r`. -/
def holders (slots : H → Option ρ) (r : ρ) : ℕ :=
  (Finset.univ.filter fun h => slots h = some r).card

/-- A slot that holds `r` counts. -/
theorem one_le_holders {slots : H → Option ρ} {h : H} {r : ρ} (hr : slots h = some r) :
    1 ≤ holders slots r :=
  Finset.card_pos.mpr ⟨h, by simp [hr]⟩

/-- Empty slots hold nothing. -/
@[simp] theorem holders_none (r : ρ) : holders (fun _ : H => none) r = 0 := by
  simp [holders]

/-- The number of holders after an assignment to one slot: what the slot held no longer
counts, and what it holds now does. -/
theorem holders_update [DecidableEq H] (slots : H → Option ρ) (h : H) (x : Option ρ) (r : ρ) :
    holders (Function.update slots h x) r + (if slots h = some r then 1 else 0) =
      holders slots r + if x = some r then 1 else 0 := by
  have hrest : ∑ k ∈ Finset.univ.erase h, (if Function.update slots h x k = some r then 1 else 0)
      = ∑ k ∈ Finset.univ.erase h, if slots k = some r then 1 else 0 := by
    refine Finset.sum_congr rfl fun k hk => ?_
    rw [Function.update_of_ne (Finset.ne_of_mem_erase hk)]
  have hsplit : ∀ f : H → Option ρ, holders f r =
      (if f h = some r then 1 else 0) +
        ∑ k ∈ Finset.univ.erase h, if f k = some r then 1 else 0 := by
    intro f
    rw [holders, Finset.card_filter]
    exact (Finset.add_sum_erase _ _ (Finset.mem_univ h)).symm
  rw [hsplit (Function.update slots h x), hsplit slots, hrest, Function.update_self]
  omega

end RefLedger
