import OpentracingC.Lib.Machine
import Mathlib.Data.List.Basic

/-!
# Simulations between Machines

A machine `N` explains part of what a machine `M` does: `label` reads each call of `M` as a
call of `N`, or as nothing to `N`, and `Rel` relates the states. In a **simulation** a call
that means something is answered by `N` under its own contract, and a call that means
nothing leaves the related state of `N` where it is.

With several simulations of one machine, one for each of its parts, the runs of `M` are
seen to be interleavings of runs of the parts.

## Main results

* `Machine.Simulation.run`: the calls of a run that mean something are a run of the other
  machine, between related states.
-/

namespace Machine

variable {σ τ α β : Type*} {M : Machine σ α} {N : Machine τ β}

/-- **A simulation** of `M` by `N`. -/
structure Simulation (M : Machine σ α) (N : Machine τ β) (label : α → Option β)
    (Rel : σ → τ → Prop) : Prop where
  /-- A call that means something to `N` is allowed there, and answered. -/
  matched : ∀ s s' t a b, Rel s t → M.Allowed s a → M.step s a = some s' → label a = some b →
    N.Allowed t b ∧ ∃ t', N.step t b = some t' ∧ Rel s' t'
  /-- A call that means nothing to `N` keeps the states related. -/
  silent : ∀ s s' t a, Rel s t → M.Allowed s a → M.step s a = some s' → label a = none →
    Rel s' t

/-- **The simulation rule**: the calls of a run of `M` that mean something to `N` are a run
of `N`. -/
theorem Simulation.run {label : α → Option β} {Rel : σ → τ → Prop}
    (h : Simulation M N label Rel) {s s' : σ} {t : τ} {as : List α} (hrel : Rel s t)
    (hrun : M.Run s as s') : ∃ t', N.Run t (as.filterMap label) t' ∧ Rel s' t' := by
  induction hrun generalizing t with
  | nil s => exact ⟨t, Run.nil t, hrel⟩
  | @cons s s₁ s' a as hallowed hstep _ ih =>
      cases hlabel : label a with
      | none =>
          obtain ⟨t', hrun', hrel'⟩ := ih (h.silent s s₁ t a hrel hallowed hstep hlabel)
          rw [List.filterMap_cons_none hlabel]
          exact ⟨t', hrun', hrel'⟩
      | some b =>
          obtain ⟨hallowed', t₁, hstep', hrel₁⟩ := h.matched s s₁ t a b hrel hallowed hstep hlabel
          obtain ⟨t', hrun', hrel'⟩ := ih hrel₁
          rw [List.filterMap_cons_some hlabel]
          exact ⟨t', Run.cons hallowed' hstep' hrun', hrel'⟩

end Machine
