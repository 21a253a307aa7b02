import Mathlib.Data.List.Destutter

/-!
# Replacement Sequences

A single slot is assigned the elements of a list one after another, and assigning what it
already holds does nothing. `outgoing l` is the sequence of the elements that were
replaced by a different one, each as often as it was, in order. It is the list with
adjacent repetitions collapsed, less its last element (`outgoing_eq_dropLast_destutter`).

An element **reappears** in `l` when it occurs, then a different one, then it again.

## Main results

* `outgoing_eq_dropLast_destutter`: the replaced elements are the collapsed list less its
  last element.
* `count_outgoing_of_not_reappears`: an element that does not reappear is replaced exactly
  once, unless it is the last, which is never replaced.
-/

namespace Replacement

open List

variable {α : Type*} [DecidableEq α]

/-- The elements of a list that are replaced by a different successor, in order. -/
def outgoing : List α → List α
  | [] => []
  | [_] => []
  | a :: b :: l => if a = b then outgoing (b :: l) else a :: outgoing (b :: l)

@[simp] theorem outgoing_cons_self (a : α) (l : List α) :
    outgoing (a :: a :: l) = outgoing (a :: l) := by
  rw [outgoing, if_pos rfl]

theorem outgoing_cons_of_ne {a b : α} (h : a ≠ b) (l : List α) :
    outgoing (a :: b :: l) = a :: outgoing (b :: l) := by
  rw [outgoing, if_neg h]

/-- Nothing is replaced exactly when every element is the first one. -/
theorem outgoing_cons_eq_nil_iff {a : α} {l : List α} :
    outgoing (a :: l) = [] ↔ ∀ b ∈ l, b = a := by
  induction l with
  | nil => simp [outgoing]
  | cons b l ih =>
      by_cases hb : a = b
      · subst hb
        rw [outgoing_cons_self, ih]
        simp
      · rw [outgoing_cons_of_ne hb]
        simp [Ne.symm hb]

/-- An element occurs, then a different one, then it again. -/
def Reappears (t : α) (l : List α) : Prop :=
  ∃ u, u ≠ t ∧ [t, u, t] <+ l

/-- An element that reappears occurs twice. -/
theorem Reappears.two_le_count {t : α} {l : List α} (h : Reappears t l) : 2 ≤ l.count t := by
  obtain ⟨u, hu, hsub⟩ := h
  calc 2 = [t, u, t].count t := by simp [hu]
    _ ≤ l.count t := hsub.count_le t

/-! ### Collapsed lists -/

/-- Collapsing keeps every element. -/
theorem mem_destutter_ne {t : α} {l : List α} (h : t ∈ l) : t ∈ l.destutter (· ≠ ·) := by
  induction l with
  | nil => cases h
  | cons a l ih =>
      cases l with
      | nil => simpa using h
      | cons b l =>
          rw [destutter_cons_cons]
          by_cases hab : a = b
          · subst hab
            rw [if_neg (not_not.mpr rfl)]
            have hmem : t ∈ a :: l := by simpa using h
            exact ih hmem
          · rw [if_pos hab]
            rcases mem_cons.mp h with rfl | hmem
            · exact mem_cons_self
            · exact mem_cons_of_mem _ (ih hmem)

/-- Collapsing keeps the last element. -/
theorem getLast?_destutter_ne (l : List α) : (l.destutter (· ≠ ·)).getLast? = l.getLast? := by
  induction l with
  | nil => rfl
  | cons a l ih =>
      cases l with
      | nil => rfl
      | cons b l =>
          rw [destutter_cons_cons, getLast?_cons_cons, ← ih]
          by_cases hab : a = b
          · subst hab
            rw [if_neg (not_not.mpr rfl)]
            rfl
          · rw [if_pos hab]
            obtain ⟨c, m, hm⟩ := exists_cons_of_ne_nil (destutter'_ne_nil l (· ≠ ·) (a := b))
            rw [destutter_cons', hm, getLast?_cons_cons]

/-- In a list without adjacent repetitions, an element that occurs twice reappears. -/
theorem reappears_of_two_le_count {t : α} {l : List α} (hl : l.IsChain (· ≠ ·))
    (h : 2 ≤ l.count t) : Reappears t l := by
  induction l with
  | nil => simp at h
  | cons a l ih =>
      by_cases htail : 2 ≤ l.count t
      · obtain ⟨u, hu, hsub⟩ := ih hl.tail htail
        exact ⟨u, hu, hsub.cons a⟩
      · have hat : a = t := by
          by_contra hne
          rw [count_cons_of_ne hne] at h
          exact htail h
        subst hat
        rw [count_cons_self] at h
        cases l with
        | nil => simp at h
        | cons b l =>
            have hab : a ≠ b := (isChain_cons_cons.mp hl).1
            rw [count_cons_of_ne hab.symm] at h
            have hmem : a ∈ l := count_pos_iff.mp (by omega)
            exact ⟨b, hab.symm, ((singleton_sublist.mpr hmem).cons_cons b).cons_cons a⟩

/-! ### Replaced elements -/

/-- **The replaced elements**: the collapsed list less its last element. -/
theorem outgoing_eq_dropLast_destutter (l : List α) :
    outgoing l = (l.destutter (· ≠ ·)).dropLast := by
  induction l with
  | nil => rfl
  | cons a l ih =>
      cases l with
      | nil => rfl
      | cons b l =>
          rw [outgoing, destutter_cons_cons, ih]
          by_cases hab : a = b
          · subst hab
            rw [if_pos rfl, if_neg (not_not.mpr rfl)]
            rfl
          · rw [if_neg hab, if_pos hab, destutter_cons',
              dropLast_cons_of_ne_nil (destutter'_ne_nil l (· ≠ ·))]

/-- The replaced elements occur in the list. -/
theorem mem_of_mem_outgoing {t : α} {l : List α} (h : t ∈ outgoing l) : t ∈ l := by
  rw [outgoing_eq_dropLast_destutter] at h
  exact (destutter_sublist (· ≠ ·) l).subset (dropLast_subset _ h)

/-- An element occurs once more in the collapsed list than it is replaced, if it is the
last, and as often otherwise. -/
theorem count_destutter_eq {t : α} {l : List α} (h : l ≠ []) :
    (l.destutter (· ≠ ·)).count t =
      (outgoing l).count t + if l.getLast? = some t then 1 else 0 := by
  obtain ⟨last, hlast⟩ : ∃ last, l.getLast? = some last :=
    ⟨l.getLast h, getLast?_eq_some_getLast h⟩
  have hsplit : (l.destutter (· ≠ ·)).dropLast ++ [last] = l.destutter (· ≠ ·) := by
    refine dropLast_append_getLast? last ?_
    rw [getLast?_destutter_ne, hlast]
    rfl
  rw [outgoing_eq_dropLast_destutter, ← hsplit, dropLast_concat, count_append, hlast]
  simp [count_singleton]

/-- **An element that does not reappear** is replaced exactly once, unless it is the last
one, which is never replaced. -/
theorem count_outgoing_of_not_reappears {t : α} {l : List α} (ht : t ∈ l)
    (h : ¬ Reappears t l) :
    (outgoing l).count t = if l.getLast? = some t then 0 else 1 := by
  have hle : (l.destutter (· ≠ ·)).count t ≤ 1 := by
    by_contra hlt
    obtain ⟨u, hu, hsub⟩ :=
      reappears_of_two_le_count (t := t) (isChain_destutter (· ≠ ·) l) (by omega)
    exact h ⟨u, hu, hsub.trans (destutter_sublist (· ≠ ·) l)⟩
  have hpos : 1 ≤ (l.destutter (· ≠ ·)).count t := count_pos_iff.mpr (mem_destutter_ne ht)
  have hcount := count_destutter_eq (t := t) (ne_nil_of_mem ht)
  by_cases hlast : l.getLast? = some t
  · rw [if_pos hlast] at hcount ⊢
    omega
  · rw [if_neg hlast] at hcount ⊢
    omega

/-- A replaced element that does not reappear is replaced exactly once. -/
theorem count_outgoing_of_mem {t : α} {l : List α} (ht : t ∈ outgoing l)
    (h : ¬ Reappears t l) : (outgoing l).count t = 1 := by
  have hmem : t ∈ l := mem_of_mem_outgoing ht
  have hpos : 1 ≤ (outgoing l).count t := count_pos_iff.mpr ht
  have hcount := count_outgoing_of_not_reappears hmem h
  by_cases hlast : l.getLast? = some t
  · rw [if_pos hlast] at hcount
    omega
  · rw [if_neg hlast] at hcount
    exact hcount

/-- The last element, unless it reappears, is not replaced. -/
theorem notMem_outgoing_of_getLast? {t : α} {l : List α} (hlast : l.getLast? = some t)
    (h : ¬ Reappears t l) : t ∉ outgoing l := by
  have hmem : t ∈ l := mem_of_getLast? hlast
  have hcount := count_outgoing_of_not_reappears hmem h
  rw [if_pos hlast] at hcount
  exact count_eq_zero.mp hcount

end Replacement
