import OpentracingC.Propagation
import Mathlib.Logic.Relation

/-!
# The Text Map Reader

The carrier reader of the README, `text_map_reader_foreach_key` of `extract_snippet.c`,
over any iterator that meets the contract of `text_map_iterator.h`. `TextMapIterator`
carries that contract in its fields: `remaining` are the entries an iterator still has to
deliver, `text_map_iterator_has_next` says whether there are any, and
`text_map_iterator_next` moves past the first and stores it in `key` and `value`.
`text_map_iterator_destroy` may do anything to the state `ω` in which iterators are allocated.

The loop of the source advances the iterator in its third clause, after the body, so that
the body always runs on the entry before: on what the uninitialised `key` and `value`
happened to hold for the first entry, and never on the last (`foreachLoop_eq`). It meets
the contract of `foreach_key` exactly for the empty map (`foreach_key_meets_contract_iff`).
-/

open CMemory

namespace OpentracingC

open OpentracingPropagationErrorCode

/-- An iterator over text maps, with the contract of `text_map_iterator.h`. -/
structure TextMapIterator (μ ι ω : Type) where
  /-- `text_map_get_iterator`; NULL on failure. -/
  getIterator : μ → Option ι
  /-- `text_map_iterator_has_next`. -/
  hasNext : ι → Bool
  /-- `text_map_iterator_next`, with the contents of `*key_ptr` and `*value_ptr` before and
  after. -/
  next : ι → Option CString × Option CString → ι × Option CString × Option CString
  /-- `text_map_iterator_destroy`. -/
  destroy : ι → ω → ω
  /-- The entries of a map. -/
  entries : μ → List Entry
  /-- The entries an iterator has not moved to yet. -/
  remaining : ι → List Entry
  remaining_of_getIterator : ∀ map it, getIterator map = some it → remaining it = entries map
  hasNext_iff : ∀ it, hasNext it = true ↔ remaining it ≠ []
  next_eq : ∀ it key value rest cells, remaining it = (key, value) :: rest →
    ∃ it', next it cells = (it', some key, some value) ∧ remaining it' = rest

variable {μ ι ω : Type}

/-- `it'` is what `it` is after some calls of `text_map_iterator_next`. -/
def TextMapIterator.MovesTo (T : TextMapIterator μ ι ω) : ι → ι → Prop :=
  Relation.ReflTransGen fun it it' => T.hasNext it = true ∧ ∃ cells, (T.next it cells).1 = it'

/-- An iterator that has a next entry has one fewer after it. -/
theorem TextMapIterator.length_remaining_next (T : TextMapIterator μ ι ω) {it : ι}
    (h : T.hasNext it = true) (cells : Option CString × Option CString) :
    (T.remaining (T.next it cells).1).length < (T.remaining it).length := by
  obtain ⟨⟨key, value⟩, rest, hrest⟩ :=
    List.exists_cons_of_ne_nil ((T.hasNext_iff it).mp h)
  obtain ⟨it', hnext, hit'⟩ := T.next_eq it key value rest cells hrest
  rw [hnext, hit', hrest]
  simp

/-- The loop of `text_map_reader_foreach_key`: the iterator as it is left, the calls of the
handler and `return_code`, or `none` when an assertion fails. -/
def foreachLoop (T : TextMapIterator μ ι ω) (handler : Handler) (it : ι)
    (key value : Option CString) : Option (ι × List Entry × OpentracingPropagationErrorCode) :=
  if _ : T.hasNext it = true then do
    -- `assert(key != NULL)` and `assert(value != NULL)`
    let k ← key
    let v ← value
    let returnCode := handler [] (k, v)
    if returnCode ≠ success then
      return (it, [(k, v)], returnCode)
    else
      let next := T.next it (key, value)
      let r ← foreachLoop T (handler.after (k, v)) next.1 next.2.1 next.2.2
      return (r.1, (k, v) :: r.2.1, r.2.2)
  else
    some (it, [], success)
termination_by (T.remaining it).length
decreasing_by exact T.length_remaining_next ‹_› _

/-- What a call of `text_map_reader_foreach_key` did. -/
structure ForeachResult (ω : Type) where
  /-- The calls of the handler. -/
  calls : List Entry
  returnCode : OpentracingPropagationErrorCode
  /-- The state of the iterators afterwards. -/
  world : ω
deriving DecidableEq

/-- `text_map_reader_foreach_key`, on the map of the reader; `none` when an assertion
fails. `key` and `value` are what the two locals hold before they are assigned. -/
def textMapReaderForeachKey (T : TextMapIterator μ ι ω) (handler : Handler) (map : μ)
    (key value : Option CString) (world : ω) : Option (ForeachResult ω) :=
  match T.getIterator map with
  | none => some { calls := [], returnCode := unknown, world }
  | some it => do
      let r ← foreachLoop T handler it key value
      -- `cleanup:`
      return { calls := r.2.1, returnCode := r.2.2, world := T.destroy r.1 world }

/-- The iterator `it` was destroyed once, wherever it had moved to, between two states. -/
def TextMapIterator.DestroyedOnce (T : TextMapIterator μ ι ω) (it : ι) (world world' : ω) :
    Prop :=
  ∃ it', T.MovesTo it it' ∧ world' = T.destroy it' world

/-- **The contract of the reader**: without an iterator it returns an error and calls
nothing; with one it delivers the entries of the map as `foreach_key` must, no assertion
fails, and the iterator is destroyed once. -/
def MeetsReaderContract (T : TextMapIterator μ ι ω) (handler : Handler) (map : μ) (world : ω)
    (result : Option (ForeachResult ω)) : Prop :=
  match T.getIterator map with
  | none => result = some { calls := [], returnCode := unknown, world }
  | some it => ∃ r, result = some r ∧ Delivery handler (T.entries map) r.calls r.returnCode ∧
      T.DestroyedOnce it world r.world

section

variable {T : TextMapIterator μ ι ω} {handler : Handler} {it : ι}

/-- Without entries left the loop ends, whatever the locals hold. -/
theorem foreachLoop_of_remaining_nil (h : T.remaining it = []) (key value : Option CString) :
    foreachLoop T handler it key value = some (it, [], success) := by
  have hnext : ¬ T.hasNext it = true := by
    rw [T.hasNext_iff it]
    exact not_not.mpr h
  rw [foreachLoop, dif_neg hnext]

/-- **The loop is one entry behind**: it delivers what the locals held before it, then the
remaining entries but the last. The induction is on the remaining entries. -/
theorem foreachLoop_eq {entries : List Entry} (h : T.remaining it = entries)
    (key value : CString) :
    ∃ it', T.MovesTo it it' ∧ foreachLoop T handler it (some key) (some value) =
      some (it', deliver handler ((key, value) :: entries).dropLast) := by
  induction entries generalizing it handler key value with
  | nil => exact ⟨it, .refl, foreachLoop_of_remaining_nil h _ _⟩
  | cons e entries ih =>
      have hnext : T.hasNext it = true := by
        rw [T.hasNext_iff it, h]
        exact List.cons_ne_nil e entries
      obtain ⟨it₁, heq, hit₁⟩ := T.next_eq it e.1 e.2 entries (some key, some value) h
      rw [foreachLoop, dif_pos hnext, List.dropLast_cons_of_ne_nil (List.cons_ne_nil e entries),
        deliver]
      by_cases hcode : handler [] (key, value) = success
      · obtain ⟨it', hmoves, hloop⟩ : ∃ it', T.MovesTo it₁ it' ∧
            foreachLoop T (handler.after (key, value)) it₁ (some e.1) (some e.2) =
              some (it', deliver (handler.after (key, value)) (e :: entries).dropLast) :=
          ih hit₁ e.1 e.2
        refine ⟨it', .head ⟨hnext, _, congrArg Prod.fst heq⟩ hmoves, ?_⟩
        simp [heq, hloop, hcode]
      · exact ⟨it, .refl, by simp [hcode]⟩

/-- A NULL key fails the assertion at the first entry. -/
theorem foreachLoop_null (h : T.remaining it ≠ []) (value : Option CString) :
    foreachLoop T handler it none value = none := by
  rw [foreachLoop, dif_pos ((T.hasNext_iff it).mpr h)]
  rfl

end

/-- **The reader meets the contract exactly for the empty map**: whatever the iterator, the
map and the handler, it does so for all initial contents of its locals if and only if the
map has no entries, or no iterator could be obtained. -/
theorem foreach_key_meets_contract_iff (T : TextMapIterator μ ι ω) (handler : Handler) (map : μ)
    (world : ω) :
    (∀ key value, MeetsReaderContract T handler map world
      (textMapReaderForeachKey T handler map key value world)) ↔
      (T.getIterator map ≠ none → T.entries map = []) := by
  cases hget : T.getIterator map with
  | none => simp [MeetsReaderContract, textMapReaderForeachKey, hget]
  | some it =>
      have hremaining := T.remaining_of_getIterator map it hget
      simp only [MeetsReaderContract, textMapReaderForeachKey, hget]
      constructor
      · intro h _
        by_contra hne
        obtain ⟨r, hr, -⟩ := h none none
        rw [foreachLoop_null (hremaining ▸ hne)] at hr
        cases hr
      · intro h key value
        have hnil : T.entries map = [] := h (Option.some_ne_none it)
        rw [foreachLoop_of_remaining_nil (hremaining.trans hnil), hnil]
        exact ⟨_, rfl, delivery_iff.mpr rfl, it, .refl, rfl⟩

/-- An iterator over lists of entries; those that were destroyed are recorded. -/
def listIterator : TextMapIterator (List Entry) (List Entry) (List (List Entry)) where
  getIterator map := some map
  hasNext it := !it.isEmpty
  next it cells :=
    match it with
    | [] => ([], cells)
    | (key, value) :: rest => (rest, some key, some value)
  destroy it destroyed := destroyed ++ [it]
  entries map := map
  remaining it := it
  remaining_of_getIterator map it h := (Option.some.inj h).symm
  hasNext_iff it := by cases it <;> simp
  next_eq it key value rest cells h := by
    subst h
    exact ⟨rest, rfl, rfl⟩

/-- A map with one entry. -/
def oneEntryMap : List Entry :=
  [(⟨asciiBytes "key", by decide⟩, ⟨asciiBytes "value", by decide⟩)]

/-- A text that is not in the map. -/
def staleText : CString := ⟨asciiBytes "stale", by decide⟩

/-- On a map with one entry the reader does not meet the contract: where its locals are
NULL an assertion fails, and where they point to other texts the handler is called with
these and never with the entry. -/
theorem foreach_key_skips_entry :
    ¬ MeetsReaderContract listIterator (fun _ _ => success) oneEntryMap []
        (textMapReaderForeachKey listIterator (fun _ _ => success) oneEntryMap none none []) ∧
      ¬ MeetsReaderContract listIterator (fun _ _ => success) oneEntryMap []
        (textMapReaderForeachKey listIterator (fun _ _ => success) oneEntryMap
          (some staleText) (some staleText) []) := by
  constructor
  · rintro ⟨r, hr, -⟩
    have hloop : foreachLoop listIterator (fun _ _ => success) oneEntryMap none none = none :=
      foreachLoop_null (List.cons_ne_nil _ _) none
    rw [textMapReaderForeachKey] at hr
    simp only [listIterator] at hr hloop
    rw [hloop] at hr
    cases hr
  · rintro ⟨r, hr, hdelivery, -⟩
    obtain ⟨it', -, hloop⟩ : ∃ it', listIterator.MovesTo oneEntryMap it' ∧
        foreachLoop listIterator (fun _ _ => success) oneEntryMap (some staleText)
          (some staleText) = some (it', [(staleText, staleText)], success) :=
      foreachLoop_eq rfl staleText staleText
    rw [textMapReaderForeachKey] at hr
    simp only [listIterator] at hr hloop
    rw [hloop] at hr
    obtain rfl := Option.some.inj hr
    have hcalls : (deliver (fun _ _ => success) oneEntryMap).1 = [(staleText, staleText)] :=
      congrArg Prod.fst (delivery_iff.mp hdelivery)
    revert hcalls
    decide

end OpentracingC
