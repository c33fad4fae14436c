import Mathlib.Data.List.Basic
import OctoHubs.Library.Dict

/-! Dictionaries whose values carry their own keys, and what folds keep and gather. -/

namespace OctoHubs.Library

variable {κ ν α : Type*} [DecidableEq κ] (label : ν → κ)

/-- Every value is stored under its label. -/
def Labelled (dict : Dict κ ν) : Prop :=
  ∀ key value, dict.get? key = some value → label value = key

variable {label}

theorem labelled_empty : Labelled label (∅ : Dict κ ν) := by
  intro key value found
  cases found

theorem Labelled.set {dict : Dict κ ν} (labelled : Labelled label dict) {key : κ} {value : ν}
    (same : label value = key)
    : Labelled label (dict.set key value) := by
  intro other found there
  rw [Dict.get?_set] at there
  split at there
  · next here =>
      cases there
      rw [same, here]
  · exact labelled other found there

theorem Labelled.get?_label {dict : Dict κ ν} (labelled : Labelled label dict) {value : ν}
    (member : value ∈ dict.values)
    : dict.get? (label value) = some value := by
  obtain ⟨key, found⟩ := Dict.mem_values_iff.mp member
  rwa [labelled key value found]

theorem foldl_preserves {σ : Type*} (holds : σ → Prop) {step : σ → α → σ} {items : List α}
    {start : σ} (starts : holds start) (steps : ∀ state item, holds state → holds (step state item))
    : holds (items.foldl step start) :=
  List.foldlRecOn items step starts (fun state kept item _ => steps state item kept)

theorem foldl_gathers {σ : Type*} (holds : σ → Prop) (adds : α → Prop) {step : σ → α → σ}
    (steps : ∀ state item, holds (step state item) ↔ holds state ∨ adds item) (items : List α)
    (start : σ)
    : holds (items.foldl step start) ↔ holds start ∨ ∃ item ∈ items, adds item := by
  induction items generalizing start with
  | nil => simp
  | cons item rest ih =>
      rw [List.foldl_cons, ih, steps, or_assoc]
      simp only [List.mem_cons, exists_eq_or_imp]

theorem foldlM_preserves {σ : Type*} (holds : σ → Prop) {step : σ → α → Option σ}
    {items : List α} {start result : σ} (starts : holds start)
    (steps : ∀ state item next, holds state → step state item = some next → holds next)
    (ends : items.foldlM step start = some result)
    : holds result := by
  induction items generalizing start with
  | nil =>
      cases ends
      exact starts
  | cons item rest ih =>
      rw [List.foldlM_cons] at ends
      obtain ⟨next, stepped, ends⟩ := Option.bind_eq_some_iff.mp ends
      exact ih (steps start item next starts stepped) ends

/-- When every item has an answer, the answers list what each of them lists, by induction on the
items.
-/
theorem mapM_answers {β : Type*} {answer : α → Option (List β)} {items : List α}
    (answers : ∀ item ∈ items, ∃ found, answer item = some found)
    : ∃ lists,
        items.mapM answer = some lists
        ∧ ∀ value,
            value ∈ lists.flatten
            ↔ ∃ item ∈ items, ∃ found, answer item = some found ∧ value ∈ found := by
  induction items with
  | nil => exact ⟨[], rfl, by simp⟩
  | cons item rest ih =>
      obtain ⟨lists, later, listed⟩ :=
        ih (fun other member => answers other (List.mem_cons_of_mem _ member))
      obtain ⟨found, here⟩ := answers item List.mem_cons_self
      refine ⟨found :: lists, ?_, fun value => ?_⟩
      · rw [List.mapM_cons, here, later]
        rfl
      · rw [List.flatten_cons, List.mem_append, listed]
        simp only [List.mem_cons, exists_eq_or_imp, here, Option.some.injEq, exists_eq_left']

theorem exists_mapM {β : Type*} {answer : α → Option β}
    (answers : ∀ item, ∃ found, answer item = some found) (items : List α)
    : ∃ found, items.mapM answer = some found := by
  induction items with
  | nil => exact ⟨[], rfl⟩
  | cons item rest ih =>
      obtain ⟨first, here⟩ := answers item
      obtain ⟨later, there⟩ := ih
      exact ⟨first :: later, by rw [List.mapM_cons, here, there]; rfl⟩

/-- When every item has an answer, the list of items has the list of the answers, by induction on
the items.
-/
theorem mapM_values {β : Type*} {answer : α → Option β} {items : List α}
    (answers : ∀ item ∈ items, (answer item).isSome = true)
    : ∃ found,
        items.mapM answer = some found
        ∧ ∀ value, value ∈ found ↔ ∃ item ∈ items, answer item = some value := by
  induction items with
  | nil => exact ⟨[], rfl, by simp⟩
  | cons item rest ih =>
      obtain ⟨first, here⟩ := Option.isSome_iff_exists.mp (answers item List.mem_cons_self)
      obtain ⟨later, there, listed⟩ :=
        ih (fun other member => answers other (List.mem_cons_of_mem _ member))
      refine ⟨first :: later, by rw [List.mapM_cons, here, there]; rfl, fun value => ?_⟩
      rw [List.mem_cons, listed, List.exists_mem_cons_iff, here, Option.some.injEq,
        eq_comm (a := value)]

/-- What is changed in every answer is changed in the list of the answers, by induction on the
items.
-/
theorem mapM_map_answers {β γ : Type*} {change : β → γ} {answer : α → Option β}
    {answer_ : α → Option γ} (changed : ∀ item, answer_ item = (answer item).map change)
    (items : List α)
    : items.mapM answer_ = (items.mapM answer).map (List.map change) := by
  induction items with
  | nil => rfl
  | cons item rest ih =>
      rw [List.mapM_cons, List.mapM_cons, ih, changed]
      cases answer item <;> cases rest.mapM answer <;> rfl

end OctoHubs.Library
