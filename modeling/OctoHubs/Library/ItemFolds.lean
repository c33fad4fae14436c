import Mathlib.Data.List.Basic

/-! A fold that may fail, seen through a view of its state: items that leave the view alone can
be skipped, so that the view after the fold is what its last writer left.
-/

namespace OctoHubs.Library

variable {σ α β : Type*} {step : σ → α → Option σ} {view : σ → β}

theorem view_foldlM_of_keeps {items : List α} {start finish : σ}
    (keeps : ∀ state item next, item ∈ items → step state item = some next → view next = view state)
    (ran : items.foldlM step start = some finish)
    : view finish = view start := by
  induction items generalizing start with
  | nil =>
      cases ran
      rfl
  | cons item rest ih =>
      rw [List.foldlM_cons] at ran
      obtain ⟨next, stepped, later⟩ := Option.bind_eq_some_iff.mp ran
      have here := keeps start item next List.mem_cons_self stepped
      have after := ih (fun state other result member =>
        keeps state other result (List.mem_cons_of_mem _ member)) later
      exact after.trans here

theorem view_foldlM_of_writes {before after : List α} {item : α} {start finish : σ} {value : β}
    (writes : ∀ state next, step state item = some next → view next = value)
    (keeps : ∀ state other next, other ∈ after → step state other = some next → view next = view state)
    (ran : (before ++ item :: after).foldlM step start = some finish)
    : view finish = value := by
  rw [List.foldlM_append] at ran
  obtain ⟨middle, -, later⟩ := Option.bind_eq_some_iff.mp ran
  rw [List.foldlM_cons] at later
  obtain ⟨next, stepped, rest⟩ := Option.bind_eq_some_iff.mp later
  exact (view_foldlM_of_keeps keeps rest).trans (writes middle next stepped)

theorem exists_foldlM {items : List α} {start : σ}
    (progress : ∀ state item, item ∈ items → ∃ next, step state item = some next)
    : ∃ finish, items.foldlM step start = some finish := by
  induction items generalizing start with
  | nil => exact ⟨start, rfl⟩
  | cons item rest ih =>
      obtain ⟨next, stepped⟩ := progress start item List.mem_cons_self
      obtain ⟨finish, ran⟩ :=
        @ih next (fun state other member => progress state other (List.mem_cons_of_mem _ member))
      exact ⟨finish, by rw [List.foldlM_cons, stepped]; exact ran⟩

end OctoHubs.Library
