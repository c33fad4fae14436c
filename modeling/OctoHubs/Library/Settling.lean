import Mathlib.Data.List.Basic

/-! Logs that settle: once an entry has a mark, every later entry has it. -/

namespace OctoHubs.Library

variable {α : Type*} {mark : α → Bool} {log more : List α} {entry : α}

def Settles (mark : α → Bool) (log : List α) : Prop :=
  log.Pairwise (fun earlier later => mark earlier = true → mark later = true)

instance (mark : α → Bool) (log : List α) : Decidable (Settles mark log) :=
  inferInstanceAs (Decidable (log.Pairwise _))

theorem settles_nil : Settles mark [] := List.Pairwise.nil

theorem settles_append
    : Settles mark (log ++ more)
      ↔ Settles mark log ∧ Settles mark more
        ∧ ∀ earlier ∈ log, mark earlier = true → ∀ later ∈ more, mark later = true := by
  unfold Settles
  rw [List.pairwise_append]
  constructor
  · rintro ⟨first, second, across⟩
    exact ⟨first, second, fun earlier before marked later after =>
      across earlier before later after marked⟩
  · rintro ⟨first, second, across⟩
    exact ⟨first, second, fun earlier before later after marked =>
      across earlier before marked later after⟩

theorem settles_singleton : Settles mark [entry] := List.pairwise_singleton _ _

theorem Settles.sublist (settles : Settles mark log) (fewer : more.Sublist log)
    : Settles mark more :=
  List.Pairwise.sublist fewer settles

theorem Settles.append_of_unmarked (unmarked : ∀ earlier ∈ log, mark earlier = false)
    (settles : Settles mark more)
    : Settles mark (log ++ more) := by
  refine settles_append.mpr ⟨?_, settles, fun earlier before marked => ?_⟩
  · refine List.pairwise_of_forall_mem_list (fun earlier before _ _ marked => ?_)
    rw [unmarked earlier before] at marked
    cases marked
  · rw [unmarked earlier before] at marked
    cases marked

theorem Settles.marked_last (settles : Settles mark log) (last : log.getLast? = some entry)
    {earlier : α} (member : earlier ∈ log) (marked : mark earlier = true)
    : mark entry = true := by
  rcases List.eq_nil_or_concat' log with nothing | ⟨before, final, shape⟩
  · rw [nothing] at member
    cases member
  · rw [shape] at settles member last
    rw [List.getLast?_concat] at last
    cases last
    rcases List.mem_append.mp member with inside | same
    · exact (settles_append.mp settles).2.2 earlier inside marked _ (List.mem_singleton_self _)
    · exact List.mem_singleton.mp same ▸ marked

end OctoHubs.Library
