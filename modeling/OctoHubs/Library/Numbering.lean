import Mathlib.Data.List.Basic
import Mathlib.Data.List.Range

/-! Lists whose items carry consecutive numbers, and lists of bounded length that lose their
first items.
-/

namespace OctoHubs.Library

variable {α : Type*} {number : α → Nat}

def Numbered (number : α → Nat) (first : Nat) (items : List α) : Prop :=
  items.map number = List.range' first items.length

namespace Numbered

variable {first : Nat} {items : List α} {item : α}

theorem nil : Numbered number first [] := rfl

theorem cons_iff
    : Numbered number first (item :: items)
      ↔ number item = first ∧ Numbered number (first + 1) items := by
  simp [Numbered, List.range'_succ]

theorem append (numbered : Numbered number first items)
    (next : number item = first + items.length)
    : Numbered number first (items ++ [item]) := by
  unfold Numbered at *
  rw [List.map_append, numbered, List.length_append, List.length_singleton, List.range'_concat,
    List.map_singleton, next, Nat.one_mul]

theorem drop (numbered : Numbered number first items) (count : Nat)
    : Numbered number (first + count) (items.drop count) := by
  unfold Numbered at *
  rw [List.map_drop, numbered, List.length_drop, List.drop_range', Nat.mul_one]

theorem take (numbered : Numbered number first items) (count : Nat)
    : Numbered number first (items.take count) := by
  unfold Numbered at *
  rw [List.map_take, numbered, List.length_take]
  rcases Nat.le_total items.length count with short | long
  · rw [List.take_range'_of_length_le short, Nat.min_eq_right short]
  · rw [List.take_range'_of_length_ge long, Nat.min_eq_left long]

theorem mem_bounds (numbered : Numbered number first items) (member : item ∈ items)
    : first ≤ number item ∧ number item < first + items.length := by
  have range : number item ∈ List.range' first items.length :=
    numbered ▸ List.mem_map_of_mem member
  exact List.mem_range'_1.mp range

theorem filter_after (numbered : Numbered number first items) (bound : Nat)
    : items.filter (bound < number ·) = items.drop (bound + 1 - first) := by
  induction items generalizing first with
  | nil => simp
  | cons item items ih =>
      obtain ⟨head, tail⟩ := cons_iff.mp numbered
      by_cases later : bound < number item
      · have before : bound + 1 - first = 0 := Nat.sub_eq_zero_of_le (head ▸ later)
        rw [before, List.drop_zero, List.filter_eq_self]
        intro other member
        have bounds := (numbered.mem_bounds member).1
        exact decide_eq_true (Nat.lt_of_lt_of_le (head ▸ later) bounds)
      · have passed : bound + 1 - first = bound + 1 - (first + 1) + 1 := by omega
        rw [List.filter_cons_of_neg (by simpa using later), ih tail, passed, List.drop_succ_cons]

theorem number_getLast (numbered : Numbered number first items) (filled : items ≠ [])
    : number (items.getLast filled) + 1 = first + items.length := by
  have positive : 0 < items.length := List.length_pos_of_ne_nil filled
  have last : number (items.getLast filled) = first + items.length - 1 := by
    have mapped : items.map number ≠ [] := by simpa using filled
    calc number (items.getLast filled)
      _ = (items.map number).getLast mapped := (List.getLast_map mapped).symm
      _ = first + items.length - 1 := by
          simp only [show items.map number = _ from numbered, List.getLast_range']
  omega

end Numbered

/-- Append an item, dropping the first one when there is no more room. -/
def pushBounded (capacity : Nat) (items : List α) (item : α) : List α :=
  (items ++ [item]).drop (items.length + 1 - capacity)

theorem length_pushBounded (capacity : Nat) (items : List α) (item : α)
    : (pushBounded capacity items item).length = min (items.length + 1) capacity := by
  rw [pushBounded, List.length_drop, List.length_append, List.length_singleton]
  omega

theorem pushBounded_suffix {items all : List α} (suffix : items <:+ all) (capacity : Nat)
    (item : α)
    : pushBounded capacity items item <:+ all ++ [item] := by
  obtain ⟨front, rfl⟩ := suffix
  rw [List.append_assoc]
  exact (List.drop_suffix _ _).trans (List.suffix_append _ _)

end OctoHubs.Library
