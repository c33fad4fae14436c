import Mathlib.Data.List.Basic

/-! Logs that are passed on with some entries left out, each of which a later entry supersedes.
-/

namespace OctoHubs.Library

variable {α : Type*} {supersedes : α → α → Prop}

/-- The second log is the first one, in its order, without entries that the next one supersedes. -/
inductive Coalesces (supersedes : α → α → Prop) : List α → List α → Prop
  | nil : Coalesces supersedes [] []
  | keep (entry : α) {log passed : List α} (rest : Coalesces supersedes log passed)
    : Coalesces supersedes (entry :: log) (entry :: passed)
  | skip (entry newer : α) {log passed : List α} (above : supersedes newer entry)
    (rest : Coalesces supersedes (newer :: log) passed)
    : Coalesces supersedes (entry :: newer :: log) passed

namespace Coalesces

variable {log passed more : List α} {entry newer : α}

theorem eq_nil_iff (coalesces : Coalesces supersedes log passed) : log = [] ↔ passed = [] := by
  induction coalesces with
  | nil => simp
  | keep entry rest ih => simp
  | skip entry newer above rest ih =>
      rw [← ih]
      simp

theorem concat (coalesces : Coalesces supersedes log passed) (entry : α)
    : Coalesces supersedes (log ++ [entry]) (passed ++ [entry]) := by
  induction coalesces with
  | nil => exact .keep entry .nil
  | keep first rest ih => exact .keep first ih
  | skip first newer above rest ih => exact .skip first newer above ih

theorem replace (coalesces : Coalesces supersedes log (passed ++ [entry]))
    (above : supersedes newer entry)
    : Coalesces supersedes (log ++ [newer]) (passed ++ [newer]) := by
  generalize whole : passed ++ [entry] = all at coalesces
  induction coalesces generalizing passed with
  | nil => cases List.append_ne_nil_of_right_ne_nil passed (List.cons_ne_nil _ _) whole
  | keep first rest ih =>
      cases passed with
      | nil =>
          rcases List.cons.inj whole with ⟨rfl, none⟩
          rw [rest.eq_nil_iff.mpr none.symm]
          exact .skip entry newer above (.keep newer .nil)
      | cons head tail =>
          rcases List.cons.inj whole with ⟨rfl, same⟩
          exact .keep head (ih same)
  | skip first next above rest ih => exact .skip first next above (ih whole)

theorem sublist (coalesces : Coalesces supersedes log passed) : passed.Sublist log := by
  induction coalesces with
  | nil => exact .slnil
  | keep entry rest ih => exact ih.cons_cons entry
  | skip entry newer above rest ih => exact ih.cons entry

theorem getLast?_eq (coalesces : Coalesces supersedes log passed)
    : log.getLast? = passed.getLast? := by
  induction coalesces with
  | nil => rfl
  | keep entry rest ih => rw [List.getLast?_cons, List.getLast?_cons, ih]
  | skip entry newer above rest ih => rw [List.getLast?_cons_cons, ih]

end Coalesces

section Keys

variable {κ ν : Type*} [DecidableEq κ] {key other : κ} {data : ν} {log more : List (κ × ν)}

def dataOf (key : κ) (log : List (κ × ν)) : List ν := (log.filter (·.1 = key)).map Prod.snd

theorem dataOf_append : dataOf key (log ++ more) = dataOf key log ++ dataOf key more := by
  unfold dataOf
  rw [List.filter_append, List.map_append]

theorem dataOf_nil : dataOf key ([] : List (κ × ν)) = [] := rfl

theorem dataOf_cons_self : dataOf key ((key, data) :: log) = data :: dataOf key log := by
  simp [dataOf]

theorem dataOf_cons_ne (ne : other ≠ key)
    : dataOf key ((other, data) :: log) = dataOf key log := by
  simp [dataOf, ne]

theorem dataOf_concat_self : dataOf key (log ++ [(key, data)]) = dataOf key log ++ [data] := by
  rw [dataOf_append, dataOf_cons_self, dataOf_nil]

theorem dataOf_concat_ne (ne : other ≠ key)
    : dataOf key (log ++ [(other, data)]) = dataOf key log := by
  rw [dataOf_append, dataOf_cons_ne ne, dataOf_nil, List.append_nil]

theorem mem_dataOf_iff : data ∈ dataOf key log ↔ (key, data) ∈ log := by
  simp [dataOf]

end Keys

end OctoHubs.Library
