import Mathlib.Data.List.Nodup
import Mathlib.Data.List.TakeDrop

/-! A list without its repetitions: of the items with one key the first is kept, up to a limit.
-/

namespace OctoHubs.Library

variable {α κ : Type*} [DecidableEq κ]

/-- Append the items whose key is new. Once a limit is reached the rest is left. -/
def appendNew (key : α → κ) (limit : Option Nat) : List α → List α → List α
  | kept, [] => kept
  | kept, item :: rest =>
      if key item ∈ kept.map key then appendNew key limit kept rest
      else if limit.any (· ≤ kept.length + 1) then kept ++ [item]
      else appendNew key limit (kept ++ [item]) rest

attribute [local simp] appendNew

variable {key : α → κ} {limit : Option Nat} {kept items : List α}

theorem prefix_appendNew : kept <+: appendNew key limit kept items := by
  induction items generalizing kept with
  | nil => exact List.prefix_rfl
  | cons item rest ih =>
      simp only [appendNew]
      split
      · exact ih
      · split
        · exact List.prefix_append kept [item]
        · exact (List.prefix_append kept [item]).trans ih

/-- Every item was given, by induction on the items. -/
theorem mem_or_mem_of_mem_appendNew {item : α} (member : item ∈ appendNew key limit kept items)
    : item ∈ kept ∨ item ∈ items := by
  induction items generalizing kept with
  | nil => exact .inl member
  | cons first rest ih =>
      simp only [appendNew] at member
      split at member
      · exact (ih member).imp_right (List.mem_cons_of_mem _)
      · split at member
        · rcases List.mem_append.mp member with old | new
          · exact .inl old
          · exact .inr (List.mem_singleton.mp new ▸ List.mem_cons_self)
        · rcases ih member with old | new
          · rcases List.mem_append.mp old with old | new
            · exact .inl old
            · exact .inr (List.mem_singleton.mp new ▸ List.mem_cons_self)
          · exact .inr (List.mem_cons_of_mem _ new)

/-- No two items have one key, by induction on the items. -/
theorem nodup_appendNew (distinct : (kept.map key).Nodup)
    : ((appendNew key limit kept items).map key).Nodup := by
  induction items generalizing kept with
  | nil => exact distinct
  | cons item rest ih =>
      simp only [appendNew]
      split
      · exact ih distinct
      · next fresh =>
          have extended : ((kept ++ [item]).map key).Nodup := by
            rw [List.map_append, List.nodup_append]
            refine ⟨distinct, List.nodup_singleton _, ?_⟩
            intro old member new single same
            have here : new = key item := by simpa using single
            exact fresh (here ▸ same ▸ member)
          split
          · exact extended
          · exact ih extended

theorem length_appendNew_le {most : Nat} (room : kept.length < most)
    : (appendNew key (some most) kept items).length ≤ most := by
  induction items generalizing kept with
  | nil => exact Nat.le_of_lt room
  | cons item rest ih =>
      simp only [appendNew, Option.any_some, decide_eq_true_eq]
      split
      · exact ih room
      · split
        · rw [List.length_append]
          exact room
        · next more =>
            apply ih
            rw [List.length_append]
            exact Nat.lt_of_not_le more

theorem exists_mem_appendNew {item : α} (member : item ∈ items)
    : ∃ other ∈ appendNew key none kept items, key other = key item := by
  induction items generalizing kept with
  | nil => cases member
  | cons first rest ih =>
      simp only [appendNew, Option.any_none, Bool.false_eq_true, if_false]
      rcases List.mem_cons.mp member with rfl | later
      · split
        · next old =>
            obtain ⟨other, found, same⟩ := List.mem_map.mp old
            exact ⟨other, prefix_appendNew.subset found, same⟩
        · exact ⟨item, prefix_appendNew.subset (by simp), rfl⟩
      · split
        · exact ih later
        · exact ih later

end OctoHubs.Library
