import Mathlib.Data.List.Induction
import OctoHubs.Library.Dict

/-! Grouping a list by a key, lists that list the first members of groups, and choices. -/

namespace OctoHubs.Library

variable {α κ : Type*} [DecidableEq κ]

/-- The items of each key, in their order. -/
def groupBy (key : α → κ) (items : List α) : Dict κ (List α) :=
  items.foldl (fun groups item =>
    groups.set (key item) ((groups.get? (key item)).getD [] ++ [item])) ∅

theorem groupBy_append_singleton (key : α → κ) (items : List α) (item : α)
    : groupBy key (items ++ [item])
      = (groupBy key items).set (key item)
          (((groupBy key items).get? (key item)).getD [] ++ [item]) := by
  unfold groupBy
  rw [List.foldl_append]
  rfl

theorem getD_groupBy (key : α → κ) (items : List α) (wanted : κ)
    : ((groupBy key items).get? wanted).getD [] = items.filter (key · = wanted) := by
  induction items using List.reverseRecOn with
  | nil => rfl
  | append_singleton items item ih =>
      rw [groupBy_append_singleton, Dict.get?_set, List.filter_append]
      split
      · next same =>
          rw [← same, ih, List.filter_singleton, decide_eq_true same.symm]
          rfl
      · next differs =>
          rw [ih, List.filter_singleton, decide_eq_false (fun same => differs same.symm)]
          exact (List.append_nil _).symm

theorem isSome_groupBy (key : α → κ) (items : List α) (wanted : κ)
    : ((groupBy key items).get? wanted).isSome = true ↔ ∃ item ∈ items, key item = wanted := by
  induction items using List.reverseRecOn with
  | nil => simp [groupBy]
  | append_singleton items item ih =>
      rw [groupBy_append_singleton, Dict.get?_set]
      simp only [List.mem_append, List.mem_singleton, or_and_right, exists_or, exists_eq_left]
      split
      · next same => simp [same]
      · next differs =>
          rw [ih]
          exact ⟨.inl, fun found => found.resolve_right (fun same => differs same.symm)⟩

theorem mem_values_groupBy {key : α → κ} {items group : List α}
    : group ∈ (groupBy key items).values
      ↔ ∃ item ∈ items, group = items.filter (key · = key item) := by
  rw [Dict.mem_values_iff]
  constructor
  · rintro ⟨wanted, found⟩
    have stored := getD_groupBy key items wanted
    obtain ⟨item, member, rfl⟩ := (isSome_groupBy key items wanted).mp (by rw [found]; rfl)
    rw [found] at stored
    exact ⟨item, member, stored⟩
  · rintro ⟨item, member, rfl⟩
    obtain ⟨group, found⟩ :=
      Option.isSome_iff_exists.mp ((isSome_groupBy key items (key item)).mpr ⟨item, member, rfl⟩)
    have stored := getD_groupBy key items (key item)
    rw [found] at stored
    refine ⟨key item, ?_⟩
    rw [found, ← stored]
    rfl

theorem mem_items_groupBy {key : α → κ} {items group : List α} {wanted : κ}
    (stored : (wanted, group) ∈ (groupBy key items).items)
    : (∃ item ∈ items, key item = wanted) ∧ group = items.filter (key · = wanted) := by
  have found := Dict.mem_items_iff.mp stored
  have listed := getD_groupBy key items wanted
  rw [found] at listed
  exact ⟨(isSome_groupBy key items wanted).mp (by rw [found]; rfl), listed⟩

theorem countP_groupBy (key : α → κ) {items : List α} {item : α} (member : item ∈ items)
    : (groupBy key items).items.countP (fun group => group.1 = key item) = 1 := by
  have listed : key item ∈ (groupBy key items).keys := by
    rw [Dict.mem_keys_iff_isSome]
    exact (isSome_groupBy key items (key item)).mpr ⟨item, member, rfl⟩
  calc (groupBy key items).items.countP (fun group => group.1 = key item)
    _ = ((groupBy key items).items.map Prod.fst).count (key item) := by
        rw [List.count, List.countP_map]
        refine List.countP_congr fun group _ => ?_
        simp
    _ = 1 := List.count_eq_one_of_mem (groupBy key items).nodup listed

theorem perm_filter_iff {left right : α → Bool} {items : List α}
    : (items.filter left).Perm (items.filter right) ↔ ∀ item ∈ items, left item = right item := by
  constructor
  · intro same item member
    have selected := same.mem_iff (a := item)
    rw [List.mem_filter, List.mem_filter] at selected
    have alike : left item = true ↔ right item = true := by simpa [member] using selected
    exact Bool.eq_iff_iff.mpr alike
  · intro alike
    rw [List.filter_congr alike]

theorem groupBy_values_nodup (key : α → κ) (items : List α)
    : (groupBy key items).values.Nodup := by
  unfold Dict.values
  refine List.Nodup.map_on ?_ (List.Nodup.of_map _ (groupBy key items).nodup)
  rintro ⟨left, group⟩ inLeft ⟨right, other⟩ inRight same
  cases same
  have leftFound := Dict.mem_items_iff.mp inLeft
  have rightFound := Dict.mem_items_iff.mp inRight
  -- one group has the items of both keys
  obtain ⟨item, member, rfl⟩ :=
    (isSome_groupBy key items left).mp (by rw [leftFound]; rfl)
  have leftItems := getD_groupBy key items (key item)
  have rightItems := getD_groupBy key items right
  rw [leftFound] at leftItems
  rw [rightFound] at rightItems
  have listed : item ∈ items.filter (key · = key item) :=
    List.mem_filter.mpr ⟨member, decide_eq_true rfl⟩
  rw [← leftItems] at listed
  change item ∈ group at listed
  change group = _ at rightItems
  rw [rightItems, List.mem_filter, decide_eq_true_eq] at listed
  rw [listed.2]

theorem exists_of_mem_right {β : Type*} {relation : α → β → Prop} {left : List α}
    {right : List β} (related : List.Forall₂ relation left right) {value : β}
    (member : value ∈ right)
    : ∃ item ∈ left, relation item value := by
  induction related with
  | nil => cases member
  | @cons item first rest others holds _ ih =>
      rcases List.mem_cons.mp member with rfl | later
      · exact ⟨item, List.mem_cons_self, holds⟩
      · obtain ⟨found, inRest, related⟩ := ih later
        exact ⟨found, List.mem_cons_of_mem _ inRest, related⟩

theorem foldl_choose_mem (choose : α → α → α)
    (chooses : ∀ left right, choose left right = left ∨ choose left right = right) (first : α)
    (rest : List α)
    : rest.foldl choose first ∈ first :: rest := by
  induction rest generalizing first with
  | nil => exact List.mem_cons_self
  | cons second rest ih =>
      rw [List.foldl_cons]
      obtain here | there := List.mem_cons.mp (ih (choose first second))
      · rw [here]
        obtain same | same := chooses first second
        · rw [same]
          exact List.mem_cons_self
        · rw [same]
          exact List.mem_cons_of_mem _ List.mem_cons_self
      · exact List.mem_cons_of_mem _ (List.mem_cons_of_mem _ there)

theorem forall₂_filterMap {β γ : Type*} {relation : β → γ → Prop} {first : α → Option β}
    {second : α → Option γ} {items : List α}
    (related
      : ∀ item ∈ items,
          ∃ left right,
            first item = some left ∧ second item = some right ∧ relation left right)
    : List.Forall₂ relation (items.filterMap first) (items.filterMap second) := by
  induction items with
  | nil => exact .nil
  | cons item items ih =>
      obtain ⟨left, right, leftFound, rightFound, holds⟩ := related item List.mem_cons_self
      rw [List.filterMap_cons_some leftFound, List.filterMap_cons_some rightFound]
      exact .cons holds (ih (fun later member => related later (List.mem_cons_of_mem _ member)))

end OctoHubs.Library
