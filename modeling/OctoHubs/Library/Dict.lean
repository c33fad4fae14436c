import Mathlib.Data.List.Nodup
import Mathlib.Data.List.Perm.Basic

/-! Ordered dictionaries: one value per key, iterated in order of first insertion.
A write to a present key keeps its place; a write to a new key appends it.
-/

namespace OctoHubs.Library

section Items

variable {κ ν : Type*} [DecidableEq κ]

/-- The value stored under `key`, from the first item that carries it. -/
def lookupItems (key : κ) : List (κ × ν) → Option ν
  | [] => none
  | (found, value) :: rest => if found = key then some value else lookupItems key rest

/-- Replace the value of `key` in place, or append the item when `key` is new. -/
def writeItems (key : κ) (value : ν) : List (κ × ν) → List (κ × ν)
  | [] => [(key, value)]
  | (found, old) :: rest =>
      if found = key then (key, value) :: rest else (found, old) :: writeItems key value rest

attribute [local simp] lookupItems writeItems

theorem mem_writeItems_keys (key other : κ) (value : ν) (items : List (κ × ν))
    : other ∈ (writeItems key value items).map Prod.fst
      ↔ other = key ∨ other ∈ items.map Prod.fst := by
  induction items with
  | nil => simp [writeItems]
  | cons item rest ih =>
      obtain ⟨found, old⟩ := item
      by_cases same : found = key
      · simp [writeItems, same]
      · simp only [writeItems, if_neg same, List.map_cons, List.mem_cons, ih]
        exact or_left_comm

theorem writeItems_nodup (key : κ) (value : ν) (items : List (κ × ν))
    (unique : (items.map Prod.fst).Nodup)
    : ((writeItems key value items).map Prod.fst).Nodup := by
  induction items with
  | nil => simp [writeItems]
  | cons item rest ih =>
      obtain ⟨found, old⟩ := item
      simp only [List.map_cons, List.nodup_cons] at unique
      by_cases same : found = key
      · subst same
        simpa [writeItems] using unique
      · simp only [writeItems, if_neg same, List.map_cons, List.nodup_cons]
        refine ⟨?_, ih unique.2⟩
        rw [mem_writeItems_keys]
        exact fun present => present.elim same unique.1

theorem lookupItems_writeItems (key other : κ) (value : ν) (items : List (κ × ν))
    : lookupItems other (writeItems key value items)
      = if other = key then some value else lookupItems other items := by
  induction items with
  | nil => simp [writeItems, lookupItems, eq_comm]
  | cons item rest ih =>
      obtain ⟨found, old⟩ := item
      by_cases same : found = key
      · subst same
        by_cases hit : found = other
        · simp [writeItems, lookupItems, hit]
        · simp [writeItems, lookupItems, hit, Ne.symm hit]
      · by_cases hit : found = other
        · subst hit
          simp [writeItems, lookupItems, same]
        · simp [writeItems, lookupItems, same, hit, ih]

theorem lookupItems_filter_ne (key other : κ) (items : List (κ × ν))
    : lookupItems other (items.filter (fun item => item.1 ≠ key))
      = if other = key then none else lookupItems other items := by
  induction items with
  | nil => simp [lookupItems]
  | cons item rest ih =>
      obtain ⟨found, old⟩ := item
      by_cases same : found = key
      · subst same
        by_cases hit : found = other
        · simpa [lookupItems, hit] using ih
        · simpa [lookupItems, hit] using ih
      · by_cases hit : found = other
        · subst hit
          simp [lookupItems, same]
        · simpa [lookupItems, same, hit] using ih

theorem lookupItems_filter_not (removes : κ → Bool) (key : κ) (items : List (κ × ν))
    : lookupItems key (items.filter (fun item => !removes item.1))
      = if removes key then none else lookupItems key items := by
  induction items with
  | nil => simp [lookupItems]
  | cons item rest ih =>
      obtain ⟨found, old⟩ := item
      by_cases hit : found = key
      · subst hit
        by_cases removed : removes found = true
        · simp [removed, ih]
        · simp [lookupItems, removed]
      · by_cases removed : removes found = true
        · simp [lookupItems, removed, hit, ih]
        · simp [lookupItems, removed, hit, ih]

theorem lookupItems_map {μ : Type*} (change : κ → ν → μ) (key : κ) (items : List (κ × ν))
    : lookupItems key (items.map (fun item => (item.1, change item.1 item.2)))
      = (lookupItems key items).map (change key) := by
  induction items with
  | nil => rfl
  | cons item rest ih =>
      obtain ⟨found, value⟩ := item
      by_cases hit : found = key
      · simp [lookupItems, hit]
      · simpa [lookupItems, hit] using ih

theorem lookupItems_eq_some_iff {key : κ} {value : ν} {items : List (κ × ν)}
    (unique : (items.map Prod.fst).Nodup)
    : lookupItems key items = some value ↔ (key, value) ∈ items := by
  induction items with
  | nil => simp [lookupItems]
  | cons item rest ih =>
      obtain ⟨found, old⟩ := item
      simp only [List.map_cons, List.nodup_cons] at unique
      by_cases hit : found = key
      · subst hit
        simp only [lookupItems, if_true, Option.some.injEq, List.mem_cons, Prod.mk.injEq,
          true_and]
        constructor
        · exact fun same => Or.inl same.symm
        · rintro (same | later)
          · exact same.symm
          · exact (unique.1 (List.mem_map.mpr ⟨_, later, rfl⟩)).elim
      · simp only [lookupItems, if_neg hit, ih unique.2, List.mem_cons, Prod.mk.injEq]
        simp [Ne.symm hit]

theorem writeItems_of_lookup {key : κ} {value : ν} {items : List (κ × ν)}
    (stored : lookupItems key items = some value)
    : writeItems key value items = items := by
  induction items with
  | nil => cases stored
  | cons item rest ih =>
      obtain ⟨found, first⟩ := item
      by_cases same : found = key
      · subst same
        simp only [lookupItems, if_true, Option.some.injEq] at stored
        simp only [writeItems, if_true, stored]
      · simp only [lookupItems, if_neg same] at stored
        rw [writeItems, if_neg same, ih stored]

theorem countP_writeItems_le (counts : κ × ν → Bool) (key : κ) (value : ν)
    (items : List (κ × ν))
    : (writeItems key value items).countP counts
      ≤ items.countP counts + if counts (key, value) then 1 else 0 := by
  induction items with
  | nil => simp [writeItems, List.countP_cons]
  | cons item rest ih =>
      obtain ⟨found, old⟩ := item
      by_cases same : found = key
      · simp only [writeItems, if_pos same, List.countP_cons]
        omega
      · simp only [writeItems, if_neg same, List.countP_cons]
        omega

/-- A write over a stored item takes the old one out of a count, by item induction. -/
theorem countP_writeItems_of_lookup {key : κ} {old : ν} {items : List (κ × ν)}
    (counts : κ × ν → Bool) (value : ν) (stored : lookupItems key items = some old)
    : (writeItems key value items).countP counts + (if counts (key, old) then 1 else 0)
      = items.countP counts + if counts (key, value) then 1 else 0 := by
  induction items with
  | nil => cases stored
  | cons item rest ih =>
      obtain ⟨found, first⟩ := item
      by_cases same : found = key
      · subst same
        simp only [lookupItems, if_true, Option.some.injEq] at stored
        subst stored
        simp only [writeItems, if_true, List.countP_cons]
        omega
      · simp only [lookupItems, if_neg same] at stored
        have rest_count := ih stored
        simp only [writeItems, if_neg same, List.countP_cons]
        omega

end Items

/-- An ordered dictionary; its keys are pairwise different by construction. -/
structure Dict (κ ν : Type*) where
  items : List (κ × ν)
  nodup : (items.map Prod.fst).Nodup

namespace Dict

variable {κ ν : Type*}

instance [DecidableEq κ] [DecidableEq ν] : DecidableEq (Dict κ ν) :=
  fun left right =>
    decidable_of_iff (left.items = right.items)
      ⟨fun same => by cases left; cases right; cases same; rfl, fun same => same ▸ rfl⟩

/-- The dictionary without keys. -/
def empty : Dict κ ν := ⟨[], List.nodup_nil⟩

instance : EmptyCollection (Dict κ ν) := ⟨empty⟩

instance : Inhabited (Dict κ ν) := ⟨empty⟩

/-- The keys in iteration order. -/
def keys (dict : Dict κ ν) : List κ := dict.items.map Prod.fst

/-- The values in iteration order. -/
def values (dict : Dict κ ν) : List ν := dict.items.map Prod.snd

variable [DecidableEq κ]

/-- The value under a key, if the key is present. -/
def get? (dict : Dict κ ν) (key : κ) : Option ν := lookupItems key dict.items

/-- Store a value under a key. -/
def set (dict : Dict κ ν) (key : κ) (value : ν) : Dict κ ν :=
  ⟨writeItems key value dict.items, writeItems_nodup key value dict.items dict.nodup⟩

/-- Remove a key, if it is present. -/
def erase (dict : Dict κ ν) (key : κ) : Dict κ ν :=
  ⟨dict.items.filter (fun item => item.1 ≠ key),
    dict.nodup.sublist ((List.filter_sublist).map Prod.fst)⟩

/-- Remove all matching keys at once. -/
def eraseWhere (dict : Dict κ ν) (removes : κ → Bool) : Dict κ ν :=
  ⟨dict.items.filter (fun item => !removes item.1),
    dict.nodup.sublist ((List.filter_sublist).map Prod.fst)⟩

/-- Keep the items that match. -/
def filter (dict : Dict κ ν) (keeps : κ → ν → Bool) : Dict κ ν :=
  ⟨dict.items.filter (fun item => keeps item.1 item.2),
    dict.nodup.sublist ((List.filter_sublist).map Prod.fst)⟩

/-- Change all values in place. -/
def map {μ : Type*} (dict : Dict κ ν) (change : κ → ν → μ) : Dict κ μ :=
  ⟨dict.items.map (fun item => (item.1, change item.1 item.2)),
    by simpa [List.map_map, Function.comp_def] using dict.nodup⟩

/-- Store a value under a key that is not present. -/
def setDefault (dict : Dict κ ν) (key : κ) (value : ν) : Dict κ ν :=
  if (dict.get? key).isSome then dict else dict.set key value

/-- Store every item of `other`, in its order, over `dict`. -/
def update (dict other : Dict κ ν) : Dict κ ν :=
  other.items.foldl (fun merged item => merged.set item.1 item.2) dict

@[simp] theorem get?_empty (key : κ) : (∅ : Dict κ ν).get? key = none := rfl

theorem get?_set (dict : Dict κ ν) (key other : κ) (value : ν)
    : (dict.set key value).get? other = if other = key then some value else dict.get? other :=
  lookupItems_writeItems key other value dict.items

@[simp] theorem get?_set_self (dict : Dict κ ν) (key : κ) (value : ν)
    : (dict.set key value).get? key = some value := by
  simp [get?_set]

@[simp] theorem get?_set_ne (dict : Dict κ ν) {key other : κ} (value : ν) (ne : other ≠ key)
    : (dict.set key value).get? other = dict.get? other := by
  simp [get?_set, ne]

theorem set_of_get? {dict : Dict κ ν} {key : κ} {value : ν}
    (stored : dict.get? key = some value)
    : dict.set key value = dict := by
  obtain ⟨items, unique⟩ := dict
  simp only [set, Dict.mk.injEq]
  exact writeItems_of_lookup stored

theorem get?_erase (dict : Dict κ ν) (key other : κ)
    : (dict.erase key).get? other = if other = key then none else dict.get? other :=
  lookupItems_filter_ne key other dict.items

@[simp] theorem get?_erase_self (dict : Dict κ ν) (key : κ)
    : (dict.erase key).get? key = none := by
  simp [get?_erase]

@[simp] theorem get?_erase_ne (dict : Dict κ ν) {key other : κ} (ne : other ≠ key)
    : (dict.erase key).get? other = dict.get? other := by
  simp [get?_erase, ne]

theorem get?_foldl_erase (keys : List κ) (dict : Dict κ ν) (key : κ)
    : (keys.foldl erase dict).get? key = if key ∈ keys then none else dict.get? key := by
  induction keys generalizing dict with
  | nil => simp
  | cons first rest ih =>
      rw [List.foldl_cons, ih, get?_erase]
      by_cases later : key ∈ rest
      · simp [later]
      · by_cases same : key = first <;> simp [later, same]

theorem get?_eraseWhere (dict : Dict κ ν) (removes : κ → Bool) (key : κ)
    : (dict.eraseWhere removes).get? key = if removes key then none else dict.get? key :=
  lookupItems_filter_not removes key dict.items

theorem get?_map {μ : Type*} (dict : Dict κ ν) (change : κ → ν → μ) (key : κ)
    : (dict.map change).get? key = (dict.get? key).map (change key) :=
  lookupItems_map change key dict.items

theorem mem_items_iff {dict : Dict κ ν} {key : κ} {value : ν}
    : (key, value) ∈ dict.items ↔ dict.get? key = some value :=
  (lookupItems_eq_some_iff dict.nodup).symm

theorem get?_filter (dict : Dict κ ν) (keeps : κ → ν → Bool) (key : κ)
    : (dict.filter keeps).get? key = (dict.get? key).filter (keeps key) := by
  ext value
  rw [Option.filter_eq_some_iff, ← mem_items_iff, ← mem_items_iff]
  exact List.mem_filter

theorem mem_keys_iff {dict : Dict κ ν} {key : κ}
    : key ∈ dict.keys ↔ ∃ value, dict.get? key = some value := by
  simp only [keys, List.mem_map, Prod.exists, exists_and_right, exists_eq_right, mem_items_iff]

theorem mem_keys_iff_isSome {dict : Dict κ ν} {key : κ}
    : key ∈ dict.keys ↔ (dict.get? key).isSome = true := by
  rw [mem_keys_iff, Option.isSome_iff_exists]

theorem mem_values_iff {dict : Dict κ ν} {value : ν}
    : value ∈ dict.values ↔ ∃ key, dict.get? key = some value := by
  simp only [values, List.mem_map, Prod.exists, exists_eq_right, mem_items_iff]

end Dict

end OctoHubs.Library
