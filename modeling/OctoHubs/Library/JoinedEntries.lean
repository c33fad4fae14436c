import OctoHubs.Library.Coalescing
import OctoHubs.Library.FieldRules

/-! Entries stored one after the other, each one joined with what its key already stores. -/

namespace OctoHubs.Library

variable {κ ν : Type*} [DecidableEq κ] {join : Option ν → ν → ν} {key : κ}

/-- Store the entries, each one joined with what its key already stores. -/
def joinEntries (join : Option ν → ν → ν) (dict : Dict κ ν) (entries : List (κ × ν))
    : Dict κ ν :=
  entries.foldl (fun joined entry => joined.set entry.1 (join (joined.get? entry.1) entry.2)) dict

def joinValues (join : Option ν → ν → ν) (stored : Option ν) (values : List ν) : Option ν :=
  values.foldl (fun stored value => some (join stored value)) stored

theorem get?_joinEntries (dict : Dict κ ν) (entries : List (κ × ν)) (key : κ)
    : (joinEntries join dict entries).get? key
      = joinValues join (dict.get? key) (dataOf key entries) := by
  induction entries generalizing dict with
  | nil => rfl
  | cons entry entries ih =>
      obtain ⟨other, value⟩ := entry
      rw [joinEntries, List.foldl_cons, ← joinEntries, ih]
      by_cases same : other = key
      · subst same
        rw [Dict.get?_set_self, dataOf_cons_self]
        rfl
      · rw [Dict.get?_set_ne _ _ (Ne.symm same), dataOf_cons_ne same]

theorem dataOf_perm {entries others : List (κ × ν)} (perm : entries.Perm others)
    : (dataOf key entries).Perm (dataOf key others) :=
  (perm.filter _).map _

theorem get?_joinEntries_perm
    (commutes : ∀ stored left right, join (some (join stored left)) right
      = join (some (join stored right)) left)
    {entries others : List (κ × ν)} (perm : entries.Perm others) (dict : Dict κ ν)
    : (joinEntries join dict entries).get? key = (joinEntries join dict others).get? key := by
  rw [get?_joinEntries, get?_joinEntries]
  refine (dataOf_perm perm).foldl_eq' ?_ _
  intro left _ right _ stored
  exact congrArg some (commutes stored left right)

/-- The items of a dictionary are stored as they are, where the first value of a key is kept as it
is.
-/
theorem joinEntries_items (first : ∀ value, join none value = value) (dict : Dict κ ν)
    : joinEntries join ∅ dict.items = dict := by
  have fresh (before after : List (κ × ν)) (whole : before ++ after = dict.items)
      : joinEntries join (Dict.ofItems before) after
        = after.foldl (fun dict item => dict.set item.1 item.2) (Dict.ofItems before) := by
    induction after generalizing before with
    | nil => rfl
    | cons item after ih =>
        have nodup := dict.nodup
        rw [← whole, List.map_append, List.map_cons] at nodup
        have new : item.1 ∉ before.map Prod.fst :=
          fun member => (List.nodup_append.mp nodup).2.2 _ member _ List.mem_cons_self rfl
        have absent : (Dict.ofItems before).get? item.1 = none := by
          by_contra stored
          obtain ⟨value, stored⟩ := Option.ne_none_iff_exists'.mp stored
          exact new (Dict.mem_keys_ofItems (Dict.mem_keys_iff.mpr ⟨value, stored⟩))
        have next : (Dict.ofItems before).set item.1 item.2 = Dict.ofItems (before ++ [item]) := by
          rw [Dict.ofItems, Dict.ofItems, List.foldl_append]
          rfl
        have rest := ih (before ++ [item]) (by simpa using whole)
        rw [joinEntries, List.foldl_cons, ← joinEntries, List.foldl_cons, absent, first, next]
        exact rest
  have whole := fresh [] dict.items rfl
  have items : Dict.ofItems ([] : List (κ × ν)) = ∅ := rfl
  rw [items] at whole
  exact whole.trans (Dict.ofItems_items dict)

end OctoHubs.Library
