import OctoHubs.Library.Dict

/-! Dictionaries rewritten field by field: a rule changes a value or drops its field. Rules that
leave alone what they gave settle a dictionary at once.
-/

namespace OctoHubs.Library.Dict

variable {κ ν μ : Type*}

/-- Apply a rule to every field; where it gives nothing the field is dropped. -/
def rewrite (dict : Dict κ ν) (rule : κ → ν → Option μ) : Dict κ μ :=
  ⟨dict.items.filterMap (fun item => (rule item.1 item.2).map (fun value => (item.1, value))), by
    have kept
        : (dict.items.filterMap
            (fun item => (rule item.1 item.2).map (fun value => (item.1, value)))).map Prod.fst
          = (dict.items.filter (fun item => (rule item.1 item.2).isSome)).map Prod.fst := by
      induction dict.items with
      | nil => rfl
      | cons item rest ih =>
          cases given : rule item.1 item.2 <;> simp [given, ih]
    rw [kept]
    exact dict.nodup.sublist (List.filter_sublist.map Prod.fst)⟩

def ofItems [DecidableEq κ] (items : List (κ × ν)) : Dict κ ν :=
  items.foldl (fun dict item => dict.set item.1 item.2) ∅

theorem ext_items {left right : Dict κ ν} (same : left.items = right.items) : left = right := by
  cases left
  cases right
  cases same
  rfl

section Lookups

variable [DecidableEq κ]

theorem get?_rewrite (dict : Dict κ ν) (rule : κ → ν → Option μ) (key : κ)
    : (dict.rewrite rule).get? key = (dict.get? key).bind (rule key) := by
  ext value
  rw [← mem_items_iff, Option.bind_eq_some_iff]
  simp only [rewrite, List.mem_filterMap, Option.map_eq_some_iff, Prod.mk.injEq, Prod.exists,
    exists_eq_right_right, mem_items_iff]
  constructor
  · rintro ⟨other, old, found, given, rfl⟩
    exact ⟨old, found, given⟩
  · rintro ⟨old, found, given⟩
    exact ⟨key, old, found, given, rfl⟩

theorem writeItems_of_absent {key : κ} {value : ν} {items : List (κ × ν)}
    (absent : key ∉ items.map Prod.fst)
    : writeItems key value items = items ++ [(key, value)] := by
  induction items with
  | nil => rfl
  | cons item rest ih =>
      have ne : item.1 ≠ key := fun same => absent (by simp [same])
      have later : key ∉ rest.map Prod.fst := fun member => absent (by simp [member])
      simp [writeItems, ne, ih later]

theorem foldl_set_items {dict : Dict κ ν} {items : List (κ × ν)}
    (unique : ((dict.items ++ items).map Prod.fst).Nodup)
    : (items.foldl (fun dict item => dict.set item.1 item.2) dict).items = dict.items ++ items := by
  induction items generalizing dict with
  | nil => simp
  | cons item rest ih =>
      have absent : item.1 ∉ dict.items.map Prod.fst := by
        rw [List.map_append, List.nodup_append] at unique
        intro member
        exact unique.2.2 _ member _ (by simp) rfl
      have stored : (dict.set item.1 item.2).items = dict.items ++ [item] :=
        writeItems_of_absent absent
      rw [List.foldl_cons, ih (by simpa [stored] using unique), stored]
      simp

theorem ofItems_items (dict : Dict κ ν) : ofItems dict.items = dict := by
  apply ext_items
  exact @foldl_set_items κ ν _ ∅ dict.items dict.nodup

theorem get?_ofItems_iff {items : List (κ × ν)} (unique : (items.map Prod.fst).Nodup) {key : κ}
    {value : ν}
    : (ofItems items).get? key = some value ↔ (key, value) ∈ items := by
  have same : (ofItems items).items = items := @foldl_set_items κ ν _ ∅ items unique
  rw [← mem_items_iff, same]

/-- Every key of a dictionary is a key of the items it was stored from, by induction on what is
left of them. -/
theorem mem_keys_foldl_set {dict : Dict κ ν} {items : List (κ × ν)} {key : κ}
    (member : key ∈ (items.foldl (fun dict item => dict.set item.1 item.2) dict).keys)
    : key ∈ dict.keys ∨ key ∈ items.map Prod.fst := by
  induction items generalizing dict with
  | nil => exact .inl member
  | cons item rest ih =>
      rcases ih member with old | later
      · rcases (mem_writeItems_keys item.1 key item.2 dict.items).mp old with same | old
        · exact .inr (by simp [same])
        · exact .inl old
      · exact .inr (List.mem_cons_of_mem _ later)

theorem mem_keys_ofItems {items : List (κ × ν)} {key : κ} (member : key ∈ (ofItems items).keys)
    : key ∈ items.map Prod.fst := by
  rcases mem_keys_foldl_set member with nothing | listed
  · cases nothing
  · exact listed

section Overlay

variable {α : Type*} {keyOf : α → κ} {valueOf : α → Option ν}

/-- Store the values of fields, where they have one, over a dictionary. -/
def overlay (dict : Dict κ ν) (fields : List α) (keyOf : α → κ) (valueOf : α → Option ν)
    : Dict κ ν :=
  fields.foldl (fun out field => (valueOf field).elim out (out.set (keyOf field))) dict

theorem get?_overlay_of_absent {fields : List α} {dict : Dict κ ν} {key : κ}
    (absent : key ∉ fields.map keyOf)
    : (dict.overlay fields keyOf valueOf).get? key = dict.get? key := by
  induction fields generalizing dict with
  | nil => rfl
  | cons field rest ih =>
      have ne : key ≠ keyOf field := fun same => absent (by simp [same])
      have later : key ∉ rest.map keyOf := fun member => absent (List.mem_cons_of_mem _ member)
      rw [overlay, List.foldl_cons, ← overlay, ih later]
      cases valueOf field with
      | none => rfl
      | some value => exact get?_set_ne dict value ne

/-- Fields with different keys go over a dictionary, by induction on the fields. -/
theorem get?_overlay {fields : List α} {dict : Dict κ ν} {field : α}
    (unique : (fields.map keyOf).Nodup) (member : field ∈ fields)
    : (dict.overlay fields keyOf valueOf).get? (keyOf field)
      = (valueOf field).or (dict.get? (keyOf field)) := by
  induction fields generalizing dict with
  | nil => cases member
  | cons first rest ih =>
      obtain ⟨fresh, others⟩ := List.nodup_cons.mp unique
      rw [overlay, List.foldl_cons, ← overlay]
      rcases List.mem_cons.mp member with rfl | later
      · rw [get?_overlay_of_absent fresh]
        cases valueOf field with
        | none => rfl
        | some value => exact get?_set_self dict (keyOf field) value
      · have ne : keyOf field ≠ keyOf first := fun same =>
          fresh (same ▸ List.mem_map_of_mem later)
        rw [ih others later]
        cases valueOf first with
        | none => rfl
        | some value => rw [Option.elim_some, get?_set_ne dict value ne]

end Overlay

end Lookups

theorem rewrite_rewrite_of_settled {dict : Dict κ ν} {rule : κ → ν → Option ν}
    (settled
      : ∀ item ∈ dict.items, ∀ value, rule item.1 item.2 = some value →
          rule item.1 value = some value)
    : (dict.rewrite rule).rewrite rule = dict.rewrite rule := by
  apply ext_items
  simp only [rewrite]
  rw [List.filterMap_filterMap]
  apply List.filterMap_congr
  intro item member
  cases given : rule item.1 item.2 with
  | none => rfl
  | some value => simp [settled item member value given]

end OctoHubs.Library.Dict
