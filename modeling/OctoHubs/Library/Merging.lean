import Mathlib.Data.List.Induction
import OctoHubs.Library.Dict

/-! Merging what several parties say about the same keys.
Layers are overlaid, the last one winning; recorded operations must agree, the first
disagreement being a conflict; the agreed changes are applied to what the layers show.
-/

namespace OctoHubs.Library

section Overlay

variable {κ ν : Type*} [DecidableEq κ]

theorem lookupItems_eq_none {key : κ} {items : List (κ × ν)}
    (absent : key ∉ items.map Prod.fst)
    : lookupItems key items = none := by
  induction items with
  | nil => rfl
  | cons item rest ih =>
      obtain ⟨found, value⟩ := item
      simp only [List.map_cons, List.mem_cons, not_or] at absent
      rw [lookupItems, if_neg (Ne.symm absent.1)]
      exact ih absent.2

theorem Dict.get?_foldl_set (items : List (κ × ν)) (unique : (items.map Prod.fst).Nodup)
    (dict : Dict κ ν) (key : κ)
    : (items.foldl (fun merged item => merged.set item.1 item.2) dict).get? key
      = (lookupItems key items).or (dict.get? key) := by
  induction items generalizing dict with
  | nil => simp [lookupItems]
  | cons item rest ih =>
      obtain ⟨found, value⟩ := item
      simp only [List.map_cons, List.nodup_cons] at unique
      rw [List.foldl_cons, ih unique.2, lookupItems]
      by_cases same : found = key
      · subst same
        simp [lookupItems_eq_none unique.1]
      · simp [same, Ne.symm same]

theorem Dict.get?_update (dict other : Dict κ ν) (key : κ)
    : (dict.update other).get? key = (other.get? key).or (dict.get? key) :=
  Dict.get?_foldl_set other.items other.nodup dict key

/-- Store every item of `other`, joined with what its key already stores. -/
def Dict.joinWith (join : Option ν → ν → ν) (dict other : Dict κ ν) : Dict κ ν :=
  other.items.foldl
    (fun joined item => joined.set item.1 (join (joined.get? item.1) item.2)) dict

theorem get?_foldl_join (join : Option ν → ν → ν) (items : List (κ × ν))
    (unique : (items.map Prod.fst).Nodup) (dict : Dict κ ν) (key : κ)
    : (items.foldl (fun joined item => joined.set item.1 (join (joined.get? item.1) item.2))
          dict).get? key
      = ((lookupItems key items).map (join (dict.get? key))).or (dict.get? key) := by
  induction items generalizing dict with
  | nil => simp [lookupItems]
  | cons item rest ih =>
      obtain ⟨found, value⟩ := item
      simp only [List.map_cons, List.nodup_cons] at unique
      rw [List.foldl_cons, ih unique.2, lookupItems]
      by_cases same : found = key
      · subst same
        simp [lookupItems_eq_none unique.1]
      · simp [same, Ne.symm same]

theorem Dict.get?_joinWith (join : Option ν → ν → ν) (dict other : Dict κ ν) (key : κ)
    : (dict.joinWith join other).get? key
      = ((other.get? key).map (join (dict.get? key))).or (dict.get? key) :=
  get?_foldl_join join other.items other.nodup dict key

/-- A join that stores what is stored already changes nothing, by induction on the items. -/
theorem Dict.joinWith_eq_self {join : Option ν → ν → ν} {dict other : Dict κ ν}
    (fixed
      : ∀ {key : κ} {value : ν},
          other.get? key = some value
          → ∃ kept, dict.get? key = some kept ∧ join (some kept) value = kept)
    : dict.joinWith join other = dict := by
  have each
      : ∀ item ∈ other.items,
          dict.set item.1 (join (dict.get? item.1) item.2) = dict := by
    intro item member
    obtain ⟨kept, stored, same⟩ := fixed (Dict.mem_items_iff.mp member)
    rw [stored, same]
    exact Dict.set_of_get? stored
  unfold Dict.joinWith
  revert each
  generalize other.items = items
  intro each
  induction items with
  | nil => rfl
  | cons item rest ih =>
      rw [List.foldl_cons, each item List.mem_cons_self]
      exact ih (fun later member => each later (List.mem_cons_of_mem item member))

theorem Dict.update_eq_self {dict other : Dict κ ν}
    (stored
      : ∀ {key : κ} {value : ν}, other.get? key = some value → dict.get? key = some value)
    : dict.update other = dict := by
  have joined : dict.joinWith (fun _ value => value) other = dict :=
    Dict.joinWith_eq_self (fun found => ⟨_, stored found, rfl⟩)
  exact joined

def overlay (base : Dict κ ν) (layers : List (Dict κ ν)) : Dict κ ν :=
  layers.foldl Dict.update base

def lastValue (layers : List (Dict κ ν)) (key : κ) : Option ν :=
  layers.reverse.findSome? (fun layer => layer.get? key)

@[simp] theorem lastValue_concat (layers : List (Dict κ ν)) (last : Dict κ ν) (key : κ)
    : lastValue (layers ++ [last]) key = (last.get? key).or (lastValue layers key) := by
  unfold lastValue
  rw [List.reverse_concat, List.findSome?_cons]
  cases last.get? key <;> rfl

theorem exists_of_lastValue {layers : List (Dict κ ν)} {key : κ} {value : ν}
    (found : lastValue layers key = some value)
    : ∃ layer ∈ layers, layer.get? key = some value := by
  obtain ⟨layer, member, same⟩ := List.exists_of_findSome?_eq_some found
  exact ⟨layer, List.mem_reverse.mp member, same⟩

theorem lastValue_eq_none_iff {layers : List (Dict κ ν)} {key : κ}
    : lastValue layers key = none ↔ ∀ layer ∈ layers, layer.get? key = none := by
  simp [lastValue, List.findSome?_eq_none_iff]

theorem get?_overlay (base : Dict κ ν) (layers : List (Dict κ ν)) (key : κ)
    : (overlay base layers).get? key = (lastValue layers key).or (base.get? key) := by
  induction layers using List.reverseRecOn with
  | nil => rfl
  | append_singleton layers last ih =>
      unfold overlay at ih ⊢
      rw [List.foldl_append, List.foldl_cons, List.foldl_nil, Dict.get?_update, ih,
        lastValue_concat, Option.or_assoc]

end Overlay

section Record

variable {κ ω : Type*} [DecidableEq κ] [DecidableEq ω]

/-- Record the operation of a key. Another one recorded before is a conflict on the key. -/
def record (ops : Dict κ ω) (entry : κ × ω) : Except κ (Dict κ ω) :=
  match ops.get? entry.1 with
  | none => .ok (ops.set entry.1 entry.2)
  | some existing =>
      if existing ≠ entry.2 then .error entry.1 else .ok (ops.set entry.1 entry.2)

def recordAll (ops : Dict κ ω) (entries : List (κ × ω)) : Except κ (Dict κ ω) :=
  entries.foldlM record ops

/-- No key carries two different operations. -/
def Agree (entries : List (κ × ω)) : Prop :=
  ∀ key left right, (key, left) ∈ entries → (key, right) ∈ entries → left = right

theorem record_eq_ok_iff {ops next : Dict κ ω} {key : κ} {op : ω}
    : record ops (key, op) = .ok next
      ↔ (∀ existing, ops.get? key = some existing → existing = op)
        ∧ next = ops.set key op := by
  unfold record
  cases found : ops.get? key with
  | none => simp [eq_comm]
  | some existing =>
      by_cases same : existing = op
      · simp [same, eq_comm]
      · simp [same]

theorem recordAll_append (ops : Dict κ ω) (first second : List (κ × ω))
    : recordAll ops (first ++ second)
      = (recordAll ops first).bind (fun next => recordAll next second) :=
  List.foldlM_append

theorem recordAll_cons (ops : Dict κ ω) (entry : κ × ω) (entries : List (κ × ω))
    : recordAll ops (entry :: entries)
      = (record ops entry).bind (fun next => recordAll next entries) := rfl

/-- The recorded operations are the old ones and the entries, by entry induction. -/
theorem recordAll_get? {ops result : Dict κ ω} {entries : List (κ × ω)}
    (recorded : recordAll ops entries = .ok result) {key : κ} {op : ω}
    : result.get? key = some op ↔ ops.get? key = some op ∨ (key, op) ∈ entries := by
  induction entries generalizing ops with
  | nil =>
      cases recorded
      simp
  | cons entry rest ih =>
      obtain ⟨changed, change⟩ := entry
      rw [recordAll_cons] at recorded
      cases step : record ops (changed, change) with
      | error conflict =>
          rw [step] at recorded
          cases recorded
      | ok next =>
          rw [step] at recorded
          obtain ⟨agrees, rfl⟩ := record_eq_ok_iff.mp step
          rw [ih recorded, Dict.get?_set, List.mem_cons, Prod.mk.injEq]
          by_cases same : key = changed
          · subst same
            constructor
            · rintro (made | later)
              · exact .inr (.inl ⟨rfl, by simpa [eq_comm] using made⟩)
              · exact .inr (.inr later)
            · rintro (before | ⟨-, rfl⟩ | later)
              · exact .inl (by simp [agrees op before])
              · exact .inl (by simp)
              · exact .inr later
          · simp [same]

theorem Agree.of_recorded {ops result : Dict κ ω} {entries : List (κ × ω)}
    (recorded : recordAll ops entries = .ok result)
    : Agree entries := by
  intro key left right leftEntry rightEntry
  have leftKept := (recordAll_get? recorded).mpr (.inr leftEntry)
  have rightKept := (recordAll_get? recorded).mpr (.inr rightEntry)
  exact Option.some.inj (leftKept.symm.trans rightKept)

/-- Agreeing entries that fit the operations so far are recorded, by entry induction. -/
theorem Agree.recorded {ops : Dict κ ω} {entries : List (κ × ω)} (agree : Agree entries)
    (fits
      : ∀ key op existing,
          (key, op) ∈ entries → ops.get? key = some existing → existing = op)
    : ∃ result, recordAll ops entries = .ok result := by
  induction entries generalizing ops with
  | nil => exact ⟨ops, rfl⟩
  | cons entry rest ih =>
      obtain ⟨changed, change⟩ := entry
      have step : record ops (changed, change) = .ok (ops.set changed change) :=
        record_eq_ok_iff.mpr ⟨fun existing => fits changed change existing (by simp), rfl⟩
      rw [recordAll_cons, step]
      refine ih (fun key left right leftEntry rightEntry => ?_) (fun key op existing later => ?_)
      · exact agree key left right (List.mem_cons_of_mem _ leftEntry)
          (List.mem_cons_of_mem _ rightEntry)
      · rw [Dict.get?_set]
        intro stored
        split at stored
        · next same =>
            cases stored
            exact agree key change op (by simp [same]) (List.mem_cons_of_mem _ later)
        · exact fits key op existing (List.mem_cons_of_mem _ later) stored

theorem recordAll_ok_iff {entries : List (κ × ω)}
    : (∃ result, recordAll ∅ entries = .ok result) ↔ Agree entries := by
  constructor
  · rintro ⟨result, recorded⟩
    exact .of_recorded recorded
  · intro agree
    exact agree.recorded (by simp)

end Record

/-- What happens to the value of one key. -/
inductive Change (ν : Type*)
  | set (value : ν)
  | remove
deriving DecidableEq, Repr

namespace Change

variable {κ ν : Type*} [DecidableEq κ]

/-- The change from an old to a new value, if they differ. -/
def between [DecidableEq ν] : Option ν → Option ν → Option (Change ν)
  | old, some new => if old = some new then none else some (.set new)
  | some _, none => some .remove
  | none, none => none

theorem between_eq_remove_iff [DecidableEq ν] {old new : Option ν}
    : between old new = some .remove ↔ old.isSome = true ∧ new = none := by
  cases new with
  | none => cases old <;> simp [between]
  | some new => simp [between]

theorem between_eq_set_iff [DecidableEq ν] {old new : Option ν} {value : ν}
    : between old new = some (.set value) ↔ old ≠ some value ∧ new = some value := by
  cases new with
  | none => cases old <;> simp [between]
  | some new =>
      by_cases same : old = some new
      · simp only [between, same, if_true, reduceCtorEq, false_iff, ne_eq, Option.some.injEq]
        exact fun both => both.1 both.2
      · simp only [between, same, if_false, Option.some.injEq, set.injEq, ne_eq]
        constructor
        · rintro rfl
          exact ⟨same, rfl⟩
        · exact fun both => both.2

/-- The value after a change, of which there may be none. -/
def result : Option (Change ν) → Option ν → Option ν
  | none, old => old
  | some (.set value), _ => some value
  | some .remove, _ => none

def apply (dict : Dict κ ν) (key : κ) : Change ν → Dict κ ν
  | .set value => dict.set key value
  | .remove => dict.erase key

theorem get?_apply (dict : Dict κ ν) (key other : κ) (change : Change ν)
    : (apply dict key change).get? other
      = if other = key then result (some change) (dict.get? key) else dict.get? other := by
  cases change with
  | set value => exact Dict.get?_set dict key other value
  | remove => exact Dict.get?_erase dict key other

def applyAll (base : Dict κ ν) (changes : Dict κ (Change ν)) : Dict κ ν :=
  changes.items.foldl (fun dict item => apply dict item.1 item.2) base

theorem get?_applyAll (base : Dict κ ν) (changes : Dict κ (Change ν)) (key : κ)
    : (applyAll base changes).get? key = result (changes.get? key) (base.get? key) := by
  obtain ⟨items, unique⟩ := changes
  change (items.foldl (fun dict item => apply dict item.1 item.2) base).get? key
    = result (lookupItems key items) (base.get? key)
  induction items generalizing base with
  | nil => rfl
  | cons item rest ih =>
      obtain ⟨changed, change⟩ := item
      simp only [List.map_cons, List.nodup_cons] at unique
      rw [List.foldl_cons, ih _ unique.2, get?_apply, lookupItems]
      by_cases same : changed = key
      · subst same
        simp [lookupItems_eq_none unique.1, result]
      · simp [same, Ne.symm same]

end Change

section Visits

variable {κ ν α ε : Type*} [DecidableEq κ] {visit : Dict κ ν → α → Except ε (Dict κ ν)}

/-- Visits to different keys, each of which writes its own key only, leave at each key the
outcome of its visit, by induction on the items.
-/
theorem foldlM_visits (key : α → κ) (outcome : α → Option ν → Option ν → Prop) {items : List α}
    (distinct : (items.map key).Nodup)
    (visits
      : ∀ {before after item},
          item ∈ items
          → visit before item = .ok after
          → outcome item (before.get? (key item)) (after.get? (key item))
            ∧ ∀ other, other ≠ key item → after.get? other = before.get? other)
    {start finish : Dict κ ν} (done : items.foldlM visit start = .ok finish)
    : (∀ item ∈ items, outcome item (start.get? (key item)) (finish.get? (key item)))
      ∧ ∀ other, other ∉ items.map key → finish.get? other = start.get? other := by
  induction items generalizing start with
  | nil =>
      cases done
      exact ⟨fun item member => (List.not_mem_nil member).elim, fun other _ => rfl⟩
  | cons item items ih =>
      rw [List.foldlM_cons] at done
      rw [List.map_cons, List.nodup_cons] at distinct
      cases visited : visit start item with
      | error => rw [visited] at done; cases done
      | ok next =>
          rw [visited] at done
          obtain ⟨here, elsewhere⟩ := visits List.mem_cons_self visited
          obtain ⟨later, others⟩ :=
            ih distinct.2 (fun member => visits (List.mem_cons_of_mem _ member)) done
          constructor
          · intro found member
            rcases List.mem_cons.mp member with same | member
            · rw [same, others _ distinct.1]
              exact here
            · have apart : key found ≠ key item :=
                fun same => distinct.1 (same ▸ List.mem_map_of_mem member)
              rw [← elsewhere _ apart]
              exact later found member
          · intro other absent
            rw [List.map_cons, List.mem_cons, not_or] at absent
            rw [others other absent.2, elsewhere other absent.1]

theorem foldlM_visits_error (key : α → κ) (failure : α → Option ν → Prop) {items : List α}
    (distinct : (items.map key).Nodup)
    (fails
      : ∀ {before item error},
          item ∈ items
          → visit before item = .error error
          → failure item (before.get? (key item)))
    (elsewhere
      : ∀ {before after item},
          visit before item = .ok after
          → ∀ other, other ≠ key item → after.get? other = before.get? other)
    {start : Dict κ ν} {error : ε} (failed : items.foldlM visit start = .error error)
    : ∃ item ∈ items, failure item (start.get? (key item)) := by
  induction items generalizing start with
  | nil => cases failed
  | cons item items ih =>
      rw [List.foldlM_cons] at failed
      rw [List.map_cons, List.nodup_cons] at distinct
      cases visited : visit start item with
      | error => exact ⟨item, List.mem_cons_self, fails List.mem_cons_self visited⟩
      | ok next =>
          rw [visited] at failed
          obtain ⟨found, member, failure⟩ :=
            ih distinct.2 (fun member => fails (List.mem_cons_of_mem _ member)) failed
          have apart : key found ≠ key item :=
            fun same => distinct.1 (same ▸ List.mem_map_of_mem member)
          rw [elsewhere visited _ apart] at failure
          exact ⟨found, List.mem_cons_of_mem _ member, failure⟩

theorem foldlM_unchanged {σ : Type*} {visit : σ → α → Except ε σ} {items : List α} {state : σ}
    (unchanged : ∀ item ∈ items, visit state item = .ok state)
    : items.foldlM visit state = .ok state := by
  induction items with
  | nil => rfl
  | cons item items ih =>
      rw [List.foldlM_cons, unchanged item List.mem_cons_self]
      exact ih (fun other member => unchanged other (List.mem_cons_of_mem _ member))

end Visits

end OctoHubs.Library
