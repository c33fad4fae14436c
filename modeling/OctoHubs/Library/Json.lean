import Mathlib.Data.List.OfFn
import Mathlib.Data.Rat.Defs
import OctoHubs.Library.Merging

/-! Documents of nested dictionaries and lists. The keys of a dictionary are ordered and
pairwise different by construction.
-/

namespace OctoHubs.Library

/-- A document; a decimal number also carries the text that shows it. -/
inductive Json
  | null
  | bool (value : Bool)
  | int (value : Int)
  | float (value : Rat) (shown : String)
  | text (value : String)
  | list (length : Nat) (values : Fin length → Json)
  | object (keys : List String) (unique : keys.Nodup) (values : Fin keys.length → Json)

abbrev Document := Dict String Json

namespace Json

/-- The fields, if the value is a dictionary. -/
def asDict? : Json → Option Document
  | object keys unique values =>
      some
        ⟨List.ofFn (fun index => (keys.get index, values index)), by
          rw [List.map_ofFn]
          exact (List.ofFn_get keys).symm ▸ unique⟩
  | _ => none

/-- The dictionary with the fields. -/
def ofDict (fields : Document) : Json :=
  object fields.keys fields.nodup (fun index =>
    (fields.items.get (index.cast (List.length_map Prod.fst))).2)

def ofList (items : List Json) : Json := list items.length items.get

def asList? : Json → Option (List Json)
  | list _ values => some (List.ofFn values)
  | _ => none

def isDict (value : Json) : Bool := value.asDict?.isSome

/-- What counts as true: neither nothing nor zero nor empty. -/
def truthy : Json → Bool
  | null => false
  | bool value => value
  | int value => value ≠ 0
  | float value _ => value ≠ 0
  | text value => value ≠ ""
  | list length _ => length ≠ 0
  | object keys _ _ => keys ≠ []

theorem object_congr {keys keys' : List String} {unique : keys.Nodup} {unique' : keys'.Nodup}
    {values : Fin keys.length → Json} {values' : Fin keys'.length → Json} (same : keys = keys')
    (agree : ∀ index, values index = values' (index.cast (congrArg List.length same)))
    : object keys unique values = object keys' unique' values' := by
  subst same
  have values_eq : values = values' := funext agree
  rw [values_eq]

@[simp] theorem asDict?_ofDict (fields : Document) : (ofDict fields).asDict? = some fields := by
  obtain ⟨items, unique⟩ := fields
  simp only [ofDict, asDict?, Option.some.injEq, Dict.mk.injEq]
  apply List.ext_getElem
  · simp [Dict.keys]
  · intro index left right
    simp [Dict.keys]

theorem ofDict_of_asDict? {value : Json} {fields : Document}
    (shape : value.asDict? = some fields)
    : ofDict fields = value := by
  cases value with
  | object keys unique values =>
      cases shape
      have same
          : (List.ofFn (fun index => (keys.get index, values index))).map Prod.fst = keys := by
        rw [List.map_ofFn]
        exact List.ofFn_get keys
      apply object_congr same
      intro index
      simp only [List.get_eq_getElem, List.getElem_ofFn]
      rfl
  | _ => cases shape

@[simp] theorem isDict_ofDict (fields : Document) : (ofDict fields).isDict = true := by
  rw [isDict, asDict?_ofDict]
  rfl

/-- All keys of the dictionaries at every depth are allowed. -/
def EveryKey (allowed : String → Prop) : Json → Prop
  | list _ values => ∀ index, (values index).EveryKey allowed
  | object keys _ values =>
      ∀ index, allowed (keys.get index) ∧ (values index).EveryKey allowed
  | _ => True

theorem everyKey_ofList {allowed : String → Prop} {items : List Json}
    (each : ∀ item ∈ items, item.EveryKey allowed)
    : (ofList items).EveryKey allowed :=
  fun index => each _ (List.get_mem items index)

theorem everyKey_ofDict {allowed : String → Prop} {fields : Document}
    (each
      : ∀ key value,
          fields.get? key = some value → allowed key ∧ value.EveryKey allowed)
    : (ofDict fields).EveryKey allowed := by
  intro index
  have bound : index.val < fields.items.length := by
    simpa only [Dict.keys, List.length_map] using index.isLt
  have member : fields.items[index.val] ∈ fields.items := List.getElem_mem bound
  have found := each _ _ (Dict.mem_items_iff.mp member)
  refine ⟨?_, found.2⟩
  have key : fields.keys.get index = fields.items[index.val].1 := List.getElem_map Prod.fst
  rw [key]
  exact found.1

/-- All fields of the dictionaries at every depth are allowed. -/
def EveryField (allowed : String → Json → Prop) : Json → Prop
  | list _ values => ∀ index, (values index).EveryField allowed
  | object keys _ values =>
      ∀ index, allowed (keys.get index) (values index) ∧ (values index).EveryField allowed
  | _ => True

theorem everyField_ofDict {allowed : String → Json → Prop} {fields : Document}
    (each
      : ∀ key value,
          fields.get? key = some value → allowed key value ∧ value.EveryField allowed)
    : (ofDict fields).EveryField allowed := by
  intro index
  have bound : index.val < fields.items.length := by
    simpa only [Dict.keys, List.length_map] using index.isLt
  have member : fields.items[index.val] ∈ fields.items := List.getElem_mem bound
  have key : fields.keys.get index = fields.items[index.val].1 := List.getElem_map Prod.fst
  rw [key]
  exact each _ _ (Dict.mem_items_iff.mp member)

/-- The number of nested levels. -/
def depth : Json → Nat
  | list _ values => (List.ofFn (fun index => (values index).depth)).foldr max 0 + 1
  | object _ _ values => (List.ofFn (fun index => (values index).depth)).foldr max 0 + 1
  | _ => 0

theorem le_foldr_max {depths : List Nat} {depth : Nat} (member : depth ∈ depths)
    : depth ≤ depths.foldr max 0 := by
  induction depths with
  | nil => cases member
  | cons first rest ih =>
      rw [List.foldr_cons]
      obtain rfl | later := List.mem_cons.mp member
      · exact Nat.le_max_left _ _
      · exact (ih later).trans (Nat.le_max_right _ _)

theorem depth_lt_of_get? {value field : Json} {fields : Document} {key : String}
    (shape : value.asDict? = some fields) (found : fields.get? key = some field)
    : field.depth < value.depth := by
  cases value with
  | object keys unique values =>
      cases shape
      have member := Dict.mem_items_iff.mpr found
      obtain ⟨index, same⟩ := List.mem_ofFn.mp member
      cases same
      apply Nat.lt_succ_of_le
      apply le_foldr_max
      exact List.mem_ofFn.mpr ⟨index, rfl⟩
  | _ => cases shape

end Json

namespace Document

variable (fields : Document)

/-- The value of a field, or nothing. -/
def field (key : String) : Json := (fields.get? key).getD .null

/-- The dictionary under a key, if there is one. -/
def dictAt? (key : String) : Option Document := (fields.get? key).bind Json.asDict?

/-- The dictionary under a key, or an empty one. -/
def dictAt (key : String) : Document := (dictAt? fields key).getD ∅

/-- Write a dictionary under a key. -/
def setDict (key : String) (value : Document) : Document := fields.set key (.ofDict value)

variable {fields}

@[simp] theorem dictAt?_set (key other : String) (value : Json)
    : dictAt? (fields.set key value) other
      = if other = key then value.asDict? else dictAt? fields other := by
  rw [dictAt?, Dict.get?_set]
  split
  · rfl
  · rfl

@[simp] theorem dictAt?_setDict (key other : String) (value : Document)
    : dictAt? (setDict fields key value) other
      = if other = key then some value else dictAt? fields other := by
  rw [setDict, dictAt?_set, Json.asDict?_ofDict]

@[simp] theorem field_set (key other : String) (value : Json)
    : field (fields.set key value) other = if other = key then value else field fields other := by
  rw [field, Dict.get?_set]
  split
  · rfl
  · rfl

end Document

end OctoHubs.Library
