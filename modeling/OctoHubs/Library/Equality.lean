import Mathlib.Data.List.Perm.Subperm
import OctoHubs.Library.Json

/-! When two documents count as equal: numbers and truth values by what they are worth,
dictionaries whatever the order of their keys. Equal documents agree along all paths.
-/

namespace OctoHubs.Library

namespace Json

/-- What a number or a truth value is worth. -/
def number? : Json → Option Rat
  | bool value => some (if value then 1 else 0)
  | int value => some value
  | float value _ => some value
  | _ => none

def equals : Json → Json → Bool
  | list length values, other =>
      match other.asList? with
      | none => false
      | some items =>
          length = items.length
          && (List.finRange length).all (fun index =>
            items[index.val]?.any (fun item => (values index).equals item))
  | object keys _ values, other =>
      match other.asDict? with
      | none => false
      | some fields =>
          keys.length = fields.keys.length
          && (List.finRange keys.length).all (fun index =>
            (fields.get? (keys.get index)).any (fun field => (values index).equals field))
  | text value, other =>
      match other with
      | text shown => value = shown
      | _ => false
  | null, other =>
      match other with
      | null => true
      | _ => false
  | bool value, other => other.number? = (bool value).number?
  | int value, other => other.number? = (int value).number?
  | float value shown, other => other.number? = (float value shown).number?

attribute [local simp] equals

/-- The fields under a key are equal or both absent. -/
def sameField : Option Json → Option Json → Bool
  | none, none => true
  | some left, some right => left.equals right
  | _, _ => false

@[simp] theorem sameField_some (left right : Json)
    : sameField (some left) (some right) = left.equals right :=
  rfl

theorem sameField_some_left {left : Json} {right : Option Json}
    : sameField (some left) right = right.any (left.equals ·) := by
  cases right <;> rfl

theorem isSome_of_sameField {left right : Option Json} (same : sameField left right = true)
    : left.isSome = right.isSome := by
  cases left <;> cases right <;> first | rfl | cases same

-- Lists and dictionaries

theorem get?_of_asDict? {keys : List String} {unique : keys.Nodup}
    {values : Fin keys.length → Json} {fields : Document}
    (shape : (object keys unique values).asDict? = some fields) {key : String} {value : Json}
    : fields.get? key = some value ↔ ∃ index, keys.get index = key ∧ values index = value := by
  cases shape
  rw [← Dict.mem_items_iff]
  constructor
  · intro member
    obtain ⟨index, same⟩ := List.mem_ofFn.mp member
    cases same
    exact ⟨index, rfl, rfl⟩
  · intro ⟨index, atKey, same⟩
    subst atKey same
    exact List.mem_ofFn.mpr ⟨index, rfl⟩

theorem keys_of_asDict? {keys : List String} {unique : keys.Nodup}
    {values : Fin keys.length → Json} {fields : Document}
    (shape : (object keys unique values).asDict? = some fields)
    : fields.keys = keys := by
  cases shape
  rw [Dict.keys, List.map_ofFn]
  exact List.ofFn_get keys

/-- Dictionaries are equal when their fields are. The keys of the one are among those of the
other, and there are no more of them.
-/
theorem equals_iff_of_asDict? {value other : Json} {left : Document}
    (shape : value.asDict? = some left)
    : value.equals other = true
      ↔ ∃ right,
          other.asDict? = some right
          ∧ ∀ key, sameField (left.get? key) (right.get? key) = true := by
  cases value with
  | object keys unique values =>
      have found {key : String} {field : Json}
          : left.get? key = some field ↔ ∃ index, keys.get index = key ∧ values index = field :=
        get?_of_asDict? shape
      have leftKeys := keys_of_asDict? shape
      rw [equals]
      cases fields : other.asDict? with
      | none => simp
      | some right =>
          simp only [Bool.and_eq_true, decide_eq_true_eq, List.all_eq_true, List.mem_finRange,
            true_implies, Option.some.injEq, exists_eq_left']
          constructor
          · intro holds key
            obtain ⟨size, each⟩ := holds
            have covers : keys ⊆ right.keys := by
              intro key member
              obtain ⟨index, rfl⟩ := List.mem_iff_get.mp member
              obtain ⟨field, present, -⟩ := Option.any_eq_true _ _ |>.mp (each index)
              exact Dict.mem_keys_iff.mpr ⟨field, present⟩
            have permuted : keys.Perm right.keys :=
              (unique.subperm covers).perm_of_length_le (Nat.le_of_eq size.symm)
            cases present : left.get? key with
            | some field =>
                obtain ⟨index, rfl, rfl⟩ := found.mp present
                rw [sameField_some_left]
                exact each index
            | none =>
                have absent : key ∉ right.keys := by
                  intro member
                  have listed : key ∈ left.keys := leftKeys ▸ permuted.mem_iff.mpr member
                  obtain ⟨field, found⟩ := Dict.mem_keys_iff.mp listed
                  rw [present] at found
                  cases found
                cases other : right.get? key with
                | none => rfl
                | some field => exact absurd (Dict.mem_keys_iff.mpr ⟨field, other⟩) absent
          · intro each
            constructor
            · apply List.Perm.length_eq
              rw [← leftKeys]
              apply (List.perm_ext_iff_of_nodup left.nodup right.nodup).mpr
              intro key
              have same := isSome_of_sameField (each key)
              change key ∈ left.keys ↔ key ∈ right.keys
              rw [Dict.mem_keys_iff_isSome, Dict.mem_keys_iff_isSome, same]
            · intro index
              rw [← sameField_some_left, ← found.mpr ⟨index, rfl, rfl⟩]
              exact each _
  | _ => cases shape

theorem equals_list_iff {length : Nat} {values : Fin length → Json} {other : Json}
    : (list length values).equals other = true
      ↔ ∃ others : Fin length → Json,
          other = list length others
          ∧ ∀ index, (values index).equals (others index) = true := by
  rw [equals]
  cases other with
  | list size others =>
      simp only [asList?, List.length_ofFn, Bool.and_eq_true, decide_eq_true_eq,
        List.all_eq_true, List.mem_finRange, true_implies]
      constructor
      · intro holds
        obtain ⟨rfl, each⟩ := holds
        refine ⟨others, rfl, ?_⟩
        intro index
        simpa using each index
      · intro holds
        obtain ⟨items, same, each⟩ := holds
        cases same
        refine ⟨rfl, ?_⟩
        intro index
        simpa using each index
  | _ => simp [asList?]

theorem equals_of_values {keys : List String} {unique : keys.Nodup}
    {values others : Fin keys.length → Json} {left right : Document}
    (shape : (object keys unique values).asDict? = some left)
    (otherShape : (object keys unique others).asDict? = some right)
    (each : ∀ index, (values index).equals (others index) = true)
    : (object keys unique values).equals (object keys unique others) = true := by
  refine (equals_iff_of_asDict? shape).mpr ⟨right, otherShape, ?_⟩
  intro key
  cases found : left.get? key with
  | some field =>
      obtain ⟨index, rfl, rfl⟩ := (get?_of_asDict? shape).mp found
      rw [(get?_of_asDict? otherShape).mpr ⟨index, rfl, rfl⟩]
      exact each index
  | none =>
      have absent : key ∉ right.keys := by
        intro member
        have listed : key ∈ left.keys := by
          rw [keys_of_asDict? shape, ← keys_of_asDict? otherShape]
          exact member
        rw [Dict.mem_keys_iff_isSome, found] at listed
        cases listed
      rw [Dict.mem_keys_iff_isSome, Bool.not_eq_true, Option.isSome_eq_false_iff,
        Option.isNone_iff_eq_none] at absent
      rw [absent]
      rfl

theorem equals_refl (value : Json) : value.equals value = true := by
  induction value with
  | list length values each => exact Iff.mpr equals_list_iff ⟨values, rfl, each⟩
  | object keys unique values each =>
      obtain ⟨fields, shape⟩
          : ∃ fields, (object keys unique values).asDict? = some fields :=
        ⟨_, rfl⟩
      refine (equals_iff_of_asDict? shape).mpr ⟨fields, shape, ?_⟩
      intro key
      cases found : fields.get? key with
      | none => rfl
      | some field =>
          obtain ⟨index, -, rfl⟩ := (get?_of_asDict? shape).mp found
          exact each index
  | _ => simp [equals]

theorem equals_symm {left right : Json} (same : left.equals right = true)
    : right.equals left = true := by
  induction left generalizing right with
  | list length values each =>
      obtain ⟨others, rfl, agree⟩ := Iff.mp equals_list_iff same
      exact Iff.mpr equals_list_iff ⟨values, rfl, fun index => each index (agree index)⟩
  | object keys unique values each =>
      obtain ⟨fields, shape⟩
          : ∃ fields, (object keys unique values).asDict? = some fields :=
        ⟨_, rfl⟩
      obtain ⟨others, otherShape, agree⟩ := (equals_iff_of_asDict? shape).mp same
      refine (equals_iff_of_asDict? otherShape).mpr ⟨fields, shape, ?_⟩
      intro key
      have field := agree key
      cases found : fields.get? key with
      | none =>
          rw [found] at field
          cases other : others.get? key with
          | none => rfl
          | some value => rw [other] at field; cases field
      | some value =>
          rw [found, sameField_some_left] at field
          obtain ⟨other, present, equal⟩ := Option.any_eq_true _ _ |>.mp field
          obtain ⟨index, -, rfl⟩ := (get?_of_asDict? shape).mp found
          rw [present]
          exact each index equal
  | _ => cases right <;> simp_all [equals, number?]

theorem equals_trans {left middle right : Json} (first : left.equals middle = true)
    (second : middle.equals right = true)
    : left.equals right = true := by
  induction left generalizing middle right with
  | list length values each =>
      obtain ⟨middles, rfl, toMiddle⟩ := Iff.mp equals_list_iff first
      obtain ⟨others, rfl, toRight⟩ := Iff.mp equals_list_iff second
      exact equals_list_iff.mpr
        ⟨others, rfl, fun index => each index (toMiddle index) (toRight index)⟩
  | object keys unique values each =>
      obtain ⟨fields, shape⟩
          : ∃ fields, (object keys unique values).asDict? = some fields :=
        ⟨_, rfl⟩
      obtain ⟨middles, middleShape, toMiddle⟩ := (equals_iff_of_asDict? shape).mp first
      obtain ⟨others, otherShape, toRight⟩ := (equals_iff_of_asDict? middleShape).mp second
      refine (equals_iff_of_asDict? shape).mpr ⟨others, otherShape, ?_⟩
      intro key
      have field := toMiddle key
      have next := toRight key
      cases found : fields.get? key with
      | none =>
          have absent := isSome_of_sameField field
          have gone := isSome_of_sameField next
          rw [found] at absent
          have none : others.get? key = none := by simpa using (absent.trans gone).symm
          rw [none]
          rfl
      | some value =>
          rw [found, sameField_some_left] at field
          obtain ⟨inner, atMiddle, toInner⟩ := Option.any_eq_true _ _ |>.mp field
          rw [atMiddle, sameField_some_left] at next
          obtain ⟨last, atRight, toLast⟩ := Option.any_eq_true _ _ |>.mp next
          obtain ⟨index, -, rfl⟩ := (get?_of_asDict? shape).mp found
          rw [atRight]
          exact each index toInner toLast
  | _ => cases middle <;> cases right <;> simp_all [equals, number?]

theorem sameField_refl (field : Option Json) : sameField field field = true := by
  cases field with
  | none => rfl
  | some value => exact equals_refl value

theorem sameField_symm {left right : Option Json} (same : sameField left right = true)
    : sameField right left = true := by
  cases left <;> cases right <;> first | exact equals_symm same | exact same

theorem sameField_trans {left middle right : Option Json}
    (first : sameField left middle = true) (second : sameField middle right = true)
    : sameField left right = true := by
  cases left <;> cases middle <;> cases right <;>
    first | exact equals_trans first second | exact second | cases first

-- Paths

/-- The value at the end of a path of keys. -/
def at? : List String → Json → Option Json
  | [], value => some value
  | key :: rest, value => (value.asDict?.bind (·.get? key)).bind (at? rest)

/-- What stands at a place itself: a dictionary counts without its fields. -/
def node (value : Json) : Json := if value.isDict then ofDict ∅ else value

def nodeAt (path : List String) (value : Json) : Option Json := (value.at? path).map node

/-- What stands along a path in the field under a key, if it is present. -/
def fieldNode (path : List String) (field : Option Json) : Option Json :=
  field.bind (nodeAt path)

attribute [local simp] at? node nodeAt fieldNode

theorem nodeAt_cons {value : Json} {fields : Document} (shape : value.asDict? = some fields)
    (key : String) (rest : List String)
    : nodeAt (key :: rest) value = fieldNode rest (fields.get? key) := by
  rw [nodeAt, at?, shape, Option.bind_some, fieldNode]
  cases fields.get? key <;> rfl

theorem node_of_asDict? {value : Json} {fields : Document} (shape : value.asDict? = some fields)
    : node value = ofDict ∅ := by
  rw [node, isDict, shape]
  rfl

theorem isDict_of_equals {left right : Json} (same : left.equals right = true)
    : left.isDict = right.isDict := by
  have oneWay {left right : Json} (same : left.equals right = true) (dict : left.isDict = true)
      : right.isDict = true := by
    obtain ⟨fields, shape⟩ := Option.isSome_iff_exists.mp dict
    obtain ⟨others, otherShape, -⟩ := (equals_iff_of_asDict? shape).mp same
    rw [isDict, otherShape]
    rfl
  rw [Bool.eq_iff_iff]
  exact ⟨oneWay same, oneWay (equals_symm same)⟩

theorem at?_cons {value : Json} {fields : Document} (shape : value.asDict? = some fields)
    (key : String) (rest : List String)
    : at? (key :: rest) value = (fields.get? key).bind (at? rest) := by
  rw [at?, shape, Option.bind_some]

/-- Equal documents have equal values along every path, by induction on the path. -/
theorem sameField_at? {left right : Json} (same : left.equals right = true)
    (path : List String)
    : sameField (left.at? path) (right.at? path) = true := by
  induction path generalizing left right with
  | nil => exact same
  | cons key rest ih =>
      cases shape : left.asDict? with
      | none =>
          have kind := isDict_of_equals same
          rw [isDict, isDict, shape] at kind
          have other : right.asDict? = none := by simpa using kind.symm
          rw [at?, at?, shape, other]
          rfl
      | some fields =>
          obtain ⟨others, otherShape, agree⟩ := (equals_iff_of_asDict? shape).mp same
          rw [at?_cons shape, at?_cons otherShape]
          have field := agree key
          cases found : fields.get? key with
          | none =>
              have absent := isSome_of_sameField field
              have none : others.get? key = none := by simpa [found] using absent.symm
              rw [none]
              rfl
          | some value =>
              rw [found, sameField_some_left] at field
              obtain ⟨other, present, equal⟩ := Option.any_eq_true _ _ |>.mp field
              rw [present]
              exact ih equal

theorem equals_node {left right : Json} (same : left.equals right = true)
    : (node left).equals (node right) = true := by
  rw [node, node, isDict_of_equals same]
  split
  · exact equals_refl _
  · exact same

theorem sameField_nodeAt {left right : Json} (same : left.equals right = true)
    (path : List String)
    : sameField (left.nodeAt path) (right.nodeAt path) = true := by
  have values := sameField_at? same path
  rw [nodeAt, nodeAt]
  generalize left.at? path = found, right.at? path = other at values ⊢
  cases found <;> cases other <;> first | exact equals_node values | exact values

theorem sameField_fieldNode {left right : Option Json} (same : sameField left right = true)
    (path : List String)
    : sameField (fieldNode path left) (fieldNode path right) = true := by
  cases left <;> cases right <;> first | exact sameField_nodeAt same path | exact same | cases same

theorem sameField_bind_at? {left right : Option Json} (same : sameField left right = true)
    (path : List String)
    : sameField (left.bind (at? path)) (right.bind (at? path)) = true := by
  cases left <;> cases right <;> first | exact sameField_at? same path | exact same | cases same

theorem EveryKey.fields {allowed : String → Prop} {value : Json} {fields : Document}
    (every : value.EveryKey allowed) (shape : value.asDict? = some fields) {key : String}
    {field : Json} (found : fields.get? key = some field)
    : allowed key ∧ field.EveryKey allowed := by
  cases value with
  | object keys unique values =>
      rcases (get?_of_asDict? shape).mp found with ⟨index, sameKey, sameValue⟩
      subst sameKey sameValue
      exact every index
  | _ => cases shape

/-- Equal documents have the same keys, by induction on the structure. -/
theorem EveryKey.of_equals {allowed : String → Prop} {left right : Json}
    (every : left.EveryKey allowed) (same : left.equals right = true)
    : right.EveryKey allowed := by
  induction left generalizing right with
  | list length values ih =>
      rcases Iff.mp equals_list_iff same with ⟨others, shape, agree⟩
      subst shape
      intro index
      exact ih index (every index) (agree index)
  | object keys unique values ih =>
      obtain ⟨fields, shape⟩
          : ∃ fields, (object keys unique values).asDict? = some fields :=
        ⟨_, rfl⟩
      rcases (equals_iff_of_asDict? shape).mp same with ⟨others, otherShape, agree⟩
      rw [← ofDict_of_asDict? otherShape]
      refine everyKey_ofDict (fun key other present => ?_)
      have field := agree key
      rw [present] at field
      cases found : fields.get? key with
      | none =>
          rw [found] at field
          cases field
      | some value =>
          rw [found, sameField_some] at field
          rcases (get?_of_asDict? shape).mp found with ⟨index, sameKey, sameValue⟩
          subst sameKey sameValue
          exact ⟨(every index).1, ih index (every index).2 field⟩
  | _ =>
      cases right with
      | list => simp [equals, number?] at same
      | object => simp [equals, number?] at same
      | _ => trivial

end Json

end OctoHubs.Library
