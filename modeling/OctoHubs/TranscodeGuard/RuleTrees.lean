import OctoHubs.TranscodeGuard.SettingsSizes

/-! Groups of rules opened to the rules that they come to, and what the check of the document
says of these.
-/

namespace OctoHubs.TranscodeGuard

open OctoHubs.Library

variable (alphabet : Alphabet)

/-- The rules of an entry, with what they take over from their groups and the names that they have
by their places.
-/
def leafRules : (levels : Nat) → (raw : Document) → (fallbackId : String) → List (Document × String)
  | 0, _, _ => []
  | levels + 1, raw, fallbackId =>
      match groupChildren? alphabet raw with
      | none => [(raw, fallbackId)]
      | some children =>
          children.zipIdx.flatMap (fun (child, index) =>
            child.asDict?.elim [] (fun child =>
              leafRules levels (inheritGroupFields alphabet raw child)
                (fallbackId ++ "-child-" ++ toString (index + 1))))

/-- The groups and rules of an entry as they are written. -/
def treeNodes : (levels : Nat) → (raw : Document) → List Document
  | 0, _ => []
  | levels + 1, raw =>
      raw ::
        match groupChildren? alphabet raw with
        | none => []
        | some children => (children.filterMap Json.asDict?).flatMap (treeNodes levels)

def isLeafRule (raw : Document) : Bool := (groupChildren? alphabet raw).isNone

/-- The rules of a document before they are normalized. -/
def settingsLeaves (raw : Document) : List (Document × String) :=
  ((raw.field "rules").asList?.getD []).zipIdx.flatMap (fun (item, index) =>
    item.asDict?.elim [] (fun rule =>
      leafRules alphabet ((rule.field "children").depth + 1) rule
        ("rule-" ++ toString (index + 1))))

variable {alphabet}

/-- By induction on the levels. -/
theorem ruleEntries_eq_map (levels : Nat) (raw : Document) (fallbackId : String)
    : normalizeTranscodeGuardRuleEntries alphabet levels raw fallbackId
      = (leafRules alphabet levels raw fallbackId).map (fun leaf =>
          normalizeTranscodeGuardRule alphabet leaf.1 leaf.2) := by
  induction levels generalizing raw fallbackId with
  | zero => rfl
  | succ levels ih =>
      unfold normalizeTranscodeGuardRuleEntries leafRules
      cases groupChildren? alphabet raw with
      | none => rfl
      | some children =>
          dsimp only
          rw [List.map_flatMap]
          apply List.flatMap_congr
          rintro ⟨child, index⟩ -
          cases child.asDict? with
          | none => rfl
          | some fields => exact ih _ _

theorem rulesOf_eq_map (raw : Document)
    : rulesOf alphabet raw
      = (settingsLeaves alphabet raw).map (fun leaf =>
          normalizeTranscodeGuardRule alphabet leaf.1 leaf.2) := by
  unfold rulesOf settingsLeaves
  rw [List.map_flatMap]
  apply List.flatMap_congr
  rintro ⟨item, index⟩ -
  dsimp only
  cases item.asDict? with
  | none => rfl
  | some fields => exact ruleEntries_eq_map _ _ _

/-- The rules of a group are named by their places, by induction on the levels. -/
theorem isIdentifier_leafRules (lawful : alphabet.Lawful) {levels : Nat} {raw : Document}
    {fallbackId : String} (identifier : IsIdentifier alphabet fallbackId)
    {leaf : Document × String} (member : leaf ∈ leafRules alphabet levels raw fallbackId)
    : IsIdentifier alphabet leaf.2 := by
  induction levels generalizing raw fallbackId with
  | zero => cases member
  | succ levels ih =>
      unfold leafRules at member
      split at member
      · rw [List.mem_singleton.mp member]
        exact identifier
      · rcases List.mem_flatMap.mp member with ⟨⟨child, index⟩, -, inside⟩
        dsimp only at inside
        cases dict : child.asDict? with
        | none =>
            rw [dict] at inside
            cases inside
        | some fields =>
            rw [dict] at inside
            exact ih (isIdentifier_child lawful identifier _) inside

theorem isIdentifier_settingsLeaves (lawful : alphabet.Lawful) {raw : Document}
    {leaf : Document × String} (member : leaf ∈ settingsLeaves alphabet raw)
    : IsIdentifier alphabet leaf.2 := by
  rcases List.mem_flatMap.mp member with ⟨⟨item, index⟩, -, inside⟩
  dsimp only at inside
  cases dict : item.asDict? with
  | none =>
      rw [dict] at inside
      cases inside
  | some fields =>
      rw [dict] at inside
      exact isIdentifier_leafRules lawful (isIdentifier_rule lawful _) inside

theorem groupChildren?_inheritGroupFields (group child : Document)
    : groupChildren? alphabet (inheritGroupFields alphabet group child)
      = groupChildren? alphabet child := by
  have same (key : String) (other : key ∉ groupInheritedRuleFields) (apart : key ≠ "enabled")
      : Document.field (inheritGroupFields alphabet group child) key = child.field key := by
    unfold Document.field inheritGroupFields
    rw [get?_foldl_inherit alphabet other]
    split
    · rfl
    · rw [Dict.get?_set_ne _ _ apart]
    · split
      · rfl
      · rw [Dict.get?_set_ne _ _ apart]
  unfold groupChildren? ruleType
  rw [same "type" (by decide) (by decide), same "children" (by decide) (by decide)]

theorem visitRules_nodes {rulesLeft leafCount bytes : Nat} {trees : List (Nat × Document × Nat)}
    (few : leafCount ≤ maxTranscodeGuardRules)
    (visited
      : visitRules alphabet rulesLeft leafCount bytes (trees.map Prod.snd) = .ok ())
    : (∀ node ∈ trees.flatMap (fun tree => treeNodes alphabet tree.1 tree.2.1),
        ∃ size, nodeTextBytes node = .ok size)
      ∧ leafCount
          + (trees.flatMap (fun tree => treeNodes alphabet tree.1 tree.2.1)).countP
              (isLeafRule alphabet)
        ≤ maxTranscodeGuardRules := by
  induction rulesLeft generalizing leafCount bytes trees with
  | zero =>
      rcases trees with _ | ⟨tree, rest⟩
      · exact ⟨by simp, by simpa using few⟩
      · rw [List.map_cons, visitRules] at visited
        cases visited
  | succ rulesLeft ih =>
      rcases trees with _ | ⟨⟨level, rule, depth⟩, rest⟩
      · exact ⟨by simp, by simpa using few⟩
      · rw [List.map_cons, visitRules_cons_iff] at visited
        rcases visited with ⟨-, size, measured, -, onward⟩
        rw [List.flatMap_cons]
        cases opened : groupChildren? alphabet rule with
        | none =>
            rw [opened] at onward
            rcases ih onward.1 onward.2 with ⟨others, counted⟩
            have own
                : treeNodes alphabet level rule = []
                  ∨ treeNodes alphabet level rule = [rule] := by
              cases level with
              | zero => exact .inl rfl
              | succ level =>
                  unfold treeNodes
                  rw [opened]
                  exact .inr rfl
            have leaf : isLeafRule alphabet rule = true := by
              rw [isLeafRule, opened]
              rfl
            rcases own with none_ | one
            · rw [none_, List.nil_append]
              exact ⟨others, by omega⟩
            · rw [one]
              refine ⟨?_, ?_⟩
              · intro node member
                rcases List.mem_cons.mp member with rfl | other
                · exact ⟨size, measured⟩
                · exact others node other
              · rw [List.countP_append, List.countP_singleton, leaf]
                simp only [if_true]
                omega
        | some children =>
            rw [opened] at onward
            dsimp only at onward ⊢
            have below
                : (children.filterMap Json.asDict?).map (·, depth + 1) ++ rest.map Prod.snd
                  = ((children.filterMap Json.asDict?).map (fun child =>
                        (level - 1, child, depth + 1))
                      ++ rest).map Prod.snd := by
              simp
            rw [below] at onward
            rcases ih few onward.2 with ⟨others, counted⟩
            rw [List.flatMap_append, List.flatMap_map] at others counted
            cases level with
            | zero =>
                have bare : treeNodes alphabet 0 rule = [] := rfl
                rw [bare, List.nil_append]
                rw [List.countP_append] at counted
                exact
                  ⟨fun node member => others node (List.mem_append_right _ member), by omega⟩
            | succ level =>
                have nodes
                    : treeNodes alphabet (level + 1) rule
                      = rule :: (children.filterMap Json.asDict?).flatMap
                          (treeNodes alphabet level) := by
                  rw [treeNodes, opened]
                have group : isLeafRule alphabet rule = false := by
                  rw [isLeafRule, opened]
                  rfl
                rw [nodes, List.cons_append]
                refine ⟨?_, ?_⟩
                · intro node member
                  rcases List.mem_cons.mp member with rfl | other
                  · exact ⟨size, measured⟩
                  · exact others node other
                · rw [List.countP_cons, group]
                  exact counted

theorem length_flatMap_dicts {items : List Json} {opens : Document → Nat → List (Document × String)}
    {count : Document → Nat} (start : Nat)
    (counted
      : ∀ item ∈ items, ∀ fields, item.asDict? = some fields
          → ∀ index, (opens fields index).length = count fields)
    : ((items.zipIdx start).flatMap (fun (item, index) =>
          item.asDict?.elim [] (opens · index))).length
      = ((items.filterMap Json.asDict?).map count).sum := by
  induction items generalizing start with
  | nil => rfl
  | cons item rest ih =>
      have later :=
        ih (start + 1) (fun other member => counted other (List.mem_cons_of_mem _ member))
      rw [List.zipIdx_cons, List.flatMap_cons, List.length_append, later]
      dsimp only
      cases dict : item.asDict? with
      | none => simp [dict]
      | some fields =>
          have own := counted item List.mem_cons_self fields dict start
          simp [dict, own]

theorem countP_flatMap_nodes {levels : Nat} (items : List Json)
    : ((items.filterMap Json.asDict?).flatMap (treeNodes alphabet levels)).countP
          (isLeafRule alphabet)
      = ((items.filterMap Json.asDict?).map (fun fields =>
            (treeNodes alphabet levels fields).countP (isLeafRule alphabet))).sum := by
  rw [List.countP_flatMap]
  rfl

/-- An entry comes to as many rules as are written in it, by induction on the levels. -/
theorem length_leafRules {levels : Nat} {raw own : Document} {fallbackId : String}
    (same : groupChildren? alphabet raw = groupChildren? alphabet own)
    : (leafRules alphabet levels raw fallbackId).length
      = (treeNodes alphabet levels own).countP (isLeafRule alphabet) := by
  induction levels generalizing raw own fallbackId with
  | zero => rfl
  | succ levels ih =>
      unfold leafRules treeNodes
      rw [same, List.countP_cons]
      cases opened : groupChildren? alphabet own with
      | none => simp [isLeafRule, opened]
      | some children =>
          dsimp only
          have opens :=
            @length_flatMap_dicts children
              (fun fields index =>
                leafRules alphabet levels (inheritGroupFields alphabet raw fields)
                  (fallbackId ++ "-child-" ++ toString (index + 1)))
              (fun fields => (treeNodes alphabet levels fields).countP (isLeafRule alphabet)) 0
              (fun child _ fields _ index => ih (groupChildren?_inheritGroupFields raw fields))
          refine opens.trans ?_
          rw [countP_flatMap_nodes]
          simp [isLeafRule, opened]

/-- By induction on the fields that are inherited. -/
theorem get?_foldl_inherit_cases (group : Document) (keys : List String) (merged : Document)
    (key : String)
    : (keys.foldl
            (fun merged key =>
              match group.get? key with
              | none => merged
              | some value =>
                  if hasRuleValue alphabet (merged.field key) then merged
                  else merged.set key value)
            merged).get? key
          = merged.get? key
      ∨ (keys.foldl
            (fun merged key =>
              match group.get? key with
              | none => merged
              | some value =>
                  if hasRuleValue alphabet (merged.field key) then merged
                  else merged.set key value)
            merged).get? key
          = group.get? key := by
  induction keys generalizing merged with
  | nil => exact .inl rfl
  | cons first rest ih =>
      rw [List.foldl_cons]
      cases given : group.get? first with
      | none => exact ih merged
      | some value =>
          dsimp only
          split
          · exact ih merged
          · rcases ih (merged.set first value) with kept | taken
            · rw [kept, Dict.get?_set]
              split
              · next same =>
                  rw [same]
                  exact .inr given.symm
              · exact .inl rfl
            · exact .inr taken

theorem get?_inheritGroupFields (group child : Document) {key : String} (apart : key ≠ "enabled")
    : (inheritGroupFields alphabet group child).get? key = child.get? key
      ∨ (inheritGroupFields alphabet group child).get? key = group.get? key := by
  unfold inheritGroupFields
  rcases get?_foldl_inherit_cases group groupInheritedRuleFields _ key with kept | taken
  · refine .inl (kept.trans ?_)
    split
    · rfl
    · exact Dict.get?_set_ne _ _ apart
    · split
      · rfl
      · exact Dict.get?_set_ne _ _ apart
  · exact .inr taken

/-- A rule has the messages of a node that it is under, or its own, by induction on the levels. -/
theorem leafRules_field {levels : Nat} {raw own : Document} {fallbackId key : String}
    {holds : Json → Prop} (apart : key ≠ "enabled")
    (same : groupChildren? alphabet raw = groupChildren? alphabet own)
    (given : holds (raw.field key))
    (nodes : ∀ node ∈ treeNodes alphabet levels own, holds (node.field key))
    {leaf : Document × String} (member : leaf ∈ leafRules alphabet levels raw fallbackId)
    : holds (leaf.1.field key) := by
  induction levels generalizing raw own fallbackId with
  | zero => cases member
  | succ levels ih =>
      unfold leafRules at member
      unfold treeNodes at nodes
      rw [← same] at nodes
      cases opened : groupChildren? alphabet raw with
      | none =>
          rw [opened] at member
          rw [List.mem_singleton.mp member]
          exact given
      | some children =>
          rw [opened] at member nodes
          dsimp only at member nodes
          rcases List.mem_flatMap.mp member with ⟨⟨child, index⟩, listed, inside⟩
          dsimp only at inside
          cases dict : child.asDict? with
          | none =>
              rw [dict] at inside
              cases inside
          | some fields =>
              rw [dict] at inside
              have written : fields ∈ children.filterMap Json.asDict? :=
                List.mem_filterMap.mpr ⟨child, List.fst_mem_of_mem_zipIdx listed, dict⟩
              have below : ∀ node ∈ treeNodes alphabet levels fields, holds (node.field key) := by
                intro node under
                exact
                  nodes node
                    (List.mem_cons_of_mem _ (List.mem_flatMap.mpr ⟨fields, written, under⟩))
              refine ih (groupChildren?_inheritGroupFields raw fields) ?_ below inside
              cases levels with
              | zero => cases inside
              | succ levels =>
                  unfold Document.field
                  rcases @get?_inheritGroupFields alphabet raw fields key apart with kept | taken
                  · rw [kept]
                    exact below fields List.mem_cons_self
                  · rw [taken]
                    exact given

end OctoHubs.TranscodeGuard
