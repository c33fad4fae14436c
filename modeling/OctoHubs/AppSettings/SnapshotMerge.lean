import OctoHubs.Library.Equality

/-! Saving a snapshot of the settings: what was changed since it was read is applied to what is
stored now, and changes of the same place by others are conflicts.
-/

namespace OctoHubs.AppSettings

open OctoHubs.Library
open Json (equals sameField)

structure StorageError where
  message : String

section Merge

variable (quoted : String → String)

def conflict (key : String) : StorageError :=
  ⟨"Conflitto aggiornamento configurazione per la chiave " ++ quoted key⟩

/-- A key that the snapshot had and the submission has not. -/
def deleteKey (latest original merged : Document) (key : String)
    : Except StorageError Document :=
  if (latest.get? key).any (fun current => !sameField (some current) (original.get? key)) then
    .error (conflict quoted key)
  else .ok (merged.erase key)

def submitKey (latest original merged : Document) (key : String) (value : Json)
    (mergeNested
      : Document → Document → (fields : Document)
        → value.asDict? = some fields
        → Except StorageError Document)
    : Except StorageError Document :=
  match original.get? key with
  | none =>
      if (latest.get? key).any (fun current => !current.equals value) then
        .error (conflict quoted key)
      else .ok (merged.set key value)
  | some previous =>
      if value.equals previous then .ok merged
      else if (latest.get? key).isNone then .error (conflict quoted key)
      else
        let current := merged.get? key
        match previous.asDict?, shape : value.asDict?, current.bind Json.asDict? with
        | some previous, some fields, some current => do
            let nested ← mergeNested current previous fields shape
            .ok (merged.setDict key nested)
        | _, _, _ =>
            if !sameField current (some previous) && !sameField current (some value) then
              .error (conflict quoted key)
            else .ok (merged.set key value)

/-- Apply a snapshot's changes without discarding concurrent nested edits. -/
def mergeSnapshotChanges (latest original submitted : Document)
    : Except StorageError Document := do
  let merged ←
    (original.keys.filter (· ∉ submitted.keys)).foldlM (deleteKey quoted latest original) latest
  submitted.items.attach.foldlM
    (fun merged item =>
      submitKey quoted latest original merged item.val.1 item.val.2
        (fun current previous fields _shape => mergeSnapshotChanges current previous fields))
    merged
termination_by (Json.ofDict submitted).depth
decreasing_by
  rw [Json.ofDict_of_asDict? _shape]
  exact Json.depth_lt_of_get? (Json.asDict?_ofDict submitted)
    (Dict.mem_items_iff.mp item.property)

-- One field

/-- The field is a dictionary. -/
def holdsDict (field : Option Json) : Bool := (field.bind Json.asDict?).isSome

/-- What a field is merged to: an unchanged one is left as it is stored, a changed one is taken
over what the snapshot showed or over the same change, and dictionaries are merged.
-/
inductive FieldMerged
    : (latest previous submitted : Option Json) → (merged : Option Json) → Prop
  | kept {latest previous submitted : Option Json}
    (same : sameField submitted previous = true)
    : FieldMerged latest previous submitted latest
  | taken {latest previous submitted : Option Json}
    (differs : sameField submitted previous = false)
    (free : sameField latest previous = true ∨ sameField latest submitted = true)
    : FieldMerged latest previous submitted submitted
  | nested {latest previous submitted : Json} {current original fields merged : Document}
    (differs : submitted.equals previous = false)
    (latestShape : latest.asDict? = some current)
    (previousShape : previous.asDict? = some original)
    (submittedShape : submitted.asDict? = some fields)
    (done : mergeSnapshotChanges quoted current original fields = .ok merged)
    : FieldMerged (some latest) (some previous) (some submitted) (some (.ofDict merged))

/-- Why a field is not merged: it was changed to something else, or its dictionaries are not
merged.
-/
inductive FieldConflict : (latest previous submitted : Option Json) → Prop
  | clash {latest previous submitted : Option Json}
    (differs : sameField submitted previous = false)
    (moved : sameField latest previous = false)
    (apart : sameField latest submitted = false)
    (flat : ¬ (holdsDict latest ∧ holdsDict previous ∧ holdsDict submitted))
    : FieldConflict latest previous submitted
  | nested {latest previous submitted : Json} {current original fields : Document}
    {error : StorageError}
    (differs : submitted.equals previous = false)
    (latestShape : latest.asDict? = some current)
    (previousShape : previous.asDict? = some original)
    (submittedShape : submitted.asDict? = some fields)
    (failed : mergeSnapshotChanges quoted current original fields = .error error)
    : FieldConflict (some latest) (some previous) (some submitted)

variable {quoted}

theorem deleteKey_merged {latest original before after : Document} {key : String}
    (listed : (original.get? key).isSome)
    (done : deleteKey quoted latest original before key = .ok after)
    : FieldMerged quoted (latest.get? key) (original.get? key) none (after.get? key) := by
  obtain ⟨previous, found⟩ := Option.isSome_iff_exists.mp listed
  unfold deleteKey at done
  split at done
  · cases done
  · next agrees =>
      cases done
      rw [Dict.get?_erase, if_pos rfl, found]
      apply FieldMerged.taken rfl
      cases current : latest.get? key with
      | none => exact .inr rfl
      | some value =>
          rw [current, found] at agrees
          exact .inl (by simpa using agrees)

theorem deleteKey_elsewhere {latest original before after : Document} {key other : String}
    (done : deleteKey quoted latest original before key = .ok after) (apart : other ≠ key)
    : after.get? other = before.get? other := by
  unfold deleteKey at done
  split at done
  · cases done
  · cases done
    rw [Dict.get?_erase, if_neg apart]

theorem deleteKey_conflict {latest original before : Document} {key : String}
    {error : StorageError} (listed : (original.get? key).isSome)
    (failed : deleteKey quoted latest original before key = .error error)
    : FieldConflict quoted (latest.get? key) (original.get? key) none := by
  obtain ⟨previous, found⟩ := Option.isSome_iff_exists.mp listed
  unfold deleteKey at failed
  split at failed
  · next clashes =>
      obtain ⟨value, current, differs⟩ := Option.any_eq_true _ _ |>.mp clashes
      rw [current]
      rw [found] at differs ⊢
      exact .clash rfl (by simpa using differs) rfl (by simp [holdsDict])
  · cases failed

theorem submitKey_merged {latest original before after : Document} {key : String}
    {value : Json} (stored : before.get? key = latest.get? key)
    (done
      : submitKey quoted latest original before key value
          (fun current previous fields _ => mergeSnapshotChanges quoted current previous fields)
        = .ok after)
    : FieldMerged quoted (latest.get? key) (original.get? key) (some value) (after.get? key) := by
  unfold submitKey at done
  split at done
  · next absent =>
      split at done
      · cases done
      · next agrees =>
          cases done
          rw [absent, Dict.get?_set, if_pos rfl]
          apply FieldMerged.taken rfl
          cases current : latest.get? key with
          | none => exact .inl rfl
          | some other =>
              rw [current] at agrees
              exact .inr (by simpa using agrees)
  · next previous found =>
      rw [found]
      split at done
      · next same =>
          cases done
          rw [stored]
          exact .kept same
      · next differs =>
          split at done
          · cases done
          · next present =>
              simp only [stored] at done
              split at done
              · next previousFields fields current previousShape submittedShape currentShape =>
                  obtain ⟨stored, latestField, latestShape⟩ :=
                    Option.bind_eq_some_iff.mp currentShape
                  cases nested : mergeSnapshotChanges quoted current previousFields fields with
                  | error => simp only [nested] at done; cases done
                  | ok merged =>
                      simp only [nested] at done
                      cases done
                      rw [latestField, Document.setDict, Dict.get?_set, if_pos rfl]
                      exact .nested (by simpa using differs) latestShape previousShape
                        submittedShape nested
              · split at done
                · cases done
                · next free =>
                    cases done
                    rw [Dict.get?_set, if_pos rfl]
                    apply FieldMerged.taken (by simpa using differs)
                    simpa [or_iff_not_imp_left] using free

theorem submitKey_elsewhere {latest original before after : Document} {key : String}
    {value : Json}
    {mergeNested
      : Document → Document → (fields : Document)
        → value.asDict? = some fields
        → Except StorageError Document}
    (done : submitKey quoted latest original before key value mergeNested = .ok after)
    {other : String} (apart : other ≠ key)
    : after.get? other = before.get? other := by
  have written (value : Json) : (before.set key value).get? other = before.get? other := by
    rw [Dict.get?_set, if_neg apart]
  unfold submitKey at done
  split at done
  · split at done
    · cases done
    · cases done
      exact written _
  · split at done
    · cases done
      rfl
    · split at done
      · cases done
      · dsimp only at done
        split at done
        · next previous fields current _ shape _ =>
            cases nested : mergeNested current previous fields shape with
            | error => rw [nested] at done; cases done
            | ok merged =>
                rw [nested] at done
                cases done
                exact written _
        · split at done
          · cases done
          · cases done
            exact written _

theorem submitKey_conflict {latest original before : Document} {key : String}
    {value : Json} {error : StorageError} (stored : before.get? key = latest.get? key)
    (failed
      : submitKey quoted latest original before key value
          (fun current previous fields _ => mergeSnapshotChanges quoted current previous fields)
        = .error error)
    : FieldConflict quoted (latest.get? key) (original.get? key) (some value) := by
  unfold submitKey at failed
  split at failed
  · next absent =>
      split at failed
      · next clashes =>
          obtain ⟨current, found, differs⟩ := Option.any_eq_true _ _ |>.mp clashes
          rw [absent, found]
          exact .clash rfl rfl (by simpa using differs) (by simp [holdsDict])
      · cases failed
  · next previous found =>
      rw [found]
      split at failed
      · cases failed
      · next differs =>
          split at failed
          · next gone =>
              rw [Option.isNone_iff_eq_none.mp gone]
              exact .clash (by simpa using differs) rfl rfl (by simp [holdsDict])
          · next present =>
              simp only [stored] at failed
              split at failed
              · next previousFields fields current previousShape submittedShape currentShape =>
                  obtain ⟨stored, latestField, latestShape⟩ :=
                    Option.bind_eq_some_iff.mp currentShape
                  cases nested : mergeSnapshotChanges quoted current previousFields fields with
                  | error =>
                      rw [latestField]
                      exact .nested (by simpa using differs) latestShape previousShape
                        submittedShape nested
                  | ok merged => simp only [nested] at failed; cases failed
              · next flat =>
                  split at failed
                  · next clashes =>
                      simp only [Bool.and_eq_true, Bool.not_eq_true'] at clashes
                      refine .clash (by simpa using differs) clashes.1 clashes.2 ?_
                      intro shapes
                      obtain ⟨latestDict, previousDict, submittedDict⟩ := shapes
                      obtain ⟨current, currentShape⟩ := Option.isSome_iff_exists.mp latestDict
                      obtain ⟨fields, previousShape⟩ := Option.isSome_iff_exists.mp previousDict
                      obtain ⟨given, submittedShape⟩ := Option.isSome_iff_exists.mp submittedDict
                      exact flat _ _ _ previousShape submittedShape currentShape
                  · cases failed

-- All fields

/-- A key of the submission with its value. -/
abbrev SubmittedItem (submitted : Document) : Type :=
  { item : String × Json // item ∈ submitted.items }

/-- The keys that are deleted, in the order of the snapshot. -/
def deletedKeys (original submitted : Document) : List String :=
  original.keys.filter (· ∉ submitted.keys)

theorem mem_deletedKeys_iff {original submitted : Document} {key : String}
    : key ∈ deletedKeys original submitted
      ↔ (original.get? key).isSome ∧ submitted.get? key = none := by
  rw [deletedKeys, List.mem_filter, Dict.mem_keys_iff_isSome, decide_eq_true_eq,
    Dict.mem_keys_iff_isSome, Bool.not_eq_true, Option.isSome_eq_false_iff,
    Option.isNone_iff_eq_none]

theorem deletedKeys_nodup (original submitted : Document)
    : ((deletedKeys original submitted).map id).Nodup := by
  rw [List.map_id]
  exact original.nodup.filter _

theorem map_submittedKeys (submitted : Document)
    : submitted.items.attach.map (fun item => item.val.1) = submitted.keys := by
  change submitted.items.attach.map (Prod.fst ∘ Subtype.val) = _
  rw [← List.map_map, List.attach_map_subtype_val]
  rfl

theorem submittedKeys_nodup (submitted : Document)
    : (submitted.items.attach.map (fun item => item.val.1)).Nodup :=
  map_submittedKeys submitted ▸ submitted.nodup

theorem deletions_fields {latest original submitted kept : Document}
    (deleted
      : (deletedKeys original submitted).foldlM (deleteKey quoted latest original) latest
        = .ok kept)
    (key : String)
    : ((submitted.get? key).isSome → kept.get? key = latest.get? key)
      ∧ (submitted.get? key = none
        → FieldMerged quoted (latest.get? key) (original.get? key) none (kept.get? key)) := by
  obtain ⟨gone, untouched⟩ :=
    foldlM_visits id
      (fun key _ after =>
        FieldMerged quoted (latest.get? key) (original.get? key) none after)
      (deletedKeys_nodup original submitted)
      (fun member done =>
        ⟨deleteKey_merged (mem_deletedKeys_iff.mp member).1 done,
          fun other apart => deleteKey_elsewhere done apart⟩)
      deleted
  rw [List.map_id] at untouched
  constructor
  · intro present
    apply untouched
    intro member
    rw [(mem_deletedKeys_iff.mp member).2] at present
    cases present
  · intro absent
    by_cases listed : (original.get? key).isSome
    · exact gone key (mem_deletedKeys_iff.mpr ⟨listed, absent⟩)
    · rw [untouched key (fun member => listed (mem_deletedKeys_iff.mp member).1)]
      rw [Option.not_isSome_iff_eq_none.mp listed]
      exact .kept rfl

theorem merge_fields {latest original submitted merged : Document}
    (done : mergeSnapshotChanges quoted latest original submitted = .ok merged) (key : String)
    : FieldMerged quoted (latest.get? key) (original.get? key) (submitted.get? key)
        (merged.get? key) := by
  rw [mergeSnapshotChanges, ← deletedKeys] at done
  cases deleted : (deletedKeys original submitted).foldlM (deleteKey quoted latest original)
      latest with
  | error => rw [deleted] at done; cases done
  | ok kept =>
      rw [deleted] at done
      obtain ⟨given, others⟩ :=
        foldlM_visits (fun item : SubmittedItem submitted => item.val.1)
          (fun item before after =>
            before = latest.get? item.val.1
            → FieldMerged quoted (latest.get? item.val.1) (original.get? item.val.1)
                (some item.val.2) after)
          (submittedKeys_nodup submitted)
          (fun _ done =>
            ⟨fun stored => submitKey_merged stored done,
              fun other apart => submitKey_elsewhere done apart⟩)
          done
      rw [map_submittedKeys] at others
      obtain ⟨kept_of_submitted, merged_of_deleted⟩ := deletions_fields deleted key
      cases present : submitted.get? key with
      | some value =>
          have member := Dict.mem_items_iff.mpr present
          exact given ⟨(key, value), member⟩ (List.mem_attach _ _)
            (kept_of_submitted (by rw [present]; rfl))
      | none =>
          have absent : key ∉ submitted.keys := by
            rw [Dict.mem_keys_iff_isSome, present]
            exact Bool.false_ne_true
          rw [others key absent]
          exact merged_of_deleted present

theorem merge_conflict {latest original submitted : Document} {error : StorageError}
    (failed : mergeSnapshotChanges quoted latest original submitted = .error error)
    : ∃ key,
        FieldConflict quoted (latest.get? key) (original.get? key) (submitted.get? key) := by
  rw [mergeSnapshotChanges, ← deletedKeys] at failed
  cases deleted : (deletedKeys original submitted).foldlM (deleteKey quoted latest original)
      latest with
  | error =>
      obtain ⟨key, member, conflict⟩ :=
        foldlM_visits_error id
          (fun key _ => FieldConflict quoted (latest.get? key) (original.get? key) none)
          (deletedKeys_nodup original submitted)
          (fun member failed => deleteKey_conflict (mem_deletedKeys_iff.mp member).1 failed)
          (fun done other apart => deleteKey_elsewhere done apart) deleted
      refine ⟨key, ?_⟩
      rw [(mem_deletedKeys_iff.mp member).2]
      exact conflict
  | ok kept =>
      rw [deleted] at failed
      obtain ⟨item, -, conflict⟩ :=
        foldlM_visits_error (fun item : SubmittedItem submitted => item.val.1)
          (fun item before =>
            before = latest.get? item.val.1
            → FieldConflict quoted (latest.get? item.val.1) (original.get? item.val.1)
                (some item.val.2))
          (submittedKeys_nodup submitted)
          (fun _ failed stored => submitKey_conflict stored failed)
          (fun done other apart => submitKey_elsewhere done apart) failed
      have present := Dict.mem_items_iff.mp item.property
      refine ⟨item.val.1, ?_⟩
      rw [present]
      apply conflict
      exact (deletions_fields deleted _).1 (by rw [present]; rfl)

-- All paths

/-- Both sides changed what a place had to different outcomes. -/
def Clashing (latest original submitted : Option Json) : Prop :=
  sameField submitted original = false
  ∧ sameField latest original = false
  ∧ sameField latest submitted = false

/-- What stands along a path of the settings. -/
def settingAt (settings : Document) (path : List String) : Option Json :=
  (Json.ofDict settings).nodeAt path

def valueAt (settings : Document) (path : List String) : Option Json :=
  (Json.ofDict settings).at? path

/-- Both sides changed a field to different outcomes, in dictionaries that all have, and it is
not a dictionary on all sides.
-/
structure ConflictAt (latest original submitted : Document) (front : List String) (key : String)
    : Prop where
  dictionaries
    : holdsDict (valueAt latest front) ∧ holdsDict (valueAt original front)
      ∧ holdsDict (valueAt submitted front)
  clashing
    : Clashing (valueAt latest (front ++ [key])) (valueAt original (front ++ [key]))
        (valueAt submitted (front ++ [key]))
  flat
    : ¬ (holdsDict (valueAt latest (front ++ [key]))
        ∧ holdsDict (valueAt original (front ++ [key]))
        ∧ holdsDict (valueAt submitted (front ++ [key])))

theorem settingAt_cons (settings : Document) (key : String) (rest : List String)
    : settingAt settings (key :: rest) = Json.fieldNode rest (settings.get? key) :=
  Json.nodeAt_cons (Json.asDict?_ofDict settings) key rest

theorem valueAt_cons (settings : Document) (key : String) (rest : List String)
    : valueAt settings (key :: rest) = (settings.get? key).bind (Json.at? rest) :=
  Json.at?_cons (Json.asDict?_ofDict settings) key rest

theorem valueAt_nested {settings fields : Document} {key : String} {value : Json}
    (found : settings.get? key = some value) (shape : value.asDict? = some fields)
    (path : List String)
    : valueAt settings (key :: path) = valueAt fields path := by
  rw [valueAt_cons, found, Option.bind_some, valueAt, Json.ofDict_of_asDict? shape]

theorem valueAt_field (settings : Document) (key : String)
    : valueAt settings [key] = settings.get? key := by
  rw [valueAt_cons]
  cases settings.get? key <;> rfl

theorem settingAt_root (settings : Document) : settingAt settings [] = some (.ofDict ∅) := by
  rw [settingAt, Json.nodeAt, Json.at?, Option.map_some,
    Json.node_of_asDict? (Json.asDict?_ofDict settings)]

/-- What a merge leaves along a path: what was submitted where the submission changed it, and
what is stored elsewhere. By induction on the path.
-/
theorem settingAt_merged {latest original submitted merged : Document}
    (done : mergeSnapshotChanges quoted latest original submitted = .ok merged)
    (path : List String)
    : (sameField (settingAt submitted path) (settingAt original path) = false
        → settingAt merged path = settingAt submitted path)
      ∧ (sameField (settingAt submitted path) (settingAt original path) = true
        → sameField (settingAt merged path) (settingAt latest path) = true) := by
  induction path generalizing latest original submitted merged with
  | nil =>
      rw [settingAt_root, settingAt_root, settingAt_root, settingAt_root]
      exact ⟨fun _ => rfl, fun _ => Json.sameField_refl _⟩
  | cons key rest ih =>
      simp only [settingAt_cons]
      have field := merge_fields done key
      generalize latest.get? key = current, original.get? key = previous,
        submitted.get? key = value, merged.get? key = result at field ⊢
      cases field with
      | kept same =>
          rw [Json.sameField_fieldNode same]
          exact ⟨fun differs => Bool.noConfusion differs, fun _ => Json.sameField_refl _⟩
      | taken differs free =>
          refine ⟨fun _ => rfl, ?_⟩
          intro same
          rcases free with unmoved | agrees
          · exact Json.sameField_trans same
              (Json.sameField_symm (Json.sameField_fieldNode unmoved rest))
          · exact Json.sameField_symm (Json.sameField_fieldNode agrees rest)
      | nested differs latestShape previousShape submittedShape nested =>
          have inner := ih nested
          simp only [settingAt, Json.ofDict_of_asDict? latestShape,
            Json.ofDict_of_asDict? previousShape, Json.ofDict_of_asDict? submittedShape]
            at inner
          exact inner

theorem merged_of_ok {latest original submitted merged : Document}
    (done : mergeSnapshotChanges quoted latest original submitted = .ok merged)
    (path : List String)
    : ¬ Clashing (settingAt latest path) (settingAt original path)
        (settingAt submitted path) := by
  induction path generalizing latest original submitted merged with
  | nil =>
      rw [settingAt_root, settingAt_root, settingAt_root]
      intro clash
      exact absurd clash.1 (by rw [Json.sameField_refl]; exact Bool.noConfusion)
  | cons key rest ih =>
      simp only [settingAt_cons]
      have field := merge_fields done key
      generalize latest.get? key = current, original.get? key = previous,
        submitted.get? key = value, merged.get? key = result at field ⊢
      intro clash
      obtain ⟨changed, moved, apart⟩ := clash
      cases field with
      | kept same =>
          rw [Json.sameField_fieldNode same] at changed
          cases changed
      | taken differs free =>
          rcases free with unmoved | agrees
          · rw [Json.sameField_fieldNode unmoved] at moved
            cases moved
          · rw [Json.sameField_fieldNode agrees] at apart
            cases apart
      | nested differs latestShape previousShape submittedShape nested =>
          have inner := ih nested
          simp only [settingAt, Json.ofDict_of_asDict? latestShape,
            Json.ofDict_of_asDict? previousShape, Json.ofDict_of_asDict? submittedShape]
            at inner
          exact inner ⟨changed, moved, apart⟩

-- Conflicts

theorem holdsDict_ofDict (settings : Document) : holdsDict (some (.ofDict settings)) = true := by
  simp [holdsDict]

theorem conflictAt_field {latest original submitted : Document} {key : String}
    (clashing : Clashing (latest.get? key) (original.get? key) (submitted.get? key))
    (flat
      : ¬ (holdsDict (latest.get? key) ∧ holdsDict (original.get? key)
          ∧ holdsDict (submitted.get? key)))
    : ConflictAt latest original submitted [] key where
  dictionaries := ⟨holdsDict_ofDict _, holdsDict_ofDict _, holdsDict_ofDict _⟩
  clashing := by
    rw [List.nil_append, valueAt_field, valueAt_field, valueAt_field]
    exact clashing
  flat := by
    rw [List.nil_append, valueAt_field, valueAt_field, valueAt_field]
    exact flat

theorem conflictAt_of_error {latest original submitted : Document} {error : StorageError}
    (failed : mergeSnapshotChanges quoted latest original submitted = .error error)
    : ∃ front key, ConflictAt latest original submitted front key := by
  induction size : (Json.ofDict submitted).depth using Nat.strong_induction_on
    generalizing latest original submitted error with
  | h depth ih =>
      obtain ⟨key, conflict⟩ := merge_conflict failed
      generalize latestField : latest.get? key = current,
        originalField : original.get? key = previous,
        submittedField : submitted.get? key = value at conflict
      cases conflict with
      | clash differs moved apart flat =>
          subst latestField originalField submittedField
          exact ⟨[], key, conflictAt_field ⟨differs, moved, apart⟩ flat⟩
      | nested differs latestShape previousShape submittedShape nested =>
          have smaller := Json.depth_lt_of_get? (Json.asDict?_ofDict submitted) submittedField
          rw [← Json.ofDict_of_asDict? submittedShape, size] at smaller
          obtain ⟨front, last, dictionaries, clashing, flat⟩ := ih _ smaller nested rfl
          refine ⟨key :: front, last, ?_, ?_, ?_⟩
          · rw [valueAt_nested latestField latestShape, valueAt_nested originalField previousShape,
              valueAt_nested submittedField submittedShape]
            exact dictionaries
          · rw [List.cons_append, valueAt_nested latestField latestShape,
              valueAt_nested originalField previousShape,
              valueAt_nested submittedField submittedShape]
            exact clashing
          · rw [List.cons_append, valueAt_nested latestField latestShape,
              valueAt_nested originalField previousShape,
              valueAt_nested submittedField submittedShape]
            exact flat

theorem not_clashing_below {latest original submitted : Option Json}
    (same
      : sameField submitted original = true ∨ sameField latest original = true
        ∨ sameField latest submitted = true)
    (path : List String)
    : ¬ Clashing (latest.bind (Json.at? path)) (original.bind (Json.at? path))
        (submitted.bind (Json.at? path)) := by
  intro ⟨changed, moved, apart⟩
  rcases same with kept | unmoved | agrees
  · rw [Json.sameField_bind_at? kept] at changed
    cases changed
  · rw [Json.sameField_bind_at? unmoved] at moved
    cases moved
  · rw [Json.sameField_bind_at? agrees] at apart
    cases apart

/-- Where a merge succeeds no place is in conflict, by induction on the path to it. -/
theorem not_conflictAt_of_ok {latest original submitted merged : Document}
    (done : mergeSnapshotChanges quoted latest original submitted = .ok merged)
    (front : List String) (last : String)
    : ¬ ConflictAt latest original submitted front last := by
  induction front generalizing latest original submitted merged with
  | nil =>
      intro conflict
      obtain ⟨-, clashing, flat⟩ := conflict
      simp only [List.nil_append, valueAt_field] at clashing flat
      have field := merge_fields done last
      generalize latest.get? last = current, original.get? last = previous,
        submitted.get? last = value, merged.get? last = result at field clashing flat
      cases field with
      | kept same => exact Bool.false_ne_true (clashing.1.symm.trans same)
      | taken differs free =>
          rcases free with unmoved | agrees
          · exact Bool.false_ne_true (clashing.2.1.symm.trans unmoved)
          · exact Bool.false_ne_true (clashing.2.2.symm.trans agrees)
      | nested differs latestShape previousShape submittedShape nested =>
          apply flat
          simp [holdsDict, latestShape, previousShape, submittedShape]
  | cons key rest ih =>
      intro conflict
      obtain ⟨dictionaries, clashing, flat⟩ := conflict
      have field := merge_fields done key
      generalize latestField : latest.get? key = current,
        originalField : original.get? key = previous,
        submittedField : submitted.get? key = value, merged.get? key = result at field
      have below
          : ¬ (sameField value previous = true ∨ sameField current previous = true
              ∨ sameField current value = true) := by
        intro same
        apply not_clashing_below same (rest ++ [last])
        rw [← latestField, ← originalField, ← submittedField, ← valueAt_cons, ← valueAt_cons,
          ← valueAt_cons]
        exact clashing
      cases field with
      | kept same => exact below (.inl same)
      | taken differs free => exact below (.inr free)
      | nested differs latestShape previousShape submittedShape nested =>
          apply ih nested
          constructor
          · rw [← valueAt_nested latestField latestShape,
              ← valueAt_nested originalField previousShape,
              ← valueAt_nested submittedField submittedShape]
            exact dictionaries
          · rw [← valueAt_nested latestField latestShape,
              ← valueAt_nested originalField previousShape,
              ← valueAt_nested submittedField submittedShape]
            exact clashing
          · rw [← valueAt_nested latestField latestShape,
              ← valueAt_nested originalField previousShape,
              ← valueAt_nested submittedField submittedShape]
            exact flat

-- The merge

theorem fields_of_equals {left right : Document}
    (same : (Json.ofDict left).equals (.ofDict right) = true) (key : String)
    : sameField (left.get? key) (right.get? key) = true := by
  obtain ⟨fields, shape, agree⟩ :=
    (Json.equals_iff_of_asDict? (Json.asDict?_ofDict left)).mp same
  rw [Json.asDict?_ofDict] at shape
  cases shape
  exact agree key

theorem equals_of_fields {left right : Document}
    (agree : ∀ key, sameField (left.get? key) (right.get? key) = true)
    : (Json.ofDict left).equals (.ofDict right) = true :=
  (Json.equals_iff_of_asDict? (Json.asDict?_ofDict left)).mpr
    ⟨right, Json.asDict?_ofDict right, agree⟩

theorem merge_unchanged {latest original submitted : Document}
    (same : (Json.ofDict submitted).equals (.ofDict original) = true)
    : mergeSnapshotChanges quoted latest original submitted = .ok latest := by
  have none : deletedKeys original submitted = [] := by
    apply List.eq_nil_iff_forall_not_mem.mpr
    intro key member
    obtain ⟨listed, absent⟩ := mem_deletedKeys_iff.mp member
    have agree := Json.isSome_of_sameField (fields_of_equals same key)
    rw [absent, listed] at agree
    cases agree
  rw [mergeSnapshotChanges, ← deletedKeys, none]
  apply foldlM_unchanged
  intro item _
  have agree := fields_of_equals same item.val.1
  rw [Dict.mem_items_iff.mp item.property, Json.sameField_some_left] at agree
  obtain ⟨previous, found, equal⟩ := Option.any_eq_true _ _ |>.mp agree
  simp only [submitKey, found, equal, if_true]

/-- Fields that nobody else moved are merged to what was submitted. By induction on the depth of
the submission.
-/
theorem merged_equals_submitted {latest original submitted merged : Document}
    (unmoved : (Json.ofDict latest).equals (.ofDict original) = true)
    (done : mergeSnapshotChanges quoted latest original submitted = .ok merged)
    : (Json.ofDict merged).equals (.ofDict submitted) = true := by
  induction size : (Json.ofDict submitted).depth using Nat.strong_induction_on
    generalizing latest original submitted merged with
  | h depth ih =>
      apply equals_of_fields
      intro key
      have same := fields_of_equals unmoved key
      have field := merge_fields done key
      generalize latest.get? key = current, original.get? key = previous,
        submittedField : submitted.get? key = value, merged.get? key = result at field same ⊢
      cases field with
      | kept agrees => exact Json.sameField_trans same (Json.sameField_symm agrees)
      | taken differs free => exact Json.sameField_refl _
      | nested differs latestShape previousShape submittedShape nested =>
          have smaller := Json.depth_lt_of_get? (Json.asDict?_ofDict submitted) submittedField
          rw [← Json.ofDict_of_asDict? submittedShape, size] at smaller
          rw [Json.sameField_some, ← Json.ofDict_of_asDict? latestShape,
            ← Json.ofDict_of_asDict? previousShape] at same
          rw [Json.sameField_some, ← Json.ofDict_of_asDict? submittedShape]
          exact ih _ smaller same nested rfl

theorem merge_unmoved {latest original submitted : Document}
    (unmoved : (Json.ofDict latest).equals (.ofDict original) = true)
    : ∃ merged,
        mergeSnapshotChanges quoted latest original submitted = .ok merged
        ∧ (Json.ofDict merged).equals (.ofDict submitted) = true := by
  cases done : mergeSnapshotChanges quoted latest original submitted with
  | ok merged => exact ⟨merged, rfl, merged_equals_submitted unmoved done⟩
  | error error =>
      obtain ⟨front, key, _, clashing, _⟩ := conflictAt_of_error done
      have same := Json.sameField_at? unmoved (front ++ [key])
      exact absurd (clashing.2.1.symm.trans same) Bool.false_ne_true

variable (quoted)

theorem merge_error_iff (latest original submitted : Document)
    : (∃ error, mergeSnapshotChanges quoted latest original submitted = .error error)
      ↔ ∃ front key, ConflictAt latest original submitted front key := by
  constructor
  · intro ⟨error, failed⟩
    exact conflictAt_of_error failed
  · intro ⟨front, key, conflict⟩
    cases done : mergeSnapshotChanges quoted latest original submitted with
    | ok merged => exact (not_conflictAt_of_ok done front key conflict).elim
    | error error => exact ⟨error, rfl⟩

/-- The three-way merge of settings. It takes what was submitted wherever the submission changed
the snapshot, and keeps what is stored elsewhere. It fails exactly when a field was changed to
different outcomes, in dictionaries that all have, and is not a dictionary on all sides; so it
fails whenever a single place was.
-/
theorem mergeSnapshotChanges_law (latest original submitted : Document)
    : (∀ merged,
        mergeSnapshotChanges quoted latest original submitted = .ok merged
        → ∀ path,
            (sameField (settingAt submitted path) (settingAt original path) = false
              → settingAt merged path = settingAt submitted path)
            ∧ (sameField (settingAt submitted path) (settingAt original path) = true
              → sameField (settingAt merged path) (settingAt latest path) = true))
      ∧ ((∃ error, mergeSnapshotChanges quoted latest original submitted = .error error)
        ↔ ∃ front key, ConflictAt latest original submitted front key)
      ∧ (∀ path,
          Clashing (settingAt latest path) (settingAt original path) (settingAt submitted path)
          → ∃ error, mergeSnapshotChanges quoted latest original submitted = .error error)
      ∧ ((Json.ofDict submitted).equals (.ofDict original) = true
        → mergeSnapshotChanges quoted latest original submitted = .ok latest)
      ∧ ((Json.ofDict latest).equals (.ofDict original) = true
        → ∃ merged,
            mergeSnapshotChanges quoted latest original submitted = .ok merged
            ∧ (Json.ofDict merged).equals (.ofDict submitted) = true) := by
  refine ⟨fun merged done path => settingAt_merged done path, merge_error_iff quoted _ _ _, ?_,
    merge_unchanged, merge_unmoved⟩
  · intro path clash
    cases done : mergeSnapshotChanges quoted latest original submitted with
    | ok merged => exact (merged_of_ok done path clash).elim
    | error error => exact ⟨error, rfl⟩

end Merge

-- A section that both sides add

def syncSection (key : String) (value : Int) : Document :=
  (∅ : Document).setDict "sync" ((∅ : Document).set key (.int value))

theorem settingAt_syncSection_field (name other : String) (value number : Int) (key : String)
    : settingAt (syncSection name value) [key] = settingAt (syncSection other number) [key] := by
  rw [settingAt_cons, settingAt_cons, syncSection, syncSection, Document.setDict,
    Document.setDict, Dict.get?_set, Dict.get?_set]
  split
  · rw [Json.fieldNode, Json.fieldNode, Option.bind_some, Option.bind_some, Json.nodeAt,
      Json.nodeAt, Json.at?, Json.at?, Option.map_some, Option.map_some,
      Json.node_of_asDict? (Json.asDict?_ofDict _), Json.node_of_asDict? (Json.asDict?_ofDict _)]
  · rfl

theorem settingAt_syncSection_below {name next : String} (apart : next ≠ name) (value : Int)
    (key : String) (rest : List String)
    : settingAt (syncSection name value) (key :: next :: rest) = none := by
  rw [settingAt_cons, syncSection, Document.setDict, Dict.get?_set]
  split
  · rw [Json.fieldNode, Option.bind_some, Json.nodeAt_cons (Json.asDict?_ofDict _),
      Dict.get?_set, if_neg apart]
    rfl
  · rfl

/-- Two sides add a section with different keys: no place below it gets two outcomes, and yet the
merge fails. Had the snapshot shown the section empty, it would have succeeded, though both sides
changed the section to different outcomes.
-/
theorem added_sections_conflict
    : ((∃ error,
          mergeSnapshotChanges id (syncSection "movies" 1) ∅ (syncSection "series" 2) = .error error)
        ∧ ∀ path,
            ¬ Clashing (settingAt (syncSection "movies" 1) path) (settingAt ∅ path)
              (settingAt (syncSection "series" 2) path))
      ∧ (∃ merged,
          mergeSnapshotChanges id (syncSection "movies" 1) ((∅ : Document).setDict "sync" ∅)
            (syncSection "series" 2) = .ok merged)
      ∧ Clashing (valueAt (syncSection "movies" 1) ["sync"])
          (valueAt ((∅ : Document).setDict "sync" ∅) ["sync"])
          (valueAt (syncSection "series" 2) ["sync"]) := by
  refine ⟨⟨?_, ?_⟩, ?_, ?_⟩
  · have clash : Clashing ((syncSection "movies" 1).get? "sync") ((∅ : Document).get? "sync")
        ((syncSection "series" 2).get? "sync") := by
      unfold Clashing
      decide
    apply (merge_error_iff id _ _ _).mpr
    exact ⟨[], "sync", conflictAt_field clash (by decide)⟩
  · intro path ⟨changed, moved, apart⟩
    match path with
    | [] => exact absurd changed (by decide)
    | [key] =>
        rw [settingAt_syncSection_field "movies" "series" 1 2, Json.sameField_refl] at apart
        cases apart
    | key :: next :: rest =>
        by_cases movies : next = "movies"
        · rw [settingAt_syncSection_below (by rw [movies]; decide)] at changed
          cases changed
        · rw [settingAt_syncSection_below movies] at moved
          cases moved
  · have done : (mergeSnapshotChanges id (syncSection "movies" 1)
        ((∅ : Document).setDict "sync" ∅) (syncSection "series" 2)).isOk = true := by
      decide +kernel
    cases merged : mergeSnapshotChanges id (syncSection "movies" 1)
        ((∅ : Document).setDict "sync" ∅) (syncSection "series" 2) with
    | ok document => exact ⟨document, rfl⟩
    | error => rw [merged] at done; cases done
  · unfold Clashing
    decide

-- Many submissions of one snapshot

/-- Submissions of a snapshot, merged one after the other into what is stored. -/
def mergeInTurn (quoted : String → String) (original : Document)
    : Document → List Document → Except StorageError Document :=
  List.foldlM (fun latest submitted => mergeSnapshotChanges quoted latest original submitted)

/-- The settings have every change that was submitted, and what the snapshot had elsewhere. -/
def TakesOver (original : Document) (submissions : List Document) (merged : Document) : Prop :=
  ∀ path,
    (∀ submitted ∈ submissions,
      sameField (settingAt submitted path) (settingAt original path) = false
      → sameField (settingAt merged path) (settingAt submitted path) = true)
    ∧ ((∀ submitted ∈ submissions,
        sameField (settingAt submitted path) (settingAt original path) = true)
      → sameField (settingAt merged path) (settingAt original path) = true)

section Turns

variable {quoted : String → String} {original latest submitted merged : Document}
  {submissions others : List Document}

/-- One more submission is taken over: where an earlier one made a change, this one made the same
or none.
-/
theorem TakesOver.merge (taken : TakesOver original submissions latest)
    (done : mergeSnapshotChanges quoted latest original submitted = .ok merged)
    : TakesOver original (submissions ++ [submitted]) merged := by
  intro path
  obtain ⟨own, rest⟩ := settingAt_merged done path
  obtain ⟨changes, kept⟩ := taken path
  simp only [List.forall_mem_append, List.forall_mem_singleton]
  refine ⟨⟨fun earlier member moved => ?_, fun moved => own moved ▸ Json.sameField_refl _⟩,
    fun same => Json.sameField_trans (rest same.2) (kept same.1)⟩
  have before := changes earlier member moved
  cases change : sameField (settingAt submitted path) (settingAt original path) with
  | true => exact Json.sameField_trans (rest change) before
  | false =>
      have stored : sameField (settingAt latest path) (settingAt original path) = false := by
        rw [← Bool.not_eq_true] at moved ⊢
        exact mt (Json.sameField_trans (Json.sameField_symm before)) moved
      have agreed : sameField (settingAt latest path) (settingAt submitted path) = true := by
        by_contra apart
        exact merged_of_ok done path ⟨change, stored, Bool.eq_false_iff.mpr apart⟩
      rw [own change]
      exact Json.sameField_trans (Json.sameField_symm agreed) before

theorem takesOver_mergeInTurn {before : List Document} (taken : TakesOver original before latest)
    (done : mergeInTurn quoted original latest submissions = .ok merged)
    : TakesOver original (before ++ submissions) merged := by
  induction submissions generalizing latest before with
  | nil =>
      cases done
      simpa using taken
  | cons submitted submissions ih =>
      rw [mergeInTurn, List.foldlM_cons] at done
      cases first : mergeSnapshotChanges quoted latest original submitted with
      | error error =>
          rw [first] at done
          cases done
      | ok next =>
          rw [first] at done
          simpa using ih (taken.merge first) done

/-- Whoever saves a snapshot that all were shown, and in whatever order: if every save succeeds,
no change is lost, what nobody changed is as it was, and any other order in which every save
succeeds ends with the same settings.
-/
theorem submissions_all_kept
    (done : mergeInTurn quoted original original submissions = .ok merged)
    : TakesOver original submissions merged
      ∧ ∀ {others merged'},
          others.Perm submissions
          → mergeInTurn quoted original original others = .ok merged'
          → ∀ path, sameField (settingAt merged' path) (settingAt merged path) = true := by
  have start : TakesOver original [] original :=
    fun path => ⟨fun _ member => (nomatch member), fun _ => Json.sameField_refl _⟩
  have taken := takesOver_mergeInTurn start done
  refine ⟨taken, fun {others merged'} order again path => ?_⟩
  have taken' := takesOver_mergeInTurn start again
  by_cases changed : ∃ submitted ∈ submissions,
      sameField (settingAt submitted path) (settingAt original path) = false
  · obtain ⟨submitted, member, moved⟩ := changed
    exact Json.sameField_trans ((taken' path).1 submitted (order.mem_iff.mpr member) moved)
      (Json.sameField_symm ((taken path).1 submitted member moved))
  · have same (submitted : Document) (member : submitted ∈ submissions)
        : sameField (settingAt submitted path) (settingAt original path) = true := by
      by_contra moved
      exact changed ⟨submitted, member, Bool.eq_false_iff.mpr moved⟩
    exact Json.sameField_trans
      ((taken' path).2 (fun submitted member => same submitted (order.mem_iff.mp member)))
      (Json.sameField_symm ((taken path).2 same))

end Turns

theorem added_section_kept
    : ∃ merged,
        mergeInTurn id ∅ ∅ [syncSection "movies" 1, ∅] = .ok merged
        ∧ TakesOver ∅ [syncSection "movies" 1, ∅] merged := by
  obtain ⟨merged, first, -⟩ := @merge_unmoved id ∅ ∅ (syncSection "movies" 1) (Json.equals_refl _)
  have done : mergeInTurn id ∅ ∅ [syncSection "movies" 1, ∅] = .ok merged := by
    rw [mergeInTurn, List.foldlM_cons, first]
    show (mergeSnapshotChanges id merged ∅ ∅ >>= _) = _
    rw [merge_unchanged (Json.equals_refl _)]
    rfl
  exact ⟨merged, done, (submissions_all_kept done).1⟩

end OctoHubs.AppSettings
