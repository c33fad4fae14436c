import Mathlib.Data.Rat.Encodable
import Mathlib.Data.W.Basic
import OctoHubs.AppSettings.Encryption
import OctoHubs.AppSettings.SnapshotMerge
import OctoHubs.Library.Decimals

/-! Saves of one snapshot of the settings, one after the other. The snapshot remembers what it
showed when it was loaded; what an earlier save stored is to the merge a change by others.
-/

namespace OctoHubs.AppSettings

open OctoHubs.Library
open Json (equals sameField)

section Store

variable (cipher : SettingsCipher) (json : JsonText) (rules : SecretRules)
  (quoted : String → String)

def storageErrorOf (error : AppSettingsCryptoError) : StorageError := ⟨error.message⟩

/-- The settings of the stored row, and the row after they were read: secrets that it shows are
encrypted.
-/
def loadAppSettings (row : Document) : Except StorageError (Document × Document) := do
  let (data, rewriteRequired) ←
    (decodeAppSettingsDocument cipher json rules row).mapError storageErrorOf
  if rewriteRequired then
    let stored ← (encodeAppSettingsDocument cipher json rules data).mapError storageErrorOf
    .ok (data, stored)
  else .ok (data, row)

/-- Save a snapshot that showed `original`: the row afterwards. -/
def saveAppSettings (original row submitted : Document) : Except StorageError Document := do
  let (latest, _) ← (decodeAppSettingsDocument cipher json rules row).mapError storageErrorOf
  let persisted ← mergeSnapshotChanges quoted latest original submitted
  (encodeAppSettingsDocument cipher json rules persisted).mapError storageErrorOf

def Holds (row settings : Document) : Prop :=
  ∃ shown,
    decodeAppSettingsDocument cipher json rules row = .ok (shown, false)
    ∧ (Json.ofDict shown).equals (.ofDict settings) = true

/-- Every save succeeds, and the row then holds what was saved. -/
def SavesExactly (original : Document) : Document → List Document → Prop
  | _, [] => True
  | row, submitted :: rest =>
      ∃ next,
        saveAppSettings cipher json rules quoted original row submitted = .ok next
        ∧ Holds cipher json rules next submitted
        ∧ SavesExactly original next rest

end Store

-- What a merge takes over as it is

/-- A field is taken over as it was submitted: it was stored already, or was stored as the
snapshot showed it, or so are the fields of dictionaries on all sides.
-/
inductive FieldCarried : (latest original submitted : Option Json) → Prop
  | stored {latest original submitted : Option Json}
    (same : sameField latest submitted = true)
    : FieldCarried latest original submitted
  | unmoved {latest original submitted : Option Json}
    (same : sameField latest original = true)
    : FieldCarried latest original submitted
  | nested {latest original submitted : Json} {current previous fields : Document}
    (latestShape : latest.asDict? = some current)
    (originalShape : original.asDict? = some previous)
    (submittedShape : submitted.asDict? = some fields)
    (each : ∀ key, FieldCarried (current.get? key) (previous.get? key) (fields.get? key))
    : FieldCarried (some latest) (some original) (some submitted)

/-- No key gets a third value: what the submission has is stored already, or the snapshot showed
what is stored.
-/
def Carried (latest original submitted : Document) : Prop :=
  ∀ key, FieldCarried (latest.get? key) (original.get? key) (submitted.get? key)

theorem FieldCarried.fields {latest original submitted : Json}
    {current previous fields : Document}
    (carried : FieldCarried (some latest) (some original) (some submitted))
    (latestShape : latest.asDict? = some current)
    (originalShape : original.asDict? = some previous)
    (submittedShape : submitted.asDict? = some fields)
    : Carried current previous fields := by
  intro key
  cases carried with
  | stored same =>
      rw [Json.sameField_some, ← Json.ofDict_of_asDict? latestShape,
        ← Json.ofDict_of_asDict? submittedShape] at same
      exact .stored (fields_of_equals same key)
  | unmoved same =>
      rw [Json.sameField_some, ← Json.ofDict_of_asDict? latestShape,
        ← Json.ofDict_of_asDict? originalShape] at same
      exact .unmoved (fields_of_equals same key)
  | nested latestShape' originalShape' submittedShape' each =>
      cases latestShape.symm.trans latestShape'
      cases originalShape.symm.trans originalShape'
      cases submittedShape.symm.trans submittedShape'
      exact each key

theorem FieldCarried.of_sameField {latest shown original submitted : Option Json}
    (carried : FieldCarried latest original submitted) (same : sameField shown latest = true)
    : FieldCarried shown original submitted := by
  induction carried generalizing shown with
  | stored agrees => exact .stored (Json.sameField_trans same agrees)
  | unmoved agrees => exact .unmoved (Json.sameField_trans same agrees)
  | nested latestShape originalShape submittedShape each ih =>
      cases shown with
      | none => cases same
      | some shown =>
          rcases (Json.equals_iff_of_asDict? latestShape).mp
            (Json.equals_symm (Json.sameField_some _ _ ▸ same)) with ⟨fields, shape, agree⟩
          exact
            .nested shape originalShape submittedShape
              (fun key => ih key (Json.sameField_symm (agree key)))

theorem Carried.of_equals {latest shown original submitted : Document}
    (carried : Carried latest original submitted)
    (same : (Json.ofDict shown).equals (.ofDict latest) = true)
    : Carried shown original submitted :=
  fun key => (carried key).of_sameField (fields_of_equals same key)

theorem FieldCarried.same_of_unchanged {latest original submitted : Option Json}
    (carried : FieldCarried latest original submitted)
    (unchanged : sameField submitted original = true)
    : sameField latest submitted = true := by
  induction carried with
  | stored same => exact same
  | unmoved same => exact Json.sameField_trans same (Json.sameField_symm unchanged)
  | nested latestShape originalShape submittedShape each ih =>
      rw [Json.sameField_some, ← Json.ofDict_of_asDict? originalShape,
        ← Json.ofDict_of_asDict? submittedShape] at unchanged
      rw [Json.sameField_some, ← Json.ofDict_of_asDict? latestShape,
        ← Json.ofDict_of_asDict? submittedShape]
      exact equals_of_fields (fun key => ih key (fields_of_equals unchanged key))

variable {quoted : String → String}

/-- By induction on the depth of the submission. -/
theorem merge_of_carried {latest original submitted : Document}
    (carried : Carried latest original submitted)
    : ∃ merged,
        mergeSnapshotChanges quoted latest original submitted = .ok merged
        ∧ (Json.ofDict merged).equals (.ofDict submitted) = true := by
  induction size : (Json.ofDict submitted).depth using Nat.strong_induction_on
    generalizing latest original submitted with
  | h depth ih =>
      have below {key : String} {latestField originalField submittedField : Json}
          {current previous fields : Document}
          (here : latest.get? key = some latestField)
          (shown : original.get? key = some originalField)
          (found : submitted.get? key = some submittedField)
          (latestShape : latestField.asDict? = some current)
          (originalShape : originalField.asDict? = some previous)
          (submittedShape : submittedField.asDict? = some fields)
          : ∃ merged,
              mergeSnapshotChanges quoted current previous fields = .ok merged
              ∧ (Json.ofDict merged).equals (.ofDict fields) = true := by
        have field := carried key
        rw [here, shown, found] at field
        have smaller := Json.depth_lt_of_get? (Json.asDict?_ofDict submitted) found
        rw [← Json.ofDict_of_asDict? submittedShape, size] at smaller
        exact ih _ smaller (field.fields latestShape originalShape submittedShape) rfl
      cases done : mergeSnapshotChanges quoted latest original submitted with
      | ok merged =>
          refine ⟨merged, rfl, equals_of_fields (fun key => ?_)⟩
          have field := merge_fields done key
          have kept := carried key
          generalize here : latest.get? key = latestField, shown : original.get? key = originalField,
            found : submitted.get? key = submittedField, merged.get? key = result at field kept ⊢
          cases field with
          | kept same => exact kept.same_of_unchanged same
          | taken differs free => exact Json.sameField_refl _
          | nested differs latestShape originalShape submittedShape nested =>
              rcases below here shown found latestShape originalShape submittedShape with
                ⟨other, otherDone, same⟩
              cases nested.symm.trans otherDone
              rw [Json.sameField_some, ← Json.ofDict_of_asDict? submittedShape]
              exact same
      | error error =>
          exfalso
          rcases merge_conflict done with ⟨key, conflict⟩
          have kept := carried key
          generalize here : latest.get? key = latestField, shown : original.get? key = originalField,
            found : submitted.get? key = submittedField at conflict kept
          cases conflict with
          | clash differs moved apart flat =>
              cases kept with
              | stored same => cases apart.symm.trans same
              | unmoved same => cases moved.symm.trans same
              | nested latestShape originalShape submittedShape each =>
                  exact flat (by simp [holdsDict, latestShape, originalShape, submittedShape])
          | nested differs latestShape originalShape submittedShape failed =>
              rcases below here shown found latestShape originalShape submittedShape with
                ⟨other, otherDone, same⟩
              cases failed.symm.trans otherDone

/-- By induction on the depth of the submission. -/
theorem carried_of_merge {latest original submitted merged : Document}
    (done : mergeSnapshotChanges quoted latest original submitted = .ok merged)
    (same : (Json.ofDict merged).equals (.ofDict submitted) = true)
    : Carried latest original submitted := by
  induction size : (Json.ofDict submitted).depth using Nat.strong_induction_on
    generalizing latest original submitted merged with
  | h depth ih =>
      intro key
      have field := merge_fields done key
      have agrees := fields_of_equals same key
      generalize latest.get? key = latestField, original.get? key = originalField,
        found : submitted.get? key = submittedField, merged.get? key = result at field agrees ⊢
      cases field with
      | kept unchanged => exact .stored agrees
      | taken differs free =>
          rcases free with unmoved | stored
          · exact .unmoved unmoved
          · exact .stored stored
      | nested differs latestShape originalShape submittedShape nested =>
          have smaller := Json.depth_lt_of_get? (Json.asDict?_ofDict submitted) found
          rw [← Json.ofDict_of_asDict? submittedShape, size] at smaller
          rw [Json.sameField_some, ← Json.ofDict_of_asDict? submittedShape] at agrees
          exact .nested latestShape originalShape submittedShape (ih _ smaller nested agrees rfl)

-- The saves of a snapshot

/-- No dictionary at any depth has the key of the envelopes. -/
def Plain (document : Document) : Prop := (Json.ofDict document).EveryKey (· ≠ envelopeKey)

theorem Plain.of_equals {left right : Document} (plain : Plain left)
    (same : (Json.ofDict left).equals (.ofDict right) = true)
    : Plain right :=
  Json.EveryKey.of_equals plain same

/-- A merge brings no keys of its own, by induction on the depth of the submission. -/
theorem Plain.merged {latest original submitted merged : Document} (latestPlain : Plain latest)
    (submittedPlain : Plain submitted)
    (done : mergeSnapshotChanges quoted latest original submitted = .ok merged)
    : Plain merged := by
  induction size : (Json.ofDict submitted).depth using Nat.strong_induction_on
    generalizing latest original submitted merged with
  | h depth ih =>
      refine Json.everyKey_ofDict (fun key value kept => ?_)
      have field := merge_fields done key
      rw [kept] at field
      generalize here : latest.get? key = latestField, original.get? key = originalField,
        found : submitted.get? key = submittedField, shape : some value = result at field
      cases field with
      | kept same => exact latestPlain.fields (Json.asDict?_ofDict _) (here.trans shape.symm)
      | taken differs free =>
          exact submittedPlain.fields (Json.asDict?_ofDict _) (found.trans shape.symm)
      | nested differs latestShape originalShape submittedShape nested =>
          cases shape
          rcases latestPlain.fields (Json.asDict?_ofDict _) here with ⟨allowed, latestBelow⟩
          have below := (submittedPlain.fields (Json.asDict?_ofDict _) found).2
          have smaller := Json.depth_lt_of_get? (Json.asDict?_ofDict submitted) found
          rw [← Json.ofDict_of_asDict? submittedShape, size] at smaller
          rw [← Json.ofDict_of_asDict? latestShape] at latestBelow
          rw [← Json.ofDict_of_asDict? submittedShape] at below
          exact ⟨allowed, ih _ smaller latestBelow below nested rfl⟩

/-- Each snapshot is carried over what was saved before it. -/
def CarriedInTurn (original : Document) : Document → List Document → Prop
  | _, [] => True
  | previous, submitted :: rest =>
      Carried previous original submitted ∧ CarriedInTurn original submitted rest

section Saves

variable {cipher : SettingsCipher} {json : JsonText} {rules : SecretRules}
  (invertible : cipher.Invertible) (reads : ∀ value, json.Reads value)

include invertible reads

theorem encode_holds {document : Document} (plain : Plain document)
    : ∃ row,
        encodeAppSettingsDocument cipher json rules document = .ok row
        ∧ Holds cipher json rules row document := by
  rcases encode_document invertible plain (fun secret _ => reads secret) with
    ⟨row, encoded, stored⟩
  exact ⟨row, encoded, stored.decode_document⟩

theorem save_exact_iff {original row previous submitted : Document}
    (holds : Holds cipher json rules row previous) (previousPlain : Plain previous)
    (submittedPlain : Plain submitted)
    : (∃ next,
          saveAppSettings cipher json rules quoted original row submitted = .ok next
          ∧ Holds cipher json rules next submitted)
      ↔ Carried previous original submitted := by
  rcases holds with ⟨shown, decoded, shownSame⟩
  have saved
      : saveAppSettings cipher json rules quoted original row submitted
        = mergeSnapshotChanges quoted shown original submitted >>= fun persisted =>
            (encodeAppSettingsDocument cipher json rules persisted).mapError storageErrorOf := by
    unfold saveAppSettings
    rw [decoded]
    rfl
  have shownPlain : Plain shown := previousPlain.of_equals (Json.equals_symm shownSame)
  rw [saved]
  constructor
  · intro ⟨next, done, nextHolds⟩
    rcases bind_eq_ok_iff.mp done with ⟨merged, mergedDone, encoded⟩
    rcases encode_holds invertible reads (shownPlain.merged submittedPlain mergedDone) with
      ⟨stored, storedEncoded, storedHolds⟩
    rw [storedEncoded] at encoded
    cases encoded
    rcases nextHolds with ⟨read, readDone, readSame⟩
    rcases storedHolds with ⟨other, otherDone, otherSame⟩
    cases readDone.symm.trans otherDone
    have carried :=
      carried_of_merge mergedDone (Json.equals_trans (Json.equals_symm otherSame) readSame)
    exact carried.of_equals (Json.equals_symm shownSame)
  · intro carried
    rcases @merge_of_carried quoted _ _ _ (carried.of_equals shownSame) with
      ⟨merged, mergedDone, mergedSame⟩
    rcases encode_holds invertible reads (shownPlain.merged submittedPlain mergedDone) with
      ⟨next, encoded, read, readDone, readSame⟩
    refine ⟨next, bind_eq_ok_iff.mpr ⟨merged, mergedDone, ?_⟩, read, readDone, ?_⟩
    · rw [encoded]
      rfl
    · exact Json.equals_trans readSame mergedSame

/-- The saves of a row that holds the settings, by induction on the snapshots. -/
theorem savesExactly_iff {original row previous : Document}
    (holds : Holds cipher json rules row previous) (previousPlain : Plain previous)
    {snapshots : List Document} (plain : ∀ submitted ∈ snapshots, Plain submitted)
    : SavesExactly cipher json rules quoted original row snapshots
      ↔ CarriedInTurn original previous snapshots := by
  induction snapshots generalizing row previous with
  | nil => exact Iff.rfl
  | cons submitted rest ih =>
      have submittedPlain := plain submitted List.mem_cons_self
      have restPlain : ∀ other ∈ rest, Plain other :=
        fun other member => plain other (List.mem_cons_of_mem _ member)
      have first :=
        @save_exact_iff quoted _ _ _ invertible reads original _ _ _ holds previousPlain
          submittedPlain
      constructor
      · intro ⟨next, done, nextHolds, more⟩
        exact
          ⟨first.mp ⟨next, done, nextHolds⟩, (ih nextHolds submittedPlain restPlain).mp more⟩
      · intro ⟨carried, more⟩
        rcases first.mpr carried with ⟨next, done, nextHolds⟩
        exact ⟨next, done, nextHolds, (ih nextHolds submittedPlain restPlain).mpr more⟩

theorem load_holds {row original stored : Document} (plain : Plain original)
    (loaded : loadAppSettings cipher json rules row = .ok (original, stored))
    : Holds cipher json rules stored original := by
  unfold loadAppSettings at loaded
  rcases bind_eq_ok_iff.mp loaded with ⟨⟨data, rewriteRequired⟩, decoded, kept⟩
  dsimp only at kept
  cases rewriteRequired with
  | true =>
      rw [if_pos rfl] at kept
      rcases bind_eq_ok_iff.mp kept with ⟨written, encoded, same⟩
      cases same
      rcases encode_holds invertible reads plain with ⟨other, otherEncoded, otherHolds⟩
      rw [otherEncoded] at encoded
      cases encoded
      exact otherHolds
  | false =>
      cases kept
      refine ⟨original, ?_, Json.equals_refl _⟩
      cases read : decodeAppSettingsDocument cipher json rules row with
      | error failure =>
          rw [read] at decoded
          cases decoded
      | ok value =>
          rw [read] at decoded
          cases decoded
          rfl

end Saves

/-- Saves of one snapshot that was loaded all succeed and store what it says exactly when each of
them gives no key a value that differs both from what was saved before and from what was loaded.
-/
theorem repeatedSaves_exact_iff (cipher : SettingsCipher) (json : JsonText) (rules : SecretRules)
    (quoted : String → String) (invertible : cipher.Invertible)
    (reads : ∀ value, json.Reads value) {row original stored : Document}
    (loaded : loadAppSettings cipher json rules row = .ok (original, stored))
    {snapshots : List Document} (plain : ∀ document ∈ original :: snapshots, Plain document)
    : SavesExactly cipher json rules quoted original stored snapshots
      ↔ CarriedInTurn original original snapshots := by
  have originalPlain := plain original List.mem_cons_self
  exact
    savesExactly_iff invertible reads (load_holds invertible reads originalPlain loaded)
      originalPlain (fun submitted member => plain submitted (List.mem_cons_of_mem _ member))

instance encodableText : Encodable String :=
  Encodable.ofLeftInverse (fun text => text.toList.map Char.toNat)
    (fun codes => String.ofList (codes.map Char.ofNat)) (fun text => by
      rw [List.map_map]
      have same : Char.ofNat ∘ Char.toNat = id := funext Char.ofNat_toNat
      rw [same, List.map_id, String.ofList_toList])

/-- What a value is, without the values in it. -/
abbrev JsonHead : Type :=
  Unit ⊕ Bool ⊕ Int ⊕ (Rat × String) ⊕ String ⊕ Nat ⊕ {keys : List String // keys.Nodup}

def headSize : JsonHead → Nat
  | .inr (.inr (.inr (.inr (.inr (.inl length))))) => length
  | .inr (.inr (.inr (.inr (.inr (.inr keys))))) => keys.val.length
  | _ => 0

abbrev JsonTree : Type := WType (fun head : JsonHead => Fin (headSize head))

def treeOf : Json → JsonTree
  | .null => .mk (.inl ()) Fin.elim0
  | .bool value => .mk (.inr (.inl value)) Fin.elim0
  | .int value => .mk (.inr (.inr (.inl value))) Fin.elim0
  | .float value shown => .mk (.inr (.inr (.inr (.inl (value, shown))))) Fin.elim0
  | .text value => .mk (.inr (.inr (.inr (.inr (.inl value))))) Fin.elim0
  | .list length values =>
      .mk (.inr (.inr (.inr (.inr (.inr (.inl length)))))) (fun index => treeOf (values index))
  | .object keys unique values =>
      .mk (.inr (.inr (.inr (.inr (.inr (.inr ⟨keys, unique⟩))))))
        (fun index => treeOf (values index))

def ofTree : JsonTree → Json
  | .mk (.inl _) _ => .null
  | .mk (.inr (.inl value)) _ => .bool value
  | .mk (.inr (.inr (.inl value))) _ => .int value
  | .mk (.inr (.inr (.inr (.inl (value, shown))))) _ => .float value shown
  | .mk (.inr (.inr (.inr (.inr (.inl value))))) _ => .text value
  | .mk (.inr (.inr (.inr (.inr (.inr (.inl length)))))) trees =>
      .list length (fun index => ofTree (trees index))
  | .mk (.inr (.inr (.inr (.inr (.inr (.inr keys)))))) trees =>
      .object keys.val keys.property (fun index => ofTree (trees index))

theorem ofTree_treeOf (value : Json) : ofTree (treeOf value) = value := by
  induction value with
  | list length values ih =>
      rw [treeOf, ofTree]
      exact congrArg (Json.list length) (funext ih)
  | object keys unique values ih =>
      rw [treeOf, ofTree]
      exact congrArg (Json.object keys unique) (funext ih)
  | _ => rfl

def numberedText : JsonText where
  dumps? value := some (String.ofList (Nat.toDigits 10 (Encodable.encode (treeOf value))))
  loads? shown :=
    have tree : Option JsonTree :=
      Encodable.decode (DecimalDigits.ascii.number 0 shown.toList)
    tree.map ofTree

theorem numberedText_reads (value : Json) : numberedText.Reads value := by
  refine ⟨_, value, rfl, ?_, Json.equals_refl value⟩
  simp [numberedText, DecimalDigits.number_toDigits, ofTree_treeOf]

def limitSettings (limit : Int) : Document := (∅ : Document).set "LIMIT" (.int limit)

theorem limitSettings_plain (limit : Int) : Plain (limitSettings limit) := by
  refine Json.everyKey_ofDict (fun key value found => ?_)
  rw [limitSettings, Dict.get?_set] at found
  split at found
  · next same =>
      cases found
      exact ⟨same ▸ by decide, trivial⟩
  · cases found

theorem load_limitSettings (limit : Int)
    : loadAppSettings reversingCipher numberedText plainSecretRules (limitSettings limit)
      = .ok (limitSettings limit, limitSettings limit) := by
  have read
      : decode reversingCipher numberedText plainSecretRules none (.ofDict (limitSettings limit))
        = .ok (.ofDict (limitSettings limit), false) := by
    have keys : (limitSettings limit).keys = ["LIMIT"] := rfl
    have bare : envelopeKey ∉ (limitSettings limit).keys := by
      rw [keys]
      decide
    refine decode_object bare rfl (fun index => ?_)
    have first : index = ⟨0, Nat.zero_lt_one⟩ := Fin.ext (Nat.lt_one_iff.mp index.isLt)
    have exposed
        : requiresEncryption plainSecretRules (some "LIMIT") (.int limit) = false :=
      requiresEncryption_eq_false (by decide) (by decide)
    have number
        : decode reversingCipher numberedText plainSecretRules (some "LIMIT") (.int limit)
          = .ok (.int limit, false) := by
      rw [decode.eq_def, exposed]
      rfl
    rw [first]
    exact number
  unfold loadAppSettings decodeAppSettingsDocument
  rw [read]
  simp only [bind, Except.bind, Json.asDict?_ofDict]
  rfl

theorem limitSettings_field (limit : Int) (key : String)
    : (limitSettings limit).get? key = if key = "LIMIT" then some (.int limit) else none := by
  rw [limitSettings, Dict.get?_set]
  rfl

theorem carried_limitSettings (latest original submitted : Int)
    : Carried (limitSettings latest) (limitSettings original) (limitSettings submitted)
      ↔ latest = submitted ∨ latest = original := by
  constructor
  · intro carried
    have field := carried "LIMIT"
    simp only [limitSettings_field, if_true] at field
    cases field with
    | stored same => exact .inl (by simpa [equals, Json.number?, eq_comm] using same)
    | unmoved same => exact .inr (by simpa [equals, Json.number?, eq_comm] using same)
    | nested latestShape originalShape submittedShape each => cases latestShape
  · intro same key
    rw [limitSettings_field, limitSettings_field, limitSettings_field]
    rcases same with same | same
    · subst same
      exact .stored (Json.sameField_refl _)
    · subst same
      exact .unmoved (Json.sameField_refl _)

/-- A limit that is saved twice is stored. -/
theorem limit_saved_twice
    : SavesExactly reversingCipher numberedText plainSecretRules id (limitSettings 1)
      (limitSettings 1) [limitSettings 2, limitSettings 2] := by
  refine
    (repeatedSaves_exact_iff reversingCipher numberedText plainSecretRules id
      reversingCipher_invertible numberedText_reads (load_limitSettings 1) ?_).mpr ?_
  · simp [limitSettings_plain]
  · exact
      ⟨(carried_limitSettings 1 1 2).mpr (.inr rfl), (carried_limitSettings 2 1 2).mpr (.inl rfl),
        trivial⟩

/-- A limit that is changed twice is refused the second time, and one that is changed back is
not stored.
-/
theorem limit_changed_twice
    : loadAppSettings reversingCipher numberedText plainSecretRules (limitSettings 1)
        = .ok (limitSettings 1, limitSettings 1)
      ∧ ¬SavesExactly reversingCipher numberedText plainSecretRules id (limitSettings 1)
          (limitSettings 1) [limitSettings 2, limitSettings 3]
      ∧ ¬SavesExactly reversingCipher numberedText plainSecretRules id (limitSettings 1)
          (limitSettings 1) [limitSettings 2, limitSettings 1] := by
  have loaded := load_limitSettings 1
  have holds :=
    load_holds reversingCipher_invertible numberedText_reads (limitSettings_plain 1) loaded
  refine ⟨loaded, ?_, ?_⟩
  · rw [savesExactly_iff reversingCipher_invertible numberedText_reads holds
      (limitSettings_plain 1) (by simp [limitSettings_plain])]
    intro saved
    have second := saved.2.1
    rcases (carried_limitSettings 2 1 3).mp second with same | same
    · cases same
    · cases same
  · rw [savesExactly_iff reversingCipher_invertible numberedText_reads holds
      (limitSettings_plain 1) (by simp [limitSettings_plain])]
    intro saved
    have second := saved.2.1
    rcases (carried_limitSettings 2 1 1).mp second with same | same
    · cases same
    · cases same

end OctoHubs.AppSettings
