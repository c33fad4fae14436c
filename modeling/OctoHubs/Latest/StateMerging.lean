import OctoHubs.Latest.StateDocuments

/-! What the merge of two stored states keeps: the evidence of both, all other fields of the
current entries, and itself when the same state is merged once more.
-/

namespace OctoHubs.Latest.Documents

open OctoHubs.Library

-- Joined dictionaries

section Joins

variable {join : Option Document → Document → Document} {target source : Document}

theorem get?_joinDicts_of_dict {key : String} {value : Document}
    (found : source.dictAt? key = some value)
    : (joinDicts join target source).get? key
      = some (.ofDict (join (target.dictAt? key) value)) := by
  obtain ⟨stored, present, shape⟩ := Option.bind_eq_some_iff.mp found
  have isDict : stored.isDict = true := by
    rw [Json.isDict, shape]
    rfl
  rw [joinDicts, Dict.get?_joinWith, Dict.get?_filter, present, Option.filter_some,
    if_pos isDict, Option.map_some, Option.some_or, shape, Option.getD_some]
  rfl

theorem get?_joinDicts_of_none {key : String} (missing : source.dictAt? key = none)
    : (joinDicts join target source).get? key = target.get? key := by
  have dropped : (source.get? key).filter (fun value => value.isDict) = none := by
    rw [Option.filter_eq_none_iff]
    intro value present
    rw [Document.dictAt?, present, Option.bind_some] at missing
    simp [Json.isDict, missing]
  rw [joinDicts, Dict.get?_joinWith, Dict.get?_filter, dropped, Option.map_none, Option.none_or]

theorem dictAt?_joinDicts (key : String)
    : Document.dictAt? (joinDicts join target source) key
      = ((source.dictAt? key).map (join (target.dictAt? key))).or (target.dictAt? key) := by
  cases found : source.dictAt? key with
  | none => rw [Document.dictAt?, get?_joinDicts_of_none found]; rfl
  | some value =>
      rw [Document.dictAt?, get?_joinDicts_of_dict found, Option.bind_some,
        Json.asDict?_ofDict]
      rfl

theorem joinDicts_eq_self
    (fixed
      : ∀ {key : String} {value : Document},
          source.dictAt? key = some value
          → ∃ kept,
              target.get? key = some (.ofDict kept) ∧ join (some kept) value = kept)
    : joinDicts join target source = target := by
  apply Dict.joinWith_eq_self
  intro key value found
  rw [Dict.get?_filter] at found
  obtain ⟨present, isDict⟩ := Option.filter_eq_some_iff.mp found
  obtain ⟨fields, shape⟩ := Option.isSome_iff_exists.mp isDict
  have stored : source.dictAt? key = some fields := by
    rw [Document.dictAt?, present, Option.bind_some, shape]
  obtain ⟨kept, known, same⟩ := fixed stored
  refine ⟨_, known, ?_⟩
  rw [Option.bind_some, Json.asDict?_ofDict, shape, Option.getD_some, same]

end Joins

-- One entry

def notificationFields : List String :=
  ["notified", "notified_at", "notified_destinations", "notified_publications"]

/-- The publication at the end of a path of publication keys. -/
def publicationAt (entry : Document) : List String → Option Document
  | [] => some entry
  | key :: rest =>
      ((entry.dictAt "notified_publications").dictAt? key).bind (publicationAt · rest)

/-- What a record of notifications can tell. -/
inductive Evidence
  | present
  | flag
  | destination (key : String)

def Holds (entry : Document) : Evidence → Prop
  | .present => True
  | .flag => (entry.field "notified").truthy = true
  | .destination key => key ∈ (entry.dictAt "notified_destinations").keys

/-- The entry has the evidence in the publication at the end of the path. -/
def Shows (entry : Document) (path : List String) (evidence : Evidence) : Prop :=
  ∃ publication, publicationAt entry path = some publication ∧ Holds publication evidence

section Entry

variable {levels : Nat} {target source : Document}

theorem get?_mergeFlags_of_ne {key : String} (flag : key ≠ "notified")
    (time : key ≠ "notified_at")
    : (mergeFlags target source).get? key = target.get? key := by
  unfold mergeFlags
  dsimp only
  split
  · rw [Dict.get?_set_ne _ _ time, Dict.get?_set_ne _ _ flag]
  · rw [Dict.get?_set_ne _ _ flag]

theorem get?_notified_mergeFlags
    : (mergeFlags target source).get? "notified"
      = some (.bool ((target.field "notified").truthy || (source.field "notified").truthy)) := by
  unfold mergeFlags
  dsimp only
  split
  · rw [Dict.get?_set_ne _ _ (by decide), Dict.get?_set_self]
  · rw [Dict.get?_set_self]

theorem get?_mergeDestinations_of_ne {key : String} (ne : key ≠ "notified_destinations")
    : (mergeDestinations target source).get? key = target.get? key := by
  unfold mergeDestinations
  split
  · rfl
  · exact Dict.get?_set_ne _ _ ne

theorem get?_mergeMetadataTo_of_other {key : String} (other : key ∉ notificationFields)
    : (mergeMetadataTo levels target source).get? key = target.get? key := by
  simp only [notificationFields, List.mem_cons, List.not_mem_nil, or_false, not_or] at other
  obtain ⟨flag, time, destinations, publications⟩ := other
  have kept
      : (mergeDestinations (mergeFlags target source) source).get? key = target.get? key := by
    rw [get?_mergeDestinations_of_ne destinations, get?_mergeFlags_of_ne flag time]
  cases levels with
  | zero => rfl
  | succ levels =>
      unfold mergeMetadataTo
      dsimp only
      split
      · exact kept
      · rw [Document.setDict, Dict.get?_set_ne _ _ publications, kept]

theorem get?_mergeMetadataTo_of_ne {key : String} (ne : key ≠ "notified_publications")
    : (mergeMetadataTo (levels + 1) target source).get? key
      = (mergeDestinations (mergeFlags target source) source).get? key := by
  unfold mergeMetadataTo
  dsimp only
  split
  · rfl
  · exact Dict.get?_set_ne _ _ ne

theorem get?_notified_merge
    : (mergeMetadataTo (levels + 1) target source).get? "notified"
      = some (.bool ((target.field "notified").truthy || (source.field "notified").truthy)) := by
  rw [get?_mergeMetadataTo_of_ne (by decide), get?_mergeDestinations_of_ne (by decide),
    get?_notified_mergeFlags]

theorem dictAt?_destinations_merge
    : Document.dictAt? (mergeMetadataTo (levels + 1) target source) "notified_destinations"
      = ((source.dictAt? "notified_destinations").map
          (Dict.update (target.dictAt "notified_destinations"))).or
          (target.dictAt? "notified_destinations") := by
  have before
      : Document.dictAt? (mergeFlags target source) "notified_destinations"
        = target.dictAt? "notified_destinations" := by
    rw [Document.dictAt?, get?_mergeFlags_of_ne (by decide) (by decide)]
    rfl
  rw [Document.dictAt?, get?_mergeMetadataTo_of_ne (by decide)]
  unfold mergeDestinations
  split
  · next missing =>
      rw [missing, Option.map_none, Option.none_or]
      exact before
  · next destinations found =>
      rw [found, Document.setDict, Dict.get?_set_self, Option.bind_some, Json.asDict?_ofDict,
        Document.dictAt, before]
      rfl

theorem dictAt?_publications_merge
    : Document.dictAt? (mergeMetadataTo (levels + 1) target source) "notified_publications"
      = ((source.dictAt? "notified_publications").map
          (joinDicts (fun current => mergeMetadataTo levels (current.getD ∅))
            (target.dictAt "notified_publications"))).or
          (target.dictAt? "notified_publications") := by
  have before
      : Document.dictAt? (mergeDestinations (mergeFlags target source) source)
          "notified_publications"
        = target.dictAt? "notified_publications" := by
    rw [Document.dictAt?, get?_mergeDestinations_of_ne (by decide),
      get?_mergeFlags_of_ne (by decide) (by decide)]
    rfl
  conv_lhs => unfold mergeMetadataTo
  dsimp only
  split
  · next missing =>
      rw [missing, before]
      rfl
  · next publications found =>
      rw [found, Document.dictAt?_setDict, if_pos rfl, Document.dictAt, before]
      rfl

theorem dictAt?_publication_merge (key : String)
    : (Document.dictAt (mergeMetadataTo (levels + 1) target source)
          "notified_publications").dictAt? key
      = (((source.dictAt "notified_publications").dictAt? key).map
          (mergeMetadataTo levels
            (((target.dictAt "notified_publications").dictAt? key).getD ∅))).or
          ((target.dictAt "notified_publications").dictAt? key) := by
  rw [Document.dictAt, dictAt?_publications_merge]
  cases found : source.dictAt? "notified_publications" with
  | none =>
      have empty : source.dictAt "notified_publications" = ∅ := by
        rw [Document.dictAt, found]
        rfl
      rw [empty]
      rfl
  | some publications =>
      have there : source.dictAt "notified_publications" = publications := by
        rw [Document.dictAt, found]
        rfl
      rw [there, Option.map_some, Option.some_or, Option.getD_some, dictAt?_joinDicts]

theorem Holds.of_target {evidence : Evidence} (holds : Holds target evidence)
    : Holds (mergeMetadataTo levels target source) evidence := by
  cases levels with
  | zero => exact holds
  | succ levels =>
      cases evidence with
      | present => trivial
      | flag =>
          have flag : (target.field "notified").truthy = true := holds
          rw [Holds, Document.field, get?_notified_merge, flag]
          rfl
      | destination key =>
          have known : key ∈ (target.dictAt "notified_destinations").keys := holds
          rw [Holds, Document.dictAt, dictAt?_destinations_merge]
          cases source.dictAt? "notified_destinations" with
          | none => exact known
          | some destinations =>
              rw [Option.map_some, Option.some_or, Option.getD_some, Dict.mem_keys_iff_isSome,
                Dict.get?_update, Option.isSome_or, Bool.or_eq_true]
              exact Or.inr (Dict.mem_keys_iff_isSome.mp known)

theorem Holds.of_source {evidence : Evidence} (holds : Holds source evidence)
    : Holds (mergeMetadataTo (levels + 1) target source) evidence := by
  cases evidence with
  | present => trivial
  | flag =>
      have flag : (source.field "notified").truthy = true := holds
      rw [Holds, Document.field, get?_notified_merge, flag, Bool.or_true]
      rfl
  | destination key =>
      have known : key ∈ (source.dictAt "notified_destinations").keys := holds
      rw [Document.dictAt] at known
      rw [Holds, Document.dictAt, dictAt?_destinations_merge]
      cases found : source.dictAt? "notified_destinations" with
      | none =>
          rw [found] at known
          cases known
      | some destinations =>
          rw [found] at known
          rw [Option.map_some, Option.some_or, Option.getD_some, Dict.mem_keys_iff_isSome,
            Dict.get?_update, Option.isSome_or, Bool.or_eq_true]
          exact Or.inl (Dict.mem_keys_iff_isSome.mp known)

/-- The merge keeps what the target shows, by induction on the path. -/
theorem Shows.of_target {path : List String} {evidence : Evidence}
    (shows_ : Shows target path evidence)
    : Shows (mergeMetadataTo levels target source) path evidence := by
  induction path generalizing levels target source with
  | nil =>
      obtain ⟨publication, same, holds⟩ := shows_
      cases same
      exact ⟨_, rfl, holds.of_target⟩
  | cons key rest ih =>
      obtain ⟨publication, found, holds⟩ := shows_
      obtain ⟨first, present, later⟩ := Option.bind_eq_some_iff.mp found
      cases levels with
      | zero => exact ⟨publication, found, holds⟩
      | succ levels =>
          rw [Shows, publicationAt, dictAt?_publication_merge]
          cases (source.dictAt "notified_publications").dictAt? key with
          | none =>
              rw [Option.map_none, Option.none_or, present]
              exact ⟨publication, later, holds⟩
          | some other =>
              rw [Option.map_some, Option.some_or, present]
              exact ih ⟨publication, later, holds⟩

/-- The merge takes over what the source shows within its levels, by induction on the path. -/
theorem Shows.of_source {path : List String} {evidence : Evidence}
    (shows_ : Shows source path evidence) (within : path.length < levels)
    : Shows (mergeMetadataTo levels target source) path evidence := by
  induction path generalizing levels target source with
  | nil =>
      obtain ⟨publication, same, holds⟩ := shows_
      cases same
      cases levels with
      | zero => cases within
      | succ levels => exact ⟨_, rfl, holds.of_source⟩
  | cons key rest ih =>
      obtain ⟨publication, found, holds⟩ := shows_
      obtain ⟨first, present, later⟩ := Option.bind_eq_some_iff.mp found
      cases levels with
      | zero => cases within
      | succ levels =>
          rw [Shows, publicationAt, dictAt?_publication_merge, present, Option.map_some,
            Option.some_or]
          exact ih ⟨publication, later, holds⟩ (Nat.lt_of_succ_lt_succ within)

/-- A path of publications is no longer than the entry is deep, by induction on the path. -/
theorem length_le_depth {entry publication : Document} {path : List String}
    (found : publicationAt entry path = some publication)
    : path.length ≤ (Json.ofDict entry).depth := by
  induction path generalizing entry with
  | nil => exact Nat.zero_le _
  | cons key rest ih =>
      obtain ⟨first, present, later⟩ := Option.bind_eq_some_iff.mp found
      rw [Document.dictAt] at present
      cases below : entry.dictAt? "notified_publications" with
      | none =>
          rw [below] at present
          cases present
      | some publications =>
          rw [below] at present
          obtain ⟨outer, outerFound, outerShape⟩ := Option.bind_eq_some_iff.mp below
          obtain ⟨inner, innerFound, innerShape⟩ := Option.bind_eq_some_iff.mp present
          have outerDepth := Json.depth_lt_of_get? (Json.asDict?_ofDict entry) outerFound
          have innerDepth := Json.depth_lt_of_get? outerShape innerFound
          have shorter := ih later
          rw [Json.ofDict_of_asDict? innerShape] at shorter
          rw [List.length_cons]
          omega

theorem shows_mergeNotificationMetadata {path : List String} {evidence : Evidence}
    (shows_ : Shows target path evidence ∨ Shows source path evidence)
    : Shows (mergeNotificationMetadata target source) path evidence := by
  obtain kept | added := shows_
  · exact kept.of_target
  · obtain ⟨publication, found, -⟩ := id added
    exact added.of_source (Nat.lt_succ_of_le (length_le_depth found))

end Entry

-- The same entry again

section Again

variable {levels : Nat} {target source : Document}

theorem get?_of_truthy {key : String} (there : (target.field key).truthy = true)
    : target.get? key = some (target.field key) := by
  cases found : target.get? key with
  | none =>
      rw [Document.field, found] at there
      cases there
  | some value => rw [Document.field, found, Option.getD_some]

theorem mergeFlags_eq_self {flag : Bool}
    (stored : target.get? "notified" = some (.bool flag))
    (covers : (source.field "notified").truthy = true → flag = true)
    (time
      : (source.field "notified_at").truthy = true
        → (source.field "notified").truthy = true
          ∨ (target.field "notified_at").truthy = false
        → target.get? "notified_at" = some (source.field "notified_at"))
    : mergeFlags target source = target := by
  have same
      : target.set "notified"
          (.bool ((target.field "notified").truthy || (source.field "notified").truthy))
        = target := by
    have read : target.field "notified" = .bool flag := by
      rw [Document.field, stored, Option.getD_some]
    have value : (flag || (source.field "notified").truthy) = flag := by
      cases here : (source.field "notified").truthy with
      | false => exact Bool.or_false flag
      | true => rw [covers here, Bool.or_true]
    apply Dict.set_of_get?
    rw [stored, read, Json.truthy, value]
  unfold mergeFlags
  dsimp only
  rw [same]
  split
  · next changes =>
      simp only [Bool.and_eq_true, Bool.or_eq_true, Bool.not_eq_true'] at changes
      exact Dict.set_of_get? (time changes.1 changes.2)
  · rfl

theorem mergeDestinations_eq_self
    (stored
      : ∀ destinations,
          source.dictAt? "notified_destinations" = some destinations
          → ∃ kept,
              target.get? "notified_destinations" = some (.ofDict kept)
              ∧ kept.update destinations = kept)
    : mergeDestinations target source = target := by
  unfold mergeDestinations
  split
  · rfl
  · next destinations found =>
      obtain ⟨kept, there, same⟩ := stored destinations found
      have read : target.dictAt "notified_destinations" = kept := by
        rw [Document.dictAt, Document.dictAt?, there, Option.bind_some, Json.asDict?_ofDict,
          Option.getD_some]
      rw [read, same]
      exact Dict.set_of_get? there

theorem mergeMetadataTo_eq_self
    (flags : mergeFlags target source = target)
    (destinations : mergeDestinations target source = target)
    (stored
      : ∀ publications,
          source.dictAt? "notified_publications" = some publications
          → ∃ kept,
              target.get? "notified_publications" = some (.ofDict kept)
              ∧ joinDicts (fun current => mergeMetadataTo levels (current.getD ∅)) kept
                  publications
                = kept)
    : mergeMetadataTo (levels + 1) target source = target := by
  unfold mergeMetadataTo
  rw [flags, destinations]
  dsimp only
  split
  · rfl
  · next publications found =>
      obtain ⟨kept, there, same⟩ := stored publications found
      have read : target.dictAt "notified_publications" = kept := by
        rw [Document.dictAt, Document.dictAt?, there, Option.bind_some, Json.asDict?_ofDict,
          Option.getD_some]
      rw [read, same]
      exact Dict.set_of_get? there

theorem update_update_self {destinations other : Document}
    : (destinations.update other).update other = destinations.update other := by
  apply Dict.update_eq_self
  intro key value found
  rw [Dict.get?_update, found, Option.some_or]

theorem get?_notified_at_merge
    : (mergeMetadataTo (levels + 1) target source).get? "notified_at"
      = if (source.field "notified_at").truthy
            && ((source.field "notified").truthy || !(target.field "notified_at").truthy) then
          some (source.field "notified_at")
        else target.get? "notified_at" := by
  have before (flag : Json)
      : Document.field (target.set "notified" flag) "notified_at"
        = target.field "notified_at" := by
    rw [Document.field_set, if_neg (by decide)]
  rw [get?_mergeMetadataTo_of_ne (by decide), get?_mergeDestinations_of_ne (by decide)]
  unfold mergeFlags
  dsimp only
  rw [before]
  split
  · exact Dict.get?_set_self _ _ _
  · exact Dict.get?_set_ne _ _ (by decide)

/-- Merging the same source into an entry once more changes nothing, by induction on the levels.
-/
theorem mergeMetadataTo_again
    : mergeMetadataTo levels (mergeMetadataTo levels target source) source
      = mergeMetadataTo levels target source := by
  induction levels generalizing target source with
  | zero => rfl
  | succ levels ih =>
      apply mergeMetadataTo_eq_self
      · apply mergeFlags_eq_self get?_notified_merge
        · intro flag
          rw [flag, Bool.or_true]
        · intro time wins
          rw [get?_notified_at_merge]
          split
          · rfl
          · next kept =>
              -- the target had a time of its own, which the source does not replace
              rw [time, Bool.true_and, Bool.or_eq_true, not_or, Bool.not_eq_true',
                Bool.not_eq_false] at kept
              have unset : (Document.field (mergeMetadataTo (levels + 1) target source)
                  "notified_at").truthy = false :=
                wins.resolve_left kept.1
              rw [Document.field, get?_notified_at_merge, if_neg (by simp [kept.1, kept.2])]
                at unset
              exact absurd kept.2 (by rw [Document.field, unset]; exact Bool.false_ne_true)
      · apply mergeDestinations_eq_self
        intro destinations found
        refine ⟨(target.dictAt "notified_destinations").update destinations, ?_,
          update_update_self⟩
        rw [get?_mergeMetadataTo_of_ne (by decide)]
        unfold mergeDestinations
        rw [found]
        dsimp only
        rw [Document.setDict, Dict.get?_set_self, Document.dictAt, Document.dictAt?,
          get?_mergeFlags_of_ne (by decide) (by decide)]
        rfl
      · intro publications found
        refine
          ⟨joinDicts (fun current => mergeMetadataTo levels (current.getD ∅))
            (target.dictAt "notified_publications") publications, ?_, ?_⟩
        · conv_lhs => unfold mergeMetadataTo
          rw [found]
          dsimp only
          rw [Document.setDict, Dict.get?_set_self, Document.dictAt, Document.dictAt?,
            get?_mergeDestinations_of_ne (by decide),
            get?_mergeFlags_of_ne (by decide) (by decide)]
          rfl
        · apply joinDicts_eq_self
          intro key value present
          exact ⟨_, get?_joinDicts_of_dict present, ih⟩

/-- Every publication of the entry, and the entry itself, holds its flag as a boolean. -/
def FlagsSet (entry : Document) : Prop :=
  ∀ path publication,
    publicationAt entry path = some publication
    → ∃ flag, publication.get? "notified" = some (.bool flag)

/-- An entry with its flags set is what merging it into itself gives, by induction on the levels.
-/
theorem mergeMetadataTo_self {entry : Document} (flags : FlagsSet entry)
    : mergeMetadataTo levels entry entry = entry := by
  induction levels generalizing entry with
  | zero => rfl
  | succ levels ih =>
      apply mergeMetadataTo_eq_self
      · obtain ⟨flag, stored⟩ := flags [] entry rfl
        apply mergeFlags_eq_self stored
        · intro set
          rw [Document.field, stored, Option.getD_some] at set
          exact set
        · intro time _
          exact get?_of_truthy time
      · apply mergeDestinations_eq_self
        intro destinations found
        obtain ⟨value, present, shape⟩ := Option.bind_eq_some_iff.mp found
        refine ⟨destinations, ?_, Dict.update_eq_self id⟩
        rw [Json.ofDict_of_asDict? shape, present]
      · intro publications found
        obtain ⟨value, present, shape⟩ := Option.bind_eq_some_iff.mp found
        refine ⟨publications, ?_, ?_⟩
        · rw [Json.ofDict_of_asDict? shape, present]
        · apply joinDicts_eq_self
          intro key publication inner
          obtain ⟨stored, there, innerShape⟩ := Option.bind_eq_some_iff.mp inner
          refine ⟨publication, ?_, ?_⟩
          · rw [Json.ofDict_of_asDict? innerShape, there]
          · apply ih
            intro path last reached
            apply flags (key :: path) last
            rw [publicationAt, Document.dictAt, found, Option.getD_some, inner]
            exact reached

end Again

-- Entries of a place

section Entries

variable {target source : Document}

theorem dictAt?_mergeEntries (key : String)
    : Document.dictAt? (mergeEntries target source) key
      = match target.dictAt? key, source.dictAt? key with
        | some kept, some entry => some (mergeNotificationMetadata kept entry)
        | some kept, none => some kept
        | none, some entry => if hasNotificationMetadata entry then some entry else none
        | none, none => none := by
  have chosen
      : Document.dictAt? (source.filter (fun key value =>
            (target.dictAt? key).isSome || value.asDict?.any hasNotificationMetadata)) key
        = (source.dictAt? key).filter (fun entry =>
            (target.dictAt? key).isSome || hasNotificationMetadata entry) := by
    change Option.bind (Dict.get? (source.filter _) key) Json.asDict?
      = ((source.get? key).bind Json.asDict?).filter _
    rw [Dict.get?_filter]
    generalize (target.dictAt? key).isSome = there
    cases source.get? key with
    | none => rfl
    | some value =>
        cases shape : value.asDict? with
        | none => cases there <;> simp [shape]
        | some entry =>
            by_cases passes : (there || hasNotificationMetadata entry) = true <;>
              simp [shape, passes, Option.filter_some]
  rw [mergeEntries, dictAt?_joinDicts, chosen]
  cases target.dictAt? key with
  | none =>
      cases source.dictAt? key with
      | none => rfl
      | some entry => by_cases worth : hasNotificationMetadata entry = true <;> simp [worth]
  | some kept =>
      cases source.dictAt? key with
      | none => rfl
      | some entry => rfl

theorem mergeEntries_eq_self
    (fixed
      : ∀ {key : String} {entry : Document},
          source.dictAt? key = some entry
          → (target.dictAt? key).isSome = true ∨ hasNotificationMetadata entry = true
          → ∃ kept,
              target.get? key = some (.ofDict kept)
              ∧ mergeNotificationMetadata kept entry = kept)
    : mergeEntries target source = target := by
  apply joinDicts_eq_self
  intro key entry found
  rw [Document.dictAt?, Dict.get?_filter] at found
  obtain ⟨value, chosen, shape⟩ := Option.bind_eq_some_iff.mp found
  obtain ⟨present, passes⟩ := Option.filter_eq_some_iff.mp chosen
  rw [shape, Option.any_some, Bool.or_eq_true] at passes
  exact fixed (by rw [Document.dictAt?, present, Option.bind_some, shape]) passes

/-- Every entry that is copied whole is what merging it into itself gives. -/
def Settles (target source : Document) : Prop :=
  ∀ key entry,
    source.dictAt? key = some entry
    → hasNotificationMetadata entry = true
    → (target.dictAt? key).isSome = true
      ∨ mergeNotificationMetadata entry entry = entry

theorem get?_mergeEntries {key : String} {entry : Document}
    (found : source.dictAt? key = some entry)
    (passes : (target.dictAt? key).isSome = true ∨ hasNotificationMetadata entry = true)
    : (mergeEntries target source).get? key
      = some
          (.ofDict
            ((target.dictAt? key).elim entry (fun kept =>
              mergeNotificationMetadata kept entry))) := by
  obtain ⟨value, present, shape⟩ := Option.bind_eq_some_iff.mp found
  apply get?_joinDicts_of_dict
  rw [Document.dictAt?, Dict.get?_filter, present, Option.filter_some, shape, Option.any_some,
    if_pos (Bool.or_eq_true_iff.mpr passes), Option.bind_some, shape]

theorem mergeEntries_again (settles : Settles target source)
    : mergeEntries (mergeEntries target source) source = mergeEntries target source := by
  apply mergeEntries_eq_self
  intro key entry found passes
  have before
      : (target.dictAt? key).isSome = true ∨ hasNotificationMetadata entry = true := by
    obtain there | worth := passes
    · rw [dictAt?_mergeEntries, found] at there
      cases kept : target.dictAt? key with
      | some kept => exact Or.inl rfl
      | none =>
          rw [kept] at there
          by_cases worth : hasNotificationMetadata entry = true
          · exact Or.inr worth
          · simp [worth] at there
    · exact Or.inr worth
  refine ⟨_, get?_mergeEntries found before, ?_⟩
  cases kept : target.dictAt? key with
  | some kept => exact mergeMetadataTo_again
  | none =>
      rw [kept] at before
      obtain missing | same := settles key entry found (before.resolve_left Bool.false_ne_true)
      · rw [kept] at missing
        cases missing
      · exact same

theorem settles_mergeEntries : Settles (mergeEntries target source) source := by
  intro key entry found worth
  apply Or.inl
  rw [dictAt?_mergeEntries, found]
  cases target.dictAt? key with
  | some kept => rfl
  | none => simp [worth]

theorem mergeEntries_empty : mergeEntries target ∅ = target := rfl

end Entries

-- Places of a server

inductive StateSection
  | movies
  | series
deriving DecidableEq

def StateSection.name : StateSection → String
  | .movies => "movies"
  | .series => "series"

/-- The dictionaries of entries that a server has. -/
inductive Place
  | items (section_ : StateSection)
  | history (name : String)

def entriesAt (server : Document) : Place → Document
  | .items section_ => (server.dictAt section_.name).dictAt "items"
  | .history name => (server.dictAt "history").dictAt name

section Server

variable {target source : Document}

theorem get?_mergeSection_of_ne {section_ key : String} (ne : key ≠ section_)
    : (mergeSectionNotifications section_ target source).get? key = target.get? key := by
  unfold mergeSectionNotifications
  split
  · rfl
  · exact Dict.get?_set_ne _ _ ne

theorem get?_mergeHistory_of_ne {key : String} (ne : key ≠ "history")
    : (mergeHistoryNotifications target source).get? key = target.get? key := by
  unfold mergeHistoryNotifications
  split
  · rfl
  · exact Dict.get?_set_ne _ _ ne

theorem dictAt_of_get? {key : String} {left right : Document}
    (same : left.get? key = right.get? key)
    : left.dictAt key = right.dictAt key := by
  rw [Document.dictAt, Document.dictAt?, same]
  rfl

theorem dictAt_of_dictAt? {fields value : Document} {key : String}
    (found : fields.dictAt? key = some value)
    : fields.dictAt key = value := by
  rw [Document.dictAt, found, Option.getD_some]

theorem items_mergeSection {section_ : String}
    : (Document.dictAt (mergeSectionNotifications section_ target source) section_).dictAt "items"
      = mergeEntries ((target.dictAt section_).dictAt "items")
          ((source.dictAt section_).dictAt "items") := by
  unfold mergeSectionNotifications
  split
  · next missing =>
      have empty : (source.dictAt section_).dictAt "items" = ∅ := by
        rw [Document.dictAt, Document.dictAt]
        cases found : source.dictAt? section_ with
        | none => rfl
        | some fields =>
            rw [found, Option.bind_some] at missing
            rw [Option.getD_some, missing]
            rfl
      rw [empty, mergeEntries_empty]
  · next items found =>
      obtain ⟨fields, there, below⟩ := Option.bind_eq_some_iff.mp found
      rw [dictAt_of_dictAt? there, dictAt_of_dictAt? below]
      simp only [Document.dictAt, Document.dictAt?_setDict, if_true, Option.getD_some]

theorem history_mergeHistory {name : String}
    : (Document.dictAt (mergeHistoryNotifications target source) "history").dictAt name
      = mergeEntries ((target.dictAt "history").dictAt name)
          ((source.dictAt "history").dictAt name) := by
  unfold mergeHistoryNotifications
  split
  · next missing =>
      have empty : (source.dictAt "history").dictAt name = ∅ := by
        rw [Document.dictAt, Document.dictAt, missing]
        rfl
      rw [empty, mergeEntries_empty]
  · next history found =>
      have written (value : Document)
          : Document.dictAt (target.setDict "history" value) "history" = value :=
        dictAt_of_dictAt? (by rw [Document.dictAt?_setDict, if_pos rfl])
      rw [dictAt_of_dictAt? found, written, Document.dictAt, dictAt?_joinDicts]
      cases entries : history.dictAt? name with
      | none =>
          have empty : history.dictAt name = ∅ := by
            rw [Document.dictAt, entries]
            rfl
          rw [empty, mergeEntries_empty]
          rfl
      | some entries_ =>
          rw [dictAt_of_dictAt? entries]
          rfl

theorem entriesAt_mergeServer (place : Place)
    : entriesAt (mergeServer target source) place
      = mergeEntries (entriesAt target place) (entriesAt source place) := by
  unfold mergeServer
  cases place with
  | items section_ =>
      cases section_ with
      | movies =>
          rw [entriesAt, StateSection.name,
            dictAt_of_get? (get?_mergeHistory_of_ne (by decide)),
            dictAt_of_get? (get?_mergeSection_of_ne (by decide))]
          exact items_mergeSection
      | series =>
          rw [entriesAt, StateSection.name,
            dictAt_of_get? (get?_mergeHistory_of_ne (by decide)), items_mergeSection,
            dictAt_of_get? (get?_mergeSection_of_ne (by decide))]
          rfl
  | history name =>
      rw [entriesAt, history_mergeHistory,
        dictAt_of_get?
          ((get?_mergeSection_of_ne (by decide)).trans (get?_mergeSection_of_ne (by decide)))]
      rfl

theorem mergeSection_again {section_ : String} {base : Document}
    (written
      : target.get? section_ = (mergeSectionNotifications section_ base source).get? section_)
    (settles
      : Settles ((base.dictAt section_).dictAt "items")
          ((source.dictAt section_).dictAt "items"))
    : mergeSectionNotifications section_ target source = target := by
  unfold mergeSectionNotifications at written ⊢
  split
  · rfl
  · next items found =>
      obtain ⟨fields, there, below⟩ := Option.bind_eq_some_iff.mp found
      rw [dictAt_of_dictAt? there, dictAt_of_dictAt? below] at settles
      rw [found] at written
      dsimp only at written
      rw [Document.setDict, Dict.get?_set_self] at written
      have outer
          : target.dictAt section_
            = (base.dictAt section_).setDict "items"
                (mergeEntries ((base.dictAt section_).dictAt "items") items) := by
        apply dictAt_of_dictAt?
        rw [Document.dictAt?, written, Option.bind_some, Json.asDict?_ofDict]
      have inner
          : (target.dictAt section_).dictAt "items"
            = mergeEntries ((base.dictAt section_).dictAt "items") items := by
        rw [outer]
        exact dictAt_of_dictAt? (by rw [Document.dictAt?_setDict, if_pos rfl])
      have same
          : (target.dictAt section_).setDict "items"
              (mergeEntries ((target.dictAt section_).dictAt "items") items)
            = target.dictAt section_ := by
        rw [inner, mergeEntries_again settles, outer]
        apply Dict.set_of_get?
        exact Dict.get?_set_self _ _ _
      dsimp only
      rw [same, outer]
      exact Dict.set_of_get? written

theorem mergeHistory_again {base : Document}
    (written
      : target.get? "history" = (mergeHistoryNotifications base source).get? "history")
    (settles
      : ∀ name,
          Settles ((base.dictAt "history").dictAt name) ((source.dictAt "history").dictAt name))
    : mergeHistoryNotifications target source = target := by
  unfold mergeHistoryNotifications at written ⊢
  split
  · rfl
  · next history found =>
      rw [found] at written
      dsimp only at written
      rw [Document.setDict, Dict.get?_set_self] at written
      rw [dictAt_of_dictAt? found] at settles
      have outer
          : target.dictAt "history"
            = joinDicts (fun current entries => mergeEntries (current.getD ∅) entries)
                (base.dictAt "history") history := by
        apply dictAt_of_dictAt?
        rw [Document.dictAt?, written, Option.bind_some, Json.asDict?_ofDict]
      have same
          : joinDicts (fun current entries => mergeEntries (current.getD ∅) entries)
              (target.dictAt "history") history
            = target.dictAt "history" := by
        rw [outer]
        apply joinDicts_eq_self
        intro name entries present
        refine ⟨_, get?_joinDicts_of_dict present, ?_⟩
        have settled := settles name
        rw [dictAt_of_dictAt? present] at settled
        exact mergeEntries_again settled
      rw [same, outer]
      exact Dict.set_of_get? written

theorem mergeServer_again
    (settles : ∀ place, Settles (entriesAt target place) (entriesAt source place))
    : mergeServer (mergeServer target source) source = mergeServer target source := by
  have movies
      : mergeSectionNotifications "movies" (mergeServer target source) source
        = mergeServer target source := by
    refine mergeSection_again ?_ (settles (.items .movies))
    exact (get?_mergeHistory_of_ne (by decide)).trans (get?_mergeSection_of_ne (by decide))
  have series
      : mergeSectionNotifications "series" (mergeServer target source) source
        = mergeServer target source := by
    refine mergeSection_again (get?_mergeHistory_of_ne (by decide)) ?_
    rw [dictAt_of_get? (get?_mergeSection_of_ne (by decide))]
    exact settles (.items .series)
  have history
      : mergeHistoryNotifications (mergeServer target source) source
        = mergeServer target source := by
    refine mergeHistory_again rfl (fun name => ?_)
    rw [dictAt_of_get?
      ((get?_mergeSection_of_ne (by decide)).trans (get?_mergeSection_of_ne (by decide)))]
    exact settles (.history name)
  conv_lhs => rw [mergeServer]
  rw [movies, series, history]

end Server

-- Whole states

def entryAt (state : Document) (serverId : String) (place : Place) (key : String)
    : Option Document :=
  (entriesAt (state.dictAt serverId) place).dictAt? key

section States

variable {current notification : Document}

theorem mergeServer_empty (target : Document) : mergeServer target ∅ = target := rfl

theorem dictAt_mergeNotificationUpdates (serverId : String)
    : Document.dictAt (mergeNotificationUpdates current notification) serverId
      = mergeServer (current.dictAt serverId) (notification.dictAt serverId) := by
  rw [Document.dictAt, mergeNotificationUpdates, dictAt?_joinDicts]
  cases found : notification.dictAt? serverId with
  | none =>
      have empty : notification.dictAt serverId = ∅ := by
        rw [Document.dictAt, found]
        rfl
      rw [empty, mergeServer_empty]
      rfl
  | some server =>
      rw [dictAt_of_dictAt? found]
      rfl

theorem entryAt_mergeNotificationUpdates {serverId : String} {place : Place} {key : String}
    : entryAt (mergeNotificationUpdates current notification) serverId place key
      = match entryAt current serverId place key, entryAt notification serverId place key with
        | some kept, some entry => some (mergeNotificationMetadata kept entry)
        | some kept, none => some kept
        | none, some entry => if hasNotificationMetadata entry then some entry else none
        | none, none => none := by
  rw [entryAt, dictAt_mergeNotificationUpdates, entriesAt_mergeServer, dictAt?_mergeEntries]
  rfl

theorem mergeNotificationUpdates_again
    (settles
      : ∀ serverId place,
          Settles (entriesAt (current.dictAt serverId) place)
            (entriesAt (notification.dictAt serverId) place))
    : mergeNotificationUpdates (mergeNotificationUpdates current notification) notification
      = mergeNotificationUpdates current notification := by
  apply joinDicts_eq_self
  intro serverId server found
  refine ⟨_, get?_joinDicts_of_dict found, ?_⟩
  apply mergeServer_again
  intro place
  have settled := settles serverId place
  rwa [dictAt_of_dictAt? found] at settled

end States

/-- A merge of two states keeps the evidence of both and all other fields of the current entries.
Merging the same state once more changes nothing where its entries have their flags set, and a
third merge changes nothing in any case.
-/
theorem mergeNotificationUpdates_keeps (current notification : Document)
    : (∀ serverId place key entry path evidence,
          (entryAt current serverId place key = some entry
              ∨ entryAt notification serverId place key = some entry
                ∧ hasNotificationMetadata entry = true)
          → Shows entry path evidence
          → ∃ merged,
              entryAt (mergeNotificationUpdates current notification) serverId place key
                = some merged
              ∧ Shows merged path evidence)
      ∧ (∀ serverId place key entry,
          entryAt current serverId place key = some entry
          → ∃ merged,
              entryAt (mergeNotificationUpdates current notification) serverId place key
                = some merged
              ∧ ∀ field ∉ notificationFields, merged.get? field = entry.get? field)
      ∧ ((∀ serverId place key entry,
            entryAt notification serverId place key = some entry
            → hasNotificationMetadata entry = true
            → FlagsSet entry)
          → mergeNotificationUpdates (mergeNotificationUpdates current notification)
              notification
            = mergeNotificationUpdates current notification)
      ∧ mergeNotificationUpdates
          (mergeNotificationUpdates (mergeNotificationUpdates current notification)
            notification)
          notification
        = mergeNotificationUpdates (mergeNotificationUpdates current notification)
            notification := by
  refine ⟨?_, ?_, ?_, ?_⟩
  · intro serverId place key entry path evidence found shows_
    rw [entryAt_mergeNotificationUpdates]
    obtain here | ⟨there, worth⟩ := found
    · rw [here]
      cases entryAt notification serverId place key with
      | none => exact ⟨entry, rfl, shows_⟩
      | some other => exact ⟨_, rfl, shows_mergeNotificationMetadata (Or.inl shows_)⟩
    · rw [there]
      cases entryAt current serverId place key with
      | none => exact ⟨entry, if_pos worth, shows_⟩
      | some kept => exact ⟨_, rfl, shows_mergeNotificationMetadata (Or.inr shows_)⟩
  · intro serverId place key entry found
    rw [entryAt_mergeNotificationUpdates, found]
    cases entryAt notification serverId place key with
    | none => exact ⟨entry, rfl, fun _ _ => rfl⟩
    | some other => exact ⟨_, rfl, fun _ outside => get?_mergeMetadataTo_of_other outside⟩
  · intro flags
    apply mergeNotificationUpdates_again
    intro serverId place key entry found worth
    exact Or.inr (mergeMetadataTo_self (flags serverId place key entry found worth))
  · apply mergeNotificationUpdates_again
    intro serverId place
    rw [dictAt_mergeNotificationUpdates, entriesAt_mergeServer]
    exact settles_mergeEntries

-- A copied entry without a flag

/-- A stored film that carries the time of its notification, but no flag. -/
def datedFilm : Document := Dict.set ∅ "notified_at" (.text "2024-01-01T00:00:00Z")

def datedState : Document :=
  Document.setDict ∅ "main"
    (Document.setDict ∅ "movies"
      (Document.setDict ∅ "items" (Document.setDict ∅ "film" datedFilm)))

/-- The first merge copies the film as it is, the second one writes its flag. -/
theorem datedState_changes_again
    : mergeNotificationUpdates (mergeNotificationUpdates ∅ datedState) datedState
      ≠ mergeNotificationUpdates ∅ datedState := by
  intro same
  have flags
      := congrArg
          (fun state =>
            (entryAt state "main" (.items .movies) "film").map
              (fun entry => (entry.get? "notified").isSome))
          same
  simp only [entryAt_mergeNotificationUpdates] at flags
  revert flags
  decide

end OctoHubs.Latest.Documents
