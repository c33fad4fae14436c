import OctoHubs.AppSettings.RepeatedSaves
import OctoHubs.Library.ItemFolds
import OctoHubs.Library.Decimals
import OctoHubs.UserSettings.DisplayPreferences
import OctoHubs.UserSettings.NormalizedSettings

/-! Display preferences that are written are read back: a normalized patch is what the written
payload says of its fields, and all other preferences, entries and properties are as before.
-/

namespace OctoHubs.UserSettings

open OctoHubs.Library

-- The schema

/-- The bytes of a key. A literal is compared by them without being decoded. -/
def bytesOf (key : String) : List UInt8 := key.toByteArray.data.toList

theorem bytesOf_prefix {start key : String}
    (leads : start.toList.isPrefixOf key.toList = true)
    : (bytesOf start).isPrefixOf (bytesOf key) = true := by
  obtain ⟨rest, whole⟩ := List.isPrefixOf_iff_prefix.mp leads
  rw [List.isPrefixOf_iff_prefix]
  refine ⟨rest.utf8Encode.data.toList, ?_⟩
  simp [bytesOf, ← String.utf8Encode_toList, ← whole, List.utf8Encode_append]

/-- The keys of the policy and of the configuration begin with a capital letter, those of the
display preferences do not. -/
def capital (key : String) : Bool := (bytesOf key).head?.any (fun byte => 65 ≤ byte ∧ byte ≤ 90)

theorem serverFields_capital
    : ∀ field ∈ policyFields ++ configFields, capital field.key = true := by
  decide

theorem displayFields_not_capital : ∀ field ∈ displayFields, capital field.key = false := by
  decide

theorem displayField_of_key {field other : FieldMeta} (display : other ∈ displayFields)
    (member : field ∈ allFields) (same : field.key = other.key)
    : field ∈ displayFields := by
  rcases List.mem_append.mp member with server | found
  · have upper := serverFields_capital field server
    rw [same, displayFields_not_capital other display] at upper
    cases upper
  · exact found

theorem exists_displayField {key : String} (listed : key ∈ settingsDisplayPrefFields)
    : ∃ field ∈ displayFields, field.key = key ∧ key ≠ libraryLandingKey := by
  rcases List.mem_filter.mp listed with ⟨mapped, other⟩
  obtain ⟨field, member, same⟩ := List.mem_map.mp mapped
  exact ⟨field, member, same, of_decide_eq_true other⟩

theorem settingsFieldMeta_some {key : String} {field : FieldMeta}
    (found : settingsFieldMeta key = some field)
    : field.key = key ∧ field ∈ allFields := by
  rw [settingsFieldMeta] at found
  have held := List.find?_some found
  exact ⟨(of_decide_eq_true held).1, List.mem_of_find?_eq_some found⟩

theorem fieldMeta_of_listed {key : String} (listed : key ∈ settingsDisplayPrefFields)
    : ∃ field ∈ displayFields, field.key = key ∧ settingsFieldMeta key = some field := by
  obtain ⟨display, displayed, same, other⟩ := exists_displayField listed
  have known : (settingsFieldMeta key).isSome = true := by
    rw [settingsFieldMeta, List.find?_isSome]
    exact ⟨display, List.mem_append_right _ displayed, by simp [same, other]⟩
  obtain ⟨field, found⟩ := Option.isSome_iff_exists.mp known
  have here : field.key = key := (settingsFieldMeta_some found).1
  exact ⟨field, displayField_of_key displayed (settingsFieldMeta_some found).2
    (here.trans same.symm), here, found⟩

theorem displayFields_kinds
    : ∀ field ∈ displayFields, field.key ≠ libraryLandingKey →
        field.kind ∈ [.bool, .int, .select, .text] := by
  decide

theorem not_listed_of_kinds {key : String} {kinds : List FieldKind}
    (listed : key ∈ settingsDisplayPrefFields)
    (none : ∀ kind ∈ kinds, kind ∉ [.bool, .int, .select, .text])
    : key ∉ (allFields.filter (fun field => field.kind ∈ kinds)).map FieldMeta.key := by
  intro other
  obtain ⟨field, filtered, same⟩ := List.mem_map.mp other
  rcases List.mem_filter.mp filtered with ⟨member, kind⟩
  obtain ⟨display, displayed, here, named⟩ := exists_displayField listed
  exact none field.kind (of_decide_eq_true kind)
    (displayFields_kinds field (displayField_of_key displayed member (same.trans here.symm))
      (by rwa [same]))

theorem displayPref_kinds {key : String} (listed : key ∈ settingsDisplayPrefFields)
    : settingsKind key ∈ [some .bool, some .int, some .select, some .text]
      ∧ key ∉ settingsListFields ∧ key ∉ settingsJsonFields := by
  refine ⟨?_, not_listed_of_kinds listed (by decide), not_listed_of_kinds listed (by decide)⟩
  obtain ⟨field, member, same, found⟩ := fieldMeta_of_listed listed
  obtain ⟨-, -, -, other⟩ := exists_displayField listed
  have kind := displayFields_kinds field member (by rwa [same])
  simpa [settingsKind, found] using kind

theorem displayJson_shape
    : ∀ field ∈ settingsDisplayJsonFields,
        field.key ≠ libraryLandingKey ∧ field.kind = .select
        ∧ (∀ other ∈ displayFields, other.key = field.key →
            other.kind = field.kind ∧ other.container = field.container)
        ∧ ∀ pair ∈ field.container,
            pair.1 ∉ settingsDisplayPrefFields
            ∧ (bytesOf "landing-").isPrefixOf (bytesOf pair.1) = false := by
  decide

theorem displayJson_fields (field : FieldMeta) (member : field ∈ settingsDisplayJsonFields)
    : field.key ∈ settingsDisplayPrefFields ∧ containerOf field.key = field.container
      ∧ settingsKind field.key = some .select
      ∧ ∀ pair ∈ field.container, isAllowedDisplayPrefKey pair.1 = false := by
  obtain ⟨other, kind, same, entries⟩ := displayJson_shape field member
  have listed : field.key ∈ settingsDisplayPrefFields :=
    List.mem_filter.mpr
      ⟨List.mem_map_of_mem (List.mem_of_mem_filter member), decide_eq_true other⟩
  obtain ⟨known, displayed, here, found⟩ := fieldMeta_of_listed listed
  obtain ⟨knownKind, knownContainer⟩ := same known displayed here
  refine ⟨listed, ?_, ?_, ?_⟩
  · rw [containerOf, found, Option.bind_some, knownContainer]
  · rw [settingsKind, found, Option.map_some, knownKind, kind]
  · intro pair held
    obtain ⟨unlisted, plain⟩ := entries pair held
    refine decide_eq_false (not_or.mpr ⟨unlisted, fun dynamic => ?_⟩)
    have leads := bytesOf_prefix dynamic
    rw [plain] at leads
    cases leads

theorem displayJson_keys_unique : (settingsDisplayJsonFields.map FieldMeta.key).Nodup := by
  decide

theorem displayJson_containers_unique
    : (settingsDisplayJsonFields.map FieldMeta.container).Nodup := by
  decide

theorem container_listed {key : String} (listed : key ∈ settingsDisplayPrefFields)
    (contained : (containerOf key).isSome = true)
    : key ∈ settingsDisplayJsonFields.map FieldMeta.key := by
  obtain ⟨field, member, same, found⟩ := fieldMeta_of_listed listed
  rw [containerOf, found] at contained
  exact List.mem_map.mpr ⟨field, List.mem_filter.mpr ⟨member, contained⟩, same⟩

theorem allFields_not_dynamic {field : FieldMeta} (member : field ∈ allFields)
    : isDynamicDisplayPrefKey field.key = false := by
  have other
      : ∀ known ∈ allFields, (bytesOf "landing-").isPrefixOf (bytesOf known.key) = false := by
    decide +kernel
  by_contra dynamic
  have leads := bytesOf_prefix (Bool.of_not_eq_false dynamic)
  rw [other field member] at leads
  cases leads

theorem fieldMeta_of_dynamic {key : String} (dynamic : isDynamicDisplayPrefKey key = true)
    : settingsFieldMeta key = none := by
  rw [settingsFieldMeta, List.find?_eq_none]
  intro field member same
  have here : field.key = key := (of_decide_eq_true same).1
  have other := allFields_not_dynamic member
  rw [here, dynamic] at other
  cases other

theorem exists_field_of_container {key : String} {pair : String × String}
    (allowed : isAllowedDisplayPrefKey key = true) (container : containerOf key = some pair)
    : ∃ field ∈ settingsDisplayJsonFields, field.key = key ∧ field.container = some pair := by
  have listed : key ∈ settingsDisplayPrefFields := by
    rcases of_decide_eq_true allowed with listed | dynamic
    · exact listed
    · rw [containerOf, fieldMeta_of_dynamic dynamic] at container
      cases container
  obtain ⟨field, member, same⟩ :=
    List.mem_map.mp (container_listed listed (by rw [container]; rfl))
  refine ⟨field, member, same, ?_⟩
  rw [← (displayJson_fields field member).2.1, same, container]

theorem container_spec {key other : String} {pair : String × String}
    (allowed : isAllowedDisplayPrefKey key = true) (container : containerOf key = some pair)
    : isAllowedDisplayPrefKey pair.1 = false
      ∧ (isAllowedDisplayPrefKey other = true → containerOf other = some pair → other = key) := by
  obtain ⟨field, member, same, held⟩ := exists_field_of_container allowed container
  refine ⟨(displayJson_fields field member).2.2.2 pair held, ?_⟩
  intro otherAllowed otherContainer
  obtain ⟨second, secondMember, secondSame, secondHeld⟩ :=
    exists_field_of_container otherAllowed otherContainer
  have one : field = second :=
    List.inj_on_of_nodup_map displayJson_containers_unique member secondMember
      (held.trans secondHeld.symm)
  rw [← secondSame, ← one, same]

-- Values

/-- What holds of the letters of every script, of numbers as texts, and of texts of JSON. -/
structure SettingsRules.Lawful (rules : SettingsRules) : Prop where
  letters : rules.toAlphabet.Lawful
  readInt?_toString : ∀ number : Int, rules.readInt? (toString number) = some number
  loads?_dumps : ∀ value, rules.loads? (rules.dumps value) = some value
  dumps_visible : ∀ value, strip (rules.dumps value) ≠ ""

variable {rules : SettingsRules}

theorem lower_word (lawful : rules.Lawful) {word : String}
    (small : ∀ c ∈ word.toList, c.isLower = true)
    : rules.lower word = word :=
  lawful.letters.lower_of_settled word (fun c member =>
    lawful.letters.settled_plain c (.inl (small c member)))

/-- The value of a preference comes back: from the text that it is written as, or from the
property that holds it. -/
def ComesBack (rules : SettingsRules) (key : String) (value : Json) : Prop :=
  match containerOf key with
  | none =>
      value ≠ .null ∧ ∃ text, serializeDisplayPrefValue rules key value = some (some text)
        ∧ coerceDisplayPrefFromCustom rules key (.text text) = value
  | some _ => coerceDisplayPrefFromCustom rules key value = value

theorem text_comesBack {key text : String}
    (plain : settingsKind key ∈ [none, some .select, some .text])
    : ComesBack rules key (.text text) := by
  have read : coerceDisplayPrefFromCustom rules key (.text text) = .text text := by
    simp only [List.mem_cons, List.not_mem_nil, or_false] at plain
    rcases plain with kind | kind | kind <;> simp [coerceDisplayPrefFromCustom, kind, Json.asText]
  have written : serializeDisplayPrefValue rules key (.text text) = some (some text) := by
    simp only [List.mem_cons, List.not_mem_nil, or_false] at plain
    rcases plain with kind | kind | kind <;> simp [serializeDisplayPrefValue, kind, Json.asText]
  unfold ComesBack
  split
  · exact ⟨Json.noConfusion, text, written, read⟩
  · exact read

theorem containerOf_of_kind {key : String} (allowed : isAllowedDisplayPrefKey key = true)
    (other : settingsKind key ≠ some .select)
    : containerOf key = none := by
  cases container : containerOf key with
  | none => rfl
  | some pair =>
      obtain ⟨field, member, rfl, -⟩ := exists_field_of_container allowed container
      exact absurd (displayJson_fields field member).2.2.1 other

theorem bool_comesBack (lawful : rules.Lawful) {key : String}
    (allowed : isAllowedDisplayPrefKey key = true) (kind : settingsKind key = some .bool)
    (value : Bool)
    : ComesBack rules key (.bool value) := by
  have entry : containerOf key = none := by
    apply containerOf_of_kind allowed
    rw [kind]
    decide
  have small (word : String) (plain : word.toList.all Char.isLower = true)
      : coerceDisplayPrefFromCustom rules key (.text word)
        = .bool (word ∈ ["true", "1", "yes", "on"]) := by
    simp [coerceDisplayPrefFromCustom, kind, Json.asText,
      lower_word lawful (List.all_eq_true.mp plain)]
  simp only [ComesBack, entry]
  cases value with
  | true =>
      refine ⟨Json.noConfusion, "true", ?_, small "true" (by decide)⟩
      simp [serializeDisplayPrefValue, kind, Json.truthy]
  | false =>
      refine ⟨Json.noConfusion, "false", ?_, small "false" (by decide)⟩
      simp [serializeDisplayPrefValue, kind, Json.truthy]

theorem int_comesBack (lawful : rules.Lawful) {key : String}
    (allowed : isAllowedDisplayPrefKey key = true) (kind : settingsKind key = some .int)
    (value : Int)
    : ComesBack rules key (.int value) := by
  have entry : containerOf key = none := by
    apply containerOf_of_kind allowed
    rw [kind]
    decide
  simp only [ComesBack, entry]
  refine ⟨Json.noConfusion, toString value, ?_, ?_⟩
  · simp [serializeDisplayPrefValue, kind, Json.toInt?]
  · have read := lawful.readInt?_toString value
    simp only [coerceDisplayPrefFromCustom, kind, Json.toInt?, read, Option.elim_some]

/-- A patch whose fields are preferences of the schema, or texts for the pages of libraries. -/
def OverSchema (patch : Document) : Prop :=
  ∀ key value, patch.get? key = some value →
    key ∈ settingsDisplayPrefFields
    ∨ (isDynamicDisplayPrefKey key = true ∧ ∃ text, value = .text text)

theorem comesBack_of_normalized (lawful : rules.Lawful) {key : String} {value : Json}
    (normalized : displayRule rules false key value = some value)
    (known
      : key ∈ settingsDisplayPrefFields
        ∨ (isDynamicDisplayPrefKey key = true ∧ ∃ text, value = .text text))
    : isAllowedDisplayPrefKey key = true ∧ ComesBack rules key value := by
  have allowed : isAllowedDisplayPrefKey key = true :=
    decide_eq_true (known.imp_right And.left)
  refine ⟨allowed, ?_⟩
  rcases known with listed | ⟨dynamic, text, rfl⟩
  · obtain ⟨kinds, single, plain⟩ := displayPref_kinds listed
    have coerced : coerceDisplayField rules key value = some value := by
      unfold displayRule sectionRule at normalized
      split at normalized
      · cases normalized
      · simpa [allowed] using normalized
    simp only [coerceDisplayField, coerceKnown, if_neg single, if_neg plain] at coerced
    simp only [List.mem_cons, List.not_mem_nil, or_false] at kinds
    rcases kinds with kind | kind | kind | kind
    · simp only [kind, coerceDisplayOther, if_true, Option.some.injEq] at coerced
      exact coerced ▸ bool_comesBack lawful allowed kind _
    · simp only [kind] at coerced
      obtain ⟨number, -, rfl⟩ := Option.map_eq_some_iff.mp coerced
      exact int_comesBack lawful allowed kind number
    · simp only [kind, Option.some.injEq] at coerced
      exact coerced ▸ text_comesBack (by simp [kind])
    · simp only [kind, Option.some.injEq] at coerced
      exact coerced ▸ text_comesBack (by simp [kind])
  · apply text_comesBack
    simp [settingsKind, fieldMeta_of_dynamic dynamic]

-- Reading

/-- What an entry says as a preference, if it is one. -/
def readEntry (rules : SettingsRules) (custom : Document) (key : String) : Option Json :=
  (extractEntries rules custom).get? key

/-- What a property says as a preference, if the preference is one. -/
def readProperty (rules : SettingsRules) (custom : Document) (key : String) : Option Json :=
  (containerOf key).bind (fun pair =>
    ((parsedContainer rules custom pair.1).get? pair.2).map (coerceDisplayPrefFromCustom rules key))

theorem get?_extract_of_allowed {payload : Document} {key : String}
    (allowed : isAllowedDisplayPrefKey key = true)
    : (extractDisplayPreferences rules (.ofDict payload)).get? key
      = (readProperty rules (customPrefs payload) key).or
          (readEntry rules (customPrefs payload) key) := by
  simp only [extractDisplayPreferences, Json.asDict?_ofDict]
  cases container : containerOf key with
  | some pair =>
      obtain ⟨field, member, rfl, held⟩ := exists_field_of_container allowed container
      rw [Dict.get?_overlay displayJson_keys_unique member]
      simp only [extractProperty, held, readProperty, container, readEntry, Option.bind_some]
  | none =>
      have absent : key ∉ settingsDisplayJsonFields.map FieldMeta.key := by
        intro listed
        obtain ⟨field, member, rfl⟩ := List.mem_map.mp listed
        have held := (displayJson_fields field member).2.1
        have some_ := (List.mem_filter.mp member).2
        rw [← held, container] at some_
        cases some_
      rw [Dict.get?_overlay_of_absent absent]
      simp only [readProperty, container, Option.bind_none, Option.none_or, readEntry]

theorem get?_extract_of_not_allowed {payload : Document} {key : String}
    (other : isAllowedDisplayPrefKey key = false)
    : (extractDisplayPreferences rules (.ofDict payload)).get? key = none := by
  have absent : key ∉ settingsDisplayJsonFields.map FieldMeta.key := by
    intro listed
    obtain ⟨field, member, rfl⟩ := List.mem_map.mp listed
    have allowed : isAllowedDisplayPrefKey field.key = true :=
      decide_eq_true (.inl (displayJson_fields field member).1)
    rw [allowed] at other
    cases other
  simp only [extractDisplayPreferences, Json.asDict?_ofDict]
  rw [Dict.get?_overlay_of_absent absent, extractEntries, Dict.get?_rewrite]
  cases (customPrefs payload).get? key <;> simp [other]

theorem readEntry_of_get? {custom : Document} {key : String} {stored value : Json}
    (allowed : isAllowedDisplayPrefKey key = true) (found : custom.get? key = some stored)
    (read : coerceDisplayPrefFromCustom rules key stored = value) (some_ : value ≠ .null)
    : readEntry rules custom key = some value := by
  rw [readEntry, extractEntries, Dict.get?_rewrite, found, Option.bind_some, if_neg (by simp [allowed]),
    read]
  cases value with
  | null => exact absurd rfl some_
  | _ => rfl

theorem readEntry_congr {left right : Document} {key : String}
    (same : left.get? key = right.get? key)
    : readEntry rules left key = readEntry rules right key := by
  rw [readEntry, readEntry, extractEntries, extractEntries, Dict.get?_rewrite, Dict.get?_rewrite, same]

-- One preference

theorem applyPreference_cases {state next : PatchState} {item : String × Json}
    (allowed : isAllowedDisplayPrefKey item.1 = true) (back : ComesBack rules item.1 item.2)
    (applied : applyPreference rules state item = some next)
    : (∃ pair, containerOf item.1 = some pair
        ∧ next
          = { state with
              containers :=
                state.containers.set pair.1 ((state.properties rules pair.1).set pair.2 item.2) })
      ∨ (containerOf item.1 = none
          ∧ ∃ text, serializeDisplayPrefValue rules item.1 item.2 = some (some text)
            ∧ next = { state with custom := state.custom.set item.1 (.text text) }) := by
  rw [applyPreference, if_neg (by simp [allowed])] at applied
  cases container : containerOf item.1 with
  | some pair =>
      rw [container] at applied
      cases applied
      exact .inl ⟨pair, rfl, rfl⟩
  | none =>
      simp only [ComesBack, container] at back
      obtain ⟨-, text, written, -⟩ := back
      simp only [container, written, Option.map_some] at applied
      cases applied
      exact .inr ⟨rfl, text, written, rfl⟩

theorem exists_applyPreference {item : String × Json}
    (allowed : isAllowedDisplayPrefKey item.1 = true) (back : ComesBack rules item.1 item.2)
    (state : PatchState)
    : ∃ next, applyPreference rules state item = some next := by
  rw [applyPreference, if_neg (by simp [allowed])]
  cases container : containerOf item.1 with
  | some pair => exact ⟨_, rfl⟩
  | none =>
      simp only [ComesBack, container] at back
      obtain ⟨-, text, written, -⟩ := back
      exact ⟨_, by simp only [written, Option.map_some]; rfl⟩

theorem entry_of_other {state next : PatchState} {item : String × Json} {key : String}
    (allowed : isAllowedDisplayPrefKey item.1 = true) (back : ComesBack rules item.1 item.2)
    (other : containerOf item.1 = none → key ≠ item.1)
    (applied : applyPreference rules state item = some next)
    : next.custom.get? key = state.custom.get? key := by
  rcases applyPreference_cases allowed back applied with ⟨pair, -, rfl⟩ | ⟨entry, text, -, rfl⟩
  · rfl
  · exact Dict.get?_set_ne _ _ (other entry)

theorem parsedContainer_congr {left right : Document} {containerKey : String}
    (same : left.get? containerKey = right.get? containerKey)
    : parsedContainer rules left containerKey = parsedContainer rules right containerKey := by
  rw [parsedContainer, parsedContainer, Document.field, Document.field, same]

theorem properties_after {state next : PatchState} {item : String × Json} {containerKey : String}
    (allowed : isAllowedDisplayPrefKey item.1 = true) (back : ComesBack rules item.1 item.2)
    (apart : isAllowedDisplayPrefKey containerKey = false)
    (applied : applyPreference rules state item = some next)
    : next.properties rules containerKey
      = match containerOf item.1 with
        | some pair =>
            if containerKey = pair.1 then (state.properties rules containerKey).set pair.2 item.2
            else state.properties rules containerKey
        | none => state.properties rules containerKey := by
  rcases applyPreference_cases allowed back applied with
    ⟨pair, container, rfl⟩ | ⟨entry, text, -, rfl⟩
  · rw [container]
    by_cases same : containerKey = pair.1
    · simp [PatchState.properties, same]
    · simp [PatchState.properties, same, Dict.get?_set_ne]
  · have ne : containerKey ≠ item.1 := by
      rintro rfl
      rw [allowed] at apart
      cases apart
    simp only [entry, PatchState.properties]
    rw [parsedContainer_congr (Dict.get?_set_ne _ _ ne)]

-- A whole patch

def PatchComesBack (rules : SettingsRules) (patch : Document) : Prop :=
  ∀ item ∈ patch.items, isAllowedDisplayPrefKey item.1 = true ∧ ComesBack rules item.1 item.2

theorem patchComesBack (lawful : rules.Lawful) {patch : Document}
    (normalized : patch.rewrite (displayRule rules false) = patch) (within : OverSchema patch)
    : PatchComesBack rules patch := by
  intro item member
  have found := Dict.mem_items_iff.mp member
  have ruled : displayRule rules false item.1 item.2 = some item.2 := by
    have again := Dict.get?_rewrite patch (displayRule rules false) item.1
    rw [normalized, found, Option.bind_some] at again
    exact again.symm
  exact comesBack_of_normalized lawful ruled (within item.1 item.2 found)

section Runs

variable {patch : Document} {start finish : PatchState}

theorem exists_split {key : String} {value : Json} (found : patch.get? key = some value)
    : ∃ before after, patch.items = before ++ (key, value) :: after
        ∧ ∀ item ∈ after, item.1 ≠ key := by
  obtain ⟨before, after, shape⟩ := List.append_of_mem (Dict.mem_items_iff.mpr found)
  refine ⟨before, after, shape, ?_⟩
  intro item member same
  have unique := patch.nodup
  rw [shape, List.map_append, List.nodup_append] at unique
  have fresh := (List.nodup_cons.mp unique.2.1).1
  exact fresh (List.mem_map.mpr ⟨item, member, same⟩)

theorem run_entry_kept (back : PatchComesBack rules patch)
    (ran : patch.items.foldlM (applyPreference rules) start = some finish) {key : String}
    (other : containerOf key = none → patch.get? key = none)
    : finish.custom.get? key = start.custom.get? key := by
  refine @view_foldlM_of_keeps _ _ _ _ (fun state : PatchState => state.custom.get? key) _ _ _ ?_ ran
  intro state item next member applied
  obtain ⟨allowed, itemBack⟩ := back item member
  refine entry_of_other allowed itemBack ?_ applied
  rintro entry rfl
  have found := Dict.mem_items_iff.mp member
  rw [other entry] at found
  cases found

theorem run_entry_written (back : PatchComesBack rules patch)
    (ran : patch.items.foldlM (applyPreference rules) start = some finish) {key : String}
    {value : Json} (found : patch.get? key = some value) (entry : containerOf key = none)
    : value ≠ .null ∧ ∃ text, finish.custom.get? key = some (.text text)
        ∧ coerceDisplayPrefFromCustom rules key (.text text) = value := by
  obtain ⟨allowed, comes⟩ := back _ (Dict.mem_items_iff.mpr found)
  have written := comes
  simp only [ComesBack, entry] at written
  obtain ⟨some_, text, serialized, read⟩ := written
  obtain ⟨before, after, shape, others⟩ := exists_split found
  refine ⟨some_, text, ?_, read⟩
  rw [shape] at ran
  refine @view_foldlM_of_writes _ _ _ _ (fun state : PatchState => state.custom.get? key)
    _ _ _ _ _ _ ?_ ?_ ran
  · intro state next applied
    rcases applyPreference_cases allowed comes applied with ⟨pair, container, -⟩ | ⟨-, other, same, rfl⟩
    · rw [entry] at container
      cases container
    · rw [serialized] at same
      cases same
      exact Dict.get?_set_self _ _ _
  · intro state item next member applied
    obtain ⟨itemAllowed, itemBack⟩ := back item (by rw [shape]; simp [member])
    exact entry_of_other itemAllowed itemBack (fun _ => (others item member).symm) applied

theorem run_property_kept (back : PatchComesBack rules patch)
    (ran : patch.items.foldlM (applyPreference rules) start = some finish)
    {containerKey property : String} (apart : isAllowedDisplayPrefKey containerKey = false)
    (unnamed
      : ∀ key value, patch.get? key = some value →
          containerOf key ≠ some (containerKey, property))
    : (finish.properties rules containerKey).get? property
      = (start.properties rules containerKey).get? property := by
  refine @view_foldlM_of_keeps _ _ _ _
    (fun state : PatchState => (state.properties rules containerKey).get? property) _ _ _ ?_ ran
  intro state item next member applied
  obtain ⟨allowed, itemBack⟩ := back item member
  have here := unnamed item.1 item.2 (Dict.mem_items_iff.mp member)
  rw [properties_after allowed itemBack apart applied]
  cases container : containerOf item.1 with
  | none => rfl
  | some pair =>
      rw [container] at here
      by_cases same : containerKey = pair.1
      · have ne : property ≠ pair.2 := fun named => here (by rw [same, named])
        simp only [same, if_true, Dict.get?_set_ne _ _ ne]
      · simp only [same, if_false]

theorem run_property_written (back : PatchComesBack rules patch)
    (ran : patch.items.foldlM (applyPreference rules) start = some finish) {key : String}
    {value : Json} (found : patch.get? key = some value) {pair : String × String}
    (container : containerOf key = some pair)
    : (finish.properties rules pair.1).get? pair.2 = some value := by
  obtain ⟨allowed, comes⟩ := back _ (Dict.mem_items_iff.mpr found)
  have apart := (@container_spec key key pair allowed container).1
  obtain ⟨before, after, shape, others⟩ := exists_split found
  rw [shape] at ran
  refine @view_foldlM_of_writes _ _ _ _
    (fun state : PatchState => (state.properties rules pair.1).get? pair.2) _ _ _ _ _ _ ?_ ?_ ran
  · intro state next applied
    rw [properties_after allowed comes apart applied]
    simp [container]
  · intro state item next member applied
    obtain ⟨itemAllowed, itemBack⟩ := back item (by rw [shape]; simp [member])
    rw [properties_after itemAllowed itemBack apart applied]
    cases held : containerOf item.1 with
    | none => rfl
    | some other =>
        by_cases same : pair.1 = other.1
        · have ne : pair.2 ≠ other.2 := by
            intro named
            have one : other = pair := Prod.ext same.symm named.symm
            exact others item member
              ((container_spec allowed container).2 itemAllowed (held.trans (by rw [one])))
          simp only [same, if_true, Dict.get?_set_ne _ _ ne]
        · simp only [same, if_false]

theorem run_containers_kept (back : PatchComesBack rules patch)
    (ran : patch.items.foldlM (applyPreference rules) start = some finish) {containerKey : String}
    (unnamed
      : ∀ key value, patch.get? key = some value → ∀ pair, containerOf key = some pair →
          pair.1 ≠ containerKey)
    : finish.containers.get? containerKey = start.containers.get? containerKey := by
  refine @view_foldlM_of_keeps _ _ _ _
    (fun state : PatchState => state.containers.get? containerKey) _ _ _ ?_ ran
  intro state item next member applied
  obtain ⟨allowed, itemBack⟩ := back item member
  rcases applyPreference_cases allowed itemBack applied with ⟨pair, container, rfl⟩ | ⟨-, text, -, rfl⟩
  · have ne := unnamed item.1 item.2 (Dict.mem_items_iff.mp member) pair container
    exact Dict.get?_set_ne _ _ ne.symm
  · rfl

end Runs

-- Payloads

theorem written_of_closed {state : PatchState} {key : String}
    (closed : state.containers.get? key = none)
    : (state.written rules).get? key = state.custom.get? key := by
  rw [PatchState.written, Dict.get?_update, Dict.get?_map, closed, Option.map_none, Option.none_or]

theorem parsedContainer_written (lawful : rules.Lawful) (state : PatchState)
    (containerKey : String)
    : parsedContainer rules (state.written rules) containerKey
      = state.properties rules containerKey := by
  cases opened : state.containers.get? containerKey with
  | none =>
      rw [parsedContainer_congr (written_of_closed opened), PatchState.properties, opened,
        Option.getD_none]
  | some properties =>
      have entry : (state.written rules).get? containerKey
          = some (.text (rules.dumps (.ofDict properties))) := by
        rw [PatchState.written, Dict.get?_update, Dict.get?_map, opened, Option.map_some,
          Option.some_or]
      simp [parsedContainer, Document.field, entry, lawful.dumps_visible, lawful.loads?_dumps,
        PatchState.properties, opened]

theorem customPrefs_withDefault (payload : Document) {key : String} (default_ : String)
    (ne : "CustomPrefs" ≠ key)
    : customPrefs (withDefault payload key default_) = customPrefs payload := by
  rw [customPrefs, customPrefs, Document.dictAt, Document.dictAt, withDefault,
    Document.dictAt?_set, if_neg ne]

theorem customPrefs_setDict (payload custom : Document)
    : customPrefs (payload.setDict "CustomPrefs" custom) = custom := by
  rw [customPrefs, Document.dictAt, Document.dictAt?_setDict, if_pos rfl, Option.getD_some]

theorem get?_extract_congr {left right : Document} {key : String}
    (property
      : readProperty rules (customPrefs left) key = readProperty rules (customPrefs right) key)
    (entry : (customPrefs left).get? key = (customPrefs right).get? key)
    : (extractDisplayPreferences rules (.ofDict left)).get? key
      = (extractDisplayPreferences rules (.ofDict right)).get? key := by
  by_cases allowed : isAllowedDisplayPrefKey key = true
  · rw [get?_extract_of_allowed allowed, get?_extract_of_allowed allowed, property,
      readEntry_congr entry]
  · rw [Bool.not_eq_true] at allowed
    rw [get?_extract_of_not_allowed allowed, get?_extract_of_not_allowed allowed]

/-- A normalized patch can be written. The written payload says of its fields what the patch says,
and of all other fields what the payload said before; entries that are neither a field of the
patch nor hold one stay, and so do the other properties of an entry that holds one. -/
theorem display_preferences_round_trip (rules : SettingsRules) (lawful : rules.Lawful)
    (existing : Option Document) (patch : Document)
    (normalized : patch.rewrite (displayRule rules false) = patch) (within : OverSchema patch)
    : ∃ payload,
        buildDisplayPreferencesPayload rules existing patch = some payload
        ∧ (∀ key value, patch.get? key = some value →
            (extractDisplayPreferences rules (.ofDict payload)).get? key = some value)
        ∧ (∀ key, patch.get? key = none →
            (extractDisplayPreferences rules (.ofDict payload)).get? key
              = (extractDisplayPreferences rules (.ofDict (existing.getD ∅))).get? key)
        ∧ (∀ key, patch.get? key = none →
            (∀ field value pair, patch.get? field = some value → containerOf field = some pair →
              pair.1 ≠ key) →
            (customPrefs payload).get? key = (customPrefs (existing.getD ∅)).get? key)
        ∧ ∀ field value pair, patch.get? field = some value → containerOf field = some pair →
            ∀ property,
              (∀ other value, patch.get? other = some value →
                containerOf other ≠ some (pair.1, property)) →
              (parsedContainer rules (customPrefs payload) pair.1).get? property
                = (parsedContainer rules (customPrefs (existing.getD ∅)) pair.1).get? property := by
  have back := patchComesBack lawful normalized within
  have unmarked
      : customPrefs (withDefault (withDefault (existing.getD ∅) "Id" displayPrefsId) "Client"
          displayPrefsClient)
        = customPrefs (existing.getD ∅) := by
    rw [customPrefs_withDefault _ _ (by decide), customPrefs_withDefault _ _ (by decide)]
  obtain ⟨finish, ran⟩ :=
    @exists_foldlM _ _ (applyPreference rules) patch.items
      ⟨customPrefs (existing.getD ∅), ∅⟩ (fun state item member =>
        exists_applyPreference (back item member).1 (back item member).2 state)
  have opened (containerKey : String) (held : ∀ field value pair, patch.get? field = some value →
      containerOf field = some pair → pair.1 ≠ containerKey)
      : finish.containers.get? containerKey = none :=
    run_containers_kept back ran (fun field value found pair container =>
      held field value pair found container)
  have closed {key : String} (allowed : isAllowedDisplayPrefKey key = true)
      : finish.containers.get? key = none := by
    apply opened
    rintro field value pair found container rfl
    have fieldAllowed := (back _ (Dict.mem_items_iff.mpr found)).1
    have apart := (@container_spec field field pair fieldAllowed container).1
    rw [allowed] at apart
    cases apart
  have kept {containerKey property : String} (apart : isAllowedDisplayPrefKey containerKey = false)
      (unnamed : ∀ key value, patch.get? key = some value →
        containerOf key ≠ some (containerKey, property))
      : (parsedContainer rules (finish.written rules) containerKey).get? property
        = (parsedContainer rules (customPrefs (existing.getD ∅)) containerKey).get? property := by
    rw [parsedContainer_written lawful]
    exact run_property_kept back ran apart unnamed
  refine ⟨_, by rw [buildDisplayPreferencesPayload, unmarked, ran]; rfl, ?_, ?_, ?_, ?_⟩
  · intro key value found
    obtain ⟨allowed, comes⟩ := back _ (Dict.mem_items_iff.mpr found)
    rw [get?_extract_of_allowed allowed, customPrefs_setDict]
    cases container : containerOf key with
    | some pair =>
        simp only [ComesBack, container] at comes
        simp only [readProperty, container, Option.bind_some, parsedContainer_written lawful,
          run_property_written back ran found container, Option.map_some, comes, Option.some_or]
    | none =>
        obtain ⟨some_, text, stored, read⟩ := run_entry_written back ran found container
        have entry : (finish.written rules).get? key = some (.text text) := by
          rw [written_of_closed (closed allowed), stored]
        rw [readEntry_of_get? allowed entry read some_]
        simp only [readProperty, container, Option.bind_none, Option.none_or]
  · intro key absent
    by_cases allowed : isAllowedDisplayPrefKey key = true
    · apply get?_extract_congr
      · rw [customPrefs_setDict]
        cases container : containerOf key with
        | none => simp only [readProperty, container, Option.bind_none]
        | some pair =>
            obtain ⟨apart, only⟩ := @container_spec key key pair allowed container
            have same := @kept pair.1 pair.2 apart (by
              intro other value found held
              have otherAllowed := (back _ (Dict.mem_items_iff.mpr found)).1
              have one : other = key := (container_spec allowed container).2 otherAllowed held
              rw [one, absent] at found
              cases found)
            simp only [readProperty, container, Option.bind_some, same]
      · rw [customPrefs_setDict, written_of_closed (closed allowed)]
        exact run_entry_kept back ran (fun _ => absent)
    · rw [Bool.not_eq_true] at allowed
      rw [get?_extract_of_not_allowed allowed, get?_extract_of_not_allowed allowed]
  · intro key absent held
    rw [customPrefs_setDict, written_of_closed (opened key held)]
    exact run_entry_kept back ran (fun _ => absent)
  · intro field value pair found container property unnamed
    have allowed := (back _ (Dict.mem_items_iff.mpr found)).1
    rw [customPrefs_setDict]
    exact kept (@container_spec field field pair allowed container).1 unnamed

/-- Settings in plain ASCII; values are numbered, and the numbers stand for texts of JSON. -/
def numberedSettings : SettingsRules :=
  { plainSettings with
    readInt? := readDigits
    dumps := fun value =>
      String.ofList (Nat.toDigits 10 (Encodable.encode (AppSettings.treeOf value)))
    loads? := AppSettings.numberedText.loads? }

theorem numberedSettings_lawful : numberedSettings.Lawful where
  letters :=
    ⟨plainSettings_lawful.lower_settles, plainSettings_lawful.lower_of_settled,
      plainSettings_lawful.settled_plain, plainSettings_lawful.plain,
      plainSettings_lawful.visible⟩
  readInt?_toString := readDigits_toString
  loads?_dumps value := by
    simp [numberedSettings, AppSettings.numberedText, DecimalDigits.number_toDigits,
      AppSettings.ofTree_treeOf]
  dumps_visible value := by
    have solid : ∀ c ∈ (numberedSettings.dumps value).toList, isSpace c = false := by
      intro c member
      apply isSpace_of_isAlphanum
      have digit : c ∈ Nat.toDigits 10 (Encodable.encode (AppSettings.treeOf value)) := by
        simpa [numberedSettings] using member
      simp [Char.isAlphanum, Nat.isDigit_of_mem_toDigits (by decide) (by decide) digit]
    rw [strip_of_solid solid]
    simp [numberedSettings, Nat.toDigits_ne_nil]

/-- A theme, a number and a page of a library. -/
def plainPatch : Document :=
  ⟨[("skin", .text "dark"), ("enableBackdrops", .bool false), ("listGenreLimit", .int 4),
    ("landing-livetv", .text "guide")], by decide⟩

theorem plainPatch_read_back
    : ∃ payload,
        buildDisplayPreferencesPayload numberedSettings none plainPatch = some payload
        ∧ (extractDisplayPreferences numberedSettings (.ofDict payload)).get? "listGenreLimit"
          = some (.int 4) := by
  have normalized : plainPatch.rewrite (displayRule numberedSettings false) = plainPatch := by
    apply Dict.ext_items
    rfl
  have within : OverSchema plainPatch := by
    intro key value found
    have member := Dict.mem_items_iff.mpr found
    simp only [plainPatch, List.mem_cons, List.not_mem_nil, or_false, Prod.mk.injEq] at member
    rcases member with ⟨rfl, rfl⟩ | ⟨rfl, rfl⟩ | ⟨rfl, rfl⟩ | ⟨rfl, rfl⟩
    · exact .inl (by decide)
    · exact .inl (by decide)
    · exact .inl (by decide)
    · exact .inr ⟨by decide, _, rfl⟩
  obtain ⟨payload, built, read, -⟩ :=
    display_preferences_round_trip numberedSettings numberedSettings_lawful none plainPatch
      normalized within
  exact ⟨payload, built, read _ _ rfl⟩

end OctoHubs.UserSettings
