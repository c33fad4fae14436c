import OctoHubs.UserSettings.SettingsNormalization

/-! Settings that are normalized again. They stay as they are unless the text of the access
schedules reads as nothing, or as another text that is read in its turn.
-/

namespace OctoHubs.UserSettings

open OctoHubs.Library

variable {rules : SettingsRules}

-- Fields

theorem visible_of_mem_coerceList {value : Json} {text : String}
    (member : text ∈ coerceList rules value)
    : strip text ≠ "" := by
  unfold coerceList at member
  split at member
  · cases member
  · obtain ⟨mapped, some_⟩ := List.mem_filter.mp member
    obtain ⟨part, -, rfl⟩ := List.mem_map.mp mapped
    simpa [strip_strip] using some_
  · obtain ⟨item, -, given⟩ := List.mem_filterMap.mp member
    split at given
    · cases given
    · dsimp only at given
      split at given
      · cases given
      · next shown => exact Option.some.inj given ▸ shown

theorem coerceList_textList {texts : List String} (visible : ∀ text ∈ texts, strip text ≠ "")
    : coerceList rules (textList texts) = texts := by
  have shape : (textList texts).asList? = some (texts.map .text) := asList?_ofList _
  unfold coerceList
  rw [show textList texts = .list _ _ from rfl] at shape ⊢
  dsimp only
  rw [shape, Option.getD_some, List.filterMap_map]
  calc
    _ = texts.filterMap some := by
      apply List.filterMap_congr
      intro text member
      simp [Json.asText, visible text member]
    _ = texts := List.filterMap_some

theorem coerceList_again (value : Json)
    : coerceList rules (textList (coerceList rules value)) = coerceList rules value :=
  coerceList_textList (fun _ => visible_of_mem_coerceList)

theorem bounded_bounded (field : Option FieldMeta) (number : Int)
    : bounded field (bounded field number) = bounded field number := by
  unfold bounded
  cases field.bind FieldMeta.min <;> cases field.bind FieldMeta.max <;>
    simp only [Option.elim_none, Option.elim_some] <;> omega

theorem coerceInt_again {value : Json} {key : String} {number : Int}
    (given : coerceInt rules value key = some number)
    : coerceInt rules (.int number) key = some number := by
  have range : ∃ raw, bounded (settingsFieldMeta key) raw = number := by
    unfold coerceInt at given
    split at given
    · cases given
    · cases given
    · obtain ⟨raw, -, same⟩ := Option.map_eq_some_iff.mp given
      exact ⟨raw, same⟩
  obtain ⟨raw, rfl⟩ := range
  simp [coerceInt, Json.toInt?, bounded_bounded]

theorem coerceText_again (value : Json) (key : String)
    : coerceText rules (.text (coerceText rules value key)) key = coerceText rules value key := by
  cases limit : (settingsFieldMeta key).bind FieldMeta.maxLength with
  | none => simp only [coerceText, limit, Json.asText]
  | some length =>
      by_cases positive : 0 < length
      · simp [coerceText, limit, positive, Json.asText, List.take_take]
      · simp only [coerceText, limit, positive, if_false, Json.asText]

/-- A value whose text is read once: not as nothing, and not as a text that is read again. -/
def ReadOnce (rules : SettingsRules) (value : Json) : Prop :=
  ∀ text, value = .text text →
    ∀ read, rules.loads? text = some read →
      read ≠ .null
      ∧ ∀ inner, read = .text inner →
          ∀ again, rules.loads? inner = some again → again = .text inner

theorem coerceJson_again {value : Json} (once : ReadOnce rules value)
    : coerceJson rules (coerceJson rules value) = coerceJson rules value := by
  cases value with
  | text text =>
      cases loaded : rules.loads? text with
      | none => simp [coerceJson, loaded]
      | some read =>
          obtain ⟨some_, stays⟩ := once text rfl read loaded
          cases read with
          | null => exact absurd rfl some_
          | text inner =>
              cases reloaded : rules.loads? inner with
              | none => simp [coerceJson, loaded, reloaded]
              | some again => simp [coerceJson, loaded, reloaded, stays inner rfl again reloaded]
          | _ => simp [coerceJson, loaded]
  | null => rfl
  | _ => rfl

theorem coerceJson_ne_null {value : Json} (once : ReadOnce rules value)
    : coerceJson rules value ≠ .null := by
  cases value with
  | text text =>
      cases loaded : rules.loads? text with
      | none => simp [coerceJson, loaded]
      | some read => simpa [coerceJson, loaded] using (once text rfl read loaded).1
  | null => exact Json.noConfusion
  | _ => exact Json.noConfusion

/-- What a coercion gives is left alone by it. -/
def Settles (coerce : String → Json → Option Json) (key : String) (value : Json) : Prop :=
  ∀ given, coerce key value = some given → given ≠ .null ∧ coerce key given = some given

theorem coerceKnown_settles {other : String → Json → Option Json} {key : String} {value : Json}
    (settles : Settles other key value) (once : key ∈ settingsJsonFields → ReadOnce rules value)
    : Settles (coerceKnown rules other) key value := by
  intro given coerced
  unfold coerceKnown at coerced ⊢
  by_cases listed : key ∈ settingsListFields
  · rw [if_pos listed] at coerced ⊢
    cases coerced
    exact ⟨Json.noConfusion, by rw [coerceList_again]⟩
  · rw [if_neg listed] at coerced ⊢
    by_cases json : key ∈ settingsJsonFields
    · rw [if_pos json] at coerced ⊢
      cases coerced
      exact ⟨coerceJson_ne_null (once json), by rw [coerceJson_again (once json)]⟩
    · rw [if_neg json] at coerced ⊢
      split at coerced
      · obtain ⟨number, counted, rfl⟩ := Option.map_eq_some_iff.mp coerced
        exact ⟨Json.noConfusion, by rw [coerceInt_again counted]; rfl⟩
      · cases coerced
        exact ⟨Json.noConfusion, by rw [coerceText_again]⟩
      · cases coerced
        exact ⟨Json.noConfusion, by rw [coerceText_again]⟩
      · cases coerced
        exact ⟨Json.noConfusion, by rw [coerceText_again]⟩
      · cases coerced
        exact ⟨Json.noConfusion, by rw [coerceText_again]⟩
      · exact settles given coerced

theorem coerceField_settles {key : String} {value : Json} (some_ : value ≠ .null)
    (once : key ∈ settingsJsonFields → ReadOnce rules value)
    : Settles (coerceField rules) key value := by
  apply coerceKnown_settles _ once
  intro given kept
  cases kept
  exact ⟨some_, rfl⟩

theorem coerceDisplayField_settles {key : String} {value : Json} (some_ : value ≠ .null)
    (once : key ∈ settingsJsonFields → ReadOnce rules value)
    : Settles (coerceDisplayField rules) key value := by
  apply coerceKnown_settles _ once
  intro given coerced
  unfold coerceDisplayOther at coerced ⊢
  by_cases truth : settingsKind key = some .bool
  · rw [if_pos truth] at coerced ⊢
    cases coerced
    exact ⟨Json.noConfusion, rfl⟩
  · rw [if_neg truth] at coerced ⊢
    cases value with
    | text text =>
        cases coerced
        exact ⟨Json.noConfusion, by dsimp only; rw [coerceText_again]⟩
    | _ =>
        cases coerced
        exact ⟨some_, rfl⟩

theorem sectionRule_settles {listed canSync : String → Bool}
    {coerce : String → Json → Option Json} {protectFields : Bool} {key : String} {value given : Json}
    (settles : value ≠ .null → listed key = true → Settles coerce key value)
    (ruled : sectionRule listed canSync coerce protectFields key value = some given)
    : sectionRule listed canSync coerce protectFields key given = some given := by
  unfold sectionRule at ruled
  split at ruled
  · cases ruled
  · next other =>
      split at ruled
      · cases ruled
      · next kept =>
          split at ruled
          · cases ruled
          · next synced =>
              have known : listed key = true := not_not.mp kept
              obtain ⟨some_, again⟩ := settles (fun same => other same) known given ruled
              unfold sectionRule
              split
              · exact absurd rfl some_
              · rw [if_neg kept, if_neg synced, again]

-- Payloads

theorem normalize_withLibraries (settings : NormalizedSettings) (libraries : Document)
    (protectFields : Bool)
    : normalizeSettingsPayload rules (.ofDict (settings.withLibraries libraries)) protectFields
      = { policy := settings.policy.rewrite (policyRule rules protectFields)
          config := settings.config.rewrite (configRule rules protectFields)
          displayPreferences :=
            settings.displayPreferences.rewrite (displayRule rules protectFields)
          libraries := normalizeLibraries rules libraries } := by
  simp [normalizeSettingsPayload, NormalizedSettings.withLibraries, Document.dictAt,
    Document.dictAt?, Dict.get?, lookupItems]

structure LibrarySettings.Settled (rules : SettingsRules) (libraries : LibrarySettings) : Prop where
  mode : libraries.mode ∈ ["all", "custom"]
  groups : ∀ key ∈ libraries.groups.keys, rules.lower key = key
  items : ∀ text ∈ libraries.items, text ≠ ""

/-- Every listed library that counts as true has a text. -/
def ItemsShown (rules : SettingsRules) (libraries : Document) : Prop :=
  ∀ items, (libraries.field "items").asList? = some items →
    ∀ item ∈ items, item.truthy = true → item.asText rules.toAlphabet ≠ ""

theorem normalizeLibraries_settled (lawful : rules.toAlphabet.Lawful) {libraries : Document}
    (shown : ItemsShown rules libraries)
    : (normalizeLibraries rules libraries).Settled rules := by
  refine ⟨?_, ?_, ?_⟩
  · simp only [normalizeLibraries, librariesMode]
    split
    · split
      · assumption
      · exact List.mem_cons_self
    · exact List.mem_cons_self
  · intro key member
    obtain ⟨item, listed, same⟩ := List.mem_map.mp (Dict.mem_keys_ofItems member)
    obtain ⟨given, -, rfl⟩ := List.mem_map.mp listed
    rw [← same]
    exact lawful.lower_of_settled _ (lawful.lower_settles given.1)
  · intro text member
    obtain ⟨item, kept, rfl⟩ := List.mem_map.mp member
    obtain ⟨listed, counts⟩ := List.mem_filter.mp kept
    cases given : (libraries.field "items").asList? with
    | none => simp [given] at listed
    | some items =>
        rw [given, Option.getD_some] at listed
        exact shown items given item listed counts

theorem normalizeLibraries_fields {libraries : LibrarySettings} (settled : libraries.Settled rules)
    : normalizeLibraries rules libraries.fields = libraries := by
  obtain ⟨mode, groups, items⟩ := libraries
  have groupItems
      : (groups.map (fun _ enabled => Json.bool enabled)).items.map
          (fun item => (rules.lower item.1, item.2.truthy))
        = groups.items := by
    rw [Dict.map, List.map_map]
    calc
      _ = groups.items.map id := by
        apply List.map_congr_left
        intro item member
        simp [settled.groups item.1 (List.mem_map_of_mem member), Json.truthy]
      _ = groups.items := List.map_id _
  have shownItems
      : ((items.map Json.text).filter Json.truthy).map (Json.asText rules.toAlphabet) = items := by
    rw [List.filter_eq_self.mpr, List.map_map]
    · exact List.map_id _
    · intro item member
      obtain ⟨text, listed, rfl⟩ := List.mem_map.mp member
      simpa [Json.truthy] using settled.items text listed
  have listedItems : (textList items).asList? = some (items.map Json.text) := asList?_ofList _
  simp [normalizeLibraries, librariesMode, LibrarySettings.fields, Document.field, Document.dictAt,
    Document.dictAt?, Dict.get?, lookupItems, settled.mode, groupItems, Dict.ofItems_items,
    listedItems, shownItems]

-- Normalizing twice

theorem settingsJsonFields_eq : settingsJsonFields = ["AccessSchedules"] := by decide

theorem schedules_listed
    : "AccessSchedules" ∈ settingsPolicyFields ∧ "AccessSchedules" ∉ settingsListFields
      ∧ "AccessSchedules" ∉ settingsConfigFields
      ∧ isAllowedDisplayPrefKey "AccessSchedules" = false := by
  decide

def payloadFields (settings : Json) : Document := settings.asDict?.getD ∅

def payloadSchedules (settings : Json) : Json :=
  ((payloadFields settings).dictAt "policy").field "AccessSchedules"

theorem rewrite_section_again {listed canSync : String → Bool}
    {coerce : String → Json → Option Json} {protectFields : Bool} (fields : Document)
    (settles
      : ∀ key value, fields.get? key = some value → value ≠ .null → listed key = true →
          Settles coerce key value)
    : (fields.rewrite (sectionRule listed canSync coerce protectFields)).rewrite
          (sectionRule listed canSync coerce protectFields)
      = fields.rewrite (sectionRule listed canSync coerce protectFields) := by
  apply Dict.rewrite_rewrite_of_settled
  intro item member given ruled
  exact sectionRule_settles (settles item.1 item.2 (Dict.mem_items_iff.mp member)) ruled

theorem normalize_again (lawful : rules.toAlphabet.Lawful) {settings : Json}
    (shown : ItemsShown rules ((payloadFields settings).dictAt "libraries"))
    (once : ReadOnce rules (payloadSchedules settings))
    : normalizeSettingsPayload rules (normalizeSettingsPayload rules settings false).toJson false
      = normalizeSettingsPayload rules settings false := by
  have libraries := normalizeLibraries_fields (normalizeLibraries_settled lawful shown)
  rw [NormalizedSettings.toJson, normalize_withLibraries]
  simp only [normalizeSettingsPayload, NormalizedSettings.mk.injEq]
  refine ⟨?_, ?_, ?_, libraries⟩
  · apply rewrite_section_again
    intro key value found some_ _
    apply coerceField_settles some_
    intro json
    rw [settingsJsonFields_eq, List.mem_singleton] at json
    subst json
    have here : payloadSchedules settings = value := by
      simp [payloadSchedules, Document.field, payloadFields, found]
    exact here ▸ once
  · apply rewrite_section_again
    intro key value _ some_ known
    apply coerceField_settles some_
    intro json
    rw [settingsJsonFields_eq, List.mem_singleton] at json
    subst json
    exact absurd (of_decide_eq_true known) schedules_listed.2.2.1
  · apply rewrite_section_again
    intro key value _ some_ known
    apply coerceDisplayField_settles some_
    intro json
    rw [settingsJsonFields_eq, List.mem_singleton] at json
    subst json
    exact Bool.noConfusion (schedules_listed.2.2.2.symm.trans known)

theorem sameField_of_equals {left right : Document}
    (same : (Json.ofDict left).equals (.ofDict right) = true) (key : String)
    : Json.sameField (left.get? key) (right.get? key) = true := by
  obtain ⟨fields, shape, each⟩ :=
    (Json.equals_iff_of_asDict? (Json.asDict?_ofDict left)).mp same
  rw [Json.asDict?_ofDict, Option.some.injEq] at shape
  exact shape ▸ each key

theorem policy_of_equals {left right : NormalizedSettings}
    (same : left.toJson.equals right.toJson = true) (key : String)
    : Json.sameField (left.policy.get? key) (right.policy.get? key) = true := by
  have policies
      : Json.sameField (some (.ofDict left.policy)) (some (.ofDict right.policy)) = true :=
    sameField_of_equals same "policy"
  exact sameField_of_equals policies key

theorem eq_text_of_equals {value : Json} {shown : String}
    (same : value.equals (.text shown) = true)
    : value = .text shown := by
  cases value with
  | text value => simpa [Json.equals] using same
  | _ => simp [Json.equals, Json.asList?, Json.asDict?, Json.number?] at same

theorem policyRule_schedules {value : Json} (some_ : value ≠ .null)
    : policyRule rules false "AccessSchedules" value = some (coerceJson rules value) := by
  have json : "AccessSchedules" ∈ settingsJsonFields := by
    rw [settingsJsonFields_eq]
    exact List.mem_cons_self
  obtain ⟨listed, single, -, -⟩ := schedules_listed
  unfold policyRule sectionRule
  split
  · exact absurd rfl some_
  · simp [listed, coerceField, coerceKnown, single, json]

theorem readOnce_of_equals {settings : Json}
    (same
      : (normalizeSettingsPayload rules (normalizeSettingsPayload rules settings false).toJson
          false).toJson.equals (normalizeSettingsPayload rules settings false).toJson = true)
    : ReadOnce rules (payloadSchedules settings) := by
  intro text shape read loaded
  have found : ((payloadFields settings).dictAt "policy").get? "AccessSchedules"
      = some (.text text) := by
    simp only [payloadSchedules, Document.field] at shape
    cases given : ((payloadFields settings).dictAt "policy").get? "AccessSchedules" with
    | none => simp [given] at shape
    | some value => simpa [given] using shape
  have first : (normalizeSettingsPayload rules settings false).policy.get? "AccessSchedules"
      = some read := by
    show (((payloadFields settings).dictAt "policy").rewrite (policyRule rules false)).get?
        "AccessSchedules"
      = some read
    rw [Dict.get?_rewrite, found, Option.bind_some, policyRule_schedules Json.noConfusion]
    simp [coerceJson, loaded]
  have fields := policy_of_equals same "AccessSchedules"
  rw [first, NormalizedSettings.toJson, normalize_withLibraries] at fields
  simp only [Dict.get?_rewrite, first, Option.bind_some] at fields
  by_cases nothing : read = .null
  · rw [nothing] at fields
    cases fields
  · refine ⟨nothing, ?_⟩
    rintro inner rfl again reloaded
    rw [policyRule_schedules nothing] at fields
    simp only [coerceJson, reloaded, Option.getD_some, Json.sameField_some] at fields
    exact eq_text_of_equals fields

theorem settingsEqual_equivalence (rules : SettingsRules)
    : Equivalence (fun left right => settingsEqual rules left right = true) where
  refl _ := Json.equals_refl _
  symm := Json.equals_symm
  trans := Json.equals_trans

/-- Settings count as equal to their normalized form, which is normalized already, if and only if
the text of their schedules is read once. -/
theorem normalization_projects_iff (rules : SettingsRules) (lawful : rules.toAlphabet.Lawful)
    (settings : Json) (shown : ItemsShown rules ((payloadFields settings).dictAt "libraries"))
    : Equivalence (fun left right => settingsEqual rules left right = true)
      ∧ (((normalizeSettingsPayload rules (normalizeSettingsPayload rules settings false).toJson
              false).toJson.equals (normalizeSettingsPayload rules settings false).toJson = true
            ∧ settingsEqual rules settings (normalizeSettingsPayload rules settings false).toJson
                = true)
          ↔ ReadOnce rules (payloadSchedules settings)) := by
  refine ⟨settingsEqual_equivalence rules, ?_, ?_⟩
  · rintro ⟨same, -⟩
    exact readOnce_of_equals same
  · intro once
    have again := normalize_again lawful shown once
    refine ⟨?_, ?_⟩
    · rw [again]
      exact Json.equals_refl _
    · rw [settingsEqual, again]
      exact Json.equals_refl _

/-- Settings in plain ASCII; of JSON only nothing and the empty list are read. -/
def plainSettings : SettingsRules where
  lower text := String.ofList (text.toList.map Char.toLower)
  isAlphanumeric := Char.isAlphanum
  readInt? _ := none
  showNested _ := "[]"
  dumps _ := "null"
  loads? text := if text = "null" then some .null else if text = "[]" then some (.ofList []) else none

theorem plainSettings_lawful : plainSettings.toAlphabet.Lawful :=
  Alphabet.lawful_of_ascii (fun _ => String.toList_ofList) (fun _ => rfl)

/-- Settings that hold nothing but schedules. -/
def schedulesPayload (text : String) : Json :=
  .ofDict ⟨[("policy", .ofDict ⟨[("AccessSchedules", .text text)], by simp⟩)], by simp⟩

theorem listed_schedules_project
    : Equivalence (fun left right => settingsEqual plainSettings left right = true)
      ∧ (((normalizeSettingsPayload plainSettings
              (normalizeSettingsPayload plainSettings (schedulesPayload "[]") false).toJson
              false).toJson.equals
              (normalizeSettingsPayload plainSettings (schedulesPayload "[]") false).toJson = true
            ∧ settingsEqual plainSettings (schedulesPayload "[]")
                (normalizeSettingsPayload plainSettings (schedulesPayload "[]") false).toJson
                = true)
          ↔ ReadOnce plainSettings (payloadSchedules (schedulesPayload "[]"))) := by
  refine normalization_projects_iff plainSettings plainSettings_lawful (schedulesPayload "[]") ?_
  intro items listed
  cases listed

/-- Schedules that read as nothing are stored, and dropped when they are normalized again. -/
theorem null_schedules_move
    : ¬ ((normalizeSettingsPayload plainSettings
            (normalizeSettingsPayload plainSettings (schedulesPayload "null") false).toJson
            false).toJson.equals
            (normalizeSettingsPayload plainSettings (schedulesPayload "null") false).toJson = true
          ∧ settingsEqual plainSettings (schedulesPayload "null")
              (normalizeSettingsPayload plainSettings (schedulesPayload "null") false).toJson
              = true) := by
  rintro ⟨same, -⟩
  exact (readOnce_of_equals same "null" rfl .null rfl).1 rfl

end OctoHubs.UserSettings
