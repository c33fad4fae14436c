import OctoHubs.Library.Equality
import OctoHubs.Library.FieldRules
import OctoHubs.Library.Rereading
import OctoHubs.UserSettings.SettingsSchema

/-! The settings of a user in one form, whatever form a server or a page gave them in.
-/

namespace OctoHubs.UserSettings

open OctoHubs.Library

/-- The alphabet of settings, and values as texts of JSON. -/
structure SettingsRules extends Alphabet where
  dumps : Json → String
  loads? : String → Option Json

structure LibrarySettings where
  mode : String
  groups : Dict String Bool
  items : List String

structure NormalizedSettings where
  policy : Document
  config : Document
  displayPreferences : Document
  libraries : LibrarySettings

variable (rules : SettingsRules)

-- Fields

def coerceList : Json → List String
  | .null => []
  | .text value => ((splitAt ',' (replaceAll value "\n" ",")).map strip).filter (· ≠ "")
  | value =>
      (value.asList?.getD []).filterMap (fun item =>
        match item with
        | .null => none
        | item =>
            let text := item.asText rules.toAlphabet
            if strip text = "" then none else some text)

/-- What a text of JSON says; any other text stays. -/
def coerceJson : Json → Json
  | .null => .ofList []
  | .text value => (rules.loads? value).getD (.text value)
  | value => value

def bounded (field : Option FieldMeta) (number : Int) : Int :=
  let raised := (field.bind FieldMeta.min).elim number (fun least => max least number)
  (field.bind FieldMeta.max).elim raised (fun most => min most raised)

def coerceInt (value : Json) (key : String) : Option Int :=
  match value with
  | .null => none
  | .text "" => none
  | value => (value.toInt? rules.toAlphabet).map (bounded (settingsFieldMeta key))

def coerceText (value : Json) (key : String) : String :=
  let text := value.asText rules.toAlphabet
  match (settingsFieldMeta key).bind FieldMeta.maxLength with
  | some length => if 0 < length then String.ofList (text.toList.take length) else text
  | none => text

def settingsKind (key : String) : Option FieldKind := (settingsFieldMeta key).map FieldMeta.kind

/-- Fields by their kind; a section has a rule of its own for the other kinds. -/
def coerceKnown (other : String → Json → Option Json) (key : String) (value : Json)
    : Option Json :=
  if key ∈ settingsListFields then some (textList (coerceList rules value))
  else if key ∈ settingsJsonFields then some (coerceJson rules value)
  else
    match settingsKind key with
    | some .int => (coerceInt rules value key).map Json.int
    | some .text | some .password | some .language | some .select =>
        some (.text (coerceText rules value key))
    | _ => other key value

/-- A field of the policy or of the configuration. -/
def coerceField : String → Json → Option Json := coerceKnown rules (fun _ value => some value)

def coerceDisplayBool : Json → Bool
  | .text value => rules.lower value ∈ ["true", "1", "yes", "on"]
  | value => value.truthy

/-- Truth values, and the pages of libraries, which have no kind. -/
def coerceDisplayOther (key : String) (value : Json) : Option Json :=
  if settingsKind key = some .bool then some (.bool (coerceDisplayBool rules value))
  else
    match value with
    | .text text => some (.text (coerceText rules (.text text) key))
    | value => some value

def coerceDisplayField : String → Json → Option Json :=
  coerceKnown rules (coerceDisplayOther rules)

/-- What a field of a section becomes; fields that are not listed, and nothing, are dropped. -/
def sectionRule (listed canSync : String → Bool) (coerce : String → Json → Option Json)
    (protectFields : Bool) (key : String) (value : Json)
    : Option Json :=
  match value with
  | .null => none
  | value =>
      if ¬ listed key then none
      else if protectFields ∧ ¬ canSync key then none
      else coerce key value

-- Settings

def policyRule : Bool → String → Json → Option Json :=
  sectionRule (· ∈ settingsPolicyFields) canSyncPolicyField (coerceField rules)

def configRule : Bool → String → Json → Option Json :=
  sectionRule (· ∈ settingsConfigFields) canSyncConfigField (coerceField rules)

def displayRule : Bool → String → Json → Option Json :=
  sectionRule isAllowedDisplayPrefKey canSyncDisplayField (coerceDisplayField rules)

def librariesMode (libraries : Document) : String :=
  match libraries.field "mode" with
  | .text mode => if mode ∈ ["all", "custom"] then mode else "all"
  | _ => "all"

def normalizeLibraries (libraries : Document) : LibrarySettings where
  mode := librariesMode libraries
  groups :=
    .ofItems ((libraries.dictAt "groups").items.map (fun item =>
      (rules.lower item.1, item.2.truthy)))
  items :=
    (((libraries.field "items").asList?.getD []).filter Json.truthy).map
      (Json.asText rules.toAlphabet)

def normalizeSettingsPayload (settings : Json) (protectFields : Bool) : NormalizedSettings :=
  let settings := settings.asDict?.getD ∅
  { policy := (settings.dictAt "policy").rewrite (policyRule rules protectFields)
    config := (settings.dictAt "config").rewrite (configRule rules protectFields)
    displayPreferences :=
      (settings.dictAt "display_preferences").rewrite (displayRule rules protectFields)
    libraries := normalizeLibraries rules (settings.dictAt "libraries") }

def LibrarySettings.fields (libraries : LibrarySettings) : Document :=
  ⟨[("mode", .text libraries.mode),
    ("groups", .ofDict (libraries.groups.map (fun _ enabled => Json.bool enabled))),
    ("items", textList libraries.items)], by simp⟩

def LibrarySettings.fieldsWithoutItems (libraries : LibrarySettings) : Document :=
  libraries.fields.erase "items"

/-- Settings as a payload, with the given libraries. -/
def NormalizedSettings.withLibraries (settings : NormalizedSettings) (libraries : Document)
    : Document :=
  ⟨[("policy", .ofDict settings.policy), ("config", .ofDict settings.config),
    ("display_preferences", .ofDict settings.displayPreferences),
    ("libraries", .ofDict libraries)], by simp⟩

def NormalizedSettings.toJson (settings : NormalizedSettings) : Json :=
  .ofDict (settings.withLibraries settings.libraries.fields)

def NormalizedSettings.toJsonWithoutItems (settings : NormalizedSettings) : Json :=
  .ofDict (settings.withLibraries settings.libraries.fieldsWithoutItems)

def settingsEqual (left right : Json) : Bool :=
  (normalizeSettingsPayload rules left false).toJsonWithoutItems.equals
    (normalizeSettingsPayload rules right false).toJsonWithoutItems

end OctoHubs.UserSettings
