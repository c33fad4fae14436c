import OctoHubs.UserSettings.SettingsNormalization

/-! Display preferences as a server keeps them: every preference a text of its own, and some of
them properties of another entry, which is a text of JSON.
-/

namespace OctoHubs.UserSettings

open OctoHubs.Library

variable (rules : SettingsRules)

/-- What a text that a server keeps says; nothing where it cannot be read. -/
def coerceDisplayPrefFromCustom (key : String) (value : Json) : Json :=
  match value with
  | .null => .null
  | value =>
      match settingsKind key with
      | some .bool =>
          match value with
          | .bool value => .bool value
          | value =>
              .bool (rules.lower (value.asText rules.toAlphabet) ∈ ["true", "1", "yes", "on"])
      | some .int => (value.toInt? rules.toAlphabet).elim .null .int
      | some .json => storedJson value value
      | some .schedule => storedJson value (.ofList [])
      | _ => .text (value.asText rules.toAlphabet)
where
  /-- The value that a text of JSON says, or a default. -/
  storedJson (value default_ : Json) : Json :=
    match value with
    | .text text => (rules.loads? text).getD default_
    | .list length values => .list length values
    | .object keys unique values => .object keys unique values
    | _ => default_

/-- The text of a preference, if it has a value. A number that is none fails. -/
def serializeDisplayPrefValue (key : String) (value : Json) : Option (Option String) :=
  match value with
  | .null => some none
  | value =>
      match settingsKind key with
      | some .bool => some (some (if value.truthy then "true" else "false"))
      | some .int => (value.toInt? rules.toAlphabet).map (fun number => some (toString number))
      | some .json | some .schedule => some (some (rules.dumps value))
      | _ =>
          match value with
          | .list _ _ | .object _ _ _ => some (some (rules.dumps value))
          | value => some (some (value.asText rules.toAlphabet))

/-- The properties that an entry holds; an entry that does not parse holds none. -/
def parsedContainer (custom : Document) (containerKey : String) : Document :=
  match custom.field containerKey with
  | .text text => if strip text = "" then ∅ else ((rules.loads? text).bind Json.asDict?).getD ∅
  | value => value.asDict?.getD ∅

/-- The entries of a payload. -/
def customPrefs (payload : Document) : Document := payload.dictAt "CustomPrefs"

/-- The entry of a preference and its property there, for one that is no entry of its own. -/
def containerOf (key : String) : Option (String × String) :=
  (settingsFieldMeta key).bind FieldMeta.container

/-- The preferences that are entries of their own. -/
def extractEntries (custom : Document) : Document :=
  custom.rewrite (fun key value =>
    if ¬ isAllowedDisplayPrefKey key then none
    else
      match coerceDisplayPrefFromCustom rules key value with
      | .null => none
      | coerced => some coerced)

def extractProperty (custom : Document) (field : FieldMeta) : Option Json :=
  field.container.bind (fun (containerKey, property) =>
    ((parsedContainer rules custom containerKey).get? property).map
      (coerceDisplayPrefFromCustom rules field.key))

/-- The preferences that are properties go over those that are entries. -/
def extractDisplayPreferences (payload : Json) : Document :=
  match payload.asDict? with
  | none => ∅
  | some payload =>
      let custom := customPrefs payload
      (extractEntries rules custom).overlay settingsDisplayJsonFields FieldMeta.key
        (extractProperty rules custom)

/-- The entries while a patch is applied, and the properties that are written at its end. -/
structure PatchState where
  custom : Document
  containers : Dict String Document

/-- The properties of an entry so far. -/
def PatchState.properties (state : PatchState) (containerKey : String) : Document :=
  (state.containers.get? containerKey).getD (parsedContainer rules state.custom containerKey)

def applyPreference (state : PatchState) (item : String × Json) : Option PatchState :=
  if ¬ isAllowedDisplayPrefKey item.1 then some state
  else
    match containerOf item.1 with
    | some (containerKey, property) =>
        some
          { state with
            containers :=
              state.containers.set containerKey
                ((state.properties rules containerKey).set property item.2) }
    | none =>
        (serializeDisplayPrefValue rules item.1 item.2).map (fun serialized =>
          match serialized with
          | none => { state with custom := state.custom.erase item.1 }
          | some text => { state with custom := state.custom.set item.1 (.text text) })

/-- The entries with the properties written into theirs. -/
def PatchState.written (state : PatchState) : Document :=
  state.custom.update
    (state.containers.map (fun _ properties => Json.text (rules.dumps (.ofDict properties))))

def withDefault (payload : Document) (key default_ : String) : Document :=
  payload.set key
    (if (payload.field key).truthy then payload.field key else .text default_)

def buildDisplayPreferencesPayload (existing : Option Document) (patch : Document)
    : Option Document :=
  let payload := existing.getD ∅
  let payload := withDefault payload "Id" displayPrefsId
  let payload := withDefault payload "Client" displayPrefsClient
  (patch.items.foldlM (applyPreference rules) ⟨customPrefs payload, ∅⟩).map (fun state =>
    payload.setDict "CustomPrefs" (state.written rules))

end OctoHubs.UserSettings
