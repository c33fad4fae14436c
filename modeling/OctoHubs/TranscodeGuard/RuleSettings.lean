import OctoHubs.Library.Coercions
import OctoHubs.TranscodeGuard.Enforcement

/-! The settings of the transcode guard: a document of rules and of groups of rules, checked
against its bounds and normalized to a list of rules.
-/

namespace OctoHubs.TranscodeGuard

open OctoHubs.Library

inductive RuleProfile
  | videoTranscodeThreshold
  | anyVideoTranscode
  | anyTranscode
  | videoAudioTranscode
  | audioTranscode
  | browserPlayback
  | remux
deriving DecidableEq, Repr

inductive StreamState
  | any
  | transcode
  | direct
deriving DecidableEq, Repr

/-- What a rule asks of a remux, or of any transformation. -/
inductive PresenceState
  | any
  | present
  | absent
deriving DecidableEq, Repr

inductive MessageDisplayMode
  | toast
  | confirmation
deriving DecidableEq, Repr

def GuardMode.name : GuardMode → String
  | .monitor => "monitor"
  | .warn => "warn"
  | .stop => "stop"
  | .warnThenStop => "warn_then_stop"

def GuardMode.all : List GuardMode := [.monitor, .warn, .stop, .warnThenStop]

def RuleProfile.name : RuleProfile → String
  | .videoTranscodeThreshold => "video_transcode_threshold"
  | .anyVideoTranscode => "any_video_transcode"
  | .anyTranscode => "any_transcode"
  | .videoAudioTranscode => "video_audio_transcode"
  | .audioTranscode => "audio_transcode"
  | .browserPlayback => "browser_playback"
  | .remux => "remux"

def RuleProfile.all : List RuleProfile :=
  [.videoTranscodeThreshold, .anyVideoTranscode, .anyTranscode, .videoAudioTranscode,
    .audioTranscode, .browserPlayback, .remux]

def StreamState.name : StreamState → String
  | .any => "any"
  | .transcode => "transcode"
  | .direct => "direct"

def StreamState.all : List StreamState := [.any, .transcode, .direct]

def PresenceState.name : PresenceState → String
  | .any => "any"
  | .present => "present"
  | .absent => "absent"

def PresenceState.all : List PresenceState := [.any, .present, .absent]

def MessageDisplayMode.name : MessageDisplayMode → String
  | .toast => "toast"
  | .confirmation => "confirmation"

def MessageDisplayMode.all : List MessageDisplayMode := [.toast, .confirmation]

/-- The fields of a rule that a decision reads from the settings. -/
structure RuleFields where
  mode : GuardMode
  videoState : StreamState
  audioState : StreamState
  remuxState : PresenceState
  transformationState : PresenceState
  minSourceHeight : Int
  correctionWindowSeconds : Int
  messageDisplayMode : MessageDisplayMode
  warningTimeoutMs : Int
  maxWarnings : Int
  messageCooldownSeconds : Int
  allowAudioOnlyTranscode : Bool
  allowContainerRemux : Bool
  ignorePaused : Bool
  serverIds : List String
  excludedUsers : List String
  excludedClients : List String
  excludedDevices : List String
  excludedIps : List String
  messageHeader : String
  messageText : String
deriving DecidableEq, Repr

structure Rule extends RuleFields where
  id : String
  name : String
  enabled : Bool
  profile : RuleProfile
  stopProcessing : Bool
deriving DecidableEq, Repr

/-- Normalized settings; their fields of a rule are those of the first rule. -/
structure GuardSettings extends RuleFields where
  enabled : Bool
  pollIntervalSeconds : Int
  streamHistoryRetentionDays : Int
  rules : List Rule
  someRule : rules ≠ []

def maxTranscodeGuardRules : Nat := 100
def maxTranscodeGuardRuleDepth : Nat := 4
def maxTranscodeGuardGroupChildren : Nat := 50
def maxTranscodeGuardListItems : Nat := 50
def maxTranscodeGuardIdentifierLength : Nat := 128
def maxTranscodeGuardNameLength : Nat := 160
def maxTranscodeGuardMessageLength : Nat := 2048
def maxTranscodeGuardTextBytes : Nat := 128 * 1024

def scopeFields : List String :=
  ["server_ids", "excluded_users", "excluded_clients", "excluded_devices", "excluded_ips"]

def shortTextFields : List String :=
  ["id", "profile", "mode", "video_state", "audio_state", "remux_state",
    "transformation_state", "message_display_mode"]

def textBytes (value : Json) (maximum : Nat) (field : String) : Except String Nat :=
  match value with
  | .text value =>
      if maximum < value.utf8ByteSize then
        .error ("Il campo Transcode Guard \"" ++ field ++ "\" supera il limite consentito.")
      else .ok value.utf8ByteSize
  | _ => .ok 0

/-- The sum of what is measured, or the first error. -/
def sumBytes {α : Type} (measure : α → Except String Nat) (values : List α)
    : Except String Nat :=
  values.foldlM (fun total value => (total + ·) <$> measure value) 0

def sequenceTextBytes (value : Json) (field : String) : Except String Nat :=
  let itemsBytes (items : List Json) : Except String Nat :=
    if maxTranscodeGuardListItems < items.length then
      .error ("Il campo Transcode Guard \"" ++ field ++ "\" contiene troppi elementi.")
    else sumBytes (textBytes · maxTranscodeGuardIdentifierLength field) items
  match value with
  | .text texts => do
      let _ ←
        textBytes value ((maxTranscodeGuardIdentifierLength + 1) * maxTranscodeGuardListItems)
          field
      itemsBytes ((splitAt ',' texts).map .text)
  | value => (value.asList?.map itemsBytes).getD (.ok 0)

def nodeTextBytes (node : Document) : Except String Nat := do
  let short ←
    sumBytes (fun field => textBytes (node.field field) maxTranscodeGuardIdentifierLength field)
      shortTextFields
  let name ← textBytes (node.field "name") maxTranscodeGuardNameLength "name"
  let messages ←
    sumBytes (fun field => textBytes (node.field field) maxTranscodeGuardMessageLength field)
      ["message_header", "message_text"]
  let scopes ← sumBytes (fun field => sequenceTextBytes (node.field field) field) scopeFields
  return short + name + messages + scopes

section Normalization

variable (alphabet : Alphabet)

def ruleType (raw : Document) : String :=
  alphabet.lower (strip ((raw.field "type").textOr alphabet "rule"))

def groupChildren? (raw : Document) : Option (List Json) :=
  if ruleType alphabet raw = "group" then (raw.field "children").asList?.filter (· ≠ [])
  else none

/-- Visit the rules on the stack, the top first; `rulesLeft` more ones are allowed. -/
def visitRules
    : (rulesLeft : Nat) → (leafCount textBytes : Nat) → (stack : List (Document × Nat))
      → Except String Unit
  | _, _, _, [] => .ok ()
  | 0, _, _, _ :: _ => .error "La configurazione Transcode Guard contiene troppe regole."
  | rulesLeft + 1, leafCount, textBytes, (rule, depth) :: stack => do
      if maxTranscodeGuardRuleDepth < depth then
        throw "La configurazione Transcode Guard contiene gruppi troppo profondi."
      let textBytes := textBytes + (← nodeTextBytes rule)
      if maxTranscodeGuardTextBytes < textBytes then
        throw "La configurazione Transcode Guard contiene troppo testo."
      match groupChildren? alphabet rule with
      | none =>
          if maxTranscodeGuardRules < leafCount + 1 then
            throw "La configurazione Transcode Guard contiene troppe regole finali."
          visitRules rulesLeft (leafCount + 1) textBytes stack
      | some children =>
          if maxTranscodeGuardGroupChildren < children.length then
            throw "Un gruppo Transcode Guard contiene troppi elementi."
          visitRules rulesLeft leafCount textBytes
            ((children.filterMap Json.asDict?).map (·, depth + 1) ++ stack)

def validateTranscodeGuardSettingsPayload (raw : Document) : Except String Unit := do
  let textBytes ← nodeTextBytes raw
  match (raw.field "rules").asList? with
  | none => return ()
  | some rules =>
      if maxTranscodeGuardRules < rules.length then
        throw "La configurazione Transcode Guard contiene troppe regole."
      visitRules alphabet maxTranscodeGuardRules 0 textBytes
        ((rules.filterMap Json.asDict?).map (·, 1))

def defaultMessageHeader : String := "OctoHubs Transcode Guard"

def defaultMessageText : String :=
  "\x7btitle\x7d è in transcodifica video su \x7bserver\x7d. "
    ++ "Controlla qualità di riproduzione, versione o client per evitare perdita di qualità."

def defaultTranscodeGuardRule : Document :=
  ⟨[("id", .text "default-video-transcode"), ("name", .text "Transcode video sopra soglia"),
    ("type", .text "rule"), ("enabled", .bool true),
    ("profile", .text "video_transcode_threshold"), ("mode", .text "monitor"),
    ("video_state", .text "transcode"), ("audio_state", .text "any"),
    ("remux_state", .text "any"), ("transformation_state", .text "any"),
    ("min_source_height", .int 2160), ("correction_window_seconds", .int 60),
    ("message_display_mode", .text "toast"), ("warning_timeout_ms", .int 45000),
    ("max_warnings", .int 3), ("message_cooldown_seconds", .int 30),
    ("allow_audio_only_transcode", .bool true), ("allow_container_remux", .bool true),
    ("ignore_paused", .bool true), ("message_header", .text defaultMessageHeader),
    ("message_text", .text defaultMessageText), ("stop_processing", .bool true)], by decide⟩

def profileDefaultCriteria
    : RuleProfile → StreamState × StreamState × PresenceState × PresenceState × Int
  | .videoTranscodeThreshold => (.transcode, .any, .any, .any, 2160)
  | .anyVideoTranscode => (.transcode, .any, .any, .any, 0)
  | .anyTranscode => (.any, .any, .any, .present, 0)
  | .videoAudioTranscode => (.transcode, .transcode, .any, .any, 0)
  | .audioTranscode => (.direct, .transcode, .any, .any, 0)
  | .browserPlayback => (.any, .any, .any, .any, 0)
  | .remux => (.direct, .direct, .present, .any, 0)

def cleanIdentifier (value : Json) (fallback : String) : String :=
  let text := strip (value.textOr alphabet "")
  let text := alphabet.lower (if text = "" then fallback else text)
  let clean :=
    text.map (fun letter =>
      if alphabet.isAlphanumeric letter ∨ letter = '-' ∨ letter = '_' then letter else '-')
  let clean := "-".intercalate ((splitAt '-' clean).filter (· ≠ ""))
  if clean = "" then fallback else clean

def cleanText (value : Json) (fallback : String) : String :=
  let text := strip (value.textOr alphabet "")
  if text = "" then fallback else text

/-- The choice whose name a value spells, or the default. -/
def chosen {α : Type} (read : String → String) (name : α → String) (all : List α)
    (value : Json) (default_ : α)
    : α :=
  let text := read (value.textOr alphabet (name default_))
  (all.find? (fun choice => name choice = text)).getD default_

def normalizeProfile (value : Json) : RuleProfile :=
  chosen alphabet strip RuleProfile.name RuleProfile.all value .videoTranscodeThreshold

def normalizeMode (value : Json) (default_ : GuardMode) : GuardMode :=
  chosen alphabet strip GuardMode.name GuardMode.all value default_

def normalizeStreamState (value : Json) (default_ : StreamState) : StreamState :=
  chosen alphabet (fun text => alphabet.lower (strip text)) StreamState.name StreamState.all
    value default_

/-- The same for the remux and for the transformations. -/
def normalizePresenceState (value : Json) (default_ : PresenceState) : PresenceState :=
  chosen alphabet (fun text => alphabet.lower (strip text)) PresenceState.name
    PresenceState.all value default_

def normalizeMessageDisplayMode (value : Json) : MessageDisplayMode :=
  chosen alphabet strip MessageDisplayMode.name MessageDisplayMode.all value .toast

def normalizeQualityThreshold (value : Json) (default_ : Int) : Int :=
  let threshold := (value.toInt? alphabet).getD default_
  if threshold ≤ 0 then 0
  else if threshold ∈ [480, 576, 720, 1080, 1440, 2160] then threshold
  else max 360 (min 4320 threshold)

def messageOr (value : Json) (default_ : String) : String :=
  match value with
  | .text value => if strip value = "" then default_ else strip value
  | _ => default_

def normalizeTranscodeGuardRule (raw : Document) (fallbackId : String) : Rule :=
  let profile := normalizeProfile alphabet (raw.field "profile")
  let (videoState, audioState, remuxState, transformationState, minSourceHeight) :=
    profileDefaultCriteria profile
  { id := cleanIdentifier alphabet (raw.field "id") fallbackId
    name := cleanText alphabet (raw.field "name") "Regola Transcode Guard"
    profile
    mode := normalizeMode alphabet (raw.field "mode") .monitor
    enabled := (raw.field "enabled").toBool alphabet true
    stopProcessing := (raw.field "stop_processing").toBool alphabet true
    videoState := normalizeStreamState alphabet (raw.field "video_state") videoState
    audioState := normalizeStreamState alphabet (raw.field "audio_state") audioState
    remuxState := normalizePresenceState alphabet (raw.field "remux_state") remuxState
    transformationState :=
      normalizePresenceState alphabet (raw.field "transformation_state") transformationState
    minSourceHeight :=
      normalizeQualityThreshold alphabet (raw.field "min_source_height") minSourceHeight
    correctionWindowSeconds :=
      (raw.field "correction_window_seconds").boundedInt alphabet 0 1800 60
    messageDisplayMode :=
      normalizeMessageDisplayMode alphabet (raw.field "message_display_mode")
    warningTimeoutMs := (raw.field "warning_timeout_ms").boundedInt alphabet 1000 300000 45000
    maxWarnings := (raw.field "max_warnings").boundedInt alphabet 1 10 3
    messageCooldownSeconds :=
      (raw.field "message_cooldown_seconds").boundedInt alphabet 0 3600 30
    allowAudioOnlyTranscode := (raw.field "allow_audio_only_transcode").toBool alphabet true
    allowContainerRemux := (raw.field "allow_container_remux").toBool alphabet true
    ignorePaused := (raw.field "ignore_paused").toBool alphabet true
    serverIds := (raw.field "server_ids").stringList alphabet
    excludedUsers := (raw.field "excluded_users").stringList alphabet
    excludedClients := (raw.field "excluded_clients").stringList alphabet
    excludedDevices := (raw.field "excluded_devices").stringList alphabet
    excludedIps := (raw.field "excluded_ips").stringList alphabet
    messageHeader := messageOr (raw.field "message_header") defaultMessageHeader
    messageText := messageOr (raw.field "message_text") defaultMessageText }

def groupInheritedRuleFields : List String :=
  ["profile", "video_state", "audio_state", "remux_state", "transformation_state",
    "min_source_height", "mode", "correction_window_seconds", "message_display_mode",
    "warning_timeout_ms", "max_warnings", "message_cooldown_seconds",
    "allow_audio_only_transcode", "allow_container_remux", "ignore_paused",
    "message_header", "message_text", "stop_processing"]

def hasRuleValue (value : Json) : Bool :=
  match value with
  | .null => false
  | .text value => strip value ≠ ""
  | .list _ _ => value.stringList alphabet ≠ []
  | _ => true

/-- A disabled group disables its rules; what a rule leaves open is taken from the group. -/
def inheritGroupFields (group child : Document) : Document :=
  let enabled :=
    match group.get? "enabled" with
    | none => child
    | some (.bool false) => child.set "enabled" (.bool false)
    | some value => if "enabled" ∈ child.keys then child else child.set "enabled" value
  groupInheritedRuleFields.foldl
    (fun merged key =>
      match group.get? key with
      | none => merged
      | some value =>
          if hasRuleValue alphabet (merged.field key) then merged else merged.set key value)
    enabled

/-- The rules of an entry, the groups opened down to the given level. -/
def normalizeTranscodeGuardRuleEntries
    : (levels : Nat) → (raw : Document) → (fallbackId : String) → List Rule
  | 0, _, _ => []
  | levels + 1, raw, fallbackId =>
      match groupChildren? alphabet raw with
      | none => [normalizeTranscodeGuardRule alphabet raw fallbackId]
      | some children =>
          children.zipIdx.flatMap (fun (child, index) =>
            child.asDict?.elim [] (fun child =>
              normalizeTranscodeGuardRuleEntries levels (inheritGroupFields alphabet raw child)
                (fallbackId ++ "-child-" ++ toString (index + 1))))

theorem get?_foldl_inherit {group : Document} {keys : List String} {key : String}
    (other : key ∉ keys) (merged : Document)
    : (keys.foldl
          (fun merged key =>
            match group.get? key with
            | none => merged
            | some value =>
                if hasRuleValue alphabet (merged.field key) then merged else merged.set key value)
          merged).get? key
      = merged.get? key := by
  induction keys generalizing merged with
  | nil => rfl
  | cons first rest ih =>
      rw [List.mem_cons, not_or] at other
      rw [List.foldl_cons, ih other.2]
      split
      · rfl
      · split
        · rfl
        · exact Dict.get?_set_ne _ _ other.1

def rulesOf (raw : Document) : List Rule :=
  ((raw.field "rules").asList?.getD []).zipIdx.flatMap (fun (item, index) =>
    item.asDict?.elim [] (fun rule =>
      normalizeTranscodeGuardRuleEntries alphabet ((rule.field "children").depth + 1) rule
        ("rule-" ++ toString (index + 1))))

def someRulesOf (raw : Document) : { rules : List Rule // rules ≠ [] } :=
  match rulesOf alphabet raw with
  | [] =>
      ⟨[normalizeTranscodeGuardRule alphabet defaultTranscodeGuardRule "rule-1"],
        List.cons_ne_nil _ _⟩
  | first :: rest => ⟨first :: rest, List.cons_ne_nil _ _⟩

/-- Settings whose fields of a rule are copied from the first rule, enabled or not. -/
def copyPrimaryRuleRuntimeFields (enabled : Bool) (poll retention : Int)
    (rules : { rules : List Rule // rules ≠ [] })
    : GuardSettings where
  toRuleFields := (rules.val.head rules.property).toRuleFields
  enabled := enabled
  pollIntervalSeconds := poll
  streamHistoryRetentionDays := retention
  rules := rules
  someRule := rules.property

def normalizeTranscodeGuardSettings (raw : Document) : Except String GuardSettings := do
  validateTranscodeGuardSettingsPayload alphabet raw
  return copyPrimaryRuleRuntimeFields ((raw.field "enabled").toBool alphabet false)
    ((raw.field "poll_interval_seconds").boundedInt alphabet 2 120 5)
    ((raw.field "stream_history_retention_days").boundedInt alphabet 0 3650 0)
    (someRulesOf alphabet raw)

end Normalization

end OctoHubs.TranscodeGuard
