import OctoHubs.TranscodeGuard.RuleSettings

/-! The classification of a stream: the rules are tried in order, and what no rule decides is
left to the fields that the settings have from their first rule.
-/

namespace OctoHubs.TranscodeGuard

open OctoHubs.Library

structure IpAddress where
  version : Nat
  value : Nat
  scope : Option String
deriving DecidableEq, Repr

structure IpNetwork where
  version : Nat
  address : Nat
  hostBits : Nat
deriving DecidableEq, Repr

def IpNetwork.contains (network : IpNetwork) (address : IpAddress) : Bool :=
  address.version = network.version
  && address.value / 2 ^ network.hostBits = network.address / 2 ^ network.hostBits

/-- How texts are read: letter cases and numbers, addresses and networks. -/
structure Reader extends Alphabet where
  ipAddress? : String → Option IpAddress
  ipNetwork? : String → Option IpNetwork

variable (reader : Reader)

/-- What the rules see of a stream. -/
structure StreamFeatures where
  serverId : String
  user : String
  client : String
  device : String
  ip : String
  videoDirect : Bool
  audioDirect : Bool
  videoHeight : Option Int
  sourceQualityTier : Option Int
  reasons : List String
  paused : Bool
  remux : Bool
deriving DecidableEq, Repr

def loweredText (value : Json) : String :=
  reader.lower (strip (value.textOr reader.toAlphabet ""))

def isDirectMode (value : Json) : Bool :=
  loweredText reader value
    ∈ ["diretta", "direct", "directplay", "directstream", "direct play", "direct stream"]

def firstNumber? (stream : Document) (keys : List String) : Option Int :=
  keys.findSome? (fun key => (stream.field key).toInt? reader.toAlphabet)

def videoLabel (stream : Document) : String :=
  (stream.field "video_label").textOr reader.toAlphabet ""

def spaced (separators : List Char) (label : String) : String :=
  label.map (fun letter => if letter ∈ separators then ' ' else letter)

/-- The text without one letter at its end. -/
def removeLast (letter : Char) (text : String) : String :=
  if text.toList.getLast? = some letter then String.ofList text.toList.dropLast else text

def extractVideoHeight (stream : Document) : Option Int :=
  match firstNumber? reader stream ["video_height", "height", "source_height"] with
  | some height => if 0 < height then some height else none
  | none =>
      (words (spaced ['x', '/'] (videoLabel reader stream))).findSome? (fun part =>
        (reader.readInt? (removeLast 'p' (strip (reader.lower part)))).filter (fun height =>
          240 ≤ height ∧ height ≤ 4320))

def extractVideoWidth (stream : Document) : Option Int :=
  match firstNumber? reader stream ["video_width", "width", "source_width"] with
  | some width => if 0 < width then some width else none
  | none =>
      (words (spaced ['/'] (videoLabel reader stream))).findSome? (fun part =>
        if 'x' ∈ (reader.lower part).toList then
          (reader.readInt? ((splitAt 'x' (reader.lower part)).headD "")).filter (fun width =>
            240 ≤ width ∧ width ≤ 8192)
        else none)

def labelTier? (label : String) : Option Int :=
  let tiers : List (String × Int) :=
    [("2160", 2160), ("4k", 2160), ("uhd", 2160), ("1440", 1440), ("1080", 1080), ("720", 720),
      ("576", 576), ("480", 480)]
  (tiers.find? (fun tier => includes label tier.1)).map Prod.snd

def reachedTier? (bounds : List (Int × Int)) (size : Int) : Option Int :=
  (bounds.find? (fun bound => bound.1 ≤ size)).map Prod.snd

def sourceQualityTier (stream : Document) (width height : Option Int) : Option Int :=
  let label :=
    if (stream.field "video_label").truthy then stream.field "video_label"
    else stream.field "quality"
  (labelTier? (reader.lower (label.textOr reader.toAlphabet "")))
  <|> width.bind (reachedTier? [(3000, 2160), (2200, 1440), (1600, 1080), (1100, 720)])
  <|> height.map (fun height =>
    (reachedTier? [(1600, 2160), (1200, 1440), (900, 1080), (650, 720), (540, 576), (430, 480)]
      height).getD height)

def normalizeContainerName (value : Json) : String :=
  let text := loweredText reader value
  let aliases := [("matroska", "mkv"), ("mpegts", "ts"), ("mpeg-ts", "ts"), ("m3u8", "hls")]
  (aliases.find? (fun alias_ => alias_.1 = text)).elim text Prod.snd

def looksLikeRemux (stream : Document) : Bool :=
  let sourceContainer :=
    normalizeContainerName reader
      (if (stream.field "container").truthy then stream.field "container"
        else stream.field "stream_container")
  let outputContainer := normalizeContainerName reader (stream.field "transcode_container")
  let streamContainer := normalizeContainerName reader (stream.field "stream_container")
  if outputContainer ≠ "" ∧ sourceContainer ≠ "" then outputContainer ≠ sourceContainer
  else streamContainer ≠ "" ∧ sourceContainer ≠ "" ∧ streamContainer ≠ sourceContainer

def streamFeatures (stream : Document) : StreamFeatures :=
  let text (key : String) : String := (stream.field key).textOr reader.toAlphabet ""
  let videoHeight := extractVideoHeight reader stream
  { serverId := text "server_id"
    user := text "user"
    client := text "client"
    device := text "device"
    ip := text "ip"
    videoDirect := isDirectMode reader (stream.field "video_mode")
    audioDirect := isDirectMode reader (stream.field "audio_mode")
    videoHeight
    sourceQualityTier :=
      sourceQualityTier reader stream (extractVideoWidth reader stream) videoHeight
    reasons := (stream.field "transcode_reasons").stringList reader.toAlphabet
    paused := (stream.field "paused").truthy
    remux := looksLikeRemux reader stream }

def matchesAny (value : String) (patterns : List String) : Bool :=
  let valueNorm := reader.lower (strip value)
  valueNorm ≠ "" && patterns.any (fun pattern => valueNorm = reader.lower (strip pattern))

/-- The text without a port after an address. -/
def hostOf (text : String) : String :=
  if text.toList.count ':' = 1 ∧ '.' ∈ text.toList then (splitAt ':' text).headD "" else text

def ipMatchesAny (value : String) (patterns : List String) : Bool :=
  let text := strip value
  if text = "" then false
  else
    match reader.ipAddress? (hostOf text) with
    | none => matchesAny reader text patterns
    | some address =>
        patterns.any (fun pattern =>
          let item := strip pattern
          if item = "" then false
          else if '/' ∈ item.toList then
            (reader.ipNetwork? item).elim (matchesAny reader text [item]) (·.contains address)
          else (reader.ipAddress? item).elim (matchesAny reader text [item]) (address = ·))

def ruleAppliesToServer (rule : Rule) (features : StreamFeatures) : Bool :=
  strip features.serverId = "" ∨ strip features.serverId ∈ rule.serverIds

def ruleExclusionReason (rule : Rule) (features : StreamFeatures) : Option String :=
  if matchesAny reader features.user rule.excludedUsers then some "Utente escluso"
  else if matchesAny reader features.client rule.excludedClients then some "Client escluso"
  else if matchesAny reader features.device rule.excludedDevices then some "Device escluso"
  else if ipMatchesAny reader features.ip rule.excludedIps then some "IP escluso"
  else none

def looksLikeBrowser (client device : String) : Bool :=
  ["browser", "web", "chrome", "safari", "firefox", "edge", "opera"].any
    (includes (reader.lower (client ++ " " ++ device)))

def streamStateMatches (state : StreamState) (isTranscoding : Bool) : Bool :=
  match state with
  | .any => true
  | .transcode => isTranscoding
  | .direct => !isTranscoding

/-- The same for the remux and for the transformations. -/
def presenceStateMatches (state : PresenceState) (present : Bool) : Bool :=
  match state with
  | .any => true
  | .present => present
  | .absent => !present

def hasSubtitleBurnReason (reasons : List String) : Bool :=
  reasons.any (fun reason =>
    includes (reader.lower reason) "subtitle" || includes (reader.lower reason) "burn")

structure RuleMatch where
  category : String
  reason : String
  severity : String
deriving DecidableEq, Repr

def Rule.criteriaMet (rule : Rule) (features : StreamFeatures) : Bool :=
  (rule.profile ≠ .browserPlayback || looksLikeBrowser reader features.client features.device)
  && streamStateMatches rule.videoState (!features.videoDirect)
  && streamStateMatches rule.audioState (!features.audioDirect)
  && presenceStateMatches rule.remuxState features.remux
  && presenceStateMatches rule.transformationState
    (!features.videoDirect || !features.audioDirect || features.remux)
  && (rule.minSourceHeight ≤ 0
    || features.sourceQualityTier.any (fun tier => rule.minSourceHeight ≤ tier))

def ruleMatches (rule : Rule) (features : StreamFeatures) : Option RuleMatch :=
  if !rule.criteriaMet reader features then none
  else if rule.profile = .browserPlayback then
    some ⟨"browser_playback", "Riproduzione da browser", "warning"⟩
  else if !features.videoDirect ∧ !features.audioDirect then
    some ⟨"video_audio_transcode", "Transcodifica video e audio", "danger"⟩
  else if !features.videoDirect then
    if hasSubtitleBurnReason reader features.reasons then
      some ⟨"subtitle_burnin", "Sottotitoli impressi", "danger"⟩
    else some ⟨"video_transcode", "Transcodifica video", "danger"⟩
  else if !features.audioDirect then
    some ⟨"audio_transcode", "Solo audio transcode", "warning"⟩
  else if features.remux then some ⟨"container_remux", "Remux contenitore", "warning"⟩
  else some ⟨"stream_match", "Regola stream", "warning"⟩

/-- A decision about a stream; `reason` is also its label. -/
structure RuleDecision where
  category : String
  reason : String
  severity : String
  shouldEnforce : Bool
  sourceHeight : Option Int
  sourceQualityTier : Option Int
  threshold : Int
  mode : GuardMode
  sessionId : Json
  ruleId : String
  ruleName : String
  rulePath : List String
  profile : Option RuleProfile
  messageDisplayMode : MessageDisplayMode
  warningTimeoutMs : Int
  maxWarnings : Int
  messageCooldownSeconds : Int
  correctionWindowSeconds : Int
  messageHeader : String
  messageText : String

/-- A decision with the fields of the rule that makes it, or of the settings. -/
def decision (category reason severity : String) (shouldEnforce : Bool) (stream : Document)
    (fields : RuleFields) (features : StreamFeatures) (rule : Option Rule)
    : RuleDecision where
  category := category
  reason := reason
  severity := severity
  shouldEnforce := shouldEnforce
  sourceHeight := features.videoHeight
  sourceQualityTier := features.sourceQualityTier
  threshold := fields.minSourceHeight
  mode := fields.mode
  sessionId :=
    if (stream.field "session_id").truthy then stream.field "session_id" else .text ""
  ruleId := rule.elim "" Rule.id
  ruleName := rule.elim "" Rule.name
  rulePath := rule.elim [] (fun rule => [firstNonempty [rule.name, rule.id, "Regola"]])
  profile := rule.map Rule.profile
  messageDisplayMode := fields.messageDisplayMode
  warningTimeoutMs := fields.warningTimeoutMs
  maxWarnings := fields.maxWarnings
  messageCooldownSeconds := fields.messageCooldownSeconds
  correctionWindowSeconds := fields.correctionWindowSeconds
  messageHeader := fields.messageHeader
  messageText := fields.messageText

/-- What one rule says; after a skipped stream the next rules are still asked. -/
inductive RuleVerdict
  | silent
  | skipped (decision : RuleDecision)
  | decided (decision : RuleDecision)

def evaluateRule (rule : Rule) (stream : Document) (features : StreamFeatures) : RuleVerdict :=
  if !rule.enabled || !ruleAppliesToServer rule features then .silent
  else if features.paused && rule.ignorePaused then
    .skipped
      (decision "paused" "In pausa" "muted" false stream rule.toRuleFields features (some rule))
  else
    match ruleExclusionReason reader rule features with
    | some reason =>
        .skipped
          (decision "excluded" reason "muted" false stream rule.toRuleFields features (some rule))
    | none =>
        match ruleMatches reader rule features with
        | none => .silent
        | some matched =>
            .decided
              (decision matched.category matched.reason matched.severity true stream
                rule.toRuleFields features (some rule))

/-- The first decision of a rule, else the last one that skips the stream. -/
def evaluateRules (stream : Document) (features : StreamFeatures)
    : (rules : List Rule) → (skippedDecision : Option RuleDecision) → Option RuleDecision
  | [], skippedDecision => skippedDecision
  | rule :: rest, skippedDecision =>
      match evaluateRule reader rule stream features with
      | .silent => evaluateRules stream features rest skippedDecision
      | .skipped decision => evaluateRules stream features rest (some decision)
      | .decided decision => some decision

def fallbackDecision (stream : Document) (fields : RuleFields) (features : StreamFeatures)
    : RuleDecision :=
  if features.videoHeight = none ∧ !features.videoDirect then
    decision "unknown" "Altezza video sorgente non disponibile" "warning" false stream fields
      features none
  else if !features.videoDirect then
    decision "video_transcode" "Transcodifica video" "warning" false stream fields features none
  else if !features.audioDirect then
    decision "audio_transcode" "Solo audio transcode"
      (if fields.allowAudioOnlyTranscode then "ok" else "warning")
      (!fields.allowAudioOnlyTranscode) stream fields features none
  else if features.remux then
    decision "container_remux" "Remux contenitore"
      (if fields.allowContainerRemux then "ok" else "warning")
      (!fields.allowContainerRemux) stream fields features none
  else decision "direct" "Direct Play" "ok" false stream fields features none

def classifyResolved (stream : Document) (settings : GuardSettings) (features : StreamFeatures)
    : RuleDecision :=
  (evaluateRules reader stream features settings.rules none).getD
    (fallbackDecision stream settings.toRuleFields features)

/-- The classification of a stream; settings beyond their bounds are an error. -/
def classifyStream (stream settings : Document) : Except String RuleDecision := do
  let resolved ← normalizeTranscodeGuardSettings reader.toAlphabet settings
  return classifyResolved reader stream resolved (streamFeatures reader stream)

end OctoHubs.TranscodeGuard
