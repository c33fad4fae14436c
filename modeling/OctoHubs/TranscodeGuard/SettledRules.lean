import OctoHubs.Library.Rereading
import OctoHubs.TranscodeGuard.RuleDecisions

/-! Settings written out as a document, and what normalizing leaves in every field: a value that
is read back as it was written.
-/

namespace OctoHubs.TranscodeGuard

open OctoHubs.Library

def RuleFields.entries (fields : RuleFields) : List (String × Json) :=
  [("mode", .text fields.mode.name), ("video_state", .text fields.videoState.name),
    ("audio_state", .text fields.audioState.name),
    ("remux_state", .text fields.remuxState.name),
    ("transformation_state", .text fields.transformationState.name),
    ("min_source_height", .int fields.minSourceHeight),
    ("correction_window_seconds", .int fields.correctionWindowSeconds),
    ("message_display_mode", .text fields.messageDisplayMode.name),
    ("warning_timeout_ms", .int fields.warningTimeoutMs),
    ("max_warnings", .int fields.maxWarnings),
    ("message_cooldown_seconds", .int fields.messageCooldownSeconds),
    ("allow_audio_only_transcode", .bool fields.allowAudioOnlyTranscode),
    ("allow_container_remux", .bool fields.allowContainerRemux),
    ("ignore_paused", .bool fields.ignorePaused), ("server_ids", textList fields.serverIds),
    ("excluded_users", textList fields.excludedUsers),
    ("excluded_clients", textList fields.excludedClients),
    ("excluded_devices", textList fields.excludedDevices),
    ("excluded_ips", textList fields.excludedIps),
    ("message_header", .text fields.messageHeader), ("message_text", .text fields.messageText)]

def Rule.document (rule : Rule) : Document where
  items :=
    [("id", .text rule.id), ("name", .text rule.name), ("type", .text "rule"),
      ("enabled", .bool rule.enabled), ("profile", .text rule.profile.name),
      ("stop_processing", .bool rule.stopProcessing), ("children", .ofList [])]
    ++ rule.toRuleFields.entries
  nodup := by simp [RuleFields.entries]

def GuardSettings.document (settings : GuardSettings) : Document where
  items :=
    [("enabled", .bool settings.enabled),
      ("poll_interval_seconds", .int settings.pollIntervalSeconds),
      ("stream_history_retention_days", .int settings.streamHistoryRetentionDays),
      ("rules", .ofList (settings.rules.map (fun rule => .ofDict rule.document)))]
    ++ settings.toRuleFields.entries
  nodup := by simp [RuleFields.entries]

section Identifiers

variable {alphabet : Alphabet}

/-- What an identifier has between its hyphens. -/
structure IdentifierPart (alphabet : Alphabet) (part : String) : Prop where
  named : part ≠ ""
  letters
    : ∀ c ∈ part.toList,
        c ≠ '-' ∧ (alphabet.isAlphanumeric c = true ∨ c = '_') ∧ alphabet.Settled c

/-- Small letters, digits and underscores, with single hyphens between them. -/
def IsIdentifier (alphabet : Alphabet) (text : String) : Prop :=
  ∃ parts : List String,
    parts ≠ [] ∧ text = "-".intercalate parts ∧ ∀ part ∈ parts, IdentifierPart alphabet part

theorem splitAt_intercalate {parts : List String} (some_ : parts ≠ [])
    (whole : ∀ part ∈ parts, '-' ∉ part.toList)
    : splitAt '-' ("-".intercalate parts) = parts := by
  have split : ("-".intercalate parts).toList.splitOn '-' = parts.map String.toList := by
    rw [String.toList_intercalate]
    exact List.splitOn_intercalate '-' (by simpa using whole) (by simpa using some_)
  rw [splitAt, split, List.map_map]
  simp [Function.comp_def]

theorem IsIdentifier.named {text : String} (identifier : IsIdentifier alphabet text)
    : text ≠ "" := by
  rcases identifier with ⟨parts, some_, rfl, clean⟩
  rcases List.exists_cons_of_ne_nil some_ with ⟨first, rest, rfl⟩
  have named := (clean first List.mem_cons_self).named
  rcases rest with _ | ⟨next, rest⟩
  · simpa using named
  · rw [String.intercalate_cons_cons]
    simp

theorem mem_intercalate {letters : List (List Char)} {separator c : Char}
    (member : c ∈ [separator].intercalate letters)
    : c = separator ∨ ∃ part ∈ letters, c ∈ part := by
  induction letters with
  | nil => cases member
  | cons first rest ih =>
      rcases rest with _ | ⟨next, rest⟩
      · rw [List.intercalate_singleton] at member
        exact .inr ⟨first, List.mem_cons_self, member⟩
      · rw [List.intercalate_cons_cons, List.mem_append, List.mem_append,
          List.mem_singleton] at member
        rcases member with (own | hyphen) | later
        · exact .inr ⟨first, List.mem_cons_self, own⟩
        · exact .inl hyphen
        · rcases ih later with hyphen | ⟨part, other, inside⟩
          · exact .inl hyphen
          · exact .inr ⟨part, List.mem_cons_of_mem _ other, inside⟩

theorem IsIdentifier.letters (lawful : alphabet.Lawful) {text : String}
    (identifier : IsIdentifier alphabet text)
    : ∀ c ∈ text.toList,
        isSpace c = false ∧ alphabet.Settled c
        ∧ (alphabet.isAlphanumeric c = true ∨ c = '-' ∨ c = '_') := by
  rcases identifier with ⟨parts, some_, rfl, clean⟩
  intro c member
  rw [String.toList_intercalate] at member
  rcases mem_intercalate member with rfl | ⟨letters, listed, inside⟩
  · exact ⟨by decide, lawful.settled_plain _ (.inr (.inr (.inl rfl))), .inr (.inl rfl)⟩
  · rcases List.mem_map.mp listed with ⟨part, partOf, rfl⟩
    rcases (clean part partOf).letters c inside with ⟨-, shown, settled⟩
    refine ⟨?_, settled, by tauto⟩
    rcases shown with letter | rfl
    · exact lawful.visible c letter
    · decide

theorem cleanIdentifier_of_small (lawful : alphabet.Lawful) {text small : String}
    (named : text ≠ "") (stripped : strip text = text) (lowered : alphabet.lower text = small)
    (identifier : IsIdentifier alphabet small) (fallback : String)
    : cleanIdentifier alphabet (.text text) fallback = small := by
  have smallNamed := identifier.named
  have letters := identifier.letters lawful
  have kept
      : small.map (fun letter =>
          if alphabet.isAlphanumeric letter = true ∨ letter = '-' ∨ letter = '_' then letter
          else '-')
        = small := by
    apply String.toList_injective
    rw [String.toList_map]
    refine (List.map_congr_left ?_).trans (List.map_id _)
    intro c member
    exact if_pos (letters c member).2.2
  unfold cleanIdentifier
  dsimp only
  rw [textOr_text named, stripped, if_neg named, lowered, kept]
  rcases identifier with ⟨parts, some_, rfl, clean⟩
  have whole : ∀ part ∈ parts, '-' ∉ part.toList := by
    intro part member hyphen
    exact ((clean part member).letters _ hyphen).1 rfl
  have filled : parts.filter (· ≠ "") = parts := by
    rw [List.filter_eq_self]
    intro part member
    simpa using (clean part member).named
  rw [splitAt_intercalate some_ whole, filled, if_neg smallNamed]

theorem cleanIdentifier_text (lawful : alphabet.Lawful) {text : String}
    (identifier : IsIdentifier alphabet text) (fallback : String)
    : cleanIdentifier alphabet (.text text) fallback = text := by
  have letters := identifier.letters lawful
  have stripped : strip text = text := strip_of_solid (fun c member => (letters c member).1)
  have small : alphabet.lower text = text :=
    lawful.lower_of_settled text (fun c member => (letters c member).2.1)
  exact cleanIdentifier_of_small lawful identifier.named stripped small identifier fallback

theorem letters_of_splitOn {separator c : Char} {letters part : List Char}
    (member : part ∈ letters.splitOn separator) (inside : c ∈ part)
    : c ≠ separator ∧ c ∈ letters := by
  rw [List.splitOn_eq_splitOnP] at member
  induction letters generalizing part with
  | nil =>
      rw [List.splitOnP_nil, List.mem_singleton] at member
      rw [member] at inside
      cases inside
  | cons first rest ih =>
      rw [List.splitOnP_cons_eq_if_modifyHead] at member
      split at member
      · rcases List.mem_cons.mp member with rfl | later
        · cases inside
        · exact (ih later inside).imp_right (List.mem_cons_of_mem _)
      · next other =>
          rcases List.exists_cons_of_ne_nil (List.splitOnP_ne_nil (· == separator) rest) with
            ⟨head, tail, shape⟩
          rw [shape] at ih
          rw [shape, List.modifyHead_cons, List.mem_cons] at member
          rcases member with rfl | later
          · rcases List.mem_cons.mp inside with rfl | inner
            · exact ⟨by simpa using other, List.mem_cons_self⟩
            · exact (ih List.mem_cons_self inner).imp_right (List.mem_cons_of_mem _)
          · exact (ih (List.mem_cons_of_mem _ later) inside).imp_right (List.mem_cons_of_mem _)

theorem isIdentifier_cleanIdentifier (lawful : alphabet.Lawful) (value : Json)
    {fallback : String} (identifier : IsIdentifier alphabet fallback)
    : IsIdentifier alphabet (cleanIdentifier alphabet value fallback) := by
  unfold cleanIdentifier
  dsimp only
  generalize (if strip (value.textOr alphabet "") = "" then fallback
    else strip (value.textOr alphabet "")) = text
  split
  · exact identifier
  · next named =>
      refine ⟨_, ?_, rfl, ?_⟩
      · intro none_
        rw [none_] at named
        exact named rfl
      · intro part member
        rcases List.mem_filter.mp member with ⟨piece, filled⟩
        refine ⟨by simpa using filled, ?_⟩
        intro c inside
        rcases List.mem_map.mp piece with ⟨letters, split_, rfl⟩
        rw [String.toList_ofList] at inside
        rcases letters_of_splitOn split_ inside with ⟨other, mapped⟩
        rw [String.toList_map] at mapped
        rcases List.mem_map.mp mapped with ⟨letter, lowered, same⟩
        split at same
        · next shown =>
            rw [same] at shown lowered
            exact ⟨other, by tauto, lawful.lower_settles _ c lowered⟩
        · exact absurd same.symm other

theorem forall_mem_toList {word : String} {plain : Char → Bool} {Plain : Char → Prop}
    (checked : word.toList.all plain = true) (sound : ∀ c, plain c = true → Plain c)
    : ∀ c ∈ word.toList, Plain c :=
  fun c member => sound c (List.all_eq_true.mp checked c member)

/-- Small letters, digits, hyphens and underscores. -/
def isPlain (c : Char) : Bool := c.isLower || c.isDigit || c = '-' || c = '_'

theorem plain_of_isPlain (c : Char) (plain : isPlain c = true)
    : c.isLower = true ∨ c.isDigit = true ∨ c = '-' ∨ c = '_' := by
  simpa [isPlain, or_assoc] using plain

theorem isIdentifier_word (lawful : alphabet.Lawful) {word : String} (named : word ≠ "")
    (plain : ∀ c ∈ word.toList, c.isLower = true ∨ c.isDigit = true)
    : IsIdentifier alphabet word := by
  refine ⟨[word], List.cons_ne_nil _ _, by simp, ?_⟩
  intro part member
  rw [List.mem_singleton.mp member]
  refine ⟨named, ?_⟩
  intro c inside
  have letter := plain c inside
  refine ⟨?_, .inl (lawful.plain c letter), lawful.settled_plain c (by tauto)⟩
  rintro rfl
  rcases letter with lower | digit
  · exact absurd lower (by decide)
  · exact absurd digit (by decide)

theorem IsIdentifier.join {left right : String} (first : IsIdentifier alphabet left)
    (second : IsIdentifier alphabet right)
    : IsIdentifier alphabet (left ++ "-" ++ right) := by
  rcases first with ⟨before, some_, rfl, clean⟩
  rcases second with ⟨after, someAfter, rfl, cleanAfter⟩
  refine ⟨before ++ after, by simp [some_], ?_, ?_⟩
  · exact (String.intercalate_append_of_ne_nil some_ someAfter).symm
  · intro part member
    rcases List.mem_append.mp member with old | new
    · exact clean part old
    · exact cleanAfter part new

theorem isIdentifier_number (lawful : alphabet.Lawful) (number : Nat)
    : IsIdentifier alphabet (toString number) := by
  refine isIdentifier_word lawful Nat.repr_ne_empty ?_
  intro c member
  have digits : (toString number).toList = Nat.toDigits 10 number := by
    rw [Nat.toString_eq_repr, Nat.repr_eq_ofList_toDigits, String.toList_ofList]
  rw [digits] at member
  exact .inr (Nat.isDigit_of_mem_toDigits (by decide) (by decide) member)

theorem isIdentifier_rule (lawful : alphabet.Lawful) (number : Nat)
    : IsIdentifier alphabet ("rule-" ++ toString number) := by
  have word : IsIdentifier alphabet "rule" :=
    isIdentifier_word lawful (by decide)
      (@forall_mem_toList _ Char.isLower _ (by decide) (fun _ => .inl))
  exact word.join (isIdentifier_number lawful number)

theorem isIdentifier_child (lawful : alphabet.Lawful) {group : String}
    (identifier : IsIdentifier alphabet group) (number : Nat)
    : IsIdentifier alphabet (group ++ "-child-" ++ toString number) := by
  have word : IsIdentifier alphabet "child" :=
    isIdentifier_word lawful (by decide)
      (@forall_mem_toList _ Char.isLower _ (by decide) (fun _ => .inl))
  have joined := (identifier.join word).join (isIdentifier_number lawful number)
  have hyphens : "-child-" = "-" ++ "child" ++ "-" := by decide
  rw [hyphens]
  simpa only [String.append_assoc] using joined

end Identifiers

section Choices

variable {alphabet : Alphabet}

/-- Text without whitespace at its ends. -/
def SolidText (text : String) : Prop := text ≠ "" ∧ strip text = text

theorem lower_word (lawful : alphabet.Lawful) {word : String}
    (plain : ∀ c ∈ word.toList, c.isLower = true ∨ c.isDigit = true ∨ c = '-' ∨ c = '_')
    : alphabet.lower word = word :=
  lawful.lower_of_settled word (fun c member => lawful.settled_plain c (plain c member))

def choiceNames : List String :=
  RuleProfile.all.map RuleProfile.name ++ GuardMode.all.map GuardMode.name
    ++ StreamState.all.map StreamState.name ++ PresenceState.all.map PresenceState.name
    ++ MessageDisplayMode.all.map MessageDisplayMode.name

theorem choiceNames_spec
    : ∀ name ∈ choiceNames,
        SolidText name ∧ name.toList.all isPlain = true
          ∧ name.utf8ByteSize ≤ maxTranscodeGuardIdentifierLength := by
  unfold SolidText
  decide

theorem choiceNames_unique
    : (RuleProfile.all.map RuleProfile.name).Nodup ∧ (GuardMode.all.map GuardMode.name).Nodup
      ∧ (StreamState.all.map StreamState.name).Nodup
      ∧ (PresenceState.all.map PresenceState.name).Nodup
      ∧ (MessageDisplayMode.all.map MessageDisplayMode.name).Nodup := by
  decide

theorem profile_named (profile : RuleProfile)
    : profile ∈ RuleProfile.all ∧ profile.name ∈ choiceNames := by
  cases profile <;> simp [choiceNames, RuleProfile.all]

theorem mode_named (mode : GuardMode) : mode ∈ GuardMode.all ∧ mode.name ∈ choiceNames := by
  cases mode <;> simp [choiceNames, GuardMode.all]

theorem streamState_named (state : StreamState)
    : state ∈ StreamState.all ∧ state.name ∈ choiceNames := by
  cases state <;> simp [choiceNames, StreamState.all]

theorem presenceState_named (state : PresenceState)
    : state ∈ PresenceState.all ∧ state.name ∈ choiceNames := by
  cases state <;> simp [choiceNames, PresenceState.all]

theorem messageDisplayMode_named (mode : MessageDisplayMode)
    : mode ∈ MessageDisplayMode.all ∧ mode.name ∈ choiceNames := by
  cases mode <;> simp [choiceNames, MessageDisplayMode.all]

theorem lower_choice (lawful : alphabet.Lawful) {name : String} (member : name ∈ choiceNames)
    : alphabet.lower name = name :=
  lower_word lawful (forall_mem_toList (choiceNames_spec name member).2.1 plain_of_isPlain)

theorem find?_name {α : Type} {name : α → String} {all : List α} {choice : α}
    (unique : (all.map name).Nodup) (member : choice ∈ all)
    : all.find? (fun other => name other = name choice) = some choice := by
  induction all with
  | nil => cases member
  | cons first rest ih =>
      rcases List.nodup_cons.mp unique with ⟨other, unique⟩
      rcases List.mem_cons.mp member with rfl | later
      · simp
      · have ne : name first ≠ name choice := fun same =>
          other (same ▸ List.mem_map_of_mem later)
        simpa [ne] using ih unique later

theorem chosen_name {α : Type} {read : String → String} {name : α → String} {all : List α}
    {choice default_ : α} (unique : (all.map name).Nodup)
    (listed : choice ∈ all ∧ name choice ∈ choiceNames)
    (reads : read (name choice) = name choice)
    : chosen alphabet read name all (.text (name choice)) default_ = choice := by
  unfold chosen
  dsimp only
  rw [textOr_text (choiceNames_spec _ listed.2).1.1, reads, find?_name unique listed.1]
  rfl

theorem normalizeProfile_name (profile : RuleProfile)
    : normalizeProfile alphabet (.text profile.name) = profile :=
  chosen_name choiceNames_unique.1 (profile_named profile)
    (choiceNames_spec _ (profile_named profile).2).1.2

theorem normalizeMode_name (mode default_ : GuardMode)
    : normalizeMode alphabet (.text mode.name) default_ = mode :=
  chosen_name choiceNames_unique.2.1 (mode_named mode)
    (choiceNames_spec _ (mode_named mode).2).1.2

theorem normalizeMessageDisplayMode_name (mode : MessageDisplayMode)
    : normalizeMessageDisplayMode alphabet (.text mode.name) = mode :=
  chosen_name choiceNames_unique.2.2.2.2 (messageDisplayMode_named mode)
    (choiceNames_spec _ (messageDisplayMode_named mode).2).1.2

theorem normalizeStreamState_name (lawful : alphabet.Lawful) (state default_ : StreamState)
    : normalizeStreamState alphabet (.text state.name) default_ = state := by
  have listed := (streamState_named state).2
  refine chosen_name choiceNames_unique.2.2.1 (streamState_named state) ?_
  rw [(choiceNames_spec _ listed).1.2, lower_choice lawful listed]

theorem normalizePresenceState_name (lawful : alphabet.Lawful)
    (state default_ : PresenceState)
    : normalizePresenceState alphabet (.text state.name) default_ = state := by
  have listed := (presenceState_named state).2
  refine chosen_name choiceNames_unique.2.2.2.1 (presenceState_named state) ?_
  rw [(choiceNames_spec _ listed).1.2, lower_choice lawful listed]

theorem solidText_cleanText (value : Json) {fallback : String} (solid : SolidText fallback)
    : SolidText (cleanText alphabet value fallback) := by
  unfold cleanText
  dsimp only
  split
  · exact solid
  · next named => exact ⟨named, strip_strip _⟩

theorem cleanText_text {text : String} (solid : SolidText text) (fallback : String)
    : cleanText alphabet (.text text) fallback = text := by
  unfold cleanText
  dsimp only
  rw [textOr_text solid.1, solid.2, if_neg solid.1]

theorem solidText_ofList {chars : List Char}
    (starts : chars.head?.any (fun c => ! isSpace c) = true)
    (ends : chars.getLast?.all isSpace = false)
    : SolidText (String.ofList chars) := by
  cases chars with
  | nil => cases starts
  | cons first rest =>
      refine ⟨by simp [String.ofList_eq_empty_iff], strip_of_ends ?_ ?_⟩
      · intro c found
        rw [String.toList_ofList, List.head?_cons, Option.some.injEq] at found
        simpa [found] using starts
      · intro c found
        rw [String.toList_ofList] at found
        simpa [found] using ends

theorem solidText_defaultMessageHeader : SolidText defaultMessageHeader :=
  @solidText_ofList _ (by decide) (by decide)

theorem solidText_defaultMessageText : SolidText defaultMessageText := by
  unfold defaultMessageText
  exact String.ofList_append ▸ @solidText_ofList (_ ++ _) (by decide) (by decide)

theorem solidText_messageOr (value : Json) {default_ : String} (solid : SolidText default_)
    : SolidText (messageOr value default_) := by
  unfold messageOr
  split
  · split
    · exact solid
    · next named => exact ⟨named, strip_strip _⟩
  · exact solid

theorem messageOr_text {text : String} (solid : SolidText text) (default_ : String)
    : messageOr (.text text) default_ = text := by
  rw [messageOr, solid.2, if_neg solid.1]

def IsThreshold (height : Int) : Prop := height = 0 ∨ 360 ≤ height ∧ height ≤ 4320

theorem isThreshold_normalize (value : Json) (default_ : Int)
    : IsThreshold (normalizeQualityThreshold alphabet value default_) := by
  unfold normalizeQualityThreshold
  dsimp only
  generalize (value.toInt? alphabet).getD default_ = threshold
  split
  · exact .inl rfl
  · refine .inr ?_
    split
    · next listed =>
        simp only [List.mem_cons, List.not_mem_nil, or_false] at listed
        omega
    · omega

theorem normalizeQualityThreshold_int {height : Int} (threshold : IsThreshold height)
    (default_ : Int)
    : normalizeQualityThreshold alphabet (.int height) default_ = height := by
  unfold normalizeQualityThreshold Json.toInt?
  dsimp only
  rw [Option.getD_some]
  rcases threshold with rfl | ⟨above, below⟩
  · rfl
  · rw [if_neg (by omega)]
    split
    · rfl
    · omega

end Choices

section Rules

variable {alphabet : Alphabet} {rule : Rule}

/-- A rule whose fields are read back as they are. -/
structure Rule.Settled (alphabet : Alphabet) (rule : Rule) : Prop where
  id : IsIdentifier alphabet rule.id
  name : SolidText rule.name
  minSourceHeight : IsThreshold rule.minSourceHeight
  correctionWindowSeconds
    : 0 ≤ rule.correctionWindowSeconds ∧ rule.correctionWindowSeconds ≤ 1800
  warningTimeoutMs : 1000 ≤ rule.warningTimeoutMs ∧ rule.warningTimeoutMs ≤ 300000
  maxWarnings : 1 ≤ rule.maxWarnings ∧ rule.maxWarnings ≤ 10
  messageCooldownSeconds
    : 0 ≤ rule.messageCooldownSeconds ∧ rule.messageCooldownSeconds ≤ 3600
  serverIds : ListedTexts rule.serverIds
  excludedUsers : ListedTexts rule.excludedUsers
  excludedClients : ListedTexts rule.excludedClients
  excludedDevices : ListedTexts rule.excludedDevices
  excludedIps : ListedTexts rule.excludedIps
  messageHeader : SolidText rule.messageHeader
  messageText : SolidText rule.messageText

theorem settled_normalize (lawful : alphabet.Lawful) (raw : Document) {fallbackId : String}
    (identifier : IsIdentifier alphabet fallbackId)
    : (normalizeTranscodeGuardRule alphabet raw fallbackId).Settled alphabet := by
  unfold normalizeTranscodeGuardRule
  dsimp only
  generalize profileDefaultCriteria _ = criteria
  rcases criteria with ⟨video, audio, remux, transformation, height⟩
  constructor <;> dsimp only
  case id => exact isIdentifier_cleanIdentifier lawful _ identifier
  case name => exact solidText_cleanText _ (@solidText_ofList _ (by decide) (by decide))
  case minSourceHeight => exact isThreshold_normalize _ _
  case messageHeader => exact solidText_messageOr _ solidText_defaultMessageHeader
  case messageText => exact solidText_messageOr _ solidText_defaultMessageText
  all_goals
    first
      | exact listedTexts_stringList _
      | exact boundedInt_mem (by decide) (by decide) (by decide)

theorem normalize_document (lawful : alphabet.Lawful) (settled : rule.Settled alphabet)
    (fallbackId : String)
    : normalizeTranscodeGuardRule alphabet rule.document fallbackId = rule := by
  have read (key : String) (value : Json) (found : Document.field rule.document key = value) :=
    found
  unfold normalizeTranscodeGuardRule
  dsimp only
  rw [read "id" (.text rule.id) rfl, read "name" (.text rule.name) rfl,
    read "profile" (.text rule.profile.name) rfl, read "mode" (.text rule.mode.name) rfl,
    read "enabled" (.bool rule.enabled) rfl,
    read "stop_processing" (.bool rule.stopProcessing) rfl,
    read "video_state" (.text rule.videoState.name) rfl,
    read "audio_state" (.text rule.audioState.name) rfl,
    read "remux_state" (.text rule.remuxState.name) rfl,
    read "transformation_state" (.text rule.transformationState.name) rfl,
    read "min_source_height" (.int rule.minSourceHeight) rfl,
    read "correction_window_seconds" (.int rule.correctionWindowSeconds) rfl,
    read "message_display_mode" (.text rule.messageDisplayMode.name) rfl,
    read "warning_timeout_ms" (.int rule.warningTimeoutMs) rfl,
    read "max_warnings" (.int rule.maxWarnings) rfl,
    read "message_cooldown_seconds" (.int rule.messageCooldownSeconds) rfl,
    read "allow_audio_only_transcode" (.bool rule.allowAudioOnlyTranscode) rfl,
    read "allow_container_remux" (.bool rule.allowContainerRemux) rfl,
    read "ignore_paused" (.bool rule.ignorePaused) rfl,
    read "server_ids" (textList rule.serverIds) rfl,
    read "excluded_users" (textList rule.excludedUsers) rfl,
    read "excluded_clients" (textList rule.excludedClients) rfl,
    read "excluded_devices" (textList rule.excludedDevices) rfl,
    read "excluded_ips" (textList rule.excludedIps) rfl,
    read "message_header" (.text rule.messageHeader) rfl,
    read "message_text" (.text rule.messageText) rfl]
  generalize profileDefaultCriteria _ = criteria
  rcases criteria with ⟨video, audio, remux, transformation, height⟩
  dsimp only
  rw [cleanIdentifier_text lawful settled.id, cleanText_text settled.name,
    normalizeProfile_name, normalizeMode_name, normalizeStreamState_name lawful,
    normalizeStreamState_name lawful, normalizePresenceState_name lawful,
    normalizePresenceState_name lawful,
    normalizeQualityThreshold_int settled.minSourceHeight,
    boundedInt_int settled.correctionWindowSeconds.1 settled.correctionWindowSeconds.2,
    normalizeMessageDisplayMode_name,
    boundedInt_int settled.warningTimeoutMs.1 settled.warningTimeoutMs.2,
    boundedInt_int settled.maxWarnings.1 settled.maxWarnings.2,
    boundedInt_int settled.messageCooldownSeconds.1 settled.messageCooldownSeconds.2,
    stringList_textList settled.serverIds, stringList_textList settled.excludedUsers,
    stringList_textList settled.excludedClients, stringList_textList settled.excludedDevices,
    stringList_textList settled.excludedIps, messageOr_text settled.messageHeader,
    messageOr_text settled.messageText]
  rfl

end Rules

end OctoHubs.TranscodeGuard
