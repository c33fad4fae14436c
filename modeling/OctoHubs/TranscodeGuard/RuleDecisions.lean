import OctoHubs.TranscodeGuard.Classification

/-! When the transcode guard enforces: whether a rule asks for it, and which rule decides. -/

namespace OctoHubs.TranscodeGuard

open OctoHubs.Library

variable (reader : Reader) (features : StreamFeatures)

/-- What a decision shows of the fields that it is made with. -/
def RuleFields.shown (fields : RuleFields)
    : Int × GuardMode × MessageDisplayMode × Int × Int × Int × Int × String × String :=
  (fields.minSourceHeight, fields.mode, fields.messageDisplayMode, fields.warningTimeoutMs,
    fields.maxWarnings, fields.messageCooldownSeconds, fields.correctionWindowSeconds,
    fields.messageHeader, fields.messageText)

/-- The stream transforms the audio only, or the container only, and the fields forbid it. -/
def RuleFields.prohibits (fields : RuleFields) : Bool :=
  features.videoDirect
  && (if features.audioDirect then features.remux && !fields.allowContainerRemux
    else !fields.allowAudioOnlyTranscode)

namespace Rule

variable (rule : Rule)

/-- The rule is enabled and applies to the server of the stream. -/
def concerns : Bool := rule.enabled && ruleAppliesToServer rule features

/-- The rule leaves the stream alone: it is paused or excluded. -/
def skips : Bool :=
  (features.paused && rule.ignorePaused) || (ruleExclusionReason reader rule features).isSome

/-- The rule matches by its stream criteria. -/
def decides : Bool :=
  rule.concerns features && !rule.skips reader features
  && (ruleMatches reader rule features).isSome

/-- The rule matches by its stream criteria or by its prohibition. -/
def asks : Bool :=
  rule.concerns features && !rule.skips reader features
  && ((ruleMatches reader rule features).isSome || rule.prohibits features)

def decisionFor (stream : Document) : RuleDecision :=
  match ruleMatches reader rule features with
  | some matched =>
      decision matched.category matched.reason matched.severity true stream rule.toRuleFields
        features (some rule)
  | none => fallbackDecision stream rule.toRuleFields features

def skipDecision (stream : Document) : RuleDecision :=
  if features.paused && rule.ignorePaused then
    decision "paused" "In pausa" "muted" false stream rule.toRuleFields features (some rule)
  else
    decision "excluded" ((ruleExclusionReason reader rule features).getD "") "muted" false stream
      rule.toRuleFields features (some rule)

/-- The rule has nothing to say about the stream. -/
def isSilent : Bool :=
  !rule.concerns features
  || (!rule.skips reader features && (ruleMatches reader rule features).isNone)

end Rule

section Evaluation

variable {reader features} {rule : Rule} {stream : Document}

theorem evaluateRule_of_not_concerns (concerns : rule.concerns features = false)
    : evaluateRule reader rule stream features = .silent := by
  unfold evaluateRule
  rw [Rule.concerns, Bool.and_eq_false_iff] at concerns
  rw [if_pos]
  simpa only [Bool.or_eq_true, Bool.not_eq_true'] using concerns

theorem evaluateRule_of_skips (concerns : rule.concerns features = true)
    (skips : rule.skips reader features = true)
    : evaluateRule reader rule stream features
      = .skipped (rule.skipDecision reader features stream) := by
  rw [Rule.concerns, Bool.and_eq_true] at concerns
  unfold evaluateRule Rule.skipDecision
  rw [concerns.1, concerns.2, if_neg (by decide)]
  split
  · rfl
  next running =>
    rw [Rule.skips, Bool.or_eq_true] at skips
    obtain ⟨reason, excluded⟩ := Option.isSome_iff_exists.mp (skips.resolve_left running)
    rw [excluded]
    rfl

theorem evaluateRule_of_heeds (concerns : rule.concerns features = true)
    (heeds : rule.skips reader features = false)
    : evaluateRule reader rule stream features
      = if (ruleMatches reader rule features).isSome then
          .decided (rule.decisionFor reader features stream)
        else .silent := by
  rw [Rule.concerns, Bool.and_eq_true] at concerns
  rw [Rule.skips, Bool.or_eq_false_iff] at heeds
  have included : ruleExclusionReason reader rule features = none := by
    simpa using heeds.2
  unfold evaluateRule Rule.decisionFor
  rw [concerns.1, concerns.2, if_neg (by decide), heeds.1, if_neg Bool.false_ne_true, included]
  cases ruleMatches reader rule features with
  | none => rfl
  | some matched => rfl

theorem evaluateRule_eq
    : evaluateRule reader rule stream features
      = if rule.decides reader features then
          .decided (rule.decisionFor reader features stream)
        else if rule.concerns features && rule.skips reader features then
          .skipped (rule.skipDecision reader features stream)
        else .silent := by
  unfold Rule.decides
  cases concerns : rule.concerns features with
  | false => exact evaluateRule_of_not_concerns concerns
  | true =>
      cases skips : rule.skips reader features with
      | true => exact evaluateRule_of_skips concerns skips
      | false => exact evaluateRule_of_heeds concerns skips

/-- The first rule that decides, else the last one that skips, by induction on the rules. -/
theorem evaluateRules_eq (rules : List Rule) (skippedDecision : Option RuleDecision)
    : evaluateRules reader stream features rules skippedDecision
      = match rules.find? (Rule.decides reader features) with
        | some rule => some (rule.decisionFor reader features stream)
        | none =>
            ((rules.filter (fun rule =>
                rule.concerns features && rule.skips reader features)).getLast?.map
              (Rule.skipDecision reader features · stream))
            <|> skippedDecision := by
  induction rules generalizing skippedDecision with
  | nil => rfl
  | cons rule rest ih =>
      rw [evaluateRules, evaluateRule_eq, List.find?_cons, List.filter_cons]
      cases decides : rule.decides reader features with
      | true => rfl
      | false =>
          cases skips : rule.concerns features && rule.skips reader features with
          | false => simpa using ih skippedDecision
          | true =>
              simp only [Bool.false_eq_true, if_false, if_true, ih]
              cases rest.find? (Rule.decides reader features) with
              | some first => rfl
              | none =>
                  rw [List.getLast?_cons]
                  cases List.getLast? _ with
                  | none => rfl
                  | some last => rfl

theorem Rule.isSilent_eq (rule : Rule)
    : rule.isSilent reader features
      = (!rule.decides reader features
        && !(rule.concerns features && rule.skips reader features)) := by
  unfold Rule.isSilent Rule.decides
  cases rule.concerns features with
  | false => rfl
  | true =>
      cases rule.skips reader features with
      | true => simp
      | false => simp

theorem Rule.asks_of_decides {rule : Rule} (decides : rule.decides reader features = true)
    : rule.asks reader features = true := by
  unfold Rule.decides at decides
  unfold Rule.asks
  rw [Bool.and_eq_true] at decides
  rw [decides.1, decides.2]
  rfl

theorem enforces_fallbackDecision (fields : RuleFields)
    : (fallbackDecision stream fields features).shouldEnforce = fields.prohibits features := by
  unfold fallbackDecision RuleFields.prohibits
  cases features.videoDirect with
  | false => split <;> rfl
  | true =>
      cases features.audioDirect with
      | false => simp [decision]
      | true =>
          cases features.remux with
          | false => simp [decision]
          | true => simp [decision]

theorem fallbackDecision_eq_iff {left right : RuleFields}
    (prohibits : right.prohibits features = true)
    : fallbackDecision stream left features = fallbackDecision stream right features
      ↔ left.prohibits features = true ∧ left.shown = right.shown := by
  constructor
  · intro same
    refine ⟨?_, ?_⟩
    · have enforce := congrArg RuleDecision.shouldEnforce same
      rwa [enforces_fallbackDecision, enforces_fallbackDecision, prohibits] at enforce
    · have shown (fields : RuleFields)
          : fields.shown
            = (fun made : RuleDecision =>
                (made.threshold, made.mode, made.messageDisplayMode, made.warningTimeoutMs,
                  made.maxWarnings, made.messageCooldownSeconds, made.correctionWindowSeconds,
                  made.messageHeader, made.messageText))
              (fallbackDecision stream fields features) := by
        unfold fallbackDecision
        split_ifs <;> rfl
      rw [shown left, shown right, same]
  · rintro ⟨prohibits', shown⟩
    simp only [RuleFields.shown, Prod.mk.injEq] at shown
    unfold RuleFields.prohibits at prohibits prohibits'
    simp only [Bool.and_eq_true] at prohibits prohibits'
    cases audio : features.audioDirect <;> simp_all [fallbackDecision, decision]

end Evaluation

def GuardSettings.primary (settings : GuardSettings) : Rule :=
  settings.rules.head settings.someRule

theorem fields_eq_of_normalized {alphabet : Alphabet} {raw : Document} {settings : GuardSettings}
    (normalized : normalizeTranscodeGuardSettings alphabet raw = .ok settings)
    : settings.toRuleFields = settings.primary.toRuleFields := by
  unfold normalizeTranscodeGuardSettings at normalized
  cases accepted : validateTranscodeGuardSettingsPayload alphabet raw with
  | error message =>
      rw [accepted] at normalized
      cases normalized
  | ok _ =>
      rw [accepted] at normalized
      cases normalized
      rfl

/-- What the decision of the first rule that asks is due to. -/
def GuardSettings.Answers (settings : GuardSettings) (rule : Rule) : Prop :=
  (ruleMatches reader rule features).isSome = true
  ∨ (∀ other ∈ settings.rules, other.isSilent reader features = true)
    ∧ settings.primary.prohibits features = true
    ∧ settings.primary.shown = rule.shown

/-- The first rule does not prohibit the stream, or a rule skips it. -/
def GuardSettings.LeavesAlone (settings : GuardSettings) : Prop :=
  settings.primary.prohibits features = true
  → ∃ rule ∈ settings.rules,
      rule.concerns features = true ∧ rule.skips reader features = true

section Settings

variable {reader features} {stream : Document} {settings : GuardSettings}

theorem classifyResolved_of_decides {rule : Rule}
    (first : settings.rules.find? (Rule.decides reader features) = some rule)
    : classifyResolved reader stream settings features
      = rule.decisionFor reader features stream := by
  rw [classifyResolved, evaluateRules_eq, first]
  rfl

theorem classifyResolved_of_none (stream : Document)
    (fields : settings.toRuleFields = settings.primary.toRuleFields)
    (undecided : settings.rules.find? (Rule.decides reader features) = none)
    : (∃ rule ∈ settings.rules,
        rule.concerns features = true ∧ rule.skips reader features = true
        ∧ classifyResolved reader stream settings features
          = rule.skipDecision reader features stream)
      ∨ (∀ rule ∈ settings.rules, rule.isSilent reader features = true)
        ∧ classifyResolved reader stream settings features
          = fallbackDecision stream settings.primary.toRuleFields features := by
  rw [classifyResolved, evaluateRules_eq, undecided, fields]
  cases last
      : (settings.rules.filter (fun rule =>
          rule.concerns features && rule.skips reader features)).getLast? with
  | some rule =>
      left
      obtain ⟨member, skips⟩ := List.mem_filter.mp (List.mem_of_getLast? last)
      rw [Bool.and_eq_true] at skips
      exact ⟨rule, member, skips.1, skips.2, rfl⟩
  | none =>
      right
      refine ⟨?_, rfl⟩
      intro rule member
      rw [Rule.isSilent_eq, Bool.and_eq_true, Bool.not_eq_true', Bool.not_eq_true']
      refine ⟨?_, ?_⟩
      · simpa using List.find?_eq_none.mp undecided rule member
      · have empty := List.getLast?_eq_none_iff.mp last
        simpa using List.filter_eq_nil_iff.mp empty rule member

theorem find?_decides_of_asks {rule : Rule} {rules : List Rule}
    (first : rules.find? (Rule.asks reader features) = some rule)
    (decides : rule.decides reader features = true)
    : rules.find? (Rule.decides reader features) = some rule := by
  rw [List.find?_eq_some_iff_append] at first ⊢
  obtain ⟨-, before, after, split_, unasked⟩ := first
  refine ⟨decides, before, after, split_, ?_⟩
  intro earlier member
  cases decides' : earlier.decides reader features with
  | false => rfl
  | true =>
      have asks := unasked earlier member
      rw [Rule.asks_of_decides decides'] at asks
      cases asks

theorem skipDecision_enforces (rule : Rule)
    : (rule.skipDecision reader features stream).shouldEnforce = false := by
  unfold Rule.skipDecision
  split <;> rfl

theorem skipDecision_profile (rule : Rule)
    : (rule.skipDecision reader features stream).profile = some rule.profile := by
  unfold Rule.skipDecision
  split <;> rfl

theorem fallbackDecision_profile (fields : RuleFields)
    : (fallbackDecision stream fields features).profile = none := by
  unfold fallbackDecision
  split_ifs <;> rfl

theorem decisionFor_profile {rule : Rule} (decides : rule.decides reader features = true)
    : (rule.decisionFor reader features stream).profile = some rule.profile := by
  rw [Rule.decides, Bool.and_eq_true] at decides
  obtain ⟨matched, found⟩ := Option.isSome_iff_exists.mp decides.2
  rw [Rule.decisionFor, found]
  rfl

theorem not_decides_of_isSilent {rule : Rule} (isSilent : rule.isSilent reader features = true)
    : rule.decides reader features = false := by
  rw [Rule.isSilent_eq, Bool.and_eq_true, Bool.not_eq_true'] at isSilent
  exact isSilent.1

theorem not_skips_of_isSilent {rule : Rule} (isSilent : rule.isSilent reader features = true)
    (concerns : rule.concerns features = true)
    : rule.skips reader features = false := by
  simp [Rule.isSilent, concerns] at isSilent
  exact isSilent.1

/-- A rule asks for what is enforced unless the first rule alone prohibits the stream. -/
theorem asked_iff (fields : settings.toRuleFields = settings.primary.toRuleFields)
    : ((classifyResolved reader stream settings features).shouldEnforce = true
        → ∃ rule ∈ settings.rules, rule.asks reader features = true)
      ↔ (settings.rules.find? (Rule.asks reader features) = none
        → settings.LeavesAlone reader features) := by
  constructor
  · intro asked nobody prohibits
    rw [List.find?_eq_none] at nobody
    by_contra unskipped
    have undecided : settings.rules.find? (Rule.decides reader features) = none := by
      rw [List.find?_eq_none]
      exact fun rule member decides => nobody rule member (Rule.asks_of_decides decides)
    obtain ⟨rule, member, concerns, skips, -⟩ | ⟨-, same⟩ :=
      classifyResolved_of_none stream fields undecided
    · exact unskipped ⟨rule, member, concerns, skips⟩
    · rw [same, enforces_fallbackDecision] at asked
      obtain ⟨rule, member, asks⟩ := asked prohibits
      exact nobody rule member asks
  · intro alone enforces
    by_contra unasked
    have nobody : settings.rules.find? (Rule.asks reader features) = none := by
      rw [List.find?_eq_none]
      exact fun rule member asks => unasked ⟨rule, member, asks⟩
    have undecided : settings.rules.find? (Rule.decides reader features) = none := by
      rw [List.find?_eq_none]
      exact fun rule member decides => unasked ⟨rule, member, Rule.asks_of_decides decides⟩
    obtain ⟨rule, -, -, -, same⟩ | ⟨silent, same⟩ :=
      classifyResolved_of_none stream fields undecided
    · rw [same, skipDecision_enforces] at enforces
      cases enforces
    · rw [same, enforces_fallbackDecision] at enforces
      obtain ⟨rule, member, concerns, skips⟩ := alone nobody enforces
      rw [not_skips_of_isSilent (silent rule member) concerns] at skips
      cases skips

theorem answered_iff (fields : settings.toRuleFields = settings.primary.toRuleFields)
    {rule : Rule} (first : settings.rules.find? (Rule.asks reader features) = some rule)
    : classifyResolved reader stream settings features = rule.decisionFor reader features stream
      ↔ settings.Answers reader features rule := by
  have asks := List.find?_some first
  rw [Rule.asks, Bool.and_eq_true, Bool.and_eq_true, Bool.not_eq_true'] at asks
  obtain ⟨⟨concerns, heeds⟩, matches_⟩ := asks
  cases found : ruleMatches reader rule features with
  | some matched =>
      have decides : rule.decides reader features = true := by
        rw [Rule.decides, concerns, heeds, found]
        rfl
      have made
          : classifyResolved reader stream settings features
            = rule.decisionFor reader features stream :=
        classifyResolved_of_decides (find?_decides_of_asks first decides)
      exact iff_of_true made (Or.inl (by rw [found]; rfl))
  | none =>
      rw [found] at matches_
      have prohibits : rule.prohibits features = true := matches_
      have own
          : rule.decisionFor reader features stream
            = fallbackDecision stream rule.toRuleFields features := by
        rw [Rule.decisionFor, found]
      rw [GuardSettings.Answers, found, own]
      cases decided : settings.rules.find? (Rule.decides reader features) with
      | some other =>
          have decides := List.find?_some decided
          refine iff_of_false ?_ ?_
          · intro same
            rw [classifyResolved_of_decides decided] at same
            have profiles := congrArg RuleDecision.profile same
            rw [decisionFor_profile decides, fallbackDecision_profile] at profiles
            cases profiles
          · rintro (impossible | ⟨silent, -⟩)
            · cases impossible
            · rw [not_decides_of_isSilent (silent other (List.mem_of_find?_eq_some decided))]
                at decides
              cases decides
      | none =>
          obtain ⟨other, member, concerns', skips, same⟩ | ⟨silent, same⟩ :=
            classifyResolved_of_none stream fields decided
          · refine iff_of_false ?_ ?_
            · intro fallback
              have profiles := congrArg RuleDecision.profile (same.symm.trans fallback)
              rw [skipDecision_profile, fallbackDecision_profile] at profiles
              cases profiles
            · rintro (impossible | ⟨silent, -⟩)
              · cases impossible
              · rw [not_skips_of_isSilent (silent other member) concerns'] at skips
                cases skips
          · rw [same, fallbackDecision_eq_iff prohibits]
            constructor
            · exact fun agree => Or.inr ⟨silent, agree⟩
            · rintro (impossible | ⟨-, agree⟩)
              · cases impossible
              · exact agree

end Settings

/-- Enforcement is asked for by a rule, and the first rule that asks makes the decision; `asks`
says which rules ask.
-/
def EnforcesAsAsked (asks : StreamFeatures → Rule → Bool) (stream document : Document) : Prop :=
  ∀ settings made,
    normalizeTranscodeGuardSettings reader.toAlphabet document = .ok settings
    → classifyStream reader stream document = .ok made
    → (made.shouldEnforce = true
        → ∃ rule ∈ settings.rules, rule.asks reader (streamFeatures reader stream) = true)
      ∧ ∀ rule,
          settings.rules.find? (asks (streamFeatures reader stream)) = some rule
          → made = rule.decisionFor reader (streamFeatures reader stream) stream

theorem classifyStream_of_normalized (stream : Document) {document : Document}
    {settings : GuardSettings}
    (normalized : normalizeTranscodeGuardSettings reader.toAlphabet document = .ok settings)
    : classifyStream reader stream document
      = .ok (classifyResolved reader stream settings (streamFeatures reader stream)) := by
  rw [classifyStream, normalized]
  rfl

/-- Only a rule that asks for it leads to enforcement, and the first one decides, exactly where
the settings answer the first rule that asks or leave the stream alone. Of the rules that match
by their criteria the first one always decides.
-/
theorem enforcesAsAsked_iff (stream document : Document)
    : (EnforcesAsAsked reader (Rule.asks reader) stream document
        ↔ ∀ settings,
            normalizeTranscodeGuardSettings reader.toAlphabet document = .ok settings
            → match settings.rules.find? (Rule.asks reader (streamFeatures reader stream)) with
              | some rule => settings.Answers reader (streamFeatures reader stream) rule
              | none => settings.LeavesAlone reader (streamFeatures reader stream))
      ∧ (EnforcesAsAsked reader (Rule.decides reader) stream document
        ↔ ∀ settings,
            normalizeTranscodeGuardSettings reader.toAlphabet document = .ok settings
            → settings.rules.find? (Rule.asks reader (streamFeatures reader stream)) = none
            → settings.LeavesAlone reader (streamFeatures reader stream)) := by
  constructor
  · constructor
    · intro asked settings normalized
      have fields := fields_eq_of_normalized normalized
      obtain ⟨enforced, decides⟩ :=
        asked settings _ normalized (classifyStream_of_normalized reader stream normalized)
      cases first : settings.rules.find? (Rule.asks reader (streamFeatures reader stream)) with
      | none => exact (asked_iff fields).mp enforced first
      | some rule => exact (answered_iff fields first).mp (decides rule first)
    · intro answers settings made normalized classified
      have fields := fields_eq_of_normalized normalized
      rw [classifyStream_of_normalized reader stream normalized] at classified
      cases classified
      have answer := answers settings normalized
      refine ⟨(asked_iff fields).mpr ?_, ?_⟩
      · intro nobody
        rwa [nobody] at answer
      · intro rule first
        rw [first] at answer
        exact (answered_iff fields first).mpr answer
  · constructor
    · intro asked settings normalized
      have fields := fields_eq_of_normalized normalized
      exact (asked_iff fields).mp
        (asked settings _ normalized (classifyStream_of_normalized reader stream normalized)).1
    · intro alone settings made normalized classified
      have fields := fields_eq_of_normalized normalized
      rw [classifyStream_of_normalized reader stream normalized] at classified
      cases classified
      refine ⟨(asked_iff fields).mpr (alone settings normalized), ?_⟩
      intro rule first
      exact classifyResolved_of_decides first

/-- Texts in ASCII letters, and no addresses. -/
def asciiReader : Reader where
  lower := String.map Char.toLower
  isAlphanumeric := Char.isAlphanum
  readInt? := String.toInt?
  showNested := fun _ => ""
  ipAddress? := fun _ => none
  ipNetwork? := fun _ => none

/-- A disabled rule that does not allow an audio transcode alone. -/
def disabledRule : Document :=
  Dict.empty.set "enabled" (.bool false)
    |>.set "allow_audio_only_transcode" (.bool false)

def disabledRuleSettings : Document :=
  Dict.empty.set "rules" (.list 1 (fun _ => .ofDict disabledRule))

/-- A film with direct video and transcoded audio. -/
def audioTranscode : Document :=
  Dict.empty.set "server_id" (.text "main")
    |>.set "session_id" (.text "session")
    |>.set "video_mode" (.text "direct")
    |>.set "audio_mode" (.text "transcode")

/-- The film is stopped for a rule that is disabled. -/
theorem disabledRule_enforces
    : ¬ EnforcesAsAsked asciiReader (Rule.asks asciiReader) audioTranscode
        disabledRuleSettings := by
  intro asked
  have made
      : (classifyStream asciiReader audioTranscode disabledRuleSettings).toOption.map
          RuleDecision.shouldEnforce
        = some true := by
    decide +kernel
  have silent
      : (normalizeTranscodeGuardSettings asciiReader.toAlphabet
            disabledRuleSettings).toOption.map
          (fun settings =>
            settings.rules.any (Rule.asks asciiReader (streamFeatures asciiReader audioTranscode)))
        = some false := by
    decide +kernel
  cases normalized
      : normalizeTranscodeGuardSettings asciiReader.toAlphabet disabledRuleSettings with
  | error message =>
      rw [normalized] at silent
      cases silent
  | ok settings =>
      have classified :=
        classifyStream_of_normalized asciiReader audioTranscode normalized
      rw [classified] at made
      rw [normalized] at silent
      obtain ⟨rule, member, asks⟩ :=
        (asked settings _ normalized classified).1 (Option.some.inj made)
      exact List.any_eq_false.mp (Option.some.inj silent) rule member asks

end OctoHubs.TranscodeGuard
