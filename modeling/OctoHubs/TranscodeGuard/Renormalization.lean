import OctoHubs.TranscodeGuard.RuleTrees

/-! Settings that are normalized again, as they are whenever they are loaded. They come back as
they were as long as the texts of all rules, with what these took over from their groups, stay
within the limits that the document itself had to meet.
-/

namespace OctoHubs.TranscodeGuard

open OctoHubs.Library

section Sizes

variable (alphabet : Alphabet)

/-- The texts of a rule that the settings have as well. -/
def sharedTexts (raw : Document) : List String :=
  let (videoState, audioState, remuxState, transformationState, _) :=
    profileDefaultCriteria (normalizeProfile alphabet (raw.field "profile"))
  [(normalizeMode alphabet (raw.field "mode") .monitor).name,
    (normalizeStreamState alphabet (raw.field "video_state") videoState).name,
    (normalizeStreamState alphabet (raw.field "audio_state") audioState).name,
    (normalizePresenceState alphabet (raw.field "remux_state") remuxState).name,
    (normalizePresenceState alphabet (raw.field "transformation_state")
      transformationState).name,
    (normalizeMessageDisplayMode alphabet (raw.field "message_display_mode")).name,
    messageOr (raw.field "message_header") defaultMessageHeader,
    messageOr (raw.field "message_text") defaultMessageText]
  ++ scopeFields.flatMap (fun field => (raw.field field).stringList alphabet)

/-- The texts of a rule, cleaned; the rule comes with its name by its place. -/
def leafTexts (leaf : Document × String) : List String :=
  [cleanIdentifier alphabet (leaf.1.field "id") leaf.2,
    cleanText alphabet (leaf.1.field "name") "Regola Transcode Guard",
    (normalizeProfile alphabet (leaf.1.field "profile")).name]
  ++ sharedTexts alphabet leaf.1

/-- The cleaned id, name and lists of a rule are within their limits. -/
structure LeafFits (leaf : Document × String) : Prop where
  id
    : (cleanIdentifier alphabet (leaf.1.field "id") leaf.2).utf8ByteSize
      ≤ maxTranscodeGuardIdentifierLength
  name
    : (cleanText alphabet (leaf.1.field "name") "Regola Transcode Guard").utf8ByteSize
      ≤ maxTranscodeGuardNameLength
  scopes : ∀ field ∈ scopeFields, ListFits ((leaf.1.field field).stringList alphabet)

/-- The rules of a document, or the default rule where it has none. -/
def someLeaves (raw : Document) : List (Document × String) :=
  match settingsLeaves alphabet raw with
  | [] => [(defaultTranscodeGuardRule, "rule-1")]
  | first :: rest => first :: rest

/-- Every rule is within its limits, and all of them, with the first one counted once more for
the settings, are within the limit for the whole text.
-/
structure RulesFit (raw : Document) : Prop where
  each : ∀ leaf ∈ someLeaves alphabet raw, LeafFits alphabet leaf
  total
    : ((someLeaves alphabet raw).head?.elim 0 (fun leaf =>
          listSize (sharedTexts alphabet leaf.1)))
        + ((someLeaves alphabet raw).map (fun leaf => listSize (leafTexts alphabet leaf))).sum
      ≤ maxTranscodeGuardTextBytes

end Sizes

def RuleFields.scopeTexts (fields : RuleFields) : String → List String
  | "server_ids" => fields.serverIds
  | "excluded_users" => fields.excludedUsers
  | "excluded_clients" => fields.excludedClients
  | "excluded_devices" => fields.excludedDevices
  | "excluded_ips" => fields.excludedIps
  | _ => []

def RuleFields.texts (fields : RuleFields) : List String :=
  [fields.mode.name, fields.videoState.name, fields.audioState.name, fields.remuxState.name,
    fields.transformationState.name, fields.messageDisplayMode.name, fields.messageHeader,
    fields.messageText]
  ++ scopeFields.flatMap fields.scopeTexts

variable {alphabet : Alphabet}

theorem texts_normalize (leaf : Document × String)
    : (normalizeTranscodeGuardRule alphabet leaf.1 leaf.2).toRuleFields.texts
      = sharedTexts alphabet leaf.1 := by
  unfold normalizeTranscodeGuardRule sharedTexts RuleFields.texts
  dsimp only
  generalize profileDefaultCriteria _ = criteria
  rcases criteria with ⟨video, audio, remux, transformation, height⟩
  dsimp only
  congr 1

theorem scopeTexts_normalize (leaf : Document × String)
    : ∀ field ∈ scopeFields,
        (normalizeTranscodeGuardRule alphabet leaf.1 leaf.2).toRuleFields.scopeTexts field
        = (leaf.1.field field).stringList alphabet := by
  intro field member
  unfold normalizeTranscodeGuardRule
  dsimp only
  generalize profileDefaultCriteria _ = criteria
  rcases criteria with ⟨video, audio, remux, transformation, height⟩
  simp only [scopeFields, List.mem_cons, List.not_mem_nil, or_false] at member
  rcases member with rfl | rfl | rfl | rfl | rfl <;> rfl

theorem fieldTexts_listed (rule : Rule)
    : ∀ field ∈ scopeFields,
        Document.field rule.document field = textList (rule.toRuleFields.scopeTexts field) := by
  intro field member
  simp only [scopeFields, List.mem_cons, List.not_mem_nil, or_false] at member
  rcases member with rfl | rfl | rfl | rfl | rfl <;> rfl

theorem settingsTexts_listed (settings : GuardSettings)
    : ∀ field ∈ scopeFields,
        Document.field settings.document field
        = textList (settings.toRuleFields.scopeTexts field) := by
  intro field member
  simp only [scopeFields, List.mem_cons, List.not_mem_nil, or_false] at member
  rcases member with rfl | rfl | rfl | rfl | rfl <;> rfl

theorem listSize_append (left right : List String)
    : listSize (left ++ right) = listSize left + listSize right := by
  simp [listSize]

theorem listSize_flatMap {α : Type} (items : List α) (texts : α → List String)
    : listSize (items.flatMap texts) = (items.map (fun item => listSize (texts item))).sum := by
  induction items with
  | nil => rfl
  | cons item rest ih => rw [List.flatMap_cons, listSize_append, ih, List.map_cons, List.sum_cons]

theorem shortSizes_settings (settings : GuardSettings)
    : shortTextFields.map (fun field => textSize (Document.field settings.document field))
      = [0, 0, settings.mode.name.utf8ByteSize, settings.videoState.name.utf8ByteSize,
          settings.audioState.name.utf8ByteSize, settings.remuxState.name.utf8ByteSize,
          settings.transformationState.name.utf8ByteSize,
          settings.messageDisplayMode.name.utf8ByteSize] :=
  rfl

theorem shortSizes_rule (rule : Rule)
    : shortTextFields.map (fun field => textSize (Document.field rule.document field))
      = [rule.id.utf8ByteSize, rule.profile.name.utf8ByteSize, rule.mode.name.utf8ByteSize,
          rule.videoState.name.utf8ByteSize, rule.audioState.name.utf8ByteSize,
          rule.remuxState.name.utf8ByteSize, rule.transformationState.name.utf8ByteSize,
          rule.messageDisplayMode.name.utf8ByteSize] :=
  rfl

theorem messageSizes_settings (settings : GuardSettings)
    : messageFields.map (fun field => textSize (Document.field settings.document field))
      = [settings.messageHeader.utf8ByteSize, settings.messageText.utf8ByteSize] :=
  rfl

theorem messageSizes_rule (rule : Rule)
    : messageFields.map (fun field => textSize (Document.field rule.document field))
      = [rule.messageHeader.utf8ByteSize, rule.messageText.utf8ByteSize] :=
  rfl

theorem nodeSize_settings (settings : GuardSettings)
    : nodeSize settings.document settings.toRuleFields.scopeTexts
      = listSize settings.toRuleFields.texts := by
  have unnamed : textSize (Document.field settings.document "name") = 0 := rfl
  unfold nodeSize RuleFields.texts
  rw [shortSizes_settings, messageSizes_settings, unnamed, listSize_append, listSize_flatMap]
  simp only [listSize, List.map_cons, List.map_nil, List.sum_cons, List.sum_nil]
  omega

theorem nodeSize_rule (rule : Rule)
    : nodeSize rule.document rule.toRuleFields.scopeTexts
      = rule.id.utf8ByteSize + rule.name.utf8ByteSize + rule.profile.name.utf8ByteSize
        + listSize rule.toRuleFields.texts := by
  have named : textSize (Document.field rule.document "name") = rule.name.utf8ByteSize := rfl
  unfold nodeSize RuleFields.texts
  rw [shortSizes_rule, messageSizes_rule, named, listSize_append, listSize_flatMap]
  simp only [listSize, List.map_cons, List.map_nil, List.sum_cons, List.sum_nil]
  omega

theorem size_names (fields : RuleFields) (profile : RuleProfile)
    : ∀ size ∈
        [profile.name.utf8ByteSize, fields.mode.name.utf8ByteSize,
          fields.videoState.name.utf8ByteSize, fields.audioState.name.utf8ByteSize,
          fields.remuxState.name.utf8ByteSize, fields.transformationState.name.utf8ByteSize,
          fields.messageDisplayMode.name.utf8ByteSize],
        size ≤ maxTranscodeGuardIdentifierLength := by
  simp only [List.forall_mem_cons, List.not_mem_nil, false_implies, implies_true, and_true]
  exact ⟨(choiceNames_spec _ (profile_named profile).2).2.2,
    (choiceNames_spec _ (mode_named fields.mode).2).2.2,
    (choiceNames_spec _ (streamState_named fields.videoState).2).2.2,
    (choiceNames_spec _ (streamState_named fields.audioState).2).2.2,
    (choiceNames_spec _ (presenceState_named fields.remuxState).2).2.2,
    (choiceNames_spec _ (presenceState_named fields.transformationState).2).2.2,
    (choiceNames_spec _ (messageDisplayMode_named fields.messageDisplayMode).2).2.2⟩

/-- The messages of a rule are within their limit. -/
def MessagesFit (fields : RuleFields) : Prop :=
  ∀ size ∈ [fields.messageHeader.utf8ByteSize, fields.messageText.utf8ByteSize],
    size ≤ maxTranscodeGuardMessageLength

theorem nodeFits_settings {settings : GuardSettings}
    (messages : MessagesFit settings.toRuleFields)
    (scopes : ∀ field ∈ scopeFields, ListFits (settings.toRuleFields.scopeTexts field))
    : NodeFits settings.document settings.toRuleFields.scopeTexts where
  short := by
    rw [← List.forall_mem_map (P := (· ≤ maxTranscodeGuardIdentifierLength)),
      shortSizes_settings]
    have names := size_names settings.toRuleFields .remux
    intro size member
    rcases List.mem_cons.mp member with rfl | other
    · exact Nat.zero_le _
    · rcases List.mem_cons.mp other with rfl | named
      · exact Nat.zero_le _
      · exact names size (List.mem_cons_of_mem _ named)
  name := Nat.zero_le _
  messages := by
    rw [← List.forall_mem_map (P := (· ≤ maxTranscodeGuardMessageLength)),
      messageSizes_settings]
    exact messages
  scopes := scopes

theorem nodeFits_rule_iff {rule : Rule} (messages : MessagesFit rule.toRuleFields)
    : NodeFits rule.document rule.toRuleFields.scopeTexts
      ↔ rule.id.utf8ByteSize ≤ maxTranscodeGuardIdentifierLength
        ∧ rule.name.utf8ByteSize ≤ maxTranscodeGuardNameLength
        ∧ ∀ field ∈ scopeFields, ListFits (rule.toRuleFields.scopeTexts field) := by
  constructor
  · intro fits
    exact ⟨fits.short "id" (by decide), fits.name, fits.scopes⟩
  · rintro ⟨id, name, scopes⟩
    refine ⟨?_, name, ?_, scopes⟩
    · rw [← List.forall_mem_map (P := (· ≤ maxTranscodeGuardIdentifierLength)), shortSizes_rule]
      intro size member
      rcases List.mem_cons.mp member with rfl | named
      · exact id
      · exact size_names rule.toRuleFields rule.profile size named
    · rw [← List.forall_mem_map (P := (· ≤ maxTranscodeGuardMessageLength)), messageSizes_rule]
      exact messages

theorem validate_ok_iff {raw : Document}
    : validateTranscodeGuardSettingsPayload alphabet raw = .ok ()
      ↔ ∃ size,
          nodeTextBytes raw = .ok size
          ∧ ∀ rules,
              (raw.field "rules").asList? = some rules
              → rules.length ≤ maxTranscodeGuardRules
                ∧ visitRules alphabet maxTranscodeGuardRules 0 size
                    ((rules.filterMap Json.asDict?).map (·, 1))
                  = .ok () := by
  unfold validateTranscodeGuardSettingsPayload
  rw [bind_eq_ok_iff]
  refine exists_congr (fun size => and_congr_right' ?_)
  cases (raw.field "rules").asList? with
  | none => simp [pure, Except.pure]
  | some rules =>
      dsimp only
      rw [throw_unless_iff, Nat.not_lt]
      simp

theorem trees_map_snd (rules : List Document)
    : rules.map (·, 1)
      = (rules.map (fun rule => ((rule.field "children").depth + 1, rule, 1))).map Prod.snd := by
  simp

theorem accepted_leaves {raw : Document}
    (accepted : validateTranscodeGuardSettingsPayload alphabet raw = .ok ())
    : (settingsLeaves alphabet raw).length ≤ maxTranscodeGuardRules
      ∧ ∀ leaf ∈ settingsLeaves alphabet raw,
          ∀ field ∈ messageFields,
            textSize (leaf.1.field field) ≤ maxTranscodeGuardMessageLength := by
  rcases validate_ok_iff.mp accepted with ⟨size, -, visits⟩
  unfold settingsLeaves
  cases listed : (raw.field "rules").asList? with
  | none => exact ⟨Nat.zero_le _, fun _ member => by cases member⟩
  | some rules =>
      have visited := (visits rules listed).2
      rw [trees_map_snd] at visited
      rcases visitRules_nodes (Nat.zero_le _) visited with ⟨measured, counted⟩
      rw [List.flatMap_map] at measured counted
      rw [Option.getD_some]
      refine ⟨?_, ?_⟩
      · have opens :=
          @length_flatMap_dicts rules
            (fun fields index =>
              leafRules alphabet ((fields.field "children").depth + 1) fields
                ("rule-" ++ toString (index + 1)))
            (fun fields =>
              (treeNodes alphabet ((fields.field "children").depth + 1) fields).countP
                (isLeafRule alphabet))
            0 (fun _ _ _ _ _ => length_leafRules rfl)
        refine (le_of_eq opens).trans ?_
        rw [List.countP_flatMap, Nat.zero_add] at counted
        exact counted
      · intro leaf member field message
        rcases List.mem_flatMap.mp member with ⟨⟨item, index⟩, placed, inside⟩
        dsimp only at inside
        cases dict : item.asDict? with
        | none =>
            rw [dict] at inside
            cases inside
        | some fields =>
            rw [dict] at inside
            have written : fields ∈ rules.filterMap Json.asDict? :=
              List.mem_filterMap.mpr ⟨item, List.fst_mem_of_mem_zipIdx placed, dict⟩
            have nodes
                : ∀ node ∈ treeNodes alphabet ((fields.field "children").depth + 1) fields,
                    textSize (node.field field) ≤ maxTranscodeGuardMessageLength := by
              intro node under
              rcases measured node (List.mem_flatMap.mpr ⟨fields, written, under⟩) with
                ⟨found, ok⟩
              exact messages_of_measured ok field message
            have apart : field ≠ "enabled" := by
              rintro rfl
              exact absurd message (by decide)
            exact
              @leafRules_field alphabet _ _ _ _ _
                (fun value => textSize value ≤ maxTranscodeGuardMessageLength) apart rfl
                (nodes fields (by unfold treeNodes; exact List.mem_cons_self)) nodes _ inside

theorem size_messageOr {value : Json} {default_ : String}
    (given : textSize value ≤ maxTranscodeGuardMessageLength)
    (known : default_.utf8ByteSize ≤ maxTranscodeGuardMessageLength)
    : (messageOr value default_).utf8ByteSize ≤ maxTranscodeGuardMessageLength := by
  unfold messageOr
  split
  · split
    · exact known
    · exact (utf8ByteSize_strip_le _).trans given
  · exact known

theorem messagesFit_normalize {leaf : Document × String}
    (given
      : ∀ field ∈ messageFields,
          textSize (leaf.1.field field) ≤ maxTranscodeGuardMessageLength)
    : MessagesFit (normalizeTranscodeGuardRule alphabet leaf.1 leaf.2).toRuleFields := by
  have header := given "message_header" (by decide)
  have text := given "message_text" (by decide)
  unfold normalizeTranscodeGuardRule
  dsimp only
  generalize profileDefaultCriteria _ = criteria
  rcases criteria with ⟨video, audio, remux, transformation, height⟩
  unfold MessagesFit
  simp only [List.forall_mem_cons, List.not_mem_nil, false_implies, implies_true, and_true]
  exact
    ⟨size_messageOr header (by decide +kernel), size_messageOr text (by decide +kernel)⟩

theorem someRulesOf_eq_map (raw : Document)
    : (someRulesOf alphabet raw).val
      = (someLeaves alphabet raw).map (fun leaf =>
          normalizeTranscodeGuardRule alphabet leaf.1 leaf.2) := by
  unfold someRulesOf someLeaves
  have rules := @rulesOf_eq_map alphabet raw
  cases listed : settingsLeaves alphabet raw with
  | nil =>
      rw [listed] at rules
      split
      · rfl
      · next some_ => cases some_.symm.trans rules
  | cons first rest =>
      rw [listed] at rules
      split
      · next none_ => cases none_.symm.trans rules
      · next some_ => exact some_.symm.trans rules

theorem settled_someRulesOf (lawful : alphabet.Lawful) (raw : Document)
    : ∀ rule ∈ (someRulesOf alphabet raw).val, rule.Settled alphabet := by
  intro rule member
  rw [someRulesOf_eq_map] at member
  rcases List.mem_map.mp member with ⟨leaf, listed, rfl⟩
  apply settled_normalize lawful
  unfold someLeaves at listed
  split at listed
  · rw [List.mem_singleton.mp listed]
    exact isIdentifier_rule lawful 1
  · next leaves =>
      rw [← leaves] at listed
      exact isIdentifier_settingsLeaves lawful listed

theorem groupChildren?_document (rule : Rule) : groupChildren? alphabet rule.document = none := by
  unfold groupChildren?
  split
  · rfl
  · rfl

theorem rulesOf_document (lawful : alphabet.Lawful) {settings : GuardSettings}
    (settled : ∀ rule ∈ settings.rules, rule.Settled alphabet)
    : rulesOf alphabet settings.document = settings.rules := by
  have listed
      : (Document.field settings.document "rules").asList?
        = some (settings.rules.map (fun rule => .ofDict rule.document)) :=
    asList?_ofList _
  unfold rulesOf
  rw [listed, Option.getD_some]
  have each (rules : List Rule) (start : Nat)
      (settled : ∀ rule ∈ rules, rule.Settled alphabet)
      : ((rules.map (fun rule => Json.ofDict rule.document)).zipIdx start).flatMap
            (fun entry =>
              entry.1.asDict?.elim [] (fun rule =>
                normalizeTranscodeGuardRuleEntries alphabet
                  ((rule.field "children").depth + 1) rule
                  ("rule-" ++ toString (entry.2 + 1))))
        = rules := by
    induction rules generalizing start with
    | nil => rfl
    | cons rule rest ih =>
        have later :=
          ih (start + 1) (fun other member => settled other (List.mem_cons_of_mem _ member))
        rw [List.map_cons, List.zipIdx_cons, List.flatMap_cons, later]
        dsimp only
        rw [Json.asDict?_ofDict, Option.elim_some, normalizeTranscodeGuardRuleEntries,
          groupChildren?_document]
        dsimp only
        rw [normalize_document lawful (settled rule List.mem_cons_self)]
        rfl
  exact each settings.rules 0 settled

theorem normalize_ok_iff {raw : Document} {settings : GuardSettings}
    : normalizeTranscodeGuardSettings alphabet raw = .ok settings
      ↔ validateTranscodeGuardSettingsPayload alphabet raw = .ok ()
        ∧ copyPrimaryRuleRuntimeFields ((raw.field "enabled").toBool alphabet false)
            ((raw.field "poll_interval_seconds").boundedInt alphabet 2 120 5)
            ((raw.field "stream_history_retention_days").boundedInt alphabet 0 3650 0)
            (someRulesOf alphabet raw)
          = settings := by
  unfold normalizeTranscodeGuardSettings
  rw [bind_eq_ok_iff]
  constructor
  · rintro ⟨⟨⟩, accepted, same⟩
    exact ⟨accepted, Except.ok.inj same⟩
  · rintro ⟨accepted, rfl⟩
    exact ⟨(), accepted, rfl⟩

theorem someRulesOf_of_read {raw : Document} {rules : { rules : List Rule // rules ≠ [] }}
    (read : rulesOf alphabet raw = rules.val)
    : someRulesOf alphabet raw = rules := by
  apply Subtype.ext
  unfold someRulesOf
  split
  · next none_ => exact absurd (read.symm.trans none_) rules.property
  · next some_ => exact some_.symm.trans read

theorem normalize_document_of_accepted (lawful : alphabet.Lawful) {raw : Document}
    {settings : GuardSettings}
    (normalized : normalizeTranscodeGuardSettings alphabet raw = .ok settings)
    (accepted : validateTranscodeGuardSettingsPayload alphabet settings.document = .ok ())
    : normalizeTranscodeGuardSettings alphabet settings.document = .ok settings := by
  refine normalize_ok_iff.mpr ⟨accepted, ?_⟩
  rcases normalize_ok_iff.mp normalized with ⟨-, rfl⟩
  have pollBounds
      : 2 ≤ (raw.field "poll_interval_seconds").boundedInt alphabet 2 120 5
        ∧ (raw.field "poll_interval_seconds").boundedInt alphabet 2 120 5 ≤ 120 :=
    boundedInt_mem (by decide) (by decide) (by decide)
  have keptBounds
      : 0 ≤ (raw.field "stream_history_retention_days").boundedInt alphabet 0 3650 0
        ∧ (raw.field "stream_history_retention_days").boundedInt alphabet 0 3650 0 ≤ 3650 :=
    boundedInt_mem (by decide) (by decide) (by decide)
  have settled := settled_someRulesOf lawful raw
  revert pollBounds keptBounds settled
  generalize (raw.field "poll_interval_seconds").boundedInt alphabet 2 120 5 = interval
  generalize (raw.field "stream_history_retention_days").boundedInt alphabet 0 3650 0 = retention
  generalize someRulesOf alphabet raw = rules
  generalize (raw.field "enabled").toBool alphabet false = enabled
  intro pollBounds keptBounds settled
  have read (key : String) (value : Json)
      (found
        : Document.field
            (copyPrimaryRuleRuntimeFields enabled interval retention rules).document key
          = value) :=
    found
  rw [read "enabled" (.bool enabled) rfl, read "poll_interval_seconds" (.int interval) rfl,
    read "stream_history_retention_days" (.int retention) rfl, toBool_bool,
    boundedInt_int pollBounds.1 pollBounds.2, boundedInt_int keptBounds.1 keptBounds.2,
    someRulesOf_of_read (rulesOf_document lawful settled)]

theorem names_normalize (leaf : Document × String)
    : (normalizeTranscodeGuardRule alphabet leaf.1 leaf.2).id
        = cleanIdentifier alphabet (leaf.1.field "id") leaf.2
      ∧ (normalizeTranscodeGuardRule alphabet leaf.1 leaf.2).name
        = cleanText alphabet (leaf.1.field "name") "Regola Transcode Guard"
      ∧ (normalizeTranscodeGuardRule alphabet leaf.1 leaf.2).profile
        = normalizeProfile alphabet (leaf.1.field "profile") := by
  unfold normalizeTranscodeGuardRule
  dsimp only
  exact ⟨rfl, rfl, rfl⟩

theorem nodeTextBytes_normalize {leaf : Document × String} {found : Nat}
    (messages
      : ∀ field ∈ messageFields,
          textSize (leaf.1.field field) ≤ maxTranscodeGuardMessageLength)
    : nodeTextBytes (normalizeTranscodeGuardRule alphabet leaf.1 leaf.2).document = .ok found
      ↔ LeafFits alphabet leaf ∧ found = listSize (leafTexts alphabet leaf) := by
  have size
      : nodeSize (normalizeTranscodeGuardRule alphabet leaf.1 leaf.2).document
          (normalizeTranscodeGuardRule alphabet leaf.1 leaf.2).toRuleFields.scopeTexts
        = listSize (leafTexts alphabet leaf) := by
    rcases @names_normalize alphabet leaf with ⟨id, name, profile⟩
    rw [nodeSize_rule, texts_normalize, id, name, profile, leafTexts, listSize_append]
    simp only [listSize, List.map_cons, List.map_nil, List.sum_cons, List.sum_nil]
    omega
  rw [nodeTextBytes_ok_iff (fieldTexts_listed _),
    nodeFits_rule_iff (messagesFit_normalize messages), size]
  refine and_congr_left' ?_
  rcases @names_normalize alphabet leaf with ⟨id, name, -⟩
  rw [id, name]
  constructor
  · rintro ⟨idFits, nameFits, scopes⟩
    refine ⟨idFits, nameFits, fun field member => ?_⟩
    rw [← scopeTexts_normalize leaf field member]
    exact scopes field member
  · intro fits
    refine ⟨fits.id, fits.name, fun field member => ?_⟩
    rw [scopeTexts_normalize leaf field member]
    exact fits.scopes field member

theorem accepted_someLeaves {raw : Document}
    (accepted : validateTranscodeGuardSettingsPayload alphabet raw = .ok ())
    : (someLeaves alphabet raw).length ≤ maxTranscodeGuardRules
      ∧ ∀ leaf ∈ someLeaves alphabet raw,
          ∀ field ∈ messageFields,
            textSize (leaf.1.field field) ≤ maxTranscodeGuardMessageLength := by
  have leaves := accepted_leaves accepted
  unfold someLeaves
  split
  · refine ⟨by decide, fun leaf member => ?_⟩
    rw [List.mem_singleton.mp member]
    decide +kernel
  · next some_ =>
      rw [some_] at leaves
      exact leaves

theorem rulesFit_iff {raw : Document} {first : Document × String}
    {rest : List (Document × String)} (leaves : someLeaves alphabet raw = first :: rest)
    : RulesFit alphabet raw
      ↔ (∀ leaf ∈ someLeaves alphabet raw, LeafFits alphabet leaf)
        ∧ listSize (sharedTexts alphabet first.1)
            + ((someLeaves alphabet raw).map (fun leaf =>
                listSize (leafTexts alphabet leaf))).sum
          ≤ maxTranscodeGuardTextBytes := by
  constructor
  · rintro ⟨each, total⟩
    refine ⟨each, ?_⟩
    simpa only [leaves, List.head?_cons, Option.elim_some] using total
  · rintro ⟨each, total⟩
    refine ⟨each, ?_⟩
    simpa only [leaves, List.head?_cons, Option.elim_some] using total

/-- The settings are accepted again if and only if the rules of the document fit. -/
theorem accepted_again_iff {raw : Document} {settings : GuardSettings}
    (normalized : normalizeTranscodeGuardSettings alphabet raw = .ok settings)
    : validateTranscodeGuardSettingsPayload alphabet settings.document = .ok ()
      ↔ RulesFit alphabet raw := by
  rcases normalize_ok_iff.mp normalized with ⟨accepted, same⟩
  rcases accepted_someLeaves accepted with ⟨few, messages⟩
  have rules
      : settings.rules
        = (someLeaves alphabet raw).map (fun leaf =>
            normalizeTranscodeGuardRule alphabet leaf.1 leaf.2) := by
    rw [← someRulesOf_eq_map, ← same]
    rfl
  have fields : settings.toRuleFields = settings.primary.toRuleFields :=
    fields_eq_of_normalized normalized
  rcases leaves : someLeaves alphabet raw with _ | ⟨first, rest⟩
  · rw [leaves] at rules
    exact absurd rules settings.someRule
  · have primary
        : settings.primary = normalizeTranscodeGuardRule alphabet first.1 first.2 := by
      have head : settings.rules.head? = some settings.primary := List.head?_eq_some_head _
      rw [rules, leaves] at head
      exact (Option.some.inj head).symm
    have texts : settings.toRuleFields.texts = sharedTexts alphabet first.1 := by
      rw [fields, primary, texts_normalize]
    have firstMember : first ∈ someLeaves alphabet raw := by
      rw [leaves]
      exact List.mem_cons_self
    have settingsIff (size : Nat)
        : nodeTextBytes settings.document = .ok size
          ↔ (∀ field ∈ scopeFields, ListFits ((first.1.field field).stringList alphabet))
            ∧ size = listSize (sharedTexts alphabet first.1) := by
      rw [nodeTextBytes_ok_iff (settingsTexts_listed settings), nodeSize_settings, texts]
      refine and_congr_left' ⟨fun fits field member => ?_, fun scopes => ?_⟩
      · rw [← scopeTexts_normalize first field member, ← primary, ← fields]
        exact fits.scopes field member
      · refine nodeFits_settings ?_ (fun field member => ?_)
        · rw [fields, primary]
          exact messagesFit_normalize (messages first firstMember)
        · rw [fields, primary, scopeTexts_normalize first field member]
          exact scopes field member
    have listed
        : (Document.field settings.document "rules").asList?
          = some (settings.rules.map (fun rule => .ofDict rule.document)) :=
      asList?_ofList _
    have written
        : ((settings.rules.map (fun rule => Json.ofDict rule.document)).filterMap
              Json.asDict?).map (·, 1)
          = (someLeaves alphabet raw).map (fun leaf =>
              ((normalizeTranscodeGuardRule alphabet leaf.1 leaf.2).document, 1)) := by
      rw [rules, List.map_map, List.filterMap_map]
      simp [Function.comp_def]
    have rulesIff (size : Nat) :=
      @visitRules_flat_iff alphabet _ (someLeaves alphabet raw)
        (fun leaf => (normalizeTranscodeGuardRule alphabet leaf.1 leaf.2).document)
        (LeafFits alphabet) (fun leaf => listSize (leafTexts alphabet leaf))
        maxTranscodeGuardRules 0 size (fun _ _ => groupChildren?_document _)
        (fun leaf member _ => nodeTextBytes_normalize (messages leaf member)) few
        (by rw [Nat.zero_add]; exact few)
    have filled : someLeaves alphabet raw ≠ [] := List.ne_nil_of_mem firstMember
    have fewRules
        : (settings.rules.map (fun rule => Json.ofDict rule.document)).length
          ≤ maxTranscodeGuardRules := by
      rw [List.length_map, rules, List.length_map]
      exact few
    rw [rulesFit_iff leaves]
    constructor
    · intro again
      rcases validate_ok_iff.mp again with ⟨size, measured, visits⟩
      rcases (settingsIff size).mp measured with ⟨-, sizeEq⟩
      have visited := (visits _ listed).2
      rw [written] at visited
      rcases (rulesIff size).mp visited with ⟨each, total⟩
      rw [sizeEq] at total
      exact ⟨each, total filled⟩
    · intro fits
      refine validate_ok_iff.mpr ⟨listSize (sharedTexts alphabet first.1), ?_, ?_⟩
      · exact (settingsIff _).mpr ⟨(fits.1 first firstMember).scopes, rfl⟩
      · intro written? same
        rw [listed, Option.some.injEq] at same
        subst same
        refine ⟨fewRules, ?_⟩
        rw [written]
        exact (rulesIff _).mpr ⟨fits.1, fun _ => fits.2⟩

/-- Small letters, and the crossed `A`, whose small letter takes one byte more. -/
def crossedReader : Reader :=
  { asciiReader with
    lower := fun text => String.ofList (text.toList.map (fun c => if c = 'Ⱥ' then 'ⱥ' else c))
    isAlphanumeric := fun c => c.isAlphanum || c = 'Ⱥ' || c = 'ⱥ' }

theorem crossed_lawful : crossedReader.toAlphabet.Lawful := by
  refine @Alphabet.lawful_of_letters crossedReader.toAlphabet
    (fun c => if c = 'Ⱥ' then 'ⱥ' else c) (fun text => String.toList_ofList) ?_ ?_ ?_ ?_
  · intro c
    by_cases crossed : c = 'Ⱥ'
    · rw [if_pos crossed]
      decide
    · rw [if_neg crossed, if_neg crossed]
  · intro c known
    refine if_neg ?_
    rintro rfl
    revert known
    decide
  · intro c known
    show (c.isAlphanum || c = 'Ⱥ' || c = 'ⱥ') = true
    simp [isAlphanum_of_plain known]
  · intro c known
    have letters : (c.isAlphanum || c = 'Ⱥ' || c = 'ⱥ') = true := known
    simp only [Bool.or_eq_true, decide_eq_true_eq] at letters
    rcases letters with (letter | rfl) | rfl
    · exact isSpace_of_isAlphanum letter
    · decide
    · decide

/-- Normalized settings are left as they are, and decide like their document, if and only if the
rules of the document fit.
-/
theorem normalization_settles_iff {reader : Reader} (lawful : reader.toAlphabet.Lawful)
    {document : Document} {settings : GuardSettings}
    (normalized : normalizeTranscodeGuardSettings reader.toAlphabet document = .ok settings)
    : (normalizeTranscodeGuardSettings reader.toAlphabet settings.document = .ok settings
        ∧ ∀ stream,
            classifyStream reader stream settings.document
            = classifyStream reader stream document)
      ↔ RulesFit reader.toAlphabet document := by
  rw [← accepted_again_iff normalized]
  constructor
  · rintro ⟨again, -⟩
    exact (normalize_ok_iff.mp again).1
  · intro accepted
    have again := normalize_document_of_accepted lawful normalized accepted
    refine ⟨again, fun stream => ?_⟩
    rw [classifyStream_of_normalized reader stream again,
      classifyStream_of_normalized reader stream normalized]

/-- The rule without an audio transcode stays as it is and decides as before. -/
theorem disabledRule_settles
    : ∃ settings,
        normalizeTranscodeGuardSettings crossedReader.toAlphabet disabledRuleSettings
          = .ok settings
        ∧ normalizeTranscodeGuardSettings crossedReader.toAlphabet settings.document
          = .ok settings
        ∧ ∀ stream,
            classifyStream crossedReader stream settings.document
            = classifyStream crossedReader stream disabledRuleSettings := by
  have again
      : (normalizeTranscodeGuardSettings crossedReader.toAlphabet
            disabledRuleSettings).toOption.map
          (fun settings =>
            validateTranscodeGuardSettingsPayload crossedReader.toAlphabet settings.document)
        = some (.ok ()) := by
    decide +kernel
  cases normalized
      : normalizeTranscodeGuardSettings crossedReader.toAlphabet disabledRuleSettings with
  | error message =>
      rw [normalized] at again
      cases again
  | ok settings =>
      rw [normalized] at again
      have fits := (accepted_again_iff normalized).mp (Option.some.inj again)
      exact ⟨settings, rfl, (normalization_settles_iff crossed_lawful normalized).mpr fits⟩

/-- A rule whose id fits, but not in small letters. -/
def crossedRule : Document :=
  Dict.empty.set "id" (.text (String.ofList (List.replicate 64 'Ⱥ')))

def crossedSettings : Document :=
  Dict.empty.set "rules" (.list 1 (fun _ => .ofDict crossedRule))

theorem isIdentifier_crossed
    : IsIdentifier crossedReader.toAlphabet (String.ofList (List.replicate 64 'ⱥ')) := by
  refine ⟨[String.ofList (List.replicate 64 'ⱥ')], List.cons_ne_nil _ _, by simp, ?_⟩
  intro part member
  rw [List.mem_singleton.mp member]
  refine ⟨by simp, fun c inside => ?_⟩
  rw [String.toList_ofList] at inside
  rw [List.eq_of_mem_replicate inside]
  exact ⟨by decide, .inl rfl, rfl⟩

theorem cleanIdentifier_crossed (fallback : String)
    : cleanIdentifier crossedReader.toAlphabet (crossedRule.field "id") fallback
      = String.ofList (List.replicate 64 'ⱥ') := by
  refine cleanIdentifier_of_small crossed_lawful ?_ ?_ ?_ isIdentifier_crossed fallback
  · simp
  · apply strip_of_solid
    intro c inside
    rw [String.toList_ofList] at inside
    rw [List.eq_of_mem_replicate inside]
    decide
  · apply String.toList_injective
    show (String.ofList _).toList = _
    rw [String.toList_ofList, String.toList_ofList, String.toList_ofList, List.map_replicate]
    rfl

/-- The settings that are made of such a rule are refused when they are read again. -/
theorem crossedRule_is_refused
    : ∃ settings,
        normalizeTranscodeGuardSettings crossedReader.toAlphabet crossedSettings = .ok settings
        ∧ normalizeTranscodeGuardSettings crossedReader.toAlphabet settings.document
          ≠ .ok settings := by
  have accepted
      : validateTranscodeGuardSettingsPayload crossedReader.toAlphabet crossedSettings
        = .ok () := by
    decide +kernel
  refine ⟨_, normalize_ok_iff.mpr ⟨accepted, rfl⟩, fun again => ?_⟩
  have fits :=
    (accepted_again_iff (normalize_ok_iff.mpr ⟨accepted, rfl⟩)).mp (normalize_ok_iff.mp again).1
  have id := (fits.each (crossedRule, "rule-1") ?_).id
  · rw [cleanIdentifier_crossed] at id
    exact absurd id (by decide +kernel)
  · have read
        : settingsLeaves crossedReader.toAlphabet crossedSettings = [(crossedRule, "rule-1")] := by
      rfl
    unfold someLeaves
    rw [read]
    exact List.mem_cons_self

end OctoHubs.TranscodeGuard
