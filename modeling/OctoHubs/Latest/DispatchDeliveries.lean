import OctoHubs.Latest.Dispatches

/-! What a dispatch delivers.
Each update of a run belongs to a cached item and to destinations that the rules require for it;
what the ledger reports as sent was sent before the run or is among the updates.
-/

namespace OctoHubs.Latest

open OctoHubs.Library

namespace DispatchInputs

variable (inputs : DispatchInputs)

def requiredDestinations (item : CachedItem) : List String :=
  inputs.buildRuleRuns.flatMap (fun run =>
    if item ∈ run.items then run.recipients.map (·.key) else [])

/-- The ledger says that the publication was sent to the destination. -/
def AlreadySent (signature key : String) : Prop :=
  ∃ row ∈ inputs.ledger.get? (signature, key),
    row.status = .sent ∧ row.isExpired inputs.now = false

instance (signature key : String) : Decidable (inputs.AlreadySent signature key) := by
  unfold AlreadySent
  infer_instance

variable {inputs} {item other : CachedItem} {key : String}

theorem mem_requiredDestinations_iff
    : key ∈ inputs.requiredDestinations item
      ↔ ∃ run ∈ inputs.buildRuleRuns,
          item ∈ run.items ∧ ∃ recipient ∈ run.recipients, recipient.key = key := by
  unfold requiredDestinations
  rw [List.mem_flatMap]
  refine exists_congr (fun run => and_congr_right (fun _ => ?_))
  split
  · next member => rw [List.mem_map, and_iff_right member]
  · next absent => exact iff_of_false List.not_mem_nil (fun named => absent named.1)

theorem mem_buildRuleRun_iff {rule : NotificationRule} {run : RuleRun}
    (built : inputs.buildRuleRun rule = some run)
    : item ∈ run.items
      ↔ item ∈ inputs.items
        ∧ (inputs.serverFilter = "" ∨ item.serverId = inputs.serverFilter)
        ∧ (rule.serverIds = [] ∨ item.entry.serverId.any (· ∈ rule.serverIds) = true) := by
  have initial
      : item ∈ inputs.filterInitialItems
        ↔ item ∈ inputs.items
          ∧ (inputs.serverFilter = "" ∨ item.serverId = inputs.serverFilter) := by
    unfold filterInitialItems
    split
    · next open_ => simp [open_]
    · next filtered => simp [filtered]
  unfold buildRuleRun at built
  dsimp only at built
  rw [Option.ite_none_left_eq_some] at built
  obtain ⟨-, here⟩ := built
  cases here
  dsimp only
  split
  · next open_ => rw [initial, or_iff_left_of_imp (fun _ => open_), and_iff_left open_]
  · next filtered => rw [List.mem_filter, initial, or_iff_right filtered, and_assoc]

theorem mem_items_of_required (required : key ∈ inputs.requiredDestinations item)
    : item ∈ inputs.items := by
  obtain ⟨run, built, member, -⟩ := mem_requiredDestinations_iff.mp required
  obtain ⟨rule, -, here⟩ := List.mem_filterMap.mp built
  exact ((mem_buildRuleRun_iff here).mp member).1

theorem required_of_sameServer (named : item.serverId ≠ "")
    (same : other.serverId = item.serverId) (cached : other ∈ inputs.items)
    (required : key ∈ inputs.requiredDestinations item)
    : key ∈ inputs.requiredDestinations other := by
  have sameEntry : other.entry.serverId = item.entry.serverId := by
    unfold CachedItem.serverId at named same
    cases left : other.entry.serverId with
    | none =>
        rw [left] at same
        exact absurd same.symm named
    | some server =>
        cases right : item.entry.serverId with
        | none =>
            rw [right] at named
            exact absurd rfl named
        | some server =>
            rw [left, right] at same
            exact congrArg some same
  obtain ⟨run, built, member, recipient⟩ := mem_requiredDestinations_iff.mp required
  obtain ⟨rule, -, here⟩ := List.mem_filterMap.mp built
  refine mem_requiredDestinations_iff.mpr ⟨run, built, ?_, recipient⟩
  rw [mem_buildRuleRun_iff here] at member ⊢
  rw [same, sameEntry]
  exact ⟨cached, member.2⟩

theorem pending_subset {pending : RuleRun} (member : pending ∈ inputs.filterPendingRuleRuns)
    : ∃ run ∈ inputs.buildRuleRuns,
        pending.items ⊆ run.items ∧ pending.recipients = run.recipients := by
  obtain ⟨run, built, here⟩ := List.mem_filterMap.mp member
  dsimp only at here
  split at here
  · cases here
  · cases Option.some.inj here
    exact ⟨run, built, List.filter_subset_self _, rfl⟩

end DispatchInputs

/-- An update belongs to a cached item, and its destinations to the rules. -/
structure UpdateSound (inputs : DispatchInputs) (signature : String) (update : DeliveryUpdate)
    : Prop where
  cached : update.item ∈ inputs.items
  named : signature ≠ ""
  published : publicationSignature update.item.entry = signature
  publicationKey : update.publicationKey = publicationStateKey update.item.entry
  required
    : ∀ key ∈ update.required,
        ∃ item, publicationSignature item.entry = signature ∧ key ∈ inputs.requiredDestinations item
  delivered : update.delivered.keys ⊆ update.required

/-- What was sent is known from before the run or among its deliveries. -/
structure OutcomeSound (inputs : DispatchInputs) (outcome : DeliveryOutcome) : Prop where
  updates
    : ∀ signature update,
        outcome.updates.get? signature = some update → UpdateSound inputs signature update
  sent
    : ∀ signature key row,
        outcome.ledger.get? (signature, key) = some row
        → row.status = .sent
        → row.isExpired inputs.now = false
        → inputs.AlreadySent signature key ∨ key ∈ outcome.deliveredKeys signature
  reported
    : ∀ signature key,
        ((signature, key), .sent) ∈ outcome.reports
        → inputs.AlreadySent signature key ∨ key ∈ outcome.deliveredKeys signature

namespace DeliveryOutcome

variable {outcome : DeliveryOutcome} {signature other key : String}
  {change : DeliveryUpdate → DeliveryUpdate}

theorem get?_changeUpdate
    : (outcome.changeUpdate signature change).updates.get? other
      = if other = signature then (outcome.updates.get? signature).map change
        else outcome.updates.get? other := by
  unfold changeUpdate
  cases found : outcome.updates.get? signature with
  | none =>
      dsimp only [Option.elim_none, Option.map_none]
      split
      · next same => rw [same, found]
      · rfl
  | some update =>
      dsimp only [Option.elim_some, Option.map_some]
      exact Dict.get?_set ..

theorem mem_deliveredKeys_iff
    : key ∈ outcome.deliveredKeys signature
      ↔ ∃ update ∈ outcome.updates.get? signature, key ∈ update.delivered.keys := by
  unfold deliveredKeys
  cases outcome.updates.get? signature with
  | none => simp
  | some update => simp

theorem mem_deliveredKeys_changeUpdate
    (kept : ∀ update, update.delivered.keys ⊆ (change update).delivered.keys)
    (reached : key ∈ outcome.deliveredKeys other)
    : key ∈ (outcome.changeUpdate signature change).deliveredKeys other := by
  obtain ⟨update, found, member⟩ := mem_deliveredKeys_iff.mp reached
  rw [mem_deliveredKeys_iff, get?_changeUpdate]
  split
  · next same =>
      rw [← same, Option.mem_def.mp found]
      exact ⟨change update, rfl, kept update member⟩
  · exact ⟨update, found, member⟩

end DeliveryOutcome

section Steps

variable {inputs : DispatchInputs} {environment : DispatchEnvironment}
  {outcome : DeliveryOutcome} {update : DeliveryUpdate} {item : CachedItem}
  {signature key : String} {recipient : Recipient} {recipients : List Recipient}

theorem UpdateSound.require (sound : UpdateSound inputs signature update)
    (published : publicationSignature item.entry = signature)
    (required : key ∈ inputs.requiredDestinations item)
    : UpdateSound inputs signature
        { update with
          required :=
            if key ∈ update.required then update.required else update.required ++ [key] } := by
  by_cases known : key ∈ update.required
  · rw [if_pos known]
    exact sound
  · rw [if_neg known]
    exact { sound with
      required := fun other member => by
        rcases List.mem_append.mp member with before | here
        · exact sound.required other before
        · cases List.mem_singleton.mp here
          exact ⟨item, published, required⟩
      delivered := fun other reached => List.mem_append_left _ (sound.delivered reached)
    }

theorem UpdateSound.deliver (sound : UpdateSound inputs signature update)
    (recipient : Recipient) (required : recipient.key ∈ update.required)
    : UpdateSound inputs signature
        { update with
          delivered :=
            update.delivered.set recipient.key (recipient.botId, recipient.chatId) } :=
  { sound with
    publicationKey := by
      dsimp only
      exact sound.publicationKey
    delivered := fun other reached => by
      rw [Dict.mem_keys_iff_isSome, Dict.get?_set] at reached
      split at reached
      · next same => exact same ▸ required
      · exact sound.delivered (Dict.mem_keys_iff_isSome.mpr reached) }

theorem OutcomeSound.changeUpdate (sound : OutcomeSound inputs outcome) (signature : String)
    {change : DeliveryUpdate → DeliveryUpdate}
    (changed
      : ∀ update ∈ outcome.updates.get? signature,
          UpdateSound inputs signature update → UpdateSound inputs signature (change update))
    (kept : ∀ update, update.delivered.keys ⊆ (change update).delivered.keys)
    : OutcomeSound inputs (outcome.changeUpdate signature change) where
  updates other update found := by
    rw [DeliveryOutcome.get?_changeUpdate] at found
    split at found
    · next same =>
        obtain ⟨before, here, rfl⟩ := Option.map_eq_some_iff.mp found
        rw [same]
        exact changed before here (sound.updates signature before here)
    · exact sound.updates other update found
  sent other key row found sent fresh :=
    (sound.sent other key row found sent fresh).imp_right
      (DeliveryOutcome.mem_deliveredKeys_changeUpdate kept)
  reported other key report :=
    (sound.reported other key report).imp_right
      (DeliveryOutcome.mem_deliveredKeys_changeUpdate kept)

theorem OutcomeSound.require (sound : OutcomeSound inputs outcome)
    (published : publicationSignature item.entry = signature)
    (required : key ∈ inputs.requiredDestinations item)
    : OutcomeSound inputs (outcome.require signature key) :=
  sound.changeUpdate signature (fun _ _ before => before.require published required)
    (fun _ => List.Subset.refl _)

theorem mem_required_require (present : (outcome.updates.get? signature).isSome = true)
    : ∃ update ∈ (outcome.require signature key).updates.get? signature,
        key ∈ update.required := by
  obtain ⟨update, found⟩ := Option.isSome_iff_exists.mp present
  unfold DeliveryOutcome.require
  rw [DeliveryOutcome.get?_changeUpdate, if_pos rfl, found]
  refine ⟨_, rfl, ?_⟩
  dsimp only
  split
  · next known => exact known
  · exact List.mem_append_right _ List.mem_cons_self

/-- Another ledger fits as long as it has no sent rows but those of the old one and those of
deliveries that the run made.
-/
theorem OutcomeSound.changeLedger (sound : OutcomeSound inputs outcome)
    {ledger : DeliveryLedger}
    (sent
      : ∀ other name row,
          ledger.get? (other, name) = some row
          → row.status = .sent
          → outcome.ledger.get? (other, name) = some row
            ∨ name ∈ outcome.deliveredKeys other)
    : OutcomeSound inputs { outcome with ledger } where
  updates := sound.updates
  sent other name row found status fresh := by
    rcases sent other name row found status with before | delivered
    · exact sound.sent other name row before status fresh
    · exact .inr delivered
  reported := sound.reported

theorem OutcomeSound.claim (sound : OutcomeSound inputs outcome)
    (signature key serverId token : String) (serverExists : Bool)
    : OutcomeSound inputs
        { outcome with
          ledger :=
            (DeliveryLedger.claim outcome.ledger (signature, key) serverId token serverExists
              inputs.now).1
          reports :=
            outcome.reports
            ++ [((signature, key),
              (DeliveryLedger.claim outcome.ledger (signature, key) serverId token serverExists
                inputs.now).2)]
          calls := outcome.calls + 1 } where
  updates := sound.updates
  sent other name row found status fresh :=
    sound.sent other name row (DeliveryLedger.sent_of_claim found status) status fresh
  reported other name report := by
    rcases List.mem_append.mp report with before | here
    · exact sound.reported other name before
    · have same := List.mem_singleton.mp here
      have sameKey : (other, name) = (signature, key) := congrArg Prod.fst same
      have answer := (congrArg Prod.snd same).symm
      obtain ⟨row, found, status, fresh⟩ := DeliveryLedger.exists_of_claim_sent answer
      rw [← sameKey] at found
      exact sound.sent other name row found status fresh

theorem OutcomeSound.fail (sound : OutcomeSound inputs outcome) (raises : Bool)
    (token error : String)
    : OutcomeSound inputs
        { outcome with
          ledger :=
            if raises then outcome.ledger
            else
              (DeliveryLedger.fail outcome.ledger (signature, key) token error inputs.now).1 } := by
  refine sound.changeLedger (fun other name row found status => .inl ?_)
  split at found
  · exact found
  · exact DeliveryLedger.sent_of_fail found status

theorem OutcomeSound.deliver (sound : OutcomeSound inputs outcome)
    (present
      : ∃ update ∈ outcome.updates.get? signature, recipient.key ∈ update.required)
    (raises : Bool) (token : String)
    : OutcomeSound inputs
        { outcome.changeUpdate signature (fun update =>
            { update with
              delivered :=
                update.delivered.set recipient.key (recipient.botId, recipient.chatId) }) with
          ledger :=
            if raises then outcome.ledger
            else
              (DeliveryLedger.complete outcome.ledger (signature, recipient.key) token
                inputs.now).1 } := by
  obtain ⟨update, here, required⟩ := present
  have grows (update : DeliveryUpdate)
      : update.delivered.keys
        ⊆ (update.delivered.set recipient.key (recipient.botId, recipient.chatId)).keys := by
    intro other reached
    rw [Dict.mem_keys_iff_isSome] at reached ⊢
    rw [Dict.get?_set]
    split
    · rfl
    · exact reached
  have changed :=
    sound.changeUpdate signature
      (fun other found before => by
        have same : other = update := Option.some.inj (found.symm.trans here)
        exact before.deliver recipient (by rw [same]; exact required))
      grows
  refine changed.changeLedger (fun other name row found status => ?_)
  split at found
  · exact .inl found
  · by_cases same : (other, name) = (signature, recipient.key)
    · cases same
      right
      rw [DeliveryOutcome.mem_deliveredKeys_iff, DeliveryOutcome.get?_changeUpdate, if_pos rfl,
        Option.mem_def.mp here]
      exact ⟨_, rfl, Dict.mem_keys_iff_isSome.mpr (by rw [Dict.get?_set_self]; rfl)⟩
    · rw [DeliveryLedger.get?_complete_of_ne same] at found
      exact .inl found

theorem OutcomeSound.claimAndSend (sound : OutcomeSound inputs outcome)
    (present
      : ∃ update ∈ outcome.updates.get? signature, recipient.key ∈ update.required)
    (photoError : Option String)
    : OutcomeSound inputs
        (claimAndSend inputs environment item signature photoError recipient outcome) := by
  have claimed :=
    sound.claim signature recipient.key item.serverId
      (environment.token outcome.calls) (inputs.serverExists item.serverId)
  unfold Latest.claimAndSend
  dsimp only
  split
  · exact ⟨sound.updates, sound.sent, sound.reported⟩
  split
  · exact claimed
  split
  · next error => exact claimed.fail _ _ _
  split
  · exact claimed.fail _ _ _
  · have delivered := claimed.deliver present (environment.recordRaises outcome.calls)
      (environment.token outcome.calls)
    exact ⟨delivered.updates, delivered.sent, delivered.reported⟩

theorem isSome_changeUpdate {other : String} {change : DeliveryUpdate → DeliveryUpdate}
    (present : (outcome.updates.get? other).isSome = true)
    : ((outcome.changeUpdate signature change).updates.get? other).isSome = true := by
  rw [DeliveryOutcome.get?_changeUpdate]
  split
  · next same => rw [Option.isSome_map, ← same, present]
  · exact present

theorem isSome_claimAndSend {other : String} {photoError : Option String}
    (present : (outcome.updates.get? other).isSome = true)
    : ((claimAndSend inputs environment item signature photoError recipient
          outcome).updates.get? other).isSome
      = true := by
  unfold claimAndSend
  dsimp only
  split
  · exact present
  split
  · exact present
  split
  · exact present
  split
  · exact present
  · exact isSome_changeUpdate present

/-- Sound, and with an update for the publication that is being delivered. -/
structure Delivering (inputs : DispatchInputs) (signature : String) (outcome : DeliveryOutcome)
    : Prop where
  sound : OutcomeSound inputs outcome
  present : (outcome.updates.get? signature).isSome = true

theorem Delivering.deliverRecipient (delivering : Delivering inputs signature outcome)
    (published : publicationSignature item.entry = signature)
    (required : recipient.key ∈ inputs.requiredDestinations item)
    (photoError : Option String)
    : Delivering inputs signature
        (deliverRecipient inputs environment item signature photoError outcome recipient) := by
  have sound := delivering.sound.require published required
  have present : ((outcome.require signature recipient.key).updates.get? signature).isSome = true :=
    isSome_changeUpdate delivering.present
  unfold Latest.deliverRecipient
  dsimp only
  split
  · exact ⟨sound, present⟩
  split
  · exact ⟨sound, present⟩
  · exact ⟨sound.claimAndSend (mem_required_require delivering.present) photoError,
      isSome_claimAndSend present⟩

theorem OutcomeSound.startUpdate (sound : OutcomeSound inputs outcome) {signature : String}
    (fresh : UpdateSound inputs signature update)
    (absent : ¬(outcome.updates.get? signature).isSome = true) (messages : Nat)
    : OutcomeSound inputs
        { outcome with messages, updates := outcome.updates.set signature update } := by
  have kept (other key : String) (reached : key ∈ outcome.deliveredKeys other)
      : ∃ later ∈ (outcome.updates.set signature update).get? other,
          key ∈ later.delivered.keys := by
    obtain ⟨before, found, member⟩ := DeliveryOutcome.mem_deliveredKeys_iff.mp reached
    have differs : other ≠ signature := by
      intro same
      rw [same] at found
      exact absent (Option.isSome_iff_exists.mpr ⟨before, found⟩)
    exact ⟨before, (Dict.get?_set_ne _ _ differs).trans found, member⟩
  constructor
  · intro other later found
    dsimp only at found
    rw [Dict.get?_set] at found
    split at found
    · next same =>
        cases Option.some.inj found
        exact same ▸ fresh
    · exact sound.updates other later found
  · intro other key row found status live
    exact (sound.sent other key row found status live).imp_right
      (fun reached => DeliveryOutcome.mem_deliveredKeys_iff.mpr (kept other key reached))
  · intro other key report
    exact (sound.reported other key report).imp_right
      (fun reached => DeliveryOutcome.mem_deliveredKeys_iff.mpr (kept other key reached))

theorem OutcomeSound.deliverItem (sound : OutcomeSound inputs outcome)
    (required : ∀ recipient ∈ recipients, recipient.key ∈ inputs.requiredDestinations item)
    (cached : item ∈ inputs.items)
    : OutcomeSound inputs (deliverItem inputs environment recipients outcome item) := by
  unfold Latest.deliverItem
  dsimp only
  split
  · exact sound
  next named =>
  split
  · exact ⟨sound.updates, sound.sent, sound.reported⟩
  have fresh
      : UpdateSound inputs (publicationSignature item.entry)
          ⟨item, publicationStateKey item.entry, ∅, []⟩ :=
    { cached
      named
      published := rfl
      publicationKey := by dsimp only
      required := fun key nothing => by cases nothing
      delivered := fun key nothing => by cases nothing }
  -- the update is there from now on, and it starts without deliveries
  have start
      : Delivering inputs (publicationSignature item.entry)
          { outcome with
            messages := outcome.messages + 1
            updates :=
              outcome.updates.setDefault (publicationSignature item.entry)
                ⟨item, publicationStateKey item.entry, ∅, []⟩ } := by
    unfold Dict.setDefault
    split
    · next present => exact ⟨⟨sound.updates, sound.sent, sound.reported⟩, present⟩
    · next absent =>
        exact ⟨sound.startUpdate fresh absent _, Option.isSome_iff_exists.mpr
          ⟨_, Dict.get?_set_self _ _ _⟩⟩
  exact
    (List.foldlRecOn recipients _ start (fun next delivering recipient member =>
      delivering.deliverRecipient rfl (required recipient member) _)).sound

end Steps

theorem deliverRuleRuns_sound (inputs : DispatchInputs) (environment : DispatchEnvironment)
    : OutcomeSound inputs (deliverRuleRuns inputs environment) := by
  unfold deliverRuleRuns
  refine List.foldlRecOn _ _ ?_ (fun outcome sound pending member => ?_)
  · exact {
      updates := fun signature update nothing => by cases nothing
      sent := fun signature key row found status fresh => .inl ⟨row, found, status, fresh⟩
      reported := fun signature key nothing => by cases nothing
    }
  obtain ⟨run, built, items, recipients⟩ := DispatchInputs.pending_subset member
  refine List.foldlRecOn _ _ sound (fun outcome sound item here => ?_)
  have due : item ∈ run.items := items ((List.mem_insertionSort _).mp here)
  have required (recipient : Recipient) (named : recipient ∈ pending.recipients)
      : recipient.key ∈ inputs.requiredDestinations item :=
    DispatchInputs.mem_requiredDestinations_iff.mpr
      ⟨run, built, due, recipient, recipients ▸ named, rfl⟩
  obtain ⟨rule, -, from_⟩ := List.mem_filterMap.mp built
  exact sound.deliverItem required ((DispatchInputs.mem_buildRuleRun_iff from_).mp due).1

end OctoHubs.Latest
