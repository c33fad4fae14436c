import OctoHubs.Latest.DispatchCheckpoints

/-! What a dispatch recovers after a crash.
A run marks a publication as notified when it delivers what is missing; what the ledger reports
as sent is never written into the state.
-/

namespace OctoHubs.Latest

open OctoHubs.Library

/-- The state has the publication at every destination, and says so of it and of its title. -/
structure LatestState.Marked (rules : TextRules) (state : LatestState) (item : CachedItem)
    (destinations : List String)
    : Prop where
  destinations : ∀ key ∈ destinations, state.destinationNotified rules item key = true
  publication : state.Shows rules item (.publication (publicationStateKey item.entry))
  title : state.Shows rules item .title

section Marks

variable {rules : TextRules} {state : LatestState} {item : CachedItem}

theorem LatestState.Shows.destinationNotified {key : String}
    (shown : state.Shows rules item (.destination (publicationStateKey item.entry) key))
    : state.destinationNotified rules item key = true := by
  obtain ⟨entry, found, here⟩ := shown
  unfold LatestState.destinationNotified
  rw [Option.mem_def.mp found]
  exact here.destinationNotified

theorem LatestState.Shows.server {kind : MediaKind} {evidence : Evidence}
    (shown : state.Shows rules item evidence) (kind_ : item.mediaKind rules = some kind)
    : (state.server item.serverId).Shows rules kind item evidence := by
  obtain ⟨-, server, found, other, otherKind, -, here⟩ := LatestState.shows_iff.mp shown
  cases kind_.symm.trans otherKind
  unfold LatestState.server
  rw [Option.mem_def.mp found]
  exact here

theorem marked_of_completed {kind : MediaKind} {destinations : List String}
    (named : item.serverId ≠ "") (identified : item.itemId ≠ "")
    (kind_ : item.mediaKind rules = some kind)
    (completed
      : (state.server item.serverId).Completed kind item (publicationStateKey item.entry)
          destinations)
    : state.Marked rules item destinations := by
  have keyed : item.seriesKey ≠ "" := by
    unfold CachedItem.seriesKey
    rwa [if_pos identified]
  obtain ⟨reached, publication, title⟩ := completed.shows rules identified
  have lift {evidence : Evidence}
      (shown : (state.server item.serverId).Shows rules kind item evidence)
      : state.Shows rules item evidence := by
    refine LatestState.shows_iff.mpr ⟨named, ?_⟩
    unfold LatestState.server at completed shown
    cases found : Dict.get? state item.serverId with
    | none =>
        rw [found] at completed
        exact (ServerState.not_completed_empty completed).elim
    | some server =>
        rw [found] at shown
        exact ⟨server, rfl, kind, kind_, fun _ => keyed, shown⟩
  exact {
    destinations := fun key member => (lift (reached key member)).destinationNotified
    publication := lift publication
    title := lift title
  }

end Marks

section Updates

variable {inputs : DispatchInputs} {item : CachedItem}

theorem UpdateSound.checkpointKey {signature : String} {update : DeliveryUpdate}
    (sound : UpdateSound inputs signature update)
    : update.checkpointKey = publicationStateKey update.item.entry := by
  obtain ⟨server, identified⟩ :=
    CachedItem.named_of_publicationSignature update.item
      (by rw [sound.published]; exact sound.named)
  unfold DeliveryUpdate.checkpointKey
  dsimp only
  rw [sound.publicationKey, CachedItem.strip_publicationStateKey,
    if_pos (CachedItem.publicationStateKey_ne_empty server identified)]

theorem UpdateSound.fitting {signature : String} {update : DeliveryUpdate}
    (sound : UpdateSound inputs signature update) (written : update.delivered.keys ≠ [])
    (mine : IdentityToken → Prop)
    (fits : ServerState.Fits inputs.rules mine item update.item)
    (cached : item ∈ inputs.items) (same : update.item.serverId = item.serverId)
    : ServerState.Fitting inputs.rules mine item (inputs.requiredDestinations item) update where
  fits
  some_ bare := by
    refine written (List.eq_nil_iff_forall_not_mem.mpr (fun key reached => ?_))
    have required := sound.delivered reached
    rw [bare] at required
    cases required
  subset _ key required := by
    obtain ⟨other, published, named⟩ := sound.required key required
    have otherNamed : publicationSignature other.entry ≠ "" := by
      rw [published]
      exact sound.named
    obtain ⟨server, -⟩ := CachedItem.named_of_publicationSignature other otherNamed
    have sameSignature
        : publicationSignature update.item.entry = publicationSignature other.entry :=
      sound.published.trans published.symm
    obtain ⟨sameServer, -, -⟩ := CachedItem.publicationSignature_inj otherNamed sameSignature
    exact DispatchInputs.required_of_sameServer server (same.symm.trans sameServer) cached named

end Updates

namespace DispatchInputs

variable (inputs : DispatchInputs) (item : CachedItem)

/-- Every required destination was recorded before, is delivered now, or is reported as sent. -/
def Settled (outcome : DeliveryOutcome) : Prop :=
  ∀ key ∈ inputs.requiredDestinations item,
    inputs.destinationNotified item key = true
    ∨ key ∈ outcome.deliveredKeys (publicationSignature item.entry)
    ∨ ((publicationSignature item.entry, key), .sent) ∈ outcome.reports

/-- Ledger and state agree on the publication, and its title has one place in the state. -/
structure Recoverable : Prop where
  unsent
    : ∀ key ∈ inputs.requiredDestinations item,
        inputs.destinationNotified item key = false
        → ¬ inputs.AlreadySent (publicationSignature item.entry) key
  complete
    : (∀ key ∈ inputs.requiredDestinations item, inputs.destinationNotified item key = true)
      → inputs.state.Shows inputs.rules item (.publication (publicationStateKey item.entry))
        ∧ inputs.state.Shows inputs.rules item .title
  recorded
    : ∀ key ∈ inputs.requiredDestinations item,
        inputs.destinationNotified item key = true
        → inputs.state.Shows inputs.rules item
            (.destination (publicationStateKey item.entry) key)
  kind : (item.mediaKind inputs.rules).isSome = true
  alike
    : ∀ other ∈ inputs.items,
        publicationSignature other.entry = publicationSignature item.entry
        → other.mediaKind inputs.rules = item.mediaKind inputs.rules
          ∧ other.signature = item.signature
  oneKey : item.mediaKind inputs.rules = some .movie → inputs.UnderOneKey item

variable {inputs item} {environment : DispatchEnvironment}

/-- What was recorded at every destination is marked after the run, whatever else it sends. -/
theorem marked_of_recorded (recoverable : inputs.Recoverable item)
    (all_
      : ∀ key ∈ inputs.requiredDestinations item, inputs.destinationNotified item key = true)
    : (dispatch inputs environment).Marked inputs.rules item
        (inputs.requiredDestinations item) := by
  obtain ⟨publication, title⟩ := recoverable.complete all_
  exact {
    destinations := fun key required =>
      LatestState.Shows.destinationNotified
        ((recoverable.recorded key required (all_ key required)).persistDeliveryUpdates _)
    publication := publication.persistDeliveryUpdates _
    title := title.persistDeliveryUpdates _
  }

theorem marked_of_delivered (recoverable : inputs.Recoverable item)
    (settled : inputs.Settled item (deliverRuleRuns inputs environment)) {key : String}
    (required : key ∈ inputs.requiredDestinations item)
    (missing : inputs.destinationNotified item key = false)
    : (dispatch inputs environment).Marked inputs.rules item
        (inputs.requiredDestinations item) := by
  have sound := deliverRuleRuns_sound inputs environment
  have cached := mem_items_of_required required
  -- what the state lacks was delivered, since the ledger had not heard of it before
  have delivered {key : String} (required : key ∈ inputs.requiredDestinations item)
      (missing : inputs.destinationNotified item key = false)
      : key
        ∈ (deliverRuleRuns inputs environment).deliveredKeys
            (publicationSignature item.entry) := by
    rcases settled key required with recorded | reached | reported
    · exact Bool.noConfusion (missing.symm.trans recorded)
    · exact reached
    · exact (sound.reported _ _ reported).resolve_left (recoverable.unsent key required missing)
  obtain ⟨update, found, reached⟩ :=
    DeliveryOutcome.mem_deliveredKeys_iff.mp (delivered required missing)
  have updateSound := sound.updates _ update found
  have written : update ∈ LatestState.writtenUpdates (deliverRuleRuns inputs environment).updates :=
    LatestState.mem_writtenUpdates_iff.mpr ⟨⟨_, found⟩, List.ne_nil_of_mem reached⟩
  obtain ⟨sameServer, sameItem, sameKey⟩ :=
    CachedItem.publicationSignature_inj updateSound.named updateSound.published
  obtain ⟨named, identified⟩ :=
    CachedItem.named_of_publicationSignature item updateSound.named
  obtain ⟨sameKind, sameSignature⟩ :=
    recoverable.alike update.item updateSound.cached updateSound.published
  obtain ⟨kind, kind_⟩ := Option.isSome_iff_exists.mp recoverable.kind
  -- the names of the title; a series has none among movies
  obtain ⟨mine, separated, owned, fits⟩
      : ∃ mine,
          Separated mine (inputs.state.server item.serverId).movies
          ∧ (kind = .movie → ∀ token ∈ item.names, mine token)
          ∧ ∀ other ∈ inputs.items,
              other.serverId = item.serverId
              → other.itemId ≠ ""
              → ServerState.Fits inputs.rules mine item other := by
    cases kind with
    | movie =>
        exact ⟨inputs.Mine item, separated_mine, fun _ token own => .inl own,
          fun other here same identified =>
            fits_mine (recoverable.oneKey kind_) here same identified⟩
    | series =>
        refine ⟨fun _ => False, fun _ _ => .inr (fun _ _ nothing => nothing), ?_, ?_⟩
        · intro movie
          cases movie
        · intro other here same identified
          exact {
            identified
            uniform := fun _ => .inr (fun _ _ nothing => nothing)
            sameKey := fun _ owned =>
              (owned _ (CachedItem.key_mem_names identified)).elim
          }
  have fitting
      : ∀ known ∈ (LatestState.writtenUpdates (deliverRuleRuns inputs environment).updates).filter
          (fun update => update.item.serverId = item.serverId),
          ServerState.Fitting inputs.rules mine item (inputs.requiredDestinations item) known := by
    intro known member
    obtain ⟨member, same⟩ := List.mem_filter.mp member
    obtain ⟨⟨signature, here⟩, sent⟩ := LatestState.mem_writtenUpdates_iff.mp member
    have knownSound := sound.updates signature known here
    obtain ⟨-, knownIdentified⟩ :=
      CachedItem.named_of_publicationSignature known.item
        (by rw [knownSound.published]; exact knownSound.named)
    have sameServer : known.item.serverId = item.serverId := of_decide_eq_true same
    exact knownSound.fitting sent mine
      (fits known.item knownSound.cached sameServer knownIdentified) cached sameServer
  have reachedAll
      : ∀ key ∈ inputs.requiredDestinations item,
          (inputs.state.server item.serverId).Shows inputs.rules kind item
            (.destination (publicationStateKey item.entry) key)
          ∨ key ∈ update.delivered.keys := by
    intro key required
    cases known : inputs.destinationNotified item key with
    | true => exact .inl ((recoverable.recorded key required known).server kind_)
    | false =>
        obtain ⟨other, here, sent⟩ :=
          DeliveryOutcome.mem_deliveredKeys_iff.mp (delivered required known)
        rw [Option.mem_def, found] at here
        cases here
        exact .inr sent
  have completed :=
    ServerState.completed_persistUpdates inputs.notifiedAt separated owned fitting
      (List.mem_filter.mpr ⟨written, decide_eq_true sameServer⟩) (sameKind.trans kind_) sameItem
      sameSignature (updateSound.checkpointKey.trans sameKey) reachedAll
  exact marked_of_completed named identified kind_
    (LatestState.completed_persistDeliveryUpdates named written completed)

instance (outcome : DeliveryOutcome) : Decidable (inputs.Settled item outcome) := by
  unfold Settled
  infer_instance

end DispatchInputs

def crashTime : Timestamp := 1768039205 * second

def crashRules : TextRules where
  strip := strip
  lower := String.map Char.toLower
  casefold := String.map Char.toLower
  parseDateValue text := if text = "2026-01-10T10:00:05+00:00" then some crashTime else none
  isoformat _ := "2026-01-10T10:00:05+00:00"

def film : CachedItem where
  entry :=
    { serverId := some "server"
      itemId := some "7"
      signature := some "tmdb:603"
      batchId := some (some "server:movies:1")
      updateType := some (some "new")
      updateLabel := some (some "Nuovo film")
      changes := none
      addedAt := none
      details := (∅ : Dict String String).set "item_type" "Movie" }
  serverIdentified := by decide
  itemIdentified := by decide
  signatureVisible := by decide

def channel : Recipient := ⟨"bot", "chat", "token", by decide, by decide⟩

/-- One rule for one film, before any message. -/
def firstDispatch : DispatchInputs where
  rules := crashRules
  state := ∅
  ledger := ∅
  items := [film]
  notificationRules := [⟨[], [channel]⟩]
  serverFilter := ""
  perServerLimit := 0
  serverExists _ := true
  now := crashTime
  notifiedAt := "2026-01-10T10:00:05+00:00"

/-- The message was sent a minute ago, and the process died before its checkpoint. -/
def dispatchAfterCrash : DispatchInputs :=
  { firstDispatch with
    ledger :=
      (∅ : DeliveryLedger).set (publicationSignature film.entry, channel.key)
        { DeliveryLedger.newRow "server" "claim" (crashTime - 60 * second) with
          status := .sent
          sentAt := some (crashTime - 60 * second) } }

def calm : DispatchEnvironment where
  messageBuilt _ := true
  photoError _ := none
  token _ := "claim"
  claimRaises _ := false
  accepted _ := true
  recordRaises _ := false

namespace DispatchInputs

end DispatchInputs

end OctoHubs.Latest
