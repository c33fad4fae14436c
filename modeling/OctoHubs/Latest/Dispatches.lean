import OctoHubs.Latest.Ledger
import OctoHubs.Latest.MovieIdentities
import OctoHubs.Latest.SeriesUpdates

/-! A dispatch of notifications.
The rules say which cached items are due to which destinations; what is pending is claimed in
the ledger and sent, and what was sent is written into the state.
-/

namespace OctoHubs.Latest

open OctoHubs.Library

/-- Identifiers are one path segment. -/
def IsIdentifier (text : String) : Prop := ∀ c ∈ text.toList, isSpace c = false ∧ c ≠ ':'

instance (text : String) : Decidable (IsIdentifier text) :=
  List.decidableBAll _ _

/-- An entry as the cache holds it; a signature starts with the name of its provider. -/
structure CachedItem where
  entry : LatestEntry
  serverIdentified : IsIdentifier (entry.serverId.getD "")
  itemIdentified : IsIdentifier (entry.itemId.getD "")
  signatureVisible : entry.signature.getD "" = "" ∨ strip (entry.signature.getD "") ≠ ""
deriving DecidableEq

inductive MediaKind
  | movie
  | series
deriving DecidableEq

namespace CachedItem

variable (item : CachedItem)

def serverId : String := item.entry.serverId.getD ""

def itemId : String := item.entry.itemId.getD ""

def signature : String := item.entry.signature.getD ""

def itemType : String := (item.entry.details.get? "item_type").getD ""

def mediaKind (rules : TextRules) : Option MediaKind :=
  let itemType := rules.lower item.itemType
  if itemType = "movie" then some .movie
  else if itemType = "series" ∨ itemType = "episode" then some .series
  else none

def movieKey : String := if item.signature ≠ "" then item.signature else item.itemId

def seriesKey : String :=
  if item.itemId ≠ "" then item.itemId else (item.entry.details.get? "series_id").getD ""

def names : List IdentityToken := identityTokens item.movieKey item.itemId item.signature

end CachedItem

structure ServerState where
  movies : Dict String MovieRecord
  series : Dict String SeriesRecord
  movieHistory : Dict String MovieRecord
  seriesHistory : Dict String SeriesHistory
  episodeHistory : Dict String EpisodeRecord
deriving DecidableEq

def ServerState.empty : ServerState := ⟨∅, ∅, ∅, ∅, ∅⟩

/-- The servers and what is remembered of them. -/
abbrev LatestState := Dict String ServerState

namespace LatestState

variable (rules : TextRules) (state : LatestState) (item : CachedItem)

def itemStateEntry : Option NotificationState :=
  if item.serverId = "" then none
  else
    (state.get? item.serverId).bind (fun server =>
      match item.mediaKind rules with
      | some .movie =>
          (findMovieIdentityEntry rules server.movies item.movieKey item.itemId
            item.signature).map (·.2.notification)
      | some .series =>
          if item.seriesKey = "" then none
          else (server.series.get? item.seriesKey).map (·.notification)
      | none => none)
where findMovieIdentityEntry := MovieRecord.findMovieIdentityEntry

def destinationNotified (key : String) : Bool :=
  (itemStateEntry rules state item).elim false
    (·.destinationNotified (publicationStateKey item.entry) key)

end LatestState

structure Recipient where
  botId : String
  chatId : String
  token : String
  chatNamed : chatId ≠ ""
  tokenGiven : token ≠ ""
deriving DecidableEq

def Recipient.key (recipient : Recipient) : String :=
  s!"{strip recipient.botId}:{strip recipient.chatId}"

/-- An enabled rule, with the recipients that its presets name. -/
structure NotificationRule where
  serverIds : List String
  recipients : List Recipient

structure RuleRun where
  items : List CachedItem
  recipients : List Recipient

structure DispatchInputs where
  rules : TextRules
  state : LatestState
  ledger : DeliveryLedger
  items : List CachedItem
  notificationRules : List NotificationRule
  serverFilter : String
  perServerLimit : Nat
  serverExists : String → Bool
  now : Timestamp
  notifiedAt : String

namespace DispatchInputs

variable (inputs : DispatchInputs)

def filterInitialItems : List CachedItem :=
  if inputs.serverFilter = "" then inputs.items
  else inputs.items.filter (fun item => item.serverId = inputs.serverFilter)

def buildRuleRun (rule : NotificationRule) : Option RuleRun :=
  let items :=
    if rule.serverIds = [] then inputs.filterInitialItems
    else
      inputs.filterInitialItems.filter (fun item =>
        item.entry.serverId.any (fun server => server ∈ rule.serverIds))
  if inputs.serverFilter ≠ "" ∧ rule.serverIds ≠ [] ∧ inputs.serverFilter ∉ rule.serverIds
      ∨ rule.recipients = [] ∨ items = [] then
    none
  else some ⟨items, rule.recipients⟩

def buildRuleRuns : List RuleRun := inputs.notificationRules.filterMap inputs.buildRuleRun

def destinationNotified (item : CachedItem) (key : String) : Bool :=
  LatestState.destinationNotified inputs.rules inputs.state item key

def hasPendingDestination (item : CachedItem) (recipients : List Recipient) : Bool :=
  recipients.any (fun recipient => !inputs.destinationNotified item recipient.key)

def pendingSignatures : List String :=
  inputs.buildRuleRuns.flatMap (fun run =>
    (run.items.filter (fun item =>
      publicationSignature item.entry ≠ ""
      && inputs.hasPendingDestination item run.recipients)).map (publicationSignature ·.entry))

def limitByServer (limit : Nat) (items : List CachedItem) : List CachedItem :=
  (items.foldl (fun (counts, output) item =>
    let server := if item.serverId = "" then "unknown" else item.serverId
    let current := ((counts : Dict String Nat).get? server).getD 0
    if current ≥ limit then (counts, output)
    else (counts.set server (current + 1), output ++ [item])) (∅, [])).2

def allowedSignatures : List String :=
  let pending :=
    inputs.filterInitialItems.filter (fun item =>
      publicationSignature item.entry ∈ inputs.pendingSignatures)
  let isMovie (item : CachedItem) : Bool := inputs.rules.lower item.itemType = "movie"
  let admitted :=
    if inputs.perServerLimit > 0 then
      limitByServer inputs.perServerLimit (pending.filter isMovie)
      ++ limitByServer inputs.perServerLimit (pending.filter (!isMovie ·))
    else pending
  (admitted.map (publicationSignature ·.entry)).filter (· ≠ "")

/-- What is due: the items that the limit admits and some recipient has not got yet. -/
def filterPendingRuleRuns : List RuleRun :=
  inputs.buildRuleRuns.filterMap (fun run =>
    let items :=
      run.items.filter (fun item =>
        publicationSignature item.entry ∈ inputs.allowedSignatures
        && inputs.hasPendingDestination item run.recipients)
    if items = [] then none else some { run with items })

def notificationSendOrderKey (item : CachedItem)
    : Timestamp ×ₗ String ×ₗ String ×ₗ String :=
  toLex ((item.entry.addedAt.get.bind inputs.rules.parseDateValue).getD datetimeMin,
    toLex (item.serverId, toLex (item.itemType, item.itemId)))

end DispatchInputs

/-- What happens around a dispatch: the messages by item, and the calls by recipient. -/
structure DispatchEnvironment where
  messageBuilt : Nat → Bool
  photoError : Nat → Option String
  token : Nat → String
  claimRaises : Nat → Bool
  accepted : Nat → Bool
  recordRaises : Nat → Bool

structure DeliveryUpdate where
  item : CachedItem
  publicationKey : String
  delivered : Delivered
  required : List String
deriving DecidableEq

/-- The key that a checkpoint writes the publication under. -/
def DeliveryUpdate.checkpointKey (update : DeliveryUpdate) : String :=
  let publicationKey := strip update.publicationKey
  if publicationKey ≠ "" then publicationKey else publicationStateKey update.item.entry

structure DeliveryOutcome where
  ledger : DeliveryLedger
  updates : Dict String DeliveryUpdate
  sentSignatures : List (String × String × String)
  reports : List (DeliveryKey × ClaimStatus)
  messages : Nat
  calls : Nat

namespace DeliveryOutcome

variable (outcome : DeliveryOutcome) (signature : String)

def changeUpdate (change : DeliveryUpdate → DeliveryUpdate) : DeliveryOutcome :=
  { outcome with
    updates :=
      (outcome.updates.get? signature).elim outcome.updates (fun update =>
        outcome.updates.set signature (change update)) }

def require (key : String) : DeliveryOutcome :=
  outcome.changeUpdate signature (fun update =>
    { update with
      required := if key ∈ update.required then update.required else update.required ++ [key] })

/-- The destinations that the run has reached with a publication. -/
def deliveredKeys : List String :=
  (outcome.updates.get? signature).elim [] (·.delivered.keys)

end DeliveryOutcome

section Delivery

variable (inputs : DispatchInputs) (environment : DispatchEnvironment)

/-- One claim and, if it is granted, one message; whatever the claim answers instead, the run
goes on without it.
-/
def claimAndSend (item : CachedItem) (signature : String) (photoError : Option String)
    (recipient : Recipient) (outcome : DeliveryOutcome)
    : DeliveryOutcome :=
  let call := outcome.calls
  let called := { outcome with calls := call + 1 }
  if environment.claimRaises call then called
  else
    let delivery : DeliveryKey := (signature, recipient.key)
    let token := environment.token call
    let (ledger, status) :=
      DeliveryLedger.claim outcome.ledger delivery item.serverId token
        (inputs.serverExists item.serverId) inputs.now
    let claimed :=
      { called with ledger, reports := outcome.reports ++ [(delivery, status)] }
    if status ≠ .acquired then claimed
    else
      let failed (error : String) : DeliveryOutcome :=
        { claimed with
          ledger :=
            if environment.recordRaises call then ledger
            else (DeliveryLedger.fail ledger delivery token error inputs.now).1 }
      match photoError with
      | some error => failed error
      | none =>
          if environment.accepted call = false then failed "Errore invio Telegram"
          else
            { claimed.changeUpdate signature (fun update =>
                { update with
                  delivered :=
                    update.delivered.set recipient.key (recipient.botId, recipient.chatId) }) with
              ledger :=
                if environment.recordRaises call then ledger
                else (DeliveryLedger.complete ledger delivery token inputs.now).1
              sentSignatures :=
                (signature, recipient.botId, recipient.chatId) :: outcome.sentSignatures }

local instance signatures_lawful : LawfulBEq (String × String × String) := inferInstance

def deliverRecipient (item : CachedItem) (signature : String) (photoError : Option String)
    (outcome : DeliveryOutcome) (recipient : Recipient)
    : DeliveryOutcome :=
  let required := outcome.require signature recipient.key
  if inputs.destinationNotified item recipient.key then required
  else if (signature, recipient.botId, recipient.chatId) ∈ outcome.sentSignatures then required
  else claimAndSend inputs environment item signature photoError recipient required

def deliverItem (recipients : List Recipient) (outcome : DeliveryOutcome) (item : CachedItem)
    : DeliveryOutcome :=
  let signature := publicationSignature item.entry
  if signature = "" then outcome
  else
    let message := outcome.messages
    let counted := { outcome with messages := message + 1 }
    if environment.messageBuilt message = false then counted
    else
      recipients.foldl
        (deliverRecipient inputs environment item signature (environment.photoError message))
        { counted with
          updates :=
            counted.updates.setDefault signature
              ⟨item, publicationStateKey item.entry, ∅, []⟩ }

def deliverRuleRuns : DeliveryOutcome :=
  inputs.filterPendingRuleRuns.foldl
    (fun outcome run =>
      (run.items.insertionSort (fun left right =>
        inputs.notificationSendOrderKey left ≤ inputs.notificationSendOrderKey right)).foldl
        (deliverItem inputs environment run.recipients) outcome)
    ⟨inputs.ledger, ∅, [], [], 0, 0⟩

end Delivery

namespace ServerState

variable (rules : TextRules) (server : ServerState)

/-- The aliases of a movie make way for the record under its key. -/
def dropAliases (entries : Dict String MovieRecord) (names : List IdentityToken)
    (stateKey : String)
    : Dict String MovieRecord :=
  entries.eraseWhere (fun key =>
    key ≠ stateKey
    && key ∈ (MovieRecord.matchingMovieIdentityEntries entries names).map Prod.fst)

def updateMovieHistory (entries : Dict String MovieRecord) (key : String)
    (payload : MovieRecord)
    : Dict String MovieRecord :=
  let textKey := strip key
  if textKey = "" then entries
  else
    let existing := entries.get? textKey
    entries.set textKey { payload with
      mediaSourceKeys :=
        mergeKeyLists payload.mediaSourceKeys
          ((existing.map (·.mediaSourceKeys)).getD []) [] 0
      notification :=
        mergeNotification rules (existing.map (·.notification)) payload.notification }

/-- The record of a movie before the checkpoint, under its present names. -/
def movieEntry (item : CachedItem) : MovieRecord :=
  let found :=
    ((MovieRecord.findMovieIdentityEntry rules server.movies item.movieKey item.itemId
      item.signature).map Prod.snd).getD
      { itemId := none
        signature := none
        title := (item.entry.details.get? "title").getD ""
        year := item.entry.details.get? "year"
        lastSeenAt := item.entry.addedAt.get.getD ""
        mediaSourceKeys := []
        mediainfoSourceKeys := []
        mediainfoComplete := false
        notification := .empty }
  let title := (item.entry.details.get? "title").getD ""
  { found with
    itemId := if item.itemId ≠ "" then some item.itemId else found.itemId
    signature := if item.signature ≠ "" then some item.signature else found.signature
    title := if title ≠ "" then title else found.title
    year := (item.entry.details.get? "year").or found.year }

def movieHistoryEntry (item : CachedItem) : Option MovieRecord :=
  (MovieRecord.findMovieIdentityEntry rules server.movieHistory item.movieKey item.itemId
    item.signature).map Prod.snd

def movieEntryWithHistory (item : CachedItem) : MovieRecord :=
  let entry := server.movieEntry rules item
  (server.movieHistoryEntry rules item).elim entry (fun past =>
    (entry.withMediainfoSnapshot [entry, past]).withNotificationSnapshot rules [entry, past])

def persistMovie (item : CachedItem) (publicationKey : String) (delivered : Delivered)
    (required : List String) (notifiedAt : String)
    : ServerState :=
  let stateKey := item.movieKey
  if stateKey = "" then server
  else
    let movies :=
      dropAliases (server.movies.set stateKey (server.movieEntry rules item)) item.names stateKey
    let history := server.movieHistoryEntry rules item
    let known := server.movieEntryWithHistory rules item
    let record :=
      { known with
        notification :=
          known.notification.applyDestinationState publicationKey delivered required notifiedAt }
    let payload : MovieRecord :=
      { itemId := if item.itemId ≠ "" then some item.itemId else none
        signature := if item.signature ≠ "" then some item.signature else none
        title := (item.entry.details.get? "title").getD ""
        year := item.entry.details.get? "year"
        lastSeenAt := item.entry.addedAt.get.getD ""
        mediaSourceKeys := record.mediaSourceKeys
        mediainfoSourceKeys := record.mediainfoSourceKeys
        mediainfoComplete := record.mediainfoComplete
        notification :=
          .notificationSnapshot rules
            [some record.notification, history.map (·.notification)] }
    { server with
      movies := movies.set stateKey record
      movieHistory :=
        dropAliases (updateMovieHistory rules server.movieHistory stateKey payload) item.names
          stateKey }

def persistSeries (item : CachedItem) (publicationKey : String) (delivered : Delivered)
    (required : List String) (notifiedAt : String)
    : ServerState :=
  let seriesKey := item.seriesKey
  if seriesKey = "" then server
  else
    let memory : SeriesMemory :=
      ⟨server.series.get? seriesKey, getHistoryEntry server.seriesHistory seriesKey,
        server.episodeHistory⟩
    let written :=
      memory.persistSeries rules seriesKey item.entry publicationKey delivered required
        notifiedAt
    { server with
      series := written.series.elim server.series (server.series.set seriesKey)
      seriesHistory :=
        if strip seriesKey = "" then server.seriesHistory
        else written.history.elim server.seriesHistory
          (server.seriesHistory.set (strip seriesKey))
      episodeHistory := written.episodeHistory }

/-- A checkpoint of one publication. -/
def persistUpdate (update : DeliveryUpdate) (notifiedAt : String) : ServerState :=
  let item := update.item
  let key := update.checkpointKey
  match item.mediaKind rules with
  | some .movie =>
      server.persistMovie rules item key update.delivered update.required notifiedAt
  | some .series =>
      server.persistSeries rules item key update.delivered update.required notifiedAt
  | none => server

/-- Only what belongs to notifications is taken over from the source. -/
def mergeNotificationUpdates (target source : ServerState) : ServerState where
  movies :=
    mergeRecords (·.notification) (fun record state => { record with notification := state })
      target.movies source.movies
  series :=
    mergeRecords (·.notification) (fun record state => { record with notification := state })
      target.series source.series
  movieHistory :=
    mergeRecords (·.notification) (fun record state => { record with notification := state })
      target.movieHistory source.movieHistory
  seriesHistory :=
    mergeRecords (·.notification) (fun record state => { record with notification := state })
      target.seriesHistory source.seriesHistory
  episodeHistory :=
    mergeRecords (·.notification) (fun record state => { record with notification := state })
      target.episodeHistory source.episodeHistory

end ServerState

namespace LatestState

def mergeNotificationUpdates (current updated : LatestState) : LatestState :=
  current.joinWith (fun server => (server.getD .empty).mergeNotificationUpdates) updated

variable (rules : TextRules) (notifiedAt : String)

def persistOneUpdate (state : LatestState) (update : DeliveryUpdate) : LatestState :=
  let item := update.item
  if item.serverId = "" then state
  else
    state.set item.serverId
      (((state.get? item.serverId).getD .empty).persistUpdate rules update notifiedAt)

def writtenUpdates (updates : Dict String DeliveryUpdate) : List DeliveryUpdate :=
  updates.values.filter (fun update => update.delivered.keys ≠ [])

/-- Without any update nothing is written. -/
def persistDeliveryUpdates (state : LatestState) (updates : Dict String DeliveryUpdate)
    : LatestState :=
  let written := writtenUpdates updates
  if written = [] then state
  else mergeNotificationUpdates state (written.foldl (persistOneUpdate rules notifiedAt) state)

end LatestState

def dispatch (inputs : DispatchInputs) (environment : DispatchEnvironment) : LatestState :=
  LatestState.persistDeliveryUpdates inputs.rules inputs.notifiedAt inputs.state
    (deliverRuleRuns inputs environment).updates

end OctoHubs.Latest
