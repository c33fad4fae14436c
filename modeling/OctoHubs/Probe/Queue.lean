import OctoHubs.Library.SerialTable
import OctoHubs.Library.Runs
import OctoHubs.Time

/-! The queue of items to probe, with the blacklist and the history of their results.
Workers lease rows of the queue by a claim token; every operation is one transaction.
-/

namespace OctoHubs.Probe

open OctoHubs.Library

inductive ProbeScope
  | libraries
  | recent
deriving DecidableEq, Repr

/-- One source of an item; rows from before there were scopes have none. -/
structure ProbeIdentity where
  serverId : String
  itemId : String
  scope : Option ProbeScope
  mediaSourceId : Option String
deriving DecidableEq, Repr

structure ProbeItemDetails where
  libraryId : Option String
  libraryName : Option String
  name : String
  title : Option String
  seriesName : Option String
  seriesId : Option String
  seriesYearResolved : Bool
  seasonNumber : Option Int
  episodeNumber : Option Int
  year : Option Int
  mediaType : Option String
  path : Option String
deriving DecidableEq, Repr

structure ProbeQueueEntry where
  identity : ProbeIdentity
  details : ProbeItemDetails
  addedAt : Timestamp
  claimToken : Option String
  claimedAt : Option Timestamp
deriving DecidableEq

structure ProbeBlacklistEntry where
  libraryId : Option String
  libraryName : Option String
  itemName : String
  reason : String
  retryCount : Nat
  errorType : Option String
  failedAt : Timestamp
deriving DecidableEq, Repr

structure ProbeHistoryEntry where
  identity : ProbeIdentity
  name : String
  libraryName : Option String
  status : String
  errorDetails : Option String
  durationMs : Option Int
  processedAt : Timestamp
deriving DecidableEq

/-- The blacklist has one row for an identity. -/
structure ProbeStore where
  queue : SerialTable ProbeQueueEntry
  blacklist : Dict ProbeIdentity ProbeBlacklistEntry
  history : List ProbeHistoryEntry

def probeQueueLease : Timestamp := 300 * second
def probeHistoryRetention : Timestamp := 90 * 24 * 60 * 60 * second

def normalizeProbeScope (scope : Option ProbeScope) : ProbeScope := scope.getD .libraries

/-- Without a scope every row matches; rows without one count as rows of the libraries. -/
def matchesScope (scope stored : Option ProbeScope) : Bool :=
  match scope with
  | none => true
  | some .libraries => stored = some .libraries || stored = none
  | some .recent => stored = some .recent

def matchesMediaSource (mediaSourceId stored : Option String) : Bool :=
  match mediaSourceId with
  | none => stored = none || stored = some ""
  | some wanted => stored = some wanted

/-- The rows that an operation on one item is about. -/
structure ProbeTarget where
  serverId : String
  itemId : String
  mediaSourceId : Option String
  scope : Option ProbeScope
deriving DecidableEq, Repr

def ProbeTarget.selects (target : ProbeTarget) (identity : ProbeIdentity) : Bool :=
  identity.serverId = target.serverId
  && identity.itemId = target.itemId
  && matchesScope target.scope identity.scope
  && matchesMediaSource target.mediaSourceId identity.mediaSourceId

namespace ProbeQueueEntry

variable (entry : ProbeQueueEntry)

def claimIsActive (now : Timestamp) : Bool :=
  entry.claimToken.any (· ≠ "")
  && entry.claimedAt.any (fun claimedAt => claimedAt ≥ now - probeQueueLease)

/-- The row has no claim, or one that is older than the lease. -/
def isClaimable (staleBefore : Timestamp) : Bool :=
  entry.claimToken = none || entry.claimedAt.all (fun claimedAt => claimedAt < staleBefore)

end ProbeQueueEntry

structure ProbeQueueItem where
  serverId : String
  itemId : String
  mediaSourceId : Option String
  scope : Option ProbeScope
  details : ProbeItemDetails
deriving DecidableEq, Repr

structure ProbeResult where
  serverId : String
  itemId : String
  mediaSourceId : Option String
  scope : Option ProbeScope
  name : String
  libraryName : Option String
  status : String
  errorDetails : Option String
  durationMs : Option Int
deriving DecidableEq, Repr

structure ProbeFailure where
  reason : Option String
  errorType : Option String
  libraryId : Option String
deriving DecidableEq, Repr

structure ProbeOutcome where
  retryCount : Nat
  requeued : Bool
deriving DecidableEq, Repr

def ProbeResult.target (result : ProbeResult) : ProbeTarget :=
  ⟨result.serverId, result.itemId, result.mediaSourceId, result.scope⟩

def ProbeResult.identity (result : ProbeResult) : ProbeIdentity :=
  ⟨result.serverId, result.itemId, some (normalizeProbeScope result.scope),
    result.mediaSourceId⟩

namespace ProbeStore

variable (store : ProbeStore)

/-- Remove the idle row of an item without a source before one of its sources is queued;
a leased row stays and refuses the source.
-/
def prepareConcreteEntry (item : ProbeQueueItem) (now : Timestamp) : ProbeStore × Bool :=
  if item.mediaSourceId = none then (store, true)
  else
    let isGeneric (identity : ProbeIdentity) : Bool :=
      identity.serverId = item.serverId
      && identity.itemId = item.itemId
      && identity.mediaSourceId = none
      && matchesScope (some (normalizeProbeScope item.scope)) identity.scope
    match store.queue.rows.items.find? (fun row => isGeneric row.2.identity) with
    | none => (store, true)
    | some (genericId, generic) =>
        if generic.claimIsActive now then (store, false)
        else ({ store with queue := store.queue.delete (fun id _ => id = genericId) }, true)

/-- Queue one item, unless its identity is queued already. -/
def addItem (item : ProbeQueueItem) (now : Timestamp) : ProbeStore × Nat :=
  let prepared := store.prepareConcreteEntry item now
  let identity : ProbeIdentity :=
    ⟨item.serverId, item.itemId, some (normalizeProbeScope item.scope), item.mediaSourceId⟩
  if !prepared.2 then (prepared.1, 0)
  else if prepared.1.queue.rows.values.any (·.identity = identity) then (prepared.1, 0)
  else
    ({ prepared.1 with
      queue := prepared.1.queue.insert ⟨identity, item.details, now, none, none⟩ }, 1)

def addToProbeQueue : ProbeStore → List ProbeQueueItem → Timestamp → ProbeStore × Nat
  | store, [], _ => (store, 0)
  | store, item :: items, now =>
      let added := store.addItem item now
      let rest := addToProbeQueue added.1 items now
      (rest.1, added.2 + rest.2)

/-- Queue an item again and forget its results; a retry that queues nothing is refused. -/
def retryProbeItems (items : List ProbeQueueItem) (target : ProbeTarget) (now : Timestamp)
    : Option ProbeStore :=
  let (queued, count) := store.addToProbeQueue items now
  if count = 0 then none
  else
    some
      { queued with
        blacklist := queued.blacklist.filter (fun identity _ => !target.selects identity)
        history := queued.history.filter (fun row => !target.selects row.identity) }

/-- Lease the claimable rows among the wanted ones, in the order of the wanted ids; rows
locked by another transaction are skipped.
-/
def claimProbeQueueItems (entryIds locked : List Nat) (token : String) (leaseSeconds : Int)
    (now : Timestamp)
    : ProbeStore × List (Nat × ProbeQueueEntry) :=
  let staleBefore := now - max 30 leaseSeconds * second
  let claims (id : Nat) (entry : ProbeQueueEntry) : Bool :=
    id ∈ entryIds && id ∉ locked && entry.isClaimable staleBefore
  let lease (entry : ProbeQueueEntry) : ProbeQueueEntry :=
    { entry with claimToken := some token, claimedAt := some now }
  ({ store with
    queue := store.queue.modify (fun id entry =>
      if claims id entry then lease entry else entry) },
    entryIds.filterMap (fun id =>
      ((store.queue.get? id).filter (claims id)).map (fun entry => (id, lease entry))))

/-- The row under the id, if it still has the claim. -/
def heldEntry (id : Nat) (token : String) : Option ProbeQueueEntry :=
  (store.queue.get? id).filter (·.claimToken = some token)

def setEntry (id : Nat) (entry : ProbeQueueEntry) : ProbeStore :=
  { store with
    queue := store.queue.modify (fun other old => if other = id then entry else old) }

def deleteEntry (id : Nat) : ProbeStore :=
  { store with queue := store.queue.delete (fun other _ => other = id) }

def renewProbeQueueClaim (id : Nat) (token : String) (now : Timestamp) : ProbeStore × Bool :=
  match store.heldEntry id token with
  | none => (store, false)
  | some entry => (store.setEntry id { entry with claimedAt := some now }, true)

def completeProbeQueueClaim (id : Nat) (token : String) : ProbeStore × Bool :=
  match store.heldEntry id token with
  | none => (store, false)
  | some _ => (store.deleteEntry id, true)

def releaseProbeQueueClaim (id : Nat) (token : String) : ProbeStore × Bool :=
  match store.heldEntry id token with
  | none => (store, false)
  | some entry =>
      (store.setEntry id { entry with claimToken := none, claimedAt := none }, true)

/-- Count one more failure of an identity, with the retries it has had by now. -/
def updateProbeBlacklist (result : ProbeResult) (failure : ProbeFailure) (now : Timestamp)
    : ProbeStore × Nat :=
  let known := store.blacklist.get? result.identity
  let retryCount := known.elim 1 (·.retryCount + 1)
  ({ store with
    blacklist := store.blacklist.set result.identity
      { libraryId := failure.libraryId
        libraryName := result.libraryName
        itemName := result.name
        reason := failure.reason.getD "Errore probe"
        retryCount
        errorType := some (failure.errorType.getD "ERROR")
        failedAt := now } },
    retryCount)

/-- What the blacklist says after a result, with the number of retries. -/
def recordResult (result : ProbeResult) (failure : Option ProbeFailure) (now : Timestamp)
    : ProbeStore × Nat :=
  match failure with
  | none =>
      ({ store with
        blacklist :=
          store.blacklist.filter (fun identity _ => !result.target.selects identity) },
        0)
  | some failure => store.updateProbeBlacklist result failure now

def appendHistory (result : ProbeResult) (now : Timestamp) : ProbeStore :=
  let row : ProbeHistoryEntry :=
    ⟨result.identity, result.name, result.libraryName, result.status, result.errorDetails,
      result.durationMs, now⟩
  { store with
    history := (store.history ++ [row]).filter (fun row =>
      ¬ row.processedAt < now - probeHistoryRetention) }

/-- Persist a result and finish its claim in one transaction. -/
def commitProbeQueueResult (id : Nat) (token : String) (result : ProbeResult)
    (failure : Option ProbeFailure) (maxRetries : Int) (allowRequeue : Bool)
    (now : Timestamp)
    : ProbeStore × Option ProbeOutcome :=
  if token = "" then (store, none)
  else
    match store.heldEntry id token with
    | none => (store, none)
    | some entry =>
        let (recorded, retryCount) := store.recordResult result failure now
        let appended := recorded.appendHistory result now
        let requeued :=
          failure.isSome && allowRequeue && decide ((retryCount : Int) < max 1 maxRetries)
        let finished :=
          if requeued then
            appended.setEntry id { entry with claimToken := none, claimedAt := none }
          else appended.deleteEntry id
        (finished, some ⟨retryCount, requeued⟩)

/-- Delete rows and count them. -/
def deleteEntries (removes : ProbeQueueEntry → Bool) : ProbeStore × Nat :=
  ({ store with queue := store.queue.delete (fun _ => removes) },
    store.queue.rows.values.countP removes)

/-- Remove the rows of an item that nobody has claimed. -/
def removeFromProbeQueue (target : ProbeTarget) : ProbeStore × Bool :=
  let (removed, count) :=
    store.deleteEntries (fun entry => target.selects entry.identity && entry.claimToken = none)
  (removed, count = 1)

/-- Remove the rows of a server that nobody has claimed. -/
def clearProbeQueue (serverId : String) (scope : Option ProbeScope) : ProbeStore × Nat :=
  store.deleteEntries (fun entry =>
    entry.identity.serverId = serverId && matchesScope scope entry.identity.scope
    && entry.claimToken = none)

/-- Forget an item that is gone from its server, in all tables. -/
def removeProbeItemState (target : ProbeTarget) : ProbeStore where
  queue := store.queue.delete (fun _ entry => target.selects entry.identity)
  blacklist := store.blacklist.filter (fun identity _ => !target.selects identity)
  history := store.history.filter (fun row => !target.selects row.identity)

end ProbeStore

/-- The tables, with the tokens given out and the claims that a result was committed under. -/
structure ProbeWorld where
  store : ProbeStore
  issued : List String
  committed : List (Nat × String)

inductive ProbeEvent
  | add (items : List ProbeQueueItem) (now : Timestamp)
  | retry (items : List ProbeQueueItem) (target : ProbeTarget) (now : Timestamp)
  | claim (entryIds locked : List Nat) (token : String) (leaseSeconds : Int)
    (now : Timestamp)
  | renew (id : Nat) (token : String) (now : Timestamp)
  | release (id : Nat) (token : String)
  | complete (id : Nat) (token : String)
  | commit (id : Nat) (token : String) (result : ProbeResult)
    (failure : Option ProbeFailure) (maxRetries : Int) (allowRequeue : Bool)
    (now : Timestamp)
  | removeItem (target : ProbeTarget)
  | clear (serverId : String) (scope : Option ProbeScope)
  | removeItemState (target : ProbeTarget)

namespace ProbeWorld

def commit (world : ProbeWorld) (id : Nat) (token : String) (result : ProbeResult)
    (failure : Option ProbeFailure) (maxRetries : Int) (allowRequeue : Bool)
    (now : Timestamp)
    : ProbeWorld :=
  let (store, outcome) :=
    world.store.commitProbeQueueResult id token result failure maxRetries allowRequeue now
  { world with
    store
    committed :=
      if outcome.isSome then (id, token) :: world.committed else world.committed }

/-- One transaction of some worker. A claim draws a token that was never given out. -/
def step (world : ProbeWorld) : ProbeEvent → Option ProbeWorld
  | .add items now => some { world with store := (world.store.addToProbeQueue items now).1 }
  | .retry items target now =>
      (world.store.retryProbeItems items target now).map (fun store => { world with store })
  | .claim entryIds locked token leaseSeconds now =>
      if token ∈ world.issued then none
      else
        some
          { world with
            store :=
              (world.store.claimProbeQueueItems entryIds locked token leaseSeconds now).1
            issued := token :: world.issued }
  | .renew id token now =>
      some { world with store := (world.store.renewProbeQueueClaim id token now).1 }
  | .release id token =>
      some { world with store := (world.store.releaseProbeQueueClaim id token).1 }
  | .complete id token =>
      some { world with store := (world.store.completeProbeQueueClaim id token).1 }
  | .commit id token result failure maxRetries allowRequeue now =>
      some (world.commit id token result failure maxRetries allowRequeue now)
  | .removeItem target =>
      some { world with store := (world.store.removeFromProbeQueue target).1 }
  | .clear serverId scope =>
      some { world with store := (world.store.clearProbeQueue serverId scope).1 }
  | .removeItemState target =>
      some { world with store := world.store.removeProbeItemState target }

end ProbeWorld

end OctoHubs.Probe
