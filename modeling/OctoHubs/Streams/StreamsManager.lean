import OctoHubs.Library.Coalescing
import OctoHubs.Library.Equality
import OctoHubs.Library.Runs
import OctoHubs.Time

/-! The cached playback sessions of the servers. A refresh fetches the sessions of a server outside
the lock of the cache, while streams change, are cleared or are marked as stale.
-/

namespace OctoHubs.Streams

open OctoHubs.Library

structure EmbyStreamsManager where
  lastUpdates : Dict String Timestamp
  lastRefreshAttempts : Dict String Timestamp
  lastErrors : Dict String String
  lastEvents : Dict String (String × String)
  staleServers : Dict String String
  refreshLocks : Dict String Nat
  streams : Dict String (List Document)

/-- The first name of a session that counts as true, else what the second field says. -/
def sessionId (stream : Document) : Json :=
  match stream.get? "session_id" with
  | some value => if value.truthy then value else (stream.get? "Id").getD .null
  | none => (stream.get? "Id").getD .null

def hasId (id : Json) (stream : Document) : Bool := (sessionId stream).equals id

inductive FetchAnswer
  | streams (streams : List Document)
  | error (message : String)

namespace EmbyStreamsManager

variable (isoformat : Timestamp → String) (manager : EmbyStreamsManager)

def new : EmbyStreamsManager := ⟨∅, ∅, ∅, ∅, ∅, ∅, ∅⟩

def getStreams (serverId : String) : List Document := (manager.streams.get? serverId).getD []

def stamp (now : Timestamp) (stream : Document) : Document :=
  stream.set "_last_update" (.text (isoformat now))

/-- The server was heard of: its errors and its mark are over. -/
def touch (serverId : String) (now : Timestamp) : EmbyStreamsManager :=
  { manager with
    lastUpdates := manager.lastUpdates.set serverId now
    lastRefreshAttempts := manager.lastRefreshAttempts.set serverId now
    lastErrors := manager.lastErrors.erase serverId
    staleServers := manager.staleServers.erase serverId }

def addStream (serverId : String) (sessionData : Document) (now : Timestamp)
    : EmbyStreamsManager :=
  let known :=
    { manager with
      streams :=
        if (manager.streams.get? serverId).isNone then manager.streams.set serverId []
        else manager.streams }
  let id := sessionId sessionData
  if !id.truthy then known
  else
    let others := (known.getStreams serverId).filter (fun stream => !hasId id stream)
    let added := others ++ [stamp isoformat now sessionData]
    ({ known with streams := known.streams.set serverId added } : EmbyStreamsManager).touch
      serverId now

def removeStream (serverId : String) (id : Json) (now : Timestamp) : EmbyStreamsManager :=
  match manager.streams.get? serverId with
  | none => manager
  | some streams =>
      ({ manager with
          streams :=
            manager.streams.set serverId (streams.filter (fun stream => !hasId id stream)) }
        : EmbyStreamsManager).touch serverId now

/-- The first stream of the session takes the data. -/
def updateFirst (id : Json) (data : Document) (now : Timestamp)
    : List Document → Option (List Document × Document)
  | [] => none
  | stream :: rest =>
      if hasId id stream then
        let updated := stamp isoformat now (stream.update data)
        some (updated :: rest, updated)
      else (updateFirst id data now rest).map (fun (streams, updated) => (stream :: streams, updated))

/-- The streams after an update, with the stream that it changed. -/
def updated? (serverId : String) (id : Json) (data : Document) (now : Timestamp)
    : Option (List Document × Document) :=
  updateFirst isoformat id data now (manager.getStreams serverId)

def updateStream (serverId : String) (id : Json) (data : Document) (now : Timestamp)
    : EmbyStreamsManager :=
  match manager.updated? isoformat serverId id data now with
  | none => manager
  | some (streams, _) =>
      ({ manager with streams := manager.streams.set serverId streams }
        : EmbyStreamsManager).touch serverId now

def clearServer (serverId : String) : EmbyStreamsManager where
  lastUpdates := manager.lastUpdates.erase serverId
  lastRefreshAttempts := manager.lastRefreshAttempts.erase serverId
  lastErrors := manager.lastErrors.erase serverId
  lastEvents := manager.lastEvents.erase serverId
  staleServers := manager.staleServers.erase serverId
  refreshLocks := manager.refreshLocks.erase serverId
  streams := manager.streams.erase serverId

def markStale (serverId reason : String) (now : Timestamp) : EmbyStreamsManager :=
  if serverId = "" then manager
  else
    { manager with
      staleServers := manager.staleServers.set serverId reason
      lastEvents := manager.lastEvents.set serverId (reason, isoformat now) }

def refreshFromApi (serverId : String) (streams : List Document) (now : Timestamp)
    : EmbyStreamsManager :=
  ({ manager with
      streams := manager.streams.set serverId (streams.map (stamp isoformat now)) }
    : EmbyStreamsManager).touch serverId now

def recordRefreshError (serverId message : String) (now : Timestamp) : EmbyStreamsManager :=
  { manager with
    lastRefreshAttempts := manager.lastRefreshAttempts.set serverId now
    lastErrors := manager.lastErrors.set serverId message
    staleServers := manager.staleServers.erase serverId }

def isStale (serverId : String) (maxAgeSeconds : Int) (now : Timestamp) : Bool :=
  if (manager.staleServers.get? serverId).isSome then true
  else
    match manager.lastRefreshAttempts.get? serverId with
    | none => true
    | some lastAttempt => maxAgeSeconds * second < now - lastAttempt

/-- The sessions of an id, whatever the time of their last update. -/
def sessions (streams : List Document) (id : Json) : List Document :=
  (streams.filter (hasId id)).map (·.erase "_last_update")

end EmbyStreamsManager

/-- What happens to a server's cache. -/
inductive Happening
  | marked
  | changed (ids : List Json)
  | refreshed
  | cleared

/-- Where a refresh is; since its fetch starts it knows how long the log was then. -/
inductive RefreshPhase
  | wantsLock
  | waits (lock : Nat)
  | looks (lock : Nat)
  | fetches (lock started : Nat)
  | answered (lock started : Nat) (answer : FetchAnswer)
  | writes (lock started : Nat) (answer : FetchAnswer)
  | returns (lock : Nat)

structure StreamsRefresh where
  serverId : String
  maxAgeSeconds : Int
  force : Bool
  phase : RefreshPhase

/-- The end of a refresh: what happened to its server since its fetch started, what it wrote, and
the cache before and after.
-/
structure RefreshEnd where
  serverId : String
  since : List Happening
  written : Option FetchAnswer
  before : EmbyStreamsManager
  after : EmbyStreamsManager

/-- The cache with the refreshes in progress, the locks that are held, what has happened to the
servers, and the refreshes that have ended.
-/
structure StreamsWorld where
  manager : EmbyStreamsManager
  refreshes : Dict Nat StreamsRefresh
  heldLocks : List Nat
  nextLock : Nat
  log : List (String × Happening)
  ended : List RefreshEnd

def StreamsWorld.initial : StreamsWorld := ⟨.new, ∅, [], 0, [], []⟩

inductive StreamsEvent
  | addStream (serverId : String) (sessionData : Document) (now : Timestamp)
  | removeStream (serverId : String) (id : Json) (now : Timestamp)
  | updateStream (serverId : String) (id : Json) (data : Document) (now : Timestamp)
  | clearServer (serverId : String)
  | markStale (serverId reason : String) (now : Timestamp)
  | begins (caller : Nat) (serverId : String) (maxAgeSeconds : Int) (force : Bool)
    (now : Timestamp)
  | getsLock (caller : Nat)
  | acquires (caller : Nat)
  | looks (caller : Nat) (now : Timestamp)
  | answers (caller : Nat) (answer : FetchAnswer)
  | raises (caller : Nat)
  | checks (caller : Nat) (isCurrent : Bool)
  | writes (caller : Nat) (now : Timestamp)
  | returns (caller : Nat)

namespace StreamsWorld

variable (world : StreamsWorld)

/-- What has happened to a server, from some length of the log on. -/
def happenings (started : Nat) (serverId : String) : List Happening :=
  dataOf serverId (world.log.drop started)

def happen (serverId : String) (manager : EmbyStreamsManager) (happening : Happening)
    : StreamsWorld :=
  { world with manager, log := world.log ++ [(serverId, happening)] }

def setPhase (caller : Nat) (refresh : StreamsRefresh) (phase : RefreshPhase) : StreamsWorld :=
  { world with refreshes := world.refreshes.set caller { refresh with phase } }

/-- A refresh has come to its end and goes on to return. -/
def finish (caller : Nat) (refresh : StreamsRefresh) (lock started : Nat)
    (written : Option FetchAnswer) (before : EmbyStreamsManager)
    : StreamsWorld :=
  { world.setPhase caller refresh (.returns lock) with
    ended :=
      world.ended
        ++ [⟨refresh.serverId, world.happenings started refresh.serverId, written, before,
          world.manager⟩] }

end StreamsWorld

variable (isoformat : Timestamp → String)

/-- One section under a lock, or one call between two. -/
def streamsStep (world : StreamsWorld) : StreamsEvent → Option StreamsWorld
  | .addStream serverId sessionData now =>
      let manager := world.manager.addStream isoformat serverId sessionData now
      let id := sessionId sessionData
      if id.truthy then some (world.happen serverId manager (.changed [id]))
      else some { world with manager }
  | .removeStream serverId id now =>
      let manager := world.manager.removeStream serverId id now
      if (world.manager.streams.get? serverId).isSome then
        some (world.happen serverId manager (.changed [id]))
      else some { world with manager }
  | .updateStream serverId id data now =>
      let manager := world.manager.updateStream isoformat serverId id data now
      match world.manager.updated? isoformat serverId id data now with
      | some (_, updated) =>
          some (world.happen serverId manager (.changed [id, sessionId updated]))
      | none => some { world with manager }
  | .clearServer serverId =>
      some (world.happen serverId (world.manager.clearServer serverId) .cleared)
  | .markStale serverId reason now =>
      let manager := world.manager.markStale isoformat serverId reason now
      if serverId = "" then some { world with manager }
      else some (world.happen serverId manager .marked)
  | .begins caller serverId maxAgeSeconds force now =>
      if (world.refreshes.get? caller).isSome then none
      else if serverId = "" then some world
      else if !force && !world.manager.isStale serverId maxAgeSeconds now then some world
      else
        some
          { world with
            refreshes :=
              world.refreshes.set caller ⟨serverId, maxAgeSeconds, force, .wantsLock⟩ }
  | .getsLock caller =>
      world.refreshes.get? caller >>= fun refresh =>
        match refresh.phase with
        | .wantsLock =>
            match world.manager.refreshLocks.get? refresh.serverId with
            | some lock => some (world.setPhase caller refresh (.waits lock))
            | none =>
                some
                  { world.setPhase caller refresh (.waits world.nextLock) with
                    manager :=
                      { world.manager with
                        refreshLocks :=
                          world.manager.refreshLocks.set refresh.serverId world.nextLock }
                    nextLock := world.nextLock + 1 }
        | _ => none
  | .acquires caller =>
      world.refreshes.get? caller >>= fun refresh =>
        match refresh.phase with
        | .waits lock =>
            if lock ∈ world.heldLocks then none
            else
              some
                { world.setPhase caller refresh (.looks lock) with
                  heldLocks := world.heldLocks ++ [lock] }
        | _ => none
  | .looks caller now =>
      world.refreshes.get? caller >>= fun refresh =>
        match refresh.phase with
        | .looks lock =>
            if !refresh.force && !world.manager.isStale refresh.serverId refresh.maxAgeSeconds now
            then some (world.setPhase caller refresh (.returns lock))
            else some (world.setPhase caller refresh (.fetches lock world.log.length))
        | _ => none
  | .answers caller answer =>
      world.refreshes.get? caller >>= fun refresh =>
        match refresh.phase with
        | .fetches lock started =>
            some (world.setPhase caller refresh (.answered lock started answer))
        | _ => none
  | .raises caller =>
      world.refreshes.get? caller >>= fun refresh =>
        match refresh.phase with
        | .fetches lock started =>
            some (world.finish caller refresh lock started none world.manager)
        | _ => none
  | .checks caller isCurrent =>
      world.refreshes.get? caller >>= fun refresh =>
        match refresh.phase with
        | .answered lock started answer =>
            if isCurrent then some (world.setPhase caller refresh (.writes lock started answer))
            else some (world.finish caller refresh lock started none world.manager)
        | _ => none
  | .writes caller now =>
      world.refreshes.get? caller >>= fun refresh =>
        match refresh.phase with
        | .writes lock started answer =>
            let serverId := refresh.serverId
            let manager :=
              match answer with
              | .streams streams => world.manager.refreshFromApi isoformat serverId streams now
              | .error message => world.manager.recordRefreshError serverId message now
            let since := world.happenings started serverId
            some
              { (world.happen serverId manager .refreshed).setPhase caller refresh
                  (.returns lock) with
                ended :=
                  world.ended ++ [⟨serverId, since, some answer, world.manager, manager⟩] }
        | _ => none
  | .returns caller =>
      world.refreshes.get? caller >>= fun refresh =>
        match refresh.phase with
        | .returns lock =>
            some
              { world with
                refreshes := world.refreshes.erase caller
                heldLocks := world.heldLocks.filter (· ≠ lock) }
        | _ => none

end OctoHubs.Streams
