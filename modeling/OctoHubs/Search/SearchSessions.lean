import OctoHubs.Library.Dict
import OctoHubs.Library.Runs
import OctoHubs.Time

/-! The registry of streaming search sessions, and the searches that run under it. A session is
created pending, claimed once by its owner and removed when its search ends or when it is too
old.
-/

namespace OctoHubs.Search

open OctoHubs.Library

inductive SearchSessionError
  | limit (text : String)
  | unavailable (text : String)
deriving DecidableEq, Repr

inductive SessionStatus
  | pending
  | active
deriving DecidableEq, Repr

structure SearchSession where
  ownerId : Int
  createdAt : Timestamp
  status : SessionStatus
  claimedAt : Option Timestamp
deriving DecidableEq, Repr

structure SearchLimits where
  pendingTtl : Timestamp := 30 * second
  activeTtl : Timestamp := 5 * 60 * second
  maxPendingPerUser : Nat := 3
  maxActivePerUser : Nat := 2
  maxActive : Nat := 8
  maxSessions : Nat := 128
deriving DecidableEq, Repr

abbrev SessionId := String

abbrev SearchSessions := Dict SessionId SearchSession

namespace SearchSession

variable (session : SearchSession)

def expired (limits : SearchLimits) (now : Timestamp) : Bool :=
  match session.status with
  | .pending => limits.pendingTtl ≤ now - session.createdAt
  | .active => limits.activeTtl ≤ now - session.claimedAt.getD session.createdAt

def isPending : Bool := session.status = .pending

def isActive : Bool := session.status = .active

def owned (ownerId : Int) : Bool := session.ownerId = ownerId

end SearchSession

def normalizeOwnerId (ownerId : Int) : Except SearchSessionError Int :=
  if ownerId ≤ 0 then .error (.unavailable "Identita utente non valida") else .ok ownerId

namespace SearchSessions

variable (sessions : SearchSessions) (limits : SearchLimits)

def countWhere (counts : SearchSession → Bool) : Nat :=
  sessions.items.countP (fun item => counts item.2)

def pruneExpired (now : Timestamp) : SearchSessions :=
  sessions.filter (fun _ session => !session.expired limits now)

/-- A call changes the registry, also where it raises. -/
def create (now : Timestamp) (uuid : SessionId) (ownerId : Int)
    : SearchSessions × Except SearchSessionError SessionId :=
  match normalizeOwnerId ownerId with
  | .error error => (sessions, .error error)
  | .ok ownerId =>
      let sessions := sessions.pruneExpired limits now
      if limits.maxPendingPerUser
          ≤ sessions.countWhere (fun session => session.owned ownerId && session.isPending) then
        (sessions, .error (.limit "Troppe sessioni di ricerca in attesa"))
      else if limits.maxSessions ≤ sessions.items.length then
        (sessions, .error (.limit "Capacita globale delle ricerche esaurita"))
      else (sessions.set uuid ⟨ownerId, now, .pending, none⟩, .ok uuid)

def claim (now : Timestamp) (sessionId : SessionId) (ownerId : Int)
    : SearchSessions × Except SearchSessionError Unit :=
  match normalizeOwnerId ownerId with
  | .error error => (sessions, .error error)
  | .ok ownerId =>
      let sessions := sessions.pruneExpired limits now
      match (sessions.get? sessionId).filter (fun session =>
          session.owned ownerId && session.isPending) with
      | none => (sessions, .error (.unavailable "Sessione di ricerca non disponibile"))
      | some session =>
          if limits.maxActivePerUser
              ≤ sessions.countWhere (fun candidate =>
                candidate.owned ownerId && candidate.isActive) then
            (sessions, .error (.limit "Troppe ricerche simultanee per questo utente"))
          else if limits.maxActive ≤ sessions.countWhere SearchSession.isActive then
            (sessions, .error (.limit "Capacita delle ricerche simultanee esaurita"))
          else
            (sessions.set sessionId { session with status := .active, claimedAt := some now },
              .ok ())

def finish (sessionId : SessionId) (ownerId : Int) : SearchSessions :=
  match normalizeOwnerId ownerId with
  | .error _ => sessions
  | .ok ownerId =>
      if (sessions.get? sessionId).any (·.owned ownerId) then sessions.erase sessionId
      else sessions

end SearchSessions

/-- A search between its claim and the end of its handler. -/
structure RunningSearch where
  sessionId : SessionId
  ownerId : Int
  claimedAt : Timestamp
deriving DecidableEq, Repr

/-- The registry with the ids given out, all claims so far and the searches that still run. -/
structure SearchWorld where
  sessions : SearchSessions
  clock : Timestamp
  issued : List SessionId
  claims : List SessionId
  running : List RunningSearch
deriving DecidableEq

/-- A search ends by its result or an error, or its client disconnects; both ways the handler
finishes the session. Ids are fresh where they are created.
-/
inductive SearchEvent
  | create (now : Timestamp) (uuid : SessionId) (ownerId : Int)
  | claim (now : Timestamp) (sessionId : SessionId) (ownerId : Int)
  | finish (sessionId : SessionId)
  | disconnect (sessionId : SessionId)
  | snapshot (now : Timestamp)
  | tick (now : Timestamp)
deriving DecidableEq, Repr

namespace SearchWorld

variable (world : SearchWorld) (limits : SearchLimits)

def endSearch (sessionId : SessionId) : Option SearchWorld :=
  (world.running.find? (·.sessionId = sessionId)).map (fun search =>
    { world with
      sessions := world.sessions.finish sessionId search.ownerId
      running := world.running.filter (·.sessionId ≠ sessionId) })

/-- The clock shows a time that is not before the last one. -/
def advance (now : Timestamp) : Option SearchWorld :=
  if world.clock ≤ now then some { world with clock := now } else none

def create (now : Timestamp) (uuid : SessionId) (ownerId : Int) : Option SearchWorld :=
  if uuid ∈ world.issued then none
  else
    (world.advance now).map (fun world =>
      match world.sessions.create limits now uuid ownerId with
      | (sessions, .error _) => { world with sessions }
      | (sessions, .ok uuid) => { world with sessions, issued := uuid :: world.issued })

def claim (now : Timestamp) (sessionId : SessionId) (ownerId : Int) : Option SearchWorld :=
  (world.advance now).map (fun world =>
    match world.sessions.claim limits now sessionId ownerId with
    | (sessions, .error _) => { world with sessions }
    | (sessions, .ok _) =>
        { world with
          sessions
          claims := sessionId :: world.claims
          running := ⟨sessionId, ownerId, now⟩ :: world.running })

def step : SearchEvent → Option SearchWorld
  | .create now uuid ownerId => world.create limits now uuid ownerId
  | .claim now sessionId ownerId => world.claim limits now sessionId ownerId
  | .finish sessionId | .disconnect sessionId => world.endSearch sessionId
  | .snapshot now =>
      (world.advance now).map (fun world =>
        { world with sessions := world.sessions.pruneExpired limits now })
  | .tick now => world.advance now

/-- No session was created yet. -/
def opening (clock : Timestamp) : SearchWorld := ⟨∅, clock, [], [], []⟩

/-- The running searches that have been claimed less than the active lifetime ago. -/
def recent : List RunningSearch :=
  world.running.filter (fun search => world.clock - search.claimedAt < limits.activeTtl)

end SearchWorld

end OctoHubs.Search
