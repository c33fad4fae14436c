import OctoHubs.BridgeTransports.TransportRuns

/-! A socket that is not the current one of a server changes no server, but for a configuration
that is taken back when its send fails.
-/

namespace OctoHubs.BridgeTransports

open OctoHubs.Library

namespace Registry

def CurrentOf (registry : Registry) (serverId : String) (socket : Socket) : Prop :=
  ∃ state, registry.currentServer? socket = some (serverId, state)

/-- A server has one current socket at most, and one at all while it is connected. -/
structure Owned (registry : Registry) : Prop where
  single
    : ∀ {serverId socket other},
        registry.CurrentOf serverId socket → registry.CurrentOf serverId other → socket = other
  connected_iff
    : ∀ {serverId state},
        registry.servers.get? serverId = some state
        → (state.connected = true ↔ ∃ socket, registry.CurrentOf serverId socket)

theorem Consistent.owns {registry : Registry} (consistent : registry.Consistent)
    : registry.Owned where
  single := by
    rintro serverId socket other ⟨state, current⟩ ⟨same, elsewhere⟩
    obtain ⟨found, mine, -⟩ := currentServer?_eq_some_iff.mp current
    obtain ⟨again, its, -⟩ := currentServer?_eq_some_iff.mp elsewhere
    obtain rfl := Option.some.inj (found.symm.trans again)
    exact Option.some.inj (mine.symm.trans its)
  connected_iff := by
    intro serverId state found
    have held := connectionOf_of_get? found
    have connected := consistent.connected serverId
    rw [held] at connected
    change state.connected = state.websocket.isSome at connected
    rw [connected, Option.isSome_iff_exists]
    constructor
    · rintro ⟨socket, mine⟩
      have owned := consistent.owned serverId socket
      rw [held] at owned
      exact ⟨socket, state, currentServer?_eq_some_iff.mpr ⟨found, mine, owned mine⟩⟩
    · rintro ⟨socket, same, current⟩
      obtain ⟨again, mine, -⟩ := currentServer?_eq_some_iff.mp current
      obtain rfl := Option.some.inj (found.symm.trans again)
      exact ⟨socket, mine⟩

theorem currentServer?_of_stale {registry : Registry} {socket : Socket}
    (stale : registry.websocketIsCurrent socket = false)
    : registry.currentServer? socket = none :=
  Option.isNone_iff_eq_none.mp (Option.isSome_eq_false_iff.mp stale)

theorem servers_dispatchLock (registry : Registry) (serverId : String)
    : (registry.dispatchLock serverId).1.servers = registry.servers := by
  unfold dispatchLock
  split <;> rfl

theorem servers_detachWebsocket_of_stale {registry : Registry} {socket : Socket}
    (stale : registry.websocketIsCurrent socket = false) (now : Timestamp)
    : (registry.detachWebsocket socket now).servers = registry.servers := by
  rw [detachWebsocket, currentServer?_of_stale stale]

section Operations

variable {rules : BridgeRules}

theorem recordConfigAck_of_stale {registry : Registry} {socket : Socket}
    (stale : registry.websocketIsCurrent socket = false) (payload : Document) (now : Timestamp)
    : registry.recordConfigAck rules socket payload now = registry := by
  unfold recordConfigAck
  rw [currentServer?_of_stale stale]
  exact ite_self _

theorem recordWebsocketEvent_of_stale {registry : Registry} {socket : Socket}
    (stale : registry.websocketIsCurrent socket = false) (payload : Document) (now : Timestamp)
    : registry.recordWebsocketEvent rules socket payload now = registry := by
  unfold recordWebsocketEvent
  rw [currentServer?_of_stale stale]
  exact ite_self _

theorem websocketIsCurrent_registerUnlocked (rules : BridgeRules) (registry : Registry)
    (socket : Socket) (hello : Document) (serverId serverName : String) (now : Timestamp)
    : (registry.registerUnlocked rules socket hello serverId serverName
        now).1.websocketIsCurrent socket
      = true := by
  refine websocketIsCurrent_iff.mpr ⟨serverId, ?_⟩
  rw [connectionOf_registerUnlocked, if_pos rfl, websocketServers_registerUnlocked,
    Dict.get?_set_self]
  exact ⟨rfl, rfl⟩

end Operations

end Registry

def Task.socket? : Task → Option Socket
  | .registering socket _ _ => some socket
  | .replacing socket _ => some socket
  | .dispatchWaiting socket _ _ => some socket
  | .dispatching socket _ _ => some socket
  | .closing socket _ => some socket
  | .sending _ socket _ _ _ => some socket
  | _ => none

/-- The socket that a step belongs to. -/
def BridgeEvent.actor? (world : BridgeWorld) : BridgeEvent → Option Socket
  | .register _ socket _ => some socket
  | .dispatch _ socket => some socket
  | .disconnect socket _ => some socket
  | .configAck socket _ _ => some socket
  | .websocketEvent socket _ _ => some socket
  | .proceed id _ _ => (world.tasks.get? id).bind Task.socket?
  | .resume id _ _ => (world.tasks.get? id).bind Task.socket?
  | _ => none

/-- The send of a configuration over the socket ends early, and the server shows the delivery from
before it again, which nothing has acknowledged.
-/
inductive TakenBack (world : BridgeWorld) (event : BridgeEvent) (socket : Socket)
    (next : BridgeWorld)
    : Prop
  | restored {id lock : Nat} {outcome : AwaitOutcome} {now : Timestamp}
    {serverId messageId : String} {previous : Delivery} {state : ServerState}
    (ends : event = .resume id outcome now) (early : outcome ≠ .completed)
    (waits : world.tasks.get? id = some (.sending serverId socket messageId previous lock))
    (found : world.registry.servers.get? serverId = some state)
    (latest : state.lastConfigMessageId = messageId)
    (unacknowledged : state.lastConfigAckMessageId ≠ messageId)
    (servers
      : next.registry.servers = world.registry.servers.set serverId (state.restored previous))

/-- A socket that is current neither before the step nor after it changes no server, but for a
configuration that is taken back.
-/
def KeepsServers (world : BridgeWorld) (event : BridgeEvent) (next : BridgeWorld) : Prop :=
  ∀ socket,
    event.actor? world = some socket
    → world.registry.websocketIsCurrent socket = false
    → next.registry.websocketIsCurrent socket = false
    → next.registry.servers = world.registry.servers ∨ TakenBack world event socket next

/-- Effects begin to run for a socket that is current then. -/
def DispatchesCurrent (world next : BridgeWorld) : Prop :=
  ∀ id socket lock,
    next.tasks.get? id = some (.dispatching socket true lock)
    → world.tasks.get? id = some (.dispatching socket true lock)
      ∨ next.registry.websocketIsCurrent socket = true

section Steps

variable {rules : BridgeRules} {world : BridgeWorld}

theorem Task.proceed_stale {id : Nat} {messageId : String} {now : Timestamp} {task : Task}
    {next : BridgeWorld} {socket : Socket}
    (taken : task.proceed rules world id messageId now = some next)
    (mine : task.socket? = some socket)
    (stale : next.registry.websocketIsCurrent socket = false)
    : next.registry.servers = world.registry.servers := by
  cases task with
  | registering other hello lock =>
      obtain rfl := Option.some.inj mine
      simp only [Task.proceed] at taken
      split at taken
      · cases taken
      · split at taken
        · have current := world.registry.websocketIsCurrent_registerUnlocked rules other hello
            (serverIdentity rules hello).1 (serverIdentity rules hello).2 now
          split at taken <;> cases taken <;> exact Bool.noConfusion (current.symm.trans stale)
        · cases taken
          rfl
  | dispatchWaiting other ownership lock =>
      simp only [Task.proceed] at taken
      split at taken
      · cases taken
      · cases taken
        rfl
  | crossing locks | shuttingDown | closeWaiting serverId lock | pushing serverId
  | pushWaiting serverId lock => cases mine
  | _ => cases taken

theorem servers_rollbackConfigurationSend (registry : Registry) (serverId messageId : String)
    (previous : Delivery)
    : (registry.rollbackConfigurationSend serverId messageId previous).1.servers
        = registry.servers
      ∨ ∃ state,
          registry.servers.get? serverId = some state
          ∧ state.lastConfigMessageId = messageId
          ∧ state.lastConfigAckMessageId ≠ messageId
          ∧ (registry.rollbackConfigurationSend serverId messageId previous).1.servers
            = registry.servers.set serverId (state.restored previous) := by
  cases found : registry.servers.get? serverId with
  | none =>
      left
      rw [Registry.rollbackConfigurationSend, found]
  | some state =>
      rw [Registry.rollbackConfigurationSend, found]
      dsimp only
      by_cases other : state.lastConfigMessageId ≠ messageId
          ∨ state.lastConfigAckMessageId = messageId
      · rw [if_pos other]
        exact .inl rfl
      · rw [if_neg other]
        obtain ⟨latest, unacknowledged⟩ := not_or.mp other
        exact .inr ⟨state, rfl, not_not.mp latest, unacknowledged, rfl⟩

theorem Task.resume_stale {id : Nat} {outcome : AwaitOutcome} {now : Timestamp} {task : Task}
    {next : BridgeWorld} {socket : Socket} (waits : world.tasks.get? id = some task)
    (taken : task.resume world id outcome now = some next)
    (mine : task.socket? = some socket)
    (stale : world.registry.websocketIsCurrent socket = false)
    : next.registry.servers = world.registry.servers
      ∨ TakenBack world (.resume id outcome now) socket next := by
  have detached := Registry.servers_detachWebsocket_of_stale stale now
  cases task with
  | replacing other lock =>
      obtain rfl := Option.some.inj mine
      cases taken
      by_cases open_ : outcome = .cancelled ∨ world.registry.accepting = true
      · rw [if_pos open_]
        exact .inl rfl
      · rw [if_neg open_]
        exact .inl detached
  | dispatching other current lock =>
      cases taken
      cases lock <;> exact .inl rfl
  | closing other lock =>
      obtain rfl := Option.some.inj mine
      cases taken
      exact .inl detached
  | sending serverId other messageId previous lock =>
      obtain rfl := Option.some.inj mine
      have stale_ : (world.registry.rollbackConfigurationSend serverId messageId
          previous).1.websocketIsCurrent other = false := by
        rw [Registry.websocketIsCurrent_congr
          (world.registry.connectionOf_rollbackConfigurationSend serverId messageId previous)
          (world.registry.websocketServers_rollbackConfigurationSend serverId messageId previous)]
        exact stale
      have rolled := servers_rollbackConfigurationSend world.registry serverId messageId previous
      have concludes (early : outcome ≠ .completed)
          (same
            : next.registry.servers
              = (world.registry.rollbackConfigurationSend serverId messageId previous).1.servers)
          : next.registry.servers = world.registry.servers
            ∨ TakenBack world (.resume id outcome now) other next := by
        rcases rolled with kept | ⟨state, found, latest, unacknowledged, restored⟩
        · exact .inl (same.trans kept)
        · exact .inr (.restored rfl early waits found latest unacknowledged (same.trans restored))
      cases outcome with
      | completed =>
          cases taken
          exact .inl rfl
      | cancelled =>
          cases taken
          exact concludes (by decide) rfl
      | failed =>
          simp only [Task.resume] at taken
          generalize world.registry.rollbackConfigurationSend serverId messageId previous = result
            at stale_ concludes taken
          obtain ⟨registry, ackReceived⟩ := result
          cases ackReceived <;> cases taken
          · exact concludes (by decide) (Registry.servers_detachWebsocket_of_stale stale_ now)
          · exact concludes (by decide) rfl
  | crossing locks | shuttingDown | closeWaiting serverId lock | pushing serverId
  | pushWaiting serverId lock => cases mine
  | registering other hello lock | dispatchWaiting other ownership lock =>
      simp only [Task.resume] at taken
      split at taken
      · cases taken
        exact .inl rfl
      · cases taken

theorem bridgeStep_keepsServers {event : BridgeEvent} {next : BridgeWorld}
    (taken : bridgeStep rules world event = some next)
    : KeepsServers world event next := by
  intro socket mine stale after
  cases event with
  | register id other hello =>
      left
      simp only [bridgeStep] at taken
      split at taken
      · cases taken
      · split at taken
        · cases taken
          exact world.registry.servers_dispatchLock _
        · cases taken
          rfl
  | dispatch id other =>
      left
      simp only [bridgeStep] at taken
      split at taken
      · cases taken
      · split at taken
        · cases taken
          exact world.registry.servers_dispatchLock _
        · cases taken
          rfl
  | disconnect other now =>
      obtain rfl := Option.some.inj mine
      cases taken
      exact .inl (Registry.servers_detachWebsocket_of_stale stale now)
  | configAck other payload now =>
      obtain rfl := Option.some.inj mine
      cases taken
      exact .inl (congrArg Registry.servers (Registry.recordConfigAck_of_stale stale payload now))
  | websocketEvent other payload now =>
      obtain rfl := Option.some.inj mine
      cases taken
      exact .inl
        (congrArg Registry.servers (Registry.recordWebsocketEvent_of_stale stale payload now))
  | proceed id messageId now =>
      obtain ⟨task, waits, proceeds⟩ := Option.bind_eq_some_iff.mp taken
      rw [BridgeEvent.actor?, waits] at mine
      exact .inl (Task.proceed_stale proceeds mine after)
  | resume id outcome now =>
      obtain ⟨task, waits, resumes⟩ := Option.bind_eq_some_iff.mp taken
      rw [BridgeEvent.actor?, waits] at mine
      exact Task.resume_stale waits resumes mine stale
  | _ => cases mine

/-- What the step comes to is within what sockets may do. -/
def Fenced (rules : BridgeRules) (world : BridgeWorld) (event : BridgeEvent) : Prop :=
  ∀ next,
    bridgeStep rules world event = some next
    → KeepsServers world event next ∧ DispatchesCurrent world next

/-- No socket is registered here, nor in any run from here. -/
def StaysClosed (rules : BridgeRules) (world : BridgeWorld) : Prop :=
  ∀ events finish,
    Run (bridgeStep rules) (fun _ _ => True) world events finish
    → finish.registry.Unregistered

theorem Settled.fenced (settled : Settled world) (event : BridgeEvent)
    : Fenced rules world event := by
  intro next taken
  exact ⟨bridgeStep_keepsServers taken,
    fun _ _ _ => (bridgeStep_moved settled.consistent taken).dispatches⟩

theorem Settled.staysClosed (settled : Settled world)
    (done : world.registry.shutdownComplete = true)
    : StaysClosed rules world := by
  intro events finish run
  have kept := run.preserves
    (fun world => Settled world ∧ world.registry.shutdownComplete = true)
    (fun holds _ taken =>
      ⟨holds.1.step taken, (bridgeStep_moved holds.1.consistent taken).complete holds.2⟩)
    ⟨settled, done⟩
  exact (kept.1.complete kept.2).2

end Steps

/-- The runs are those in which every step is fenced, and at their end each server has one socket at
most, which it has while it is connected; none is registered any more after a shutdown.
-/
theorem transports_fenced (rules : BridgeRules) (events : List BridgeEvent) (world : BridgeWorld)
    : Run (bridgeStep rules) (fun _ _ => True) .initial events world
      ↔ Run (bridgeStep rules) (Fenced rules) .initial events world
        ∧ world.registry.Owned
        ∧ (world.registry.shutdownComplete = true → StaysClosed rules world) := by
  constructor
  · intro run
    have settled := run.preserves Settled (fun settled _ taken => settled.step taken) .initial
    refine ⟨?_, settled.consistent.owns, settled.staysClosed⟩
    exact run.mono_of_invariant Settled (fun settled _ => settled.fenced _)
      (fun settled _ taken => settled.step taken) .initial
  · rintro ⟨run, -⟩
    exact run.mono (fun _ => trivial)

def plainRules : BridgeRules := ⟨⟨id, Char.isAlphanum, fun _ => none, fun _ => ""⟩, id⟩

def BridgeWorld.lastSeen (world : BridgeWorld) (serverId : String) : Option Timestamp :=
  (world.registry.servers.get? serverId).bind ServerState.lastSeenAt

/-- A socket registers, a configuration is being sent over it, and it disconnects. -/
def goneWhileSending : List BridgeEvent :=
  [ .register 1 7 (Dict.set ∅ "serverId" (.text "green")),
    .proceed 1 "" 10,
    .pushConfiguration [2] (some "green"),
    .proceed 2 "" 20,
    .proceed 2 "cfg-green" 20,
    .disconnect 7 30 ]

/-- The send fails then, and the server was last seen before the socket was detached. -/
theorem failed_send_changes_server
    : ∃ world,
        Run (bridgeStep plainRules) (fun _ _ => True) .initial goneWhileSending world
        ∧ BridgeEvent.actor? world (.resume 2 .failed 40) = some 7
        ∧ world.registry.websocketIsCurrent 7 = false
        ∧ world.lastSeen "green" = some 30
        ∧ (bridgeStep plainRules world (.resume 2 .failed 40)).any (fun next =>
            next.registry.websocketIsCurrent 7 = false && next.lastSeen "green" = some 10)
          = true :=
  Run.exists_of_execute (by decide)

end OctoHubs.BridgeTransports
