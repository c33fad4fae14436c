import OctoHubs.BridgeTransports.TransportState
import OctoHubs.Library.Runs

/-! The registry of Event Bridge transports, and the tasks that change it between their awaits:
registrations, frames that are dispatched, configurations that are sent, and the shutdown.
-/

namespace OctoHubs.BridgeTransports

open OctoHubs.Library

/-- The servers, the generation of the server that each socket was registered for, and the lock of
each server. Every lock that was made has a number of its own.
-/
structure Registry where
  servers : Dict String ServerState
  websocketServers : Dict Socket (String × Nat)
  dispatchLocks : Dict String Nat
  locksMade : Nat
  locked : List Nat
  accepting : Bool
  shutdownStarted : Bool
  shutdownComplete : Bool

namespace Registry

def new : Registry := ⟨∅, ∅, ∅, 0, [], true, false, false⟩

/-- The lock of a server, which is made if there is none. -/
def dispatchLock (registry : Registry) (serverId : String) : Registry × Nat :=
  match registry.dispatchLocks.get? serverId with
  | some lock => (registry, lock)
  | none =>
      ({ registry with
          dispatchLocks := registry.dispatchLocks.set serverId registry.locksMade
          locksMade := registry.locksMade + 1 },
        registry.locksMade)

def acquire (registry : Registry) (lock : Nat) : Registry :=
  { registry with locked := lock :: registry.locked }

def release (registry : Registry) (lock : Nat) : Registry :=
  { registry with locked := registry.locked.erase lock }

def currentServer? (registry : Registry) (socket : Socket) : Option (String × ServerState) :=
  match registry.websocketServers.get? socket with
  | none => none
  | some (serverId, generation) =>
      match registry.servers.get? serverId with
      | none => none
      | some state =>
          if state.websocket = some socket ∧ state.generation = generation then
            some (serverId, state)
          else none

def websocketIsCurrent (registry : Registry) (socket : Socket) : Bool :=
  (registry.currentServer? socket).isSome

/-- Forget a socket, and disconnect the server that it is the current one of. -/
def detachWebsocket (registry : Registry) (socket : Socket) (now : Timestamp) : Registry :=
  let forgotten :=
    { registry with websocketServers := registry.websocketServers.erase socket }
  match registry.currentServer? socket with
  | none => forgotten
  | some (serverId, state) =>
      { forgotten with servers := registry.servers.set serverId (state.detached now) }

/-- A socket that was registered for another server leaves it. -/
def leaveOther (registry : Registry) (socket : Socket) (serverId : String) (now : Timestamp)
    : Registry :=
  let elsewhere :=
    (registry.websocketServers.get? socket).any (fun previous =>
      previous.1 ≠ "" && previous.1 ≠ serverId)
  if elsewhere then registry.detachWebsocket socket now else registry

section Operations

variable (rules : BridgeRules)

/-- Make a socket the current one of a server, and tell which one it replaces. -/
def registerUnlocked (registry : Registry) (socket : Socket) (hello : Document)
    (serverId serverName : String) (now : Timestamp)
    : Registry × Option Socket :=
  let registry := registry.leaveOther socket serverId now
  let state := (registry.servers.get? serverId).getD { serverId }
  let registered := state.registered rules socket hello serverName now
  ({ registry with
      servers := registry.servers.set serverId registered
      websocketServers := registry.websocketServers.set socket (serverId, registered.generation) },
    state.websocket.filter (· ≠ socket))

/-- The states that a configuration is meant for. -/
def targetStates (registry : Registry) : Option String → List String
  | some serverId =>
      if serverId = "" then registry.servers.keys
      else if (registry.servers.get? serverId).isSome then [serverId] else []
  | none => registry.servers.keys

/-- A delivery that failed is taken back while it is the latest and unacknowledged. It tells
whether it was acknowledged.
-/
def rollbackConfigurationSend (registry : Registry) (serverId messageId : String)
    (previous : Delivery)
    : Registry × Bool :=
  match registry.servers.get? serverId with
  | none => (registry, false)
  | some state =>
      let ackReceived := state.lastConfigAckMessageId = messageId
      if state.lastConfigMessageId ≠ messageId ∨ ackReceived then (registry, ackReceived)
      else
        let servers := registry.servers.set serverId (state.restored previous)
        ({ registry with servers }, false)

def recordConfigAck (registry : Registry) (socket : Socket) (payload : Document)
    (now : Timestamp)
    : Registry :=
  if registry.accepting then
    match registry.currentServer? socket with
    | none => registry
    | some (serverId, state) =>
        let ids := [Document.field payload "id", Document.field payload "configureId"]
        let messageId := strip (firstText rules ids "")
        if messageId = "" ∨ messageId ≠ state.lastConfigMessageId then registry
        else
          { registry with
            servers :=
              registry.servers.set serverId (state.configAck rules payload messageId now) }
  else registry

def recordPluginConfigurationResponse (registry : Registry) (serverId : String)
    (response : Document) (now : Timestamp)
    : Registry :=
  if registry.accepting ∧ serverId ≠ "" then
    let state := (registry.servers.get? serverId).getD { serverId }
    { registry with
      servers := registry.servers.set serverId (state.pluginResponse rules response now) }
  else registry

def recordHttpItem (now : Timestamp) (servers : Dict String ServerState) (item : Document)
    : Dict String ServerState :=
  let serverId := (serverIdentity rules item).1
  let state := (servers.get? serverId).getD { serverId }
  servers.set serverId (state.httpEvent rules item now)

def recordHttpEvent (registry : Registry) (payload : Document) (now : Timestamp) : Registry :=
  if registry.accepting then
    { registry with
      servers := (eventBridgePayloads payload).foldl (recordHttpItem rules now) registry.servers }
  else registry

/-- Every event of a frame goes to the state of the socket's server, which has a name: the identity
in the event is never used instead.
-/
def recordWebsocketEvent (registry : Registry) (socket : Socket) (payload : Document)
    (now : Timestamp)
    : Registry :=
  if registry.accepting then
    match registry.currentServer? socket with
    | none => registry
    | some (serverId, state) =>
        let items := eventBridgePayloads payload
        let recorded :=
          items.foldl (fun state item => state.websocketEvent rules socket item now) state
        { registry with
          servers :=
            if items = [] then registry.servers else registry.servers.set serverId recorded }
  else registry

end Operations

end Registry

inductive Task
  /-- A registration waits for the server's lock. -/
  | registering (socket : Socket) (hello : Document) (lock : Nat)
  /-- A registration closes the socket that it has replaced. -/
  | replacing (socket : Socket) (lock : Nat)
  /-- A frame waits for the lock of the server that its socket was registered for. -/
  | dispatchWaiting (socket : Socket) (ownership : String × Nat) (lock : Nat)
  /-- A frame's effects run, or are left out. -/
  | dispatching (socket : Socket) (current : Bool) (lock : Option Nat)
  /-- The shutdown crosses the locks that remain. -/
  | crossing (locks : List Nat)
  /-- The shutdown closes the transports. -/
  | shuttingDown
  /-- A rotation waits for the server's lock. -/
  | closeWaiting (serverId : String) (lock : Nat)
  /-- A rotation closes the current socket. -/
  | closing (socket : Socket) (lock : Nat)
  /-- A configuration has not yet asked for the server's lock. -/
  | pushing (serverId : String)
  /-- A configuration waits for the server's lock. -/
  | pushWaiting (serverId : String) (lock : Nat)
  /-- A configuration is being sent. -/
  | sending (serverId : String) (socket : Socket) (messageId : String)
    (previous : Delivery) (lock : Nat)

inductive AwaitOutcome
  | completed
  | failed
  | cancelled
deriving DecidableEq

structure BridgeWorld where
  registry : Registry
  tasks : Dict Nat Task

def BridgeWorld.initial : BridgeWorld := ⟨.new, ∅⟩

inductive BridgeEvent
  | register (task : Nat) (socket : Socket) (hello : Document)
  | dispatch (task : Nat) (socket : Socket)
  | disconnect (socket : Socket) (now : Timestamp)
  | shutdown (task : Nat)
  | closeServerConnection (task : Nat) (serverId : String)
  | pushConfiguration (tasks : List Nat) (serverId : Option String)
  | proceed (task : Nat) (messageId : String) (now : Timestamp)
  | resume (task : Nat) (outcome : AwaitOutcome) (now : Timestamp)
  | configAck (socket : Socket) (payload : Document) (now : Timestamp)
  | pluginResponse (serverId : String) (response : Document) (now : Timestamp)
  | httpEvent (payload : Document) (now : Timestamp)
  | websocketEvent (socket : Socket) (payload : Document) (now : Timestamp)

namespace BridgeWorld

def finish (world : BridgeWorld) (task : Nat) (registry : Registry) : BridgeWorld :=
  ⟨registry, world.tasks.erase task⟩

def await (world : BridgeWorld) (task : Nat) (registry : Registry) (waits : Task)
    : BridgeWorld :=
  ⟨registry, world.tasks.set task waits⟩

end BridgeWorld

section Steps

variable (rules : BridgeRules)

/-- A task that waits for a lock, or crosses locks, goes on when the lock is free. -/
def Task.proceed (world : BridgeWorld) (id : Nat) (messageId : String) (now : Timestamp)
    : Task → Option BridgeWorld
  | .registering socket hello lock =>
      if lock ∈ world.registry.locked then none
      else if world.registry.accepting then
        let (serverId, serverName) := serverIdentity rules hello
        let (registry, replaced) :=
          world.registry.registerUnlocked rules socket hello serverId serverName now
        if replaced.isSome then
          some (world.await id (registry.acquire lock) (.replacing socket lock))
        else some (world.finish id registry)
      else some (world.finish id world.registry)
  | .dispatchWaiting socket ownership lock =>
      if lock ∈ world.registry.locked then none
      else
        let current :=
          (world.registry.servers.get? ownership.1).any (fun state =>
            state.websocket = some socket && state.generation = ownership.2)
          && world.registry.websocketServers.get? socket = some ownership
        some
          (world.await id (world.registry.acquire lock) (.dispatching socket current (some lock)))
  | .crossing (lock :: locks) =>
      if lock ∈ world.registry.locked then none
      else some (world.await id world.registry (.crossing locks))
  | .crossing [] =>
      some
        (world.await id
          { world.registry with servers := ∅, websocketServers := ∅, dispatchLocks := ∅ }
          .shuttingDown)
  | .closeWaiting serverId lock =>
      if lock ∈ world.registry.locked then none
      else
        match (world.registry.servers.get? serverId).bind (·.websocket) with
        | some socket =>
            if world.registry.accepting then
              some (world.await id (world.registry.acquire lock) (.closing socket lock))
            else some (world.finish id world.registry)
        | none => some (world.finish id world.registry)
  | .pushing serverId =>
      let (registry, lock) := world.registry.dispatchLock serverId
      some (world.await id registry (.pushWaiting serverId lock))
  | .pushWaiting serverId lock =>
      if lock ∈ world.registry.locked then none
      else
        match world.registry.servers.get? serverId with
        | none => some (world.finish id world.registry)
        | some state =>
            match world.registry.accepting, state.websocket with
            | true, some socket =>
                let sent := state.sending messageId now
                let registry :=
                  { world.registry with servers := world.registry.servers.set serverId sent }
                some
                  (world.await id (registry.acquire lock)
                    (.sending serverId socket messageId state.delivery lock))
            | _, _ => some (world.finish id world.registry)
  | _ => none

/-- What a task waits for ends, or the task is cancelled while it waits for a lock. -/
def Task.resume (world : BridgeWorld) (id : Nat) (outcome : AwaitOutcome) (now : Timestamp)
    : Task → Option BridgeWorld
  | .replacing socket lock =>
      let registry :=
        if outcome = .cancelled ∨ world.registry.accepting then world.registry
        else world.registry.detachWebsocket socket now
      some (world.finish id (registry.release lock))
  | .dispatching _ _ lock =>
      some (world.finish id (lock.elim world.registry world.registry.release))
  | .shuttingDown =>
      some
        (world.finish id
          { world.registry with
            shutdownComplete := world.registry.shutdownComplete || outcome ≠ .cancelled })
  | .closing socket lock =>
      some (world.finish id ((world.registry.detachWebsocket socket now).release lock))
  | .sending serverId socket messageId previous lock =>
      match outcome with
      | .completed => some (world.finish id (world.registry.release lock))
      | .failed =>
          let (registry, ackReceived) :=
            world.registry.rollbackConfigurationSend serverId messageId previous
          let registry := if ackReceived then registry else registry.detachWebsocket socket now
          some (world.finish id (registry.release lock))
      | .cancelled =>
          let registry := (world.registry.rollbackConfigurationSend serverId messageId previous).1
          some (world.finish id (registry.release lock))
  | _ => if outcome = .cancelled then some (world.finish id world.registry) else none

def bridgeStep (world : BridgeWorld) : BridgeEvent → Option BridgeWorld
  | .register id socket hello =>
      if (world.tasks.get? id).isSome then none
      else if world.registry.accepting then
        let (registry, lock) := world.registry.dispatchLock (serverIdentity rules hello).1
        some (world.await id registry (.registering socket hello lock))
      else some world
  | .dispatch id socket =>
      if (world.tasks.get? id).isSome then none
      else
        match world.registry.accepting, world.registry.websocketServers.get? socket with
        | true, some ownership =>
            let (registry, lock) := world.registry.dispatchLock ownership.1
            some (world.await id registry (.dispatchWaiting socket ownership lock))
        | _, _ => some (world.await id world.registry (.dispatching socket false none))
  | .disconnect socket now =>
      some { world with registry := world.registry.detachWebsocket socket now }
  | .shutdown id =>
      if (world.tasks.get? id).isSome then none
      else
        some
          (world.await id { world.registry with shutdownStarted := true, accepting := false }
            (.crossing world.registry.dispatchLocks.values))
  | .closeServerConnection id serverId =>
      if (world.tasks.get? id).isSome then none
      else if world.registry.accepting then
        let (registry, lock) := world.registry.dispatchLock (strip serverId)
        some (world.await id registry (.closeWaiting (strip serverId) lock))
      else some world
  | .pushConfiguration ids serverId =>
      if ids.Nodup ∧ ids.all (fun id => (world.tasks.get? id).isNone) then
        let targets := world.registry.targetStates serverId
        let tasks :=
          (ids.zip targets).foldl (fun tasks (id, target) => tasks.set id (.pushing target))
            world.tasks
        if ids.length = targets.length then some { world with tasks } else none
      else none
  | .proceed id messageId now =>
      (world.tasks.get? id).bind (Task.proceed rules world id messageId now)
  | .resume id outcome now => (world.tasks.get? id).bind (Task.resume world id outcome now)
  | .configAck socket payload now =>
      some { world with registry := world.registry.recordConfigAck rules socket payload now }
  | .pluginResponse serverId response now =>
      some
        { world with
          registry :=
            world.registry.recordPluginConfigurationResponse rules serverId response now }
  | .httpEvent payload now =>
      some { world with registry := world.registry.recordHttpEvent rules payload now }
  | .websocketEvent socket payload now =>
      some { world with registry := world.registry.recordWebsocketEvent rules socket payload now }

end Steps

end OctoHubs.BridgeTransports
