import OctoHubs.BridgeTransports.TransportRegistry

/-! The sockets of the servers, which agree with the generations that they were registered for, and
what the operations of the registry do to them.
-/

namespace OctoHubs.BridgeTransports

open OctoHubs.Library

-- Connections

namespace Registry

def connectionOf (registry : Registry) (serverId : String) : Connection :=
  ((registry.servers.get? serverId).map ServerState.connection).getD ⟨false, 0, none⟩

/-- A server is connected while it has a socket, which was registered for its generation. -/
structure Consistent (registry : Registry) : Prop where
  connected
    : ∀ serverId,
        (registry.connectionOf serverId).connected
        = (registry.connectionOf serverId).websocket.isSome
  owned
    : ∀ serverId socket,
        (registry.connectionOf serverId).websocket = some socket
        → registry.websocketServers.get? socket
          = some (serverId, (registry.connectionOf serverId).generation)
  named
    : ∀ socket serverId generation,
        registry.websocketServers.get? socket = some (serverId, generation) → serverId ≠ ""

/-- No socket is registered. -/
structure Unregistered (registry : Registry) : Prop where
  servers : ∀ serverId, (registry.connectionOf serverId).websocket = none
  sockets : ∀ socket, registry.websocketServers.get? socket = none

theorem connectionOf_congr {registry next : Registry} (same : next.servers = registry.servers)
    (serverId : String)
    : next.connectionOf serverId = registry.connectionOf serverId := by
  rw [connectionOf, same, connectionOf]

theorem connectionOf_getD (registry : Registry) (serverId : String)
    : ((registry.servers.get? serverId).getD { serverId }).connection
      = registry.connectionOf serverId := by
  rw [connectionOf]
  cases registry.servers.get? serverId <;> rfl

theorem connectionOf_of_get? {registry : Registry} {serverId : String} {state : ServerState}
    (found : registry.servers.get? serverId = some state)
    : registry.connectionOf serverId = state.connection := by
  rw [connectionOf, found]
  rfl

theorem connectionOf_set {registry next : Registry} {serverId : String} {state : ServerState}
    (changed : next.servers = registry.servers.set serverId state) (other : String)
    : next.connectionOf other
      = if other = serverId then state.connection else registry.connectionOf other := by
  rw [connectionOf, changed, Dict.get?_set]
  split <;> rfl

theorem currentServer?_eq_some_iff {registry : Registry} {socket : Socket} {serverId : String}
    {state : ServerState}
    : registry.currentServer? socket = some (serverId, state)
      ↔ registry.servers.get? serverId = some state
        ∧ state.websocket = some socket
        ∧ registry.websocketServers.get? socket = some (serverId, state.generation) := by
  unfold currentServer?
  cases owned : registry.websocketServers.get? socket with
  | none =>
      exact ⟨fun none_ => absurd none_.symm (Option.some_ne_none _),
        fun holds => absurd holds.2.2.symm (Option.some_ne_none _)⟩
  | some ownership =>
      obtain ⟨owner, generation⟩ := ownership
      dsimp only
      cases found : registry.servers.get? owner with
      | none =>
          refine ⟨fun none_ => absurd none_.symm (Option.some_ne_none _), ?_⟩
          rintro ⟨present, _, same⟩
          rw [(Prod.mk.inj (Option.some.inj same)).1, present] at found
          exact absurd found (Option.some_ne_none _)
      | some held =>
          dsimp only
          split
          · next current =>
              obtain ⟨mine, rfl⟩ := current
              constructor
              · intro same
                obtain ⟨rfl, rfl⟩ := Prod.mk.inj (Option.some.inj same)
                exact ⟨found, mine, rfl⟩
              · rintro ⟨present, _, same⟩
                obtain ⟨rfl, -⟩ := Prod.mk.inj (Option.some.inj same)
                obtain rfl := Option.some.inj (found.symm.trans present)
                rfl
          · next stale =>
              refine ⟨fun none_ => absurd none_.symm (Option.some_ne_none _), ?_⟩
              rintro ⟨present, mine, same⟩
              obtain ⟨rfl, rfl⟩ := Prod.mk.inj (Option.some.inj same)
              obtain rfl := Option.some.inj (found.symm.trans present)
              exact absurd ⟨mine, rfl⟩ stale

theorem websocketIsCurrent_iff {registry : Registry} {socket : Socket}
    : registry.websocketIsCurrent socket = true
      ↔ ∃ serverId,
          (registry.connectionOf serverId).websocket = some socket
          ∧ registry.websocketServers.get? socket
            = some (serverId, (registry.connectionOf serverId).generation) := by
  rw [websocketIsCurrent, Option.isSome_iff_exists]
  constructor
  · rintro ⟨⟨serverId, state⟩, current⟩
    obtain ⟨found, mine, owned⟩ := currentServer?_eq_some_iff.mp current
    refine ⟨serverId, ?_⟩
    rw [connectionOf_of_get? found]
    exact ⟨mine, owned⟩
  · rintro ⟨serverId, mine, owned⟩
    cases found : registry.servers.get? serverId with
    | none =>
        rw [connectionOf, found] at mine
        cases mine
    | some state =>
        rw [connectionOf_of_get? found] at mine owned
        exact ⟨(serverId, state), currentServer?_eq_some_iff.mpr ⟨found, mine, owned⟩⟩

theorem websocketIsCurrent_congr {registry next : Registry}
    (connections : ∀ serverId, next.connectionOf serverId = registry.connectionOf serverId)
    (sockets : next.websocketServers = registry.websocketServers) (socket : Socket)
    : next.websocketIsCurrent socket = registry.websocketIsCurrent socket := by
  rw [Bool.eq_iff_iff, websocketIsCurrent_iff, websocketIsCurrent_iff, sockets]
  simp only [connections]

theorem Consistent.congr {registry next : Registry} (consistent : registry.Consistent)
    (connections : ∀ serverId, next.connectionOf serverId = registry.connectionOf serverId)
    (sockets : next.websocketServers = registry.websocketServers)
    : next.Consistent where
  connected serverId := by
    rw [connections]
    exact consistent.connected serverId
  owned serverId socket := by
    rw [connections, sockets]
    exact consistent.owned serverId socket
  named := sockets ▸ consistent.named

theorem Unregistered.congr {registry next : Registry} (unregistered : registry.Unregistered)
    (connections : ∀ serverId, next.connectionOf serverId = registry.connectionOf serverId)
    (sockets : next.websocketServers = registry.websocketServers)
    : next.Unregistered where
  servers serverId := by
    rw [connections]
    exact unregistered.servers serverId
  sockets := sockets ▸ unregistered.sockets

theorem connectionOf_detachWebsocket (registry : Registry) (socket : Socket) (now : Timestamp)
    (serverId : String)
    : ((registry.detachWebsocket socket now).connectionOf serverId
          = registry.connectionOf serverId
        ∧ ∀ state, registry.currentServer? socket ≠ some (serverId, state))
      ∨ ((registry.detachWebsocket socket now).connectionOf serverId
          = ⟨false, (registry.connectionOf serverId).generation, none⟩
        ∧ (registry.connectionOf serverId).websocket = some socket) := by
  cases current : registry.currentServer? socket with
  | none =>
      left
      refine ⟨connectionOf_congr ?_ serverId, fun _ => (Option.some_ne_none _).symm⟩
      rw [detachWebsocket, current]
  | some held =>
      obtain ⟨owner, state⟩ := held
      obtain ⟨found, mine, -⟩ := currentServer?_eq_some_iff.mp current
      have changed : (registry.detachWebsocket socket now).servers
          = registry.servers.set owner (state.detached now) := by
        rw [detachWebsocket, current]
      rw [connectionOf_set changed]
      by_cases same : serverId = owner
      · right
        subst same
        rw [if_pos rfl, connectionOf_of_get? found]
        exact ⟨rfl, mine⟩
      · left
        rw [if_neg same]
        exact ⟨rfl, fun _ named => same (Prod.mk.inj (Option.some.inj named)).1.symm⟩

theorem websocketServers_detachWebsocket (registry : Registry) (socket : Socket)
    (now : Timestamp)
    : (registry.detachWebsocket socket now).websocketServers
      = registry.websocketServers.erase socket := by
  unfold detachWebsocket
  dsimp only
  split <;> rfl

theorem Consistent.detached_ne {registry : Registry} (consistent : registry.Consistent)
    (socket : Socket) (now : Timestamp) (serverId : String)
    : ((registry.detachWebsocket socket now).connectionOf serverId).websocket ≠ some socket := by
  rcases registry.connectionOf_detachWebsocket socket now serverId
    with ⟨same, elsewhere⟩ | ⟨closed, _⟩
  · rw [same]
    intro mine
    have owned := consistent.owned serverId socket mine
    cases found : registry.servers.get? serverId with
    | none =>
        rw [connectionOf, found] at mine
        cases mine
    | some state =>
        rw [connectionOf_of_get? found] at mine owned
        exact elsewhere state (currentServer?_eq_some_iff.mpr ⟨found, mine, owned⟩)
  · rw [closed]
    nofun

theorem Consistent.detach {registry : Registry} (consistent : registry.Consistent)
    (socket : Socket) (now : Timestamp)
    : (registry.detachWebsocket socket now).Consistent where
  connected serverId := by
    rcases registry.connectionOf_detachWebsocket socket now serverId
      with ⟨same, _⟩ | ⟨closed, _⟩
    · rw [same]
      exact consistent.connected serverId
    · rw [closed]
      rfl
  owned serverId other mine := by
    have apart : other ≠ socket := by
      rintro rfl
      exact consistent.detached_ne other now serverId mine
    rw [websocketServers_detachWebsocket, Dict.get?_erase, if_neg apart]
    rcases registry.connectionOf_detachWebsocket socket now serverId
      with ⟨same, _⟩ | ⟨closed, _⟩
    · rw [same] at mine ⊢
      exact consistent.owned serverId other mine
    · rw [closed] at mine
      cases mine
  named other serverId generation found := by
    rw [websocketServers_detachWebsocket, Dict.get?_erase] at found
    split at found
    · cases found
    · exact consistent.named other serverId generation found

theorem Unregistered.detach {registry : Registry} (unregistered : registry.Unregistered)
    (socket : Socket) (now : Timestamp)
    : (registry.detachWebsocket socket now).Unregistered where
  servers serverId := by
    rcases registry.connectionOf_detachWebsocket socket now serverId
      with ⟨same, _⟩ | ⟨closed, _⟩
    · rw [same]
      exact unregistered.servers serverId
    · rw [closed]
  sockets other := by
    rw [websocketServers_detachWebsocket, Dict.get?_erase]
    split
    · rfl
    · exact unregistered.sockets other

theorem Consistent.leaveOther {registry : Registry} (consistent : registry.Consistent)
    (socket : Socket) (serverId : String) (now : Timestamp)
    : (registry.leaveOther socket serverId now).Consistent := by
  unfold Registry.leaveOther
  dsimp only
  split
  · exact consistent.detach socket now
  · exact consistent

theorem Consistent.leaveOther_ne {registry : Registry} (consistent : registry.Consistent)
    (socket : Socket) {serverId other : String} (apart : other ≠ serverId) (now : Timestamp)
    : ((registry.leaveOther socket serverId now).connectionOf other).websocket
      ≠ some socket := by
  unfold Registry.leaveOther
  dsimp only
  split
  · exact consistent.detached_ne socket now other
  · next here =>
      intro mine
      have owned := consistent.owned other socket mine
      apply here
      rw [owned, Option.any_some, Bool.and_eq_true, decide_eq_true_eq, decide_eq_true_eq]
      exact ⟨consistent.named socket other _ owned, apart⟩

theorem connectionOf_registerUnlocked (rules : BridgeRules) (registry : Registry)
    (socket : Socket) (hello : Document) (serverId serverName : String) (now : Timestamp)
    (other : String)
    : (registry.registerUnlocked rules socket hello serverId serverName now).1.connectionOf other
      = if other = serverId then
          ⟨true,
            ((registry.leaveOther socket serverId now).connectionOf serverId).generation + 1,
            some socket⟩
        else (registry.leaveOther socket serverId now).connectionOf other := by
  rw [connectionOf_set rfl, connection_registered,
    ← connectionOf_getD (registry.leaveOther socket serverId now) serverId]
  rfl

theorem websocketServers_registerUnlocked (rules : BridgeRules) (registry : Registry)
    (socket : Socket) (hello : Document) (serverId serverName : String) (now : Timestamp)
    : (registry.registerUnlocked rules socket hello serverId serverName now).1.websocketServers
      = (registry.leaveOther socket serverId now).websocketServers.set socket
          (serverId,
            ((registry.leaveOther socket serverId now).connectionOf serverId).generation + 1) := by
  rw [← connectionOf_getD]
  rfl

theorem Consistent.register {registry : Registry} (consistent : registry.Consistent)
    (rules : BridgeRules) (socket : Socket) (hello : Document) {serverId : String}
    (named : serverId ≠ "") (serverName : String) (now : Timestamp)
    : (registry.registerUnlocked rules socket hello serverId serverName now).1.Consistent := by
  have left := consistent.leaveOther socket serverId now
  constructor
  · intro other
    rw [connectionOf_registerUnlocked]
    split
    · rfl
    · exact left.connected other
  · intro other held mine
    rw [websocketServers_registerUnlocked, Dict.get?_set]
    rw [connectionOf_registerUnlocked] at mine ⊢
    split at mine
    · next same =>
        obtain rfl := Option.some.inj mine
        rw [if_pos same, if_pos rfl, same]
    · next apart =>
        rw [if_neg apart]
        have different : held ≠ socket := by
          rintro rfl
          exact consistent.leaveOther_ne held apart now mine
        rw [if_neg different]
        exact left.owned other held mine
  · intro held other generation found
    rw [websocketServers_registerUnlocked, Dict.get?_set] at found
    split at found
    · obtain ⟨rfl, -⟩ := Prod.mk.inj (Option.some.inj found)
      exact named
    · exact left.named held other generation found

-- What an operation does

/-- What a step does to the sockets of the registry. -/
inductive Effect (rules : BridgeRules) (registry next : Registry) : Prop
  | kept
    (connections : ∀ serverId, next.connectionOf serverId = registry.connectionOf serverId)
    (sockets : next.websocketServers = registry.websocketServers)
  | detached {middle : Registry} (socket : Socket) (now : Timestamp)
    (connections : ∀ serverId, middle.connectionOf serverId = registry.connectionOf serverId)
    (sockets : middle.websocketServers = registry.websocketServers)
    (servers : next.servers = (middle.detachWebsocket socket now).servers)
    (left : next.websocketServers = (middle.detachWebsocket socket now).websocketServers)
  | registered {serverId : String} (socket : Socket) (hello : Document) (serverName : String)
    (now : Timestamp) (open_ : registry.accepting = true) (named : serverId ≠ "")
    (servers
      : next.servers
        = (registry.registerUnlocked rules socket hello serverId serverName now).1.servers)
    (sockets
      : next.websocketServers
        = (registry.registerUnlocked rules socket hello serverId serverName
            now).1.websocketServers)

theorem Effect.same {rules : BridgeRules} {registry next : Registry}
    (servers : next.servers = registry.servers)
    (sockets : next.websocketServers = registry.websocketServers)
    : Effect rules registry next :=
  .kept (connectionOf_congr servers) sockets

theorem Effect.detach {rules : BridgeRules} {registry next : Registry} (socket : Socket)
    (now : Timestamp) (servers : next.servers = (registry.detachWebsocket socket now).servers)
    (left : next.websocketServers = (registry.detachWebsocket socket now).websocketServers)
    : Effect rules registry next :=
  .detached socket now (fun _ => rfl) rfl servers left

theorem Consistent.effect {rules : BridgeRules} {registry next : Registry}
    (consistent : registry.Consistent) (effect : Effect rules registry next)
    : next.Consistent := by
  cases effect with
  | kept connections sockets => exact consistent.congr connections sockets
  | detached socket now connections sockets servers left =>
      exact ((consistent.congr connections sockets).detach socket now).congr
        (connectionOf_congr servers) left
  | registered socket hello serverName now open_ named servers sockets =>
      exact (consistent.register rules socket hello named serverName now).congr
        (connectionOf_congr servers) sockets

theorem Unregistered.effect {rules : BridgeRules} {registry next : Registry}
    (unregistered : registry.Unregistered) (closed : registry.accepting = false)
    (effect : Effect rules registry next)
    : next.Unregistered := by
  cases effect with
  | kept connections sockets => exact unregistered.congr connections sockets
  | detached socket now connections sockets servers left =>
      exact ((unregistered.congr connections sockets).detach socket now).congr
        (connectionOf_congr servers) left
  | registered socket hello serverName now open_ =>
      rw [closed] at open_
      cases open_

-- Recordings

theorem connectionOf_set_of_eq {registry next : Registry} {serverId : String}
    {state : ServerState} (changed : next.servers = registry.servers.set serverId state)
    (same : state.connection = registry.connectionOf serverId) (other : String)
    : next.connectionOf other = registry.connectionOf other := by
  rw [connectionOf_set changed]
  split
  · next here => rw [here, same]
  · rfl

section Recordings

variable {rules : BridgeRules}

theorem Effect.recordConfigAck (registry : Registry) (socket : Socket) (payload : Document)
    (now : Timestamp)
    : Effect rules registry (registry.recordConfigAck rules socket payload now) := by
  unfold Registry.recordConfigAck
  split
  · split
    · exact .same rfl rfl
    · next current =>
        dsimp only
        split
        · exact .same rfl rfl
        · have found := (currentServer?_eq_some_iff.mp current).1
          exact .kept (connectionOf_set_of_eq rfl (connectionOf_of_get? found).symm) rfl
  · exact .same rfl rfl

theorem Effect.recordPluginConfigurationResponse (registry : Registry) (serverId : String)
    (response : Document) (now : Timestamp)
    : Effect rules registry
        (registry.recordPluginConfigurationResponse rules serverId response now) := by
  unfold Registry.recordPluginConfigurationResponse
  split
  · refine .kept (connectionOf_set_of_eq rfl ?_) rfl
    rw [connection_pluginResponse, connectionOf_getD]
  · exact .same rfl rfl

theorem connectionOf_recordHttpItem (registry : Registry) (now : Timestamp) (item : Document)
    (serverId : String)
    : ({ registry with
          servers := recordHttpItem rules now registry.servers item } : Registry).connectionOf
        serverId
      = registry.connectionOf serverId := by
  refine connectionOf_set_of_eq rfl ?_ serverId
  rw [connection_httpEvent, connectionOf_getD]

theorem connectionOf_foldl_recordHttpItem (items : List Document) (registry : Registry)
    (now : Timestamp) (serverId : String)
    : ({ registry with
          servers :=
            items.foldl (recordHttpItem rules now) registry.servers } : Registry).connectionOf
        serverId
      = registry.connectionOf serverId := by
  induction items generalizing registry with
  | nil => rfl
  | cons item items ih =>
      let next : Registry :=
        { registry with servers := recordHttpItem rules now registry.servers item }
      exact (ih next).trans (connectionOf_recordHttpItem registry now item serverId)

theorem Effect.recordHttpEvent (registry : Registry) (payload : Document) (now : Timestamp)
    : Effect rules registry (registry.recordHttpEvent rules payload now) := by
  unfold Registry.recordHttpEvent
  split
  · exact .kept (connectionOf_foldl_recordHttpItem _ registry now) rfl
  · exact .same rfl rfl

theorem connection_foldl_websocketEvent (items : List Document) (state : ServerState)
    (socket : Socket) (now : Timestamp)
    (connected : state.connection = ⟨true, state.generation, some socket⟩)
    : (items.foldl (fun state item => state.websocketEvent rules socket item now)
        state).connection
      = state.connection := by
  induction items generalizing state with
  | nil => rfl
  | cons item items ih =>
      have after : (state.websocketEvent rules socket item now).connection = state.connection :=
        (connection_websocketEvent state socket item now).trans connected.symm
      have generation : (state.websocketEvent rules socket item now).generation
          = state.generation :=
        congrArg Connection.generation after
      refine (ih _ ?_).trans after
      rw [after, generation, connected]

theorem Effect.recordWebsocketEvent {registry : Registry} (consistent : registry.Consistent)
    (socket : Socket) (payload : Document) (now : Timestamp)
    : Effect rules registry (registry.recordWebsocketEvent rules socket payload now) := by
  unfold Registry.recordWebsocketEvent
  split
  · split
    · exact .same rfl rfl
    · next serverId state current =>
        dsimp only
        split
        · exact .same rfl rfl
        · obtain ⟨found, mine, -⟩ := currentServer?_eq_some_iff.mp current
          have held := connectionOf_of_get? found
          have connected : state.connected = true := by
            have agrees := consistent.connected serverId
            rw [held] at agrees
            exact agrees.trans (congrArg Option.isSome mine)
          refine .kept (connectionOf_set_of_eq rfl ?_) rfl
          rw [held, connection_foldl_websocketEvent]
          rw [ServerState.connection, connected, mine]
  · exact .same rfl rfl

theorem connectionOf_rollbackConfigurationSend (registry : Registry)
    (serverId messageId : String) (previous : Delivery) (other : String)
    : (registry.rollbackConfigurationSend serverId messageId previous).1.connectionOf other
      = registry.connectionOf other := by
  unfold rollbackConfigurationSend
  split
  · rfl
  · next found =>
      dsimp only
      split
      · rfl
      · refine connectionOf_set_of_eq rfl ?_ other
        rw [connection_restored, connectionOf_of_get? found]

theorem websocketServers_rollbackConfigurationSend (registry : Registry)
    (serverId messageId : String) (previous : Delivery)
    : (registry.rollbackConfigurationSend serverId messageId previous).1.websocketServers
      = registry.websocketServers := by
  unfold rollbackConfigurationSend
  split
  · rfl
  · dsimp only
    split <;> rfl

end Recordings

end Registry

end OctoHubs.BridgeTransports
