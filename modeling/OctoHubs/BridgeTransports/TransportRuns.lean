import OctoHubs.BridgeTransports.TransportConnections

/-! In every run the sockets of the servers agree with the generations that they were registered
for, a socket that is not current changes no server, and no socket comes back after a shutdown.
-/

namespace OctoHubs.BridgeTransports

open OctoHubs.Library

-- What operations leave as it is

namespace Registry

/-- How far the shutdown has come. -/
def flags (registry : Registry) : Bool × Bool := (registry.accepting, registry.shutdownComplete)

theorem flags_dispatchLock (registry : Registry) (serverId : String)
    : (registry.dispatchLock serverId).1.flags = registry.flags := by
  unfold dispatchLock
  split <;> rfl

theorem Effect.dispatchLock {rules : BridgeRules} (registry : Registry) (serverId : String)
    : Effect rules registry (registry.dispatchLock serverId).1 := by
  unfold Registry.dispatchLock
  split <;> exact .same rfl rfl

theorem flags_detachWebsocket (registry : Registry) (socket : Socket) (now : Timestamp)
    : (registry.detachWebsocket socket now).flags = registry.flags := by
  unfold detachWebsocket
  dsimp only
  split <;> rfl

theorem flags_leaveOther (registry : Registry) (socket : Socket) (serverId : String)
    (now : Timestamp)
    : (registry.leaveOther socket serverId now).flags = registry.flags := by
  unfold leaveOther
  dsimp only
  split
  · exact registry.flags_detachWebsocket socket now
  · rfl

section Operations

variable (rules : BridgeRules)

theorem flags_registerUnlocked (registry : Registry) (socket : Socket) (hello : Document)
    (serverId serverName : String) (now : Timestamp)
    : (registry.registerUnlocked rules socket hello serverId serverName now).1.flags
      = registry.flags :=
  registry.flags_leaveOther socket serverId now

theorem flags_rollbackConfigurationSend (registry : Registry) (serverId messageId : String)
    (previous : Delivery)
    : (registry.rollbackConfigurationSend serverId messageId previous).1.flags
      = registry.flags := by
  unfold rollbackConfigurationSend
  split
  · rfl
  · dsimp only
    split <;> rfl

theorem flags_recordConfigAck (registry : Registry) (socket : Socket) (payload : Document)
    (now : Timestamp)
    : (registry.recordConfigAck rules socket payload now).flags = registry.flags := by
  unfold recordConfigAck
  split
  · split
    · rfl
    · dsimp only
      split <;> rfl
  · rfl

theorem flags_recordPluginConfigurationResponse (registry : Registry) (serverId : String)
    (response : Document) (now : Timestamp)
    : (registry.recordPluginConfigurationResponse rules serverId response now).flags
      = registry.flags := by
  unfold recordPluginConfigurationResponse
  split <;> rfl

theorem flags_recordHttpEvent (registry : Registry) (payload : Document) (now : Timestamp)
    : (registry.recordHttpEvent rules payload now).flags = registry.flags := by
  unfold recordHttpEvent
  split <;> rfl

theorem flags_recordWebsocketEvent (registry : Registry) (socket : Socket) (payload : Document)
    (now : Timestamp)
    : (registry.recordWebsocketEvent rules socket payload now).flags = registry.flags := by
  unfold recordWebsocketEvent
  split
  · split <;> rfl
  · rfl

end Operations

end Registry

-- Steps

/-- A step of no shutdown gets to such a task: effects run for a socket that is current then. -/
def Task.Entered (registry : Registry) : Task → Prop
  | .crossing _ => False
  | .shuttingDown => False
  | .dispatching socket current _ => current = true → registry.websocketIsCurrent socket = true
  | _ => True

/-- What a step does to the registry and to the tasks. -/
inductive Moved (rules : BridgeRules) (world next : BridgeWorld) : Prop
  | ordinary (effect : Registry.Effect rules world.registry next.registry)
    (flags : next.registry.flags = world.registry.flags)
    (tasks
      : ∀ {id task},
          next.tasks.get? id = some task
          → world.tasks.get? id = some task ∨ task.Entered next.registry)
  | crossing (servers : next.registry.servers = world.registry.servers)
    (sockets : next.registry.websocketServers = world.registry.websocketServers)
    (complete : next.registry.shutdownComplete = world.registry.shutdownComplete)
    (accepting
      : next.registry.accepting = false
        ∨ next.registry.accepting = world.registry.accepting
          ∧ ∃ id locks, world.tasks.get? id = some (.crossing locks))
    (tasks
      : ∀ {id task},
          next.tasks.get? id = some task
          → world.tasks.get? id = some task ∨ ∃ locks, task = .crossing locks)
  | emptied {id : Nat} {locks : List Nat}
    (waits : world.tasks.get? id = some (.crossing locks))
    (servers : next.registry.servers = ∅) (sockets : next.registry.websocketServers = ∅)
    (flags : next.registry.flags = world.registry.flags)
    (tasks
      : ∀ {id task},
          next.tasks.get? id = some task
          → world.tasks.get? id = some task ∨ task = .shuttingDown)
  | completed {id : Nat} (waits : world.tasks.get? id = some .shuttingDown)
    (servers : next.registry.servers = world.registry.servers)
    (sockets : next.registry.websocketServers = world.registry.websocketServers)
    (accepting : next.registry.accepting = world.registry.accepting)
    (complete
      : world.registry.shutdownComplete = true → next.registry.shutdownComplete = true)
    (tasks
      : ∀ {id task}, next.tasks.get? id = some task → world.tasks.get? id = some task)

section Moves

variable {rules : BridgeRules} {world : BridgeWorld}

theorem get?_of_finish {registry : Registry} {id other : Nat} {task : Task}
    (found : (world.finish id registry).tasks.get? other = some task)
    : world.tasks.get? other = some task := by
  rw [BridgeWorld.finish, Dict.get?_erase] at found
  split at found
  · cases found
  · exact found

theorem get?_of_await {registry : Registry} {id other : Nat} {waits task : Task}
    (found : (world.await id registry waits).tasks.get? other = some task)
    : world.tasks.get? other = some task ∨ task = waits := by
  rw [BridgeWorld.await, Dict.get?_set] at found
  split at found
  · exact .inr (Option.some.inj found).symm
  · exact .inl found

theorem websocketIsCurrent_of_ownership {registry : Registry} {socket : Socket}
    {ownership : String × Nat}
    (current
      : ((registry.servers.get? ownership.1).any (fun state =>
            state.websocket = some socket && state.generation = ownership.2)
          && registry.websocketServers.get? socket = some ownership)
        = true)
    : registry.websocketIsCurrent socket = true := by
  rw [Bool.and_eq_true, Option.any_eq_true] at current
  obtain ⟨⟨state, found, holds⟩, owned⟩ := current
  rw [Bool.and_eq_true, decide_eq_true_eq, decide_eq_true_eq] at holds
  have same : ownership = (ownership.1, state.generation) := Prod.ext rfl holds.2.symm
  rw [decide_eq_true_eq, same] at owned
  rw [Registry.websocketIsCurrent, Registry.currentServer?_eq_some_iff.mpr ⟨found, holds.1, owned⟩]
  rfl

theorem Moved.finish {registry : Registry} (id : Nat)
    (effect : Registry.Effect rules world.registry registry)
    (flags : registry.flags = world.registry.flags)
    : Moved rules world (world.finish id registry) :=
  .ordinary effect flags (fun found => .inl (get?_of_finish found))

theorem Moved.await {registry : Registry} {waits : Task} (id : Nat)
    (effect : Registry.Effect rules world.registry registry)
    (flags : registry.flags = world.registry.flags) (entered : waits.Entered registry)
    : Moved rules world (world.await id registry waits) := by
  refine .ordinary effect flags (fun found => (get?_of_await found).imp_right ?_)
  rintro rfl
  exact entered

theorem Moved.record {registry : Registry}
    (effect : Registry.Effect rules world.registry registry)
    (flags : registry.flags = world.registry.flags)
    : Moved rules world { world with registry } :=
  .ordinary effect flags .inl

theorem Moved.unchanged : Moved rules world world :=
  .ordinary (.same rfl rfl) rfl .inl

theorem Task.proceed_moved {id : Nat} {messageId : String} {now : Timestamp} {task : Task}
    {next : BridgeWorld} (waits : world.tasks.get? id = some task)
    (taken : task.proceed rules world id messageId now = some next)
    : Moved rules world next := by
  cases task with
  | registering socket hello lock =>
      simp only [Task.proceed] at taken
      split at taken
      · cases taken
      · split at taken
        · next open_ =>
            have flags := world.registry.flags_registerUnlocked rules socket hello
              (serverIdentity rules hello).1 (serverIdentity rules hello).2 now
            split at taken <;> cases taken
            · exact .await id
                (.registered socket hello _ now open_ (serverIdentity_ne hello) rfl rfl)
                flags trivial
            · exact .finish id
                (.registered socket hello _ now open_ (serverIdentity_ne hello) rfl rfl) flags
        · cases taken
          exact .finish id (.same rfl rfl) rfl
  | dispatchWaiting socket ownership lock =>
      simp only [Task.proceed] at taken
      split at taken
      · cases taken
      · cases taken
        refine .await id (.same rfl rfl) rfl (fun current => ?_)
        exact websocketIsCurrent_of_ownership current
  | crossing locks =>
      cases locks with
      | cons lock locks =>
          simp only [Task.proceed] at taken
          split at taken
          · cases taken
          · cases taken
            exact .crossing rfl rfl rfl (.inr ⟨rfl, id, _, waits⟩)
              (fun found => (get?_of_await found).imp_right (fun same => ⟨locks, same⟩))
      | nil =>
          cases taken
          exact .emptied waits rfl rfl rfl get?_of_await
  | closeWaiting serverId lock =>
      simp only [Task.proceed] at taken
      split at taken
      · cases taken
      · split at taken
        · split at taken
          · cases taken
            exact .await id (.same rfl rfl) rfl trivial
          · cases taken
            exact .finish id (.same rfl rfl) rfl
        · cases taken
          exact .finish id (.same rfl rfl) rfl
  | pushing serverId =>
      cases taken
      exact .await id (.dispatchLock _ serverId) (world.registry.flags_dispatchLock serverId)
        trivial
  | pushWaiting serverId lock =>
      simp only [Task.proceed] at taken
      split at taken
      · cases taken
      · split at taken
        · cases taken
          exact .finish id (.same rfl rfl) rfl
        · next found =>
            split at taken
            · cases taken
              refine .await id (.kept (Registry.connectionOf_set_of_eq rfl ?_) rfl) rfl trivial
              rw [connection_sending, Registry.connectionOf_of_get? found]
            · cases taken
              exact .finish id (.same rfl rfl) rfl
  | _ => cases taken

theorem Task.resume_moved {id : Nat} {outcome : AwaitOutcome} {now : Timestamp} {task : Task}
    {next : BridgeWorld} (waits : world.tasks.get? id = some task)
    (taken : task.resume world id outcome now = some next)
    : Moved rules world next := by
  cases task with
  | replacing socket lock =>
      cases taken
      by_cases open_ : outcome = .cancelled ∨ world.registry.accepting = true
      · rw [if_pos open_]
        exact .finish id (.same rfl rfl) rfl
      · rw [if_neg open_]
        exact .finish id (.detach socket now rfl rfl)
          (world.registry.flags_detachWebsocket socket now)
  | dispatching socket current lock =>
      cases taken
      cases lock <;> exact .finish id (.same rfl rfl) rfl
  | shuttingDown =>
      cases taken
      refine .completed waits rfl rfl rfl (fun complete => ?_) get?_of_finish
      exact Bool.or_eq_true_iff.mpr (.inl complete)
  | closing socket lock =>
      cases taken
      exact .finish id (.detach socket now rfl rfl)
        (world.registry.flags_detachWebsocket socket now)
  | sending serverId socket messageId previous lock =>
      have connections :=
        world.registry.connectionOf_rollbackConfigurationSend serverId messageId previous
      have sockets :=
        world.registry.websocketServers_rollbackConfigurationSend serverId messageId previous
      have flags :=
        world.registry.flags_rollbackConfigurationSend serverId messageId previous
      cases outcome with
      | completed =>
          cases taken
          exact .finish id (.same rfl rfl) rfl
      | failed =>
          simp only [Task.resume] at taken
          generalize world.registry.rollbackConfigurationSend serverId messageId previous = rolled
            at connections sockets flags taken
          obtain ⟨registry, ackReceived⟩ := rolled
          cases ackReceived <;> cases taken
          · exact .finish id (.detached socket now connections sockets rfl rfl)
              ((registry.flags_detachWebsocket socket now).trans flags)
          · exact .finish id (.kept connections sockets) flags
      | cancelled =>
          cases taken
          exact .finish id (.kept connections sockets) flags
  | crossing locks | registering socket hello lock | dispatchWaiting socket ownership lock
  | closeWaiting serverId lock | pushing serverId | pushWaiting serverId lock =>
      simp only [Task.resume] at taken
      split at taken
      · cases taken
        exact .finish id (.same rfl rfl) rfl
      · cases taken

theorem get?_of_pushing {starts : List (Nat × String)} {tasks : Dict Nat Task} {id : Nat}
    {task : Task}
    (found
      : (starts.foldl (fun tasks (id, target) => tasks.set id (.pushing target)) tasks).get? id
        = some task)
    : tasks.get? id = some task ∨ ∃ target, task = .pushing target := by
  induction starts generalizing tasks with
  | nil => exact .inl found
  | cons start starts ih =>
      rcases ih found with after | new
      · rw [Dict.get?_set] at after
        split at after
        · exact .inr ⟨start.2, (Option.some.inj after).symm⟩
        · exact .inl after
      · exact .inr new

theorem bridgeStep_moved (consistent : world.registry.Consistent) {event : BridgeEvent}
    {next : BridgeWorld} (taken : bridgeStep rules world event = some next)
    : Moved rules world next := by
  cases event with
  | register id socket hello =>
      simp only [bridgeStep] at taken
      split at taken
      · cases taken
      · split at taken
        · cases taken
          exact .await id (.dispatchLock _ _) (world.registry.flags_dispatchLock _) trivial
        · cases taken
          exact .unchanged
  | dispatch id socket =>
      simp only [bridgeStep] at taken
      split at taken
      · cases taken
      · split at taken
        · cases taken
          exact .await id (.dispatchLock _ _) (world.registry.flags_dispatchLock _) trivial
        · cases taken
          exact .await id (.same rfl rfl) rfl (fun none_ => absurd none_ Bool.false_ne_true)
  | disconnect socket now =>
      cases taken
      exact .record (.detach socket now rfl rfl) (world.registry.flags_detachWebsocket socket now)
  | shutdown id =>
      simp only [bridgeStep] at taken
      split at taken
      · cases taken
      · cases taken
        exact .crossing rfl rfl rfl (.inl rfl)
          (fun found => (get?_of_await found).imp_right (fun same => ⟨_, same⟩))
  | closeServerConnection id serverId =>
      simp only [bridgeStep] at taken
      split at taken
      · cases taken
      · split at taken
        · cases taken
          exact .await id (.dispatchLock _ _) (world.registry.flags_dispatchLock _) trivial
        · cases taken
          exact .unchanged
  | pushConfiguration ids serverId =>
      simp only [bridgeStep] at taken
      split at taken
      · split at taken
        · cases taken
          refine .ordinary (.same rfl rfl) rfl (fun found => ?_)
          rcases get?_of_pushing found with before | ⟨target, rfl⟩
          · exact .inl before
          · exact .inr trivial
        · cases taken
      · cases taken
  | proceed id messageId now =>
      obtain ⟨task, waits, proceeds⟩ := Option.bind_eq_some_iff.mp taken
      exact Task.proceed_moved waits proceeds
  | resume id outcome now =>
      obtain ⟨task, waits, resumes⟩ := Option.bind_eq_some_iff.mp taken
      exact Task.resume_moved waits resumes
  | configAck socket payload now =>
      cases taken
      exact .record (.recordConfigAck _ socket payload now)
        (world.registry.flags_recordConfigAck rules socket payload now)
  | pluginResponse serverId response now =>
      cases taken
      exact .record (.recordPluginConfigurationResponse _ serverId response now)
        (world.registry.flags_recordPluginConfigurationResponse rules serverId response now)
  | httpEvent payload now =>
      cases taken
      exact .record (.recordHttpEvent _ payload now)
        (world.registry.flags_recordHttpEvent rules payload now)
  | websocketEvent socket payload now =>
      cases taken
      exact .record (.recordWebsocketEvent consistent socket payload now)
        (world.registry.flags_recordWebsocketEvent rules socket payload now)

-- Shutdowns

/-- The sockets are consistent, and gone once a shutdown has crossed the locks. -/
structure Settled (world : BridgeWorld) : Prop where
  consistent : world.registry.Consistent
  crossing
    : ∀ {id locks},
        world.tasks.get? id = some (.crossing locks) → world.registry.accepting = false
  shuttingDown
    : ∀ {id},
        world.tasks.get? id = some .shuttingDown
        → world.registry.accepting = false ∧ world.registry.Unregistered
  complete
    : world.registry.shutdownComplete = true
      → world.registry.accepting = false ∧ world.registry.Unregistered

theorem Settled.initial : Settled .initial where
  consistent := ⟨fun _ => rfl, fun _ _ mine => absurd mine.symm (Option.some_ne_none _),
    fun _ _ _ owned => absurd owned.symm (Option.some_ne_none _)⟩
  crossing found := absurd found.symm (Option.some_ne_none _)
  shuttingDown found := absurd found.symm (Option.some_ne_none _)
  complete done := absurd done Bool.false_ne_true

theorem Registry.Unregistered.of_empty {registry : Registry} (servers : registry.servers = ∅)
    (sockets : registry.websocketServers = ∅)
    : registry.Unregistered where
  servers serverId := by
    rw [Registry.connectionOf, servers]
    rfl
  sockets socket := by
    rw [sockets]
    rfl

theorem Registry.Unregistered.consistent {registry : Registry}
    (unregistered : registry.Unregistered)
    (connected : ∀ serverId, (registry.connectionOf serverId).connected = false)
    : registry.Consistent where
  connected serverId := by
    rw [connected, unregistered.servers]
    rfl
  owned serverId socket mine := by
    rw [unregistered.servers] at mine
    cases mine
  named socket serverId generation found := by
    rw [unregistered.sockets] at found
    cases found

theorem Settled.moved {next : BridgeWorld} (settled : Settled world)
    (moved : Moved rules world next)
    : Settled next := by
  cases moved with
  | ordinary effect flags tasks =>
      obtain ⟨accepting, complete⟩ := Prod.mk.inj flags
      have closed (before : world.registry.accepting = false ∧ world.registry.Unregistered)
          : next.registry.accepting = false ∧ next.registry.Unregistered :=
        ⟨accepting.trans before.1, before.2.effect before.1 effect⟩
      refine ⟨settled.consistent.effect effect, fun found => ?_, fun found => ?_, fun done => ?_⟩
      · rw [accepting]
        exact settled.crossing ((tasks found).resolve_right id)
      · exact closed (settled.shuttingDown ((tasks found).resolve_right id))
      · exact closed (settled.complete (complete.symm.trans done))
  | crossing servers sockets complete accepting tasks =>
      have connections := Registry.connectionOf_congr servers
      have closed : next.registry.accepting = false := by
        rcases accepting with closed | ⟨same, id, locks, waits⟩
        · exact closed
        · exact same.trans (settled.crossing waits)
      refine ⟨settled.consistent.congr connections sockets, fun _ => closed, fun found => ?_,
        fun done => ?_⟩
      · rcases tasks found with before | ⟨locks, differs⟩
        · exact ⟨closed, (settled.shuttingDown before).2.congr connections sockets⟩
        · cases differs
      · have before := settled.complete (complete.symm.trans done)
        exact ⟨closed, before.2.congr connections sockets⟩
  | emptied waits servers sockets flags tasks =>
      have closed : next.registry.accepting = false :=
        (Prod.mk.inj flags).1.trans (settled.crossing waits)
      have unregistered := Registry.Unregistered.of_empty servers sockets
      refine ⟨unregistered.consistent (fun serverId => ?_), fun _ => closed,
        fun _ => ⟨closed, unregistered⟩, fun _ => ⟨closed, unregistered⟩⟩
      rw [Registry.connectionOf, servers]
      rfl
  | completed waits servers sockets accepting complete tasks =>
      have connections := Registry.connectionOf_congr servers
      obtain ⟨before, unregistered⟩ := settled.shuttingDown waits
      have closed := accepting.trans before
      exact ⟨settled.consistent.congr connections sockets, fun _ => closed,
        fun _ => ⟨closed, unregistered.congr connections sockets⟩,
        fun _ => ⟨closed, unregistered.congr connections sockets⟩⟩

theorem Moved.complete {next : BridgeWorld} (moved : Moved rules world next)
    (done : world.registry.shutdownComplete = true)
    : next.registry.shutdownComplete = true := by
  cases moved with
  | ordinary effect flags tasks => exact (Prod.mk.inj flags).2.trans done
  | crossing servers sockets complete accepting tasks => exact complete.trans done
  | emptied waits servers sockets flags tasks => exact (Prod.mk.inj flags).2.trans done
  | completed waits servers sockets accepting complete tasks => exact complete done

theorem Moved.dispatches {next : BridgeWorld} (moved : Moved rules world next) {id : Nat}
    {socket : Socket} {lock : Option Nat}
    (runs : next.tasks.get? id = some (.dispatching socket true lock))
    : world.tasks.get? id = some (.dispatching socket true lock)
      ∨ next.registry.websocketIsCurrent socket = true := by
  cases moved with
  | ordinary effect flags tasks => exact (tasks runs).imp_right (fun entered => entered rfl)
  | crossing servers sockets complete accepting tasks =>
      refine .inl ((tasks runs).resolve_right ?_)
      rintro ⟨locks, differs⟩
      cases differs
  | emptied waits servers sockets flags tasks =>
      refine .inl ((tasks runs).resolve_right (fun differs => ?_))
      cases differs
  | completed waits servers sockets accepting complete tasks => exact .inl (tasks runs)

theorem Settled.step {event : BridgeEvent} {next : BridgeWorld} (settled : Settled world)
    (taken : bridgeStep rules world event = some next)
    : Settled next :=
  settled.moved (bridgeStep_moved settled.consistent taken)

end Moves

end OctoHubs.BridgeTransports
