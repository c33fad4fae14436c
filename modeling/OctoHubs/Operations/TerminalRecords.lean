import OctoHubs.Library.Runs
import OctoHubs.Operations.Tracker

/-! Finished operations while any number of trackers share one registry.
Every write of a tracker skips the records that are no longer active, save the one with which
a start that failed ends its own record.
-/

namespace OctoHubs.Operations

open OctoHubs.Library

/-- What a tracker keeps itself: the operations it renews and the start it is about to
finish, which needs its heartbeat thread.
-/
structure Tracker where
  ownerId : String
  maxRecent : Nat
  accepting : Bool
  starting : Option String
  heartbeatIds : List String
deriving DecidableEq

structure OperationsWorld where
  registry : Registry
  trackers : Nat → Tracker

/-- The steps of the trackers. A shutdown closes its tracker, interrupts what is active and
stops the heartbeat; `reopen` is the source's `initialize`.
-/
inductive TrackerEvent
  | start (tracker : Nat) (id : String) (request : OperationRequest) (now : Timestamp)
  | started (tracker : Nat)
  | startFailed (tracker : Nat) (now : Timestamp)
  | update (tracker : Nat) (id : String) (change : OperationUpdate) (now : Timestamp)
  | heartbeat (tracker : Nat) (id : String) (now : Timestamp)
  | sweep (tracker : Nat) (now : Timestamp)
  | complete (tracker : Nat) (id : String) (outcome : OperationOutcome) (now : Timestamp)
  | clearCompleted (tracker : Nat)
  | interruptActive (tracker : Nat) (message : String) (now : Timestamp)
  | interruptStale (tracker : Nat) (message : String) (staleAfter : Int) (now : Timestamp)
  | interruptOrphaned (tracker : Nat) (message : String) (now : Timestamp)
  | reopen (tracker : Nat)
  | close (tracker : Nat)
  | stopped (tracker : Nat)
deriving DecidableEq

def operationInterruptedMessage : String := "Operazione interrotta"

namespace OperationsWorld

variable (world : OperationsWorld)

/-- The transaction of a tracker: the changed registry is stored pruned. -/
def mutateRegistry (tracker : Nat) (change : Registry → Registry) : OperationsWorld :=
  { world with
    registry := (change world.registry).prune (world.trackers tracker).maxRecent }

def withTracker (tracker : Nat) (change : Tracker → Tracker) : OperationsWorld :=
  { world with
    trackers := Function.update world.trackers tracker (change (world.trackers tracker)) }

@[simp] theorem withTracker_registry (tracker : Nat) (change : Tracker → Tracker)
    : (world.withTracker tracker change).registry = world.registry :=
  rfl

/-- The tracker no longer renews these operations. -/
def untrackHeartbeats (tracker : Nat) (ids : List String) : OperationsWorld :=
  world.withTracker tracker (fun state =>
    { state with heartbeatIds := state.heartbeatIds.filter (· ∉ ids) })

@[simp] theorem untrackHeartbeats_registry (tracker : Nat) (ids : List String)
    : (world.untrackHeartbeats tracker ids).registry = world.registry :=
  rfl

def interruptedIds (concerned : Operation → Bool) : List String :=
  (world.registry.items.filter (fun item =>
    item.2.status.Active ∧ concerned item.2)).map (fun item => item.2.id)

def interruptWhere (tracker : Nat) (concerned : Operation → Bool) (message : String)
    (now : Timestamp)
    : OperationsWorld :=
  (world.mutateRegistry tracker (·.interruptWhere concerned message now)).untrackHeartbeats
    tracker (world.interruptedIds concerned)

/-- A renewed operation that is missing, foreign or finished is renewed no longer. -/
def sweep (tracker : Nat) (now : Timestamp) : OperationsWorld :=
  let state := world.trackers tracker
  let invalidIds := state.heartbeatIds.filter (fun id =>
    match world.registry.get? id with
    | none => true
    | some operation => ¬ (operation.Owns state.ownerId ∧ operation.status.Active))
  (world.mutateRegistry tracker (fun registry =>
      state.heartbeatIds.foldl
        (fun registry id => registry.changeActive state.ownerId id (·.renew now)) registry))
    |>.untrackHeartbeats tracker invalidIds

/-- One step of one tracker. A new operation has an unused id; while a start is not finished
its tracker can neither start another one nor open or close.
-/
def step : TrackerEvent → Option OperationsWorld
  | .start tracker id request now =>
      let state := world.trackers tracker
      if state.accepting ∧ state.starting = none ∧ world.registry.get? id = none then
        some ((world.mutateRegistry tracker (fun registry =>
            registry.set id (Operation.start state.ownerId id request now)))
          |>.withTracker tracker (fun state =>
            { state with starting := some id, heartbeatIds := id :: state.heartbeatIds }))
      else none
  | .started tracker =>
      (world.trackers tracker).starting.map (fun _ =>
        world.withTracker tracker (fun state => { state with starting := none }))
  | .startFailed tracker now =>
      (world.trackers tracker).starting.map (fun id =>
        (world.mutateRegistry tracker
            (·.failStart (world.trackers tracker).ownerId id now))
          |>.withTracker tracker (fun state =>
            { state with
              starting := none
              heartbeatIds := state.heartbeatIds.filter (· ≠ id) }))
  | .update tracker id change now =>
      some (world.mutateRegistry tracker (fun registry =>
        registry.changeActive (world.trackers tracker).ownerId id (·.update change now)))
  | .heartbeat tracker id now =>
      some (world.mutateRegistry tracker (fun registry =>
        registry.changeActive (world.trackers tracker).ownerId id (·.renew now)))
  | .sweep tracker now => some (world.sweep tracker now)
  | .complete tracker id outcome now =>
      some ((world.mutateRegistry tracker (fun registry =>
          registry.changeActive (world.trackers tracker).ownerId id (·.complete outcome now)))
        |>.untrackHeartbeats tracker [id])
  | .clearCompleted tracker => some (world.mutateRegistry tracker Registry.clearCompleted)
  | .interruptActive tracker message now =>
      some (world.interruptWhere tracker
        (fun operation => operation.Owns (world.trackers tracker).ownerId)
        (if message = "" then operationInterruptedMessage else message) now)
  | .interruptStale tracker message staleAfter now =>
      some (world.interruptWhere tracker
        (fun operation => operation.heartbeatAt ≤ now - max 60 staleAfter * second)
        message now)
  | .interruptOrphaned tracker message now =>
      some (world.interruptWhere tracker
        (fun operation => ¬ operation.Owns (world.trackers tracker).ownerId) message now)
  | .reopen tracker =>
      let state := world.trackers tracker
      if state.starting = none then
        some (world.withTracker tracker (fun state =>
          if state.accepting then state
          else { state with accepting := true, heartbeatIds := [] }))
      else none
  | .close tracker =>
      if (world.trackers tracker).starting = none then
        some (world.withTracker tracker (fun state => { state with accepting := false }))
      else none
  | .stopped tracker =>
      if (world.trackers tracker).starting = none then
        some (world.withTracker tracker (fun state => { state with heartbeatIds := [] }))
      else none

/-- The step leaves every finished record as it is, or removes it. -/
def KeepsTerminal (event : TrackerEvent) : Prop :=
  ∀ after ∈ world.step event,
    ∀ item ∈ world.registry.items,
      item.2.status.Terminal
      → after.registry.get? item.1 = some item.2 ∨ after.registry.get? item.1 = none

/-- A start that fails finds its own record unfinished, if it is still stored. -/
def FailsUnfinished : TrackerEvent → Prop
  | .startFailed tracker _ =>
      ∀ id ∈ (world.trackers tracker).starting,
        ∀ operation ∈ world.registry.get? id,
          operation.Owns (world.trackers tracker).ownerId → ¬ operation.status.Terminal
  | _ => True

end OperationsWorld

namespace Registry

/-- Every finished record stays as it is, or goes. -/
def KeepsTerminal (before after : Registry) : Prop :=
  ∀ id operation,
    before.get? id = some operation
    → operation.status.Terminal
    → after.get? id = some operation ∨ after.get? id = none

variable {registry before after : Registry}

theorem get?_prune (registry : Registry) (maxRecent : Nat) (id : String)
    : (registry.prune maxRecent).get? id = registry.get? id
      ∨ (registry.prune maxRecent).get? id = none := by
  cases found : (registry.prune maxRecent).get? id with
  | none => exact .inr rfl
  | some operation =>
      left
      have member := Dict.mem_items_iff.mpr found
      unfold prune completedItems at member
      symm
      rw [← Dict.mem_items_iff]
      rcases List.mem_append.mp member with active | recent
      · exact (List.mem_filter.mp active).1
      · have completed := List.mem_of_mem_take recent
        rw [List.mem_insertionSort] at completed
        exact (List.mem_filter.mp completed).1

theorem KeepsTerminal.prune (kept : KeepsTerminal before after) (maxRecent : Nat)
    : KeepsTerminal before (after.prune maxRecent) := by
  intro id operation found terminal
  rcases get?_prune after maxRecent id with same | gone
  · rw [same]
    exact kept id operation found terminal
  · exact .inr gone

theorem get?_changeActive {ownerId id other : String} {change : Operation → Operation}
    {operation : Operation} (found : registry.get? other = some operation)
    (terminal : operation.status.Terminal)
    : (registry.changeActive ownerId id change).get? other = some operation := by
  unfold changeActive
  cases stored : registry.get? id with
  | none => exact found
  | some target =>
      dsimp only
      split
      · next owned =>
          rw [Dict.get?_set]
          split
          · next same =>
              rw [same, stored] at found
              cases found
              exact absurd owned.2 terminal.not_active
          · exact found
      · exact found

theorem get?_foldl_changeActive {ownerId other : String} {change : Operation → Operation}
    {operation : Operation} (terminal : operation.status.Terminal) (ids : List String)
    {registry : Registry} (found : registry.get? other = some operation)
    : (ids.foldl (fun registry id => registry.changeActive ownerId id change) registry).get?
        other
      = some operation := by
  induction ids generalizing registry with
  | nil => exact found
  | cons id rest ih => exact ih (get?_changeActive found terminal)

theorem get?_interruptWhere {concerned : Operation → Bool} {message : String}
    {now : Timestamp} {id : String} {operation : Operation}
    (found : registry.get? id = some operation) (terminal : operation.status.Terminal)
    : (registry.interruptWhere concerned message now).get? id = some operation := by
  unfold interruptWhere
  rw [Dict.get?_map, found, Option.map_some, if_neg]
  exact fun both => terminal.not_active both.1

theorem keepsTerminal_clearCompleted : KeepsTerminal registry registry.clearCompleted := by
  intro id operation found terminal
  cases cleared : registry.clearCompleted.get? id with
  | none => exact .inr rfl
  | some other =>
      have member := Dict.mem_items_iff.mpr cleared
      have stored := Dict.mem_items_iff.mp (List.mem_filter.mp member).1
      exact .inl (stored.symm.trans found)

/-- A failing start keeps the finished records unless its own is one of them. -/
theorem get?_failStart {ownerId id other : String} {now : Timestamp} {operation : Operation}
    (unfinished
      : ∀ target ∈ registry.get? id, target.Owns ownerId → ¬ target.status.Terminal)
    (found : registry.get? other = some operation) (terminal : operation.status.Terminal)
    : (registry.failStart ownerId id now).get? other = some operation := by
  unfold failStart
  cases stored : registry.get? id with
  | none => exact found
  | some target =>
      dsimp only
      split
      · next owned =>
          rw [Dict.get?_set]
          split
          · next same =>
              rw [same, stored] at found
              cases found
              exact absurd terminal (unfinished _ stored owned)
          · exact found
      · exact found

end Registry

namespace OperationsWorld

variable {world after : OperationsWorld}

theorem keepsTerminal_mutateRegistry (tracker : Nat) {change : Registry → Registry}
    (kept : Registry.KeepsTerminal world.registry (change world.registry))
    : Registry.KeepsTerminal world.registry (world.mutateRegistry tracker change).registry :=
  kept.prune _

theorem keepsTerminal_interruptWhere (tracker : Nat) {concerned : Operation → Bool}
    {message : String} {now : Timestamp}
    : Registry.KeepsTerminal world.registry
        (world.interruptWhere tracker concerned message now).registry := by
  rw [interruptWhere, untrackHeartbeats_registry]
  apply keepsTerminal_mutateRegistry
  exact fun _ _ found terminal => .inl (Registry.get?_interruptWhere found terminal)

theorem keepsTerminal_of_step {event : TrackerEvent} (unfinished : world.FailsUnfinished event)
    (taken : world.step event = some after)
    : Registry.KeepsTerminal world.registry after.registry := by
  cases event with
  | start tracker id request now =>
      simp only [step, Option.ite_none_right_eq_some, Option.some.injEq] at taken
      obtain ⟨⟨-, -, unused⟩, rfl⟩ := taken
      rw [withTracker_registry]
      apply keepsTerminal_mutateRegistry
      intro other operation found _
      left
      rw [Dict.get?_set_ne]
      · exact found
      · rintro rfl
        cases unused.symm.trans found
  | started tracker =>
      obtain ⟨_, -, rfl⟩ := Option.map_eq_some_iff.mp taken
      exact fun _ _ found _ => .inl found
  | startFailed tracker now =>
      obtain ⟨id, starting, rfl⟩ := Option.map_eq_some_iff.mp taken
      rw [withTracker_registry]
      apply keepsTerminal_mutateRegistry
      exact fun _ _ found terminal =>
        .inl (Registry.get?_failStart (unfinished id starting) found terminal)
  | update tracker id change now =>
      cases taken
      apply keepsTerminal_mutateRegistry
      exact fun _ _ found terminal => .inl (Registry.get?_changeActive found terminal)
  | heartbeat tracker id now =>
      cases taken
      apply keepsTerminal_mutateRegistry
      exact fun _ _ found terminal => .inl (Registry.get?_changeActive found terminal)
  | sweep tracker now =>
      cases taken
      rw [sweep, untrackHeartbeats_registry]
      apply keepsTerminal_mutateRegistry
      exact fun _ _ found terminal =>
        .inl (Registry.get?_foldl_changeActive terminal _ found)
  | complete tracker id outcome now =>
      cases taken
      rw [untrackHeartbeats_registry]
      apply keepsTerminal_mutateRegistry
      exact fun _ _ found terminal => .inl (Registry.get?_changeActive found terminal)
  | clearCompleted tracker =>
      cases taken
      apply keepsTerminal_mutateRegistry
      exact Registry.keepsTerminal_clearCompleted
  | interruptActive tracker message now =>
      cases taken
      exact keepsTerminal_interruptWhere tracker
  | interruptStale tracker message staleAfter now =>
      cases taken
      exact keepsTerminal_interruptWhere tracker
  | interruptOrphaned tracker message now =>
      cases taken
      exact keepsTerminal_interruptWhere tracker
  | reopen tracker =>
      simp only [step, Option.ite_none_right_eq_some, Option.some.injEq] at taken
      obtain ⟨-, rfl⟩ := taken
      exact fun _ _ found _ => .inl found
  | close tracker =>
      simp only [step, Option.ite_none_right_eq_some, Option.some.injEq] at taken
      obtain ⟨-, rfl⟩ := taken
      exact fun _ _ found _ => .inl found
  | stopped tracker =>
      simp only [step, Option.ite_none_right_eq_some, Option.some.injEq] at taken
      obtain ⟨-, rfl⟩ := taken
      exact fun _ _ found _ => .inl found

theorem keepsTerminal {event : TrackerEvent} (unfinished : world.FailsUnfinished event)
    : world.KeepsTerminal event := by
  intro after taken item member terminal
  exact keepsTerminal_of_step unfinished taken item.1 item.2 (Dict.mem_items_iff.mp member)
    terminal

instance (world : OperationsWorld) (event : TrackerEvent)
    : Decidable (world.FailsUnfinished event) := by
  cases event <;> unfold FailsUnfinished <;> infer_instance

instance (world : OperationsWorld) (event : TrackerEvent)
    : Decidable (world.KeepsTerminal event) := by
  unfold KeepsTerminal
  infer_instance

end OperationsWorld

open OperationsWorld

/-- A run in which every start that fails still finds its record unfinished changes no
finished record, other than by pruning or clearing it.
-/
theorem terminalRecords_kept {start finish : OperationsWorld} {events : List TrackerEvent}
    (run : Run step FailsUnfinished start events finish)
    : Run step KeepsTerminal start events finish :=
  run.mono keepsTerminal

/-- Two processes that have just opened their trackers over an empty registry. -/
def twoTrackers : OperationsWorld where
  registry := ∅
  trackers tracker := ⟨if tracker = 0 then "first" else "second", 40, true, none, []⟩

def scanRequest : OperationRequest := ⟨"scan", "Scansione", "", ∅, none⟩

/-- A restarted process interrupts the operation of another one, which goes on with it. -/
def interruptedRun : List TrackerEvent :=
  [.start 0 "scan-1" scanRequest 1, .started 0, .interruptOrphaned 1 "Riavvio" 2,
    .update 0 "scan-1" ⟨some "Avanti", none, some 1, some 4, none, ∅⟩ 3, .sweep 0 4,
    .complete 0 "scan-1" (.finish "Completato" ∅) 5]

theorem terminalRecords_kept_interruptedRun
    : ∃ finish,
        Run step KeepsTerminal twoTrackers interruptedRun finish
        ∧ (finish.registry.get? "scan-1").any (·.status = .interrupted) = true := by
  have reached
      : ∃ finish,
          Run step FailsUnfinished twoTrackers interruptedRun finish
          ∧ (finish.registry.get? "scan-1").any (·.status = .interrupted) = true :=
    Run.exists_of_execute (by decide)
  obtain ⟨finish, run, interrupted⟩ := reached
  exact ⟨finish, terminalRecords_kept run, interrupted⟩

/-- The other process interrupts the operation before its heartbeat thread fails to start. -/
def failedStart : List TrackerEvent :=
  [.start 0 "scan-1" scanRequest 1, .interruptOrphaned 1 "Riavvio" 2, .startFailed 0 3]

theorem terminalRecord_changed_failedStart
    : ∃ finish,
        Run step (fun _ _ => True) twoTrackers failedStart finish
        ∧ ¬ Run step KeepsTerminal twoTrackers failedStart finish := by
  have reached
      : ∃ finish, Run step (fun _ _ => True) twoTrackers failedStart finish ∧ True :=
    Run.exists_of_execute (by decide)
  obtain ⟨finish, run, -⟩ := reached
  refine ⟨finish, run, fun kept => ?_⟩
  have stopped : (execute step KeepsTerminal twoTrackers failedStart).isNone = true := by
    decide
  rw [kept.execute_eq] at stopped
  cases stopped

end OctoHubs.Operations
