import OctoHubs.Operations.TerminalRecords

/-! The shutdown of a tracker. Its calls close the tracker, interrupt what it owns and wait for
the heartbeat, while other threads go on; once one has returned, nothing of the tracker is active.
-/

namespace OctoHubs.Operations

open OctoHubs.Library

-- Active operations of an owner

namespace Registry

/-- What the owner has active afterwards, it had active before. -/
def NoneNew (ownerId : String) (before after : Registry) : Prop :=
  ∀ id operation,
    after.get? id = some operation
    → operation.Owns ownerId
    → operation.status.Active
    → ∃ earlier,
        before.get? id = some earlier ∧ earlier.Owns ownerId ∧ earlier.status.Active

/-- Nothing of the owner is active. -/
def Quiet (ownerId : String) (registry : Registry) : Prop :=
  ∀ id operation,
    registry.get? id = some operation
    → operation.Owns ownerId
    → ¬ operation.status.Active

variable {ownerId : String} {registry before after : Registry}

theorem Quiet.noneNew (quiet : before.Quiet ownerId) (kept : NoneNew ownerId before after)
    : after.Quiet ownerId := by
  intro id operation found owned active
  obtain ⟨earlier, stored, mine, running⟩ := kept id operation found owned active
  exact quiet id earlier stored mine running

theorem NoneNew.refl (ownerId : String) (registry : Registry)
    : NoneNew ownerId registry registry :=
  fun _ operation found owned active => ⟨operation, found, owned, active⟩

theorem NoneNew.trans {middle : Registry} (first : NoneNew ownerId before middle)
    (second : NoneNew ownerId middle after)
    : NoneNew ownerId before after := by
  intro id operation found owned active
  obtain ⟨earlier, stored, mine, running⟩ := second id operation found owned active
  exact first id earlier stored mine running

theorem NoneNew.prune (kept : NoneNew ownerId before after) (maxRecent : Nat)
    : NoneNew ownerId before (after.prune maxRecent) := by
  intro id operation found owned active
  rcases get?_prune after maxRecent id with same | gone
  · exact kept id operation (same.symm.trans found) owned active
  · cases gone.symm.trans found

theorem noneNew_changeActive {changer id : String} {change : Operation → Operation}
    (owner : ∀ operation, (change operation).ownerId = operation.ownerId)
    : NoneNew ownerId registry (registry.changeActive changer id change) := by
  unfold changeActive
  cases stored : registry.get? id with
  | none => exact .refl ownerId registry
  | some target =>
      dsimp only
      split
      · next concerned =>
          intro other operation found owned active
          rw [Dict.get?_set] at found
          split at found
          · next same =>
              obtain rfl := Option.some.inj found
              exact ⟨target, same ▸ stored, (owner target).symm.trans owned, concerned.2⟩
          · exact ⟨operation, found, owned, active⟩
      · exact .refl ownerId registry

theorem noneNew_foldl_changeActive {changer : String} {change : Operation → Operation}
    (owner : ∀ operation, (change operation).ownerId = operation.ownerId) (ids : List String)
    (registry : Registry)
    : NoneNew ownerId registry
        (ids.foldl (fun registry id => registry.changeActive changer id change) registry) := by
  induction ids generalizing registry with
  | nil => exact .refl ownerId registry
  | cons id rest ih => exact (noneNew_changeActive owner).trans (ih _)

theorem get?_of_interruptWhere {concerned : Operation → Bool} {message : String}
    {now : Timestamp} {id : String} {operation : Operation}
    (found : (registry.interruptWhere concerned message now).get? id = some operation)
    (active : operation.status.Active)
    : registry.get? id = some operation ∧ concerned operation = false := by
  rw [interruptWhere, Dict.get?_map, Option.map_eq_some_iff] at found
  obtain ⟨earlier, stored, changed⟩ := found
  split at changed
  · subst changed
    rcases active with active | active <;> cases active
  · next apart =>
      subst changed
      exact ⟨stored, Bool.eq_false_iff.mpr (fun holds => apart ⟨active, holds⟩)⟩

theorem noneNew_interruptWhere {concerned : Operation → Bool} {message : String}
    {now : Timestamp}
    : NoneNew ownerId registry (registry.interruptWhere concerned message now) :=
  fun _ operation found owned active =>
    ⟨operation, (get?_of_interruptWhere found active).1, owned, active⟩

theorem noneNew_clearCompleted : NoneNew ownerId registry registry.clearCompleted := by
  intro id operation found owned active
  have member := Dict.mem_items_iff.mpr found
  exact ⟨operation, Dict.mem_items_iff.mp (List.mem_filter.mp member).1, owned, active⟩

theorem noneNew_failStart {changer id : String} {now : Timestamp}
    : NoneNew ownerId registry (registry.failStart changer id now) := by
  unfold failStart
  cases stored : registry.get? id with
  | none => exact .refl ownerId registry
  | some target =>
      dsimp only
      split
      · intro other operation found owned active
        rw [Dict.get?_set] at found
        split at found
        · obtain rfl := Option.some.inj found
          rcases active with active | active <;> cases active
        · exact ⟨operation, found, owned, active⟩
      · exact .refl ownerId registry

theorem noneNew_set {id : String} {operation : Operation} (foreign : ¬ operation.Owns ownerId)
    : NoneNew ownerId registry (registry.set id operation) := by
  intro other stored found owned active
  rw [Dict.get?_set] at found
  split at found
  · obtain rfl := Option.some.inj found
    exact absurd owned foreign
  · exact ⟨stored, found, owned, active⟩

end Registry

namespace OperationsWorld

variable {world after : OperationsWorld} {ownerId : String}

theorem noneNew_mutateRegistry (tracker : Nat) {change : Registry → Registry}
    (kept : Registry.NoneNew ownerId world.registry (change world.registry))
    : Registry.NoneNew ownerId world.registry (world.mutateRegistry tracker change).registry :=
  kept.prune _

theorem noneNew_of_step {event : TrackerEvent}
    (foreign
      : ∀ tracker id request now,
          event = .start tracker id request now → (world.trackers tracker).ownerId ≠ ownerId)
    (taken : world.step event = some after)
    : Registry.NoneNew ownerId world.registry after.registry := by
  cases event with
  | start tracker id request now =>
      simp only [step, Option.ite_none_right_eq_some, Option.some.injEq] at taken
      obtain ⟨-, rfl⟩ := taken
      rw [withTracker_registry]
      exact noneNew_mutateRegistry tracker
        (Registry.noneNew_set (foreign tracker id request now rfl))
  | started tracker =>
      obtain ⟨_, -, rfl⟩ := Option.map_eq_some_iff.mp taken
      exact .refl ownerId _
  | startFailed tracker now =>
      obtain ⟨id, starting, rfl⟩ := Option.map_eq_some_iff.mp taken
      rw [withTracker_registry]
      exact noneNew_mutateRegistry tracker Registry.noneNew_failStart
  | update tracker id change now =>
      cases taken
      exact noneNew_mutateRegistry tracker (Registry.noneNew_changeActive (fun _ => rfl))
  | heartbeat tracker id now =>
      cases taken
      exact noneNew_mutateRegistry tracker (Registry.noneNew_changeActive (fun _ => rfl))
  | sweep tracker now =>
      cases taken
      rw [sweep, untrackHeartbeats_registry]
      refine noneNew_mutateRegistry tracker (Registry.noneNew_foldl_changeActive ?_ _ _)
      exact fun _ => rfl
  | complete tracker id outcome now =>
      cases taken
      rw [untrackHeartbeats_registry]
      exact noneNew_mutateRegistry tracker (Registry.noneNew_changeActive (fun _ => rfl))
  | clearCompleted tracker =>
      cases taken
      exact noneNew_mutateRegistry tracker Registry.noneNew_clearCompleted
  | interruptActive tracker message now | interruptStale tracker message staleAfter now
  | interruptOrphaned tracker message now =>
      cases taken
      rw [interruptWhere, untrackHeartbeats_registry]
      exact noneNew_mutateRegistry tracker Registry.noneNew_interruptWhere
  | reopen tracker =>
      simp only [step, Option.ite_none_right_eq_some, Option.some.injEq] at taken
      obtain ⟨-, rfl⟩ := taken
      exact .refl ownerId _
  | close tracker =>
      simp only [step, Option.ite_none_right_eq_some, Option.some.injEq] at taken
      obtain ⟨-, rfl⟩ := taken
      exact .refl ownerId _
  | stopped tracker =>
      simp only [step, Option.ite_none_right_eq_some, Option.some.injEq] at taken
      obtain ⟨-, rfl⟩ := taken
      exact .refl ownerId _

/-- A step leaves a tracker its owner, and does not make it accept again unless it reopens it. -/
structure Continues (event : TrackerEvent) (tracker : Nat) (before after : Tracker) : Prop where
  ownerId : after.ownerId = before.ownerId
  accepting : after.accepting = true → before.accepting = true ∨ event = .reopen tracker

theorem Continues.refl (event : TrackerEvent) (tracker : Nat) (state : Tracker)
    : Continues event tracker state state :=
  ⟨rfl, .inl⟩

theorem continues_of_update {event : TrackerEvent} {changer : Nat} {state : Tracker}
    (changed : after.trackers = Function.update world.trackers changer state)
    (kept : Continues event changer (world.trackers changer) state) (tracker : Nat)
    : Continues event tracker (world.trackers tracker) (after.trackers tracker) := by
  rw [changed]
  by_cases same : tracker = changer
  · subst same
    rw [Function.update_self]
    exact kept
  · rw [Function.update_of_ne same]
    exact .refl event tracker _

theorem continues_of_step {event : TrackerEvent} (taken : world.step event = some after)
    (tracker : Nat)
    : Continues event tracker (world.trackers tracker) (after.trackers tracker) := by
  cases event with
  | start changer id request now =>
      simp only [step, Option.ite_none_right_eq_some, Option.some.injEq] at taken
      obtain ⟨-, rfl⟩ := taken
      refine continues_of_update rfl ?_ tracker
      exact ⟨rfl, .inl⟩
  | started changer =>
      obtain ⟨_, -, rfl⟩ := Option.map_eq_some_iff.mp taken
      refine continues_of_update rfl ?_ tracker
      exact ⟨rfl, .inl⟩
  | startFailed changer now =>
      obtain ⟨id, starting, rfl⟩ := Option.map_eq_some_iff.mp taken
      refine continues_of_update rfl ?_ tracker
      exact ⟨rfl, .inl⟩
  | reopen changer =>
      simp only [step, Option.ite_none_right_eq_some, Option.some.injEq] at taken
      obtain ⟨-, rfl⟩ := taken
      refine continues_of_update rfl ?_ tracker
      refine ⟨?_, fun _ => .inr rfl⟩
      dsimp only
      split <;> rfl
  | close changer =>
      simp only [step, Option.ite_none_right_eq_some, Option.some.injEq] at taken
      obtain ⟨-, rfl⟩ := taken
      refine continues_of_update rfl ?_ tracker
      exact ⟨rfl, fun accepts => absurd accepts Bool.false_ne_true⟩
  | stopped changer =>
      simp only [step, Option.ite_none_right_eq_some, Option.some.injEq] at taken
      obtain ⟨-, rfl⟩ := taken
      refine continues_of_update rfl ?_ tracker
      exact ⟨rfl, .inl⟩
  | update changer id change now | heartbeat changer id now | clearCompleted changer =>
      cases taken
      exact .refl _ _ _
  | sweep changer now | complete changer id outcome now | interruptActive changer message now
  | interruptStale changer message staleAfter now | interruptOrphaned changer message now =>
      cases taken
      refine continues_of_update rfl ?_ tracker
      exact ⟨rfl, .inl⟩

/-- No other tracker owns what the tracker does. -/
def Alone (world : OperationsWorld) (own : Nat) : Prop :=
  ∀ other, other ≠ own → (world.trackers other).ownerId ≠ (world.trackers own).ownerId

/-- The tracker refuses starts, and nothing that it owns is active. -/
structure ShutDown (world : OperationsWorld) (own : Nat) : Prop where
  refusing : (world.trackers own).accepting = false
  quiet : world.registry.Quiet (world.trackers own).ownerId

theorem Alone.step {own : Nat} {event : TrackerEvent} (alone : world.Alone own)
    (taken : world.step event = some after)
    : after.Alone own := by
  intro other apart
  rw [(continues_of_step taken other).ownerId, (continues_of_step taken own).ownerId]
  exact alone other apart

theorem refusing_step {own : Nat} {event : TrackerEvent}
    (refusing : (world.trackers own).accepting = false) (opens : event ≠ .reopen own)
    (taken : world.step event = some after)
    : (after.trackers own).accepting = false := by
  rw [Bool.eq_false_iff]
  intro accepts
  rcases (continues_of_step taken own).accepting accepts with before | reopens
  · cases refusing.symm.trans before
  · exact opens reopens

theorem refusing_close {own : Nat} (taken : world.step (.close own) = some after)
    : (after.trackers own).accepting = false := by
  simp only [step, Option.ite_none_right_eq_some, Option.some.injEq] at taken
  obtain ⟨-, rfl⟩ := taken
  rw [withTracker]
  dsimp only
  rw [Function.update_self]

theorem quiet_step {own : Nat} {event : TrackerEvent} (alone : world.Alone own)
    (shutDown : world.ShutDown own) (taken : world.step event = some after)
    : after.registry.Quiet (after.trackers own).ownerId := by
  rw [(continues_of_step taken own).ownerId]
  refine shutDown.quiet.noneNew (noneNew_of_step ?_ taken)
  rintro tracker id request now rfl
  by_cases same : tracker = own
  · subst same
    simp only [step, Option.ite_none_right_eq_some] at taken
    cases shutDown.refusing.symm.trans taken.1.1
  · exact alone tracker same

theorem quiet_interruptActive {own : Nat} {message : String} {now : Timestamp}
    (taken : world.step (.interruptActive own message now) = some after)
    : after.registry.Quiet (after.trackers own).ownerId := by
  rw [(continues_of_step taken own).ownerId]
  cases taken
  rw [interruptWhere, untrackHeartbeats_registry]
  intro id operation found owned active
  rcases Registry.get?_prune _ _ id with same | gone
  · have foreign := (Registry.get?_of_interruptWhere (same.symm.trans found) active).2
    exact absurd owned (of_decide_eq_false foreign)
  · cases gone.symm.trans found

end OperationsWorld

-- Calls of shutdown

/-- Where a call of shutdown stands, and whether it has interrupted the active operations. -/
inductive ShutdownCall
  | interrupting
  | joining (interrupted : Bool)
  | returned (interrupted stopped : Bool)
deriving DecidableEq

def ShutdownCall.interrupted : ShutdownCall → Bool
  | .interrupting => false
  | .joining interrupted => interrupted
  | .returned interrupted _ => interrupted

structure LifecycleWorld where
  operations : OperationsWorld
  calls : Dict Nat ShutdownCall

/-- The critical sections of the shutdowns of one tracker, and what all others do. -/
inductive LifecycleEvent
  | act (event : TrackerEvent)
  | shutdown (call : Nat) (interruptActive : Bool)
  | interruptActive (call : Nat) (now : Timestamp)
  | join (call : Nat) (stopped : Bool)
deriving DecidableEq

def operationShutdownMessage : String := "Operazione interrotta durante lo shutdown"

/-- What a tracker is not told but by a shutdown of it, or once it is opened again. -/
def TrackerEvent.lifecycleOf? : TrackerEvent → Option Nat
  | .reopen tracker => some tracker
  | .close tracker => some tracker
  | .stopped tracker => some tracker
  | _ => none

/-- A call of shutdown closes the tracker, interrupts what is active if it is told to, and waits for
the heartbeat, which may not end in time.
-/
def lifecycleStep (own : Nat) (world : LifecycleWorld) : LifecycleEvent → Option LifecycleWorld
  | .act event =>
      if event.lifecycleOf? = some own then none
      else (world.operations.step event).map (fun operations => { world with operations })
  | .shutdown call interruptActive =>
      if (world.calls.get? call).isSome then none
      else
        let phase := if interruptActive then .interrupting else .joining false
        (world.operations.step (.close own)).map (fun operations =>
          ⟨operations, world.calls.set call phase⟩)
  | .interruptActive call now =>
      if world.calls.get? call = some .interrupting then
        (world.operations.step (.interruptActive own operationShutdownMessage now)).map
          (fun operations => ⟨operations, world.calls.set call (.joining true)⟩)
      else none
  | .join call stopped =>
      match world.calls.get? call with
      | some (.joining interrupted) =>
          let calls := world.calls.set call (.returned interrupted stopped)
          if stopped then
            (world.operations.step (.stopped own)).map (fun operations => ⟨operations, calls⟩)
          else some ⟨world.operations, calls⟩
      | _ => none

/-- The tracker refuses starts from the first shutdown on, and owns nothing that is active after an
interruption.
-/
structure LifecycleWorld.Sound (own : Nat) (world : LifecycleWorld) : Prop where
  alone : world.operations.Alone own
  refusing
    : ∀ call phase,
        world.calls.get? call = some phase
        → (world.operations.trackers own).accepting = false
  quiet
    : ∀ call phase,
        world.calls.get? call = some phase
        → phase.interrupted = true
        → world.operations.registry.Quiet (world.operations.trackers own).ownerId

namespace LifecycleWorld

variable {own : Nat} {world next : LifecycleWorld}

open OperationsWorld

theorem Sound.initial {start : OperationsWorld} (alone : start.Alone own)
    : Sound own ⟨start, ∅⟩ :=
  ⟨alone, fun _ _ found => absurd found.symm (Option.some_ne_none _),
    fun _ _ found => absurd found.symm (Option.some_ne_none _)⟩

theorem Sound.taken {event : TrackerEvent} {operations : OperationsWorld}
    (sound : world.Sound own) (taken : world.operations.step event = some operations)
    (opens : event ≠ .reopen own)
    : Sound own ⟨operations, world.calls⟩ where
  alone := sound.alone.step taken
  refusing call phase found := refusing_step (sound.refusing call phase found) opens taken
  quiet call phase found interrupted :=
    quiet_step sound.alone
      ⟨sound.refusing call phase found, sound.quiet call phase found interrupted⟩ taken

theorem Sound.call (sound : world.Sound own) (call : Nat) {phase : ShutdownCall}
    (refusing : (world.operations.trackers own).accepting = false)
    (quiet
      : phase.interrupted = true
        → world.operations.registry.Quiet (world.operations.trackers own).ownerId)
    : Sound own ⟨world.operations, world.calls.set call phase⟩ where
  alone := sound.alone
  refusing _ _ _ := refusing
  quiet other stored found interrupted := by
    rw [Dict.get?_set] at found
    split at found
    · obtain rfl := Option.some.inj found
      exact quiet interrupted
    · exact sound.quiet other stored found interrupted

theorem Sound.step {event : LifecycleEvent} (sound : world.Sound own)
    (taken : lifecycleStep own world event = some next)
    : next.Sound own := by
  cases event with
  | act event =>
      simp only [lifecycleStep] at taken
      split at taken
      · cases taken
      · next other =>
          obtain ⟨operations, stepped, rfl⟩ := Option.map_eq_some_iff.mp taken
          refine sound.taken stepped ?_
          rintro rfl
          exact other rfl
  | shutdown call interruptActive =>
      simp only [lifecycleStep] at taken
      split at taken
      · cases taken
      · obtain ⟨operations, stepped, rfl⟩ := Option.map_eq_some_iff.mp taken
        refine (sound.taken stepped (by rintro ⟨⟩)).call call (refusing_close stepped)
          (fun interrupted => ?_)
        cases interruptActive <;> cases interrupted
  | interruptActive call now =>
      simp only [lifecycleStep, Option.ite_none_right_eq_some] at taken
      obtain ⟨waits, taken⟩ := taken
      obtain ⟨operations, stepped, rfl⟩ := Option.map_eq_some_iff.mp taken
      have kept := sound.taken stepped (by rintro ⟨⟩)
      exact kept.call call (kept.refusing call _ waits) (fun _ => quiet_interruptActive stepped)
  | join call stopped =>
      simp only [lifecycleStep] at taken
      split at taken
      · next interrupted waits =>
          cases stopped with
          | true =>
              obtain ⟨operations, stepped, rfl⟩ := Option.map_eq_some_iff.mp taken
              have kept := sound.taken stepped (by rintro ⟨⟩)
              exact kept.call call (kept.refusing call _ waits)
                (fun holds => kept.quiet call (.joining interrupted) waits holds)
          | false =>
              cases taken
              exact sound.call call (sound.refusing call _ waits)
                (fun holds => sound.quiet call (.joining interrupted) waits holds)
      · cases taken

theorem interrupted_step {event : LifecycleEvent} {call : Nat}
    (taken : lifecycleStep own world event = some next)
    (interrupted : (world.calls.get? call).any ShutdownCall.interrupted = true)
    : (next.calls.get? call).any ShutdownCall.interrupted = true := by
  cases event with
  | act event =>
      simp only [lifecycleStep] at taken
      split at taken
      · cases taken
      · obtain ⟨operations, -, rfl⟩ := Option.map_eq_some_iff.mp taken
        exact interrupted
  | shutdown other interruptActive =>
      simp only [lifecycleStep] at taken
      split at taken
      · cases taken
      · next fresh =>
          obtain ⟨operations, -, rfl⟩ := Option.map_eq_some_iff.mp taken
          have apart : call ≠ other := by
            rintro rfl
            rw [Option.not_isSome_iff_eq_none.mp fresh] at interrupted
            cases interrupted
          rw [Dict.get?_set_ne _ _ apart]
          exact interrupted
  | interruptActive other now =>
      simp only [lifecycleStep, Option.ite_none_right_eq_some] at taken
      obtain ⟨operations, -, rfl⟩ := Option.map_eq_some_iff.mp taken.2
      rw [Dict.get?_set]
      split
      · rfl
      · exact interrupted
  | join other stopped =>
      simp only [lifecycleStep] at taken
      split at taken
      · next before waits =>
          have calls : next.calls = world.calls.set other (.returned before stopped) := by
            split at taken
            · obtain ⟨operations, -, rfl⟩ := Option.map_eq_some_iff.mp taken
              rfl
            · cases taken
              rfl
          rw [calls, Dict.get?_set]
          split
          · next same =>
              rw [same, waits] at interrupted
              exact interrupted
          · exact interrupted
      · cases taken

end LifecycleWorld

/-- Once a shutdown that interrupts has returned, nothing of the tracker is active, and no start of
it is admitted, here and in every run from here.
-/
theorem shutdown_ends_operations {own : Nat} {start : OperationsWorld} (alone : start.Alone own)
    {events : List LifecycleEvent} {world : LifecycleWorld}
    (run : Run (lifecycleStep own) (fun _ _ => True) ⟨start, ∅⟩ events world) {call : Nat}
    {stopped : Bool} (returned : world.calls.get? call = some (.returned true stopped))
    {later : List LifecycleEvent} {finish : LifecycleWorld}
    (rest : Run (lifecycleStep own) (fun _ _ => True) world later finish)
    : finish.operations.ShutDown own
      ∧ ∀ id request now, lifecycleStep own finish (.act (.start own id request now)) = none := by
  have sound := (run.append rest).preserves (LifecycleWorld.Sound own)
    (fun sound _ taken => sound.step taken) (.initial alone)
  have interrupted := rest.preserves
    (fun world => (world.calls.get? call).any ShutdownCall.interrupted = true)
    (fun holds _ taken => LifecycleWorld.interrupted_step taken holds)
    (by rw [returned]; rfl)
  obtain ⟨phase, found, holds⟩ := (Option.any_eq_true _ _).mp interrupted
  have refusing := sound.refusing call phase found
  refine ⟨⟨refusing, sound.quiet call phase found holds⟩, fun id request now => ?_⟩
  have refused : finish.operations.step (.start own id request now) = none := by
    rw [OperationsWorld.step]
    rw [if_neg (fun admitted => Bool.false_ne_true (refusing.symm.trans admitted.1))]
  simp only [lifecycleStep, refused, Option.map_none, ite_self]

/-- A start before the shutdown, whose operation the shutdown interrupts, and an update after. -/
def shutdownRun : List LifecycleEvent :=
  [.act (.start 0 "scan-1" scanRequest 1), .act (.started 0), .shutdown 7 true,
    .interruptActive 7 2, .join 7 true]

theorem shutdown_ends_operations_shutdownRun
    : ∃ world,
        Run (lifecycleStep 0) (fun _ _ => True) ⟨twoTrackers, ∅⟩ shutdownRun world
        ∧ (world.operations.registry.get? "scan-1").any (·.status = .interrupted) = true
        ∧ world.operations.ShutDown 0 := by
  have reached
      : ∃ world,
          Run (lifecycleStep 0) (fun _ _ => True) ⟨twoTrackers, ∅⟩ shutdownRun world
          ∧ (world.operations.registry.get? "scan-1").any (·.status = .interrupted) = true
          ∧ world.calls.get? 7 = some (.returned true true) :=
    Run.exists_of_execute (by decide)
  obtain ⟨world, run, interrupted, returned⟩ := reached
  have alone : twoTrackers.Alone 0 := by
    intro other apart
    simp [twoTrackers, apart]
  exact ⟨world, run, interrupted, (shutdown_ends_operations alone run returned (.nil world)).1⟩

end OctoHubs.Operations
