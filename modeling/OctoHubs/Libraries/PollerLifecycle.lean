import OctoHubs.Library.Dict
import OctoHubs.Library.Runs

/-! The poller that follows library scans. Resets, shutdowns and reopenings, which may overlap,
decide whether it accepts tasks: after resets it does as long as the last one to end is the last
one to have begun.
-/

namespace OctoHubs.Libraries

open OctoHubs.Library

-- The poller

inductive LifecycleState
  | open_
  | resetting
  | closed
deriving DecidableEq, Repr

/-- What the lifecycle lock guards. -/
structure Lifecycle where
  acceptTasks : Bool
  lifecycleState : LifecycleState
  lifecycleGeneration : Nat
  activeResets : Nat
  activeTerminalDrains : Nat

namespace Lifecycle

def beginTerminalShutdown (lifecycle : Lifecycle) : Lifecycle × Nat :=
  let generation := lifecycle.lifecycleGeneration + 1
  ({ lifecycle with
      lifecycleGeneration := generation
      lifecycleState := .closed
      acceptTasks := false
      activeTerminalDrains := lifecycle.activeTerminalDrains + 1 },
    generation)

def finishTerminalShutdown (lifecycle : Lifecycle) (generation : Nat) : Lifecycle :=
  let activeTerminalDrains := lifecycle.activeTerminalDrains - 1
  if activeTerminalDrains = 0 then
    { lifecycle with
      activeTerminalDrains
      lifecycleGeneration := max lifecycle.lifecycleGeneration generation
      lifecycleState := .closed
      acceptTasks := false }
  else { lifecycle with activeTerminalDrains }

def beginOperationalReset (lifecycle : Lifecycle) : Lifecycle × Nat :=
  let generation := lifecycle.lifecycleGeneration + 1
  ({ lifecycle with
      lifecycleGeneration := generation
      activeResets := lifecycle.activeResets + 1
      lifecycleState :=
        if lifecycle.lifecycleState = .open_ then .resetting else lifecycle.lifecycleState
      acceptTasks := false },
    generation)

def finishOperationalReset (lifecycle : Lifecycle) (generation : Nat) : Lifecycle :=
  let activeResets := lifecycle.activeResets - 1
  if activeResets = 0 ∧ lifecycle.lifecycleState = .resetting
      ∧ generation = lifecycle.lifecycleGeneration then
    { lifecycle with activeResets, lifecycleState := .open_, acceptTasks := true }
  else { lifecycle with activeResets }

def reopen (lifecycle : Lifecycle) : Lifecycle :=
  { lifecycle with
    lifecycleGeneration := lifecycle.lifecycleGeneration + 1
    lifecycleState := .open_
    acceptTasks := true }

end Lifecycle

/-- A start that a scan worker has queued, under the generations of that moment. -/
structure ScheduledStart where
  serverId : String
  expectedGeneration : Nat
  expectedLifecycleGeneration : Nat

/-- The poller with its live tasks: those that poll a server, those that run beside them, and the
blocking calls that outlive a cancellation.
-/
structure LibraryPoller where
  lifecycle : Lifecycle
  pollingTasks : List String
  backgroundTasks : Nat
  workerThreadCalls : List String
  serverGenerations : Dict String Nat
  blockedServers : List String
  scheduledStarts : List ScheduledStart

namespace LibraryPoller

def new : LibraryPoller := ⟨⟨true, .open_, 0, 0, 0⟩, [], 0, [], ∅, [], []⟩

def nextGeneration (serverGenerations : Dict String Nat) (serverId : String) : Dict String Nat :=
  serverGenerations.set serverId ((serverGenerations.get? serverId).getD 0 + 1)

def allowServer (poller : LibraryPoller) (serverId : String) : LibraryPoller :=
  { poller with
    blockedServers := poller.blockedServers.filter (· ≠ serverId)
    serverGenerations := nextGeneration poller.serverGenerations serverId }

def invalidateServerStarts (poller : LibraryPoller) (serverId : String) : LibraryPoller :=
  { poller with
    serverGenerations := nextGeneration poller.serverGenerations serverId
    scheduledStarts := poller.scheduledStarts.filter (·.serverId ≠ serverId) }

def invalidateAllStarts (poller : LibraryPoller) : LibraryPoller :=
  let serverIds :=
    (poller.serverGenerations.keys ++ poller.scheduledStarts.map (·.serverId)).eraseDups
  { poller with
    serverGenerations := serverIds.foldl nextGeneration poller.serverGenerations
    scheduledStarts := [] }

/-- Queue a start, unless the poller is closed or the server blocked. -/
def scheduleTrackingLibrary (poller : LibraryPoller) (serverId : String)
    : LibraryPoller × Bool :=
  if !poller.lifecycle.acceptTasks || serverId ∈ poller.blockedServers then (poller, false)
  else
    let start : ScheduledStart :=
      { serverId
        expectedGeneration := (poller.serverGenerations.get? serverId).getD 0
        expectedLifecycleGeneration := poller.lifecycle.lifecycleGeneration }
    ({ poller with
        serverGenerations := poller.serverGenerations.setDefault serverId 0
        scheduledStarts := poller.scheduledStarts ++ [start] },
      true)

def spawnBackgroundTask (poller : LibraryPoller) : LibraryPoller :=
  if poller.lifecycle.acceptTasks then
    { poller with backgroundTasks := poller.backgroundTasks + 1 }
  else poller

/-- Poll a server, unless the start is stale, the server blocked or the poller closed. -/
def startTrackingLibrary (poller : LibraryPoller) (serverId : String)
    (expectedGeneration expectedLifecycleGeneration : Option Nat)
    : LibraryPoller :=
  -- a server with a queued start has its generation already, so that reading it adds none
  let current := (poller.serverGenerations.get? serverId).getD 0
  if !poller.lifecycle.acceptTasks then poller
  else if expectedLifecycleGeneration.any (· ≠ poller.lifecycle.lifecycleGeneration) then poller
  else if expectedGeneration.any (· ≠ current) || serverId ∈ poller.blockedServers then poller
  else
    { poller with
      pollingTasks :=
        if serverId ∈ poller.pollingTasks then poller.pollingTasks
        else poller.pollingTasks ++ [serverId] }.spawnBackgroundTask

/-- What a stop cancels of the tasks, once it has the lock. -/
def cancelTasks (poller : LibraryPoller) : LibraryPoller :=
  { poller with pollingTasks := [], backgroundTasks := 0 }

def stopServer (poller : LibraryPoller) (serverId : String) : LibraryPoller :=
  let blocked := { poller with blockedServers := poller.blockedServers ++ [serverId] }
  let invalidated := blocked.invalidateServerStarts serverId
  { invalidated with pollingTasks := invalidated.pollingTasks.filter (· ≠ serverId) }

/-- A task, a queued start, a reset or a shutdown has not come to its end. -/
def busy (poller : LibraryPoller) : Bool :=
  poller.pollingTasks ≠ [] || poller.backgroundTasks ≠ 0 || poller.workerThreadCalls ≠ []
  || !poller.scheduledStarts.isEmpty || poller.lifecycle.activeResets ≠ 0
  || poller.lifecycle.activeTerminalDrains ≠ 0

def configure (poller : LibraryPoller) (reopen : Bool) : Except String LibraryPoller :=
  if !reopen then .ok poller
  else if poller.busy then .error "Library poller ancora attivo durante la riapertura"
  else .ok { poller with lifecycle := poller.lifecycle.reopen }

theorem lifecycle_spawnBackgroundTask (poller : LibraryPoller)
    : poller.spawnBackgroundTask.lifecycle = poller.lifecycle := by
  unfold spawnBackgroundTask
  split <;> rfl

theorem lifecycle_startTrackingLibrary (poller : LibraryPoller) (serverId : String)
    (expectedGeneration expectedLifecycleGeneration : Option Nat)
    : (poller.startTrackingLibrary serverId expectedGeneration
        expectedLifecycleGeneration).lifecycle = poller.lifecycle := by
  unfold startTrackingLibrary
  dsimp only
  split
  · rfl
  · split
    · rfl
    · split
      · rfl
      · exact lifecycle_spawnBackgroundTask _

theorem lifecycle_scheduleTrackingLibrary (poller : LibraryPoller) (serverId : String)
    : (poller.scheduleTrackingLibrary serverId).1.lifecycle = poller.lifecycle := by
  unfold scheduleTrackingLibrary
  split <;> rfl

end LibraryPoller

-- Resets, shutdowns and reopenings

/-- The poller with the generations of the resets and of the shutdowns in progress, and whether it
was shut down since it was last opened.
-/
structure PollerWorld where
  poller : LibraryPoller
  resets : List Nat
  shutdowns : List Nat
  shutDown : Bool

def PollerWorld.initial : PollerWorld := ⟨.new, [], [], false⟩

inductive PollerEvent
  | beginReset
  | finishReset (index : Nat)
  | beginShutdown
  | finishShutdown (index : Nat)
  | cancelTasks
  | configure (reopen : Bool)
  | schedule (serverId : String)
  | start (index : Nat)
  | track (serverId : String)
  | spawn
  | spawnEnds
  | pollingEnds (serverId : String)
  | callWorker (owner : String)
  | workerEnds (index : Nat)
  | stopServer (serverId : String)
  | allowServer (serverId : String)

/-- A task changes, and nothing of the lifecycle. -/
def PollerWorld.withPoller (world : PollerWorld) (poller : LibraryPoller) : PollerWorld :=
  { world with poller }

/-- One step between two awaits. A stop cancels tasks at some time between its begin and its end;
the end comes even when the stop fails.
-/
def pollerStep (world : PollerWorld) : PollerEvent → Option PollerWorld
  | .beginReset =>
      let (lifecycle, generation) := world.poller.lifecycle.beginOperationalReset
      some
        { world with
          poller := ({ world.poller with lifecycle } : LibraryPoller).invalidateAllStarts
          resets := world.resets ++ [generation] }
  | .finishReset index =>
      world.resets[index]?.map (fun generation =>
        { world with
          poller :=
            { world.poller with
              lifecycle := world.poller.lifecycle.finishOperationalReset generation }
          resets := world.resets.eraseIdx index })
  | .beginShutdown =>
      let (lifecycle, generation) := world.poller.lifecycle.beginTerminalShutdown
      some
        { world with
          poller := ({ world.poller with lifecycle } : LibraryPoller).invalidateAllStarts
          shutdowns := world.shutdowns ++ [generation]
          shutDown := true }
  | .finishShutdown index =>
      world.shutdowns[index]?.map (fun generation =>
        { world with
          poller :=
            { world.poller with
              lifecycle := world.poller.lifecycle.finishTerminalShutdown generation }
          shutdowns := world.shutdowns.eraseIdx index })
  | .cancelTasks =>
      if world.resets = [] ∧ world.shutdowns = [] then none
      else some (world.withPoller world.poller.cancelTasks)
  | .configure reopen =>
      match world.poller.configure reopen with
      | .error _ => some world
      | .ok poller => some { world with poller, shutDown := !reopen && world.shutDown }
  | .schedule serverId =>
      some (world.withPoller (world.poller.scheduleTrackingLibrary serverId).1)
  | .start index =>
      world.poller.scheduledStarts[index]?.map (fun start =>
        let taken :=
          { world.poller with
            scheduledStarts := world.poller.scheduledStarts.eraseIdx index }
        world.withPoller (taken.startTrackingLibrary start.serverId (some start.expectedGeneration)
          (some start.expectedLifecycleGeneration)))
  | .track serverId =>
      some (world.withPoller (world.poller.startTrackingLibrary serverId none none))
  | .spawn => some (world.withPoller world.poller.spawnBackgroundTask)
  | .spawnEnds =>
      some
        (world.withPoller
          { world.poller with backgroundTasks := world.poller.backgroundTasks - 1 })
  | .pollingEnds serverId =>
      some
        (world.withPoller
          { world.poller with
            pollingTasks := world.poller.pollingTasks.filter (· ≠ serverId) })
  | .callWorker owner =>
      some
        (world.withPoller
          { world.poller with
            workerThreadCalls := world.poller.workerThreadCalls ++ [owner] })
  | .workerEnds index =>
      some
        (world.withPoller
          { world.poller with
            workerThreadCalls := world.poller.workerThreadCalls.eraseIdx index })
  | .stopServer serverId => some (world.withPoller (world.poller.stopServer serverId))
  | .allowServer serverId => some (world.withPoller (world.poller.allowServer serverId))

inductive LifecycleStep (world next : PollerWorld) (event : PollerEvent) : Prop
  | kept
    (lifecycle : next.poller.lifecycle = world.poller.lifecycle)
    (resets : next.resets = world.resets) (shutdowns : next.shutdowns = world.shutdowns)
    (shutDown : next.shutDown = world.shutDown)
    (other : ∀ index, event ≠ .finishReset index)
  | resetBegun
    (lifecycle
      : next.poller.lifecycle = world.poller.lifecycle.beginOperationalReset.1)
    (resets : next.resets = world.resets ++ [world.poller.lifecycle.lifecycleGeneration + 1])
    (shutdowns : next.shutdowns = world.shutdowns) (shutDown : next.shutDown = world.shutDown)
    (other : ∀ index, event ≠ .finishReset index)
  | resetFinished {index generation : Nat} (same : event = .finishReset index)
    (found : world.resets[index]? = some generation)
    (lifecycle
      : next.poller.lifecycle = world.poller.lifecycle.finishOperationalReset generation)
    (resets : next.resets = world.resets.eraseIdx index)
    (shutdowns : next.shutdowns = world.shutdowns) (shutDown : next.shutDown = world.shutDown)
  | shutdownBegun {generation : Nat}
    (lifecycle
      : next.poller.lifecycle = world.poller.lifecycle.beginTerminalShutdown.1)
    (resets : next.resets = world.resets)
    (shutdowns : next.shutdowns = world.shutdowns ++ [generation])
    (shutDown : next.shutDown = true) (other : ∀ index, event ≠ .finishReset index)
  | shutdownFinished {index generation : Nat}
    (found : world.shutdowns[index]? = some generation)
    (lifecycle
      : next.poller.lifecycle = world.poller.lifecycle.finishTerminalShutdown generation)
    (resets : next.resets = world.resets)
    (shutdowns : next.shutdowns = world.shutdowns.eraseIdx index)
    (shutDown : next.shutDown = world.shutDown) (other : ∀ index, event ≠ .finishReset index)
  | reopened (idle : world.poller.busy = false)
    (lifecycle : next.poller.lifecycle = world.poller.lifecycle.reopen)
    (resets : next.resets = world.resets) (shutdowns : next.shutdowns = world.shutdowns)
    (shutDown : next.shutDown = false) (other : ∀ index, event ≠ .finishReset index)

theorem LifecycleStep.withPoller {world : PollerWorld} {event : PollerEvent}
    {poller : LibraryPoller} (lifecycle : poller.lifecycle = world.poller.lifecycle)
    (other : ∀ index, event ≠ .finishReset index)
    : LifecycleStep world (world.withPoller poller) event :=
  .kept lifecycle rfl rfl rfl other

/-- Every step is one of the six kinds, by cases on the event. -/
theorem pollerStep_cases {world next : PollerWorld} {event : PollerEvent}
    (taken : pollerStep world event = some next)
    : LifecycleStep world next event := by
  cases event with
  | beginReset =>
      cases taken
      exact .resetBegun rfl rfl rfl rfl nofun
  | finishReset index =>
      obtain ⟨generation, found, rfl⟩ := Option.map_eq_some_iff.mp taken
      exact .resetFinished rfl found rfl rfl rfl rfl
  | beginShutdown =>
      cases taken
      exact .shutdownBegun rfl rfl rfl rfl nofun
  | finishShutdown index =>
      obtain ⟨generation, found, rfl⟩ := Option.map_eq_some_iff.mp taken
      exact .shutdownFinished found rfl rfl rfl rfl nofun
  | cancelTasks =>
      simp only [pollerStep] at taken
      split at taken
      · cases taken
      · cases taken
        exact .withPoller rfl nofun
  | configure reopen =>
      simp only [pollerStep, LibraryPoller.configure] at taken
      cases reopen with
      | false =>
          cases taken
          exact .kept rfl rfl rfl rfl nofun
      | true =>
          cases busy : world.poller.busy with
          | true =>
              simp only [busy] at taken
              cases taken
              exact .kept rfl rfl rfl rfl nofun
          | false =>
              simp only [busy] at taken
              cases taken
              exact .reopened busy rfl rfl rfl rfl nofun
  | schedule serverId =>
      cases taken
      exact .withPoller (world.poller.lifecycle_scheduleTrackingLibrary serverId) nofun
  | start index =>
      obtain ⟨start, found, rfl⟩ := Option.map_eq_some_iff.mp taken
      exact .withPoller (LibraryPoller.lifecycle_startTrackingLibrary _ _ _ _) nofun
  | track serverId =>
      cases taken
      exact .withPoller (LibraryPoller.lifecycle_startTrackingLibrary _ _ _ _) nofun
  | spawn =>
      cases taken
      exact .withPoller (LibraryPoller.lifecycle_spawnBackgroundTask _) nofun
  | _ =>
      cases taken
      exact .withPoller rfl nofun

-- Open again

/-- The lifecycle agrees with what is in progress. -/
structure PollerWorld.Sound (world : PollerWorld) : Prop where
  resets : world.poller.lifecycle.activeResets = world.resets.length
  drains : world.poller.lifecycle.activeTerminalDrains = world.shutdowns.length
  accepts
    : world.poller.lifecycle.acceptTasks = true ↔ world.poller.lifecycle.lifecycleState = .open_
  closed : world.poller.lifecycle.lifecycleState = .closed ↔ world.shutDown = true
  opened : world.poller.lifecycle.lifecycleState = .open_ → world.resets = []
  draining : world.shutdowns ≠ [] → world.poller.lifecycle.lifecycleState = .closed

/-- With no reset and no shutdown in progress, the poller accepts tasks exactly when it was not
shut down since it was last opened.
-/
def PollerWorld.Reopened (world : PollerWorld) : Prop :=
  world.resets = []
  → world.shutdowns = []
  → (world.poller.lifecycle.acceptTasks = true ↔ world.shutDown = false)

theorem PollerWorld.sound_initial : PollerWorld.initial.Sound where
  resets := rfl
  drains := rfl
  accepts := ⟨fun _ => rfl, fun _ => rfl⟩
  closed := ⟨nofun, nofun⟩
  opened _ := rfl
  draining filled := absurd rfl filled

theorem PollerWorld.reopened_initial : PollerWorld.initial.Reopened :=
  fun _ _ => ⟨fun _ => rfl, fun _ => rfl⟩

theorem PollerWorld.Sound.reopened_iff {world : PollerWorld} (sound : world.Sound)
    : world.Reopened
      ↔ (world.resets = [] → world.poller.lifecycle.lifecycleState ≠ .resetting) := by
  constructor
  · intro reopened idle resetting
    have undrained : world.shutdowns = [] := by
      by_contra draining
      rw [sound.draining draining] at resetting
      cases resetting
    have running : world.shutDown = false := by
      rw [← Bool.not_eq_true, ← sound.closed, resetting]
      nofun
    have accepts := sound.accepts.mp ((reopened idle undrained).mpr running)
    rw [resetting] at accepts
    cases accepts
  · intro settled idle _
    rw [sound.accepts, ← Bool.not_eq_true, ← sound.closed]
    cases state : world.poller.lifecycle.lifecycleState with
    | open_ => exact ⟨nofun, fun _ => rfl⟩
    | resetting => exact absurd state (settled idle)
    | closed => exact ⟨nofun, fun running => absurd rfl running⟩

theorem lifecycle_of_not_busy {poller : LibraryPoller} (idle : poller.busy = false)
    : poller.lifecycle.activeResets = 0 ∧ poller.lifecycle.activeTerminalDrains = 0 := by
  unfold LibraryPoller.busy at idle
  rw [Bool.or_eq_false_iff, Bool.or_eq_false_iff] at idle
  obtain ⟨⟨-, resets⟩, drains⟩ := idle
  rw [decide_eq_false_iff_not, not_not] at resets drains
  exact ⟨resets, drains⟩

theorem length_eraseIdx_of_getElem? {α : Type*} {entries : List α} {index : Nat} {entry : α}
    (found : entries[index]? = some entry)
    : (entries.eraseIdx index).length = entries.length - 1 := by
  obtain ⟨bound, -⟩ := List.getElem?_eq_some_iff.mp found
  exact List.length_eraseIdx_of_lt bound

theorem PollerWorld.Sound.step {world next : PollerWorld} {event : PollerEvent}
    (sound : world.Sound) (step : LifecycleStep world next event)
    : next.Sound := by
  cases step with
  | kept lifecycle resets shutdowns shutDown =>
      constructor <;> rw [lifecycle]
      · exact resets ▸ sound.resets
      · exact shutdowns ▸ sound.drains
      · exact sound.accepts
      · exact shutDown ▸ sound.closed
      · exact resets ▸ sound.opened
      · exact shutdowns ▸ sound.draining
  | resetBegun lifecycle resets shutdowns shutDown =>
      constructor <;> rw [lifecycle]
      · rw [resets, List.length_append, ← sound.resets]
        rfl
      · exact shutdowns ▸ sound.drains
      · simp only [Lifecycle.beginOperationalReset]
        refine ⟨nofun, ?_⟩
        split
        · nofun
        · exact fun opened => absurd opened ‹_›
      · rw [shutDown, ← sound.closed]
        simp only [Lifecycle.beginOperationalReset]
        split
        · next opened =>
            rw [opened]
            exact ⟨nofun, nofun⟩
        · exact Iff.rfl
      · simp only [Lifecycle.beginOperationalReset]
        split
        · nofun
        · exact fun opened => absurd opened ‹_›
      · intro draining
        have closed := sound.draining (shutdowns ▸ draining)
        simp only [Lifecycle.beginOperationalReset, closed]
        rfl
  | @resetFinished index generation same found lifecycle resets shutdowns shutDown =>
      have fewer := length_eraseIdx_of_getElem? found
      rw [← sound.resets] at fewer
      rw [Lifecycle.finishOperationalReset] at lifecycle
      split at lifecycle
      · next last =>
          obtain ⟨none_, resetting, -⟩ := last
          constructor <;> rw [lifecycle]
          · rw [resets, fewer]
          · exact shutdowns ▸ sound.drains
          · exact ⟨fun _ => rfl, fun _ => rfl⟩
          · rw [shutDown, ← sound.closed, resetting]
            exact ⟨nofun, nofun⟩
          · intro _
            rw [resets]
            exact List.eq_nil_of_length_eq_zero (fewer.trans none_)
          · intro draining
            have closed := sound.draining (shutdowns ▸ draining)
            rw [resetting] at closed
            cases closed
      · constructor <;> rw [lifecycle]
        · rw [resets, fewer]
        · exact shutdowns ▸ sound.drains
        · exact sound.accepts
        · exact shutDown ▸ sound.closed
        · intro opened
          have idle := sound.opened opened
          rw [resets, idle, List.eraseIdx_nil]
        · exact shutdowns ▸ sound.draining
  | shutdownBegun lifecycle resets shutdowns shutDown =>
      constructor <;> rw [lifecycle]
      · exact resets ▸ sound.resets
      · rw [shutdowns, List.length_append, ← sound.drains]
        rfl
      · exact ⟨nofun, nofun⟩
      · exact ⟨fun _ => shutDown, fun _ => rfl⟩
      · nofun
      · exact fun _ => rfl
  | @shutdownFinished index generation found lifecycle resets shutdowns shutDown =>
      have fewer := length_eraseIdx_of_getElem? found
      rw [← sound.drains] at fewer
      have draining : world.shutdowns ≠ [] := by
        intro none_
        rw [none_] at found
        cases found
      have closed := sound.draining draining
      have state : next.poller.lifecycle.lifecycleState = .closed := by
        rw [lifecycle, Lifecycle.finishTerminalShutdown]
        split
        · rfl
        · exact closed
      have refuses : next.poller.lifecycle.acceptTasks = false := by
        rw [lifecycle, Lifecycle.finishTerminalShutdown]
        split
        · rfl
        · rw [← Bool.not_eq_true, sound.accepts, closed]
          nofun
      constructor
      · rw [resets, ← sound.resets, lifecycle, Lifecycle.finishTerminalShutdown]
        split <;> rfl
      · rw [shutdowns, fewer, lifecycle, Lifecycle.finishTerminalShutdown]
        split <;> rfl
      · rw [refuses, state]
        exact ⟨nofun, nofun⟩
      · rw [state, shutDown, ← sound.closed]
        exact ⟨fun _ => closed, fun _ => rfl⟩
      · rw [state]
        nofun
      · exact fun _ => state
  | reopened idle lifecycle resets shutdowns shutDown =>
      obtain ⟨noResets, noDrains⟩ := lifecycle_of_not_busy idle
      have idleResets : world.resets = [] :=
        List.eq_nil_of_length_eq_zero (sound.resets.symm.trans noResets)
      have idleShutdowns : world.shutdowns = [] :=
        List.eq_nil_of_length_eq_zero (sound.drains.symm.trans noDrains)
      constructor <;> rw [lifecycle]
      · exact resets ▸ sound.resets
      · exact shutdowns ▸ sound.drains
      · exact ⟨fun _ => rfl, fun _ => rfl⟩
      · rw [shutDown]
        exact ⟨nofun, nofun⟩
      · exact fun _ => resets.trans idleResets
      · intro draining
        exact absurd (shutdowns.trans idleShutdowns) draining

/-- Every state that the step leads to is open again when it is idle. -/
def Reopens (world : PollerWorld) (event : PollerEvent) : Prop :=
  ∀ next, pollerStep world event = some next → next.Reopened

/-- The last of overlapping resets to end, if no shutdown came between, is the last one to have
begun.
-/
def LatestEndsLast (world : PollerWorld) (event : PollerEvent) : Prop :=
  ∀ index generation,
    event = .finishReset index
    → world.resets[index]? = some generation
    → world.resets.length = 1
    → world.poller.lifecycle.lifecycleState = .resetting
    → generation = world.poller.lifecycle.lifecycleGeneration

theorem reopens_iff {world : PollerWorld} (sound : world.Sound) (reopened : world.Reopened)
    (event : PollerEvent)
    : Reopens world event ↔ LatestEndsLast world event := by
  constructor
  · intro reopens index generation same found single resetting
    subst same
    obtain ⟨next, taken⟩ : ∃ next, pollerStep world (.finishReset index) = some next :=
      ⟨_, by rw [pollerStep, found, Option.map_some]⟩
    by_contra stale
    cases pollerStep_cases taken with
    | @resetFinished _ _ same found' lifecycle resets shutdowns shutDown =>
        cases same
        rw [found] at found'
        cases found'
        have nextSound := sound.step (pollerStep_cases taken)
        have idle : next.resets = [] := by
          apply List.eq_nil_of_length_eq_zero
          rw [resets, length_eraseIdx_of_getElem? found, single]
        refine nextSound.reopened_iff.mp (reopens next taken) idle ?_
        rw [lifecycle, Lifecycle.finishOperationalReset, if_neg (fun last => stale last.2.2)]
        exact resetting
    | kept _ _ _ _ other => exact other index rfl
    | resetBegun _ _ _ _ other => exact other index rfl
    | shutdownBegun _ _ _ _ other => exact other index rfl
    | shutdownFinished _ _ _ _ _ other => exact other index rfl
    | reopened _ _ _ _ _ other => exact other index rfl
  · intro latest next taken
    have step := pollerStep_cases taken
    have nextSound := sound.step step
    rw [nextSound.reopened_iff]
    have settled := sound.reopened_iff.mp reopened
    intro idle
    cases step with
    | kept lifecycle resets => exact lifecycle ▸ settled (resets ▸ idle)
    | resetBegun lifecycle resets =>
        rw [resets] at idle
        exact absurd idle (List.append_ne_nil_of_right_ne_nil _ nofun)
    | shutdownBegun lifecycle =>
        rw [lifecycle]
        nofun
    | shutdownFinished found lifecycle resets =>
        rw [lifecycle, Lifecycle.finishTerminalShutdown]
        split
        · nofun
        · exact settled (resets ▸ idle)
    | reopened idle lifecycle =>
        rw [lifecycle]
        nofun
    | @resetFinished index generation same found lifecycle resets =>
        have fewer := length_eraseIdx_of_getElem? found
        obtain ⟨bound, -⟩ := List.getElem?_eq_some_iff.mp found
        rw [← resets, idle, List.length_nil] at fewer
        have single : world.resets.length = 1 := by omega
        rw [lifecycle, Lifecycle.finishOperationalReset]
        split
        · nofun
        · next unfinished =>
            intro resetting
            refine unfinished ⟨?_, resetting, latest index generation same found single resetting⟩
            rw [sound.resets, single]

/-- In every run the poller opens again after its resets exactly when the last of overlapping
resets to end is always the last one to have begun.
-/
theorem poller_reopens_iff (events : List PollerEvent) (finish : PollerWorld)
    : (Run pollerStep Reopens .initial events finish
        ↔ Run pollerStep LatestEndsLast .initial events finish)
      ∧ (Run pollerStep LatestEndsLast .initial events finish → finish.Reopened) := by
  have kept {world next : PollerWorld} {event : PollerEvent}
      (holds : world.Sound ∧ world.Reopened) (latest : LatestEndsLast world event)
      (taken : pollerStep world event = some next)
      : next.Sound ∧ next.Reopened :=
    ⟨holds.1.step (pollerStep_cases taken),
      (reopens_iff holds.1 holds.2 event).mpr latest next taken⟩
  constructor
  · apply Run.iff_of_invariant (fun world => world.Sound ∧ world.Reopened)
    · exact fun holds => reopens_iff holds.1 holds.2 _
    · exact fun holds reopens taken =>
        kept holds ((reopens_iff holds.1 holds.2 _).mp reopens) taken
    · exact ⟨PollerWorld.sound_initial, PollerWorld.reopened_initial⟩
  · intro run
    exact (run.preserves (fun world => world.Sound ∧ world.Reopened) kept
      ⟨PollerWorld.sound_initial, PollerWorld.reopened_initial⟩).2

/-- Two resets overlap, and the one that began first ends last. -/
def overlappingResets : List PollerEvent :=
  [.beginReset, .beginReset, .cancelTasks, .finishReset 1, .finishReset 0]

/-- The poller was never shut down and nothing is in progress, but it accepts no task. -/
theorem overlapping_resets_leave_closed
    : ∃ world,
        Run pollerStep (fun _ _ => True) .initial overlappingResets world
        ∧ world.resets = []
        ∧ world.shutdowns = []
        ∧ world.shutDown = false
        ∧ world.poller.lifecycle.acceptTasks = false :=
  Run.exists_of_execute (by decide)

end OctoHubs.Libraries
