import OctoHubs.Libraries.ServerStops

/-! A stopped server stays untracked, and a start that a stop or a reset has overtaken never takes
effect. The generations only grow, so that an outdated start expects a smaller one.
-/

namespace OctoHubs.Libraries

open OctoHubs.Library

namespace StopWorld

/-- No library of the server is tracked, and no state is one of its libraries. -/
def Untracked (world : StopWorld) (serverId : String) : Prop :=
  (world.trackedLibraries.get? serverId).getD [] = []
  ∧ ∀ key library, world.libraryStates.get? key = some library → library.serverId ≠ serverId

/-- The server is blocked, and nothing of it is tracked. -/
def Fenced (world : StopWorld) (serverId : String) : Prop :=
  serverId ∈ world.poller.blockedServers
  ∧ (world.trackedLibraries.get? serverId).getD [] = []

/-- A start expects no generation that is still to come, and an outdated one an earlier one. -/
structure StartSound (poller : LibraryPoller) (start : TrackingStart) : Prop where
  lifecycle
    : ∃ generation,
        start.expectedLifecycleGeneration = some generation
        ∧ generation ≤ poller.lifecycle.lifecycleGeneration
        ∧ (start.outdated = true
          → generation < poller.lifecycle.lifecycleGeneration
            ∨ start.expectedGeneration.any (· < poller.serverGeneration start.serverId) = true)
  server
    : ∀ generation,
        start.expectedGeneration = some generation
        → generation ≤ poller.serverGeneration start.serverId

/-- What a task of the loop has found in its checks. -/
def TaskSound (world : StopWorld) : Prop :=
  match world.task with
  | .checksServer start =>
      start.outdated = true
      → start.expectedGeneration.any (· < world.poller.serverGeneration start.serverId) = true
  | .checksBlocked start => start.outdated = false
  | .admitted start =>
      start.outdated = false
      ∧ start.serverId ∉ world.stopped
      ∧ ∀ stop ∈ world.stops, stop.serverId = start.serverId → stop.allowed = true
  | .blocked stop => stop.allowed = false → stop.serverId ∈ world.poller.blockedServers
  | .invalidated stop => stop.allowed = false → stop.serverId ∈ world.poller.blockedServers
  | _ => True

structure Sound (world : StopWorld) : Prop where
  keyed
    : ∀ key library,
        world.libraryStates.get? key = some library
        → key = stateKey library.serverId library.libraryId
          ∧ library.libraryId ∈ (world.trackedLibraries.get? library.serverId).getD []
  stopped : ∀ serverId ∈ world.stopped, world.Fenced serverId
  stops : ∀ stop ∈ world.stops, stop.allowed = false → world.Fenced stop.serverId
  starts : ∀ start ∈ world.starts, StartSound world.poller start
  calls : ∀ call ∈ world.calls, StartSound world.poller call.start
  task : world.TaskSound

theorem sound_initial : initial.Sound := by
  refine ⟨?_, ?_, ?_, ?_, ?_, trivial⟩
  · intro key library found
    cases found
  all_goals
    intro entry member
    cases member

theorem Sound.untracked {world : StopWorld} (sound : world.Sound) {serverId : String}
    (fenced : world.Fenced serverId)
    : world.Untracked serverId := by
  refine ⟨fenced.2, fun key library found same => ?_⟩
  have member := (sound.keyed key library found).2
  rw [same, fenced.2] at member
  cases member

end StopWorld

section Generations

/-- The generations of one state are at most those of the other. -/
structure LibraryPoller.Grows (poller next : LibraryPoller) : Prop where
  lifecycle : poller.lifecycle.lifecycleGeneration ≤ next.lifecycle.lifecycleGeneration
  server : ∀ serverId, poller.serverGeneration serverId ≤ next.serverGeneration serverId

theorem getD_nextGeneration (generations : Dict String Nat) (serverId other : String)
    : ((LibraryPoller.nextGeneration generations serverId).get? other).getD 0
      = (generations.get? other).getD 0 + if other = serverId then 1 else 0 := by
  unfold LibraryPoller.nextGeneration
  rw [Dict.get?_set]
  by_cases same : other = serverId
  · rw [if_pos same, if_pos same, same, Option.getD_some]
  · rw [if_neg same, if_neg same]
    rfl

theorem getD_setDefault (generations : Dict String Nat) (serverId other : String)
    : ((generations.setDefault serverId 0).get? other).getD 0
      = (generations.get? other).getD 0 := by
  unfold Dict.setDefault
  split
  · rfl
  · next fresh =>
      rw [Dict.get?_set]
      split
      · next same =>
          rw [same, Option.not_isSome_iff_eq_none.mp fresh]
          rfl
      · rfl

theorem getD_foldl_nextGeneration (servers : List String) (generations : Dict String Nat)
    (other : String)
    : (generations.get? other).getD 0
      ≤ ((servers.foldl LibraryPoller.nextGeneration generations).get? other).getD 0 := by
  induction servers generalizing generations with
  | nil => exact le_rfl
  | cons serverId rest ih =>
      refine le_trans ?_ (ih (LibraryPoller.nextGeneration generations serverId))
      rw [getD_nextGeneration]
      exact Nat.le_add_right _ _

variable {poller next : LibraryPoller}

theorem LibraryPoller.Grows.withServerGeneration (serverId : String)
    : poller.Grows (poller.withServerGeneration serverId) :=
  ⟨le_rfl, fun _ => (getD_setDefault _ _ _).ge⟩

theorem LibraryPoller.Grows.of_generations
    (lifecycle : poller.lifecycle.lifecycleGeneration ≤ next.lifecycle.lifecycleGeneration)
    (generations : next.serverGenerations = poller.serverGenerations)
    : poller.Grows next := by
  refine ⟨lifecycle, fun serverId => ?_⟩
  unfold serverGeneration
  rw [generations]

theorem any_lt_mono {expected : Option Nat} {current later : Nat}
    (stale : expected.any (· < current) = true) (le : current ≤ later)
    : expected.any (· < later) = true := by
  rw [Option.any_eq_true] at stale ⊢
  rcases stale with ⟨generation, known, smaller⟩
  refine ⟨generation, known, ?_⟩
  rw [decide_eq_true_eq] at smaller ⊢
  exact smaller.trans_le le

theorem StopWorld.StartSound.grow {start : TrackingStart} (sound : StartSound poller start)
    (grows : poller.Grows next)
    : StartSound next start := by
  rcases sound.lifecycle with ⟨generation, expected, bound, late⟩
  refine ⟨⟨generation, expected, bound.trans grows.lifecycle, fun outdated => ?_⟩,
    fun expectedGeneration known =>
      (sound.server expectedGeneration known).trans (grows.server _)⟩
  rcases late outdated with earlier | stale
  · exact .inl (earlier.trans_le grows.lifecycle)
  · exact .inr (any_lt_mono stale (grows.server _))

end Generations

section Keeping

namespace StopWorld

variable {world next : StopWorld}

theorem TaskSound.keep (sound : world.TaskSound) (grows : world.poller.Grows next.poller)
    (task : next.task = world.task)
    (blocked : next.poller.blockedServers = world.poller.blockedServers)
    (stopped : next.stopped = world.stopped) (stops : next.stops = world.stops)
    : next.TaskSound := by
  unfold TaskSound at sound ⊢
  rw [task, blocked, stopped, stops]
  cases taskCase : world.task with
  | checksServer start =>
      rw [taskCase] at sound
      intro outdated
      exact any_lt_mono (sound outdated) (grows.server _)
  | _ =>
      rw [taskCase] at sound
      exact sound

theorem Sound.keep (sound : world.Sound)
    (tracked : next.trackedLibraries = world.trackedLibraries)
    (states : next.libraryStates = world.libraryStates)
    (blocked : next.poller.blockedServers = world.poller.blockedServers)
    (stopped : next.stopped = world.stopped) (stops : next.stops = world.stops)
    (starts : ∀ start ∈ next.starts, StartSound next.poller start)
    (calls : ∀ call ∈ next.calls, StartSound next.poller call.start) (task : next.TaskSound)
    : next.Sound := by
  have fenced {serverId : String} (before : world.Fenced serverId) : next.Fenced serverId := by
    unfold Fenced
    rw [blocked, tracked]
    exact before
  refine ⟨?_, ?_, ?_, starts, calls, task⟩
  · rw [tracked, states]
    exact sound.keyed
  · rw [stopped]
    exact fun serverId member => fenced (sound.stopped serverId member)
  · rw [stops]
    exact fun stop member unallowed => fenced (sound.stops stop member unallowed)

theorem StartSound.outdate {poller later : LibraryPoller} {start : TrackingStart}
    (sound : StartSound poller start) (grows : poller.Grows later)
    {outdates : TrackingStart → Bool}
    (late
      : outdates start = true
        → poller.lifecycle.lifecycleGeneration < later.lifecycle.lifecycleGeneration
          ∨ start.expectedGeneration.isSome = true
            ∧ poller.serverGeneration start.serverId < later.serverGeneration start.serverId)
    : StartSound later (if outdates start then { start with outdated := true } else start) := by
  have grown := sound.grow grows
  split
  · next marked =>
      rcases sound.lifecycle with ⟨generation, expected, bound, -⟩
      refine ⟨⟨generation, expected, bound.trans grows.lifecycle, fun _ => ?_⟩, grown.server⟩
      rcases late marked with reset | ⟨known, stopped⟩
      · exact .inl (bound.trans_lt reset)
      · refine .inr ?_
        rcases Option.isSome_iff_exists.mp known with ⟨expectedGeneration, shape⟩
        refine (Option.any_eq_true _ _).mpr ⟨expectedGeneration, shape, decide_eq_true ?_⟩
        exact (sound.server expectedGeneration shape).trans_lt stopped
  · exact grown

theorem Sound.outdate (sound : world.Sound) {poller : LibraryPoller}
    (grows : world.poller.Grows poller) {outdates : TrackingStart → Bool}
    (late
      : ∀ start,
          outdates start = true
          → world.poller.lifecycle.lifecycleGeneration < poller.lifecycle.lifecycleGeneration
            ∨ start.expectedGeneration.isSome = true
              ∧ world.poller.serverGeneration start.serverId
                < poller.serverGeneration start.serverId)
    : (∀ start ∈ (world.outdate outdates).starts, StartSound poller start)
      ∧ ∀ call ∈ (world.outdate outdates).calls, StartSound poller call.start := by
  constructor
  · intro start member
    rcases List.mem_map.mp member with ⟨before, listed, same⟩
    rw [← same]
    exact (sound.starts before listed).outdate grows (late before)
  · intro call member
    rcases List.mem_map.mp member with ⟨before, listed, same⟩
    rw [← same]
    exact (sound.calls before listed).outdate grows (late before.start)

end StopWorld

end Keeping

section Steps

namespace StopWorld

variable {rules : PollRules} {world next : StopWorld}

theorem Sound.schedule (sound : world.Sound) {serverId libraryId jobId scanType : String}
    {libraryName : Option String}
    (taken
      : stopStep rules world (.scheduleBegins serverId libraryId jobId scanType libraryName)
        = some next)
    : next.Sound := by
  dsimp only [stopStep] at taken
  split at taken
  · cases taken
    refine sound.keep rfl rfl rfl rfl rfl sound.starts (fun call member => ?_) sound.task
    rcases List.mem_append.mp member with before | added
    · exact sound.calls call before
    · rw [List.mem_singleton.mp added]
      refine ⟨⟨_, rfl, le_rfl, fun outdated => ?_⟩, fun generation expected => ?_⟩
      · cases outdated
      · cases expected
  · cases taken
    exact sound

theorem Sound.scheduleReads (sound : world.Sound) {index : Nat}
    (taken : stopStep rules world (.scheduleReads index) = some next)
    : next.Sound := by
  dsimp only [stopStep] at taken
  rcases Option.bind_eq_some_iff.mp taken with ⟨call, found, read⟩
  have known := sound.calls call (List.mem_of_getElem? found)
  split at read
  · cases read
  · next unread =>
      have noGeneration : call.start.expectedGeneration = none :=
        Option.not_isSome_iff_eq_none.mp unread
      split at read
      · cases read
        exact sound.keep rfl rfl rfl rfl rfl sound.starts
          (fun other member => sound.calls other (List.mem_of_mem_eraseIdx member)) sound.task
      · cases read
        have grows := @LibraryPoller.Grows.withServerGeneration world.poller call.start.serverId
        refine sound.keep rfl rfl rfl rfl rfl
          (fun start member => (sound.starts start member).grow grows) (fun other member => ?_)
          (sound.task.keep grows rfl rfl rfl rfl)
        rcases List.mem_or_eq_of_mem_set member with before | same
        · exact (sound.calls other before).grow grows
        · rw [same]
          rcases known.lifecycle with ⟨generation, expected, bound, late⟩
          refine ⟨⟨generation, expected, bound, fun outdated => ?_⟩, fun other expected => ?_⟩
          · rcases late outdated with earlier | stale
            · exact .inl earlier
            · rw [noGeneration] at stale
              cases stale
          · cases expected
            exact (getD_setDefault _ _ _).ge

theorem Sound.scheduleQueues (sound : world.Sound) {index : Nat}
    (taken : stopStep rules world (.scheduleQueues index) = some next)
    : next.Sound := by
  dsimp only [stopStep] at taken
  rcases Option.bind_eq_some_iff.mp taken with ⟨call, found, queued⟩
  have known := sound.calls call (List.mem_of_getElem? found)
  split at queued
  · cases queued
  · cases queued
    refine sound.keep rfl rfl rfl rfl rfl (fun start member => ?_) (fun other member => ?_)
      sound.task
    · rcases List.mem_append.mp member with before | added
      · exact sound.starts start before
      · rw [List.mem_singleton.mp added]
        exact ⟨known.lifecycle, known.server⟩
    · rcases List.mem_or_eq_of_mem_set member with before | same
      · exact sound.calls other before
      · rw [same]
        exact ⟨known.lifecycle, known.server⟩

theorem Sound.scheduleReturns (sound : world.Sound) {index : Nat}
    (taken : stopStep rules world (.scheduleReturns index) = some next)
    : next.Sound := by
  dsimp only [stopStep] at taken
  rcases Option.bind_eq_some_iff.mp taken with ⟨call, found, returned⟩
  split at returned
  · cases returned
    refine sound.keep rfl rfl rfl rfl rfl (fun start member => ?_) (fun other member => ?_)
      (sound.task.keep (.of_generations le_rfl rfl) rfl rfl rfl rfl)
    · exact (sound.starts start member).grow (.of_generations le_rfl rfl)
    · exact (sound.calls other (List.mem_of_mem_eraseIdx member)).grow
        (.of_generations le_rfl rfl)
  · cases returned

/-- The loop looks at a start; one that is outdated can only be so by the generation of its server
then.
-/
theorem Sound.startTracking (sound : world.Sound) {start : TrackingStart}
    (known
      : start.outdated = true
        → start.expectedLifecycleGeneration.any
            (· ≠ world.poller.lifecycle.lifecycleGeneration) = false
        → start.expectedGeneration.any (· < world.poller.serverGeneration start.serverId) = true)
    : (world.startTracking start).Sound := by
  unfold StopWorld.startTracking
  split
  · exact sound
  · split
    · exact sound
    · next current =>
        refine sound.keep rfl rfl rfl rfl rfl sound.starts sound.calls (fun outdated => ?_)
        exact known outdated (Bool.eq_false_iff.mpr current)

theorem Sound.startBegins (sound : world.Sound) {index : Nat}
    (taken : stopStep rules world (.startBegins index) = some next)
    : next.Sound := by
  dsimp only [stopStep] at taken
  split at taken
  · next start _ found =>
      cases taken
      have fewer
          : ({ world with starts := world.starts.eraseIdx index } : StopWorld).Sound :=
        sound.keep rfl rfl rfl rfl rfl
          (fun other member => sound.starts other (List.mem_of_mem_eraseIdx member)) sound.calls
          sound.task
      refine fewer.startTracking (fun outdated current => ?_)
      rcases (sound.starts start (List.mem_of_getElem? found)).lifecycle with
        ⟨generation, expected, -, late⟩
      rcases late outdated with earlier | stale
      · rw [expected, Option.any_some, decide_eq_false_iff_not, not_not] at current
        exact absurd current earlier.ne
      · exact stale
  · cases taken

theorem Sound.checkServer (sound : world.Sound)
    (taken : stopStep rules world .checkServer = some next)
    : next.Sound := by
  dsimp only [stopStep] at taken
  split at taken
  · next start checks =>
      have task := sound.task
      unfold TaskSound at task
      rw [checks] at task
      split at taken
      · next unguarded =>
          cases taken
          refine sound.keep rfl rfl rfl rfl rfl sound.starts sound.calls ?_
          refine Bool.eq_false_iff.mpr (fun outdated => ?_)
          have stale := task outdated
          rw [unguarded] at stale
          cases stale
      · next generation expected =>
          have grows := @LibraryPoller.Grows.withServerGeneration world.poller start.serverId
          split at taken
          · next current =>
              cases taken
              refine sound.keep rfl rfl rfl rfl rfl
                (fun other member => (sound.starts other member).grow grows)
                (fun call member => (sound.calls call member).grow grows) ?_
              refine Bool.eq_false_iff.mpr (fun outdated => ?_)
              have stale := task outdated
              rw [expected, Option.any_some, decide_eq_true_eq] at stale
              exact absurd current stale.ne
          · cases taken
            exact sound.keep rfl rfl rfl rfl rfl
              (fun other member => (sound.starts other member).grow grows)
              (fun call member => (sound.calls call member).grow grows) trivial
  · cases taken

theorem Sound.checkBlocked (sound : world.Sound)
    (taken : stopStep rules world .checkBlocked = some next)
    : next.Sound := by
  dsimp only [stopStep] at taken
  split at taken
  · next start checks =>
      have task := sound.task
      unfold TaskSound at task
      rw [checks] at task
      split at taken
      · cases taken
        exact sound.keep rfl rfl rfl rfl rfl sound.starts sound.calls trivial
      · next unblocked =>
          cases taken
          refine sound.keep rfl rfl rfl rfl rfl sound.starts sound.calls ⟨task, ?_, ?_⟩
          · exact fun stopped => unblocked (sound.stopped _ stopped).1
          · intro stop member same
            by_contra unallowed
            have fenced := sound.stops stop member (Bool.eq_false_iff.mpr unallowed)
            rw [same] at fenced
            exact unblocked fenced.1
  · cases taken

theorem Sound.startDropped (sound : world.Sound) {index : Nat}
    (taken : stopStep rules world (.startDropped index) = some next)
    : next.Sound := by
  cases taken
  exact sound.keep rfl rfl rfl rfl rfl
    (fun start member => sound.starts start (List.mem_of_mem_eraseIdx member)) sound.calls
    sound.task

theorem poller_track (start : TrackingStart) (queuePosition : Nat) (now : Timestamp)
    : (world.track start queuePosition now).poller.lifecycle = world.poller.lifecycle
      ∧ (world.track start queuePosition now).poller.serverGenerations
        = world.poller.serverGenerations
      ∧ (world.track start queuePosition now).poller.blockedServers
        = world.poller.blockedServers := by
  unfold track LibraryPoller.spawnBackgroundTask
  dsimp only
  split <;> exact ⟨rfl, rfl, rfl⟩

theorem mem_tracked_track (start : TrackingStart) (queuePosition : Nat) (now : Timestamp)
    (serverId libraryId : String)
    : libraryId ∈ ((world.track start queuePosition now).trackedLibraries.get? serverId).getD []
      ↔ libraryId ∈ (world.trackedLibraries.get? serverId).getD []
        ∨ (serverId = start.serverId ∧ libraryId = start.libraryId) := by
  unfold track
  dsimp only
  rw [Dict.get?_set]
  by_cases same : serverId = start.serverId
  · subst same
    rw [if_pos rfl, Option.getD_some]
    split
    · next listed =>
        constructor
        · exact .inl
        · rintro (member | ⟨-, rfl⟩)
          · exact member
          · exact listed
    · rw [List.mem_append, List.mem_singleton]
      simp
  · rw [if_neg same]
    simp [same]

theorem Sound.takeEffect (sound : world.Sound) {queuePosition : Nat} {now : Timestamp}
    (taken : stopStep rules world (.takeEffect queuePosition now) = some next)
    : next.Sound := by
  dsimp only [stopStep] at taken
  split at taken
  · next start admitted =>
      cases taken
      have task := sound.task
      unfold TaskSound at task
      rw [admitted] at task
      rcases task with ⟨-, unstopped, overtaken⟩
      rcases world.poller_track start queuePosition now with ⟨lifecycle, generations, blocked⟩
      have grows : world.poller.Grows (world.track start queuePosition now).poller :=
        .of_generations (by rw [lifecycle]) generations
      have fenced {serverId : String} (other : serverId ≠ start.serverId)
          (before : world.Fenced serverId)
          : (world.track start queuePosition now).Fenced serverId := by
        refine ⟨by rw [blocked]; exact before.1, ?_⟩
        unfold StopWorld.track
        rw [Dict.get?_set_ne _ _ other]
        exact before.2
      refine ⟨fun key library found => ?_, fun serverId member => ?_,
        fun stop member unallowed => ?_, fun other member => ?_, fun call member => ?_, trivial⟩
      · have stored : ((world.track start queuePosition now).libraryStates).get? key
            = some library := found
        unfold StopWorld.track at stored
        rw [Dict.get?_set] at stored
        split at stored
        · next here =>
            cases stored
            exact ⟨here, (mem_tracked_track start queuePosition now _ _).mpr (.inr ⟨rfl, rfl⟩)⟩
        · rcases sound.keyed key library stored with ⟨named, tracked⟩
          exact ⟨named, (mem_tracked_track start queuePosition now _ _).mpr (.inl tracked)⟩
      · refine fenced (fun same => unstopped ?_) (sound.stopped serverId member)
        rw [← same]
        exact member
      · refine fenced (fun same => ?_) (sound.stops stop member unallowed)
        have allowed := overtaken stop member same
        rw [unallowed] at allowed
        cases allowed
      · exact (sound.starts other member).grow grows
      · exact (sound.calls call member).grow grows
  · cases taken

theorem Sound.stopBegins (sound : world.Sound) {serverId : String}
    (taken : stopStep rules world (.stopBegins serverId) = some next)
    : next.Sound := by
  dsimp only [stopStep] at taken
  split at taken
  · cases taken
    refine ⟨sound.keyed, fun other member => ?_, fun stop member unallowed => ?_,
      fun start member => (sound.starts start member).grow (.of_generations le_rfl rfl),
      fun call member => (sound.calls call member).grow (.of_generations le_rfl rfl), fun _ => ?_⟩
    · rcases sound.stopped other member with ⟨blocked, untracked⟩
      exact ⟨List.mem_append_left _ blocked, untracked⟩
    · rcases sound.stops stop member unallowed with ⟨blocked, untracked⟩
      exact ⟨List.mem_append_left _ blocked, untracked⟩
    · exact List.mem_append_right _ (List.mem_singleton_self _)
  · cases taken

theorem LibraryPoller.Grows.invalidateServerStarts {poller : LibraryPoller} (serverId : String)
    : poller.Grows (poller.invalidateServerStarts serverId) := by
  refine ⟨le_rfl, fun other => ?_⟩
  exact (Nat.le_add_right _ _).trans (getD_nextGeneration _ _ _).ge

theorem Sound.stopInvalidates (sound : world.Sound)
    (taken : stopStep rules world .stopInvalidates = some next)
    : next.Sound := by
  dsimp only [stopStep] at taken
  split at taken
  · next stop blocks =>
      cases taken
      have task := sound.task
      unfold TaskSound at task
      rw [blocks] at task
      have grows := @LibraryPoller.Grows.invalidateServerStarts world.poller stop.serverId
      have late (start : TrackingStart)
          (outdated
            : (start.serverId = stop.serverId && start.expectedGeneration.isSome) = true)
          : start.expectedGeneration.isSome = true
            ∧ world.poller.serverGeneration start.serverId
              < (world.poller.invalidateServerStarts stop.serverId).serverGeneration
                  start.serverId := by
        rw [Bool.and_eq_true, decide_eq_true_eq] at outdated
        refine ⟨outdated.2, ?_⟩
        have raised :=
          getD_nextGeneration world.poller.serverGenerations stop.serverId start.serverId
        rw [if_pos outdated.1] at raised
        exact Nat.lt_of_succ_le raised.ge
      have moved := sound.outdate grows (fun start outdated => .inr (late start outdated))
      exact sound.keep rfl rfl rfl rfl rfl moved.1 moved.2 task
  · cases taken

theorem Sound.found_clearServer (sound : world.Sound) {serverId key : String}
    {library : PolledLibrary}
    (found : (world.clearServer serverId).libraryStates.get? key = some library)
    : world.libraryStates.get? key = some library ∧ library.serverId ≠ serverId := by
  unfold clearServer at found
  dsimp only at found
  have mapped :=
    @List.foldl_map _ _ _ (stateKey serverId) Dict.erase
      ((world.trackedLibraries.get? serverId).getD []) world.libraryStates
  rw [← mapped, Dict.get?_foldl_erase] at found
  split at found
  · cases found
  · next kept =>
      refine ⟨found, fun same => kept ?_⟩
      rcases sound.keyed key library found with ⟨named, tracked⟩
      rw [same] at named tracked
      exact List.mem_map.mpr ⟨library.libraryId, tracked, named.symm⟩

theorem tracked_clearServer (serverId other : String)
    : (((world.clearServer serverId).trackedLibraries.get? other).getD [])
      = if other = serverId then [] else (world.trackedLibraries.get? other).getD [] := by
  unfold clearServer
  dsimp only
  rw [Dict.get?_erase]
  split <;> rfl

/-- From here on the stop fences its server, unless the server is allowed. -/
theorem Sound.stopClears (sound : world.Sound)
    (taken : stopStep rules world .stopClears = some next)
    : next.Sound := by
  dsimp only [stopStep] at taken
  split at taken
  · next stop clears =>
      cases taken
      have task := sound.task
      unfold TaskSound at task
      rw [clears] at task
      have fenced {serverId : String} (blocked : serverId ∈ world.poller.blockedServers)
          (untracked
            : serverId ≠ stop.serverId → (world.trackedLibraries.get? serverId).getD [] = [])
          : (world.clearServer stop.serverId).Fenced serverId := by
        refine ⟨blocked, ?_⟩
        rw [tracked_clearServer]
        split
        · rfl
        · next other => exact untracked other
      refine ⟨fun key library found => ?_, fun serverId member => ?_,
        fun other member unallowed => ?_,
        fun start member => (sound.starts start member).grow (.of_generations le_rfl rfl),
        fun call member => (sound.calls call member).grow (.of_generations le_rfl rfl), trivial⟩
      · rcases sound.found_clearServer found with ⟨before, other⟩
        rcases sound.keyed key library before with ⟨named, tracked⟩
        refine ⟨named, ?_⟩
        have same := world.tracked_clearServer stop.serverId library.serverId
        rw [if_neg other] at same
        exact same.symm ▸ tracked
      · rcases sound.stopped serverId member with ⟨blocked, untracked⟩
        exact fenced blocked (fun _ => untracked)
      · rcases List.mem_append.mp member with before | added
        · rcases sound.stops other before unallowed with ⟨blocked, untracked⟩
          exact fenced blocked (fun _ => untracked)
        · rw [List.mem_singleton.mp added] at unallowed ⊢
          exact fenced (task unallowed) (fun other => absurd rfl other)
  · cases taken

/-- A stop that returns leaves its server stopped, unless the server was allowed meanwhile. -/
theorem Sound.stopReturns (sound : world.Sound) {index : Nat}
    (taken : stopStep rules world (.stopReturns index) = some next)
    : next.Sound := by
  dsimp only [stopStep] at taken
  rcases Option.map_eq_some_iff.mp taken with ⟨stop, found, same⟩
  have member := List.mem_of_getElem? found
  subst same
  refine ⟨sound.keyed, fun serverId stopped => ?_,
    fun other left => sound.stops other (List.mem_of_mem_eraseIdx left), sound.starts, sound.calls,
    ?_⟩
  · dsimp only at stopped
    split at stopped
    · exact sound.stopped serverId stopped
    · next unallowed =>
        rcases List.mem_append.mp stopped with before | added
        · exact sound.stopped serverId before
        · rw [List.mem_singleton.mp added]
          exact sound.stops stop member (Bool.eq_false_iff.mpr unallowed)
  · have task := sound.task
    unfold TaskSound at task ⊢
    dsimp only
    cases taskCase : world.task with
    | admitted start =>
        rw [taskCase] at task
        rcases task with ⟨fresh, unstopped, overtaken⟩
        refine ⟨fresh, fun stopped => ?_,
          fun other left => overtaken other (List.mem_of_mem_eraseIdx left)⟩
        split at stopped
        · exact unstopped stopped
        · next unallowed =>
            rcases List.mem_append.mp stopped with before | added
            · exact unstopped before
            · exact unallowed (overtaken stop member (List.mem_singleton.mp added).symm)
    | _ =>
        rw [taskCase] at task
        exact task

theorem Sound.stopCancelled (sound : world.Sound) {index : Nat}
    (taken : stopStep rules world (.stopCancelled index) = some next)
    : next.Sound := by
  cases taken
  refine ⟨sound.keyed, sound.stopped,
    fun stop left => sound.stops stop (List.mem_of_mem_eraseIdx left), sound.starts, sound.calls,
    ?_⟩
  have task := sound.task
  unfold TaskSound at task ⊢
  dsimp only
  cases taskCase : world.task with
  | admitted start =>
      rw [taskCase] at task
      rcases task with ⟨fresh, unstopped, overtaken⟩
      exact ⟨fresh, unstopped, fun stop left => overtaken stop (List.mem_of_mem_eraseIdx left)⟩
  | _ =>
      rw [taskCase] at task
      exact task

theorem StopCall.serverId_tell (stop : StopCall) (serverId : String)
    : (StopCall.tell stop serverId).serverId = stop.serverId := by
  unfold StopCall.tell
  split <;> rfl

theorem StopCall.unallowed_tell {stop : StopCall} {serverId : String}
    (unallowed : (StopCall.tell stop serverId).allowed = false)
    : stop.serverId ≠ serverId ∧ stop.allowed = false := by
  unfold StopCall.tell at unallowed
  split at unallowed
  · cases unallowed
  · next other => exact ⟨other, unallowed⟩

theorem mem_blockedServers_allowServer {serverId other : String} (unlike : other ≠ serverId)
    (blocked : other ∈ world.poller.blockedServers)
    : other ∈ (world.allowServer serverId).poller.blockedServers :=
  List.mem_filter.mpr ⟨blocked, decide_eq_true unlike⟩

theorem Sound.task_allowServer (sound : world.Sound) (serverId : String)
    (grows : world.poller.Grows (world.allowServer serverId).poller)
    : (world.allowServer serverId).TaskSound := by
  have task := sound.task
  unfold TaskSound at task ⊢
  cases taskCase : world.task with
  | checksServer start =>
      rw [taskCase] at task
      simp only [allowServer, taskCase]
      intro outdated
      exact any_lt_mono (task outdated) (grows.server _)
  | admitted start =>
      rw [taskCase] at task
      simp only [allowServer, taskCase]
      rcases task with ⟨fresh, unstopped, overtaken⟩
      refine ⟨fresh, fun stopped => unstopped (List.mem_filter.mp stopped).1, ?_⟩
      intro told member same
      rcases List.mem_map.mp member with ⟨stop, listed, rfl⟩
      rw [StopCall.serverId_tell] at same
      by_contra unallowed
      have before := (StopCall.unallowed_tell (Bool.eq_false_iff.mpr unallowed)).2
      rw [overtaken stop listed same] at before
      cases before
  | blocked stop =>
      rw [taskCase] at task
      simp only [allowServer, taskCase]
      intro unallowed
      rcases StopCall.unallowed_tell unallowed with ⟨other, before⟩
      rw [StopCall.serverId_tell]
      exact mem_blockedServers_allowServer other (task before)
  | invalidated stop =>
      rw [taskCase] at task
      simp only [allowServer, taskCase]
      intro unallowed
      rcases StopCall.unallowed_tell unallowed with ⟨other, before⟩
      rw [StopCall.serverId_tell]
      exact mem_blockedServers_allowServer other (task before)
  | checksBlocked start =>
      rw [taskCase] at task
      simp only [allowServer, taskCase]
      exact task
  | _ => simp only [allowServer, taskCase]

theorem Sound.allow (sound : world.Sound) (serverId : String)
    : (world.allowServer serverId).Sound := by
  have grows : world.poller.Grows (world.allowServer serverId).poller :=
    ⟨le_rfl, fun other => (Nat.le_add_right _ _).trans (getD_nextGeneration _ _ _).ge⟩
  refine ⟨sound.keyed, fun other member => ?_, fun told member unallowed => ?_,
    fun start member => (sound.starts start member).grow grows,
    fun call member => (sound.calls call member).grow grows, sound.task_allowServer serverId grows⟩
  · rcases List.mem_filter.mp member with ⟨stopped, unlike⟩
    rcases sound.stopped other stopped with ⟨blocked, untracked⟩
    exact ⟨mem_blockedServers_allowServer (of_decide_eq_true unlike) blocked, untracked⟩
  · rcases List.mem_map.mp member with ⟨stop, listed, rfl⟩
    rcases StopCall.unallowed_tell unallowed with ⟨unlike, before⟩
    rcases sound.stops stop listed before with ⟨blocked, untracked⟩
    rw [StopCall.serverId_tell]
    exact ⟨mem_blockedServers_allowServer unlike blocked, untracked⟩

theorem Sound.begins (sound : world.Sound) {lifecycle : Lifecycle}
    (later : world.poller.lifecycle.lifecycleGeneration < lifecycle.lifecycleGeneration)
    (resets shutdowns : List Nat)
    : ({ world.outdate (fun _ => true) with
          poller := { world.poller with lifecycle }
          resets := resets
          shutdowns := shutdowns
          task := .resets } : StopWorld).Sound := by
  have moved := @Sound.outdate world sound { world.poller with lifecycle }
    (.of_generations later.le rfl) (fun _ => true) (fun _ _ => .inl later)
  exact sound.keep rfl rfl rfl rfl rfl moved.1 moved.2 trivial

theorem Sound.resetInvalidates (sound : world.Sound)
    (taken : stopStep rules world .resetInvalidates = some next)
    : next.Sound := by
  dsimp only [stopStep] at taken
  split at taken
  · cases taken
    have grows : world.poller.Grows world.poller.invalidateAllStarts :=
      ⟨le_rfl, fun _ => getD_foldl_nextGeneration _ _ _⟩
    exact sound.keep rfl rfl rfl rfl rfl
      (fun start member => (sound.starts start member).grow grows)
      (fun call member => (sound.calls call member).grow grows) trivial
  · cases taken

theorem Sound.resetClears (sound : world.Sound)
    (taken : stopStep rules world .resetClears = some next)
    : next.Sound := by
  dsimp only [stopStep] at taken
  split at taken
  · cases taken
    refine ⟨fun key library found => ?_, fun serverId member => ?_, fun stop member unallowed => ?_,
      fun start member => (sound.starts start member).grow (.of_generations le_rfl rfl),
      fun call member => (sound.calls call member).grow (.of_generations le_rfl rfl), trivial⟩
    · cases found
    · exact ⟨(sound.stopped serverId member).1, rfl⟩
    · exact ⟨(sound.stops stop member unallowed).1, rfl⟩
  · cases taken

theorem Sound.moveOn (sound : world.Sound) {lifecycle : Lifecycle}
    (later : world.poller.lifecycle.lifecycleGeneration ≤ lifecycle.lifecycleGeneration)
    (resets shutdowns : List Nat)
    : ({ world with
          poller := { world.poller with lifecycle }
          resets := resets
          shutdowns := shutdowns } : StopWorld).Sound := by
  have grows : world.poller.Grows { world.poller with lifecycle } := .of_generations later rfl
  exact sound.keep rfl rfl rfl rfl rfl
    (fun start member => (sound.starts start member).grow grows)
    (fun call member => (sound.calls call member).grow grows)
    (sound.task.keep grows rfl rfl rfl rfl)

theorem Lifecycle.generation_finishOperationalReset (lifecycle : Lifecycle) (generation : Nat)
    : (lifecycle.finishOperationalReset generation).lifecycleGeneration
      = lifecycle.lifecycleGeneration := by
  unfold Lifecycle.finishOperationalReset
  dsimp only
  split <;> rfl

theorem Lifecycle.le_generation_finishTerminalShutdown (lifecycle : Lifecycle) (generation : Nat)
    : lifecycle.lifecycleGeneration
      ≤ (lifecycle.finishTerminalShutdown generation).lifecycleGeneration := by
  unfold Lifecycle.finishTerminalShutdown
  dsimp only
  split
  · exact le_max_left _ _
  · exact le_rfl

theorem sameNames_change (rules : PollRules) (library : PolledLibrary) (change : PollChange)
    : PolledLibrary.SameNames library (library.change rules change) := by
  cases change with
  | read refreshProgress now => exact (library.afterReading_spec rules now refreshProgress).2
  | detected refreshProgress now => exact ⟨rfl, rfl, rfl⟩
  | failed message now =>
      simp only [PolledLibrary.change]
      split
      · next failed => exact (PolledLibrary.pollingFailureUpdate_spec failed).names
      · exact ⟨rfl, rfl, rfl⟩
  | missing now =>
      simp only [PolledLibrary.change]
      split
      · next missing => exact (PolledLibrary.missingTargetUpdate_spec missing).names
      · exact (library.withNextPoll_spec now).2
  | polledSooner now => exact ⟨rfl, rfl, rfl⟩

theorem Sound.poll (sound : world.Sound) {key : String} {change : PollChange}
    (taken : stopStep rules world (.poll key change) = some next)
    : next.Sound := by
  dsimp only [stopStep] at taken
  split at taken
  · next library _ found =>
      cases taken
      have names := sameNames_change rules library change
      refine ⟨fun other changed member => ?_, sound.stopped, sound.stops, sound.starts, sound.calls,
        sound.task⟩
      rw [Dict.get?_set] at member
      split at member
      · next here =>
          cases member
          rw [names.server, names.library, here]
          exact sound.keyed key library found
      · exact sound.keyed other changed member
  · cases taken

theorem Sound.stopTrackingLibrary (sound : world.Sound) (serverId libraryId : String)
    (expectedJobId : Option String)
    : (world.stopTrackingLibrary serverId libraryId expectedJobId).Sound := by
  unfold StopWorld.stopTrackingLibrary
  dsimp only
  split
  · exact sound
  · split
    · refine ⟨fun key library found => ?_, sound.stopped, sound.stops, sound.starts, sound.calls,
        sound.task⟩
      rw [Dict.get?_erase, Option.ite_none_left_eq_some] at found
      exact sound.keyed key library found.2
    · next libraryIds tracked =>
        have fenced {other : String}
            (before : (world.trackedLibraries.get? other).getD [] = [])
            : ((world.trackedLibraries.set serverId (libraryIds.filter (· ≠ libraryId))).get?
                other).getD [] = [] := by
          rw [Dict.get?_set]
          split
          · next same =>
              rw [same, tracked, Option.getD_some] at before
              rw [before]
              rfl
          · exact before
        have grows
            : world.poller.Grows
                { world.poller with
                  pollingTasks :=
                    if libraryIds.filter (· ≠ libraryId) = [] then
                      world.poller.pollingTasks.filter (· ≠ serverId)
                    else world.poller.pollingTasks } :=
          .of_generations le_rfl rfl
        refine ⟨fun key library found => ?_, fun other member => ?_,
          fun stop member unallowed => ?_,
          fun start member => (sound.starts start member).grow grows,
          fun call member => (sound.calls call member).grow grows, sound.task⟩
        · rw [Dict.get?_erase, Option.ite_none_left_eq_some] at found
          rcases sound.keyed key library found.2 with ⟨named, listed⟩
          refine ⟨named, ?_⟩
          rw [Dict.get?_set]
          split
          · next same =>
              rw [same, tracked, Option.getD_some] at listed
              refine List.mem_filter.mpr ⟨listed, decide_eq_true (fun here => found.1 ?_)⟩
              rw [named, same, here]
          · exact listed
        · exact ⟨(sound.stopped other member).1, fenced (sound.stopped other member).2⟩
        · exact ⟨(sound.stops stop member unallowed).1,
            fenced (sound.stops stop member unallowed).2⟩

theorem Sound.step (sound : world.Sound) {event : StopEvent}
    (taken : stopStep rules world event = some next)
    : next.Sound := by
  cases event with
  | scheduleBegins serverId libraryId jobId scanType libraryName => exact sound.schedule taken
  | scheduleReads index => exact sound.scheduleReads taken
  | scheduleQueues index => exact sound.scheduleQueues taken
  | scheduleReturns index => exact sound.scheduleReturns taken
  | startDropped index => exact sound.startDropped taken
  | startBegins index => exact sound.startBegins taken
  | track serverId libraryId jobId scanType libraryName =>
      dsimp only [stopStep] at taken
      split at taken
      · cases taken
        exact sound.startTracking (fun outdated => absurd outdated Bool.false_ne_true)
      · cases taken
  | checkServer => exact sound.checkServer taken
  | checkBlocked => exact sound.checkBlocked taken
  | takeEffect queuePosition now => exact sound.takeEffect taken
  | stopBegins serverId => exact sound.stopBegins taken
  | stopInvalidates => exact sound.stopInvalidates taken
  | stopClears => exact sound.stopClears taken
  | stopReturns index => exact sound.stopReturns taken
  | stopCancelled index => exact sound.stopCancelled taken
  | allow serverId =>
      cases taken
      exact sound.allow serverId
  | resetBegins =>
      dsimp only [stopStep] at taken
      split at taken
      · cases taken
        exact sound.begins (Nat.lt_succ_self _) _ _
      · cases taken
  | shutdownBegins =>
      dsimp only [stopStep] at taken
      split at taken
      · cases taken
        exact sound.begins (Nat.lt_succ_self _) _ _
      · cases taken
  | resetInvalidates => exact sound.resetInvalidates taken
  | resetClears => exact sound.resetClears taken
  | resetFinishes index =>
      dsimp only [stopStep] at taken
      split at taken
      · cases taken
        exact sound.moveOn (Lifecycle.generation_finishOperationalReset _ _).ge _ _
      · cases taken
  | shutdownFinishes index =>
      dsimp only [stopStep] at taken
      split at taken
      · cases taken
        exact sound.moveOn (Lifecycle.le_generation_finishTerminalShutdown _ _) _ _
      · cases taken
  | reopens =>
      dsimp only [stopStep] at taken
      split at taken
      · cases taken
        exact sound.moveOn (Nat.le_succ _) _ _
      · cases taken
  | poll key change => exact sound.poll taken
  | stopTracking serverId libraryId expectedJobId =>
      dsimp only [stopStep] at taken
      split at taken
      · cases taken
        exact sound.stopTrackingLibrary serverId libraryId expectedJobId
      · cases taken

theorem mem_stopsInProgress {stop : StopCall}
    : stop ∈ world.stopsInProgress
      ↔ stop ∈ world.stops ∨ world.task = .blocked stop ∨ world.task = .invalidated stop := by
  unfold stopsInProgress
  cases world.task <;> simp [eq_comm, or_comm]

theorem mem_stopsInProgress_allowServer {serverId : String} {told : StopCall}
    (member : told ∈ (world.allowServer serverId).stopsInProgress)
    : ∃ stop ∈ world.stopsInProgress, told = StopCall.tell stop serverId := by
  rw [mem_stopsInProgress] at member
  simp only [mem_stopsInProgress]
  rcases member with listed | task
  · rcases List.mem_map.mp listed with ⟨stop, before, same⟩
    exact ⟨stop, .inl before, same.symm⟩
  · simp only [allowServer] at task
    cases taskCase : world.task with
    | blocked stop =>
        refine ⟨stop, .inr (.inl rfl), ?_⟩
        simpa [taskCase, eq_comm] using task
    | invalidated stop =>
        refine ⟨stop, .inr (.inr rfl), ?_⟩
        simpa [taskCase, eq_comm] using task
    | _ => simp [taskCase] at task

theorem stopsInProgress_unallowed {event : StopEvent}
    (guarded : ServerConfigurationGuard world event)
    (taken : stopStep rules world event = some next)
    (before : ∀ stop ∈ world.stopsInProgress, stop.allowed = false)
    : ∀ stop ∈ next.stopsInProgress, stop.allowed = false := by
  intro stop member
  cases event with
  | allow serverId =>
      cases taken
      rcases mem_stopsInProgress_allowServer member with ⟨told, listed, rfl⟩
      rw [StopCall.tell, if_neg (guarded told listed)]
      exact before told listed
  | _ =>
      -- any other step starts a stop, moves one on or ends one
      simp only [mem_stopsInProgress] at before member
      simp only [stopStep] at taken
      grind [startTracking, outdate, track, clearServer, clearAll, stopTrackingLibrary,
        → List.mem_of_mem_eraseIdx]

end StopWorld

end Steps

section Runs

variable {rules : PollRules} {admits : StopWorld → StopEvent → Prop} {events : List StopEvent}
  {finish : StopWorld}

open StopWorld

theorem sound_of_run (run : Run (stopStep rules) admits .initial events finish) : finish.Sound :=
  run.preserves Sound (fun sound _ taken => sound.step taken) sound_initial

/-- No library of a stopped server is tracked and none has a state, from the return of the stop
until the server is allowed, and no start takes effect that a stop or a reset has overtaken. Under
the guard of the server configuration, a stop that returns always leaves its server stopped.
-/
theorem stopped_server_stays_untracked
    (run : Run (stopStep rules) admits .initial events finish)
    : (∀ serverId ∈ finish.stopped, finish.Untracked serverId)
      ∧ (∀ start, finish.task = .admitted start → start.outdated = false)
      ∧ ((∀ world event, admits world event → ServerConfigurationGuard world event)
        → ∀ index stop next,
            finish.stops[index]? = some stop
            → stopStep rules finish (.stopReturns index) = some next
            → stop.serverId ∈ next.stopped) := by
  have sound := sound_of_run run
  refine ⟨fun serverId member => sound.untracked (sound.stopped serverId member), ?_, ?_⟩
  · intro start admitted
    have task := sound.task
    unfold TaskSound at task
    rw [admitted] at task
    exact task.1
  · intro guards index stop next found taken
    have unallowed :=
      run.preserves (fun world => ∀ stop ∈ world.stopsInProgress, stop.allowed = false)
        (fun before admitted taken =>
          stopsInProgress_unallowed (guards _ _ admitted) taken before)
        (fun _ member => absurd member List.not_mem_nil)
    dsimp only [stopStep] at taken
    rw [found, Option.map_some,
      unallowed stop (mem_stopsInProgress.mpr (.inl (List.mem_of_getElem? found)))] at taken
    cases taken
    exact List.mem_append_right _ (List.mem_singleton_self _)

def wholeNumbers : PollRules :=
  ⟨⟨id, Char.isAlphanum, fun _ => none, fun _ => ""⟩, fun _ => none, fun _ => ""⟩

def stopOvertakesStart : List StopEvent :=
  [.scheduleBegins "green" "films" "j1" "content" none, .scheduleReads 0, .scheduleQueues 0,
    .scheduleReturns 0, .stopBegins "green", .stopInvalidates, .stopClears, .stopReturns 0]

/-- A stop overtakes a queued start, which is outdated from then on. -/
theorem stop_overtakes_start
    : ∃ finish : StopWorld,
        finish.Untracked "green"
        ∧ finish.stopped = ["green"]
        ∧ finish.starts.map (·.outdated) = [true] := by
  have reached
      : ∃ finish,
          Run (stopStep wholeNumbers) (fun _ _ => True) .initial stopOvertakesStart finish
          ∧ finish.stopped = ["green"]
          ∧ finish.starts.map (·.outdated) = [true] :=
    Run.exists_of_execute (by decide)
  rcases reached with ⟨finish, run, stopped, starts⟩
  refine ⟨finish, (stopped_server_stays_untracked run).1 "green" ?_, stopped, starts⟩
  rw [stopped]
  exact List.mem_singleton_self _

end Runs

end OctoHubs.Libraries
