import OctoHubs.Libraries.PolledLibraries
import OctoHubs.Library.Runs
import OctoHubs.Library.Settling

/-! One library that is scanned for one job, between the awaits of the tasks that follow it: the
polling loop of its server, the shots that detect progress early, and the calls of the tracker in
worker threads. A shot may hold an answer from before the end of the scan, and a call may be
overtaken by the one that reports the end.
-/

namespace OctoHubs.Libraries

open OctoHubs.Library

def maxErrors : Nat := 5

inductive LoopPhase
  | collecting
  | requested (targeted : Bool)
  | notifying (updates : List PollUpdate)
  | awaiting (call : Nat) (update : PollUpdate) (rest : List PollUpdate)
  | sleeping
  | stopped

/-- The polling loop with its consecutive errors; one that fails ends the tracking of some jobs
when it has told the tracker.
-/
structure PollingLoop where
  phase : LoopPhase
  errorCount : Nat
  failing : Bool
  failed : List String

def PollingLoop.new : PollingLoop := ⟨.collecting, 0, false, []⟩

def PollingLoop.queue (loop : PollingLoop) : List PollUpdate :=
  match loop.phase with
  | .notifying updates => updates
  | .awaiting _ _ rest => rest
  | _ => []

/-- The next shot, one whose answer is awaited, or no more. -/
inductive Detection
  | shot (index : Nat)
  | requested (index : Nat)
  | done

structure TrackerCall where
  id : Nat
  update : PollUpdate
deriving DecidableEq

/-- The library with the tasks that follow it. The states that it takes for its job and the
updates that the tracker receives are kept in order.
-/
structure PollingWorld where
  library? : Option PolledLibrary
  history : List PolledState
  detection : Detection
  loop : PollingLoop
  calls : List TrackerCall
  nextCall : Nat
  cleanups : List String
  received : List PollUpdate

inductive PollingEvent
  | collect (now : Timestamp) (others : Bool)
  | answer (response : Option (List Json)) (now : Timestamp)
  | notify (accepts : Bool)
  | resume (accepts : Bool)
  | notified
  | wake
  | startLoop
  | shoot (current : Bool)
  | shotAnswers (response : Option (List Json)) (current : Bool) (now : Timestamp)
  | shotsEnd (now : Timestamp)
  | deliver (index : Nat)
  | cleanup (index : Nat) (alone : Bool)
  | remove (loopStops detectionStops : Bool)
  | replace (library : PolledLibrary)

namespace PollingWorld

variable (rules : PollRules) (job : String) (world : PollingWorld)

def withPhase (phase : LoopPhase) : PollingWorld := { world with loop := { world.loop with phase } }

/-- The library with its states, of which those for the job are kept. -/
def withLibrary (library : PolledLibrary) (states : List PolledState) : PollingWorld :=
  { world with
    library? := some library
    history := if library.jobId = job then world.history ++ states else world.history }

/-- The state of the job, if the library is tracked for it. -/
def jobLibrary? (jobId : String) : Option PolledLibrary :=
  world.library?.filter (·.jobId = jobId)

/-- Tracking for a job ends, and with the last library of the server the polling. -/
def stopTracking (jobId : String) (alone : Bool) : PollingWorld :=
  match world.jobLibrary? jobId with
  | none => world
  | some _ =>
      if alone then { world with library? := none, loop := { world.loop with phase := .stopped } }
      else { world with library? := none }

/-- An error of the polling; after too many of them the poller gives up. -/
def pollFails (now : Timestamp) : PollingWorld :=
  let errors := world.loop.errorCount + 1
  let loop := { world.loop with errorCount := errors }
  if errors < maxErrors then { world with loop := { loop with phase := .sleeping } }
  else
    let message :=
      "Library polling stopped after " ++ toString errors ++ " consecutive errors"
    match world.library?.bind (·.pollingFailureUpdate now message) with
    | none => { world with loop := { loop with phase := .notifying [], failing := true } }
    | some (library, update) =>
        { world.withLibrary job library [library.state] with
          loop :=
            { loop with
              phase := .notifying [update]
              failing := true
              failed := [library.jobId] } }

/-- An answer is read for the library, if it is asked for and still tracked. -/
def polled (targeted : Bool) (answer : List Json) (now : Timestamp) : PollingWorld :=
  match (if targeted then world.library? else none) with
  | none =>
      if answer.all Json.isDict then world.withPhase (.notifying []) else world.pollFails job now
  | some library =>
      let pass := pollAnswer rules library answer now
      let read := world.withLibrary job pass.library pass.states
      if pass.failed then read.pollFails job now else read.withPhase (.notifying pass.updates)

/-- Tell the tracker, unless the job is no longer tracked; true where the call has begun. -/
def updateTrackerStatus (update : PollUpdate) : PollingWorld × Bool :=
  match world.jobLibrary? update.jobId with
  | none => (world, false)
  | some _ =>
      ({ world with
          calls := world.calls ++ [⟨world.nextCall, update⟩]
          nextCall := world.nextCall + 1 },
        true)

/-- The tracking that ends with an update is cleaned up, unless no more tasks are accepted. -/
def withCleanup (update : PollUpdate) (accepts : Bool) : PollingWorld :=
  if update.cleanup && accepts then
    { world with cleanups := world.cleanups ++ [update.jobId] }
  else world

/-- A shot has found progress. -/
def handleDetectedProgress (refreshProgress : ℚ) (now : Timestamp) : PollingWorld :=
  match world.jobLibrary? job with
  | none => world
  | some library =>
      let detected := library.afterDetection now refreshProgress
      let update := library.detectionUpdate rules now refreshProgress
      ((world.withLibrary job detected [detected.state]).updateTrackerStatus update).1

end PollingWorld

section Steps

variable (rules : PollRules) (job libraryId : String)

/-- One step of a task between two awaits, a call that reaches the tracker, or what others do to
the library. A loop that is cancelled leaves its call behind.
-/
def pollingStep (world : PollingWorld) : PollingEvent → Option PollingWorld
  | .collect now others =>
      match world.loop.phase with
      | .collecting =>
          let due := world.library?.any (fun library => library.nextPollTime.any (· ≤ now))
          if due || others then some (world.withPhase (.requested due))
          else some { world with loop := { world.loop with phase := .sleeping, errorCount := 0 } }
      | _ => none
  | .answer response now =>
      match world.loop.phase with
      | .requested targeted =>
          match response with
          | none => some (world.pollFails job now)
          | some answer => some (world.polled rules job targeted answer now)
      | _ => none
  | .notify accepts =>
      match world.loop.phase with
      | .notifying (update :: rest) =>
          let (told, begun) := world.updateTrackerStatus update
          if begun then some (told.withPhase (.awaiting world.nextCall update rest))
          else some ((world.withCleanup update accepts).withPhase (.notifying rest))
      | _ => none
  | .resume accepts =>
      match world.loop.phase with
      | .awaiting call update rest =>
          if world.calls.any (·.id = call) then none
          else some ((world.withCleanup update accepts).withPhase (.notifying rest))
      | _ => none
  | .notified =>
      match world.loop.phase with
      | .notifying [] =>
          if world.loop.failing then
            some
              ((world.loop.failed.foldl (fun world jobId => world.stopTracking jobId false)
                world).withPhase .stopped)
          else some { world with loop := { world.loop with phase := .sleeping, errorCount := 0 } }
      | _ => none
  | .wake =>
      match world.loop.phase with
      | .sleeping => some (world.withPhase .collecting)
      | _ => none
  | .startLoop =>
      match world.loop.phase with
      | .stopped => some { world with loop := .new }
      | _ => none
  | .shoot current =>
      match world.detection with
      | .shot index =>
          if index < 3 then
            some { world with detection := if current then .requested index else .done }
          else none
      | _ => none
  | .shotAnswers response current now =>
      match world.detection with
      | .requested index =>
          match response with
          | none => some { world with detection := .shot (index + 1) }
          | some answer =>
              match findProgress rules libraryId answer with
              | none => some { world with detection := .done }
              | some .null => some { world with detection := .shot (index + 1) }
              | some given =>
                  let ended := { world with detection := .done }
                  match (if current then rules.toFloat? given else none) with
                  | none => some ended
                  | some progress => some (ended.handleDetectedProgress rules job progress now)
      | _ => none
  | .shotsEnd now =>
      match world.detection with
      | .shot index =>
          if index < 3 then none
          else
            let ended := { world with detection := .done }
            match world.jobLibrary? job with
            | none => some ended
            | some library =>
                some
                  { ended with
                    library? :=
                      some { library with nextPollTime := some (now + rapidPollInterval) } }
      | _ => none
  | .deliver index =>
      world.calls[index]?.map (fun call =>
        { world with
          calls := world.calls.eraseIdx index
          received := world.received ++ [call.update] })
  | .cleanup index alone =>
      world.cleanups[index]?.map (fun jobId =>
        { world with cleanups := world.cleanups.eraseIdx index }.stopTracking jobId alone)
  | .remove loopStops detectionStops =>
      some
        { world with
          library? := none
          loop := if loopStops then { world.loop with phase := .stopped } else world.loop
          detection := if detectionStops then .done else world.detection }
  | .replace library =>
      if library.jobId = job then none else some { world with library? := some library }

def jobUpdates (updates : List PollUpdate) : List PollUpdate := updates.filter (·.jobId = job)

/-- Tracking of the library for the job has just begun. -/
structure Begun (world : PollingWorld) : Prop where
  waiting : (world.jobLibrary? job).map (·.state) = some .waiting
  history : world.history = [.waiting]
  queue : jobUpdates job world.loop.queue = []
  calls : jobUpdates job (world.calls.map (·.update)) = []
  received : jobUpdates job world.received = []

/-- The update is not about a scan under way. -/
def PollUpdate.ends (update : PollUpdate) : Bool := update.status ≠ .active

/-- The state of the job never changes back, and the tracker hears of no activity after an end. -/
def OneFinalState (world : PollingWorld) : Prop :=
  Settles PolledState.terminal world.history
  ∧ Settles PollUpdate.ends (jobUpdates job world.received)

/-- A reading that takes the library out of a final state: it has progress and the scan is not
overdue, or none was ever seen and it may still come.
-/
def PolledLibrary.Reopens (library : PolledLibrary) (now : Timestamp) (refreshProgress : Json)
    : Prop :=
  library.state.terminal = true
  ∧ (PolledLibrary.isGiven refreshProgress = true ∧ library.overdue now = false
    ∨ PolledLibrary.isGiven refreshProgress = false ∧ library.everSeenProgress = false
      ∧ now - library.scanRequestedAt ≤ progressDetectionTimeout)

/-- No folder of the answer reopens the library. -/
def Quiet (now : Timestamp) : PolledLibrary → List Json → Prop
  | _, [] => True
  | library, entry :: rest =>
      match entry.asDict? with
      | none => True
      | some folder =>
          if folderId rules folder ≠ "" ∧ folderId rules folder = library.libraryId then
            ¬library.Reopens now (folder.field "RefreshProgress")
            ∧ Quiet now (library.afterReading rules now (folder.field "RefreshProgress")) rest
          else Quiet now library rest

/-- An answer leaves a library whose scan has ended as it is, and the tracker hears of the end of
the job when no call is left that tells of its activity.
-/
def Orderly (world : PollingWorld) : PollingEvent → Prop
  | .answer (some answer) now =>
      world.loop.phase = .requested true
      → ∀ library, world.jobLibrary? job = some library → Quiet rules now library answer
  | .shotAnswers (some answer) true _ =>
      ∀ given,
        findProgress rules libraryId answer = some given
        → PolledLibrary.isGiven given = true
        → (rules.toFloat? given).isSome = true
        → ∀ library, world.jobLibrary? job = some library → library.state.terminal = false
  | .deliver index =>
      ∀ call,
        world.calls[index]? = some call
        → call.update.jobId = job
        → call.update.ends = true
        → ∀ other ∈ jobUpdates job (world.calls.map (·.update)), other.ends = true
  | _ => True

end Steps

section Readings

namespace PolledLibrary

variable {rules : PollRules} {library : PolledLibrary} {now : Timestamp} {refreshProgress : Json}

theorem terminal_reading_iff (ended : library.state.terminal = true)
    : (library.reading rules now refreshProgress).state.terminal = true
      ↔ ¬library.Reopens now refreshProgress := by
  unfold Reopens
  rw [ended]
  cases given : isGiven refreshProgress with
  | true =>
      rw [reading_given given]
      cases library.overdue now with
      | true => simp [PolledState.terminal]
      | false => simp [PolledState.terminal]
  | false =>
      rw [reading_missing given]
      cases library.everSeenProgress with
      | true => simp [PolledState.terminal]
      | false =>
          by_cases late : progressDetectionTimeout < now - library.scanRequestedAt
          · rw [if_neg Bool.false_ne_true, if_pos late]
            simp [PolledState.terminal, not_le.mpr late]
          · rw [if_neg Bool.false_ne_true, if_neg late]
            simp [PolledState.terminal, not_lt.mp late]

end PolledLibrary

end Readings

section Passes

variable {rules : PollRules} {start : PolledLibrary} {pass : PollPass} {now : Timestamp}

/-- What a pass makes of a library is about that library and its job. -/
structure PassNames (start : PolledLibrary) (pass : PollPass) : Prop where
  names : start.SameNames pass.library
  jobs : ∀ update ∈ pass.updates, update.jobId = start.jobId

/-- The states and the updates of a pass settle together. -/
structure PassSettles (first : PolledState) (pass : PollPass) : Prop where
  last : (first :: pass.states).getLast? = some pass.library.state
  states : Settles PolledState.terminal (first :: pass.states)
  updates : Settles PollUpdate.ends pass.updates
  ended : first.terminal = true → ∀ update ∈ pass.updates, update.ends = true
  terminal : ∀ update ∈ pass.updates, update.ends = true → pass.library.state.terminal = true

theorem PassNames.readFolder (names : PassNames start pass) (refreshProgress : Json)
    : PassNames start (pass.readFolder rules now refreshProgress) := by
  have after := (pass.library.afterReading_spec rules now refreshProgress).2
  refine ⟨names.names.trans after, fun update member => ?_⟩
  rcases List.mem_append.mp member with before | added
  · exact names.jobs update before
  · exact (PolledLibrary.readingUpdate_spec (Option.mem_toList.mp added)).1.trans names.names.job

theorem PassSettles.add {first : PolledState} (settles : PassSettles first pass)
    {library : PolledLibrary} {added : List PollUpdate} {seen failed : Bool}
    (kept : pass.library.state.terminal = true → library.state.terminal = true)
    (about : ∀ update ∈ added, update.ends = library.state.terminal)
    : PassSettles first
        ⟨library, pass.states ++ [library.state], pass.updates ++ added, seen, failed⟩ := by
  have earlierKept : ∀ earlier ∈ first :: pass.states, earlier.terminal = true →
      library.state.terminal = true := by
    intro earlier member marked
    exact kept (settles.states.marked_last settles.last member marked)
  constructor
  · rw [← List.cons_append, List.getLast?_concat]
  · rw [← List.cons_append]
    refine settles_append.mpr ⟨settles.states, settles_singleton, ?_⟩
    intro earlier member marked later after
    rw [List.mem_singleton.mp after]
    exact earlierKept earlier member marked
  · refine settles_append.mpr ⟨settles.updates, ?_, ?_⟩
    · refine List.pairwise_of_forall_mem_list (fun earlier before later after marked => ?_)
      rw [about later after, ← about earlier before]
      exact marked
    · intro earlier before marked later after
      rw [about later after]
      exact kept (settles.terminal earlier before marked)
  · intro marked update member
    rcases List.mem_append.mp member with before | after
    · exact settles.ended marked update before
    · rw [about update after]
      exact earlierKept first List.mem_cons_self marked
  · intro update member marked
    rcases List.mem_append.mp member with before | after
    · exact kept (settles.terminal update before marked)
    · exact (about update after).symm.trans marked

theorem PassSettles.readFolder {first : PolledState} (settles : PassSettles first pass)
    {refreshProgress : Json} (quiet : ¬pass.library.Reopens now refreshProgress)
    : PassSettles first (pass.readFolder rules now refreshProgress) := by
  have state := (pass.library.afterReading_spec rules now refreshProgress).1
  refine settles.add (fun ended => ?_) (fun update member => ?_)
  · rw [state]
    exact (PolledLibrary.terminal_reading_iff ended).mpr quiet
  · have status := (PolledLibrary.readingUpdate_spec (Option.mem_toList.mp member)).2
    rw [state, PollUpdate.ends, Bool.eq_iff_iff, decide_eq_true_eq, ne_eq, status,
      Bool.not_eq_false]

theorem PassNames.pollFolders (names : PassNames start pass) (answer : List Json)
    : PassNames start (pollFolders rules now answer pass) := by
  induction answer generalizing pass with
  | nil => exact names
  | cons entry rest ih =>
      unfold Libraries.pollFolders
      split
      · exact ⟨names.names, names.jobs⟩
      · split
        · exact ih (names.readFolder _)
        · exact ih names

theorem PassSettles.pollFolders {first : PolledState} (settles : PassSettles first pass)
    {answer : List Json} (quiet : Quiet rules now pass.library answer)
    : PassSettles first (pollFolders rules now answer pass) := by
  induction answer generalizing pass with
  | nil => exact settles
  | cons entry rest ih =>
      unfold Quiet at quiet
      unfold Libraries.pollFolders
      split
      · exact ⟨settles.last, settles.states, settles.updates, settles.ended, settles.terminal⟩
      · next folder dict =>
          rw [dict] at quiet
          dsimp only at quiet
          split
          · next here =>
              rw [if_pos here] at quiet
              exact ih (settles.readFolder quiet.1) quiet.2
          · next elsewhere =>
              rw [if_neg elsewhere] at quiet
              exact ih settles quiet

theorem PassNames.orMissing (names : PassNames start pass)
    : PassNames start (pass.orMissing rules now) := by
  unfold PollPass.orMissing
  split
  · exact names
  · split
    · next library update missing =>
        have ended := PolledLibrary.missingTargetUpdate_spec missing
        refine ⟨names.names.trans ended.names, fun other member => ?_⟩
        rcases List.mem_append.mp member with before | added
        · exact names.jobs other before
        · rw [List.mem_singleton.mp added]
          exact ended.job.trans names.names.job
    · exact ⟨names.names.trans (pass.library.withNextPoll_spec now).2, names.jobs⟩

theorem PassSettles.orMissing {first : PolledState} (settles : PassSettles first pass)
    : PassSettles first (pass.orMissing rules now) := by
  unfold PollPass.orMissing
  split
  · exact settles
  · split
    · next library update missing =>
        have ended := PolledLibrary.missingTargetUpdate_spec missing
        refine settles.add (fun _ => ended.closed) (fun other member => ?_)
        rw [List.mem_singleton.mp member, ended.closed]
        exact decide_eq_true ended.status
    · have state := (pass.library.withNextPoll_spec now).1
      exact ⟨settles.last.trans (congrArg some state.symm), settles.states, settles.updates,
        settles.ended, fun update member marked => state ▸ settles.terminal update member marked⟩

theorem pollAnswer_names (rules : PollRules) (library : PolledLibrary) (answer : List Json)
    (now : Timestamp)
    : PassNames library (pollAnswer rules library answer now) := by
  have nothing : PassNames library ⟨library, [], [], false, false⟩ :=
    ⟨⟨rfl, rfl, rfl⟩, fun _ member => absurd member List.not_mem_nil⟩
  exact (nothing.pollFolders answer).orMissing

theorem pollAnswer_settles {library : PolledLibrary} {answer : List Json}
    (quiet : Quiet rules now library answer)
    : PassSettles library.state (pollAnswer rules library answer now) := by
  have nothing : PassSettles library.state ⟨library, [], [], false, false⟩ :=
    ⟨rfl, settles_singleton, settles_nil, fun _ _ member => absurd member List.not_mem_nil,
      fun _ member => absurd member List.not_mem_nil⟩
  exact (nothing.pollFolders quiet).orMissing

end Passes

section Invariant

/-- What settles of a job: its states, and the updates that wait for the loop, that are on their
way, and that were received. No update about an end goes before one about activity.
-/
structure Finality (state? : Option PolledState) (history : List PolledState)
    (queue calls received : List PollUpdate) : Prop where
  states : Settles PolledState.terminal history
  current : ∀ state, state? = some state → history.getLast? = some state
  updates : Settles PollUpdate.ends (received ++ queue)
  callsFirst : ∀ call ∈ calls, call.ends = true → ∀ update ∈ queue, update.ends = true
  receivedFirst : ∀ update ∈ received, update.ends = true → ∀ call ∈ calls, call.ends = true
  ended
    : ∀ update ∈ received ++ calls ++ queue,
        update.ends = true → ∃ state ∈ history, state.terminal = true

variable {state? : Option PolledState} {history : List PolledState}
  {queue calls received : List PollUpdate}

theorem Finality.drop (final : Finality state? history queue calls received)
    {later? : Option PolledState} {rest : List PollUpdate}
    (same : ∀ state, later? = some state → state? = some state) (fewer : rest.Sublist queue)
    : Finality later? history rest calls received where
  states := final.states
  current state known := final.current state (same state known)
  updates := final.updates.sublist (fewer.append_left received)
  callsFirst call member marked update waiting :=
    final.callsFirst call member marked update (fewer.subset waiting)
  receivedFirst := final.receivedFirst
  ended update member := by
    refine final.ended update ?_
    rcases List.mem_append.mp member with before | waiting
    · exact List.mem_append_left _ before
    · exact List.mem_append_right _ (fewer.subset waiting)

theorem Finality.terminal {state : PolledState}
    (final : Finality (some state) history queue calls received) {update : PollUpdate}
    (member : update ∈ received ++ calls ++ queue) (marked : update.ends = true)
    : state.terminal = true := by
  rcases final.ended update member marked with ⟨earlier, inside, terminal⟩
  exact final.states.marked_last (final.current state rfl) inside terminal

theorem Finality.read {state : PolledState} (final : Finality (some state) history [] calls received)
    {pass : PollPass} (settles : PassSettles state pass)
    : Finality (some pass.library.state) (history ++ pass.states) pass.updates calls received where
  states := by
    refine settles_append.mpr ⟨final.states, (List.pairwise_cons.mp settles.states).2, ?_⟩
    intro earlier before marked later after
    have terminal := final.states.marked_last (final.current state rfl) before marked
    exact (List.pairwise_cons.mp settles.states).1 later after terminal
  current other known := by
    cases known
    rw [← settles.last, List.getLast?_append, List.getLast?_cons, final.current state rfl]
    cases pass.states.getLast? <;> rfl
  updates := by
    have before := final.updates
    rw [List.append_nil] at before
    refine settles_append.mpr ⟨before, settles.updates, ?_⟩
    intro earlier member marked
    refine settles.ended (final.terminal ?_ marked)
    exact List.mem_append_left _ (List.mem_append_left _ member)
  callsFirst call member marked := by
    refine settles.ended (final.terminal ?_ marked)
    exact List.mem_append_left _ (List.mem_append_right _ member)
  receivedFirst := final.receivedFirst
  ended update member marked := by
    rcases List.mem_append.mp member with before | added
    · rcases final.ended update (List.mem_append_left _ before) marked with ⟨earlier, inside, ends⟩
      exact ⟨earlier, List.mem_append_left _ inside, ends⟩
    · have last := List.mem_of_getLast? settles.last
      have terminal := settles.terminal update added marked
      rcases List.mem_cons.mp last with same | inside
      · refine ⟨state, List.mem_append_left _ ?_, same ▸ terminal⟩
        exact List.mem_of_getLast? (final.current state rfl)
      · exact ⟨_, List.mem_append_right _ inside, terminal⟩

theorem Finality.tell {update : PollUpdate}
    (final : Finality state? history (update :: queue) calls received)
    : Finality state? history queue (calls ++ [update]) received where
  states := final.states
  current := final.current
  updates := final.updates.sublist ((List.sublist_cons_self _ _).append_left received)
  callsFirst call member marked later waiting := by
    rcases List.mem_append.mp member with before | same
    · exact final.callsFirst call before marked later (List.mem_cons_of_mem _ waiting)
    · rw [List.mem_singleton.mp same] at marked
      have ordered := (settles_append.mp final.updates).2.1
      exact (List.pairwise_cons.mp ordered).1 later waiting marked
  receivedFirst earlier member marked call called := by
    rcases List.mem_append.mp called with before | same
    · exact final.receivedFirst earlier member marked call before
    · rw [List.mem_singleton.mp same]
      exact (settles_append.mp final.updates).2.2 earlier member marked update
        List.mem_cons_self
  ended other member := by
    refine final.ended other ?_
    simp only [List.mem_append, List.mem_cons, List.not_mem_nil, or_false] at member ⊢
    tauto

theorem Finality.detect {state : PolledState} (final : Finality (some state) history queue calls received)
    (live : state.terminal = false) {update : PollUpdate} (active : update.ends = false)
    : Finality (some .running) (history ++ [.running]) queue (calls ++ [update]) received := by
  have noEnd : ∀ other ∈ received ++ calls ++ queue, other.ends = false := by
    intro other member
    refine Bool.eq_false_iff.mpr (fun marked => ?_)
    have terminal := final.terminal member marked
    rw [live] at terminal
    cases terminal
  constructor
  · refine Settles.append_of_unmarked (fun earlier before => ?_) settles_singleton
    refine Bool.eq_false_iff.mpr (fun marked => ?_)
    have terminal := final.states.marked_last (final.current state rfl) before marked
    rw [live] at terminal
    cases terminal
  · intro other known
    cases known
    exact List.getLast?_concat
  · exact final.updates
  · intro call member marked
    rcases List.mem_append.mp member with before | same
    · have quiet := noEnd call (List.mem_append_left _ (List.mem_append_right _ before))
      rw [marked] at quiet
      cases quiet
    · rw [List.mem_singleton.mp same, active] at marked
      cases marked
  · intro earlier member marked
    have quiet := noEnd earlier (List.mem_append_left _ (List.mem_append_left _ member))
    rw [marked] at quiet
    cases quiet
  · intro other member marked
    have quiet : other.ends = false := by
      simp only [List.mem_append, List.mem_singleton] at member
      rcases member with (inReceived | inCalls | same) | inQueue
      · exact noEnd other (List.mem_append_left _ (List.mem_append_left _ inReceived))
      · exact noEnd other (List.mem_append_left _ (List.mem_append_right _ inCalls))
      · rw [same]
        exact active
      · exact noEnd other (List.mem_append_right _ inQueue)
    rw [marked] at quiet
    cases quiet

theorem Finality.fewerCalls (final : Finality state? history queue calls received)
    {rest : List PollUpdate} (fewer : rest.Sublist calls)
    : Finality state? history queue rest received where
  states := final.states
  current := final.current
  updates := final.updates
  callsFirst call member := final.callsFirst call (fewer.subset member)
  receivedFirst earlier member marked call onItsWay :=
    final.receivedFirst earlier member marked call (fewer.subset onItsWay)
  ended other member := by
    refine final.ended other ?_
    simp only [List.mem_append] at member ⊢
    rcases member with (before | onItsWay) | waiting
    · exact .inl (.inl before)
    · exact .inl (.inr (fewer.subset onItsWay))
    · exact .inr waiting

theorem Finality.deliver (final : Finality state? history queue calls received) {update : PollUpdate}
    (called : update ∈ calls) {rest : List PollUpdate} (fewer : rest.Sublist calls)
    (last : update.ends = true → ∀ call ∈ calls, call.ends = true)
    : Finality state? history queue rest (received ++ [update]) where
  states := final.states
  current := final.current
  updates := by
    have split := settles_append.mp final.updates
    rw [List.append_assoc]
    refine settles_append.mpr ⟨split.1, ?_, ?_⟩
    · refine List.pairwise_cons.mpr ⟨fun later waiting marked => ?_, split.2.1⟩
      exact final.callsFirst update called marked later waiting
    · intro earlier before marked later after
      rcases List.mem_cons.mp after with same | waiting
      · rw [same]
        exact final.receivedFirst earlier before marked update called
      · exact split.2.2 earlier before marked later waiting
  callsFirst call member := final.callsFirst call (fewer.subset member)
  receivedFirst earlier member marked call onItsWay := by
    rcases List.mem_append.mp member with before | same
    · exact final.receivedFirst earlier before marked call (fewer.subset onItsWay)
    · rw [List.mem_singleton.mp same] at marked
      exact last marked call (fewer.subset onItsWay)
  ended other member := by
    refine final.ended other ?_
    simp only [List.mem_append, List.mem_singleton] at member ⊢
    rcases member with ((before | same) | onItsWay) | waiting
    · exact .inl (.inl before)
    · exact .inl (.inr (same ▸ called))
    · exact .inl (.inr (fewer.subset onItsWay))
    · exact .inr waiting

end Invariant

section Runs

variable {rules : PollRules} {job libraryId : String} {world next : PollingWorld}

/-- What holds of the job between the steps. -/
def PollingWorld.Sound (job : String) (world : PollingWorld) : Prop :=
  Finality ((world.jobLibrary? job).map (·.state)) world.history (jobUpdates job world.loop.queue)
    (jobUpdates job (world.calls.map (·.update))) (jobUpdates job world.received)

theorem PollingWorld.Sound.of_final {state? : Option PolledState} {history : List PolledState}
    {queue calls received : List PollUpdate} (final : Finality state? history queue calls received)
    (state : (world.jobLibrary? job).map (·.state) = state?) (states : world.history = history)
    (waiting : jobUpdates job world.loop.queue = queue)
    (called : jobUpdates job (world.calls.map (·.update)) = calls)
    (told : jobUpdates job world.received = received)
    : world.Sound job := by
  unfold PollingWorld.Sound
  rw [state, states, waiting, called, told]
  exact final

theorem Begun.sound (begun : Begun job world) : world.Sound job := by
  unfold PollingWorld.Sound
  rw [begun.waiting, begun.history, begun.queue, begun.calls, begun.received]
  refine ⟨settles_singleton, fun state known => known ▸ rfl, settles_nil, ?_, ?_, ?_⟩
  · intro call member
    cases member
  · intro update member
    cases member
  · intro update member
    cases member

theorem PollingWorld.Sound.quiet (sound : world.Sound job)
    (library
      : ∀ state,
          (next.jobLibrary? job).map (·.state) = some state
          → (world.jobLibrary? job).map (·.state) = some state)
    (history : next.history = world.history) (calls : next.calls = world.calls)
    (received : next.received = world.received) (queue : next.loop.queue.Sublist world.loop.queue)
    : next.Sound job := by
  unfold PollingWorld.Sound
  rw [history, calls, received]
  exact sound.drop library (queue.filter _)

theorem PollingWorld.jobLibrary?_of_job {library : PolledLibrary}
    (known : world.library? = some library) (same : library.jobId = job)
    : world.jobLibrary? job = some library := by
  unfold PollingWorld.jobLibrary?
  rw [known, Option.filter_some, if_pos (decide_eq_true same)]

theorem PollingWorld.jobLibrary?_of_other {library : PolledLibrary}
    (known : world.library? = some library) (other : library.jobId ≠ job)
    : world.jobLibrary? job = none := by
  unfold PollingWorld.jobLibrary?
  rw [known, Option.filter_some, if_neg (by rw [decide_eq_true_eq]; exact other)]

theorem PollingWorld.library?_of_job {library : PolledLibrary}
    (known : world.jobLibrary? job = some library)
    : world.library? = some library ∧ library.jobId = job := by
  rcases Option.filter_eq_some_iff.mp known with ⟨found, same⟩
  exact ⟨found, of_decide_eq_true same⟩

theorem jobUpdates_eq_self {updates : List PollUpdate}
    (about : ∀ update ∈ updates, update.jobId = job)
    : jobUpdates job updates = updates :=
  List.filter_eq_self.mpr (fun update member => decide_eq_true (about update member))

theorem jobUpdates_eq_nil {updates : List PollUpdate}
    (about : ∀ update ∈ updates, update.jobId ≠ job)
    : jobUpdates job updates = [] :=
  List.filter_eq_nil_iff.mpr (fun update member => by
    rw [decide_eq_true_eq]
    exact about update member)

theorem PollingWorld.Sound.read (sound : world.Sound job) {library : PolledLibrary} {pass : PollPass}
    (known : world.library? = some library) (idle : world.loop.queue = [])
    (names : PassNames library pass)
    (settles : library.jobId = job → PassSettles library.state pass)
    (library? : next.library? = some pass.library)
    (history : next.history = (world.withLibrary job pass.library pass.states).history)
    (calls : next.calls = world.calls) (received : next.received = world.received)
    (queue : next.loop.queue = pass.updates)
    : next.Sound job := by
  unfold PollingWorld.Sound at sound ⊢
  rw [calls, received, history, queue]
  unfold PollingWorld.withLibrary
  dsimp only
  rw [names.names.job]
  by_cases same : library.jobId = job
  · rw [PollingWorld.jobLibrary?_of_job known same, idle] at sound
    rw [PollingWorld.jobLibrary?_of_job library? (names.names.job.trans same), if_pos same,
      jobUpdates_eq_self (fun update member => (names.jobs update member).trans same)]
    exact Finality.read sound (settles same)
  · rw [PollingWorld.jobLibrary?_of_other known same, idle] at sound
    rw [PollingWorld.jobLibrary?_of_other library? (names.names.job ▸ same), if_neg same,
      jobUpdates_eq_nil (fun update member => names.jobs update member ▸ same)]
    exact sound

theorem PollingWorld.Sound.pollFails (sound : world.Sound job) (idle : world.loop.queue = [])
    (now : Timestamp)
    : (world.pollFails job now).Sound job := by
  unfold PollingWorld.pollFails
  dsimp only
  split
  · exact sound.quiet (fun _ same => same) rfl rfl rfl (List.nil_sublist _)
  · split
    · exact sound.quiet (fun _ same => same) rfl rfl rfl (List.nil_sublist _)
    · next library update failed =>
        rcases Option.bind_eq_some_iff.mp failed with ⟨before, known, gaveUp⟩
        have ended := PolledLibrary.pollingFailureUpdate_spec gaveUp
        have settles : PassSettles before.state
            ⟨library, [] ++ [library.state], [] ++ [update], false, false⟩ := by
          have nothing : PassSettles before.state ⟨before, [], [], false, false⟩ :=
            ⟨rfl, settles_singleton, settles_nil, fun _ _ member => absurd member List.not_mem_nil,
              fun _ member => absurd member List.not_mem_nil⟩
          refine nothing.add (fun _ => ended.closed) (fun other member => ?_)
          rw [List.mem_singleton.mp member, ended.closed]
          exact decide_eq_true ended.status
        have names : PassNames before
            ⟨library, [] ++ [library.state], [] ++ [update], false, false⟩ := by
          refine ⟨ended.names, fun other member => ?_⟩
          rw [List.mem_singleton.mp member]
          exact ended.job
        exact sound.read known idle names (fun _ => settles) rfl rfl rfl rfl rfl

theorem PollingWorld.Sound.polled (sound : world.Sound job) (idle : world.loop.queue = [])
    {targeted : Bool} {answer : List Json} {now : Timestamp}
    (quiet
      : targeted = true
        → ∀ library, world.jobLibrary? job = some library → Quiet rules now library answer)
    : (world.polled rules job targeted answer now).Sound job := by
  unfold PollingWorld.polled
  split
  · split
    · exact sound.quiet (fun _ same => same) rfl rfl rfl (List.nil_sublist _)
    · exact sound.pollFails idle now
  · next library asked =>
      split at asked
      · next targeted_ =>
          have names := pollAnswer_names rules library answer now
          have settles (same : library.jobId = job)
              : PassSettles library.state (pollAnswer rules library answer now) :=
            pollAnswer_settles
              (quiet targeted_ library (PollingWorld.jobLibrary?_of_job asked same))
          dsimp only
          split
          · -- what the pass would publish is lost with the error
            have namesOnly
                : PassNames library { pollAnswer rules library answer now with updates := [] } :=
              ⟨names.names, fun _ member => absurd member List.not_mem_nil⟩
            have statesOnly (same : library.jobId = job)
                : PassSettles library.state
                    { pollAnswer rules library answer now with updates := [] } :=
              ⟨(settles same).last, (settles same).states, settles_nil,
                fun _ _ member => absurd member List.not_mem_nil,
                fun _ member => absurd member List.not_mem_nil⟩
            have read
                : (world.withLibrary job (pollAnswer rules library answer now).library
                    (pollAnswer rules library answer now).states).Sound job :=
              sound.read asked idle namesOnly statesOnly rfl rfl rfl rfl idle
            exact read.pollFails idle now
          · exact sound.read asked idle names settles rfl rfl rfl rfl rfl
      · cases asked

theorem PollingWorld.Sound.stopTracking (sound : world.Sound job) (jobId : String) (alone : Bool)
    : (world.stopTracking jobId alone).Sound job := by
  unfold PollingWorld.stopTracking
  split
  · exact sound
  · split
    · refine sound.quiet (fun state known => ?_) rfl rfl rfl (List.nil_sublist _)
      cases known
    · refine sound.quiet (fun state known => ?_) rfl rfl rfl (List.Sublist.refl _)
      cases known

theorem PollingWorld.Sound.withCleanup (sound : world.Sound job) (update : PollUpdate)
    (accepts : Bool)
    : (world.withCleanup update accepts).Sound job := by
  unfold PollingWorld.withCleanup
  split
  · exact sound.quiet (fun _ same => same) rfl rfl rfl (List.Sublist.refl _)
  · exact sound

theorem queue_withCleanup (world : PollingWorld) (update : PollUpdate) (accepts : Bool)
    : (world.withCleanup update accepts).loop.queue = world.loop.queue := by
  unfold PollingWorld.withCleanup
  split <;> rfl

theorem PollingWorld.Sound.withPhase (sound : world.Sound job) {phase : LoopPhase}
    (fewer : (world.withPhase phase).loop.queue.Sublist world.loop.queue)
    : (world.withPhase phase).Sound job :=
  sound.quiet (fun _ same => same) rfl rfl rfl fewer

theorem jobUpdates_map_append (calls : List TrackerCall) (call : TrackerCall)
    : jobUpdates job ((calls ++ [call]).map (·.update))
      = jobUpdates job (calls.map (·.update)) ++ jobUpdates job [call.update] := by
  unfold jobUpdates
  rw [List.map_append, List.filter_append, List.map_singleton]

theorem PollingWorld.Sound.tell (sound : world.Sound job) {update : PollUpdate}
    {rest : List PollUpdate} (queue : world.loop.queue = update :: rest) {phase : LoopPhase}
    (left : (world.withPhase phase).loop.queue = rest)
    (begun : (world.updateTrackerStatus update).2 = true)
    : ((world.updateTrackerStatus update).1.withPhase phase).Sound job := by
  unfold PollingWorld.updateTrackerStatus at begun ⊢
  cases tracked : world.jobLibrary? update.jobId with
  | none =>
      rw [tracked] at begun
      cases begun
  | some library =>
      dsimp only
      unfold PollingWorld.Sound at sound ⊢
      have after
          : (PollingWorld.withPhase
              { world with
                calls := world.calls ++ [⟨world.nextCall, update⟩]
                nextCall := world.nextCall + 1 } phase).loop.queue = rest :=
        left
      rw [after]
      rw [queue] at sound
      have shown
          : jobUpdates job ((world.calls ++ [TrackerCall.mk world.nextCall update]).map (·.update))
            = jobUpdates job (world.calls.map (·.update)) ++ jobUpdates job [update] :=
        jobUpdates_map_append _ _
      by_cases same : update.jobId = job
      · have head : jobUpdates job (update :: rest) = update :: jobUpdates job rest :=
          List.filter_cons_of_pos (decide_eq_true same)
        have single : jobUpdates job [update] = [update] :=
          List.filter_cons_of_pos (decide_eq_true same)
        rw [head] at sound
        have told := sound.tell
        rw [← single, ← shown] at told
        exact told
      · have head : jobUpdates job (update :: rest) = jobUpdates job rest :=
          List.filter_cons_of_neg (by rw [decide_eq_true_eq]; exact same)
        have single : jobUpdates job [update] = [] :=
          List.filter_cons_of_neg (by rw [decide_eq_true_eq]; exact same)
        rw [head] at sound
        rw [single, List.append_nil] at shown
        rw [← shown] at sound
        exact sound

theorem PollingWorld.Sound.detected (sound : world.Sound job) {progress : ℚ} {now : Timestamp}
    (live : ∀ library, world.jobLibrary? job = some library → library.state.terminal = false)
    : (world.handleDetectedProgress rules job progress now).Sound job := by
  unfold PollingWorld.handleDetectedProgress
  cases tracked : world.jobLibrary? job with
  | none => exact sound
  | some library =>
      dsimp only
      have same := (PollingWorld.library?_of_job tracked).2
      have kept
          : (world.withLibrary job (library.afterDetection now progress)
              [(library.afterDetection now progress).state]).jobLibrary?
                (library.detectionUpdate rules now progress).jobId
            = some (library.afterDetection now progress) := by
        have named : (library.detectionUpdate rules now progress).jobId = job := same
        rw [named]
        exact PollingWorld.jobLibrary?_of_job rfl same
      unfold PollingWorld.updateTrackerStatus
      rw [kept]
      unfold PollingWorld.Sound at sound
      rw [tracked] at sound
      have active : (library.detectionUpdate rules now progress).ends = false := rfl
      have single
          : jobUpdates job [library.detectionUpdate rules now progress]
            = [library.detectionUpdate rules now progress] :=
        List.filter_cons_of_pos (decide_eq_true same)
      refine PollingWorld.Sound.of_final (Finality.detect sound (live library tracked) active) ?_ ?_ rfl
        ?_ rfl
      · have found := @PollingWorld.jobLibrary?_of_job job
          (world.withLibrary job (library.afterDetection now progress)
            [(library.afterDetection now progress).state])
          (library.afterDetection now progress) rfl same
        exact congrArg (Option.map (·.state)) found
      · exact if_pos same
      · rw [← single]
        exact jobUpdates_map_append world.calls ⟨world.nextCall, _⟩

theorem PollingWorld.Sound.delivered (sound : world.Sound job) {index : Nat} {call : TrackerCall}
    (found : world.calls[index]? = some call)
    (last
      : call.update.jobId = job
        → call.update.ends = true
        → ∀ other ∈ jobUpdates job (world.calls.map (·.update)), other.ends = true)
    : PollingWorld.Sound job
        { world with
          calls := world.calls.eraseIdx index
          received := world.received ++ [call.update] } := by
  have fewer
      : (jobUpdates job ((world.calls.eraseIdx index).map (·.update))).Sublist
          (jobUpdates job (world.calls.map (·.update))) :=
    ((List.eraseIdx_sublist _ _).map _).filter _
  have received
      : jobUpdates job (world.received ++ [call.update])
        = jobUpdates job world.received ++ jobUpdates job [call.update] :=
    List.filter_append ..
  by_cases same : call.update.jobId = job
  · have single : jobUpdates job [call.update] = [call.update] :=
      List.filter_cons_of_pos (decide_eq_true same)
    have member : call.update ∈ jobUpdates job (world.calls.map (·.update)) :=
      List.mem_filter.mpr
        ⟨List.mem_map_of_mem (List.mem_of_getElem? found), decide_eq_true same⟩
    rw [single] at received
    exact .of_final (Finality.deliver sound member fewer (last same)) rfl rfl rfl rfl received
  · have single : jobUpdates job [call.update] = [] :=
      List.filter_cons_of_neg (by rw [decide_eq_true_eq]; exact same)
    rw [single, List.append_nil] at received
    exact .of_final (Finality.fewerCalls sound fewer) rfl rfl rfl rfl received

theorem PollingWorld.Sound.stopFailed (sound : world.Sound job) (jobs : List String)
    : (jobs.foldl (fun world jobId => world.stopTracking jobId false) world).Sound job := by
  induction jobs generalizing world with
  | nil => exact sound
  | cons jobId rest ih => exact ih (sound.stopTracking jobId false)

/-- Every orderly step keeps the invariant, by cases on the event. -/
theorem PollingWorld.Sound.step (sound : world.Sound job) {event : PollingEvent}
    (orderly : Orderly rules job libraryId world event)
    (taken : pollingStep rules job libraryId world event = some next)
    : next.Sound job := by
  cases event with
  | collect now others =>
      dsimp only [pollingStep] at taken
      split at taken
      · split at taken
        · cases taken
          exact sound.withPhase (List.nil_sublist _)
        · cases taken
          exact sound.quiet (fun _ same => same) rfl rfl rfl (List.nil_sublist _)
      · cases taken
  | answer response now =>
      dsimp only [pollingStep] at taken
      split at taken
      · next targeted phase =>
          have idle : world.loop.queue = [] := by
            unfold PollingLoop.queue
            rw [phase]
          cases response with
          | none =>
              cases taken
              exact sound.pollFails idle now
          | some answer =>
              cases taken
              refine sound.polled idle (fun asked library tracked => ?_)
              rw [asked] at phase
              exact orderly phase library tracked
      · cases taken
  | notify accepts =>
      dsimp only [pollingStep] at taken
      split at taken
      · next update rest phase =>
          have queue : world.loop.queue = update :: rest := by
            unfold PollingLoop.queue
            rw [phase]
          split at taken
          · next begun =>
              cases taken
              exact sound.tell queue rfl begun
          · cases taken
            refine (sound.withCleanup update accepts).withPhase ?_
            rw [queue_withCleanup, queue]
            exact List.sublist_cons_self _ _
      · cases taken
  | resume accepts =>
      dsimp only [pollingStep] at taken
      split at taken
      · next call update rest phase =>
          split at taken
          · cases taken
          · cases taken
            refine (sound.withCleanup update accepts).withPhase ?_
            have queue : world.loop.queue = rest := by
              unfold PollingLoop.queue
              rw [phase]
            rw [queue_withCleanup, queue]
            exact List.Sublist.refl _
      · cases taken
  | notified =>
      dsimp only [pollingStep] at taken
      split at taken
      · split at taken
        · cases taken
          exact (sound.stopFailed _).withPhase (List.nil_sublist _)
        · cases taken
          exact sound.quiet (fun _ same => same) rfl rfl rfl (List.nil_sublist _)
      · cases taken
  | wake =>
      dsimp only [pollingStep] at taken
      split at taken
      · cases taken
        exact sound.withPhase (List.nil_sublist _)
      · cases taken
  | startLoop =>
      dsimp only [pollingStep] at taken
      split at taken
      · cases taken
        exact sound.quiet (fun _ same => same) rfl rfl rfl (List.nil_sublist _)
      · cases taken
  | shoot current =>
      dsimp only [pollingStep] at taken
      split at taken
      · split at taken
        · cases taken
          exact sound.quiet (fun _ same => same) rfl rfl rfl (List.Sublist.refl _)
        · cases taken
      · cases taken
  | shotAnswers response current now =>
      have done (detection : Detection) : PollingWorld.Sound job { world with detection } :=
        sound.quiet (fun _ same => same) rfl rfl rfl (List.Sublist.refl _)
      dsimp only [pollingStep] at taken
      split at taken
      · cases response with
        | none =>
            cases taken
            exact done _
        | some answer =>
            dsimp only at taken
            split at taken
            · cases taken
              exact done _
            · cases taken
              exact done _
            · next given present found =>
                split at taken
                · cases taken
                  exact done _
                · next progress read =>
                    cases taken
                    cases current with
                    | false => cases read
                    | true =>
                        refine (done .done).detected (fun library tracked => ?_)
                        refine orderly given found ?_ ?_ library tracked
                        · cases given with
                          | null => exact absurd rfl present
                          | _ => rfl
                        · rw [Option.isSome_iff_exists]
                          exact ⟨progress, read⟩
      · cases taken
  | shotsEnd now =>
      dsimp only [pollingStep] at taken
      split at taken
      · split at taken
        · cases taken
        · split at taken
          · cases taken
            exact sound.quiet (fun _ same => same) rfl rfl rfl (List.Sublist.refl _)
          · next library tracked =>
              cases taken
              refine sound.quiet (fun state known => ?_) rfl rfl rfl (List.Sublist.refl _)
              have same := (PollingWorld.library?_of_job tracked).2
              unfold PollingWorld.jobLibrary? at known
              dsimp only at known
              rw [Option.filter_some, if_pos (decide_eq_true same)] at known
              rw [tracked]
              exact known
      · cases taken
  | deliver index =>
      rcases Option.map_eq_some_iff.mp taken with ⟨call, found, same⟩
      cases same
      exact sound.delivered found (orderly call found)
  | cleanup index alone =>
      rcases Option.map_eq_some_iff.mp taken with ⟨jobId, found, same⟩
      cases same
      refine PollingWorld.Sound.stopTracking ?_ jobId alone
      exact sound.quiet (fun _ same => same) rfl rfl rfl (List.Sublist.refl _)
  | remove loopStops detectionStops =>
      cases taken
      refine sound.quiet (fun state known => ?_) rfl rfl rfl ?_
      · cases known
      · dsimp only
        split
        · exact List.nil_sublist _
        · exact List.Sublist.refl _
  | replace library =>
      dsimp only [pollingStep] at taken
      split at taken
      · cases taken
      · next other =>
          cases taken
          refine sound.quiet (fun state known => ?_) rfl rfl rfl (List.Sublist.refl _)
          rw [PollingWorld.jobLibrary?_of_other rfl other] at known
          cases known

end Runs

section LateAnswer

def plainNumbers : PollRules :=
  ⟨⟨id, Char.isAlphanum, fun _ => none, fun _ => ""⟩, fun _ => none, fun _ => ""⟩

def scanStarted : PollingWorld where
  library? := some (.started "green" "films" "j1" none "content" 0 0)
  history := [.waiting]
  detection := .shot 0
  loop := .new
  calls := []
  nextCall := 0
  cleanups := []
  received := []

theorem scanStarted_begun : Begun "j1" scanStarted := ⟨rfl, rfl, rfl, rfl, rfl⟩

def folder (progress : Json) : Json :=
  .ofDict ⟨[("ItemId", .text "films"), ("RefreshProgress", progress)], by simp⟩

def firstPoll : List PollingEvent :=
  [.collect 0 false, .answer (some [folder (.int 50)]) second, .notify true, .deliver 0]

/-- A shot is answered after the scan has ended. -/
def lateAnswer : List PollingEvent :=
  [.shoot true] ++ firstPoll
  ++ [.resume true, .notified, .wake, .collect (6 * second) false,
    .answer (some [folder .null]) (7 * second), .notify true, .deliver 0,
    .shotAnswers (some [folder (.int 50)]) true (7 * second), .deliver 0]

end LateAnswer

end OctoHubs.Libraries
