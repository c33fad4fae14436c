import OctoHubs.Libraries.PolledLibraries
import OctoHubs.Libraries.PollerLifecycle

/-! Starts that cross from the worker threads to the event loop beside the stops of servers and the
resets. A start takes effect when its generations are still the current ones and its server is not
blocked; the threads go on between these checks, the other tasks of the loop do not.
-/

namespace OctoHubs.Libraries

open OctoHubs.Library

/-- A start of tracking, under the generations that it expects. It is outdated when a stop of its
server or a reset has come since.
-/
structure TrackingStart where
  serverId : String
  libraryId : String
  jobId : String
  scanType : String
  libraryName : Option String
  expectedGeneration : Option Nat
  expectedLifecycleGeneration : Option Nat
  outdated : Bool
deriving DecidableEq

/-- A call that schedules a start, in its worker thread: it has read the lifecycle, or the server
as well, or it has queued the start.
-/
structure ScheduleCall where
  start : TrackingStart
  queued : Bool

/-- A call that stops a server; the server may be allowed again before it returns. -/
structure StopCall where
  serverId : String
  allowed : Bool
deriving DecidableEq

/-- What the event loop is at, where it does not wait. -/
inductive LoopTask
  | free
  | checksServer (start : TrackingStart)
  | checksBlocked (start : TrackingStart)
  | admitted (start : TrackingStart)
  | blocked (stop : StopCall)
  | invalidated (stop : StopCall)
  | resets
  | clears

/-- The poller with the libraries that it tracks and their states, the calls of the worker threads,
the starts that wait for the loop, and the stops, resets and shutdowns in progress. A server is
stopped from the return of a stop until it is allowed.
-/
structure StopWorld where
  poller : LibraryPoller
  trackedLibraries : Dict String (List String)
  libraryStates : Dict String PolledLibrary
  calls : List ScheduleCall
  starts : List TrackingStart
  task : LoopTask
  stops : List StopCall
  resets : List Nat
  shutdowns : List Nat
  stopped : List String

def StopWorld.initial : StopWorld := ⟨.new, ∅, ∅, [], [], .free, [], [], [], []⟩

/-- What a polling step makes of a library. -/
inductive PollChange
  | read (refreshProgress : Json) (now : Timestamp)
  | detected (refreshProgress : ℚ) (now : Timestamp)
  | failed (message : String) (now : Timestamp)
  | missing (now : Timestamp)
  | polledSooner (now : Timestamp)

def PolledLibrary.change (rules : PollRules) (library : PolledLibrary)
    : PollChange → PolledLibrary
  | .read refreshProgress now => library.afterReading rules now refreshProgress
  | .detected refreshProgress now => library.afterDetection now refreshProgress
  | .failed message now =>
      match library.pollingFailureUpdate now message with
      | some (failed, _) => failed
      | none => library
  | .missing now =>
      match library.missingTargetUpdate rules now with
      | some (ended, _) => ended
      | none => library.withNextPoll now
  | .polledSooner now => { library with nextPollTime := some (now + rapidPollInterval) }

inductive StopEvent
  | scheduleBegins (serverId libraryId jobId scanType : String) (libraryName : Option String)
  | scheduleReads (index : Nat)
  | scheduleQueues (index : Nat)
  | scheduleReturns (index : Nat)
  | startDropped (index : Nat)
  | startBegins (index : Nat)
  | track (serverId libraryId jobId scanType : String) (libraryName : Option String)
  | checkServer
  | checkBlocked
  | takeEffect (queuePosition : Nat) (now : Timestamp)
  | stopBegins (serverId : String)
  | stopInvalidates
  | stopClears
  | stopReturns (index : Nat)
  | stopCancelled (index : Nat)
  | allow (serverId : String)
  | resetBegins
  | shutdownBegins
  | resetInvalidates
  | resetClears
  | resetFinishes (index : Nat)
  | shutdownFinishes (index : Nat)
  | reopens
  | poll (key : String) (change : PollChange)
  | stopTracking (serverId libraryId : String) (expectedJobId : Option String)

def stateKey (serverId libraryId : String) : String := serverId ++ ":" ++ libraryId

/-- The server's generation, which is entered when it is read for the first time. -/
def LibraryPoller.serverGeneration (poller : LibraryPoller) (serverId : String) : Nat :=
  (poller.serverGenerations.get? serverId).getD 0

def LibraryPoller.withServerGeneration (poller : LibraryPoller) (serverId : String)
    : LibraryPoller :=
  { poller with serverGenerations := poller.serverGenerations.setDefault serverId 0 }

namespace StopWorld

variable (world : StopWorld)

/-- The starts that have read the generations of the server are outdated by a stop of it. -/
def outdate (outdates : TrackingStart → Bool) : StopWorld :=
  let mark (start : TrackingStart) : TrackingStart :=
    if outdates start then { start with outdated := true } else start
  { world with
    calls := world.calls.map (fun call => { call with start := mark call.start })
    starts := world.starts.map mark }

/-- The loop looks at a start that wants to track a library. -/
def startTracking (start : TrackingStart) : StopWorld :=
  if !world.poller.lifecycle.acceptTasks then world
  else if start.expectedLifecycleGeneration.any
      (· ≠ world.poller.lifecycle.lifecycleGeneration) then world
  else { world with task := .checksServer start }

def track (start : TrackingStart) (queuePosition : Nat) (now : Timestamp) : StopWorld :=
  let tracked := (world.trackedLibraries.get? start.serverId).getD []
  let poller :=
    { world.poller with
      pollingTasks :=
        if start.serverId ∈ world.poller.pollingTasks then world.poller.pollingTasks
        else world.poller.pollingTasks ++ [start.serverId] }
  { world with
    poller := poller.spawnBackgroundTask
    trackedLibraries :=
      world.trackedLibraries.set start.serverId
        (if start.libraryId ∈ tracked then tracked else tracked ++ [start.libraryId])
    libraryStates :=
      world.libraryStates.set (stateKey start.serverId start.libraryId)
        (.started start.serverId start.libraryId start.jobId start.libraryName start.scanType
          queuePosition now) }

/-- The tasks of a server, its tracked libraries and their states are removed. -/
def clearServer (serverId : String) : StopWorld :=
  let libraryIds := (world.trackedLibraries.get? serverId).getD []
  { world with
    poller :=
      { world.poller with pollingTasks := world.poller.pollingTasks.filter (· ≠ serverId) }
    trackedLibraries := world.trackedLibraries.erase serverId
    libraryStates :=
      libraryIds.foldl (fun states libraryId => states.erase (stateKey serverId libraryId))
        world.libraryStates }

def clearAll : StopWorld :=
  { world with
    poller := world.poller.cancelTasks
    trackedLibraries := ∅
    libraryStates := ∅ }

def stopTrackingLibrary (serverId libraryId : String) (expectedJobId : Option String)
    : StopWorld :=
  let key := stateKey serverId libraryId
  if expectedJobId.any (fun jobId =>
      ((world.libraryStates.get? key).map (·.jobId)) ≠ some jobId) then world
  else
    match world.trackedLibraries.get? serverId with
    | none => { world with libraryStates := world.libraryStates.erase key }
    | some libraryIds =>
        let left := libraryIds.filter (· ≠ libraryId)
        { world with
          poller :=
            { world.poller with
              pollingTasks :=
                if left = [] then world.poller.pollingTasks.filter (· ≠ serverId)
                else world.poller.pollingTasks }
          trackedLibraries := world.trackedLibraries.set serverId left
          libraryStates := world.libraryStates.erase key }

/-- Stops in progress are told that their server was allowed. -/
def StopCall.tell (stop : StopCall) (serverId : String) : StopCall :=
  if stop.serverId = serverId then { stop with allowed := true } else stop

/-- A server is admitted again, which any thread may do at any time. -/
def allowServer (serverId : String) : StopWorld :=
  { world with
    poller := world.poller.allowServer serverId
    task :=
      match world.task with
      | .blocked stop => .blocked (StopCall.tell stop serverId)
      | .invalidated stop => .invalidated (StopCall.tell stop serverId)
      | task => task
    stops := world.stops.map (StopCall.tell · serverId)
    stopped := world.stopped.filter (· ≠ serverId) }

end StopWorld

/-- One step of a worker thread, or of a task of the loop, which gives way only where it waits. -/
def stopStep (rules : PollRules) (world : StopWorld) : StopEvent → Option StopWorld
  | .scheduleBegins serverId libraryId jobId scanType libraryName =>
      if world.poller.lifecycle.acceptTasks then
        let generation := world.poller.lifecycle.lifecycleGeneration
        some
          { world with
            calls :=
              world.calls
                ++ [⟨⟨serverId, libraryId, jobId, scanType, libraryName, none, some generation,
                  false⟩, false⟩] }
      else some world
  | .scheduleReads index =>
      world.calls[index]?.bind (fun call =>
        if call.start.expectedGeneration.isSome then none
        else if call.start.serverId ∈ world.poller.blockedServers then
          some { world with calls := world.calls.eraseIdx index }
        else
          let serverId := call.start.serverId
          let start :=
            { call.start with
              expectedGeneration := some (world.poller.serverGeneration serverId) }
          some
            { world with
              poller := world.poller.withServerGeneration serverId
              calls := world.calls.set index ⟨start, false⟩ })
  | .scheduleQueues index =>
      world.calls[index]?.bind (fun call =>
        if call.start.expectedGeneration.isNone || call.queued then none
        else
          some
            { world with
              calls := world.calls.set index ⟨call.start, true⟩
              starts := world.starts ++ [call.start] })
  | .scheduleReturns index =>
      world.calls[index]?.bind (fun call =>
        match call.queued, call.start.expectedGeneration,
          call.start.expectedLifecycleGeneration with
        | true, some generation, some lifecycleGeneration =>
            let future : ScheduledStart :=
              ⟨call.start.serverId, generation, lifecycleGeneration⟩
            some
              { world with
                calls := world.calls.eraseIdx index
                poller :=
                  { world.poller with
                    scheduledStarts := world.poller.scheduledStarts ++ [future] } }
        | _, _, _ => none)
  | .startDropped index => some { world with starts := world.starts.eraseIdx index }
  | .startBegins index =>
      match world.task, world.starts[index]? with
      | .free, some start =>
          some ({ world with starts := world.starts.eraseIdx index }.startTracking start)
      | _, _ => none
  | .track serverId libraryId jobId scanType libraryName =>
      match world.task with
      | .free =>
          some
            (world.startTracking
              ⟨serverId, libraryId, jobId, scanType, libraryName, none, none, false⟩)
      | _ => none
  | .checkServer =>
      match world.task with
      | .checksServer start =>
          match start.expectedGeneration with
          | none => some { world with task := .checksBlocked start }
          | some generation =>
              let poller := world.poller.withServerGeneration start.serverId
              if generation = world.poller.serverGeneration start.serverId then
                some { world with poller, task := .checksBlocked start }
              else some { world with poller, task := .free }
      | _ => none
  | .checkBlocked =>
      match world.task with
      | .checksBlocked start =>
          if start.serverId ∈ world.poller.blockedServers then some { world with task := .free }
          else some { world with task := .admitted start }
      | _ => none
  | .takeEffect queuePosition now =>
      match world.task with
      | .admitted start => some { world.track start queuePosition now with task := .free }
      | _ => none
  | .stopBegins serverId =>
      match world.task with
      | .free =>
          some
            { world with
              poller :=
                { world.poller with blockedServers := world.poller.blockedServers ++ [serverId] }
              task := .blocked ⟨serverId, false⟩ }
      | _ => none
  | .stopInvalidates =>
      match world.task with
      | .blocked stop =>
          some
            { world.outdate (fun start =>
                start.serverId = stop.serverId && start.expectedGeneration.isSome) with
              poller := world.poller.invalidateServerStarts stop.serverId
              task := .invalidated stop }
      | _ => none
  | .stopClears =>
      match world.task with
      | .invalidated stop =>
          some
            { world.clearServer stop.serverId with
              task := .free
              stops := world.stops ++ [stop] }
      | _ => none
  | .stopReturns index =>
      world.stops[index]?.map (fun stop =>
        { world with
          stops := world.stops.eraseIdx index
          stopped := if stop.allowed then world.stopped else world.stopped ++ [stop.serverId] })
  | .stopCancelled index => some { world with stops := world.stops.eraseIdx index }
  | .allow serverId => some (world.allowServer serverId)
  | .resetBegins =>
      match world.task with
      | .free =>
          let (lifecycle, generation) := world.poller.lifecycle.beginOperationalReset
          some
            { world.outdate (fun _ => true) with
              poller := { world.poller with lifecycle }
              resets := world.resets ++ [generation]
              task := .resets }
      | _ => none
  | .shutdownBegins =>
      match world.task with
      | .free =>
          let (lifecycle, generation) := world.poller.lifecycle.beginTerminalShutdown
          some
            { world.outdate (fun _ => true) with
              poller := { world.poller with lifecycle }
              shutdowns := world.shutdowns ++ [generation]
              task := .resets }
      | _ => none
  | .resetInvalidates =>
      match world.task with
      | .resets => some { world with poller := world.poller.invalidateAllStarts, task := .clears }
      | _ => none
  | .resetClears =>
      match world.task with
      | .clears => some { world.clearAll with task := .free }
      | _ => none
  | .resetFinishes index =>
      match world.task, world.resets[index]? with
      | .free, some generation =>
          some
            { world with
              poller :=
                { world.poller with
                  lifecycle := world.poller.lifecycle.finishOperationalReset generation }
              resets := world.resets.eraseIdx index }
      | _, _ => none
  | .shutdownFinishes index =>
      match world.task, world.shutdowns[index]? with
      | .free, some generation =>
          some
            { world with
              poller :=
                { world.poller with
                  lifecycle := world.poller.lifecycle.finishTerminalShutdown generation }
              shutdowns := world.shutdowns.eraseIdx index }
      | _, _ => none
  | .reopens =>
      match world.task with
      | .free =>
          some
            { world with
              poller := { world.poller with lifecycle := world.poller.lifecycle.reopen } }
      | _ => none
  | .poll key change =>
      match world.task, world.libraryStates.get? key with
      | .free, some library =>
          some
            { world with
              libraryStates := world.libraryStates.set key (library.change rules change) }
      | _, _ => none
  | .stopTracking serverId libraryId expectedJobId =>
      match world.task with
      | .free => some (world.stopTrackingLibrary serverId libraryId expectedJobId)
      | _ => none

def StopWorld.stopsInProgress (world : StopWorld) : List StopCall :=
  match world.task with
  | .blocked stop => stop :: world.stops
  | .invalidated stop => stop :: world.stops
  | _ => world.stops

/-- The guard of the server configuration is held through a stop, so that no server is saved, and
with that allowed, while it is stopped.
-/
def ServerConfigurationGuard (world : StopWorld) : StopEvent → Prop
  | .allow serverId => ∀ stop ∈ world.stopsInProgress, stop.serverId ≠ serverId
  | _ => True

end OctoHubs.Libraries
