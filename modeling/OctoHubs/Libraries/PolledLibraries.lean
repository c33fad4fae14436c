import OctoHubs.Libraries.ScanTracker

/-! What the poller knows of a library that is scanned, and what each of its readings makes of that:
a polled folder, a progress that a shot detects, a poller that gives up, a folder that is missing.
-/

namespace OctoHubs.Libraries

open OctoHubs.Library

def rapidPollInterval : Timestamp := 2 * second
def activePollInterval : Timestamp := 5 * second
def idlePollInterval : Timestamp := 30 * second
def progressDetectionTimeout : Timestamp := 60 * second
def maxScanDuration : Timestamp := 3600 * second
def cleanupDelay : Timestamp := 300 * second

/-- How numbers are read from a text and shown with one decimal. -/
structure PollRules extends Alphabet where
  readFloat? : String → Option ℚ
  oneDecimal : ℚ → String

variable (rules : PollRules)

def PollRules.toFloat? : Json → Option ℚ
  | .bool value => some (if value then 1 else 0)
  | .int value => some value
  | .float value _ => some value
  | .text value => rules.readFloat? value
  | _ => none

def PollRules.seconds (duration : Timestamp) : String :=
  rules.oneDecimal ((duration : ℚ) / second) ++ "s"

inductive PolledState
  | waiting
  | running
  | idle
  | completed
  | error
  | timeout
  | interrupted
deriving DecidableEq

def PolledState.terminal (state : PolledState) : Bool := state ≠ .waiting && state ≠ .running

structure PollMetadata where
  libraryName : Option String
  scanType : String
  tripleShotDetected : Bool
  state : Option PolledState
  scanStage : Option String
  queuePosition : Option Nat
deriving DecidableEq

/-- A library of a server that is scanned for a job. -/
structure PolledLibrary where
  serverId : String
  libraryId : String
  jobId : String
  state : PolledState
  progress : ℚ
  scanRequestedAt : Timestamp
  firstProgressSeenAt : Option Timestamp
  startedAt : Option Timestamp
  lastSeenAt : Timestamp
  progressSource : String
  everSeenProgress : Bool
  scanStage : String
  completedAt : Option Timestamp
  cleanupScheduled : Option Timestamp
  nextPollTime : Option Timestamp
  queuePosition : Nat
  metadata : PollMetadata
deriving DecidableEq

/-- What the tracker is told of a library, and whether its tracking ends with that. -/
structure PollUpdate where
  jobId : String
  libraryId : String
  status : ScanStatus
  progress : ℚ
  message : String
  metadata : PollMetadata
  cleanup : Bool
deriving DecidableEq

namespace PolledLibrary

def started (serverId libraryId jobId : String) (libraryName : Option String) (scanType : String)
    (queuePosition : Nat) (now : Timestamp) : PolledLibrary where
  serverId := serverId
  libraryId := libraryId
  jobId := jobId
  state := .waiting
  progress := 0
  scanRequestedAt := now
  firstProgressSeenAt := none
  startedAt := none
  lastSeenAt := now
  progressSource := "none"
  everSeenProgress := false
  scanStage := "file"
  completedAt := none
  cleanupScheduled := none
  nextPollTime := some now
  queuePosition := queuePosition
  metadata := ⟨libraryName, scanType, false, none, none, none⟩

variable (library : PolledLibrary) (now : Timestamp)

def update (status : ScanStatus) (progress : ℚ) (message : String) (cleanup : Bool) : PollUpdate :=
  ⟨library.jobId, library.libraryId, status, progress, message, library.metadata, cleanup⟩

def knownProgress : ℚ := min (max library.progress 0) 1

/-- When the library is polled next, if it is, and the library with its cleanup scheduled. -/
def calculateNextPollTime : Option Timestamp × PolledLibrary :=
  match library.state with
  | .waiting =>
      if library.everSeenProgress then (some (now + activePollInterval), library)
      else if progressDetectionTimeout < now - library.scanRequestedAt then (none, library)
      else (some (now + rapidPollInterval), library)
  | .running => (some (now + activePollInterval), library)
  | _ =>
      let cleanup := library.cleanupScheduled.getD (now + cleanupDelay)
      (some cleanup, { library with cleanupScheduled := some cleanup })

def withNextPoll : PolledLibrary :=
  let (next, library) := library.calculateNextPollTime now
  { library with nextPollTime := some (next.getD (now + idlePollInterval)) }

/-- A scan that has run for too long. -/
def overdue : Bool := library.startedAt.any (fun started => maxScanDuration < now - started)

structure Reading where
  state : PolledState
  scanStage : String
  percentage : ℚ
  progressSource : String

/-- What a folder says of the library: its progress, or that it has none. -/
def reading (refreshProgress : Json) : Reading :=
  match refreshProgress with
  | .null =>
      if library.everSeenProgress then ⟨.idle, "completed", 100, "none"⟩
      else if progressDetectionTimeout < now - library.scanRequestedAt then
        ⟨.timeout, library.scanStage, 100, "none"⟩
      else ⟨.waiting, library.scanStage, 0, "none"⟩
  | given =>
      let raw := (rules.toFloat? given).getD 0
      let source := "virtualfolders.RefreshProgress"
      if library.overdue now then
        ⟨.error, library.scanStage, library.knownProgress * 100, source⟩
      else ⟨.running, if raw ≤ 90 then "file" else "metadata", min (max raw 0) 100, source⟩

def isGiven : Json → Bool
  | .null => false
  | _ => true

/-- The library after a folder with its id was polled. -/
def afterReading (refreshProgress : Json) : PolledLibrary :=
  let read : Reading := library.reading rules now refreshProgress
  let first := isGiven refreshProgress && !library.everSeenProgress
  let seen :=
    { library with
      everSeenProgress := library.everSeenProgress || first
      firstProgressSeenAt := if first then some now else library.firstProgressSeenAt
      completedAt :=
        if read.state = PolledState.idle ∨ read.state = PolledState.timeout then some now
        else library.completedAt
      metadata :=
        { library.metadata with
          state := some read.state
          scanStage := some read.scanStage
          queuePosition := some library.queuePosition }
      state := read.state
      progress := read.percentage / 100
      scanStage := read.scanStage
      lastSeenAt := now
      progressSource := read.progressSource }
  let polled := seen.withNextPoll now
  { polled with
    startedAt :=
      if library.state ≠ .running ∧ read.state = PolledState.running then some now
      else library.startedAt }

/-- What is published of a polled folder: an end once, and progress of one percent or more. -/
def readingUpdate (refreshProgress : Json) : Option PollUpdate :=
  let read : Reading := library.reading rules now refreshProgress
  let after := library.afterReading rules now refreshProgress
  let changed : Bool := library.state ≠ read.state
  match read.state with
  | .idle =>
      if changed then some (after.update .completed 1 "Scan completed successfully" true) else none
  | .timeout =>
      if changed then
        some
          (after.update .completed 1
            ("RefreshProgress never appeared after "
              ++ rules.seconds (now - library.scanRequestedAt))
            true)
      else none
  | .error =>
      if changed then
        some
          (after.update .error library.knownProgress
            ("Scan error after "
              ++ rules.seconds (now - library.startedAt.getD library.scanRequestedAt))
            true)
      else none
  | .running =>
      if changed || decide (1 ≤ |read.percentage - library.knownProgress * 100|) then
        some
          (after.update .active (read.percentage / 100)
            ("RefreshProgress " ++ rules.oneDecimal read.percentage ++ "%") false)
      else none
  | .waiting =>
      if changed then
        some (after.update .active (read.percentage / 100) "Waiting for RefreshProgress" false)
      else none
  | _ => none

def afterDetection (refreshProgress : ℚ) : PolledLibrary :=
  { library with
    state := .running
    progress := min (max (refreshProgress / 100) 0) 1
    scanStage := if 90 ≤ refreshProgress then "metadata" else "file"
    everSeenProgress := true
    firstProgressSeenAt := some (library.firstProgressSeenAt.getD now)
    lastSeenAt := now
    startedAt := some (library.startedAt.getD now)
    nextPollTime := some (now + activePollInterval)
    metadata := { library.metadata with tripleShotDetected := true } }

def detectionUpdate (refreshProgress : ℚ) : PollUpdate :=
  (library.afterDetection now refreshProgress).update .active
    (min (max (refreshProgress / 100) 0) 1)
    ("RefreshProgress " ++ rules.oneDecimal refreshProgress ++ "%") false

/-- The library has come to an end that no folder tells of. -/
def applyTerminalUpdate (internalState : PolledState) (trackerStatus : ScanStatus) (progress : ℚ)
    (message : String) : PolledLibrary × PollUpdate :=
  let ended :=
    { library with
      metadata :=
        { library.metadata with state := some internalState, scanStage := some library.scanStage }
      state := internalState
      progress := progress
      lastSeenAt := now
      completedAt := some now
      nextPollTime := none
      progressSource := "poller" }
  (ended, ended.update trackerStatus progress message true)

def pollingFailureUpdate (message : String) : Option (PolledLibrary × PollUpdate) :=
  if library.state.terminal then none
  else some (library.applyTerminalUpdate now .error .error library.knownProgress message)

def missingTargetUpdate : Option (PolledLibrary × PollUpdate) :=
  if library.state.terminal then none
  else if !library.everSeenProgress then
    let elapsed := now - library.scanRequestedAt
    if elapsed ≤ progressDetectionTimeout then none
    else
      some
        (library.applyTerminalUpdate now .timeout .completed 1
          ("RefreshProgress never appeared after " ++ rules.seconds elapsed))
  else
    let startedAt :=
      (library.startedAt.or library.firstProgressSeenAt).getD library.scanRequestedAt
    let elapsed := now - startedAt
    if elapsed ≤ maxScanDuration then none
    else
      some
        (library.applyTerminalUpdate now .error .error library.knownProgress
          ("Scan error after " ++ rules.seconds elapsed))

end PolledLibrary

section Facts

namespace PolledLibrary

variable {rules : PollRules} {library : PolledLibrary} {now : Timestamp} {refreshProgress : Json}

theorem reading_given (given : isGiven refreshProgress = true)
    : (library.reading rules now refreshProgress).state
      = if library.overdue now then .error else .running := by
  have shape
      : library.reading rules now refreshProgress
        = if library.overdue now then
            ⟨.error, library.scanStage, library.knownProgress * 100,
              "virtualfolders.RefreshProgress"⟩
          else
            ⟨.running, if (rules.toFloat? refreshProgress).getD 0 ≤ 90 then "file" else "metadata",
              min (max ((rules.toFloat? refreshProgress).getD 0) 0) 100,
              "virtualfolders.RefreshProgress"⟩ := by
    cases refreshProgress with
    | null => cases given
    | _ => rfl
  rw [shape]
  split <;> rfl

theorem reading_missing (missing : isGiven refreshProgress = false)
    : (library.reading rules now refreshProgress).state
      = if library.everSeenProgress then .idle
        else if progressDetectionTimeout < now - library.scanRequestedAt then .timeout
        else .waiting := by
  cases refreshProgress with
  | null =>
      unfold reading
      dsimp only
      split
      · rfl
      · split <;> rfl
  | _ => cases missing

/-- The two libraries are tracked under the same names. -/
structure SameNames (before after : PolledLibrary) : Prop where
  server : after.serverId = before.serverId
  library : after.libraryId = before.libraryId
  job : after.jobId = before.jobId

theorem SameNames.trans {before between after : PolledLibrary} (first : SameNames before between)
    (second : SameNames between after)
    : SameNames before after :=
  ⟨second.server.trans first.server, second.library.trans first.library,
    second.job.trans first.job⟩

theorem calculateNextPollTime_spec (library : PolledLibrary) (now : Timestamp)
    : (library.calculateNextPollTime now).2 = library
      ∨ ∃ cleanup,
          (library.calculateNextPollTime now).2
          = { library with cleanupScheduled := some cleanup } := by
  unfold calculateNextPollTime
  split
  · split
    · exact .inl rfl
    · split <;> exact .inl rfl
  · exact .inl rfl
  · exact .inr ⟨_, rfl⟩

theorem withNextPoll_spec (library : PolledLibrary) (now : Timestamp)
    : (library.withNextPoll now).state = library.state
      ∧ SameNames library (library.withNextPoll now) := by
  unfold withNextPoll
  rcases library.calculateNextPollTime_spec now with same | ⟨cleanup, same⟩
  · dsimp only
    rw [same]
    exact ⟨rfl, rfl, rfl, rfl⟩
  · dsimp only
    rw [same]
    exact ⟨rfl, rfl, rfl, rfl⟩

theorem afterReading_spec (rules : PollRules) (library : PolledLibrary) (now : Timestamp)
    (refreshProgress : Json)
    : (library.afterReading rules now refreshProgress).state
        = (library.reading rules now refreshProgress).state
      ∧ SameNames library (library.afterReading rules now refreshProgress) := by
  unfold afterReading
  dsimp only
  exact ⟨(withNextPoll_spec _ now).1, (withNextPoll_spec _ now).2.server,
    (withNextPoll_spec _ now).2.library, (withNextPoll_spec _ now).2.job⟩

theorem readingUpdate_spec {update : PollUpdate}
    (published : library.readingUpdate rules now refreshProgress = some update)
    : update.jobId = library.jobId
      ∧ (update.status = .active
        ↔ (library.reading rules now refreshProgress).state.terminal = false) := by
  have job := (library.afterReading_spec rules now refreshProgress).2.job
  unfold readingUpdate at published
  dsimp only at published
  split at published
  case h_6 => cases published
  all_goals
    next read =>
      split at published
      · cases published
        exact ⟨job, by simp [read, PolledLibrary.update, PolledState.terminal]⟩
      · cases published

/-- A library has come to an end that is published. -/
structure Ended (before after : PolledLibrary) (update : PollUpdate) : Prop where
  open_ : before.state.terminal = false
  closed : after.state.terminal = true
  names : SameNames before after
  job : update.jobId = before.jobId
  status : update.status ≠ .active

theorem pollingFailureUpdate_spec {message : String} {after : PolledLibrary} {update : PollUpdate}
    (failed : library.pollingFailureUpdate now message = some (after, update))
    : Ended library after update := by
  unfold pollingFailureUpdate at failed
  split at failed
  · cases failed
  · next live =>
      cases failed
      exact ⟨Bool.eq_false_iff.mpr live, rfl, ⟨rfl, rfl, rfl⟩, rfl, ScanStatus.noConfusion⟩

theorem missingTargetUpdate_spec {after : PolledLibrary} {update : PollUpdate}
    (missing : library.missingTargetUpdate rules now = some (after, update))
    : Ended library after update := by
  unfold missingTargetUpdate at missing
  split at missing
  · cases missing
  · next live =>
      have open_ := Bool.eq_false_iff.mpr live
      split at missing
      · dsimp only at missing
        split at missing
        · cases missing
        · cases missing
          exact ⟨open_, rfl, ⟨rfl, rfl, rfl⟩, rfl, ScanStatus.noConfusion⟩
      · dsimp only at missing
        split at missing
        · cases missing
        · cases missing
          exact ⟨open_, rfl, ⟨rfl, rfl, rfl⟩, rfl, ScanStatus.noConfusion⟩

end PolledLibrary

end Facts

section Passes

/-- What a polled answer has made of the library so far. -/
structure PollPass where
  library : PolledLibrary
  states : List PolledState
  updates : List PollUpdate
  seen : Bool
  failed : Bool

def folderId (folder : Document) : String :=
  (folder.field "ItemId").textOr rules.toAlphabet
    ((folder.field "Id").textOr rules.toAlphabet "")

def PollPass.readFolder (pass : PollPass) (now : Timestamp) (refreshProgress : Json)
    : PollPass :=
  let library := pass.library.afterReading rules now refreshProgress
  { library
    states := pass.states ++ [library.state]
    updates := pass.updates ++ (pass.library.readingUpdate rules now refreshProgress).toList
    seen := true
    failed := pass.failed }

/-- Read the folders with the id of the library, until an entry is no folder. -/
def pollFolders (now : Timestamp) : List Json → PollPass → PollPass
  | [], pass => pass
  | entry :: rest, pass =>
      match entry.asDict? with
      | none => { pass with failed := true }
      | some folder =>
          if folderId rules folder ≠ "" ∧ folderId rules folder = pass.library.libraryId then
            pollFolders now rest (pass.readFolder rules now (folder.field "RefreshProgress"))
          else pollFolders now rest pass

/-- A library that no folder names ends when it has been missing for too long. -/
def PollPass.orMissing (pass : PollPass) (now : Timestamp) : PollPass :=
  if pass.failed || pass.seen then pass
  else
    match pass.library.missingTargetUpdate rules now with
    | some (library, update) =>
        { pass with
          library
          states := pass.states ++ [library.state]
          updates := pass.updates ++ [update] }
    | none => { pass with library := pass.library.withNextPoll now }

def pollAnswer (library : PolledLibrary) (answer : List Json) (now : Timestamp) : PollPass :=
  (pollFolders rules now answer ⟨library, [], [], false, false⟩).orMissing rules now

/-- The first folder of the library that has progress, unless an entry before it is no folder. -/
def findProgress (libraryId : String) : List Json → Option Json
  | [] => some .null
  | entry :: rest =>
      match entry.asDict? with
      | none => none
      | some folder =>
          if folderId rules folder = libraryId
              ∧ PolledLibrary.isGiven (folder.field "RefreshProgress") then
            some (folder.field "RefreshProgress")
          else findProgress libraryId rest

end Passes

end OctoHubs.Libraries
