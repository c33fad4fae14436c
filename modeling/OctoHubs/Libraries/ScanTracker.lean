import Mathlib.Data.Rat.Floor
import OctoHubs.Library.Coercions
import OctoHubs.Time

/-! The jobs of library scans: they are created for the libraries of one server, follow the
reports about each library, and end when every library has ended or when the application closes.
-/

namespace OctoHubs.Libraries

open OctoHubs.Library

/-- The status of a job, of a library in it, or of a report. -/
inductive ScanStatus
  | queued
  | active
  | completed
  | error
  | timeout
deriving DecidableEq, Repr

namespace ScanStatus

/-- The scan is still to come or under way. -/
def live (status : ScanStatus) : Bool := status = .queued || status = .active

/-- The scan has completed or failed. -/
def ended (status : ScanStatus) : Bool := status = .completed || status = .error

theorem not_live_of_ended {status : ScanStatus} (ended : status.ended = true)
    : status.live = false := by
  cases status <;> first | rfl | cases ended

end ScanStatus

/-- What a job knows of a library. The fields of the metadata stand beside the others. -/
structure LibraryState where
  status : Option ScanStatus := none
  progress : Option ℚ := none
  message : Option String := none
  fields : Document := ∅
  metadata : Option Document := none

/-- The library has completed or failed. -/
def LibraryState.ended (state : LibraryState) : Bool := state.status.any ScanStatus.ended

structure ScanJob where
  id : String
  serverId : String
  libraryIds : List String
  groupName : Option String
  scanType : String
  status : ScanStatus
  progress : ℚ
  totalLibraries : Nat
  completedLibraries : Nat
  libraryStatus : Dict String LibraryState
  startedAt : Timestamp
  updatedAt : Timestamp
  createdAt : Timestamp
  completedAt : Option Timestamp
  error : Option String

/-- The jobs, and the generation of the application that owns each of them. -/
structure Tracker where
  jobs : Dict String ScanJob
  jobGenerations : Dict String Nat
  lifecycleGeneration : Nat
  acceptingJobs : Bool
  maxJobsPerServer : Nat

def Tracker.empty : Tracker := ⟨∅, ∅, 0, true, 100⟩

def interruptedMessage : String := "Scansione interrotta dal riavvio applicativo"

/-- A library that has not ended fails with the interruption. -/
def interruptLibrary (libraryStatus : Dict String LibraryState) (libraryId : String)
    : Dict String LibraryState :=
  let state := (libraryStatus.get? libraryId).getD {}
  libraryStatus.set libraryId
    (if state.ended then state
    else { state with status := some .error, message := some interruptedMessage })

def ScanJob.interrupt (job : ScanJob) (now : Timestamp) : ScanJob :=
  { job with
    libraryStatus := job.libraryIds.foldl interruptLibrary job.libraryStatus
    status := .error
    completedLibraries := job.totalLibraries
    completedAt := some now
    updatedAt := now
    error := some interruptedMessage }

/-- Live jobs end, and are counted. -/
def terminalizeActiveScanJobs (jobs : Dict String ScanJob) (now : Timestamp)
    : Dict String ScanJob × Nat :=
  (jobs.map (fun _ job => if job.status.live then job.interrupt now else job),
    jobs.values.countP (·.status.live))

/-- End the generation, with its live jobs. -/
def Tracker.fence (tracker : Tracker) (acceptingJobs : Bool) (now : Timestamp) : Tracker × Nat :=
  let (jobs, interrupted) := terminalizeActiveScanJobs tracker.jobs now
  ({ tracker with
      jobs
      acceptingJobs
      lifecycleGeneration := tracker.lifecycleGeneration + 1 },
    interrupted)

def Tracker.beginShutdown (tracker : Tracker) (now : Timestamp) : Tracker × Nat :=
  tracker.fence false now

def Tracker.reopen (tracker : Tracker) (now : Timestamp) : Tracker × Nat :=
  tracker.fence true now

structure ScanRequest where
  serverId : String
  libraryIds : List String
  groupName : Option String
  scanType : String

def ScanRequest.job (request : ScanRequest) (id : String) (now : Timestamp) : ScanJob where
  id
  serverId := request.serverId
  libraryIds := request.libraryIds
  groupName := request.groupName
  scanType := request.scanType
  status := .queued
  progress := 0
  totalLibraries := request.libraryIds.length
  completedLibraries := 0
  libraryStatus := ∅
  startedAt := now
  updatedAt := now
  createdAt := now
  completedAt := none
  error := none

def Tracker.forget (tracker : Tracker) (jobIds : List String) : Tracker :=
  { tracker with
    jobs := tracker.jobs.eraseWhere (· ∈ jobIds)
    jobGenerations := tracker.jobGenerations.eraseWhere (· ∈ jobIds) }

def ScanStatus.isOver (status : ScanStatus) : Bool := status.ended || status = .timeout

/-- Forget the oldest ended jobs of a server that has too many. -/
def Tracker.enforceJobLimits (tracker : Tracker) (serverId : String) : Tracker :=
  let terminalJobs :=
    tracker.jobs.items.filter (fun item =>
      item.2.serverId = serverId && item.2.status.isOver)
  let serverJobCount := tracker.jobs.values.countP (·.serverId = serverId)
  let oldestFirst := terminalJobs.mergeSort (fun left right => left.2.createdAt ≤ right.2.createdAt)
  tracker.forget
    ((oldestFirst.take (serverJobCount - tracker.maxJobsPerServer)).map Prod.fst)

def shutdownMessage : String := "Tracker scansioni librerie in arresto"

def Tracker.addJob (tracker : Tracker) (request : ScanRequest) (id : String) (now : Timestamp)
    : Tracker :=
  { tracker with
    jobs := tracker.jobs.set id (request.job id now)
    jobGenerations := tracker.jobGenerations.set id tracker.lifecycleGeneration }

def Tracker.createJob (tracker : Tracker) (request : ScanRequest) (id : String)
    (now : Timestamp)
    : Except String Tracker :=
  if tracker.acceptingJobs then
    .ok ((tracker.addJob request id now).enforceJobLimits request.serverId)
  else .error shutdownMessage

def Tracker.conflictingJobs (tracker : Tracker) (serverId : String) (libraryIds : List String)
    : List String :=
  let conflicting :=
    tracker.jobs.items.filter (fun item =>
      item.2.status.live && item.2.serverId = serverId
      && libraryIds.any (· ∈ item.2.libraryIds))
  (conflicting.map Prod.fst).mergeSort (· ≤ ·)

/-- Reserve libraries, or tell which jobs already track them. -/
def Tracker.createJobUnlessActive (tracker : Tracker) (request : ScanRequest) (id : String)
    (now : Timestamp)
    : Except String (Tracker × Option String × List String) :=
  if tracker.acceptingJobs then
    let conflictingJobs := tracker.conflictingJobs request.serverId request.libraryIds
    if conflictingJobs = [] then
      (tracker.createJob request id now).map (fun created => (created, some id, []))
    else .ok (tracker, none, conflictingJobs)
  else .error shutdownMessage

/-- Forget a job that is over; a live one keeps its owner. -/
def Tracker.deleteJob (tracker : Tracker) (jobId : String) : Tracker × String :=
  match tracker.jobs.get? jobId with
  | none => (tracker, "missing")
  | some job =>
      if job.status.isOver then (tracker.forget [jobId], "deleted") else (tracker, "active")

def hour : Timestamp := 3600 * second

def Tracker.cleanupOldJobs (tracker : Tracker) (maxAgeHours : Int) (now : Timestamp) : Tracker :=
  let cutoff := now - maxAgeHours * hour
  let old :=
    tracker.jobs.items.filter (fun item =>
      item.2.status.ended && item.2.completedAt.any (· < cutoff))
  tracker.forget (old.map Prod.fst)

/-- What is reported about a library; the metadata names nothing that the report itself has. -/
structure LibraryReport where
  status : ScanStatus
  progress : Option ℚ
  message : Option String
  metadata : Option Document
  beside
    : ∀ fields, metadata = some fields
      → ∀ key ∈ ["status", "progress", "message"], fields.get? key = none

theorem nothing_beside (fields : Document) (missing : none = some fields)
    : ∀ key ∈ ["status", "progress", "message"], fields.get? key = none :=
  nomatch missing

def LibraryState.report (state : LibraryState) (report : LibraryReport) : LibraryState :=
  let metadata := report.metadata.filter (·.keys ≠ [])
  { status := some report.status
    progress := report.progress.or state.progress
    message := report.message.or state.message
    fields := state.fields.update (metadata.getD ∅)
    metadata := metadata.or state.metadata }

def terminalScanResult (libraryStatus : Dict String LibraryState) : ScanStatus × Option String :=
  let failedCount := libraryStatus.values.countP (·.status = some .error)
  if failedCount = 0 then (.completed, none)
  else
    let noun := if failedCount = 1 then "libreria" else "librerie"
    (.error, some s!"Scansione non riuscita per {failedCount} {noun}")

/-- A job after a report about a library, and whether it has every library ended. -/
def ScanJob.report (job : ScanJob) (libraryId : String) (report : LibraryReport)
    (now : Timestamp)
    : ScanJob × Bool :=
  let state := (job.libraryStatus.get? libraryId).getD {}
  let libraryStatus := job.libraryStatus.set libraryId (state.report report)
  let totalProgress := (libraryStatus.values.map (·.progress.getD 0)).sum
  let completed := libraryStatus.values.countP LibraryState.ended
  let reported : ScanJob :=
    { job with
      libraryStatus
      progress := if job.totalLibraries > 0 then totalProgress / job.totalLibraries else 0
      completedLibraries := completed }
  if job.totalLibraries ≤ completed then
    let (status, error) := terminalScanResult libraryStatus
    ({ reported with status, error, completedAt := some now }, true)
  else if job.status = .queued then ({ reported with status := .active }, false)
  else (reported, false)

/-- What is published of a report after the lock is released. -/
structure Broadcast where
  jobId : String
  generation : Nat
  progress : Option (String × ℚ × Option String × Option Document)
  completion : Option ScanJob

/-- The job that a report may still change. -/
def Tracker.current? (tracker : Tracker) (jobId : String) : Option ScanJob :=
  if tracker.acceptingJobs && tracker.jobGenerations.get? jobId = some tracker.lifecycleGeneration
  then tracker.jobs.get? jobId
  else none

def Tracker.updateLibraryStatus (tracker : Tracker) (jobId libraryId : String)
    (report : LibraryReport) (now : Timestamp)
    : Tracker × Option Broadcast :=
  match tracker.current? jobId with
  | none => (tracker, none)
  | some job =>
      let (reported, jobCompleted) := job.report libraryId report now
      let metadata := (reported.libraryStatus.get? libraryId).bind (·.metadata)
      let progress :=
        if (report.status = .active || report.status.ended) && report.progress.isSome then
          some (libraryId, reported.progress, report.message, metadata)
        else none
      ({ tracker with jobs := tracker.jobs.set jobId { reported with updatedAt := now } },
        some
          { jobId
            generation := tracker.lifecycleGeneration
            progress
            completion := if jobCompleted then some reported else none })

/-- A broadcast is published while its job belongs to the open generation. -/
def Tracker.publishes (tracker : Tracker) (broadcast : Broadcast) : Bool :=
  tracker.acceptingJobs && tracker.lifecycleGeneration = broadcast.generation
  && tracker.jobGenerations.get? broadcast.jobId = some broadcast.generation

/-- How the texts of an event are read. -/
structure EventRules extends Alphabet where
  readFloat? : String → Option ℚ

section Events

variable (rules : EventRules)

def coerceWsLibraryIds (data : Document) : List String :=
  let candidates :=
    ["LibraryId", "ItemId", "LibraryIds", "Items"].flatMap (fun key =>
      let value := Document.field data key
      match value.asList? with
      | some entries => (entries.map (·.asText rules.toAlphabet)).filter (· ≠ "")
      | none => if value.truthy then [value.asText rules.toAlphabet] else [])
  candidates.eraseDups

/-- A number as the language converts it; what is no number is zero. -/
def floatOr (value : Json) : ℚ :=
  match value with
  | .bool value => if value then 1 else 0
  | .int value => value
  | .float value _ => value
  | .text value => (rules.readFloat? value).getD 0
  | _ => 0

def normalizeProgressPercent (value : Json) : ℚ :=
  let progress := floatOr rules value
  let progress := if progress ≤ 1 then progress * 100 else progress
  max 0 (min 100 progress)

/-- The libraries of the jobs of a server that have not ended. -/
def Tracker.activeScanEntries (tracker : Tracker) (serverId : String) : List (String × String) :=
  tracker.jobs.items.flatMap (fun (jobId, job) =>
    if job.serverId ≠ serverId || job.status.ended then []
    else (job.libraryIds.filter (· ≠ "")).map (jobId, ·))

/-- The updates that the progress of a scheduled task leads to, in order: without libraries it
stands for all that are scanned on the server.
-/
def Tracker.scheduledTaskUpdates (tracker : Tracker) (serverId : String) (data : Document)
    : List (String × String × ℚ) :=
  let progressPercent :=
    normalizeProgressPercent rules (Document.field data "CurrentProgressPercentage")
  if progressPercent > 0 then
    let libraryIds := coerceWsLibraryIds rules data
    let activeEntries := tracker.activeScanEntries serverId
    let targets := if libraryIds = [] then activeEntries.map Prod.snd else libraryIds
    (activeEntries.filter (·.2 ∈ targets)).map (fun (jobId, libraryId) =>
      (jobId, libraryId, progressPercent / 100))
  else []

end Events

end OctoHubs.Libraries
