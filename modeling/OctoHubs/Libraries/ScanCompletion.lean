import Mathlib.Data.List.Perm.Subperm
import OctoHubs.Libraries.ScanRuns

/-! A library that was reported as ended stays so, and a job ends with its last library, as long
as no progress is reported for a library that has already ended.
-/

namespace OctoHubs.Libraries

open OctoHubs.Library

def ScanJob.hasEnded (job : ScanJob) (libraryId : String) : Bool :=
  (job.libraryStatus.get? libraryId).any LibraryState.ended

theorem ended_report (state : LibraryState) (report : LibraryReport)
    : (state.report report).ended = report.status.ended :=
  rfl

theorem hasEnded_reported (job : ScanJob) (libraryId other : String) (report : LibraryReport)
    (now : Timestamp)
    : (job.reported libraryId report now).hasEnded other
      = if other = libraryId then report.status.ended else job.hasEnded other := by
  have statuses : (job.reported libraryId report now).libraryStatus
      = job.libraryStatus.set libraryId
          (((job.libraryStatus.get? libraryId).getD {}).report report) := by
    unfold ScanJob.reported ScanJob.report
    dsimp only
    split
    · rfl
    · split <;> rfl
  rw [ScanJob.hasEnded, statuses, Dict.get?_set]
  split
  · rw [Option.any_some, ended_report]
  · rfl

theorem ended_interruptLibrary {libraryStatus : Dict String LibraryState} {libraryId : String}
    (interrupted : String) (ended : (libraryStatus.get? libraryId).any LibraryState.ended = true)
    : ((interruptLibrary libraryStatus interrupted).get? libraryId).any LibraryState.ended
      = true := by
  rw [interruptLibrary, Dict.get?_set]
  split
  · rw [Option.any_some]
    split
    · assumption
    · rfl
  · exact ended

theorem hasEnded_interrupt {job : ScanJob} {libraryId : String} (now : Timestamp)
    (ended : job.hasEnded libraryId = true)
    : (job.interrupt now).hasEnded libraryId = true := by
  change ((job.libraryIds.foldl interruptLibrary job.libraryStatus).get? libraryId).any _ = true
  have folded (libraryIds : List String) (libraryStatus : Dict String LibraryState)
      (ended : (libraryStatus.get? libraryId).any LibraryState.ended = true)
      : ((libraryIds.foldl interruptLibrary libraryStatus).get? libraryId).any
          LibraryState.ended = true := by
    induction libraryIds generalizing libraryStatus with
    | nil => exact ended
    | cons first rest ih => exact ih _ (ended_interruptLibrary first ended)
  exact folded _ _ ended

theorem length_le_endedCount {job : ScanJob} {libraryIds : List String}
    (distinct : libraryIds.Nodup)
    (ended : ∀ libraryId ∈ libraryIds, job.hasEnded libraryId = true)
    : libraryIds.length ≤ job.endedCount := by
  have covers
      : libraryIds ⊆ (job.libraryStatus.items.filter (·.2.ended)).map Prod.fst := by
    intro libraryId member
    obtain ⟨state, found, over_⟩ := Option.any_eq_true _ _ |>.mp (ended libraryId member)
    exact List.mem_map.mpr
      ⟨(libraryId, state), List.mem_filter.mpr ⟨Dict.mem_items_iff.mpr found, over_⟩, rfl⟩
  have size := (distinct.subperm covers).length_le
  rw [List.length_map, ← List.countP_eq_length_filter] at size
  rw [ScanJob.endedCount, Dict.values, List.countP_map]
  exact size

section Relapses

variable (rules : EventRules)

/-- No library of a job that has ended is live again after the step. -/
def KeepsEnded (world : ScanWorld) (event : ScanEvent) : Prop :=
  ∀ next, scanStep rules world event = some next
    → ∀ id libraryId job after,
        world.tracker.jobs.get? id = some job
        → next.tracker.jobs.get? id = some after
        → job.hasEnded libraryId = true
        → after.hasEnded libraryId = true

/-- Progress is not reported for a library that has ended in a job that still takes reports. -/
def NoRelapse (world : ScanWorld) (event : ScanEvent) : Prop :=
  ∀ id libraryId report job,
    world.reports? event = some (id, libraryId, report)
    → world.tracker.current? id = some job
    → job.hasEnded libraryId = true
    → report.status.ended = true

/-- The jobs all of whose libraries were reported as ended have ended, and leave room for new
ones.
-/
def ScanWorld.Completes (world : ScanWorld) : Prop :=
  ∀ id job,
    world.tracker.jobs.get? id = some job
    → job.libraryIds.Nodup
    → job.libraryIds ≠ []
    → (∀ libraryId ∈ job.libraryIds, (id, libraryId) ∈ world.reported)
    → job.status.ended = true
      ∧ ∀ serverId libraryIds, id ∉ world.tracker.conflictingJobs serverId libraryIds

variable {rules}

theorem keepsEnded_iff {world : ScanWorld} (sound : world.Sound) (event : ScanEvent)
    : KeepsEnded rules world event ↔ NoRelapse world event := by
  constructor
  · intro keeps id libraryId report job heard current ended
    obtain ⟨next, taken⟩ := scanStep_of_reports rules heard
    cases scanStep_cases rules taken with
    | @reported _ _ _ now _ heard' current' tracker =>
        rw [heard] at heard'
        cases heard'
        rw [current] at current'
        cases current'
        have after : next.tracker.jobs.get? id = some (job.reported libraryId report now) := by
          rw [tracker, Dict.get?_set, if_pos rfl]
        have kept := keeps next taken id libraryId job _ (jobs_of_current? current).1 after ended
        rw [hasEnded_reported, if_pos rfl] at kept
        exact kept
    | kept _ _ _ _ unheard =>
        rw [unheard _ _ _ heard] at current
        cases current
    | created _ _ _ _ _ _ _ silent => rw [silent] at heard; cases heard
    | forgot _ _ _ _ _ silent => rw [silent] at heard; cases heard
    | fenced _ _ _ _ silent => rw [silent] at heard; cases heard
  · intro noRelapse next taken id libraryId job after before found ended
    cases job_cases (scanStep_cases rules taken) found with
    | stayed same =>
        rw [before] at same
        cases same
        exact ended
    | created fresh => exact absurd (sound.issued id job before) fresh
    | @reported heardLibrary report now old heard current same after =>
        rw [before] at same
        cases same
        rw [after, hasEnded_reported]
        split
        · next reported =>
            exact noRelapse id heardLibrary report job heard current (reported ▸ ended)
        · exact ended
    | fenced same after =>
        rw [before] at same
        cases same
        rw [after]
        split
        · exact hasEnded_interrupt _ ended
        · exact ended

/-- The reported libraries have ended in their jobs. -/
def ScanWorld.Recorded (world : ScanWorld) : Prop :=
  ∀ id libraryId job,
    (id, libraryId) ∈ world.reported
    → world.tracker.jobs.get? id = some job
    → job.hasEnded libraryId = true

theorem ScanWorld.recorded_initial : ScanWorld.initial.Recorded :=
  fun _ _ _ member => (List.not_mem_nil member).elim

theorem ScanWorld.Recorded.step {world next : ScanWorld} {event : ScanEvent}
    (recorded : world.Recorded) (sound : world.Sound)
    (taken : scanStep rules world event = some next) (noRelapse : NoRelapse world event)
    : next.Recorded := by
  intro id libraryId after member found
  have keeps := (keepsEnded_iff sound event).mpr noRelapse next taken
  have step := scanStep_cases rules taken
  have before (old : ScanJob) (present : world.tracker.jobs.get? id = some old)
      (listed : (id, libraryId) ∈ world.reported)
      : after.hasEnded libraryId = true :=
    keeps id libraryId old after present found (recorded id libraryId old listed present)
  have known (listed : (id, libraryId) ∈ world.reported) : after.hasEnded libraryId = true := by
    cases job_cases step found with
    | stayed present => exact before _ present listed
    | reported heard current present => exact before _ present listed
    | fenced present => exact before _ present listed
    | created fresh => exact absurd (sound.reported id libraryId listed) fresh
  cases step with
  | @reported jobId heardLibrary report now job heard current tracker issued reported =>
      rw [reported] at member
      split at member
      · next ended =>
          rcases List.mem_cons.mp member with same | listed
          · cases same
            rw [tracker, Dict.get?_set, if_pos rfl] at found
            cases found
            rw [hasEnded_reported, if_pos rfl]
            exact ended
          · exact known listed
      · exact known member
  | kept tracker issued reported => exact known (reported ▸ member)
  | created fresh accepting free tracker issued reported => exact known (reported ▸ member)
  | forgot over_ tracker issued reported => exact known (reported ▸ member)
  | fenced tracker issued reported => exact known (reported ▸ member)

theorem not_mem_conflictingJobs {tracker : Tracker} {id : String} {job : ScanJob}
    (found : tracker.jobs.get? id = some job) (ended : job.status.ended = true)
    (serverId : String) (libraryIds : List String)
    : id ∉ tracker.conflictingJobs serverId libraryIds := by
  intro member
  obtain ⟨⟨other, held⟩, conflicting, rfl⟩ := List.mem_map.mp (List.mem_mergeSort.mp member)
  obtain ⟨present, live⟩ := List.mem_filter.mp conflicting
  have same := Dict.mem_items_iff.mp present
  dsimp only at found live
  rw [found] at same
  cases same
  rw [ScanStatus.not_live_of_ended ended, Bool.false_and, Bool.false_and] at live
  cases live

theorem ScanWorld.Recorded.completes {world : ScanWorld} (recorded : world.Recorded)
    (sound : world.Sound)
    : world.Completes := by
  intro id job found distinct filled all
  have jobSound := sound.jobs id job found
  have counted := length_le_endedCount distinct (fun libraryId member =>
    recorded id libraryId job (all libraryId member) found)
  have ended : job.status.ended = true := by
    rcases jobSound.status with live | ended
    · have fewer := jobSound.unfinished live filled
      rw [jobSound.sized] at fewer
      exact absurd counted (Nat.not_le_of_lt fewer)
    · exact ended
  exact ⟨ended, not_mem_conflictingJobs found ended⟩

/-- In every run the libraries that have ended stay so exactly when no progress is reported for
one of them. Then every job ends with its last library.
-/
theorem scans_complete_iff (events : List ScanEvent) (finish : ScanWorld)
    : (Run (scanStep rules) (KeepsEnded rules) .initial events finish
        ↔ Run (scanStep rules) NoRelapse .initial events finish)
      ∧ (Run (scanStep rules) NoRelapse .initial events finish → finish.Completes) := by
  constructor
  · apply Run.iff_of_invariant ScanWorld.Sound
    · exact fun sound => keepsEnded_iff sound _
    · exact fun sound _ taken => sound.step (scanStep_cases rules taken)
    · exact ScanWorld.sound_initial
  · intro run
    have kept := run.preserves (fun world => world.Sound ∧ world.Recorded)
      (fun holds noRelapse taken =>
        ⟨holds.1.step (scanStep_cases rules taken), holds.2.step holds.1 taken noRelapse⟩)
      ⟨ScanWorld.sound_initial, ScanWorld.recorded_initial⟩
    exact kept.2.completes kept.1

end Relapses

/-- The end of a library's scan. -/
def completedReport : LibraryReport := ⟨.completed, some 1, none, none, nothing_beside⟩

def filmsAndSeries : ScanRequest := ⟨"server", ["films", "series"], none, "content"⟩

/-- The films complete; a task event of the server, which names no library, reports progress; then
the series complete.
-/
def overlappingScans : List ScanEvent :=
  [ .create filmsAndSeries "job" 1,
    .report "job" "films" completedReport 2,
    .scheduledTask "server" ((∅ : Document).set "CurrentProgressPercentage" (.int 50)),
    .deliver 0 3,
    .report "job" "series" completedReport 4 ]

/-- Both libraries were reported as completed, and yet the job is active for ever: a new scan of
the films is refused.
-/
theorem task_event_reopens_library
    : ∃ world,
        Run (scanStep plainEvents) (fun _ _ => True) .initial overlappingScans world
        ∧ ("job", "films") ∈ world.reported
        ∧ ("job", "series") ∈ world.reported
        ∧ (world.tracker.jobs.get? "job").any (fun job =>
            job.status = .active && !job.hasEnded "films") = true
        ∧ world.tracker.conflictingJobs "server" ["films"] = ["job"] :=
  Run.exists_of_execute (by decide +kernel)

end OctoHubs.Libraries
