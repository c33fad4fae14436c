import OctoHubs.Library.Runs
import OctoHubs.Libraries.ScanTracker

/-! The tracker with everything that calls it: requests, reports of the poller and of failed
starts, task events of the media server, broadcasts, deletions and the application's lifecycle.
-/

namespace OctoHubs.Libraries

open OctoHubs.Library

/-- The tracker, the identifiers given to jobs, the updates that handlers of task events have
still to make, the broadcasts that are still to be published, the completions that were, and the
libraries that were reported as ended.
-/
structure ScanWorld where
  tracker : Tracker
  issued : List String
  pending : List (String × String × ℚ)
  broadcasts : List Broadcast
  published : List (String × ScanJob)
  reported : List (String × String)

def ScanWorld.initial : ScanWorld := ⟨.empty, [], [], [], [], []⟩

theorem jobs_initial (id : String) : ScanWorld.initial.tracker.jobs.get? id = none := rfl

inductive ScanEvent
  | create (request : ScanRequest) (id : String) (now : Timestamp)
  | report (jobId libraryId : String) (report : LibraryReport) (now : Timestamp)
  | scheduledTask (serverId : String) (data : Document)
  | deliver (index : Nat) (now : Timestamp)
  | publish (index : Nat)
  | delete (jobId : String)
  | cleanup (maxAgeHours : Int) (now : Timestamp)
  | beginShutdown (now : Timestamp)
  | reopen (now : Timestamp)

def taskReport (progress : ℚ) : LibraryReport :=
  ⟨.active, some progress, none, none, nothing_beside⟩

/-- A report as the tracker takes it. -/
def ScanWorld.update (world : ScanWorld) (jobId libraryId : String) (report : LibraryReport)
    (now : Timestamp)
    : ScanWorld :=
  let (tracker, broadcast) := world.tracker.updateLibraryStatus jobId libraryId report now
  { world with
    tracker
    broadcasts := world.broadcasts ++ broadcast.toList
    reported :=
      if broadcast.isSome && report.status.ended then (jobId, libraryId) :: world.reported
      else world.reported }

section Steps

variable (rules : EventRules)

def scanStep (world : ScanWorld) : ScanEvent → Option ScanWorld
  | .create request id now =>
      if id ∈ world.issued then none
      else
        match world.tracker.createJobUnlessActive request id now with
        | .ok (tracker, some _, _) => some { world with tracker, issued := id :: world.issued }
        | _ => some world
  | .report jobId libraryId report now => some (world.update jobId libraryId report now)
  | .scheduledTask serverId data =>
      let updates := world.tracker.scheduledTaskUpdates rules serverId data
      some { world with pending := world.pending ++ updates }
  | .deliver index now =>
      world.pending[index]?.map (fun (jobId, libraryId, progress) =>
        { world with pending := world.pending.eraseIdx index }.update jobId libraryId
          (taskReport progress) now)
  | .publish index =>
      world.broadcasts[index]?.map (fun broadcast =>
        { world with
          broadcasts := world.broadcasts.eraseIdx index
          published :=
            if world.tracker.publishes broadcast then
              world.published ++ broadcast.completion.toList.map (broadcast.jobId, ·)
            else world.published })
  | .delete jobId => some { world with tracker := (world.tracker.deleteJob jobId).1 }
  | .cleanup maxAgeHours now =>
      some { world with tracker := world.tracker.cleanupOldJobs maxAgeHours now }
  | .beginShutdown now => some { world with tracker := (world.tracker.beginShutdown now).1 }
  | .reopen now => some { world with tracker := (world.tracker.reopen now).1 }

/-- The report that a step makes about a library of a job. -/
def ScanWorld.reports? (world : ScanWorld) : ScanEvent → Option (String × String × LibraryReport)
  | .report jobId libraryId report _ => some (jobId, libraryId, report)
  | .deliver index _ =>
      world.pending[index]?.map (fun (jobId, libraryId, progress) =>
        (jobId, libraryId, taskReport progress))
  | _ => none

-- What a step does

def ScanJob.reported (job : ScanJob) (libraryId : String) (report : LibraryReport)
    (now : Timestamp)
    : ScanJob :=
  { (job.report libraryId report now).1 with updatedAt := now }

/-- The completions of a job that are published or still to be published. -/
def ScanWorld.completionsOf (world : ScanWorld) (jobId : String) : Nat :=
  world.published.countP (·.1 = jobId)
  + world.broadcasts.countP (fun broadcast =>
      broadcast.jobId = jobId && broadcast.completion.isSome)

/-- Jobs are forgotten only when they are over. -/
def Tracker.Forgettable (tracker : Tracker) (jobIds : List String) : Prop :=
  ∀ jobId ∈ jobIds, ∀ job, tracker.jobs.get? jobId = some job → job.status.isOver = true

/-- What a step does to the tracker, the completions and the ended libraries. -/
inductive ScanStep (world next : ScanWorld) (event : ScanEvent) : Prop
  | kept
    (tracker : next.tracker = world.tracker) (issued : next.issued = world.issued)
    (reported : next.reported = world.reported)
    (completions : ∀ jobId, next.completionsOf jobId ≤ world.completionsOf jobId)
    (unheard
      : ∀ jobId libraryId report,
          world.reports? event = some (jobId, libraryId, report)
          → world.tracker.current? jobId = none)
  | created {request : ScanRequest} {id : String} {now : Timestamp}
    (fresh : id ∉ world.issued) (accepting : world.tracker.acceptingJobs = true)
    (free : world.tracker.conflictingJobs request.serverId request.libraryIds = [])
    (tracker
      : next.tracker
        = (world.tracker.addJob request id now).enforceJobLimits request.serverId)
    (issued : next.issued = id :: world.issued) (reported : next.reported = world.reported)
    (completions : ∀ jobId, next.completionsOf jobId = world.completionsOf jobId)
    (silent : world.reports? event = none)
  | reported {jobId libraryId : String} {report : LibraryReport} {now : Timestamp}
    {job : ScanJob}
    (heard : world.reports? event = some (jobId, libraryId, report))
    (current : world.tracker.current? jobId = some job)
    (tracker
      : next.tracker
        = { world.tracker with
            jobs := world.tracker.jobs.set jobId (job.reported libraryId report now) })
    (issued : next.issued = world.issued)
    (reported
      : next.reported
        = if report.status.ended then (jobId, libraryId) :: world.reported
          else world.reported)
    (completions
      : ∀ other,
          next.completionsOf other
          = world.completionsOf other
            + if jobId = other ∧ (job.report libraryId report now).2 = true then 1 else 0)
  | forgot {jobIds : List String} (over_ : world.tracker.Forgettable jobIds)
    (tracker : next.tracker = world.tracker.forget jobIds)
    (issued : next.issued = world.issued) (reported : next.reported = world.reported)
    (completions : ∀ jobId, next.completionsOf jobId = world.completionsOf jobId)
    (silent : world.reports? event = none)
  | fenced {acceptingJobs : Bool} {now : Timestamp}
    (tracker : next.tracker = (world.tracker.fence acceptingJobs now).1)
    (issued : next.issued = world.issued) (reported : next.reported = world.reported)
    (completions : ∀ jobId, next.completionsOf jobId = world.completionsOf jobId)
    (silent : world.reports? event = none)

theorem completionsOf_append (world : ScanWorld) (broadcast : Broadcast) (jobId : String)
    : ({ world with broadcasts := world.broadcasts ++ [broadcast] } : ScanWorld).completionsOf jobId
      = world.completionsOf jobId
        + if broadcast.jobId = jobId ∧ broadcast.completion.isSome = true then 1 else 0 := by
  simp only [ScanWorld.completionsOf, List.countP_append, List.countP_singleton, Nat.add_assoc,
    Bool.and_eq_true, decide_eq_true_eq]

theorem completionsOf_publish {world : ScanWorld} {index : Nat} {broadcast : Broadcast}
    (found : world.broadcasts[index]? = some broadcast) (jobId : String)
    : ({ world with
          broadcasts := world.broadcasts.eraseIdx index
          published :=
            if world.tracker.publishes broadcast then
              world.published ++ broadcast.completion.toList.map (broadcast.jobId, ·)
            else world.published } : ScanWorld).completionsOf jobId
      ≤ world.completionsOf jobId := by
  obtain ⟨bound, rfl⟩ := List.getElem?_eq_some_iff.mp found
  have taken := (List.getElem_cons_eraseIdx_perm bound).countP_eq (fun broadcast =>
    broadcast.jobId = jobId && broadcast.completion.isSome)
  rw [List.countP_cons] at taken
  simp only [ScanWorld.completionsOf]
  split
  · rw [List.countP_append]
    cases completion : world.broadcasts[index].completion with
    | none =>
        simp only [completion, Option.toList_none, List.map_nil, List.countP_nil] at taken ⊢
        omega
    | some job =>
        simp only [completion, Option.toList_some, List.map_cons, List.map_nil,
          List.countP_singleton, Option.isSome_some, Bool.and_true] at taken ⊢
        omega
  · omega

theorem update_step {world : ScanWorld} {event : ScanEvent} {jobId libraryId : String}
    {report : LibraryReport} {now : Timestamp} {pending : List (String × String × ℚ)}
    (heard : world.reports? event = some (jobId, libraryId, report))
    : ScanStep world (({ world with pending } : ScanWorld).update jobId libraryId report now)
        event := by
  cases current : world.tracker.current? jobId with
  | none =>
      have unchanged
          : world.tracker.updateLibraryStatus jobId libraryId report now
            = (world.tracker, none) := by
        rw [Tracker.updateLibraryStatus, current]
      refine .kept ?_ rfl ?_ ?_ ?_
      · rw [ScanWorld.update, unchanged]
      · rw [ScanWorld.update, unchanged]
        rfl
      · intro other
        rw [ScanWorld.update, unchanged]
        simp [ScanWorld.completionsOf]
      · intro other _ _ same
        rw [heard] at same
        cases same
        exact current
  | some job =>
      have changed : world.tracker.updateLibraryStatus jobId libraryId report now
          = ({ world.tracker with
                jobs := world.tracker.jobs.set jobId (job.reported libraryId report now) },
              (world.tracker.updateLibraryStatus jobId libraryId report now).2) := by
        rw [Tracker.updateLibraryStatus, current]
        rfl
      obtain ⟨broadcast, sent, owner, completes⟩
          : ∃ broadcast,
              (world.tracker.updateLibraryStatus jobId libraryId report now).2 = some broadcast
              ∧ broadcast.jobId = jobId
              ∧ broadcast.completion.isSome = (job.report libraryId report now).2 := by
        rw [Tracker.updateLibraryStatus, current]
        refine ⟨_, rfl, rfl, ?_⟩
        dsimp only
        cases (job.report libraryId report now).2 <;> rfl
      rw [sent] at changed
      have next : ({ world with pending } : ScanWorld).update jobId libraryId report now
          = { world with
              pending
              tracker :=
                { world.tracker with
                  jobs := world.tracker.jobs.set jobId (job.reported libraryId report now) }
              broadcasts := world.broadcasts ++ [broadcast]
              reported :=
                if report.status.ended then (jobId, libraryId) :: world.reported
                else world.reported } := by
        simp only [ScanWorld.update, changed, Option.toList_some, Option.isSome_some,
          Bool.true_and]
      rw [next]
      refine .reported heard current rfl rfl rfl ?_
      intro other
      have added := completionsOf_append world broadcast other
      rw [owner, completes] at added
      exact added

theorem keysOf_filter_over {tracker : Tracker} {items : List (String × ScanJob)}
    (listed : ∀ item ∈ items, item ∈ tracker.jobs.items ∧ item.2.status.isOver = true)
    : tracker.Forgettable (items.map Prod.fst) := by
  intro jobId member job found
  obtain ⟨⟨other, stored⟩, present, rfl⟩ := List.mem_map.mp member
  obtain ⟨held, over_⟩ := listed _ present
  have same := Dict.mem_items_iff.mp held
  dsimp only at same found
  rw [found] at same
  cases same
  exact over_

theorem enforceJobLimits_forgets (tracker : Tracker) (serverId : String)
    : ∃ jobIds,
        tracker.Forgettable jobIds
        ∧ tracker.enforceJobLimits serverId = tracker.forget jobIds := by
  refine ⟨_, keysOf_filter_over ?_, rfl⟩
  intro item member
  have kept := List.mem_mergeSort.mp (List.mem_of_mem_take member)
  obtain ⟨held, over_⟩ := List.mem_filter.mp kept
  rw [Bool.and_eq_true] at over_
  exact ⟨held, over_.2⟩

/-- Every step is one of the five kinds, by cases on the event. -/
theorem scanStep_cases {world next : ScanWorld} {event : ScanEvent}
    (taken : scanStep rules world event = some next)
    : ScanStep world next event := by
  cases event with
  | create request id now =>
      simp only [scanStep] at taken
      split at taken
      · cases taken
      · next fresh =>
          unfold Tracker.createJobUnlessActive at taken
          by_cases accepting : world.tracker.acceptingJobs = true
          · by_cases free
                : world.tracker.conflictingJobs request.serverId request.libraryIds = []
            · simp only [accepting, free, if_true, Tracker.createJob, Except.map] at taken
              cases taken
              exact .created fresh accepting free rfl rfl rfl (fun _ => rfl) rfl
            · simp only [accepting, free, if_true] at taken
              cases taken
              exact .kept rfl rfl rfl (fun _ => Nat.le_refl _) nofun
          · simp only [accepting] at taken
            cases taken
            exact .kept rfl rfl rfl (fun _ => Nat.le_refl _) nofun
  | report jobId libraryId report now =>
      cases taken
      exact update_step rfl
  | scheduledTask serverId data =>
      cases taken
      exact .kept rfl rfl rfl (fun _ => Nat.le_refl _) nofun
  | deliver index now =>
      obtain ⟨⟨jobId, libraryId, progress⟩, found, rfl⟩ := Option.map_eq_some_iff.mp taken
      apply update_step
      simp only [ScanWorld.reports?, found, Option.map_some]
  | publish index =>
      obtain ⟨broadcast, found, rfl⟩ := Option.map_eq_some_iff.mp taken
      exact .kept rfl rfl rfl (completionsOf_publish found) nofun
  | delete jobId =>
      cases taken
      unfold Tracker.deleteJob
      split
      · exact .kept rfl rfl rfl (fun _ => Nat.le_refl _) nofun
      · next job found =>
          split
          · next over_ =>
              have forgettable : world.tracker.Forgettable [jobId] := by
                intro other member stored present
                rw [List.mem_singleton.mp member, found] at present
                cases present
                exact over_
              exact .forgot forgettable rfl rfl rfl (fun _ => rfl) rfl
          · exact .kept rfl rfl rfl (fun _ => Nat.le_refl _) nofun
  | cleanup maxAgeHours now =>
      cases taken
      refine .forgot (keysOf_filter_over ?_) rfl rfl rfl (fun _ => rfl) rfl
      intro item member
      obtain ⟨held, old⟩ := List.mem_filter.mp member
      rw [Bool.and_eq_true] at old
      exact ⟨held, by rw [ScanStatus.isOver, old.1, Bool.true_or]⟩
  | beginShutdown now =>
      cases taken
      exact .fenced rfl rfl rfl (fun _ => rfl) rfl
  | reopen now =>
      cases taken
      exact .fenced rfl rfl rfl (fun _ => rfl) rfl

-- Jobs after a step

/-- Where a job of the tracker comes from. -/
inductive JobStep (world next : ScanWorld) (event : ScanEvent) (id : String) (job : ScanJob)
    : Prop
  | stayed
    (before : world.tracker.jobs.get? id = some job)
    (generation : next.tracker.jobGenerations.get? id = world.tracker.jobGenerations.get? id)
    (lifecycle : next.tracker.lifecycleGeneration = world.tracker.lifecycleGeneration)
  | created {request : ScanRequest} {now : Timestamp}
    (fresh : id ∉ world.issued) (issued : id ∈ next.issued)
    (free : world.tracker.conflictingJobs request.serverId request.libraryIds = [])
    (same : job = request.job id now)
  | reported {libraryId : String} {report : LibraryReport} {now : Timestamp} {old : ScanJob}
    (heard : world.reports? event = some (id, libraryId, report))
    (current : world.tracker.current? id = some old)
    (before : world.tracker.jobs.get? id = some old)
    (same : job = old.reported libraryId report now)
  | fenced {now : Timestamp} {old : ScanJob}
    (before : world.tracker.jobs.get? id = some old)
    (same : job = if old.status.live then old.interrupt now else old)
    (generation : next.tracker.jobGenerations.get? id = world.tracker.jobGenerations.get? id)
    (lifecycle : next.tracker.lifecycleGeneration = world.tracker.lifecycleGeneration + 1)

theorem forget_jobs (tracker : Tracker) (jobIds : List String) (id : String)
    : (tracker.forget jobIds).jobs.get? id
      = if id ∈ jobIds then none else tracker.jobs.get? id := by
  rw [Tracker.forget, Dict.get?_eraseWhere]
  simp

theorem forget_generations (tracker : Tracker) (jobIds : List String) (id : String)
    : (tracker.forget jobIds).jobGenerations.get? id
      = if id ∈ jobIds then none else tracker.jobGenerations.get? id := by
  rw [Tracker.forget, Dict.get?_eraseWhere]
  simp

theorem jobs_of_current? {tracker : Tracker} {id : String} {job : ScanJob}
    (current : tracker.current? id = some job)
    : tracker.jobs.get? id = some job
      ∧ tracker.jobGenerations.get? id = some tracker.lifecycleGeneration := by
  unfold Tracker.current? at current
  split at current
  · next owned =>
      rw [Bool.and_eq_true, decide_eq_true_eq] at owned
      exact ⟨current, owned.2⟩
  · cases current

theorem fence_jobs (tracker : Tracker) (acceptingJobs : Bool) (now : Timestamp) (id : String)
    : (tracker.fence acceptingJobs now).1.jobs.get? id
      = (tracker.jobs.get? id).map (fun job =>
          if job.status.live then job.interrupt now else job) := by
  rw [Tracker.fence, terminalizeActiveScanJobs]
  exact Dict.get?_map _ _ _

theorem job_cases {world next : ScanWorld} {event : ScanEvent} {id : String} {job : ScanJob}
    (step : ScanStep world next event) (found : next.tracker.jobs.get? id = some job)
    : JobStep world next event id job := by
  cases step with
  | kept tracker =>
      rw [tracker] at found
      exact .stayed found (by rw [tracker]) (by rw [tracker])
  | @created request newId now fresh accepting free tracker issued =>
      obtain ⟨jobIds, -, limited⟩ :=
        enforceJobLimits_forgets (world.tracker.addJob request newId now) request.serverId
      rw [tracker, limited, forget_jobs] at found
      split at found
      · cases found
      · next kept =>
          rw [Tracker.addJob, Dict.get?_set] at found
          split at found
          · next same =>
              cases found
              subst same
              exact .created fresh (issued ▸ List.mem_cons_self) free rfl
          · next apart =>
              refine .stayed found ?_ ?_
              · rw [tracker, limited, forget_generations, if_neg kept, Tracker.addJob,
                  Dict.get?_set, if_neg apart]
              · rw [tracker, limited]
                rfl
  | @reported jobId libraryId report now old heard current tracker =>
      rw [tracker, Dict.get?_set] at found
      split at found
      · next same =>
          cases found
          subst same
          exact .reported heard current (jobs_of_current? current).1 rfl
      · exact .stayed found (by rw [tracker]) (by rw [tracker])
  | @forgot jobIds _ tracker =>
      rw [tracker, forget_jobs] at found
      split at found
      · cases found
      · next kept =>
          refine .stayed found ?_ ?_
          · rw [tracker, forget_generations, if_neg kept]
          · rw [tracker]
            rfl
  | @fenced acceptingJobs now tracker =>
      rw [tracker, fence_jobs] at found
      obtain ⟨old, before, same⟩ := Option.map_eq_some_iff.mp found
      exact .fenced before same.symm (by rw [tracker]; rfl) (by rw [tracker]; rfl)

-- Sound jobs

/-- The libraries that have completed or failed. -/
def ScanJob.endedCount (job : ScanJob) : Nat :=
  job.libraryStatus.values.countP LibraryState.ended

/-- A job is live or has ended, and a live one has a library that has not. -/
structure ScanJob.Sound (job : ScanJob) : Prop where
  sized : job.totalLibraries = job.libraryIds.length
  status : job.status.live = true ∨ job.status.ended = true
  unfinished
    : job.status.live = true → job.libraryIds ≠ [] → job.endedCount < job.totalLibraries

structure ScanWorld.Sound (world : ScanWorld) : Prop where
  issued : ∀ id job, world.tracker.jobs.get? id = some job → id ∈ world.issued
  jobs : ∀ id job, world.tracker.jobs.get? id = some job → job.Sound
  reported : ∀ id libraryId, (id, libraryId) ∈ world.reported → id ∈ world.issued

theorem ended_terminalScanResult (libraryStatus : Dict String LibraryState)
    : (terminalScanResult libraryStatus).1.ended = true := by
  unfold terminalScanResult
  dsimp only
  split <;> rfl

theorem reported_cases (job : ScanJob) (libraryId : String) (report : LibraryReport)
    (now : Timestamp)
    : (job.totalLibraries ≤ (job.reported libraryId report now).endedCount
        ∧ (job.reported libraryId report now).status.ended = true
        ∧ (job.report libraryId report now).2 = true)
      ∨ ((job.reported libraryId report now).endedCount < job.totalLibraries
        ∧ (job.reported libraryId report now).status.live = job.status.live
        ∧ (job.reported libraryId report now).status.ended = job.status.ended
        ∧ (job.report libraryId report now).2 = false) := by
  unfold ScanJob.reported ScanJob.report ScanJob.endedCount
  dsimp only
  split
  · next finished => exact .inl ⟨finished, ended_terminalScanResult _, rfl⟩
  · next unfinished =>
      right
      split
      · next queued =>
          exact ⟨Nat.lt_of_not_le unfinished, by rw [queued]; rfl, by rw [queued]; rfl, rfl⟩
      · exact ⟨Nat.lt_of_not_le unfinished, rfl, rfl, rfl⟩

theorem reported_fields (job : ScanJob) (libraryId : String) (report : LibraryReport)
    (now : Timestamp)
    : (job.reported libraryId report now).serverId = job.serverId
      ∧ (job.reported libraryId report now).libraryIds = job.libraryIds
      ∧ (job.reported libraryId report now).totalLibraries = job.totalLibraries := by
  unfold ScanJob.reported ScanJob.report
  dsimp only
  split
  · exact ⟨rfl, rfl, rfl⟩
  · split <;> exact ⟨rfl, rfl, rfl⟩

theorem ScanJob.Sound.reported {job : ScanJob} (sound : job.Sound) (libraryId : String)
    (report : LibraryReport) (now : Timestamp)
    : (job.reported libraryId report now).Sound := by
  obtain ⟨server, libraries, total⟩ := reported_fields job libraryId report now
  constructor
  · rw [total, libraries]
    exact sound.sized
  · rcases reported_cases job libraryId report now with ⟨_, ended, _⟩ | ⟨_, live, ended, _⟩
    · exact .inr ended
    · rw [live, ended]
      exact sound.status
  · intro goesOn _
    rcases reported_cases job libraryId report now with ⟨_, ended, _⟩ | ⟨fewer, _⟩
    · rw [ScanStatus.not_live_of_ended ended] at goesOn
      cases goesOn
    · rw [total]
      exact fewer

theorem ScanJob.Sound.interrupted {job : ScanJob} (sound : job.Sound) (now : Timestamp)
    : (if job.status.live then job.interrupt now else job).Sound := by
  split
  · exact ⟨sound.sized, .inr rfl, nofun⟩
  · exact sound

theorem ScanRequest.sound_job (request : ScanRequest) (id : String) (now : Timestamp)
    : (request.job id now).Sound where
  sized := rfl
  status := .inl rfl
  unfinished := fun _ filled => List.length_pos_of_ne_nil filled

theorem JobStep.sound {world next : ScanWorld} {event : ScanEvent} {id : String} {job : ScanJob}
    (from_ : JobStep world next event id job) (sound : world.Sound)
    : job.Sound := by
  cases from_ with
  | stayed before => exact sound.jobs id job before
  | created fresh issued free same => exact same ▸ ScanRequest.sound_job _ _ _
  | reported heard current before same => exact same ▸ (sound.jobs id _ before).reported _ _ _
  | fenced before same => exact same ▸ (sound.jobs id _ before).interrupted _

theorem ScanStep.issued_mono {world next : ScanWorld} {event : ScanEvent}
    (step : ScanStep world next event)
    : world.issued ⊆ next.issued := by
  cases step with
  | created fresh accepting free tracker issued =>
      rw [issued]
      exact List.subset_cons_self _ _
  | kept tracker issued => exact issued ▸ List.Subset.refl _
  | reported heard current tracker issued => exact issued ▸ List.Subset.refl _
  | forgot over_ tracker issued => exact issued ▸ List.Subset.refl _
  | fenced tracker issued => exact issued ▸ List.Subset.refl _

theorem ScanWorld.sound_initial : ScanWorld.initial.Sound where
  issued id job found := by
    rw [jobs_initial] at found
    cases found
  jobs id job found := by
    rw [jobs_initial] at found
    cases found
  reported id libraryId listed := (List.not_mem_nil listed).elim

theorem ScanWorld.Sound.step {world next : ScanWorld} {event : ScanEvent} (sound : world.Sound)
    (step : ScanStep world next event)
    : next.Sound where
  issued id job found := by
    cases job_cases step found with
    | stayed before => exact step.issued_mono (sound.issued id job before)
    | reported heard current before => exact step.issued_mono (sound.issued id _ before)
    | fenced before => exact step.issued_mono (sound.issued id _ before)
    | created fresh issued => exact issued
  jobs id job found := (job_cases step found).sound sound
  reported id libraryId member := by
    cases step with
    | @reported jobId heardLibrary report now job heard current tracker issued reported =>
        rw [issued]
        rw [reported] at member
        split at member
        · rcases List.mem_cons.mp member with same | before
          · cases same
            exact sound.issued _ _ (jobs_of_current? current).1
          · exact sound.reported id libraryId before
        · exact sound.reported id libraryId member
    | kept tracker issued reported =>
        exact issued ▸ sound.reported id libraryId (reported ▸ member)
    | created fresh accepting free tracker issued reported =>
        rw [issued]
        exact List.mem_cons_of_mem _ (sound.reported id libraryId (reported ▸ member))
    | forgot over_ tracker issued reported =>
        exact issued ▸ sound.reported id libraryId (reported ▸ member)
    | fenced tracker issued reported =>
        exact issued ▸ sound.reported id libraryId (reported ▸ member)

theorem scanStep_of_reports {world : ScanWorld} {event : ScanEvent}
    {heard : String × String × LibraryReport} (reports : world.reports? event = some heard)
    : ∃ next, scanStep rules world event = some next := by
  cases event with
  | report jobId libraryId report now => exact ⟨_, rfl⟩
  | deliver index now =>
      obtain ⟨update, found, -⟩ := Option.map_eq_some_iff.mp reports
      exact ⟨_, by rw [scanStep, found, Option.map_some]⟩
  | _ => cases reports

end Steps

def plainEvents : EventRules where
  lower := id
  isAlphanumeric := Char.isAlphanum
  readInt? := String.toInt?
  showNested _ := ""
  readFloat? _ := none

end OctoHubs.Libraries
