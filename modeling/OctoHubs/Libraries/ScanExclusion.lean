import OctoHubs.Libraries.ScanRuns

/-! No two live jobs of a server share a library, and reports leave the jobs of earlier
generations alone. A job that has ended is final, and completes once, as long as no report
reaches it.
-/

namespace OctoHubs.Libraries

open OctoHubs.Library

section Exclusion

variable (rules : EventRules)

/-- Live jobs of one server have no library in common. -/
def ScanWorld.Exclusive (world : ScanWorld) : Prop :=
  ∀ id other job held,
    world.tracker.jobs.get? id = some job
    → world.tracker.jobs.get? other = some held
    → id ≠ other
    → job.status.live = true
    → held.status.live = true
    → job.serverId = held.serverId
    → ∀ libraryId ∈ job.libraryIds, libraryId ∉ held.libraryIds

/-- A report leaves every job of another generation as it is. -/
def Fenced (world : ScanWorld) (event : ScanEvent) : Prop :=
  ∀ next, scanStep rules world event = some next
    → ∀ id job,
        (world.reports? event).isSome = true
        → world.tracker.jobs.get? id = some job
        → world.tracker.jobGenerations.get? id ≠ some world.tracker.lifecycleGeneration
        → next.tracker.jobs.get? id = some job

variable {rules}

theorem ScanStep.issued_unique {world next : ScanWorld} {event : ScanEvent}
    (step : ScanStep world next event) {id other : String}
    (issued : id ∈ next.issued) (fresh : id ∉ world.issued)
    (otherIssued : other ∈ next.issued) (otherFresh : other ∉ world.issued)
    : id = other := by
  cases step with
  | created _ _ _ _ added =>
      rw [added] at issued otherIssued
      have first := (List.mem_cons.mp issued).resolve_right fresh
      have second := (List.mem_cons.mp otherIssued).resolve_right otherFresh
      exact first.trans second.symm
  | kept _ same => exact absurd (same ▸ issued) fresh
  | reported _ _ _ same => exact absurd (same ▸ issued) fresh
  | forgot _ _ same => exact absurd (same ▸ issued) fresh
  | fenced _ same => exact absurd (same ▸ issued) fresh

theorem live_cases {world next : ScanWorld} {event : ScanEvent} {id : String} {job : ScanJob}
    (step : ScanStep world next event) (found : next.tracker.jobs.get? id = some job)
    (live : job.status.live = true)
    : (∃ old,
        world.tracker.jobs.get? id = some old
        ∧ old.status.live = true
        ∧ job.serverId = old.serverId
        ∧ job.libraryIds = old.libraryIds)
      ∨ (id ∈ next.issued
        ∧ id ∉ world.issued
        ∧ world.tracker.conflictingJobs job.serverId job.libraryIds = []) := by
  cases job_cases step found with
  | stayed before => exact .inl ⟨job, before, live, rfl, rfl⟩
  | created fresh issued free same =>
      subst same
      exact .inr ⟨issued, fresh, free⟩
  | @reported libraryId report now old heard current before same =>
      subst same
      obtain ⟨server, libraries, -⟩ := reported_fields old libraryId report now
      refine .inl ⟨old, before, ?_, server, libraries⟩
      rcases reported_cases old libraryId report now with ⟨_, ended, _⟩ | ⟨_, same, _⟩
      · rw [ScanStatus.not_live_of_ended ended] at live
        cases live
      · exact same ▸ live
  | @fenced now old before same =>
      rw [same] at live
      split at live
      · cases live
      · next resting => exact absurd live resting

theorem not_shared_of_free {tracker : Tracker} {serverId : String} {libraryIds : List String}
    (free : tracker.conflictingJobs serverId libraryIds = []) {id : String} {job : ScanJob}
    (found : tracker.jobs.get? id = some job) (live : job.status.live = true)
    (server : job.serverId = serverId)
    : ∀ libraryId ∈ libraryIds, libraryId ∉ job.libraryIds := by
  intro libraryId wanted tracked
  have conflicts : id ∈ tracker.conflictingJobs serverId libraryIds := by
    refine List.mem_mergeSort.mpr (List.mem_map.mpr ⟨(id, job), ?_, rfl⟩)
    refine List.mem_filter.mpr ⟨Dict.mem_items_iff.mpr found, ?_⟩
    rw [Bool.and_eq_true, Bool.and_eq_true]
    refine ⟨⟨live, decide_eq_true server⟩, ?_⟩
    exact List.any_eq_true.mpr ⟨libraryId, wanted, decide_eq_true tracked⟩
  rw [free] at conflicts
  exact List.not_mem_nil conflicts

theorem ScanWorld.exclusive_initial : ScanWorld.initial.Exclusive := by
  intro id other job held found
  rw [jobs_initial] at found
  cases found

theorem ScanWorld.Exclusive.step {world next : ScanWorld} {event : ScanEvent}
    (exclusive : world.Exclusive) (step : ScanStep world next event)
    : next.Exclusive := by
  intro id other job held found otherFound apart live otherLive server libraryId tracked
  rcases live_cases step found live
    with ⟨old, before, oldLive, sameServer, sameLibraries⟩ | ⟨issued, fresh, free⟩
  · rcases live_cases step otherFound otherLive
      with ⟨oldHeld, heldBefore, heldLive, heldServer, heldLibraries⟩ | ⟨_, _, free⟩
    · rw [heldLibraries]
      refine exclusive id other old oldHeld before heldBefore apart oldLive heldLive ?_
        libraryId (sameLibraries ▸ tracked)
      rw [← sameServer, server, heldServer]
    · intro shared
      refine not_shared_of_free free before oldLive ?_ libraryId shared
        (sameLibraries ▸ tracked)
      rw [← sameServer, server]
  · rcases live_cases step otherFound otherLive
      with ⟨oldHeld, heldBefore, heldLive, heldServer, heldLibraries⟩
        | ⟨otherIssued, otherFresh, _⟩
    · rw [heldLibraries]
      refine not_shared_of_free free heldBefore heldLive ?_ libraryId tracked
      rw [← heldServer, server]
    · exact absurd (step.issued_unique issued fresh otherIssued otherFresh) apart

theorem fenced_step (world : ScanWorld) (event : ScanEvent) : Fenced rules world event := by
  intro next taken id job reports found foreign
  cases scanStep_cases rules taken with
  | kept tracker => rw [tracker]; exact found
  | @reported jobId _ _ _ _ _ current tracker =>
      have reached : id ≠ jobId := by
        rintro rfl
        exact foreign (jobs_of_current? current).2
      rw [tracker, Dict.get?_set, if_neg reached]
      exact found
  | created _ _ _ _ _ _ _ silent => rw [silent] at reports; cases reports
  | forgot _ _ _ _ _ silent => rw [silent] at reports; cases reports
  | fenced _ _ _ _ silent => rw [silent] at reports; cases reports

variable (rules)

/-- Jobs that have ended are left as they are, or forgotten, and complete no further time. -/
def Final (world : ScanWorld) (event : ScanEvent) : Prop :=
  ∀ next, scanStep rules world event = some next
    → ∀ id job,
        world.tracker.jobs.get? id = some job
        → job.status.ended = true
        → (∀ after, next.tracker.jobs.get? id = some after → after = job)
          ∧ next.completionsOf id ≤ world.completionsOf id

variable {rules}

/-- No report reaches a job that has ended. -/
def NoLateReport (world : ScanWorld) (event : ScanEvent) : Prop :=
  ∀ id libraryId report job,
    world.reports? event = some (id, libraryId, report)
    → world.tracker.current? id = some job
    → job.status.ended = false

/-- Generations do not exceed the current one, whose ended jobs have every library ended. -/
structure ScanWorld.Finished (world : ScanWorld) : Prop where
  past
    : ∀ id generation,
        world.tracker.jobGenerations.get? id = some generation
        → generation ≤ world.tracker.lifecycleGeneration
  counted
    : ∀ id job,
        world.tracker.jobs.get? id = some job
        → world.tracker.jobGenerations.get? id = some world.tracker.lifecycleGeneration
        → job.status.ended = true
        → job.totalLibraries ≤ job.endedCount

theorem ScanWorld.finished_initial : ScanWorld.initial.Finished where
  past := nofun
  counted id job found := by
    rw [jobs_initial] at found
    cases found

theorem not_final_of_report {job : ScanJob} (counted : job.totalLibraries ≤ job.endedCount)
    (libraryId : String) (report : LibraryReport) (now : Timestamp)
    : job.reported libraryId report now ≠ job
      ∨ (job.report libraryId report now).2 = true := by
  rcases reported_cases job libraryId report now with ⟨_, _, completed⟩ | ⟨fewer, _⟩
  · exact .inr completed
  · left
    intro same
    rw [same] at fewer
    exact absurd counted (Nat.not_le_of_lt fewer)

theorem final_iff {world : ScanWorld} (sound : world.Sound) (finished : world.Finished)
    (event : ScanEvent)
    : Final rules world event ↔ NoLateReport world event := by
  constructor
  · intro final id libraryId report job heard current
    by_contra ended
    rw [Bool.not_eq_false] at ended
    obtain ⟨present, owned⟩ := jobs_of_current? current
    obtain ⟨next, taken⟩ := scanStep_of_reports rules heard
    cases scanStep_cases rules taken with
    | @reported _ _ _ now _ heard' current' tracker _ _ completions =>
        rw [heard] at heard'
        cases heard'
        rw [current] at current'
        cases current'
        obtain ⟨same, once⟩ := final next taken id job present ended
        have after : next.tracker.jobs.get? id = some (job.reported libraryId report now) := by
          rw [tracker, Dict.get?_set, if_pos rfl]
        rcases not_final_of_report (finished.counted id job present owned ended)
            libraryId report now with changed | completed
        · exact changed (same _ after)
        · rw [completions, if_pos ⟨rfl, completed⟩] at once
          exact absurd once (Nat.not_succ_le_self _)
    | kept _ _ _ _ unheard =>
        rw [unheard _ _ _ heard] at current
        cases current
    | created _ _ _ _ _ _ _ silent => rw [silent] at heard; cases heard
    | forgot _ _ _ _ _ silent => rw [silent] at heard; cases heard
    | fenced _ _ _ _ silent => rw [silent] at heard; cases heard
  · intro noLate next taken id job before ended
    have step := scanStep_cases rules taken
    constructor
    · intro after found
      cases job_cases step found with
      | stayed same => exact Option.some.inj (same.symm.trans before)
      | created fresh => exact absurd (sound.issued id job before) fresh
      | reported heard current same =>
          rw [before] at same
          cases same
          rw [noLate id _ _ job heard current] at ended
          cases ended
      | fenced same after =>
          rw [before] at same
          cases same
          rw [after, if_neg]
          rw [ScanStatus.not_live_of_ended ended]
          exact Bool.false_ne_true
    · cases step with
      | kept _ _ _ completions => exact completions id
      | created _ _ _ _ _ _ completions => exact (completions id).le
      | forgot _ _ _ _ completions => exact (completions id).le
      | fenced _ _ _ completions => exact (completions id).le
      | @reported jobId _ _ _ _ heard current _ _ _ completions =>
          have other : jobId ≠ id := by
            rintro rfl
            have same := before.symm.trans (jobs_of_current? current).1
            cases same
            rw [noLate _ _ _ job heard current] at ended
            cases ended
          rw [completions, if_neg (fun same => other same.1)]
          exact Nat.le_refl _

theorem ScanWorld.Finished.step {world next : ScanWorld} {event : ScanEvent}
    (finished : world.Finished) (step : ScanStep world next event)
    (noLate : NoLateReport world event)
    : next.Finished where
  past id generation found := by
    cases step with
    | kept tracker => exact tracker ▸ finished.past id generation (tracker ▸ found)
    | reported _ _ tracker =>
        rw [tracker] at found ⊢
        exact finished.past id generation found
    | forgot _ tracker =>
        rw [tracker, forget_generations] at found
        rw [tracker]
        split at found
        · cases found
        · exact finished.past id generation found
    | fenced tracker =>
        rw [tracker] at found ⊢
        exact Nat.le_succ_of_le (finished.past id generation found)
    | @created request newId now _ _ _ tracker =>
        obtain ⟨jobIds, -, limited⟩ :=
          enforceJobLimits_forgets (world.tracker.addJob request newId now) request.serverId
        rw [tracker, limited, forget_generations] at found
        rw [tracker, limited]
        split at found
        · cases found
        · rw [Tracker.addJob, Dict.get?_set] at found
          split at found
          · cases found
            exact Nat.le_refl _
          · exact finished.past id generation found
  counted id job found owned ended := by
    cases job_cases step found with
    | stayed before generation lifecycle =>
        rw [generation, lifecycle] at owned
        exact finished.counted id job before owned ended
    | created _ _ _ same =>
        subst same
        cases ended
    | @reported libraryId report now old heard current before same =>
        subst same
        obtain ⟨-, -, total⟩ := reported_fields old libraryId report now
        rw [total]
        rcases reported_cases old libraryId report now with ⟨all, _, _⟩ | ⟨_, _, same, _⟩
        · exact all
        · rw [same, noLate id libraryId report old heard current] at ended
          cases ended
    | fenced _ _ generation lifecycle =>
        rw [generation, lifecycle] at owned
        exact absurd (finished.past id _ owned) (Nat.not_succ_le_self _)

/-- A job completes once, and has ended when it has. -/
structure ScanWorld.CompletesOnce (world : ScanWorld) : Prop where
  once : ∀ id, world.completionsOf id ≤ 1
  issued : ∀ id, 0 < world.completionsOf id → id ∈ world.issued
  ended
    : ∀ id job,
        0 < world.completionsOf id
        → world.tracker.jobs.get? id = some job
        → job.status.ended = true

theorem ScanWorld.completesOnce_initial : ScanWorld.initial.CompletesOnce where
  once _ := Nat.zero_le _
  issued _ some_ := absurd some_ (Nat.lt_irrefl 0)
  ended id job _ found := by
    rw [jobs_initial] at found
    cases found

theorem completions_of_not_ended {world : ScanWorld} (once : world.CompletesOnce) {id : String}
    {job : ScanJob} (found : world.tracker.jobs.get? id = some job)
    (live : job.status.ended = false)
    : world.completionsOf id = 0 := by
  by_contra some_
  rw [once.ended id job (Nat.pos_of_ne_zero some_) found] at live
  cases live

theorem ScanStep.completions {world next : ScanWorld} {event : ScanEvent}
    (step : ScanStep world next event) (sound : world.Sound) (once : world.CompletesOnce)
    (noLate : NoLateReport world event) (id : String)
    : next.completionsOf id ≤ world.completionsOf id
      ∨ (next.completionsOf id = 1
        ∧ id ∈ world.issued
        ∧ ∀ job, next.tracker.jobs.get? id = some job → job.status.ended = true) := by
  cases step with
  | kept _ _ _ completions => exact .inl (completions id)
  | created _ _ _ _ _ _ completions => exact .inl (completions id).le
  | forgot _ _ _ _ completions => exact .inl (completions id).le
  | fenced _ _ _ completions => exact .inl (completions id).le
  | @reported jobId libraryId report now job heard current tracker _ _ completions =>
      rw [completions]
      split
      · next ends =>
          obtain ⟨rfl, completed⟩ := ends
          have present := (jobs_of_current? current).1
          have none_ := completions_of_not_ended once present
            (noLate jobId libraryId report job heard current)
          refine .inr ⟨by rw [none_], sound.issued jobId job present, ?_⟩
          intro after found
          rw [tracker, Dict.get?_set, if_pos rfl] at found
          cases found
          rcases reported_cases job libraryId report now with ⟨_, ended, _⟩ | ⟨_, _, _, goesOn⟩
          · exact ended
          · rw [goesOn] at completed
            cases completed
      · exact .inl (Nat.le_refl _)

theorem ScanWorld.CompletesOnce.step {world next : ScanWorld} {event : ScanEvent}
    (once : world.CompletesOnce) (sound : world.Sound)
    (taken : scanStep rules world event = some next) (finished : world.Finished)
    (noLate : NoLateReport world event)
    : next.CompletesOnce := by
  have step := scanStep_cases rules taken
  have cases_ := step.completions sound once noLate
  constructor
  · intro id
    rcases cases_ id with fewer | ⟨one, _⟩
    · exact fewer.trans (once.once id)
    · exact one.le
  · intro id some_
    rcases cases_ id with fewer | ⟨_, issued, _⟩
    · exact step.issued_mono (once.issued id (Nat.lt_of_lt_of_le some_ fewer))
    · exact step.issued_mono issued
  · intro id job some_ found
    rcases cases_ id with fewer | ⟨_, _, ended⟩
    · have before := Nat.lt_of_lt_of_le some_ fewer
      have issued := once.issued id before
      have final := (final_iff sound finished event).mpr noLate next taken id
      cases job_cases step found with
      | stayed present => exact once.ended id job before present
      | created fresh => exact absurd issued fresh
      | reported heard current present =>
          have ended := once.ended id _ before present
          exact (final _ present ended).1 job found ▸ ended
      | fenced present =>
          have ended := once.ended id _ before present
          exact (final _ present ended).1 job found ▸ ended
    · exact ended job found

/-- In every run the jobs that have ended are final exactly when no report reaches one of them,
and then each completes at most once. In every run whatever live jobs of one server have no
library in common, and reports leave jobs of earlier generations alone.
-/
theorem scans_exclusive_iff (events : List ScanEvent) (finish : ScanWorld)
    : (Run (scanStep rules) (Final rules) .initial events finish
        ↔ Run (scanStep rules) NoLateReport .initial events finish)
      ∧ (Run (scanStep rules) NoLateReport .initial events finish
        → ∀ id, finish.completionsOf id ≤ 1)
      ∧ (Run (scanStep rules) (fun _ _ => True) .initial events finish
        → finish.Exclusive
          ∧ Run (scanStep rules) (Fenced rules) .initial events finish) := by
  refine ⟨?_, ?_, ?_⟩
  · apply Run.iff_of_invariant (fun world => world.Sound ∧ world.Finished)
    · exact fun holds => final_iff holds.1 holds.2 _
    · intro world next event holds final taken
      have step := scanStep_cases rules taken
      exact ⟨holds.1.step step,
        holds.2.step step ((final_iff holds.1 holds.2 event).mp final)⟩
    · exact ⟨ScanWorld.sound_initial, ScanWorld.finished_initial⟩
  · intro run
    have kept := run.preserves
      (fun world => world.Sound ∧ world.Finished ∧ world.CompletesOnce)
      (fun holds noLate taken =>
        ⟨holds.1.step (scanStep_cases rules taken),
          holds.2.1.step (scanStep_cases rules taken) noLate,
          holds.2.2.step holds.1 taken holds.2.1 noLate⟩)
      ⟨ScanWorld.sound_initial, ScanWorld.finished_initial, ScanWorld.completesOnce_initial⟩
    exact kept.2.2.once
  · intro run
    constructor
    · exact run.preserves ScanWorld.Exclusive
        (fun exclusive _ taken => exclusive.step (scanStep_cases rules taken))
        ScanWorld.exclusive_initial
    · exact run.mono (fun {world} {event} _ => fenced_step world event)

end Exclusion

def filmsEnd (status : ScanStatus) : LibraryReport := ⟨status, some 1, none, none, nothing_beside⟩

/-- The films complete, and a report that is late calls them failed. -/
def lateFailure : List ScanEvent :=
  [ .create ⟨"server", ["films"], none, "content"⟩ "job" 1,
    .report "job" "films" (filmsEnd .completed) 2,
    .publish 0,
    .report "job" "films" (filmsEnd .error) 3,
    .publish 0 ]

/-- The job is completed, then failed, and both ends are published. -/
theorem late_report_completes_again
    : ∃ world,
        Run (scanStep plainEvents) (fun _ _ => True) .initial lateFailure world
        ∧ (world.tracker.jobs.get? "job").any (fun job => job.status = .error) = true
        ∧ world.published.map (fun completion => (completion.1, completion.2.status))
          = [("job", .completed), ("job", .error)] :=
  Run.exists_of_execute (by decide +kernel)

end OctoHubs.Libraries
