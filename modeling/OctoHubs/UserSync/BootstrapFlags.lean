import OctoHubs.UserSync.GroupRuns

/-! When a set bootstrap flag implies the baselines of all users of the group.
The flag is written right after the domain's first merge and the baselines at the end of the
run, so that a failure in between leaves the one without the other.
-/

namespace OctoHubs.UserSync

open OctoHubs.Library

-- What one run does to the store

namespace GroupRun

section Steps

variable {σ : Type} (run : GroupRun σ)

/-- The steps up to one that sets the domain's flag all succeed. -/
def MarksFlag (done : Finset BootstrapDomain) (domain : BootstrapDomain)
    : List SyncStep → Prop
  | [] => False
  | step :: rest =>
      ∃ marked,
        run.syncStep done step = .ok marked
        ∧ (marked = some domain ∨ MarksFlag done domain rest)

def StepsSucceed (done : Finset BootstrapDomain) (steps : List SyncStep) : Prop :=
  ∀ step ∈ steps, ∃ marked, run.syncStep done step = .ok marked

/-- The steps set flags up to the first failure and write no baseline, by step induction. -/
theorem syncAll_spec (done : Finset BootstrapDomain) (steps : List SyncStep)
    (store : GroupStore σ)
    : let next := run.syncAll done steps store
      next.1.checkpoints = store.checkpoints
      ∧ (∀ domain,
          domain ∈ next.1.bootstrapDone
          ↔ domain ∈ store.bootstrapDone ∨ run.MarksFlag done domain steps)
      ∧ (next.2 = .ok () ↔ run.StepsSucceed done steps) := by
  induction steps generalizing store with
  | nil => simp [syncAll, MarksFlag, StepsSucceed]
  | cons step rest ih =>
      simp only [syncAll, MarksFlag, StepsSucceed, List.forall_mem_cons]
      cases taken : run.syncStep done step with
      | error failure => simp
      | ok marked =>
          obtain ⟨kept, flags, succeeds⟩ := ih (store.mark marked)
          refine ⟨kept, fun domain => ?_, ?_⟩
          · rw [flags]
            simp [GroupStore.mark, or_assoc]
          · rw [succeeds]
            simp [StepsSucceed]

theorem bootstrapDomain_of_marked {done : Finset BootstrapDomain} {step : SyncStep}
    {domain : BootstrapDomain} (taken : run.syncStep done step = .ok (some domain))
    : step.bootstrapDomain = some domain := by
  unfold syncStep at taken
  cases done' : run.runSyncStep done step with
  | error failure =>
      rw [done'] at taken
      cases taken
  | ok result =>
      rw [done'] at taken
      simp only [Except.bind] at taken
      split at taken
      · next own _ found =>
          rw [found]
          split at taken
          · cases written : run.markGroupBootstrapDone own with
            | error failure =>
                rw [written] at taken
                cases taken
            | ok stored =>
                rw [written] at taken
                cases stored <;> cases taken
                rfl
          · cases taken
      · cases taken

theorem MarksFlag.refreshes {run : GroupRun σ} {done : Finset BootstrapDomain}
    {domain : BootstrapDomain} {steps : List SyncStep}
    (marks : run.MarksFlag done domain steps)
    (enabled : ∀ step ∈ steps, run.options.enables step = true)
    : domain.snapshots ∈ run.options.snapshotDomains := by
  induction steps with
  | nil => exact marks.elim
  | cons step rest ih =>
      obtain ⟨marked, taken, rfl | later⟩ := marks
      · have own := run.bootstrapDomain_of_marked taken
        have on := enabled step List.mem_cons_self
        cases step <;> cases own <;>
          simp_all [SyncOptions.enables, SyncOptions.snapshotDomains,
            BootstrapDomain.snapshots]
      · exact ih later (fun other member => enabled other (List.mem_cons_of_mem _ member))

end Steps

section Refresh

variable {σ : Type} (run : GroupRun σ)

/-- Every snapshot of the refreshed domains can be read and the storage takes them. -/
def Refreshes (targets : List Participant) : Prop :=
  run.storageUp = true
  ∧ ∀ domain ∈ run.options.snapshotDomains,
      ∀ target ∈ targets, (run.read (domain, target)).isSome = true

theorem observeDomain_eq_ok_iff {targets : List Participant} {store : Dict StateKey σ}
    {domain : SnapshotDomain} {states result : List (ObservedState StateKey σ)}
    : run.observeDomain targets store states domain = .ok result
      ↔ result
          = states ++ targets.map (fun target => observe store run.read (domain, target))
        ∧ ∀ target ∈ targets, (run.read (domain, target)).isSome = true := by
  have required (found : List (ObservedState StateKey σ)) :=
    @requireCompleteSnapshots_eq_ok_iff _ _
      (targets.map (fun target => observe store run.read (domain, target))) found
      targets.length
  simp only [List.length_map, true_and, List.forall_mem_map] at required
  unfold observeDomain
  constructor
  · intro observed
    cases checked : requireCompleteSnapshots
        (targets.map (fun target => observe store run.read (domain, target)))
        targets.length with
    | error error =>
        rw [checked] at observed
        cases observed
    | ok found =>
        rw [checked] at observed
        obtain ⟨rfl, complete⟩ := (required found).mp checked
        cases observed
        exact ⟨rfl, complete⟩
  · rintro ⟨rfl, complete⟩
    rw [(required _).mpr ⟨rfl, complete⟩]
    rfl

/-- Complete observations of the domains are collected in order, by domain induction. -/
theorem foldlM_observeDomain_eq_ok_iff {targets : List Participant} {store : Dict StateKey σ}
    {domains : List SnapshotDomain} {before result : List (ObservedState StateKey σ)}
    : domains.foldlM (run.observeDomain targets store) before = .ok result
      ↔ result
          = before
            ++ domains.flatMap
              (fun domain =>
                targets.map (fun target => observe store run.read (domain, target)))
        ∧ ∀ domain ∈ domains,
            ∀ target ∈ targets, (run.read (domain, target)).isSome = true := by
  induction domains generalizing before with
  | nil =>
      simp only [List.foldlM_nil, List.flatMap_nil, List.append_nil, pure, Except.pure,
        Except.ok.injEq, List.not_mem_nil, false_implies, implies_true, and_true]
      exact eq_comm
  | cons domain rest ih =>
      simp only [List.foldlM_cons, List.flatMap_cons, List.forall_mem_cons]
      constructor
      · intro collected
        cases observed : run.observeDomain targets store before domain with
        | error error =>
            rw [observed] at collected
            cases collected
        | ok states =>
            rw [observed] at collected
            obtain ⟨rfl, complete⟩ := run.observeDomain_eq_ok_iff.mp observed
            obtain ⟨rfl, later⟩ := ih.mp collected
            exact ⟨List.append_assoc .., complete, later⟩
      · rintro ⟨rfl, complete, later⟩
        rw [run.observeDomain_eq_ok_iff.mpr ⟨rfl, complete⟩]
        exact ih.mpr ⟨(List.append_assoc ..).symm, later⟩

/-- The states that a refresh observes. -/
def ObservedIn (targets : List Participant) (store : Dict StateKey σ)
    (state : ObservedState StateKey σ)
    : Prop :=
  ∃ domain ∈ run.options.snapshotDomains,
    ∃ target ∈ targets, state = observe store run.read (domain, target)

/-- A committed checkpoint of observed states loses no baseline and has one for each target
in each refreshed domain.
-/
theorem committed_keeps {targets : List Participant} {store next : Dict StateKey σ}
    {states : List (ObservedState StateKey σ)} (committed : Committed store states next)
    (observed : ∀ state, state ∈ states ↔ run.ObservedIn targets store state)
    : (∀ key, (store.get? key).isSome = true → (next.get? key).isSome = true)
      ∧ ∀ domain ∈ run.options.snapshotDomains,
          ∀ target ∈ targets, (next.get? (domain, target)).isSome = true := by
  have stored : ∀ state ∈ states, (next.get? state.key).isSome = true := by
    intro state member
    obtain ⟨other, -, -, present, shown⟩ := committed.observed state member
    rw [shown]
    exact present
  constructor
  · intro key had
    by_cases known : ∃ state ∈ states, state.key = key
    · obtain ⟨state, member, rfl⟩ := known
      exact stored state member
    · rw [committed.untouched key (fun state member same => known ⟨state, member, same⟩)]
      exact had
  · intro domain domainMember target targetMember
    exact stored _ ((observed _).mpr ⟨domain, domainMember, target, targetMember, rfl⟩)

variable [DecidableEq σ]

/-- A refresh commits exactly when everything can be read and stored, and what it commits
loses no baseline and has one for each target in each refreshed domain.
-/
theorem refreshSyncStates_cases (targets : List Participant) (store : Dict StateKey σ)
    : (run.Refreshes targets
        ∧ ∃ next,
            run.refreshSyncStates targets store = .ok next
            ∧ (∀ key, (store.get? key).isSome = true → (next.get? key).isSome = true)
            ∧ ∀ domain ∈ run.options.snapshotDomains,
                ∀ target ∈ targets, (next.get? (domain, target)).isSome = true)
      ∨ (¬ run.Refreshes targets
        ∧ ∃ error, run.refreshSyncStates targets store = .error error) := by
  have all (result : List (ObservedState StateKey σ)) :=
    @foldlM_observeDomain_eq_ok_iff σ run targets.eraseDups store
      run.options.snapshotDomains [] result
  simp only [List.mem_eraseDups, List.nil_append] at all
  unfold Refreshes refreshSyncStates
  cases observed
      : run.options.snapshotDomains.foldlM (run.observeDomain targets.eraseDups store) [] with
  | error error =>
      refine .inr ⟨?_, _, rfl⟩
      rintro ⟨-, complete⟩
      rw [(all _).mpr ⟨rfl, complete⟩] at observed
      cases observed
  | ok states =>
      obtain ⟨collected, complete⟩ := (all states).mp observed
      have member (state : ObservedState StateKey σ)
          : state ∈ states ↔ run.ObservedIn targets store state := by
        rw [collected]
        simp only [List.mem_flatMap, List.mem_map, List.mem_eraseDups, ObservedIn, eq_comm]
      cases up : run.storageUp with
      | false => exact .inr ⟨by simp, _, rfl⟩
      | true =>
          obtain ⟨next, committed⟩ : ∃ next, commitMany store states = .ok next := by
            refine commitMany_ok (fun state known => ?_) (fun state known => ?_)
            · obtain ⟨domain, domainMember, target, targetMember, rfl⟩ := (member state).mp known
              exact complete domain domainMember target targetMember
            · obtain ⟨domain, -, target, -, rfl⟩ := (member state).mp known
              rfl
          refine .inl ⟨⟨rfl, complete⟩, next, ?_, run.committed_keeps (.of_ok committed) member⟩
          simp only [committed, if_true]
          rfl

end Refresh

end GroupRun

-- Flags over whole runs

section Flags

variable {σ : Type} (users : List GroupUser)

def HasBaselines (store : GroupStore σ) (domain : BootstrapDomain) : Prop :=
  ∀ user ∈ users, (store.checkpoints.get? (domain.snapshots, user.pair)).isSome = true

/-- A domain whose bootstrap flag is set has the baselines of all users. -/
def FlagsImplyBaselines (store : GroupStore σ) : Prop :=
  ∀ domain ∈ store.bootstrapDone, HasBaselines users store domain

namespace GroupRun

variable (run : GroupRun σ) (store : GroupStore σ)

/-- The run gets to the merge of the domain and sets its flag. -/
def Bootstraps (domain : BootstrapDomain) : Prop :=
  skipReason users run.options = none
  ∧ run.MarksFlag store.bootstrapDone domain (stepsTaken users run.options)

/-- No step fails, and every refreshed snapshot can be read and stored. -/
def Completes : Prop :=
  run.StepsSucceed store.bootstrapDone (stepsTaken users run.options)
  ∧ run.Refreshes (users.map GroupUser.pair)

/-- A run that bootstraps a domain completes, unless the baselines are there already. -/
def CompletesBootstraps : Prop :=
  ∀ domain,
    run.Bootstraps users store domain
    → run.Completes users store ∨ HasBaselines users store domain

end GroupRun

theorem stepsTaken_enabled {options : SyncOptions} {step : SyncStep}
    (member : step ∈ stepsTaken users options)
    : options.enables step = true := by
  simp only [stepsTaken] at member
  split at member
  · cases member
  · exact (List.mem_filter.mp member).2

variable [DecidableEq σ]

theorem syncGroup_cases (run : GroupRun σ) (store : GroupStore σ)
    : let next := (syncGroup users run store).1
      (∀ domain,
        domain ∈ next.bootstrapDone
        ↔ domain ∈ store.bootstrapDone ∨ run.Bootstraps users store domain)
      ∧ (next.checkpoints = store.checkpoints ∧ ¬ (∃ domain, run.Bootstraps users store domain)
        ∨ next.checkpoints = store.checkpoints ∧ ¬ run.Completes users store
        ∨ run.Completes users store
          ∧ (∀ domain, HasBaselines users store domain → HasBaselines users next domain)
          ∧ ∀ domain, run.Bootstraps users store domain → HasBaselines users next domain) := by
  obtain ⟨kept, flags, succeeds⟩ :=
    run.syncAll_spec store.bootstrapDone (stepsTaken users run.options) store
  unfold syncGroup GroupRun.Bootstraps GroupRun.Completes
  cases skipped : skipReason users run.options with
  | some message => simp
  | none =>
      simp only [true_and]
      cases taken : run.syncAll store.bootstrapDone (stepsTaken users run.options) store with
      | mk marked result =>
      rw [taken] at kept flags succeeds
      cases result with
      | error failure =>
          refine ⟨flags, .inr (.inl ⟨kept, ?_⟩)⟩
          rintro ⟨allSucceed, -⟩
          exact absurd (succeeds.mpr allSucceed) (by simp)
      | ok done =>
          rcases run.refreshSyncStates_cases (users.map GroupUser.pair) marked.checkpoints with
            ⟨refreshes, next, refreshed, keeps, covers⟩ | ⟨unrefreshed, error, failed⟩
          · simp only [refreshed]
            refine ⟨flags, .inr (.inr ⟨⟨succeeds.mp rfl, refreshes⟩, ?_, ?_⟩)⟩
            · intro domain had user member
              refine keeps _ ?_
              rw [kept]
              exact had user member
            · intro domain marks user member
              exact covers _ (marks.refreshes (fun step => stepsTaken_enabled users)) _
                (List.mem_map_of_mem member)
          · simp only [failed]
            exact ⟨flags, .inr (.inl ⟨kept, fun completes => unrefreshed completes.2⟩)⟩

/-- One run keeps the flags implying the baselines exactly when it completes what it
bootstraps.
-/
theorem syncGroup_flags_iff (run : GroupRun σ) {store : GroupStore σ}
    (implied : FlagsImplyBaselines users store)
    : FlagsImplyBaselines users (syncGroup users run store).1
      ↔ run.CompletesBootstraps users store := by
  obtain ⟨flags, left⟩ := syncGroup_cases users run store
  have unchanged
      (same : (syncGroup users run store).1.checkpoints = store.checkpoints)
      (domain : BootstrapDomain)
      : HasBaselines users (syncGroup users run store).1 domain
        ↔ HasBaselines users store domain := by
    unfold HasBaselines
    rw [same]
  unfold FlagsImplyBaselines GroupRun.CompletesBootstraps
  simp only [flags]
  rcases left with ⟨same, quiet⟩ | ⟨same, incomplete⟩ | ⟨completes, kept, covered⟩
  · simp only [unchanged same]
    constructor
    · intro _ domain bootstraps
      exact absurd ⟨domain, bootstraps⟩ quiet
    · rintro _ domain (before | bootstraps)
      · exact implied domain before
      · exact absurd ⟨domain, bootstraps⟩ quiet
  · simp only [unchanged same, incomplete, false_or]
    constructor
    · intro after domain bootstraps
      exact after domain (.inr bootstraps)
    · rintro covers domain (before | bootstraps)
      · exact implied domain before
      · exact covers domain bootstraps
  · refine iff_of_true ?_ (fun domain _ => .inl completes)
    rintro domain (before | bootstraps)
    · exact kept domain (implied domain before)
    · exact covered domain bootstraps

theorem storeAfter_concat (checkpoints : Dict StateKey σ) (runs : List (GroupRun σ))
    (last : GroupRun σ)
    : storeAfter users checkpoints (runs ++ [last])
      = (syncGroup users last (storeAfter users checkpoints runs)).1 := by
  unfold storeAfter
  rw [List.foldl_append, List.foldl_cons, List.foldl_nil]

/-- In all states of a sequence of runs set flags imply baselines exactly when every run of
it completes what it bootstraps. By induction on the runs before a state.
-/
theorem flagsImplyBaselines_iff (checkpoints : Dict StateKey σ) (runs : List (GroupRun σ))
    : (∀ earlier,
        earlier <+: runs → FlagsImplyBaselines users (storeAfter users checkpoints earlier))
      ↔ ∀ earlier run,
          earlier ++ [run] <+: runs
          → run.CompletesBootstraps users (storeAfter users checkpoints earlier) := by
  constructor
  · intro implied earlier run first
    have before := implied earlier ((List.prefix_append earlier [run]).trans first)
    have after := implied (earlier ++ [run]) first
    rw [storeAfter_concat] at after
    exact (syncGroup_flags_iff users run before).mp after
  · intro completes earlier first
    induction earlier using List.reverseRecOn with
    | nil =>
        intro domain done
        simp [storeAfter] at done
    | append_singleton earlier run ih =>
        have before := ih ((List.prefix_append earlier [run]).trans first)
        rw [storeAfter_concat]
        exact (syncGroup_flags_iff users run before).mpr (completes earlier run first)

end Flags

/-- A group of two users, the first of them its leader. -/
def pairOfUsers : List GroupUser := [⟨"emby", "anna", true⟩, ⟨"plex", "anna", false⟩]

/-- The first merge of the playback states succeeds, and the favourites of a user cannot be
read after it.
-/
def favoritesFail : GroupRun String where
  options := ⟨.merge, true, false, false, true, false⟩
  work := fun step _ => if step = .favorites then .ok { failed := ["plex: Fetch error"] } else .ok {}
  markGroupBootstrapDone := fun _ => .ok true
  read := fun _ => some "snapshot"
  storageUp := true

theorem flagWithoutBaselines_favoritesFail
    : ¬ FlagsImplyBaselines pairOfUsers (storeAfter pairOfUsers ∅ [favoritesFail]) := by
  intro implied
  have had := implied .playstate (by decide +kernel) ⟨"emby", "anna", true⟩ (by decide)
  exact absurd had (by decide +kernel)

end OctoHubs.UserSync
