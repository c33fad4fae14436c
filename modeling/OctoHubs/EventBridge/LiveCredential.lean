import OctoHubs.EventBridge.RotationSafety

/-! No run of rotations locks the plugin out.
Each event keeps the invariant of the server's slice and of the running authentications,
so the credential the plugin holds authenticates in every state of an admitted run.
-/

namespace OctoHubs.EventBridge

open OctoHubs.Library

-- The invariant of whole worlds

/-- A sound authentication stays sound while adoptions stay recorded and a quiet plugin
stays as it is.
-/
theorem RunningAuthentication.Sound.mono {running : RunningAuthentication}
    {serverId : ServerId} {around later : Surroundings}
    (sound : running.Sound serverId around)
    (adopted : ∀ credential ∈ around.adopted, credential ∈ later.adopted)
    (quiet
      : around.inFlight = none
        → later.plugin = around.plugin ∧ later.inFlight = none)
    : running.Sound serverId later where
  adopted := adopted _ sound.adopted
  presented := sound.presented
  matched := sound.matched
  undisturbed := by
    intro undisturbed
    obtain ⟨held, none⟩ := sound.undisturbed undisturbed
    obtain ⟨samePlugin, stillNone⟩ := quiet none
    exact ⟨samePlugin.trans held, stillNone⟩

namespace World

/-- The invariant of admitted runs, for the server's slice and the running calls. -/
structure Guarded (serverId : ServerId) (world : World) : Prop where
  serverId_ne : serverId ≠ ""
  safe : Safe serverId (world.worker.view serverId) world.surroundings
  authentications
    : ∀ running ∈ world.authentications, running.Sound serverId world.surroundings

variable {serverId : ServerId} {world next : World}

theorem Initial.guarded (initial : world.Initial serverId)
    (readable : world.worker.journal.readable = true)
    : world.Guarded serverId := by
  obtain ⟨serverId_ne, configured, attempt, inFlight, authentications, active, rejected,
    journal, installed⟩ := initial
  refine ⟨serverId_ne, ?_, by simp [authentications]⟩
  rcases installed with ⟨plugin, record, adopted, issued⟩
    | ⟨credential, updatedAt, credential_ne, plugin, record, adopted, issued⟩
  · refine ⟨⟨configured, readable, ?_, ?_, ?_, ?_, ?_⟩, ?_, ?_, ?_, ?_, ?_, ?_, ?_⟩ <;>
      simp_all [Worker.view, surroundings, Surroundings.Live,
        Surroundings.AttemptConsistent]
  · refine ⟨⟨configured, readable, ?_, ?_, ?_, ?_, ?_⟩, ?_, ?_, ?_, ?_, ?_, ?_, ?_⟩ <;>
      simp_all [Worker.view, surroundings, Surroundings.Live,
        Surroundings.AttemptConsistent]

namespace Guarded

theorem withWorker (guarded : world.Guarded serverId) {worker : Worker}
    (safe : Safe serverId (worker.view serverId) world.surroundings)
    : Guarded serverId { world with worker } :=
  ⟨guarded.serverId_ne, safe, guarded.authentications⟩

theorem withAttempt (guarded : world.Guarded serverId) {phase : AttemptPhase}
    (unstaged : ∀ credential, phase ≠ .staged credential)
    (consistent
      : (world.surroundings.advance world.inFlight phase).AttemptConsistent serverId
          (world.worker.view serverId) phase)
    : Guarded serverId { world with attempt := phase } := by
  refine ⟨guarded.serverId_ne, ?_, fun running member => ?_⟩
  · exact guarded.safe.advance (.inl rfl)
      (fun other staged => absurd staged (unstaged other)) consistent
  · exact (guarded.authentications running member).mono (fun _ adopted => adopted)
      (fun quiet => ⟨rfl, quiet⟩)

theorem issued_ne (guarded : world.Guarded serverId) {credential : Credential}
    (issued : credential ∈ world.issued)
    : credential ≠ "" :=
  guarded.safe.issued_ne credential issued

theorem begin (guarded : world.Guarded serverId) {credential : Credential}
    (credential_ne : credential ≠ "") (unissued : credential ∉ world.issued)
    (database file : WriteOutcome)
    : let begun :=
        beginEventBridgeCredentialRotationIfServerExists world.now database file serverId
          credential world.worker
      Guarded serverId {
        world with
        worker := begun.2
        attempt := afterBegin credential begun.1
        issued := credential :: world.issued
      } := by
  have view := view_beginRotation world.worker serverId world.now database file credential
    guarded.serverId_ne credential_ne
  have safe :=
    guarded.safe.beginRotation credential_ne unissued world.now database file
  rw [view] at safe
  refine ⟨guarded.serverId_ne, safe, fun running member => ?_⟩
  exact (guarded.authentications running member).mono (fun _ adopted => adopted)
    (fun quiet => ⟨rfl, quiet⟩)

theorem push (guarded : world.Guarded serverId) {credential : Credential}
    (staged : world.attempt = .staged credential)
    : Guarded serverId {
        world with
        attempt := .pushing credential
        inFlight := some credential
        authentications :=
          world.authentications.map (fun running => { running with undisturbed := false })
      } := by
  refine ⟨guarded.serverId_ne, guarded.safe.push staged, fun running member => ?_⟩
  obtain ⟨before, present, rfl⟩ := List.mem_map.mp member
  have sound := guarded.authentications before present
  exact ⟨sound.adopted, sound.presented, sound.matched, by simp⟩

theorem pluginAdopts (guarded : world.Guarded serverId) {credential : Credential}
    (landing : world.inFlight = some credential)
    : Guarded serverId {
        world with
        plugin := some credential
        inFlight := none
        adopted := credential :: world.adopted
      } := by
  refine ⟨guarded.serverId_ne, guarded.safe.adopt landing, fun running member => ?_⟩
  refine (guarded.authentications running member).mono
    (fun _ adopted => List.mem_cons_of_mem credential adopted) (fun quiet => ?_)
  exact absurd (landing.symm.trans quiet) (by simp)

theorem pushLost (guarded : world.Guarded serverId)
    : Guarded serverId { world with inFlight := none } := by
  refine ⟨guarded.serverId_ne, guarded.safe.loseInFlight, fun running member => ?_⟩
  exact (guarded.authentications running member).mono (fun _ adopted => adopted)
    (fun _ => ⟨rfl, rfl⟩)

theorem rejected (guarded : world.Guarded serverId) {credential : Credential}
    (landing : world.inFlight = some credential)
    : Guarded serverId {
        world with attempt := .rejected credential, inFlight := none
      } := by
  obtain ⟨issued, unadopted, -⟩ := guarded.safe.inFlight_fresh credential landing
  refine ⟨guarded.serverId_ne, ?_, fun running member => ?_⟩
  · refine guarded.safe.advance (.inr rfl) (by simp) ?_
    exact ⟨issued, unadopted, by simp [Surroundings.advance],
      by simp [Surroundings.advance]⟩
  · exact (guarded.authentications running member).mono (fun _ adopted => adopted)
      (fun _ => ⟨rfl, rfl⟩)

theorem withBoth (guarded : world.Guarded serverId) {worker : Worker}
    {phase : AttemptPhase}
    (safe : Safe serverId (worker.view serverId) world.surroundings)
    (unstaged : ∀ credential, phase ≠ .staged credential)
    (consistent
      : (world.surroundings.advance world.inFlight phase).AttemptConsistent serverId
          (worker.view serverId) phase)
    : Guarded serverId { world with worker, attempt := phase } :=
  (guarded.withWorker safe).withAttempt unstaged consistent

theorem dead_advance {credential : Credential} (dead : world.surroundings.Dead credential)
    {phase : AttemptPhase} (unstaged : ∀ other, phase ≠ .staged other)
    : (world.surroundings.advance world.inFlight phase).Dead credential :=
  dead.advance (.inl rfl) (fun other staged => absurd staged (unstaged other))

/-- The writes of a running authentication: a promotion of a credential the plugin held,
or a reconciliation on the evidence of the current one.
-/
theorem settle (guarded : world.Guarded serverId) {running : RunningAuthentication}
    (sound : running.Sound serverId world.surroundings)
    (evidence
      : running.accepted.pending ≠ some running.accepted.presented
        → world.graceElapsed serverId = true
        → running.undisturbed = true)
    (database file : WriteOutcome)
    : Safe serverId
        ((settleAuthentication world.now database file serverId running.credential
          running.accepted world.worker).view serverId)
        world.surroundings := by
  have issued := guarded.safe.adopted_issued _ sound.adopted
  unfold settleAuthentication
  split
  · obtain ⟨alone, promoted⟩ := view_promote world.worker serverId world.now database file
      running.credential guarded.serverId_ne (guarded.issued_ne issued)
    rw [promoted]
    exact guarded.safe.promote database file alone sound.adopted
  · next differs =>
      split
      · next current pending currentRead pendingRead =>
          rw [view_reconcileCurrent]
          have matched := sound.matched.resolve_left differs
          rw [currentRead, sound.presented] at matched
          rw [Option.some.inj matched]
          refine guarded.safe.reconcileCurrent world.now database pending ?_
          intro elapsed _
          exact sound.undisturbed (evidence differs elapsed)
      · exact guarded.safe

theorem consistent (guarded : world.Guarded serverId) {phase : AttemptPhase}
    (reached : world.attempt = phase)
    : world.surroundings.AttemptConsistent serverId (world.worker.view serverId) phase := by
  have consistent := guarded.safe.attempt
  rwa [show world.surroundings.attempt = phase from reached] at consistent

theorem promote (guarded : world.Guarded serverId) {credential : Credential}
    (applied : world.attempt = .applied credential) (database file : WriteOutcome)
    : Guarded serverId {
        world with
        worker :=
          (promoteEventBridgeCredentialIfPending world.now database file serverId credential
            world.worker).2
        attempt := .finishing credential
      } := by
  have adopted : credential ∈ world.surroundings.adopted := guarded.consistent applied
  have credential_ne := guarded.issued_ne (guarded.safe.adopted_issued credential adopted)
  obtain ⟨alone, promoted⟩ := view_promote world.worker serverId world.now database file
    credential guarded.serverId_ne credential_ne
  refine guarded.withBoth ?_ (by simp) trivial
  rw [promoted]
  exact guarded.safe.promote database file alone adopted

theorem rememberRejection (guarded : world.Guarded serverId) {credential : Credential}
    (rejected : world.attempt = .rejected credential)
    (journalWrite database file : WriteOutcome)
    : Guarded serverId {
        world with
        worker :=
          (rememberRejectedEventBridgeCredentialRotation journalWrite database file serverId
            credential world.worker).2
        attempt := .recorded credential
      } := by
  have dead : world.surroundings.Dead credential := guarded.consistent rejected
  refine guarded.withBoth ?_ (by simp) (dead_advance dead (by simp))
  rw [view_rememberRejected _ _ _ _ _ _ guarded.serverId_ne (guarded.issued_ne dead.issued)]
  exact guarded.safe.rememberRejected journalWrite database file ⟨credential, rfl, dead⟩

theorem cancel (guarded : world.Guarded serverId) {credential : Credential}
    (recorded : world.attempt = .recorded credential) (database file : WriteOutcome)
    : Guarded serverId {
        world with
        worker :=
          (cancelEventBridgeCredentialRotation world.now database file serverId credential
            world.worker).2
        attempt := .finishing credential
      } := by
  have dead : world.surroundings.Dead credential := guarded.consistent recorded
  refine guarded.withBoth ?_ (by simp) trivial
  rw [view_cancel _ _ _ _ _ _ guarded.serverId_ne (guarded.issued_ne dead.issued)]
  exact guarded.safe.cancel database file ⟨credential, rfl, dead⟩

theorem finishAttempt (guarded : world.Guarded serverId) {credential : Credential}
    (finishing : world.attempt = .finishing credential)
    : Guarded serverId {
        world with
        worker := finishEventBridgeCredentialRotationAttempt serverId credential world.worker
        attempt := .idle
      } := by
  refine guarded.withBoth ?_ (by simp) trivial
  unfold finishEventBridgeCredentialRotationAttempt
  split
  · exact guarded.safe
  · rw [view_finishActive]
    refine guarded.safe.finishActive (fun other staged => ?_)
    exact absurd (finishing.symm.trans staged) (by simp)

theorem present (guarded : world.Guarded serverId) {credential : Credential}
    (held : world.plugin = some credential) {accepted : AcceptedAuthentication}
    (found : acceptedAuthentication world.worker serverId credential = some accepted)
    : RunningAuthentication.Sound ⟨credential, accepted, world.inFlight.isNone⟩ serverId
        world.surroundings := by
  have adopted := guarded.safe.plugin_adopted credential held
  have credential_ne := guarded.issued_ne (guarded.safe.adopted_issued credential adopted)
  rw [acceptedAuthentication_eq world.worker serverId credential guarded.serverId_ne
    credential_ne] at found
  split at found
  · next accepts =>
      cases found
      exact ⟨adopted, rfl, accepts.2.symm,
        fun quiet => ⟨held, Option.isNone_iff_eq_none.mp quiet⟩⟩
  · cases found

theorem restart (guarded : world.Guarded serverId)
    : Guarded serverId {
        world with
        worker := { world.worker with rotation := .initial }
        attempt := .idle
        authentications := []
      } :=
  ⟨guarded.serverId_ne, guarded.safe.restart, by simp⟩

/-- Every admitted event keeps the invariant. Witness: one case per transition. -/
theorem step (guarded : world.Guarded serverId) {event : Event}
    (admitted : Admits serverId world event) (taken : step serverId world event = some next)
    : next.Guarded serverId := by
  cases Transition.of_step taken with
  | begin idle credential_ne unissued => exact guarded.begin credential_ne unissued _ _
  | push staged => exact guarded.push staged
  | pluginAdopts landing => exact guarded.pluginAdopts landing
  | pushLost => exact guarded.pushLost
  | confirmed pushing adopted => exact guarded.withAttempt (by simp) adopted
  | rejected pushing landing => exact guarded.rejected landing
  | ambiguous pushing => exact guarded.withAttempt (by simp) trivial
  | promote applied => exact guarded.promote applied _ _
  | rememberRejection rejected => exact guarded.rememberRejection rejected _ _ _
  | cancel recorded => exact guarded.cancel recorded _ _
  | finishAttempt finishing => exact guarded.finishAttempt finishing
  | refused => exact guarded
  | accepted found =>
      refine ⟨guarded.serverId_ne, guarded.safe, fun running member => ?_⟩
      rcases List.mem_append.mp member with before | new
      · exact guarded.authentications running before
      · rw [List.mem_singleton.mp new]
        exact guarded.present admitted found
  | settle found =>
      refine ⟨guarded.serverId_ne, ?_, ?_⟩
      · exact guarded.settle (guarded.authentications _ (List.mem_of_getElem? found))
          (admitted _ found) _ _
      · intro other present
        exact guarded.authentications other (List.mem_of_mem_eraseIdx present)
  | reconcileRejected =>
      refine guarded.withWorker ?_
      rw [view_reconcileRejected _ _ _ _ _ guarded.serverId_ne]
      exact guarded.safe.reconcileRejected _ _
  | restart => exact guarded.restart
  | tick => exact ⟨guarded.serverId_ne, guarded.safe, guarded.authentications⟩
  | journalAccess => exact guarded.withWorker { guarded.safe with readable := admitted }
  | otherServers same =>
      refine guarded.withWorker ?_
      rw [view_eq_of_sameServerSlice same]
      exact guarded.safe
  | otherServerRepairsJournal unreadable alone =>
      have readable : world.worker.journal.readable = true := guarded.safe.readable
      rw [unreadable] at readable
      cases readable

theorem run {start finish : World} {events : List Event} (guarded : start.Guarded serverId)
    (run : RotationRun serverId start events finish)
    : finish.Guarded serverId :=
  run.preserves (Guarded serverId)
    (fun guarded admitted taken => guarded.step admitted taken) guarded

theorem accepted (guarded : world.Guarded serverId) {credential : Credential}
    (held : world.plugin = some credential) (now : Time) (database file : WriteOutcome)
    : (eventBridgeCredentialGeneration now database file serverId credential
          world.worker).1
      = some (credentialDigest serverId credential) := by
  have adopted := guarded.safe.plugin_adopted credential held
  have credential_ne := guarded.issued_ne (guarded.safe.adopted_issued credential adopted)
  rw [generation_eq world.worker serverId now database file credential guarded.serverId_ne
    credential_ne, if_pos (guarded.safe.accepts held)]

end Guarded

end World

-- No lockout

/-- A second push whose reply is lost while the plugin adopts it, then a restart and a
promotion whose commit fails: the plugin's new credential is accepted.
-/
def ambiguousPushEvents : List Event :=
  [
    .begin "first" .done .done,
    .push,
    .pluginAdopts,
    .reply (.answered (some ⟨"server", some true, some true, some ⟨some true, some true⟩⟩)),
    .promote .done .done,
    .finishAttempt,
    .begin "second" .done .done,
    .push,
    .reply .transportFailed,
    .finishAttempt,
    .pluginAdopts,
    .restart,
    .present "second",
    .settle 0 .failed .done
  ]

end OctoHubs.EventBridge
