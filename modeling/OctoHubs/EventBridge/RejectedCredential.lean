import OctoHubs.EventBridge.RotationLedger

/-! A credential recorded as rejected is refused for good.
One durable marker is enough: the flag of the stored record or the journal entry. Every
operation that could lose the marker drops the pending digest first.
-/

namespace OctoHubs.EventBridge

open OctoHubs.Library

-- Refusing views

namespace View

/-- A durable marker of the rejection of a pending digest. The process that still counts the
digest as active also remembers the rejection.
-/
structure Marked (view : View) (digest : Digest) : Prop where
  durable : view.flagged = true ∨ view.journal = some digest
  active : view.active = some digest → view.memory = some digest

/-- The digest is not the current one, and it is marked while it is pending. -/
structure Refuses (view : View) (digest : Digest) : Prop where
  current : view.current ≠ some digest
  marked : view.pending = some digest → view.Marked digest

variable {view changed : View} {digest : Digest}

theorem Marked.rejectionStatus (marked : view.Marked digest)
    (pending : view.pending = some digest)
    : view.rejectionStatus = (true, true) ∨ view.rejectionStatus = (false, false) := by
  unfold View.rejectionStatus
  simp only [pending]
  split
  · exact .inl rfl
  next unflagged =>
    split
    · exact .inl rfl
    next unremembered =>
      have written := marked.durable.resolve_left (by simp [unflagged])
      split
      · exact .inl (by simp [written])
      split
      · next active => exact absurd (marked.active active) unremembered
      · exact .inr rfl

theorem Refuses.acceptedPending_ne (refuses : view.Refuses digest)
    : view.acceptedPending ≠ some digest := by
  intro accepted
  obtain ⟨status, pending⟩ := acceptedPending_eq_some.mp accepted
  rcases (refuses.marked pending).rejectionStatus pending with known | undecided
  · rw [status] at known
    cases known
  · rw [status] at undecided
    cases undecided

theorem active_of_unreadable (unreadable : view.readable = false)
    (accepted : view.acceptedPending = some digest)
    : view.active = some digest := by
  obtain ⟨status, pending⟩ := acceptedPending_eq_some.mp accepted
  by_contra inactive
  unfold View.rejectionStatus at status
  rw [pending] at status
  simp only [unreadable, inactive] at status
  split at status
  · cases status
  split at status <;> cases status

theorem Refuses.not_accepts (refuses : view.Refuses digest) : ¬ view.Accepts digest := by
  intro accepts
  exact accepts.2.elim refuses.current refuses.acceptedPending_ne

theorem Refuses.of_no_pending (current : changed.current ≠ some digest)
    (pending : changed.pending = none)
    : changed.Refuses digest :=
  ⟨current, fun stored => absurd (pending.symm.trans stored) (by simp)⟩

theorem Refuses.narrow (refuses : view.Refuses digest)
    (other : view.pending ≠ some digest) (narrows : view.Narrows changed)
    : changed.Refuses digest := by
  refine ⟨fun current => refuses.current (narrows.current ▸ current), fun pending => ?_⟩
  rcases narrows.pending with kept | dropped
  · exact absurd (kept.symm.trans pending) other
  · exact absurd (dropped.symm.trans pending) (by simp)

theorem Refuses.finishActive (refuses : view.Refuses digest) (finished : Digest)
    : (view.finishActive finished).Refuses digest := by
  unfold View.finishActive
  split
  · refine ⟨refuses.current, fun pending => ?_⟩
    have marked := refuses.marked pending
    exact ⟨marked.durable, by simp⟩
  · exact refuses

theorem Refuses.commit (refuses : view.Refuses digest) (next : changed.Refuses digest)
    (outcome : WriteOutcome)
    : (view.commit outcome changed).Refuses digest := by
  unfold View.commit
  split
  · exact refuses
  · exact next

theorem Refuses.promote (refuses : view.Refuses digest) (database file : WriteOutcome)
    (alone : Bool) (promoted : Digest)
    : (view.promote database file alone promoted).Refuses digest := by
  rcases view.promote_cases database file alone promoted with narrows | ⟨accepted, made, none⟩
  · by_cases pending : view.pending = some digest
    · have refused : ¬ (view.current = some promoted ∧ view.pending = none) := by
        simp [pending]
      have unaccepted : view.acceptedPending ≠ some promoted := by
        intro accepted
        have same := (acceptedPending_eq_some.mp accepted).2
        rw [pending] at same
        exact refuses.acceptedPending_ne (Option.some.inj same ▸ accepted)
      unfold View.promote
      rw [if_neg refused, if_neg unaccepted]
      split <;> exact refuses
    · exact refuses.narrow pending narrows
  · refine .of_no_pending ?_ none
    intro current
    have same := Option.some.inj (made.symm.trans current)
    exact refuses.acceptedPending_ne (same ▸ accepted)

theorem Refuses.narrow_dropped (refuses : view.Refuses digest)
    (narrows : (view.dropPending view.current).Narrows changed)
    : changed.Refuses digest :=
  .of_no_pending (fun current => refuses.current (narrows.current ▸ current))
    (narrows.pending.elim id id)

theorem Refuses.forgetJournal (refuses : view.Refuses digest) {forgotten : Digest}
    (other : view.pending ≠ some forgotten) (outcome : WriteOutcome)
    : (view.forgetJournal outcome forgotten).Refuses digest := by
  unfold View.forgetJournal
  split
  · next erased =>
      refine ⟨refuses.current, fun pending => ?_⟩
      have marked := refuses.marked pending
      refine ⟨marked.durable.imp_right (fun written => ?_), marked.active⟩
      exact absurd (pending.trans (written.symm.trans erased.2.1)) other
  · exact refuses

theorem Refuses.cancel (refuses : view.Refuses digest) (database file : WriteOutcome)
    (cancelled : Digest)
    : (view.cancel database file cancelled).Refuses digest := by
  have dropped := refuses.narrow_dropped (.refl _)
  unfold View.cancel
  split
  · simp only
    split
    · exact refuses.narrow_dropped (((finishActive_narrows _ cancelled).trans
        (forgetMemory_narrows _ cancelled)).trans (forgetJournal_narrows _ file cancelled))
    · exact refuses.commit dropped database
  · next other =>
      split
      · exact refuses.forgetJournal other file
      · exact refuses

theorem Refuses.reconcileRejected (refuses : view.Refuses digest)
    (database file : WriteOutcome)
    : (view.reconcileRejected database file).Refuses digest := by
  unfold View.reconcileRejected
  split
  · next nothing =>
      have other : view.pending ≠ some digest := by simp [nothing]
      split
      · split
        · exact refuses.narrow other ((view.forgetMemory_narrows _).trans
            (forgetJournal_narrows _ file _))
        · exact refuses
      · exact refuses
  · split
    · simp only
      split
      · exact refuses.narrow_dropped ((forgetMemory_narrows _ _).trans
          (forgetJournal_narrows _ file _))
      · exact refuses.commit (refuses.narrow_dropped (.refl _)) database
    · exact refuses

theorem Refuses.reconcileCurrent (refuses : view.Refuses digest) (now : Time)
    (database : WriteOutcome) (current pending : Digest)
    : (view.reconcileCurrent now database current pending).Refuses digest := by
  unfold View.reconcileCurrent
  split
  · next discards =>
      rw [← discards.2.1]
      exact refuses.commit (refuses.narrow_dropped (.refl _)) database
  · exact refuses

/-- A new rotation replaces a digest that is known as rejected, and is refused while the
journal decides nothing.
-/
theorem Refuses.beginRotation (refuses : view.Refuses digest) (now : Time)
    (database file : WriteOutcome) {requested : Digest} (fresh : requested ≠ digest)
    : (view.beginRotation now database file requested).2.Refuses digest := by
  rcases view.beginRotation_cases now database file requested with ⟨same, -⟩ | ⟨kept, stored⟩
  · rw [same]
    exact refuses
  · refine ⟨fun current => ?_, fun pending => ?_⟩
    · rcases kept with kept | ⟨status, promoted⟩
      · exact refuses.current (kept ▸ current)
      · have pending := promoted.symm.trans current
        exact refuses.acceptedPending_ne (acceptedPending_eq_some.mpr ⟨status, pending⟩)
    · exact absurd (Option.some.inj (stored.symm.trans pending)) fresh

end View

-- Refusing worlds

def AttemptPhase.Answered : AttemptPhase → Prop
  | .idle | .recorded _ | .finishing _ => True
  | .staged _ | .pushing _ | .applied _ | .rejected _ => False

namespace World

/-- The issued credential is refused, and no attempt that could overwrite its marker runs
while its digest is pending.
-/
structure Refuses (serverId : ServerId) (credential : Credential) (world : World)
    : Prop where
  ledger : world.Ledger serverId
  issued : credential ∈ world.issued
  refuses : (world.worker.view serverId).Refuses (credentialDigest serverId credential)
  answered
    : (world.worker.view serverId).pending = some (credentialDigest serverId credential)
      → world.attempt.Answered

variable {serverId : ServerId} {credential : Credential} {world next : World}

theorem settle_refuses (ledger : world.Ledger serverId) {digest : Digest}
    (refuses : (world.worker.view serverId).Refuses digest)
    {running : RunningAuthentication} (member : running ∈ world.authentications)
    (database file : WriteOutcome)
    : let settled :=
        (settleAuthentication world.now database file serverId running.credential
          running.accepted world.worker).view serverId
      settled.Refuses digest
      ∧ (settled.pending = (world.worker.view serverId).pending ∨ settled.pending = none) := by
  rcases ledger.settle_cases member database file with
    ⟨alone, promoted⟩ | ⟨current, pending, reconciled⟩ | same
  · rw [promoted]
    exact ⟨refuses.promote database file alone _, View.promote_pending _ _ _ _ _⟩
  · rw [reconciled]
    exact ⟨refuses.reconcileCurrent world.now database current pending,
      (View.reconcileCurrent_narrows _ _ _ _ _).pending⟩
  · rw [same]
    exact ⟨refuses, .inl rfl⟩

theorem answered_afterBegin {fresh : Credential} {result : Except RotationError Bool}
    (unprepared : result ≠ .ok true)
    : (afterBegin fresh result).Answered := by
  cases result with
  | error error => trivial
  | ok prepared =>
      cases prepared with
      | false => trivial
      | true => exact absurd rfl unprepared

/-- Every admitted event keeps the refusal. Witness: one case per transition. -/
theorem Refuses.step (refused : world.Refuses serverId credential) {event : Event}
    (admitted : PresentsAdopted world event)
    (taken : World.step serverId world event = some next)
    : next.Refuses serverId credential := by
  obtain ⟨ledger, issued, refuses, answered⟩ := refused
  have nextLedger := ledger.step admitted taken
  have serverId_ne := ledger.serverId_ne
  have attempt_ne {other : Credential} (attempted : world.attempt.credential? = some other)
      : other ≠ "" :=
    ledger.issued_ne other (ledger.attempt_issued other attempted)
  cases Transition.of_step taken with
  | @begin fresh database file idle fresh_ne unissued =>
      have other : fresh ≠ credential := fun same => unissued (same ▸ issued)
      have differs : credentialDigest serverId fresh ≠ credentialDigest serverId credential :=
        fun same => other (credentialDigest_inj same)
      have projected := view_beginRotation world.worker serverId world.now database file fresh
        serverId_ne fresh_ne
      have begun := refuses.beginRotation world.now database file differs
      have cases := (world.worker.view serverId).beginRotation_cases world.now database file
        (credentialDigest serverId fresh)
      rw [projected] at begun cases
      refine ⟨nextLedger, List.mem_cons_of_mem fresh issued, begun, fun pending => ?_⟩
      rcases cases with ⟨-, unprepared⟩ | ⟨-, stored⟩
      · exact answered_afterBegin unprepared
      · exact absurd (Option.some.inj (stored.symm.trans pending)) differs
  | push staged =>
      refine ⟨nextLedger, issued, refuses, fun pending => ?_⟩
      exact absurd (answered pending) (by simp [staged, AttemptPhase.Answered])
  | pluginAdopts landing => exact ⟨nextLedger, issued, refuses, answered⟩
  | pushLost => exact ⟨nextLedger, issued, refuses, answered⟩
  | confirmed pushing | rejected pushing | ambiguous pushing =>
      refine ⟨nextLedger, issued, refuses, fun pending => ?_⟩
      exact absurd (answered pending) (by simp [pushing, AttemptPhase.Answered])
  | @promote applied database file reached =>
      refine ⟨nextLedger, issued, ?_, fun _ => trivial⟩
      obtain ⟨alone, promoted⟩ := view_promote world.worker serverId world.now database file
        applied serverId_ne (attempt_ne (by rw [reached]; rfl))
      rw [promoted]
      exact refuses.promote database file alone _
  | @rememberRejection rejected journalWrite database file reached =>
      refine ⟨nextLedger, issued, ?_, fun _ => trivial⟩
      rw [view_rememberRejected _ _ _ _ _ _ serverId_ne
        (attempt_ne (by rw [reached]; rfl))]
      refine refuses.narrow (fun pending => ?_) (View.rememberRejected_narrows _ _ _ _ _)
      exact absurd (answered pending) (by simp [reached, AttemptPhase.Answered])
  | @cancel recorded database file reached =>
      refine ⟨nextLedger, issued, ?_, fun _ => trivial⟩
      rw [view_cancel _ _ _ _ _ _ serverId_ne (attempt_ne (by rw [reached]; rfl))]
      exact refuses.cancel database file _
  | @finishAttempt finished reached =>
      refine ⟨nextLedger, issued, ?_, fun _ => trivial⟩
      rw [view_finishAttempt _ _ _ serverId_ne (attempt_ne (by rw [reached]; rfl))]
      exact refuses.finishActive _
  | refused => exact ⟨nextLedger, issued, refuses, answered⟩
  | accepted found => exact ⟨nextLedger, issued, refuses, answered⟩
  | @settle index database file running found =>
      obtain ⟨settled, kept | dropped⟩ :=
        settle_refuses ledger refuses (List.mem_of_getElem? found) database file
      · exact ⟨nextLedger, issued, settled, fun pending => answered (kept ▸ pending)⟩
      · refine ⟨nextLedger, issued, settled, fun pending => ?_⟩
        exact absurd (dropped.symm.trans pending) (by simp)
  | @reconcileRejected database file =>
      have projected :=
        view_reconcileRejected world.worker serverId world.now database file serverId_ne
      have reconciled := refuses.reconcileRejected database file
      have narrows :=
        View.reconcileRejected_narrows (world.worker.view serverId) database file
      rw [← projected] at reconciled narrows
      refine ⟨nextLedger, issued, reconciled, fun pending => ?_⟩
      rcases narrows.pending with same | dropped
      · exact answered (same.symm.trans pending)
      · exact absurd (dropped.symm.trans pending) (by simp)
  | restart =>
      refine ⟨nextLedger, issued, ⟨refuses.current, fun pending => ?_⟩, fun _ => trivial⟩
      exact ⟨(refuses.marked pending).durable, fun active => by cases active⟩
  | tick => exact ⟨nextLedger, issued, refuses, answered⟩
  | journalAccess =>
      refine ⟨nextLedger, issued, ⟨refuses.current, fun pending => ?_⟩, answered⟩
      exact ⟨(refuses.marked pending).durable, (refuses.marked pending).active⟩
  | otherServers same =>
      have view := view_eq_of_sameServerSlice same
      exact ⟨nextLedger, issued, view ▸ refuses, view ▸ answered⟩
  | otherServerRepairsJournal unreadable alone =>
      have nothing := view_pending_of_alone serverId alone
      refine ⟨nextLedger, issued, .of_no_pending refuses.current nothing, fun pending => ?_⟩
      exact absurd (nothing.symm.trans pending) (by simp)

theorem Refuses.run {start finish : World} {events : List Event}
    (refused : start.Refuses serverId credential)
    (run : RejectionRun serverId start events finish)
    : finish.Refuses serverId credential :=
  run.preserves (Refuses serverId credential)
    (fun refused admitted taken => refused.step admitted taken) refused

theorem Refuses.generation_none (refused : world.Refuses serverId credential) (now : Time)
    (database file : WriteOutcome)
    : (eventBridgeCredentialGeneration now database file serverId credential
          world.worker).1
      = none := by
  rw [generation_eq world.worker serverId now database file credential
    refused.ledger.serverId_ne (refused.ledger.issued_ne credential refused.issued),
    if_neg refused.refuses.not_accepts]

/-- A durable marker of the rejection: the journal entry or the flag of the record. -/
def RejectionMarked (serverId : ServerId) (credential : Credential) (world : World) : Prop :=
  world.worker.journal.rejections.get? serverId = some (credentialDigest serverId credential)
  ∨ ((recordDigests (world.worker.settings.record? serverId)).2
      = some (credentialDigest serverId credential)
    ∧ pendingWasRejected (world.worker.settings.record? serverId) = true)

instance (world : World) : Decidable (RejectionMarked serverId credential world) :=
  inferInstanceAs (Decidable (_ ∨ _))

/-- Recording the rejection of an attempt's credential refuses it, if the recording left a
marker. Witness: the plugin never adopted it, so it was never promoted.
-/
theorem Ledger.rememberRejection (ledger : world.Ledger serverId)
    (rejected : world.attempt = .rejected credential)
    {journalWrite database file : WriteOutcome}
    (taken
      : World.step serverId world (.rememberRejection journalWrite database file) = some next)
    (marked : next.RejectionMarked serverId credential)
    : next.Refuses serverId credential := by
  have admitted : PresentsAdopted world (.rememberRejection journalWrite database file) :=
    trivial
  have nextLedger := ledger.step admitted taken
  cases Transition.of_step taken with
  | @rememberRejection other _ _ _ reached =>
      obtain rfl : credential = other := by
        simpa using rejected.symm.trans reached
      have attempted : world.attempt.credential? = some credential :=
        AttemptPhase.Withholds.credential?_eq (.inr rejected)
      have issued := ledger.attempt_issued credential attempted
      have unadopted := ledger.withheld credential (.inr rejected)
      have projected := view_rememberRejected world.worker serverId journalWrite database file
        credential ledger.serverId_ne (ledger.issued_ne credential issued)
      have narrows := View.rememberRejected_narrows (world.worker.view serverId) journalWrite
        database file (credentialDigest serverId credential)
      have remembered := View.rememberRejected_memory (world.worker.view serverId) journalWrite
        database file (credentialDigest serverId credential)
      rw [← projected] at narrows remembered
      refine ⟨nextLedger, issued, ⟨fun current => ?_, fun pending => ?_⟩, fun _ => trivial⟩
      · exact unadopted
          (ledger.current_adopted credential attempted (narrows.current.symm.trans current))
      · refine ⟨marked.elim .inr (fun flagged => .inl flagged.2), fun _ => ?_⟩
        rcases narrows.pending with kept | dropped
        · exact remembered (kept.symm.trans pending)
        · exact absurd (dropped.symm.trans pending) (by simp)

end World

-- Rejected credentials stay refused

/-- Once a rejection left a durable marker, every later state refuses the credential. While
the journal is unreadable a pending credential is refused, too, unless an attempt of this
process still counts its digest as active.
-/
theorem rejectedCredential_refused {serverId : ServerId} {start : World}
    (initial : start.Initial serverId)
    : (∀ {before after : List Event} {rejecting marked finish : World}
        {credential : Credential} {journalWrite database file : WriteOutcome},
        World.RejectionRun serverId start before rejecting
        → rejecting.attempt = .rejected credential
        → World.step serverId rejecting (.rememberRejection journalWrite database file)
          = some marked
        → marked.RejectionMarked serverId credential
        → World.RejectionRun serverId marked after finish
        → ∀ now database file,
            (eventBridgeCredentialGeneration now database file serverId credential
              finish.worker).1
            = none)
      ∧ ∀ {worker : Worker} {credential : Credential},
          worker.journal.readable = false
          → (recordDigests (worker.settings.record? serverId)).1
            ≠ some (credentialDigest serverId credential)
          → worker.rotation.isActive serverId (credentialDigest serverId credential) = false
          → ∀ now database file,
              (eventBridgeCredentialGeneration now database file serverId credential worker).1
              = none := by
  refine ⟨?_, ?_⟩
  · intro before after rejecting marked finish credential journalWrite database file run
      rejected taken kept later now _ _
    have ledger := run.preserves (World.Ledger serverId)
      (fun ledger admitted taken => ledger.step admitted taken) initial.ledger
    exact ((ledger.rememberRejection rejected taken kept).run later).generation_none now _ _
  · intro worker credential unreadable outdated inactive now database file
    by_cases empty : credential = ""
    · simp [eventBridgeCredentialGeneration, acceptedAuthentication, empty]
    rw [generation_eq worker serverId now database file credential initial.serverId_ne empty,
      if_neg]
    intro accepts
    rcases accepts.2 with current | pending
    · exact outdated current
    · have active
          : (worker.view serverId).active = some (credentialDigest serverId credential) :=
        View.active_of_unreadable unreadable pending
      exact Bool.eq_false_iff.mp inactive ((RotationState.isActive_iff _ _ _).mpr active)

/-- A rejection whose database writes fail, a restart, and a new attempt while the journal
is unreadable.
-/
def failedCancellationEvents : List Event :=
  [.cancel .failed .done, .finishAttempt, .restart, .journalAccess false,
    .begin "second" .done .done, .finishAttempt, .present "first", .journalAccess true]

theorem rejectedCredential_refused_failedCancellation
    : ∃ rejecting marked finish,
        World.RejectionRun "server" (World.uninstalled "server")
            [.begin "first" .done .done, .push,
              .reply (.answered (some ⟨"server", some false, none, none⟩))]
            rejecting
        ∧ World.step "server" rejecting (.rememberRejection .done .failed .done) = some marked
        ∧ World.RejectionRun "server" marked failedCancellationEvents finish
        ∧ (eventBridgeCredentialGeneration 0 .done .done "server" "first" finish.worker).1
          = none := by
  have executed
      : ((execute (World.step "server") World.PresentsAdopted (World.uninstalled "server")
            [.begin "first" .done .done, .push,
              .reply (.answered (some ⟨"server", some false, none, none⟩))]).bind
          (fun rejecting =>
            (World.step "server" rejecting (.rememberRejection .done .failed .done)).bind
              (fun marked =>
                (execute (World.step "server") World.PresentsAdopted marked
                  failedCancellationEvents).map
                  (fun _ =>
                    (rejecting.attempt,
                      decide (World.RejectionMarked "server" "first" marked))))))
        = some (.rejected "first", true) := by
    decide
  obtain ⟨rejecting, reached, continued⟩ := Option.bind_eq_some_iff.mp executed
  obtain ⟨marked, taken, finished⟩ := Option.bind_eq_some_iff.mp continued
  obtain ⟨finish, later, facts⟩ := Option.map_eq_some_iff.mp finished
  have before := Run.of_execute reached
  have after := Run.of_execute later
  obtain ⟨rejected, kept⟩ := Prod.ext_iff.mp facts
  refine ⟨rejecting, marked, finish, before, taken, after, ?_⟩
  exact (rejectedCredential_refused (World.uninstalled_initial (by decide))).1 before rejected
    taken (of_decide_eq_true kept) after 0 .done .done

/-- The pending credential of the running attempt is accepted under an unreadable journal,
and a credential that is presented before the plugin rejected it is accepted afterwards.
-/
theorem pendingCredential_accepted_counterexample
    : (∃ finish,
        Run (World.step "server") (fun _ _ => True) (World.uninstalled "server")
            [.begin "first" .done .done, .journalAccess false]
            finish
        ∧ finish.worker.journal.readable = false
        ∧ (recordDigests (finish.worker.settings.record? "server"))
          = (none, some (credentialDigest "server" "first"))
        ∧ (eventBridgeCredentialGeneration 0 .done .done "server" "first" finish.worker).1
          = some (credentialDigest "server" "first"))
      ∧ ∃ marked,
          Run (World.step "server") (fun _ _ => True) (World.uninstalled "server")
              [.begin "first" .done .done, .push, .present "first", .settle 0 .done .done,
                .reply (.answered (some ⟨"server", some false, none, none⟩)),
                .rememberRejection .done .failed .done]
              marked
          ∧ marked.attempt = .recorded "first"
          ∧ marked.RejectionMarked "server" "first"
          ∧ (eventBridgeCredentialGeneration 0 .done .done "server" "first" marked.worker).1
            = some (credentialDigest "server" "first") := by
  constructor
  · exact Run.exists_of_execute (by decide)
  · exact Run.exists_of_execute (by decide)

end OctoHubs.EventBridge
