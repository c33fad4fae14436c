import OctoHubs.EventBridge.Provisioning
import OctoHubs.EventBridge.RotationView

/-! Which credential a stored digest can belong to, in every run.
The journal may be unreadable and any credential may be presented, except that nobody but
the plugin presents the credential of the running attempt.
-/

namespace OctoHubs.EventBridge

open OctoHubs.Library

/-- The credential of the phase is not on its way to the plugin, nor known to be there. -/
def AttemptPhase.Withholds (phase : AttemptPhase) (credential : Credential) : Prop :=
  phase = .staged credential ∨ phase = .rejected credential

theorem AttemptPhase.Withholds.credential?_eq {phase : AttemptPhase}
    {credential : Credential} (withheld : phase.Withholds credential)
    : phase.credential? = some credential := by
  rcases withheld with rfl | rfl <;> rfl

namespace World

/-- Only the plugin and the worker know the credential of the running attempt, so it is
presented only after the plugin adopted it.
-/
def PresentsAdopted (world : World) : Event → Prop
  | .present credential =>
      world.attempt.credential? = some credential → credential ∈ world.adopted
  | _ => True

instance (world : World) (event : Event) : Decidable (PresentsAdopted world event) :=
  match event with
  | .present credential =>
      inferInstanceAs
        (Decidable
          (world.attempt.credential? = some credential → credential ∈ world.adopted))
  | .begin .. | .push | .pluginAdopts | .pushLost | .reply _ | .promote ..
  | .rememberRejection .. | .cancel .. | .finishAttempt | .settle .. | .reconcileRejected ..
  | .restart | .tick _ | .journalAccess _ | .otherServers _ | .otherServerRepairsJournal _ =>
      isTrue trivial

abbrev RejectionRun (serverId : ServerId) : World → List Event → World → Prop :=
  Run (step serverId) PresentsAdopted

/-- What the surroundings and the stored digests say about the issued credentials. -/
structure Ledger (serverId : ServerId) (world : World) : Prop where
  serverId_ne : serverId ≠ ""
  issued_ne : ∀ credential ∈ world.issued, credential ≠ ""
  adopted_issued : ∀ credential ∈ world.adopted, credential ∈ world.issued
  inFlight_fresh
    : ∀ credential,
        world.inFlight = some credential
        → credential ∈ world.issued
          ∧ credential ∉ world.adopted
          ∧ ¬ world.attempt.Withholds credential
  current_issued
    : ∀ digest,
        (world.worker.view serverId).current = some digest
        → ∃ credential ∈ world.issued, digest = credentialDigest serverId credential
  pending_issued
    : ∀ digest,
        (world.worker.view serverId).pending = some digest
        → ∃ credential ∈ world.issued, digest = credentialDigest serverId credential
  attempt_issued
    : ∀ credential,
        world.attempt.credential? = some credential → credential ∈ world.issued
  withheld
    : ∀ credential, world.attempt.Withholds credential → credential ∉ world.adopted
  applied : ∀ credential, world.attempt = .applied credential → credential ∈ world.adopted
  current_adopted
    : ∀ credential,
        world.attempt.credential? = some credential
        → (world.worker.view serverId).current = some (credentialDigest serverId credential)
        → credential ∈ world.adopted
  authentications
    : ∀ running ∈ world.authentications,
        running.credential ∈ world.issued
        ∧ (world.attempt.credential? = some running.credential
          → running.credential ∈ world.adopted)

variable {serverId : ServerId} {world next : World}

theorem Ledger.issued_of_accepted (ledger : world.Ledger serverId)
    {credential : Credential} {accepted : AcceptedAuthentication}
    (found : acceptedAuthentication world.worker serverId credential = some accepted)
    : credential ∈ world.issued := by
  have credential_ne : credential ≠ "" := by
    intro empty
    simp [acceptedAuthentication, empty] at found
  rw [acceptedAuthentication_eq world.worker serverId credential ledger.serverId_ne
    credential_ne] at found
  split at found
  · next accepts =>
      rcases accepts.2 with current | pending
      · obtain ⟨other, issued, same⟩ := ledger.current_issued _ current
        exact credentialDigest_inj same ▸ issued
      · obtain ⟨other, issued, same⟩ :=
          ledger.pending_issued _ (View.acceptedPending_eq_some.mp pending).2
        exact credentialDigest_inj same ▸ issued
  · cases found

/-- A write that keeps the current digest, or makes one current whose credential the plugin
adopted, and that keeps or drops the pending digest.
-/
theorem Ledger.withWorker (ledger : world.Ledger serverId) {worker : Worker}
    (current
      : (worker.view serverId).current = (world.worker.view serverId).current
        ∨ ∃ credential ∈ world.issued,
            (worker.view serverId).current = some (credentialDigest serverId credential)
            ∧ (world.attempt.credential? = some credential → credential ∈ world.adopted))
    (pending
      : (worker.view serverId).pending = (world.worker.view serverId).pending
        ∨ (worker.view serverId).pending = none)
    : Ledger serverId { world with worker } := by
  refine { ledger with current_issued := ?_, pending_issued := ?_, current_adopted := ?_ }
  · intro digest stored
    rcases current with same | ⟨credential, issued, made, -⟩
    · exact ledger.current_issued digest (same ▸ stored)
    · exact ⟨credential, issued, Option.some.inj (stored.symm.trans made)⟩
  · intro digest stored
    rcases pending with same | dropped
    · exact ledger.pending_issued digest (same ▸ stored)
    · exact absurd (dropped.symm.trans stored) (by simp)
  · intro credential attempted stored
    rcases current with same | ⟨other, -, made, adopted⟩
    · exact ledger.current_adopted credential attempted (same ▸ stored)
    · have same := credentialDigest_inj (Option.some.inj (stored.symm.trans made))
      exact same ▸ adopted (same ▸ attempted)

theorem Ledger.narrow (ledger : world.Ledger serverId) {worker : Worker}
    (narrows : (world.worker.view serverId).Narrows (worker.view serverId))
    : Ledger serverId { world with worker } :=
  ledger.withWorker (.inl narrows.current) narrows.pending

theorem Ledger.promoted (ledger : world.Ledger serverId) {worker : Worker}
    {credential : Credential} {database file : WriteOutcome} {alone : Bool}
    (projected
      : worker.view serverId
        = (world.worker.view serverId).promote database file alone
            (credentialDigest serverId credential))
    (issued : credential ∈ world.issued)
    (adopted
      : world.attempt.credential? = some credential → credential ∈ world.adopted)
    : Ledger serverId { world with worker } := by
  have cases := (world.worker.view serverId).promote_cases database file alone
    (credentialDigest serverId credential)
  rw [← projected] at cases
  rcases cases with narrows | ⟨-, current, pending⟩
  · exact ledger.narrow narrows
  · exact ledger.withWorker (.inr ⟨credential, issued, current, adopted⟩) (.inr pending)

theorem Ledger.moveOn (ledger : world.Ledger serverId) {phase : AttemptPhase}
    (same : phase.credential? = world.attempt.credential? ∨ phase = .idle)
    (unstaged : ∀ credential, phase ≠ .staged credential)
    (rejected
      : ∀ credential,
          phase = .rejected credential
          → credential ∉ world.adopted ∧ world.inFlight ≠ some credential)
    (applied : ∀ credential, phase = .applied credential → credential ∈ world.adopted)
    : Ledger serverId { world with attempt := phase } := by
  have attempted {credential : Credential} (found : phase.credential? = some credential)
      : world.attempt.credential? = some credential := by
    rcases same with same | rfl
    · exact same ▸ found
    · cases found
  refine {
    ledger with
    inFlight_fresh := ?_
    attempt_issued := fun credential found => ledger.attempt_issued credential (attempted found)
    withheld := ?_
    applied := applied
    current_adopted := fun credential found =>
      ledger.current_adopted credential (attempted found)
    authentications := ?_
  }
  · intro credential landing
    obtain ⟨issued, unadopted, -⟩ := ledger.inFlight_fresh credential landing
    refine ⟨issued, unadopted, fun withheld => ?_⟩
    rcases withheld with staged | answered
    · exact unstaged credential staged
    · exact (rejected credential answered).2 landing
  · intro credential withheld
    rcases withheld with staged | answered
    · exact absurd staged (unstaged credential)
    · exact (rejected credential answered).1
  · intro running member
    obtain ⟨issued, adopted⟩ := ledger.authentications running member
    exact ⟨issued, fun found => adopted (attempted found)⟩

theorem afterBegin_ne_applied (credential other : Credential)
    (result : Except RotationError Bool)
    : afterBegin credential result ≠ .applied other := by
  cases result with
  | error error => simp [afterBegin]
  | ok prepared => cases prepared <;> simp [afterBegin]

theorem credential?_afterBegin (credential : Credential)
    (result : Except RotationError Bool)
    : (afterBegin credential result).credential? = some credential := by
  cases result with
  | error error => rfl
  | ok prepared => cases prepared <;> rfl

theorem Ledger.begin (ledger : world.Ledger serverId) {credential : Credential}
    (credential_ne : credential ≠ "") (unissued : credential ∉ world.issued)
    (database file : WriteOutcome)
    : let begun :=
        beginEventBridgeCredentialRotationIfServerExists world.now database file serverId
          credential world.worker
      Ledger serverId {
        world with
        worker := begun.2
        attempt := afterBegin credential begun.1
        issued := credential :: world.issued
      } := by
  have projected := view_beginRotation world.worker serverId world.now database file credential
    ledger.serverId_ne credential_ne
  have cases := (world.worker.view serverId).beginRotation_cases world.now database file
    (credentialDigest serverId credential)
  rw [projected] at cases
  generalize beginEventBridgeCredentialRotationIfServerExists world.now database file serverId
    credential world.worker = begun at cases ⊢
  have attempted := credential?_afterBegin credential begun.1
  have stored (digest : Digest)
      (found
        : (begun.2.view serverId).current = some digest)
      : ∃ other ∈ world.issued, digest = credentialDigest serverId other := by
    rcases cases with ⟨same, -⟩ | ⟨kept | ⟨-, promoted⟩, -⟩
    · exact ledger.current_issued digest (same ▸ found)
    · exact ledger.current_issued digest (kept ▸ found)
    · exact ledger.pending_issued digest (promoted ▸ found)
  have own {other : Credential}
      (found : (afterBegin credential begun.1).credential? = some other)
      : other = credential :=
    (Option.some.inj (attempted.symm.trans found)).symm
  have unadopted : credential ∉ world.adopted :=
    fun adopted => unissued (ledger.adopted_issued credential adopted)
  exact {
    serverId_ne := ledger.serverId_ne
    issued_ne := by
      intro other issued
      rcases List.mem_cons.mp issued with rfl | before
      · exact credential_ne
      · exact ledger.issued_ne other before
    adopted_issued := fun other adopted =>
      List.mem_cons_of_mem credential (ledger.adopted_issued other adopted)
    inFlight_fresh := by
      intro other landing
      obtain ⟨issued, otherUnadopted, -⟩ := ledger.inFlight_fresh other landing
      exact ⟨List.mem_cons_of_mem credential issued, otherUnadopted,
        fun withheld => unissued (own withheld.credential?_eq ▸ issued)⟩
    current_issued := by
      intro digest found
      obtain ⟨other, issued, same⟩ := stored digest found
      exact ⟨other, List.mem_cons_of_mem credential issued, same⟩
    pending_issued := by
      intro digest found
      rcases cases with ⟨same, -⟩ | ⟨-, requested⟩
      · obtain ⟨other, issued, known⟩ := ledger.pending_issued digest (same ▸ found)
        exact ⟨other, List.mem_cons_of_mem credential issued, known⟩
      · exact ⟨credential, List.mem_cons_self,
          Option.some.inj (found.symm.trans requested)⟩
    attempt_issued := by
      intro other found
      exact own found ▸ List.mem_cons_self
    withheld := by
      intro other withheld
      exact own withheld.credential?_eq ▸ unadopted
    applied := by
      intro other reached
      exact absurd reached (afterBegin_ne_applied credential other begun.1)
    current_adopted := by
      intro other found current
      obtain ⟨old, issued, same⟩ := stored _ current
      exact absurd (credentialDigest_inj same ▸ issued) (own found ▸ unissued)
    authentications := by
      intro running member
      obtain ⟨issued, -⟩ := ledger.authentications running member
      exact ⟨List.mem_cons_of_mem credential issued,
        fun found => absurd issued (own found ▸ unissued)⟩
  }

theorem Ledger.push (ledger : world.Ledger serverId) {credential : Credential}
    (staged : world.attempt = .staged credential)
    : Ledger serverId {
        world with
        attempt := .pushing credential
        inFlight := some credential
        authentications :=
          world.authentications.map (fun running => { running with undisturbed := false })
      } := by
  have attempted : world.attempt.credential? = some credential :=
    AttemptPhase.Withholds.credential?_eq (.inl staged)
  exact {
    ledger with
    inFlight_fresh := by
      intro other landing
      cases landing
      exact ⟨ledger.attempt_issued credential attempted,
        ledger.withheld credential (.inl staged), by simp [AttemptPhase.Withholds]⟩
    attempt_issued := fun other found =>
      ledger.attempt_issued other (attempted.trans found)
    withheld := by simp [AttemptPhase.Withholds]
    applied := by simp
    current_adopted := fun other found => ledger.current_adopted other (attempted.trans found)
    authentications := by
      intro running member
      obtain ⟨before, present, rfl⟩ := List.mem_map.mp member
      obtain ⟨issued, adopted⟩ := ledger.authentications before present
      exact ⟨issued, fun found => adopted (attempted.trans found)⟩
  }

theorem Ledger.pluginAdopts (ledger : world.Ledger serverId) {credential : Credential}
    (landing : world.inFlight = some credential)
    : Ledger serverId {
        world with
        plugin := some credential
        inFlight := none
        adopted := credential :: world.adopted
      } := by
  obtain ⟨issued, unadopted, unwithheld⟩ := ledger.inFlight_fresh credential landing
  exact {
    ledger with
    adopted_issued := by
      intro other adopted
      rcases List.mem_cons.mp adopted with rfl | before
      · exact issued
      · exact ledger.adopted_issued other before
    inFlight_fresh := by simp
    withheld := by
      intro other withheld adopted
      rcases List.mem_cons.mp adopted with rfl | before
      · exact unwithheld withheld
      · exact ledger.withheld other withheld before
    applied := fun other reached =>
      List.mem_cons_of_mem credential (ledger.applied other reached)
    current_adopted := fun other found current =>
      List.mem_cons_of_mem credential (ledger.current_adopted other found current)
    authentications := by
      intro running member
      obtain ⟨runningIssued, adopted⟩ := ledger.authentications running member
      exact ⟨runningIssued, fun found => List.mem_cons_of_mem credential (adopted found)⟩
  }

theorem Ledger.pushLost (ledger : world.Ledger serverId)
    : Ledger serverId { world with inFlight := none } :=
  { ledger with inFlight_fresh := by simp }

theorem Ledger.settle_cases (ledger : world.Ledger serverId)
    {running : RunningAuthentication} (member : running ∈ world.authentications)
    (database file : WriteOutcome)
    : let settled :=
        (settleAuthentication world.now database file serverId running.credential
          running.accepted world.worker).view serverId
      (∃ alone,
        settled
        = (world.worker.view serverId).promote database file alone
            (credentialDigest serverId running.credential))
      ∨ (∃ current pending,
        settled
        = (world.worker.view serverId).reconcileCurrent world.now database current pending)
      ∨ settled = world.worker.view serverId := by
  have issued := (ledger.authentications running member).1
  unfold settleAuthentication
  split
  · exact .inl (view_promote world.worker serverId world.now database file
      running.credential ledger.serverId_ne (ledger.issued_ne _ issued))
  · split
    · next current pending _ _ =>
        exact .inr (.inl ⟨current, pending, view_reconcileCurrent ..⟩)
    · exact .inr (.inr rfl)

theorem Ledger.settle (ledger : world.Ledger serverId) {running : RunningAuthentication}
    (member : running ∈ world.authentications) (database file : WriteOutcome)
    : Ledger serverId {
        world with
        worker :=
          settleAuthentication world.now database file serverId running.credential
            running.accepted world.worker
      } := by
  obtain ⟨issued, adopted⟩ := ledger.authentications running member
  rcases ledger.settle_cases member database file with
    ⟨alone, promoted⟩ | ⟨current, pending, reconciled⟩ | same
  · exact ledger.promoted promoted issued adopted
  · refine ledger.narrow ?_
    rw [reconciled]
    exact View.reconcileCurrent_narrows _ world.now database current pending
  · refine ledger.narrow ?_
    rw [same]
    exact .refl _

theorem Initial.ledger (initial : world.Initial serverId) : world.Ledger serverId := by
  obtain ⟨serverId_ne, configured, attempt, inFlight, authentications, active, rejected,
    journal, installed⟩ := initial
  rcases installed with ⟨plugin, record, adopted, issued⟩
    | ⟨credential, updatedAt, credential_ne, plugin, record, adopted, issued⟩
  · refine ⟨serverId_ne, ?_, ?_, ?_, ?_, ?_, ?_, ?_, ?_, ?_, ?_⟩ <;>
      simp_all [Worker.view, AttemptPhase.Withholds, AttemptPhase.credential?]
  · refine ⟨serverId_ne, ?_, ?_, ?_, ?_, ?_, ?_, ?_, ?_, ?_, ?_⟩ <;>
      simp_all [Worker.view, AttemptPhase.Withholds, AttemptPhase.credential?]

/-- Every admitted event keeps the ledger. Witness: one case per transition. -/
theorem Ledger.step (ledger : world.Ledger serverId) {event : Event}
    (admitted : PresentsAdopted world event)
    (taken : World.step serverId world event = some next)
    : next.Ledger serverId := by
  cases Transition.of_step taken with
  | begin idle credential_ne unissued => exact ledger.begin credential_ne unissued _ _
  | push staged => exact ledger.push staged
  | pluginAdopts landing => exact ledger.pluginAdopts landing
  | pushLost => exact ledger.pushLost
  | @confirmed credential reply pushing adopted =>
      refine ledger.moveOn (.inl (by rw [pushing]; rfl)) (by simp) (by simp) ?_
      intro other applied
      cases applied
      exact adopted
  | @rejected credential reply pushing landing =>
      refine ledger.pushLost.moveOn (.inl ?_) (by simp) ?_ (by simp)
      · change AttemptPhase.credential? _ = world.attempt.credential?
        rw [pushing]
        rfl
      · intro other rejected
        cases rejected
        exact ⟨(ledger.inFlight_fresh credential landing).2.1, by simp⟩
  | ambiguous pushing =>
      exact ledger.moveOn (.inl (by rw [pushing]; rfl)) (by simp) (by simp) (by simp)
  | @promote credential database file applied =>
      have attempted : world.attempt.credential? = some credential := by
        rw [applied]
        rfl
      have issued := ledger.attempt_issued credential attempted
      obtain ⟨alone, promoted⟩ := view_promote world.worker serverId world.now database file
        credential ledger.serverId_ne (ledger.issued_ne credential issued)
      refine (ledger.promoted promoted issued (fun _ => ledger.applied credential applied)).moveOn
        (.inl attempted.symm) (by simp) (by simp) (by simp)
  | @rememberRejection credential journalWrite database file rejected =>
      have attempted : world.attempt.credential? = some credential := by
        rw [rejected]
        rfl
      have credential_ne := ledger.issued_ne _ (ledger.attempt_issued credential attempted)
      refine (ledger.narrow ?_).moveOn (.inl attempted.symm) (by simp) (by simp) (by simp)
      rw [view_rememberRejected _ _ _ _ _ _ ledger.serverId_ne credential_ne]
      exact View.rememberRejected_narrows _ journalWrite database file _
  | @cancel credential database file recorded =>
      have attempted : world.attempt.credential? = some credential := by
        rw [recorded]
        rfl
      have credential_ne := ledger.issued_ne _ (ledger.attempt_issued credential attempted)
      refine (ledger.narrow ?_).moveOn (.inl attempted.symm) (by simp) (by simp) (by simp)
      rw [view_cancel _ _ _ _ _ _ ledger.serverId_ne credential_ne]
      exact View.cancel_narrows _ database file _
  | @finishAttempt credential finishing =>
      have attempted : world.attempt.credential? = some credential := by
        rw [finishing]
        rfl
      have credential_ne := ledger.issued_ne _ (ledger.attempt_issued credential attempted)
      have narrows := (world.worker.view serverId).finishActive_narrows
        (credentialDigest serverId credential)
      rw [← view_finishAttempt _ _ _ ledger.serverId_ne credential_ne] at narrows
      exact (ledger.narrow narrows).moveOn (.inr rfl) (by simp) (by simp) (by simp)
  | refused => exact ledger
  | @accepted credential accepted found =>
      refine { ledger with authentications := ?_ }
      intro running member
      rcases List.mem_append.mp member with before | new
      · exact ledger.authentications running before
      · rw [List.mem_singleton.mp new]
        exact ⟨ledger.issued_of_accepted found, admitted⟩
  | settle found =>
      refine { ledger.settle (List.mem_of_getElem? found) _ _ with authentications := ?_ }
      intro running member
      exact ledger.authentications running (List.mem_of_mem_eraseIdx member)
  | reconcileRejected =>
      refine ledger.narrow ?_
      rw [view_reconcileRejected _ _ _ _ _ ledger.serverId_ne]
      exact View.reconcileRejected_narrows _ _ _
  | restart =>
      have cleared := ledger.moveOn (.inr rfl) (by simp) (by simp) (by simp)
      exact { cleared.narrow (.refl _) with authentications := by simp }
  | tick => exact { ledger with }
  | journalAccess => exact ledger.narrow ⟨rfl, .inl rfl⟩
  | otherServers same =>
      refine ledger.narrow ?_
      rw [view_eq_of_sameServerSlice same]
      exact .refl _
  | otherServerRepairsJournal unreadable alone => exact ledger.narrow ⟨rfl, .inl rfl⟩

end World

end OctoHubs.EventBridge
