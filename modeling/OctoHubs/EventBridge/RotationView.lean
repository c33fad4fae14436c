import OctoHubs.EventBridge.Credentials

/-! What one server's rotation sees of a worker, and the credential operations on it.
Every operation of the credential module commutes with this projection, so invariants of
one server are proved on the projected state without dictionaries or other servers.
-/

namespace OctoHubs.EventBridge

open OctoHubs.Library

/-- One server's slice of the settings, of the process memory and of the journal. -/
structure View where
  configured : Bool
  current : Option Digest
  pending : Option Digest
  flagged : Bool
  startedAt : Option Time
  active : Option Digest
  memory : Option Digest
  journal : Option Digest
  readable : Bool
deriving DecidableEq, Repr

def Worker.view (worker : Worker) (serverId : ServerId) : View where
  configured := worker.settings.serverIsConfigured serverId
  current := (recordDigests (worker.settings.record? serverId)).1
  pending := (recordDigests (worker.settings.record? serverId)).2
  flagged := pendingWasRejected (worker.settings.record? serverId)
  startedAt := (worker.settings.record? serverId).bind CredentialRecord.pendingStartedAt
  active := worker.rotation.activeDigests.get? serverId
  memory := worker.rotation.rejectedDigest serverId
  journal := worker.journal.rejections.get? serverId
  readable := worker.journal.readable

namespace View

-- Operations on the projected state

/-- Whether the pending digest is known to be rejected, and whether that is decidable. -/
def rejectionStatus (view : View) : Bool × Bool :=
  match view.pending with
  | none => (false, view.readable)
  | some pending =>
      if view.flagged then (true, true)
      else if view.memory = some pending then (true, true)
      else if view.readable then (view.journal == some pending, true)
      else if view.active = some pending then (false, true)
      else (false, false)

def acceptedPending (view : View) : Option Digest :=
  if view.rejectionStatus = (false, true) then view.pending else none

def Accepts (view : View) (digest : Digest) : Prop :=
  view.configured = true
  ∧ (view.current = some digest ∨ view.acceptedPending = some digest)

instance (view : View) (digest : Digest) : Decidable (view.Accepts digest) :=
  inferInstanceAs (Decidable (_ ∧ _))

def forgetMemory (view : View) (digest : Digest) : View :=
  if view.memory = some digest then { view with memory := none } else view

def forgetJournal (view : View) (outcome : WriteOutcome) (digest : Digest) : View :=
  if view.readable = true ∧ view.journal = some digest ∧ outcome ≠ .failed then
    { view with journal := none }
  else view

def finishActive (view : View) (digest : Digest) : View :=
  if view.active = some digest then { view with active := none } else view

/-- Replace the stored record by one with this current digest and nothing pending. -/
def dropPending (view : View) (current : Option Digest) : View :=
  { view with current, pending := none, flagged := false, startedAt := none }

/-- Keep a transaction's new record unless its commit failed. -/
def commit (view : View) (outcome : WriteOutcome) (changed : View) : View :=
  if outcome = .failed then view else changed

def baseDigests (view : View) (requested : Digest)
    : Except RotationError (Option Digest × Option Digest × Option Digest) :=
  if view.rejectionStatus.1 then .ok (view.current, none, view.pending)
  else
    match view.pending with
    | none => .ok (view.current, none, none)
    | some pending =>
        if view.rejectionStatus.2 = false then
          .error (.rotationPending stateUnavailableMessage)
        else if pending = requested then .ok (view.current, some pending, none)
        else if view.current.isSome = true ∨ view.active = some pending then
          .error (.rotationPending stillReconcilingMessage)
        else .ok (some pending, none, none)

/-- The record a rotation stages over the given base digests. -/
def stage (view : View) (now : Time) (requested : Digest) (current prior : Option Digest)
    : View :=
  { view with
    current
    pending := some requested
    flagged := false
    startedAt := if prior.isSome then some (view.startedAt.getD now) else some now }

def forgetDiscarded (view : View) : Option Digest → View
  | none => view
  | some discarded => view.forgetMemory discarded

/-- The journal entry a read of the journal returns. -/
def loadedJournal (view : View) : Option Digest :=
  if view.readable then view.journal else none

def forgetLoadedJournal (view : View) (outcome : WriteOutcome) : Option Digest → View
  | none => view
  | some loaded => view.forgetJournal outcome loaded

def markActive (view : View) (digest : Digest) : View :=
  { view with active := some digest }

theorem markActive_forgetMemory (view : View) (digest forgotten : Digest)
    : (view.forgetMemory forgotten).markActive digest
      = (view.markActive digest).forgetMemory forgotten :=
  apply_ite (markActive · digest) _ _ _

theorem markActive_forgetJournal (view : View) (outcome : WriteOutcome)
    (digest forgotten : Digest)
    : (view.forgetJournal outcome forgotten).markActive digest
      = (view.markActive digest).forgetJournal outcome forgotten :=
  apply_ite (markActive · digest) _ _ _

theorem markActive_forget (view : View) (outcome : WriteOutcome) (digest : Digest)
    (discarded loaded : Option Digest)
    : ((view.forgetDiscarded discarded).forgetLoadedJournal outcome loaded).markActive digest
      = ((view.markActive digest).forgetDiscarded discarded).forgetLoadedJournal outcome
          loaded := by
  cases discarded <;> cases loaded <;>
    simp only [forgetDiscarded, forgetLoadedJournal, markActive_forgetJournal,
      markActive_forgetMemory]

def beginRotation (view : View) (now : Time) (database file : WriteOutcome)
    (requested : Digest)
    : Except RotationError Bool × View :=
  if view.configured = false then
    (if database = .done then .ok false else .error .storage, view)
  else
    match view.baseDigests requested with
    | .error error => (.error error, view)
    | .ok (current, prior, discarded) =>
        let staged := view.stage now requested current prior
        if database = .done then
          (.ok true,
            ((staged.forgetDiscarded discarded).forgetLoadedJournal file
              view.loadedJournal).markActive requested)
        else (.error .storage, view.commit database staged)

/-- The cleanup after a promotion; `alone` tells that no stored generation is pending. -/
def afterPromotion (view : View) (file : WriteOutcome) (alone : Bool) (digest : Digest)
    : View :=
  let cleaned := (view.finishActive digest).forgetMemory digest
  if view.readable then cleaned.forgetJournal file digest
  else if alone = true ∧ file ≠ .failed then
    { cleaned with journal := none, readable := true }
  else cleaned

def promote (view : View) (database file : WriteOutcome) (alone : Bool) (digest : Digest)
    : View :=
  if view.configured = false then view
  else if view.current = some digest ∧ view.pending = none then
    if database = .done then view.afterPromotion file alone digest else view
  else if view.acceptedPending = some digest then
    let promoted := view.dropPending (some digest)
    if database = .done then promoted.afterPromotion file alone digest
    else view.commit database promoted
  else view

def cancel (view : View) (database file : WriteOutcome) (digest : Digest) : View :=
  if view.pending = some digest then
    let cancelled := view.dropPending view.current
    if database = .done then
      ((cancelled.finishActive digest).forgetMemory digest).forgetJournal file digest
    else view.commit database cancelled
  else if database = .done then view.forgetJournal file digest
  else view

/-- A digest written to the journal replaces the stored one. -/
def writeJournal (view : View) (outcome : WriteOutcome) (digest : Digest) : View :=
  if view.readable = true ∧ outcome ≠ .failed then { view with journal := some digest }
  else view

theorem writeJournal_pending (view : View) (outcome : WriteOutcome) (digest : Digest)
    : (view.writeJournal outcome digest).pending = view.pending := by
  unfold writeJournal
  split <;> rfl

def rememberRejected (view : View) (journalWrite database file : WriteOutcome)
    (digest : Digest)
    : View :=
  let marked := { view.writeJournal journalWrite digest with memory := some digest }
  if view.pending = some digest then marked.commit database { marked with flagged := true }
  else if database = .done ∧ view.readable = true ∧ journalWrite = .done then
    (marked.forgetMemory digest).forgetJournal file digest
  else marked

def reconcileRejected (view : View) (database file : WriteOutcome) : View :=
  match view.pending with
  | none =>
      match view.memory.or view.loadedJournal with
      | some known =>
          if database = .done then (view.forgetMemory known).forgetJournal file known else view
      | none => view
  | some pending =>
      if view.rejectionStatus = (true, true) then
        let reconciled := view.dropPending view.current
        if database = .done then (reconciled.forgetMemory pending).forgetJournal file pending
        else view.commit database reconciled
      else view

def reconcileCurrent (view : View) (now : Time) (database : WriteOutcome)
    (current pending : Digest)
    : View :=
  if view.active ≠ some pending ∧ view.current = some current
      ∧ view.pending = some pending
      ∧ RotationState.pendingReconciliationGraceElapsed now view.startedAt = true then
    view.commit database (view.dropPending (some current))
  else view

-- The digests an operation leaves

/-- The current digest is kept, and the pending one is kept or dropped. -/
structure Narrows (view changed : View) : Prop where
  current : changed.current = view.current
  pending : changed.pending = view.pending ∨ changed.pending = none

theorem Narrows.refl (view : View) : view.Narrows view := ⟨rfl, .inl rfl⟩

theorem Narrows.trans {view middle changed : View} (first : view.Narrows middle)
    (second : middle.Narrows changed)
    : view.Narrows changed := by
  refine ⟨second.current.trans first.current, ?_⟩
  rcases second.pending with kept | dropped
  · exact first.pending.imp kept.trans kept.trans
  · exact .inr dropped

variable (view : View)

theorem forgetMemory_narrows (digest : Digest) : view.Narrows (view.forgetMemory digest) := by
  unfold forgetMemory
  split <;> exact ⟨rfl, .inl rfl⟩

theorem forgetJournal_narrows (outcome : WriteOutcome) (digest : Digest)
    : view.Narrows (view.forgetJournal outcome digest) := by
  unfold forgetJournal
  split <;> exact ⟨rfl, .inl rfl⟩

theorem finishActive_narrows (digest : Digest) : view.Narrows (view.finishActive digest) := by
  unfold finishActive
  split <;> exact ⟨rfl, .inl rfl⟩

theorem dropPending_narrows : view.Narrows (view.dropPending view.current) := ⟨rfl, .inr rfl⟩

theorem commit_narrows {changed : View} (narrows : view.Narrows changed)
    (outcome : WriteOutcome)
    : view.Narrows (view.commit outcome changed) := by
  unfold commit
  split
  · exact .refl view
  · exact narrows

theorem afterPromotion_narrows (file : WriteOutcome) (alone : Bool) (digest : Digest)
    : view.Narrows (view.afterPromotion file alone digest) := by
  have cleaned := (view.finishActive_narrows digest).trans (forgetMemory_narrows _ digest)
  unfold afterPromotion
  simp only
  split
  · exact cleaned.trans (forgetJournal_narrows _ file digest)
  split
  · exact cleaned.trans ⟨rfl, .inl rfl⟩
  · exact cleaned

theorem cancel_narrows (database file : WriteOutcome) (digest : Digest)
    : view.Narrows (view.cancel database file digest) := by
  have dropped := view.dropPending_narrows
  unfold cancel
  split
  · simp only
    split
    · exact ((dropped.trans (finishActive_narrows _ digest)).trans
        (forgetMemory_narrows _ digest)).trans (forgetJournal_narrows _ file digest)
    · exact view.commit_narrows dropped database
  split
  · exact view.forgetJournal_narrows file digest
  · exact .refl view

theorem rememberRejected_narrows (journalWrite database file : WriteOutcome)
    (digest : Digest)
    : view.Narrows (view.rememberRejected journalWrite database file digest) := by
  have written : view.Narrows (view.writeJournal journalWrite digest) := by
    unfold writeJournal
    split <;> exact ⟨rfl, .inl rfl⟩
  have marked
      : view.Narrows { view.writeJournal journalWrite digest with memory := some digest } :=
    ⟨written.current, written.pending⟩
  unfold rememberRejected
  simp only
  split
  · refine marked.trans (commit_narrows _ ?_ database)
    exact ⟨rfl, .inl rfl⟩
  split
  · exact (marked.trans (forgetMemory_narrows _ digest)).trans
      (forgetJournal_narrows _ file digest)
  · exact marked

theorem rememberRejected_memory (journalWrite database file : WriteOutcome)
    (digest : Digest) (pending : view.pending = some digest)
    : (view.rememberRejected journalWrite database file digest).memory = some digest := by
  unfold rememberRejected commit
  rw [if_pos pending]
  split <;> rfl

theorem reconcileRejected_narrows (database file : WriteOutcome)
    : view.Narrows (view.reconcileRejected database file) := by
  have dropped := view.dropPending_narrows
  unfold reconcileRejected
  split
  · split
    · split
      · exact (view.forgetMemory_narrows _).trans (forgetJournal_narrows _ file _)
      · exact .refl view
    · exact .refl view
  · split
    · simp only
      split
      · exact (dropped.trans (forgetMemory_narrows _ _)).trans (forgetJournal_narrows _ file _)
      · exact view.commit_narrows dropped database
    · exact .refl view

theorem reconcileCurrent_narrows (now : Time) (database : WriteOutcome)
    (current pending : Digest)
    : view.Narrows (view.reconcileCurrent now database current pending) := by
  unfold reconcileCurrent
  split
  · next discards =>
      refine view.commit_narrows ?_ database
      rw [← discards.2.1]
      exact view.dropPending_narrows
  · exact .refl view

theorem promote_cases (database file : WriteOutcome) (alone : Bool) (digest : Digest)
    : view.Narrows (view.promote database file alone digest)
      ∨ (view.acceptedPending = some digest
        ∧ (view.promote database file alone digest).current = some digest
        ∧ (view.promote database file alone digest).pending = none) := by
  unfold promote
  split
  · exact .inl (.refl view)
  split
  · split
    · exact .inl (view.afterPromotion_narrows file alone digest)
    · exact .inl (.refl view)
  split
  · next accepted =>
      simp only
      split
      · right
        have cleaned :=
          (view.dropPending (some digest)).afterPromotion_narrows file alone digest
        refine ⟨accepted, cleaned.current, ?_⟩
        exact cleaned.pending.elim id id
      · unfold commit
        split
        · exact .inl (.refl view)
        · exact .inr ⟨accepted, rfl, rfl⟩
  · exact .inl (.refl view)

theorem promote_pending (database file : WriteOutcome) (alone : Bool) (digest : Digest)
    : (view.promote database file alone digest).pending = view.pending
      ∨ (view.promote database file alone digest).pending = none := by
  rcases view.promote_cases database file alone digest with narrows | ⟨-, -, dropped⟩
  · exact narrows.pending
  · exact .inr dropped

theorem acceptedPending_eq_some {view : View} {digest : Digest}
    : view.acceptedPending = some digest
      ↔ view.rejectionStatus = (false, true) ∧ view.pending = some digest := by
  unfold acceptedPending
  split
  · next status => simp [status]
  · next status => simp [status]

theorem forget_digests (outcome : WriteOutcome) (discarded loaded : Option Digest)
    : ((view.forgetDiscarded discarded).forgetLoadedJournal outcome loaded).current
        = view.current
      ∧ ((view.forgetDiscarded discarded).forgetLoadedJournal outcome loaded).pending
        = view.pending := by
  have memory (view : View) (digest : Digest)
      : (view.forgetMemory digest).current = view.current
        ∧ (view.forgetMemory digest).pending = view.pending := by
    unfold forgetMemory
    split <;> exact ⟨rfl, rfl⟩
  have journal (view : View) (digest : Digest)
      : (view.forgetJournal outcome digest).current = view.current
        ∧ (view.forgetJournal outcome digest).pending = view.pending := by
    unfold forgetJournal
    split <;> exact ⟨rfl, rfl⟩
  cases discarded <;> cases loaded <;>
    simp [forgetDiscarded, forgetLoadedJournal, memory, journal]

/-- A rotation starts from the current digest, or from a pending one that is decided not to
be rejected.
-/
theorem baseDigests_cases {view : View} {requested : Digest}
    {current prior discarded : Option Digest}
    (base : view.baseDigests requested = .ok (current, prior, discarded))
    : current = view.current
      ∨ (view.rejectionStatus = (false, true) ∧ current = view.pending) := by
  unfold baseDigests at base
  split at base
  · cases base
    exact .inl rfl
  · next unrejected =>
      split at base
      · cases base
        exact .inl rfl
      · next pending stored =>
          split at base
          · cases base
          · next decided =>
              split at base
              · cases base
                exact .inl rfl
              split at base
              · cases base
              · cases base
                exact .inr ⟨Prod.ext (by simpa using unrejected) (by simpa using decided),
                  stored.symm⟩

/-- A begin that prepares nothing keeps the view. Any other keeps the current digest or
makes a decided pending one current, and stores the requested one as pending.
-/
theorem beginRotation_cases (now : Time) (database file : WriteOutcome)
    (requested : Digest)
    : let begun := view.beginRotation now database file requested
      (begun.2 = view ∧ begun.1 ≠ .ok true)
      ∨ ((begun.2.current = view.current
          ∨ (view.rejectionStatus = (false, true) ∧ begun.2.current = view.pending))
        ∧ begun.2.pending = some requested) := by
  unfold beginRotation
  split
  · refine .inl ⟨rfl, ?_⟩
    split <;> simp
  split
  · exact .inl ⟨rfl, by simp⟩
  · next current prior discarded base =>
      have started := baseDigests_cases base
      simp only
      split
      · have kept := (view.stage now requested current prior).forget_digests file discarded
          view.loadedJournal
        exact .inr ⟨started.imp kept.1.trans (And.imp_right kept.1.trans), kept.2⟩
      · unfold commit
        split
        · exact .inl ⟨rfl, by simp⟩
        · exact .inr ⟨started, rfl⟩

end View

-- The projection commutes with every operation

theorem view_pending_of_alone {worker : Worker} (serverId : ServerId)
    (alone : noPendingGenerationsRemain worker.settings.entries = true)
    : (worker.view serverId).pending = none := by
  cases found : worker.settings.record? serverId with
  | none => simp [Worker.view, found, recordDigests]
  | some record =>
      have listed : record ∈ worker.settings.entries.values :=
        Dict.mem_values_iff.mpr ⟨serverId, found⟩
      have nothing : ∀ other ∈ worker.settings.entries.values,
          (recordDigests (some other)).2 = none := by
        simpa [noPendingGenerationsRemain] using alone
      simpa [Worker.view, found] using nothing record listed

theorem view_eq_of_sameServerSlice {serverId : ServerId} {left right : Worker}
    (same : sameServerSlice serverId left right)
    : left.view serverId = right.view serverId := by
  obtain ⟨record, configured, active, rejected, journal, readable⟩ := same
  simp only [Worker.view, record, configured, active, rejected, journal, readable]

section Projection

variable (worker : Worker) (serverId : ServerId)

@[simp] theorem recordDigests_none : recordDigests none = (none, none) := rfl

@[simp] theorem pendingWasRejected_none : pendingWasRejected none = false := rfl

@[simp] theorem recordDigests_currentRecord (digest : Digest) (updatedAt : Time)
    : recordDigests (some (currentRecord digest updatedAt)) = (some digest, none) := by
  simp [recordDigests, currentRecord]

@[simp] theorem pendingWasRejected_currentRecord (digest : Digest) (updatedAt : Time)
    : pendingWasRejected (some (currentRecord digest updatedAt)) = false := rfl

@[simp] theorem pendingStartedAt_currentRecord (digest : Digest) (updatedAt : Time)
    : (currentRecord digest updatedAt).pendingStartedAt = none := rfl

theorem view_finishActive (digest : Digest)
    : (worker.finishActive serverId digest).view serverId
      = (worker.view serverId).finishActive digest := by
  by_cases active : worker.rotation.activeDigests.get? serverId = some digest
  · simp [Worker.finishActive, RotationState.finishActive, Worker.view, View.finishActive,
      RotationState.rejectedDigest, active]
  · simp [Worker.finishActive, RotationState.finishActive, Worker.view, View.finishActive,
      active]

theorem view_forgetRejected (digest : Digest)
    : (worker.forgetRejected serverId digest).view serverId
      = (worker.view serverId).forgetMemory digest := by
  by_cases found : worker.rotation.rejectedDigests.get? serverId = some digest
  · simp [Worker.forgetRejected, RotationState.forgetRejected, Worker.view,
      View.forgetMemory, RotationState.rejectedDigest, found]
  · simp [Worker.forgetRejected, RotationState.forgetRejected, Worker.view,
      View.forgetMemory, RotationState.rejectedDigest, found]

theorem view_forgetJournal (outcome : WriteOutcome) (digest : Digest)
    : (worker.forgetJournal outcome serverId digest).view serverId
      = (worker.view serverId).forgetJournal outcome digest := by
  unfold Worker.forgetJournal RejectionJournal.forgetRejectedDigestSafely View.forgetJournal
  by_cases readable : worker.journal.readable = true
  · by_cases stored : worker.journal.rejections.get? serverId = some digest
    · cases outcome <;> simp [Worker.view, readable, stored]
    · simp [Worker.view, readable, stored]
  · simp [Worker.view, readable]

theorem view_markActive (digest : Digest)
    : (worker.markActive serverId digest).view serverId
      = (worker.view serverId).markActive digest := by
  simp [Worker.markActive, RotationState.markActive, RotationState.rejectedDigest,
    Worker.view, View.markActive]

theorem view_forgetDiscarded (discarded : Option Digest)
    : (worker.forgetDiscarded serverId discarded).view serverId
      = (worker.view serverId).forgetDiscarded discarded := by
  cases discarded with
  | none => rfl
  | some discarded => exact view_forgetRejected worker serverId discarded

theorem view_forgetLoadedJournal (outcome : WriteOutcome) (loaded : Option Digest)
    : (worker.forgetLoadedJournal outcome serverId loaded).view serverId
      = (worker.view serverId).forgetLoadedJournal outcome loaded := by
  cases loaded with
  | none => rfl
  | some loaded => exact view_forgetJournal worker serverId outcome loaded

theorem view_loadedJournal
    : worker.journal.loadRejectionJournal.rejections.get? serverId
      = (worker.view serverId).loadedJournal := by
  by_cases readable : worker.journal.readable = true <;>
    simp [RejectionJournal.loadRejectionJournal, View.loadedJournal, Worker.view, readable]

theorem view_removeJournal (outcome : WriteOutcome)
    : ({ worker with
          journal := worker.journal.removeUnreadableJournalSafely outcome }
        : Worker).view serverId
      = if outcome = .failed then worker.view serverId
        else { worker.view serverId with journal := none, readable := true } := by
  cases outcome <;> simp [RejectionJournal.removeUnreadableJournalSafely, Worker.view]

theorem view_pendingRejectionStatus
    : pendingRejectionStatus worker.rotation (worker.settings.record? serverId) serverId
        worker.journal.loadRejectionJournal
      = (worker.view serverId).rejectionStatus := by
  have pendingEq
      : (worker.view serverId).pending
        = (recordDigests (worker.settings.record? serverId)).2 := rfl
  unfold pendingRejectionStatus View.rejectionStatus
  rw [pendingEq]
  cases (recordDigests (worker.settings.record? serverId)).2 with
  | none => simp [Worker.view]
  | some pending =>
      by_cases flagged : pendingWasRejected (worker.settings.record? serverId) = true
      · simp [Worker.view, flagged]
      · by_cases known : worker.rotation.rejectedDigest serverId = some pending
        · simp [Worker.view, known]
        · by_cases readable : worker.journal.readable = true
          · simp [Worker.view, flagged, known, readable,
              RejectionJournal.loadRejectionJournal_rejections]
          · by_cases active : worker.rotation.activeDigests.get? serverId = some pending
            · simp [Worker.view, flagged, known, readable, active]
            · simp [Worker.view, flagged, known, readable, active, RotationState.isActive]

theorem View.rejectionStatus_cases (view : View)
    : view.rejectionStatus = (false, true) ∨ view.rejectionStatus = (true, true)
      ∨ view.rejectionStatus = (false, false) := by
  unfold View.rejectionStatus
  split
  · cases view.readable <;> simp
  · next pending _ =>
      split
      · simp
      · split
        · simp
        · split
          · cases view.journal == some pending <;> simp
          · split <;> simp

theorem view_recordAuthenticationDigests
    : recordAuthenticationDigests worker.rotation (worker.settings.record? serverId)
        serverId worker.journal.loadRejectionJournal
      = ((worker.view serverId).current, (worker.view serverId).acceptedPending) := by
  unfold recordAuthenticationDigests View.acceptedPending
  rw [view_pendingRejectionStatus]
  rcases (worker.view serverId).rejectionStatus_cases with status | status | status <;>
    simp only [status] <;> rfl

theorem acceptedAuthentication_eq (credential : Credential) (serverId_ne : serverId ≠ "")
    (credential_ne : credential ≠ "")
    : acceptedAuthentication worker serverId credential
      = if (worker.view serverId).Accepts (credentialDigest serverId credential) then
          some ⟨credentialDigest serverId credential, (worker.view serverId).current,
            (worker.view serverId).acceptedPending⟩
        else none := by
  simp only [acceptedAuthentication, view_recordAuthenticationDigests, ne_eq, serverId_ne,
    not_false_eq_true, credential_ne, true_and]
  rfl

theorem generation_eq (now : Time) (database file : WriteOutcome) (credential : Credential)
    (serverId_ne : serverId ≠ "") (credential_ne : credential ≠ "")
    : (eventBridgeCredentialGeneration now database file serverId credential worker).1
      = if (worker.view serverId).Accepts (credentialDigest serverId credential) then
          some (credentialDigest serverId credential)
        else none := by
  unfold eventBridgeCredentialGeneration
  rw [acceptedAuthentication_eq worker serverId credential serverId_ne credential_ne]
  by_cases accepts : (worker.view serverId).Accepts (credentialDigest serverId credential)
  · rw [if_pos accepts, if_pos accepts]
  · rw [if_neg accepts, if_neg accepts]

theorem view_withEntries (entries : Dict ServerId CredentialRecord)
    : ({ worker with settings := worker.settings.withEntries entries } : Worker).view serverId
      = { worker.view serverId with
          current := (recordDigests (entries.get? serverId)).1
          pending := (recordDigests (entries.get? serverId)).2
          flagged := pendingWasRejected (entries.get? serverId)
          startedAt := (entries.get? serverId).bind CredentialRecord.pendingStartedAt } := rfl

theorem view_withoutPending (now : Time) (current : Option Digest)
    : ({ worker with
          settings :=
            withoutPending now worker.settings serverId (worker.settings.record? serverId)
              current }
        : Worker).view serverId
      = (worker.view serverId).dropPending current := by
  cases current <;> simp [withoutPending, view_withEntries, View.dropPending]

theorem view_stage (now : Time) (requested : Digest) (current prior : Option Digest)
    : ({ worker with
          settings :=
            worker.settings.withEntries
              (worker.settings.entries.set serverId
                (pendingRotationRecord now (worker.settings.record? serverId) current prior
                  requested)) }
        : Worker).view serverId
      = (worker.view serverId).stage now requested current prior := by
  rw [view_withEntries]
  simp [recordDigests, pendingRotationRecord, pendingWasRejected, View.stage, Worker.view]

theorem view_baseDigests (requested : Digest)
    : rotationBaseDigests worker.rotation (worker.settings.record? serverId) serverId
        requested worker.journal.loadRejectionJournal
      = (worker.view serverId).baseDigests requested := by
  unfold rotationBaseDigests View.baseDigests
  rw [view_pendingRejectionStatus]
  have digests
      : recordDigests (worker.settings.record? serverId)
        = ((worker.view serverId).current, (worker.view serverId).pending) := rfl
  have activeEq (pending : Digest)
      : worker.rotation.isActive serverId pending = true
        ↔ (worker.view serverId).active = some pending := by simp [Worker.view]
  rw [digests]
  rcases (worker.view serverId).rejectionStatus_cases with status | status | status
  · simp only [status]
    cases (worker.view serverId).pending with
    | none => rfl
    | some pending =>
        by_cases same : pending = requested <;> simp [same, activeEq]
  · simp [status]
  · simp only [status]
    cases (worker.view serverId).pending <;> rfl

/-- A transaction keeps its update unless the commit failed, and reports any error. -/
theorem mutateAppSettings_ok {α : Type} (outcome : WriteOutcome) (settings : Settings)
    (result : α) (update : Settings → Except RotationError (Settings × α))
    (updated : update worker.settings = .ok (settings, result))
    : mutateAppSettings worker outcome update
      = (if outcome = .done then .ok result else .error .storage,
          if outcome = .failed then worker else { worker with settings }) := by
  cases outcome <;> simp [mutateAppSettings, updated]

theorem view_beginRotation (now : Time) (database file : WriteOutcome)
    (credential : Credential) (serverId_ne : serverId ≠ "") (credential_ne : credential ≠ "")
    : (worker.view serverId).beginRotation now database file
        (credentialDigest serverId credential)
      = Prod.map id (fun begun => begun.view serverId)
          (beginEventBridgeCredentialRotationIfServerExists now database file serverId
            credential worker) := by
  unfold beginEventBridgeCredentialRotationIfServerExists View.beginRotation
  simp only [serverId_ne, credential_ne, or_self, if_false]
  by_cases configured : worker.settings.serverIsConfigured serverId = true
  · have viewConfigured : (worker.view serverId).configured = true := configured
    simp only [mutateAppSettings, prepareRotationSettings, configured, view_baseDigests,
      viewConfigured]
    cases found : (worker.view serverId).baseDigests (credentialDigest serverId credential) with
    | error error => simp
    | ok base =>
        obtain ⟨current, prior, discarded⟩ := base
        cases database with
        | failed => simp [View.commit]
        | replyLost => simp [View.commit, view_stage]
        | done =>
            simp [view_markActive, view_forgetLoadedJournal, view_forgetDiscarded, view_stage,
              view_loadedJournal]
  · have viewConfigured : (worker.view serverId).configured = false := by
      simpa [Worker.view] using configured
    cases database <;>
      simp [mutateAppSettings, prepareRotationSettings, configured, viewConfigured,
        Worker.forgetDiscarded]

theorem view_afterPromotion (file : WriteOutcome) (alone : Bool) (digest : Digest)
    : (worker.afterPromotion file serverId digest worker.journal.readable alone).view serverId
      = (worker.view serverId).afterPromotion file alone digest := by
  have cleaned
      : ((worker.finishActive serverId digest).forgetRejected serverId digest).view serverId
        = ((worker.view serverId).finishActive digest).forgetMemory digest := by
    rw [view_forgetRejected, view_finishActive]
  have readableEq : (worker.view serverId).readable = worker.journal.readable := rfl
  unfold Worker.afterPromotion View.afterPromotion
  by_cases readable : worker.journal.readable = true
  · simp [readable, readableEq, view_forgetJournal, cleaned]
  · cases alone
    · simp [readable, readableEq, cleaned]
    · by_cases failed : file = .failed <;>
        simp [readable, readableEq, view_removeJournal, cleaned, failed]

theorem view_promoted (now : Time) (digest : Digest)
    : ({ worker with
          settings :=
            worker.settings.withEntries
              (worker.settings.entries.set serverId (currentRecord digest now)) }
        : Worker).view serverId
      = (worker.view serverId).dropPending (some digest) := by
  simp [view_withEntries, View.dropPending]

/-- The promotion updater in terms of the view: it keeps the settings of a finished
promotion, promotes an accepted pending digest and otherwise changes nothing.
-/
theorem promoteSettings_eq (now : Time) (digest : Digest)
    : ∃ alone,
        promoteSettings now worker.rotation worker.settings serverId digest
          worker.journal.loadRejectionJournal
        = if (worker.view serverId).configured = false then
            (worker.settings, ⟨false, false⟩)
          else if (worker.view serverId).current = some digest
              ∧ (worker.view serverId).pending = none then
            (worker.settings, ⟨true, alone⟩)
          else if (worker.view serverId).acceptedPending = some digest then
            (worker.settings.withEntries
                (worker.settings.entries.set serverId (currentRecord digest now)),
              ⟨true, alone⟩)
          else (worker.settings, ⟨false, false⟩) := by
  have digests
      : recordDigests (worker.settings.record? serverId)
        = ((worker.view serverId).current, (worker.view serverId).pending) := rfl
  have configuredEq
      : (worker.view serverId).configured
        = worker.settings.serverIsConfigured serverId := rfl
  by_cases configured : worker.settings.serverIsConfigured serverId = true
  · by_cases finished : (worker.view serverId).current = some digest
        ∧ (worker.view serverId).pending = none
    · exact ⟨noPendingGenerationsRemain worker.settings.entries,
        by simp [promoteSettings, configured, configuredEq, digests, finished]⟩
    · refine ⟨noPendingGenerationsRemain
        (worker.settings.entries.set serverId (currentRecord digest now)), ?_⟩
      simp only [promoteSettings, configured, configuredEq, digests, finished,
        view_pendingRejectionStatus]
      unfold View.acceptedPending
      rcases (worker.view serverId).rejectionStatus_cases with status | status | status <;>
        simp [status]
  · exact ⟨false, by simp [promoteSettings, configured, configuredEq]⟩

theorem view_promote (now : Time) (database file : WriteOutcome) (credential : Credential)
    (serverId_ne : serverId ≠ "") (credential_ne : credential ≠ "")
    : ∃ alone,
        (promoteEventBridgeCredentialIfPending now database file serverId credential
            worker).2.view serverId
        = (worker.view serverId).promote database file alone
            (credentialDigest serverId credential) := by
  obtain ⟨alone, updated⟩ :=
    promoteSettings_eq worker serverId now (credentialDigest serverId credential)
  refine ⟨alone, ?_⟩
  unfold promoteEventBridgeCredentialIfPending View.promote
  simp only [serverId_ne, credential_ne, or_self, if_false, mutateAppSettings]
  by_cases configured : (worker.view serverId).configured = false
  · simp only [configured, if_true] at updated ⊢
    cases database <;> simp [updated]
  · by_cases finished : (worker.view serverId).current
          = some (credentialDigest serverId credential)
        ∧ (worker.view serverId).pending = none
    · simp only [configured, finished] at updated
      cases database with
      | done =>
          simpa [configured, finished, updated] using
            view_afterPromotion worker serverId file alone _
      | failed | replyLost => simp [configured, finished, updated]
    · simp only [configured, finished] at updated
      by_cases accepted : (worker.view serverId).acceptedPending
          = some (credentialDigest serverId credential)
      · simp only [accepted] at updated
        cases database with
        | done =>
            have cleaned := view_afterPromotion
              { worker with
                settings :=
                  worker.settings.withEntries
                    (worker.settings.entries.set serverId
                      (currentRecord (credentialDigest serverId credential) now)) }
              serverId file alone (credentialDigest serverId credential)
            rw [view_promoted] at cleaned
            simpa [configured, finished, accepted, updated] using cleaned
        | failed => simp [configured, finished, accepted, View.commit]
        | replyLost =>
            simp [configured, finished, accepted, updated, View.commit, view_promoted]
      · simp only [accepted] at updated
        cases database <;> simp [configured, finished, accepted, updated]

theorem view_cancel (now : Time) (database file : WriteOutcome) (credential : Credential)
    (serverId_ne : serverId ≠ "") (credential_ne : credential ≠ "")
    : (cancelEventBridgeCredentialRotation now database file serverId credential
          worker).2.view serverId
      = (worker.view serverId).cancel database file
          (credentialDigest serverId credential) := by
  have digests
      : recordDigests (worker.settings.record? serverId)
        = ((worker.view serverId).current, (worker.view serverId).pending) := rfl
  unfold cancelEventBridgeCredentialRotation View.cancel
  simp only [serverId_ne, credential_ne, or_self, if_false, mutateAppSettings]
  by_cases matching : (worker.view serverId).pending
      = some (credentialDigest serverId credential)
  · have present : worker.settings.credentials.isNone = false := by
      cases absent : worker.settings.credentials with
      | none =>
          simp [Worker.view, Settings.record?, Settings.entries, absent] at matching
      | some _ => rfl
    simp only [cancelSettings, present, digests, matching]
    cases database with
    | done =>
        simp [view_forgetJournal, view_forgetRejected, view_finishActive,
          view_withoutPending]
    | failed => simp [View.commit]
    | replyLost => simp [View.commit, view_withoutPending]
  · have unchanged
        : cancelSettings now worker.settings serverId (credentialDigest serverId credential)
          = (worker.settings, false) := by
      unfold cancelSettings
      split
      · rfl
      · simp [digests, matching]
    simp only [unchanged, matching]
    cases database <;> simp [view_forgetJournal]

theorem view_noteRejected (outcome : WriteOutcome) (digest : Digest)
    : ({ worker with
          rotation := worker.rotation.rememberRejected serverId digest
          journal := (worker.journal.rememberRejectedDigest outcome serverId digest).2 }
        : Worker).view serverId
      = { (worker.view serverId).writeJournal outcome digest with memory := some digest } := by
  by_cases readable : worker.journal.readable = true
  · cases outcome <;>
      simp [RejectionJournal.rememberRejectedDigest, View.writeJournal, Worker.view, readable]
  · simp [RejectionJournal.rememberRejectedDigest, View.writeJournal, Worker.view, readable]

theorem journalWritten_iff (outcome : WriteOutcome) (digest : Digest)
    : (worker.journal.rememberRejectedDigest outcome serverId digest).1 = true
      ↔ (worker.view serverId).readable = true ∧ outcome = .done := by
  by_cases readable : worker.journal.readable = true
  · cases outcome <;>
      simp [RejectionJournal.rememberRejectedDigest, Worker.view, readable]
  · simp [RejectionJournal.rememberRejectedDigest, Worker.view, readable]

theorem view_markRejected (digest : Digest)
    : let marked := markRejectedRotationInSettings worker.settings serverId digest
      ({ worker with settings := marked.1 } : Worker).view serverId
        = (if (worker.view serverId).pending = some digest then
            { worker.view serverId with flagged := true }
          else worker.view serverId)
      ∧ (marked.2 = true ↔ (worker.view serverId).pending = some digest) := by
  unfold markRejectedRotationInSettings
  cases found : worker.settings.record? serverId with
  | none =>
      have nothing : (worker.view serverId).pending = none := by simp [Worker.view, found]
      simp [nothing]
  | some record =>
      have pendingEq
          : (worker.view serverId).pending = (recordDigests (some record)).2 := by
        simp [Worker.view, found]
      by_cases matching : (recordDigests (some record)).2 = some digest
      · have marked := view_withEntries worker serverId
          (worker.settings.entries.set serverId
            { record with pendingOutcome := some .rejected })
        rw [Dict.get?_set_self] at marked
        simp only [matching, pendingEq, ne_eq, not_true_eq_false, if_false, if_true]
        refine ⟨?_, by simp⟩
        rw [marked]
        simpa [Worker.view, found, recordDigests, pendingWasRejected] using matching
      · simp [matching, pendingEq]

theorem view_recordRejection (journalWritten : Bool) (database file : WriteOutcome)
    (digest : Digest)
    : (match
          mutateAppSettings worker database (fun settings =>
            .ok (markRejectedRotationInSettings settings serverId digest))
        with
        | (.error error, worker) => ((.error error : Except RotationError Bool), worker)
        | (.ok remembered, worker) =>
            if !journalWritten then (.error .storage, worker)
            else if !remembered then
              (.ok false,
                (worker.forgetRejected serverId digest).forgetJournal file serverId digest)
            else (.ok true, worker)).2.view serverId
      = if (worker.view serverId).pending = some digest then
          (worker.view serverId).commit database { worker.view serverId with flagged := true }
        else if database = .done ∧ journalWritten = true then
          ((worker.view serverId).forgetMemory digest).forgetJournal file digest
        else worker.view serverId := by
  obtain ⟨markedView, remembered⟩ := view_markRejected worker serverId digest
  rw [mutateAppSettings_ok worker database
    (markRejectedRotationInSettings worker.settings serverId digest).1
    (markRejectedRotationInSettings worker.settings serverId digest).2 _ rfl]
  by_cases pending : (worker.view serverId).pending = some digest
  · rw [if_pos pending] at markedView
    have found := remembered.mpr pending
    cases database <;> cases journalWritten <;> simp [View.commit, markedView, pending, found]
  · rw [if_neg pending] at markedView
    have missing := Bool.eq_false_iff.mpr (fun found => pending (remembered.mp found))
    cases database <;> cases journalWritten <;>
      simp [markedView, pending, missing, view_forgetJournal, view_forgetRejected]

theorem view_rememberRejected (journalWrite database file : WriteOutcome)
    (credential : Credential) (serverId_ne : serverId ≠ "") (credential_ne : credential ≠ "")
    : (rememberRejectedEventBridgeCredentialRotation journalWrite database file serverId
          credential worker).2.view serverId
      = (worker.view serverId).rememberRejected journalWrite database file
          (credentialDigest serverId credential) := by
  have written := journalWritten_iff worker serverId journalWrite
    (credentialDigest serverId credential)
  have noted := view_noteRejected worker serverId journalWrite
    (credentialDigest serverId credential)
  have recorded := view_recordRejection
    { worker with
      rotation :=
        worker.rotation.rememberRejected serverId (credentialDigest serverId credential)
      journal :=
        (worker.journal.rememberRejectedDigest journalWrite serverId
          (credentialDigest serverId credential)).2 }
    serverId
    (worker.journal.rememberRejectedDigest journalWrite serverId
      (credentialDigest serverId credential)).1
    database file (credentialDigest serverId credential)
  rw [noted] at recorded
  unfold rememberRejectedEventBridgeCredentialRotation View.rememberRejected
  simp only [serverId_ne, credential_ne, or_self, if_false]
  refine recorded.trans ?_
  simp only [View.writeJournal_pending, written]

theorem view_reconcileRejected (now : Time) (database file : WriteOutcome)
    (serverId_ne : serverId ≠ "")
    : (reconcileRejectedEventBridgeCredentialRotation now database file serverId
          worker).2.view serverId
      = (worker.view serverId).reconcileRejected database file := by
  have digests
      : recordDigests (worker.settings.record? serverId)
        = ((worker.view serverId).current, (worker.view serverId).pending) := rfl
  have memoryEq
      : worker.rotation.rejectedDigest serverId = (worker.view serverId).memory := rfl
  unfold reconcileRejectedEventBridgeCredentialRotation View.reconcileRejected
  simp only [serverId_ne, if_false, mutateAppSettings, view_loadedJournal, memoryEq]
  cases pendingFound : (worker.view serverId).pending with
  | none =>
      have unchanged
          : reconcileRejectedSettings now worker.rotation worker.settings serverId
              worker.journal.loadRejectionJournal
              ((worker.view serverId).memory.or (worker.view serverId).loadedJournal)
            = (worker.settings,
              ((worker.view serverId).memory.or (worker.view serverId).loadedJournal).isSome,
              (worker.view serverId).memory.or (worker.view serverId).loadedJournal) := by
        unfold reconcileRejectedSettings
        split
        · rfl
        · simp [digests, pendingFound]
      simp only [unchanged]
      cases (worker.view serverId).memory.or (worker.view serverId).loadedJournal with
      | none => cases database <;> simp
      | some known =>
          cases database <;> simp [view_forgetJournal, view_forgetRejected]
  | some pending =>
      have present : worker.settings.credentials.isNone = false := by
        cases absent : worker.settings.credentials with
        | none =>
            simp [Worker.view, Settings.record?, Settings.entries, absent] at pendingFound
        | some _ => rfl
      simp only [reconcileRejectedSettings, present, digests, pendingFound,
        view_pendingRejectionStatus]
      rcases (worker.view serverId).rejectionStatus_cases with status | status | status
      · cases database <;> simp [status]
      · simp only [status]
        cases database with
        | done => simp [view_forgetJournal, view_forgetRejected, view_withoutPending]
        | failed => simp [View.commit]
        | replyLost => simp [View.commit, view_withoutPending]
      · cases database <;> simp [status]

theorem view_reconcileCurrent (now : Time) (database : WriteOutcome)
    (current pending : Digest)
    : (reconcilePendingAfterCurrentAuthentication now database serverId current pending
          worker).2.view serverId
      = (worker.view serverId).reconcileCurrent now database current pending := by
  have digests
      : recordDigests (worker.settings.record? serverId)
        = ((worker.view serverId).current, (worker.view serverId).pending) := rfl
  have activeEq
      : worker.rotation.isActive serverId pending = true
        ↔ (worker.view serverId).active = some pending := by simp [Worker.view]
  have startedEq
      : (worker.settings.record? serverId).bind CredentialRecord.pendingStartedAt
        = (worker.view serverId).startedAt := rfl
  unfold reconcilePendingAfterCurrentAuthentication View.reconcileCurrent
  by_cases active : (worker.view serverId).active = some pending
  · simp [activeEq.mpr active, active]
  · have inactive : worker.rotation.isActive serverId pending = false :=
      Bool.eq_false_iff.mpr (fun found => active (activeEq.mp found))
    by_cases discards : (worker.view serverId).current = some current
        ∧ (worker.view serverId).pending = some pending
        ∧ RotationState.pendingReconciliationGraceElapsed now
          (worker.view serverId).startedAt = true
    · have present : worker.settings.credentials.isNone = false := by
        cases absent : worker.settings.credentials with
        | none =>
            simp [Worker.view, Settings.record?, Settings.entries, absent] at discards
        | some _ => rfl
      cases database <;>
        simp [mutateAppSettings, reconcilePendingSettings, inactive, active, present, digests,
          startedEq, discards, View.commit, view_withoutPending]
    · have unchanged
          : reconcilePendingSettings now worker.rotation worker.settings serverId current
              pending
            = (worker.settings, false) := by
        simp [reconcilePendingSettings, inactive, digests, startedEq, discards]
      cases database <;> simp [mutateAppSettings, unchanged, inactive, discards]

theorem view_finishAttempt (credential : Credential) (serverId_ne : serverId ≠ "")
    (credential_ne : credential ≠ "")
    : (finishEventBridgeCredentialRotationAttempt serverId credential worker).view serverId
      = (worker.view serverId).finishActive (credentialDigest serverId credential) := by
  simp [finishEventBridgeCredentialRotationAttempt, serverId_ne, credential_ne,
    view_finishActive]

end Projection

end OctoHubs.EventBridge
