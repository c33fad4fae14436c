import OctoHubs.EventBridge.RotationState

/-! Hashed per-server credentials for the Event Bridge: the stored records and the
operations that stage, promote, cancel and reconcile a credential rotation.
An empty digest string of the source is `none` here, and ids are already stripped.
-/

namespace OctoHubs.EventBridge

open OctoHubs.Library

inductive PendingOutcome
  | rejected
deriving DecidableEq, Repr

/-- One server's entry of the credential section. -/
structure CredentialRecord where
  version : String
  digest : Option Digest
  updatedAt : Option Time
  pendingDigest : Option Digest
  pendingStartedAt : Option Time
  pendingOutcome : Option PendingOutcome
deriving DecidableEq, Repr

/-- The parts of the settings document this component reads: the ids of the configured
servers and the credential section, absent when it is not a mapping.
-/
structure Settings where
  servers : List ServerId
  credentials : Option (Dict ServerId CredentialRecord)
deriving DecidableEq

def digestVersion : String := "v1"

/-- The state of one worker: shared settings, its process memory and its journal file. -/
structure Worker where
  settings : Settings
  rotation : RotationState
  journal : RejectionJournal
deriving DecidableEq

inductive RotationError
  | invalidCredential
  | rotationPending (message : String)
  | storage
deriving DecidableEq, Repr

def stateUnavailableMessage : String :=
  "Lo stato della rotazione Event Bridge non è disponibile; riprova"

def stillReconcilingMessage : String :=
  "Una rotazione Event Bridge precedente è ancora in riconciliazione"

namespace Settings

def serverIsConfigured (settings : Settings) (serverId : ServerId) : Bool :=
  settings.servers.contains serverId

/-- The credential section as the updaters copy it. -/
def entries (settings : Settings) : Dict ServerId CredentialRecord :=
  settings.credentials.getD ∅

def record? (settings : Settings) (serverId : ServerId) : Option CredentialRecord :=
  settings.entries.get? serverId

def withEntries (settings : Settings) (entries : Dict ServerId CredentialRecord)
    : Settings :=
  { settings with credentials := some entries }

end Settings

/-- Two worker states that look the same to one server's rotation. -/
def sameServerSlice (serverId : ServerId) (left right : Worker) : Prop :=
  left.settings.record? serverId = right.settings.record? serverId
  ∧ left.settings.serverIsConfigured serverId = right.settings.serverIsConfigured serverId
  ∧ left.rotation.activeDigests.get? serverId = right.rotation.activeDigests.get? serverId
  ∧ left.rotation.rejectedDigest serverId = right.rotation.rejectedDigest serverId
  ∧ left.journal.rejections.get? serverId = right.journal.rejections.get? serverId
  ∧ left.journal.readable = right.journal.readable

instance (serverId : ServerId) (left right : Worker)
    : Decidable (sameServerSlice serverId left right) := by
  unfold sameServerSlice
  infer_instance

/-- The current and the pending digest of a record. -/
def recordDigests (record : Option CredentialRecord) : Option Digest × Option Digest :=
  match record with
  | none => (none, none)
  | some record =>
      if record.version = digestVersion then (record.digest, record.pendingDigest)
      else (none, none)

def pendingWasRejected (record : Option CredentialRecord) : Bool :=
  match record with
  | none => false
  | some record => record.pendingOutcome == some .rejected

/-- Whether the pending digest is known to be rejected, and whether that is decidable. -/
def pendingRejectionStatus (rotation : RotationState) (record : Option CredentialRecord)
    (serverId : ServerId) (journal : RejectionJournalSnapshot)
    : Bool × Bool :=
  match (recordDigests record).2 with
  | none => (false, journal.available)
  | some pending =>
      if pendingWasRejected record then (true, true)
      else if rotation.rejectedDigest serverId == some pending then (true, true)
      else if !journal.available then
        if rotation.isActive serverId pending then (false, true) else (false, false)
      else (journal.rejections.get? serverId == some pending, true)

/-- The digests a presented credential may match. -/
def recordAuthenticationDigests (rotation : RotationState)
    (record : Option CredentialRecord) (serverId : ServerId)
    (journal : RejectionJournalSnapshot)
    : Option Digest × Option Digest :=
  let (current, pending) := recordDigests record
  let (pendingWasRejected, rejectionStateAvailable) :=
    pendingRejectionStatus rotation record serverId journal
  if pendingWasRejected || !rejectionStateAvailable then (current, none)
  else (current, pending)

/-- Run an updater in one transaction: its error rolls back, and so does a failed commit.
-/
def mutateAppSettings {α : Type} (worker : Worker) (outcome : WriteOutcome)
    (update : Settings → Except RotationError (Settings × α))
    : Except RotationError α × Worker :=
  match update worker.settings with
  | .error error => (.error error, worker)
  | .ok (settings, result) =>
      match outcome with
      | .done => (.ok result, { worker with settings })
      | .failed => (.error .storage, worker)
      | .replyLost => (.error .storage, { worker with settings })

def Worker.forgetRejected (worker : Worker) (serverId : ServerId) (digest : Digest)
    : Worker :=
  { worker with rotation := worker.rotation.forgetRejected serverId digest }

def Worker.finishActive (worker : Worker) (serverId : ServerId) (digest : Digest)
    : Worker :=
  { worker with rotation := worker.rotation.finishActive serverId digest }

def Worker.forgetJournal (worker : Worker) (outcome : WriteOutcome) (serverId : ServerId)
    (digest : Digest)
    : Worker :=
  { worker with
    journal := worker.journal.forgetRejectedDigestSafely outcome serverId digest }

def Worker.markActive (worker : Worker) (serverId : ServerId) (digest : Digest) : Worker :=
  { worker with rotation := worker.rotation.markActive serverId digest }

def Worker.forgetDiscarded (worker : Worker) (serverId : ServerId)
    : Option Digest → Worker
  | none => worker
  | some discarded => worker.forgetRejected serverId discarded

def Worker.forgetLoadedJournal (worker : Worker) (outcome : WriteOutcome)
    (serverId : ServerId)
    : Option Digest → Worker
  | none => worker
  | some loaded => worker.forgetJournal outcome serverId loaded

structure RotationPreparationResult where
  prepared : Bool
  discardedRejectedDigest : Option Digest

/-- The current digest, the kept pending digest and the discarded rejected digest a new
rotation starts from.
-/
def rotationBaseDigests (rotation : RotationState) (existing : Option CredentialRecord)
    (serverId : ServerId) (requestedDigest : Digest) (journal : RejectionJournalSnapshot)
    : Except RotationError (Option Digest × Option Digest × Option Digest) :=
  let (current, pending) := recordDigests existing
  let (pendingWasRejected, rejectionStateAvailable) :=
    pendingRejectionStatus rotation existing serverId journal
  if pendingWasRejected then .ok (current, none, pending)
  else
    match pending with
    | none => .ok (current, none, none)
    | some pendingDigest =>
        if !rejectionStateAvailable then .error (.rotationPending stateUnavailableMessage)
        else if pendingDigest ≠ requestedDigest then
          if current.isSome || rotation.isActive serverId pendingDigest then
            .error (.rotationPending stillReconcilingMessage)
          -- An interrupted first provisioning: its digest becomes the current one.
          else .ok (pending, none, none)
        else .ok (current, pending, none)

def pendingRotationRecord (now : Time) (existing : Option CredentialRecord)
    (current priorPending : Option Digest) (requestedDigest : Digest)
    : CredentialRecord where
  version := digestVersion
  digest := current
  updatedAt :=
    if current.isSome then some ((existing.bind CredentialRecord.updatedAt).getD now)
    else none
  pendingDigest := some requestedDigest
  pendingStartedAt :=
    if priorPending.isSome then
      some ((existing.bind CredentialRecord.pendingStartedAt).getD now)
    else some now
  pendingOutcome := none

def prepareRotationSettings (now : Time) (rotation : RotationState) (settings : Settings)
    (serverId : ServerId) (pendingDigest : Digest) (journal : RejectionJournalSnapshot)
    : Except RotationError (Settings × RotationPreparationResult) :=
  if !settings.serverIsConfigured serverId then .ok (settings, ⟨false, none⟩)
  else
    let existing := settings.record? serverId
    match rotationBaseDigests rotation existing serverId pendingDigest journal with
    | .error error => .error error
    | .ok (current, pending, discarded) =>
        let record := pendingRotationRecord now existing current pending pendingDigest
        .ok (settings.withEntries (settings.entries.set serverId record), ⟨true, discarded⟩)

/-- Durably admit one pending generation before the remote plugin changes. -/
def beginEventBridgeCredentialRotationIfServerExists (now : Time)
    (database file : WriteOutcome) (serverId : ServerId) (credential : Credential)
    (worker : Worker)
    : Except RotationError Bool × Worker :=
  if serverId = "" ∨ credential = "" then (.error .invalidCredential, worker)
  else
    let pendingDigest := credentialDigest serverId credential
    let journal := worker.journal.loadRejectionJournal
    let journalDigest := journal.rejections.get? serverId
    match
      mutateAppSettings worker database (fun settings =>
        prepareRotationSettings now worker.rotation settings serverId pendingDigest journal)
    with
    | (.error error, worker) => (.error error, worker)
    | (.ok result, worker) =>
        let worker := worker.forgetDiscarded serverId result.discardedRejectedDigest
        if result.prepared then
          (.ok true,
            (worker.forgetLoadedJournal file serverId journalDigest).markActive serverId
              pendingDigest)
        else (.ok false, worker)

def currentRecord (digest : Digest) (updatedAt : Time) : CredentialRecord where
  version := digestVersion
  digest := some digest
  updatedAt := some updatedAt
  pendingDigest := none
  pendingStartedAt := none
  pendingOutcome := none

structure PromotionResult where
  promoted : Bool
  noPendingGenerationsRemain : Bool

def noPendingGenerationsRemain (entries : Dict ServerId CredentialRecord) : Bool :=
  !entries.values.any (fun record => (recordDigests (some record)).2.isSome)

def promoteSettings (now : Time) (rotation : RotationState) (settings : Settings)
    (serverId : ServerId) (expectedDigest : Digest) (journal : RejectionJournalSnapshot)
    : Settings × PromotionResult :=
  if !settings.serverIsConfigured serverId then (settings, ⟨false, false⟩)
  else
    let existing := settings.record? serverId
    let (current, pending) := recordDigests existing
    if current = some expectedDigest ∧ pending = none then
      (settings, ⟨true, noPendingGenerationsRemain settings.entries⟩)
    else
      let (pendingWasRejected, rejectionStateAvailable) :=
        pendingRejectionStatus rotation existing serverId journal
      if pendingWasRejected || !rejectionStateAvailable then (settings, ⟨false, false⟩)
      else if pending ≠ some expectedDigest then (settings, ⟨false, false⟩)
      else
        let entries := settings.entries.set serverId (currentRecord expectedDigest now)
        (settings.withEntries entries, ⟨true, noPendingGenerationsRemain entries⟩)

/-- The memory and journal cleanup after a committed promotion. -/
def Worker.afterPromotion (worker : Worker) (file : WriteOutcome) (serverId : ServerId)
    (promoted : Digest) (journalAvailable noPendingGenerationsRemain : Bool)
    : Worker :=
  let worker := (worker.finishActive serverId promoted).forgetRejected serverId promoted
  if journalAvailable then worker.forgetJournal file serverId promoted
  -- No stored generation is pending, so the unreadable entries are all stale.
  else if noPendingGenerationsRemain then
    { worker with journal := worker.journal.removeUnreadableJournalSafely file }
  else worker

/-- Promote the matching pending generation, idempotently and in one transaction. -/
def promoteEventBridgeCredentialIfPending (now : Time) (database file : WriteOutcome)
    (serverId : ServerId) (credential : Credential) (worker : Worker)
    : Except RotationError Bool × Worker :=
  if serverId = "" ∨ credential = "" then (.error .invalidCredential, worker)
  else
    let expectedDigest := credentialDigest serverId credential
    let journal := worker.journal.loadRejectionJournal
    match
      mutateAppSettings worker database (fun settings =>
        .ok (promoteSettings now worker.rotation settings serverId expectedDigest journal))
    with
    | (.error error, worker) => (.error error, worker)
    | (.ok result, worker) =>
        if result.promoted then
          (.ok true,
            worker.afterPromotion file serverId expectedDigest journal.available
              result.noPendingGenerationsRemain)
        else (.ok false, worker)

/-- Drop the pending part of a record, and the whole entry when nothing else is left. -/
def withoutPending (now : Time) (settings : Settings) (serverId : ServerId)
    (existing : Option CredentialRecord) (current : Option Digest)
    : Settings :=
  match current with
  | some current =>
      settings.withEntries
        (settings.entries.set serverId
          (currentRecord current ((existing.bind CredentialRecord.updatedAt).getD now)))
  | none => settings.withEntries (settings.entries.erase serverId)

def cancelSettings (now : Time) (settings : Settings) (serverId : ServerId)
    (expectedDigest : Digest)
    : Settings × Bool :=
  if settings.credentials.isNone then (settings, false)
  else
    let existing := settings.record? serverId
    let (current, pending) := recordDigests existing
    if pending ≠ some expectedDigest then (settings, false)
    else (withoutPending now settings serverId existing current, true)

/-- Remove only the matching pending generation after a rejected remote push. -/
def cancelEventBridgeCredentialRotation (now : Time) (database file : WriteOutcome)
    (serverId : ServerId) (credential : Credential) (worker : Worker)
    : Except RotationError Bool × Worker :=
  if serverId = "" ∨ credential = "" then (.ok false, worker)
  else
    let expectedDigest := credentialDigest serverId credential
    match
      mutateAppSettings worker database (fun settings =>
        .ok (cancelSettings now settings serverId expectedDigest))
    with
    | (.error error, worker) => (.error error, worker)
    | (.ok cancelled, worker) =>
        let worker :=
          if cancelled then
            (worker.finishActive serverId expectedDigest).forgetRejected serverId expectedDigest
          else worker
        (.ok cancelled, worker.forgetJournal file serverId expectedDigest)

def markRejectedRotationInSettings (settings : Settings) (serverId : ServerId)
    (rejectedDigest : Digest)
    : Settings × Bool :=
  match settings.record? serverId with
  | none => (settings, false)
  | some record =>
      if (recordDigests (some record)).2 ≠ some rejectedDigest then (settings, false)
      else
        let record := { record with pendingOutcome := some .rejected }
        (settings.withEntries (settings.entries.set serverId record), true)

/-- Persist a definite remote rejection in memory, in the journal and in the database; the
two durable writes are tried independently.
-/
def rememberRejectedEventBridgeCredentialRotation
    (journalWrite database file : WriteOutcome) (serverId : ServerId)
    (credential : Credential) (worker : Worker)
    : Except RotationError Bool × Worker :=
  if serverId = "" ∨ credential = "" then (.ok false, worker)
  else
    let rejectedDigest := credentialDigest serverId credential
    let (journalWritten, journal) :=
      worker.journal.rememberRejectedDigest journalWrite serverId rejectedDigest
    let worker :=
      { worker with
        rotation := worker.rotation.rememberRejected serverId rejectedDigest
        journal }
    match
      mutateAppSettings worker database (fun settings =>
        .ok (markRejectedRotationInSettings settings serverId rejectedDigest))
    with
    | (.error error, worker) => (.error error, worker)
    | (.ok remembered, worker) =>
        if !journalWritten then (.error .storage, worker)
        else if !remembered then
          (.ok false,
            (worker.forgetRejected serverId rejectedDigest).forgetJournal file serverId
              rejectedDigest)
        else (.ok true, worker)

/-- The settings after finishing a failed cancellation, and the reconciled digest. -/
def reconcileRejectedSettings (now : Time) (rotation : RotationState)
    (settings : Settings) (serverId : ServerId) (journal : RejectionJournalSnapshot)
    (knownDigest : Option Digest)
    : Settings × Bool × Option Digest :=
  if settings.credentials.isNone then (settings, knownDigest.isSome, knownDigest)
  else
    let existing := settings.record? serverId
    let (current, pending) := recordDigests existing
    let (pendingWasRejected, rejectionStateAvailable) :=
      pendingRejectionStatus rotation existing serverId journal
    match pending with
    | none => (settings, knownDigest.isSome, knownDigest)
    | some pending =>
        if !rejectionStateAvailable || !pendingWasRejected then (settings, false, none)
        else (withoutPending now settings serverId existing current, true, some pending)

/-- Finish a previously failed cancellation when the rejection was definitive. -/
def reconcileRejectedEventBridgeCredentialRotation (now : Time)
    (database file : WriteOutcome) (serverId : ServerId) (worker : Worker)
    : Except RotationError Bool × Worker :=
  if serverId = "" then (.ok false, worker)
  else
    let journal := worker.journal.loadRejectionJournal
    let journalDigest := journal.rejections.get? serverId
    let rejectedDigest := worker.rotation.rejectedDigest serverId
    match
      mutateAppSettings worker database (fun settings =>
        .ok
          (reconcileRejectedSettings now worker.rotation settings serverId journal
            (rejectedDigest.or journalDigest)))
    with
    | (.error error, worker) => (.error error, worker)
    | (.ok (reconciled, reconciledDigest), worker) =>
        match reconciled, reconciledDigest with
        | true, some digest =>
            (.ok true, (worker.forgetRejected serverId digest).forgetJournal file serverId digest)
        | reconciled, _ => (.ok reconciled, worker)

/-- Mark a local attempt finished without changing durable generations. -/
def finishEventBridgeCredentialRotationAttempt (serverId : ServerId)
    (credential : Credential) (worker : Worker)
    : Worker :=
  if serverId = "" ∨ credential = "" then worker
  else worker.finishActive serverId (credentialDigest serverId credential)

def reconcilePendingSettings (now : Time) (rotation : RotationState) (settings : Settings)
    (serverId : ServerId) (expectedCurrent expectedPending : Digest)
    : Settings × Bool :=
  if rotation.isActive serverId expectedPending then (settings, false)
  else if settings.credentials.isNone then (settings, false)
  else
    let existing := settings.record? serverId
    let (current, pending) := recordDigests existing
    if current = some expectedCurrent ∧ pending = some expectedPending
        ∧ RotationState.pendingReconciliationGraceElapsed now
          (existing.bind CredentialRecord.pendingStartedAt) = true then
      (withoutPending now settings serverId existing (some expectedCurrent), true)
    else (settings, false)

/-- Discard an abandoned pending digest only with fresh remote evidence. -/
def reconcilePendingAfterCurrentAuthentication (now : Time) (database : WriteOutcome)
    (serverId : ServerId) (expectedCurrent expectedPending : Digest) (worker : Worker)
    : Except RotationError Bool × Worker :=
  if worker.rotation.isActive serverId expectedPending then (.ok false, worker)
  else
    mutateAppSettings worker database (fun settings =>
      .ok
        (reconcilePendingSettings now worker.rotation settings serverId expectedCurrent
          expectedPending))

/-- What an accepted authentication read: the presented digest and the digests it met. -/
structure AcceptedAuthentication where
  presented : Digest
  current : Option Digest
  pending : Option Digest
deriving DecidableEq, Repr

/-- The reads of an authentication; `none` refuses the presented credential. -/
def acceptedAuthentication (worker : Worker) (serverId : ServerId)
    (credential : Credential)
    : Option AcceptedAuthentication :=
  let journal := worker.journal.loadRejectionJournal
  let (current, pending) :=
    recordAuthenticationDigests worker.rotation (worker.settings.record? serverId) serverId
      journal
  let presented := credentialDigest serverId credential
  if serverId ≠ "" ∧ credential ≠ "" ∧ worker.settings.serverIsConfigured serverId = true
      ∧ (current = some presented ∨ pending = some presented) then
    some ⟨presented, current, pending⟩
  else none

/-- The writes of an accepted authentication; their errors are logged and dropped. -/
def settleAuthentication (now : Time) (database file : WriteOutcome) (serverId : ServerId)
    (credential : Credential) (accepted : AcceptedAuthentication) (worker : Worker)
    : Worker :=
  if accepted.pending = some accepted.presented then
    (promoteEventBridgeCredentialIfPending now database file serverId credential worker).2
  else
    match accepted.current, accepted.pending with
    | some current, some pending =>
        (reconcilePendingAfterCurrentAuthentication now database serverId current pending
          worker).2
    | _, _ => worker

/-- Return the generation of a presented credential, and settle its rotation. -/
def eventBridgeCredentialGeneration (now : Time) (database file : WriteOutcome)
    (serverId : ServerId) (credential : Credential) (worker : Worker)
    : Option Digest × Worker :=
  match acceptedAuthentication worker serverId credential with
  | none => (none, worker)
  | some accepted =>
      (some accepted.presented,
        settleAuthentication now database file serverId credential accepted worker)

end OctoHubs.EventBridge
