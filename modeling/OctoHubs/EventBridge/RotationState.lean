import OctoHubs.Library.Dict

/-! Process memory and rejection journal of the Event Bridge credential rotation.
Both map a server to at most one digest; the memory dies with the process and the
journal survives it, but may be unreadable.
-/

namespace OctoHubs.EventBridge

open OctoHubs.Library

abbrev ServerId := String
abbrev Credential := String

/-- Seconds since the epoch. -/
abbrev Time := Nat

/-- The stored hash of a credential of one server. The hash is symbolic, so different
credentials have different digests.
-/
structure Digest where
  serverId : ServerId
  credential : Credential
deriving DecidableEq, Repr

def credentialDigest (serverId : ServerId) (credential : Credential) : Digest :=
  ⟨serverId, credential⟩

theorem credentialDigest_inj {serverId : ServerId} {left right : Credential}
    (same : credentialDigest serverId left = credentialDigest serverId right)
    : left = right := by
  simpa [credentialDigest] using same

/-- How a write to the database or to the journal file ends. `replyLost` keeps the write
but reports an error, as a broken connection after the commit does.
-/
inductive WriteOutcome
  | done
  | failed
  | replyLost
deriving DecidableEq, Repr

/-- The two process-local digest maps. -/
structure RotationState where
  activeDigests : Dict ServerId Digest
  rejectedDigests : Dict ServerId Digest
deriving DecidableEq

namespace RotationState

/-- Memory right after a process start. -/
def initial : RotationState := ⟨∅, ∅⟩

def markActive (state : RotationState) (serverId : ServerId) (pendingDigest : Digest)
    : RotationState :=
  { state with activeDigests := state.activeDigests.set serverId pendingDigest }

def isActive (state : RotationState) (serverId : ServerId) (pendingDigest : Digest)
    : Bool :=
  state.activeDigests.get? serverId == some pendingDigest

def finishActive (state : RotationState) (serverId : ServerId) (pendingDigest : Digest)
    : RotationState :=
  if state.isActive serverId pendingDigest then
    { state with activeDigests := state.activeDigests.erase serverId }
  else state

def rememberRejected (state : RotationState) (serverId : ServerId)
    (rejectedDigest : Digest)
    : RotationState :=
  { state with rejectedDigests := state.rejectedDigests.set serverId rejectedDigest }

def rejectedDigest (state : RotationState) (serverId : ServerId) : Option Digest :=
  state.rejectedDigests.get? serverId

def forgetRejected (state : RotationState) (serverId : ServerId) (pendingDigest : Digest)
    : RotationState :=
  if state.rejectedDigest serverId = some pendingDigest then
    { state with rejectedDigests := state.rejectedDigests.erase serverId }
  else state

/-- Five minutes: a pending digest is never dropped earlier. -/
def pendingReconciliationGrace : Time := 5 * 60

def pendingReconciliationGraceElapsed (now : Time) (startedAt : Option Time) : Bool :=
  match startedAt with
  | none => false
  | some startedAt => startedAt + pendingReconciliationGrace ≤ now

@[simp] theorem isActive_iff (state : RotationState) (serverId : ServerId) (digest : Digest)
    : state.isActive serverId digest = true
      ↔ state.activeDigests.get? serverId = some digest := by
  simp [isActive]

@[simp] theorem markActive_rejectedDigest (state : RotationState) (serverId : ServerId)
    (digest : Digest)
    : (state.markActive serverId digest).rejectedDigest = state.rejectedDigest := rfl

@[simp] theorem rememberRejected_rejectedDigest (state : RotationState)
    (serverId : ServerId) (digest : Digest)
    : (state.rememberRejected serverId digest).rejectedDigest serverId = some digest := by
  simp [rememberRejected, rejectedDigest]

@[simp] theorem rememberRejected_active (state : RotationState) (serverId : ServerId)
    (digest : Digest)
    : (state.rememberRejected serverId digest).activeDigests = state.activeDigests := rfl

@[simp] theorem initial_active (serverId : ServerId)
    : initial.activeDigests.get? serverId = none := rfl

@[simp] theorem initial_rejectedDigest (serverId : ServerId)
    : initial.rejectedDigest serverId = none := rfl

end RotationState

/-- The journal file: the digests it stores and whether it can be read right now. -/
structure RejectionJournal where
  rejections : Dict ServerId Digest
  readable : Bool
deriving DecidableEq

/-- One validated journal read, including whether it was trustworthy. -/
structure RejectionJournalSnapshot where
  rejections : Dict ServerId Digest
  available : Bool
deriving DecidableEq

namespace RejectionJournal

def loadRejectionJournal (journal : RejectionJournal) : RejectionJournalSnapshot :=
  if journal.readable then ⟨journal.rejections, true⟩ else ⟨∅, false⟩

/-- Store a digest; the flag tells whether the call returned without an error. -/
def rememberRejectedDigest (journal : RejectionJournal) (outcome : WriteOutcome)
    (serverId : ServerId) (digest : Digest)
    : Bool × RejectionJournal :=
  let written := { journal with rejections := journal.rejections.set serverId digest }
  if !journal.readable then (false, journal)
  else
    match outcome with
    | .done => (true, written)
    | .failed => (false, journal)
    | .replyLost => (false, written)

/-- Drop the digest of a server, only when it is the expected one; errors are swallowed. -/
def forgetRejectedDigestSafely (journal : RejectionJournal) (outcome : WriteOutcome)
    (serverId : ServerId) (digest : Digest)
    : RejectionJournal :=
  if journal.readable && journal.rejections.get? serverId == some digest then
    match outcome with
    | .failed => journal
    | .done | .replyLost =>
        { journal with rejections := journal.rejections.erase serverId }
  else journal

/-- Unlink the file; a missing file reads as an empty journal. -/
def removeUnreadableJournalSafely (journal : RejectionJournal) (outcome : WriteOutcome)
    : RejectionJournal :=
  match outcome with
  | .failed => journal
  | .done | .replyLost => ⟨∅, true⟩

@[simp] theorem loadRejectionJournal_available (journal : RejectionJournal)
    : journal.loadRejectionJournal.available = journal.readable := by
  unfold loadRejectionJournal
  split <;> simp_all

theorem loadRejectionJournal_rejections (journal : RejectionJournal)
    (readable : journal.readable = true)
    : journal.loadRejectionJournal.rejections = journal.rejections := by
  simp [loadRejectionJournal, readable]

end RejectionJournal

end OctoHubs.EventBridge
