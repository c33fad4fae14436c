import OctoHubs.EventBridge.Credentials
import OctoHubs.Library.Runs

/-! One worker that provisions the credential of one server, the Emby plugin it pushes to,
and the authentications that present a credential meanwhile.
Attempts, authentications, reconciliations, restarts and the other servers' rotations
interleave at the calls of the credential module.
-/

namespace OctoHubs.EventBridge

open OctoHubs.Library

-- What the plugin answers to a push

/-- The credential flags of an answered settings payload, absent when not sent. -/
structure PluginSettings where
  perServerCredentialSupported : Option Bool
  credentialConfigured : Option Bool
deriving DecidableEq, Repr

structure PluginResponse where
  serverId : ServerId
  ok : Option Bool
  applied : Option Bool
  settings : Option PluginSettings
deriving DecidableEq, Repr

/-- A push either fails in transport or returns a response, perhaps without a payload. -/
inductive PushReply
  | transportFailed
  | answered (response : Option PluginResponse)
deriving DecidableEq, Repr

/-- True only when the response proves that the plugin did not take the credential over. -/
def credentialWasRejected (response : PluginResponse) (serverId : ServerId) : Bool :=
  if response.serverId ≠ "" ∧ response.serverId ≠ serverId then false
  else if response.ok = some false ∨ response.applied = some false then true
  else
    match response.settings with
    | none => false
    | some settings =>
        settings.perServerCredentialSupported == some false
        || settings.credentialConfigured == some false

def credentialWasApplied (response : PluginResponse) (serverId : ServerId) : Bool :=
  if response.serverId ≠ serverId then false
  else
    match response.settings with
    | none => false
    | some settings =>
        settings.perServerCredentialSupported == some true
        && settings.credentialConfigured == some true

inductive PushOutcome
  | confirmed
  | rejected
  | ambiguous
deriving DecidableEq, Repr

/-- The branch `_push_and_finalize_credential` takes on a reply. A response that reports
`Ok` or `Applied` as false makes the push itself return not ok.
-/
def pushOutcome (serverId : ServerId) : PushReply → PushOutcome
  | .transportFailed => .ambiguous
  | .answered none => .ambiguous
  | .answered (some response) =>
      let ok := response.ok ≠ some false ∧ response.applied ≠ some false
      if ok ∧ credentialWasApplied response serverId = true then .confirmed
      else if credentialWasRejected response serverId then .rejected
      else .ambiguous

-- The worker, the plugin and the running calls

/-- Where the attempt that holds the provisioning lock of the server stands. -/
inductive AttemptPhase
  | idle
  | staged (credential : Credential)
  | pushing (credential : Credential)
  | applied (credential : Credential)
  | rejected (credential : Credential)
  | recorded (credential : Credential)
  | finishing (credential : Credential)
deriving DecidableEq, Repr

def AttemptPhase.credential? : AttemptPhase → Option Credential
  | .idle => none
  | .staged credential | .pushing credential | .applied credential | .rejected credential
  | .recorded credential | .finishing credential => some credential

/-- An authentication between its reads and its writes. `undisturbed` holds while no push
has been in flight since the credential was presented.
-/
structure RunningAuthentication where
  credential : Credential
  accepted : AcceptedAuthentication
  undisturbed : Bool
deriving DecidableEq

/-- The whole system around one server. `adopted` and `issued` record every credential the
plugin ever held and every credential ever generated.
-/
structure World where
  worker : Worker
  plugin : Option Credential
  inFlight : Option Credential
  attempt : AttemptPhase
  authentications : List RunningAuthentication
  adopted : List Credential
  issued : List Credential
  now : Time
deriving DecidableEq

inductive Event
  | begin (credential : Credential) (database file : WriteOutcome)
  | push
  | pluginAdopts
  | pushLost
  | reply (reply : PushReply)
  | promote (database file : WriteOutcome)
  | rememberRejection (journalWrite database file : WriteOutcome)
  | cancel (database file : WriteOutcome)
  | finishAttempt
  | present (credential : Credential)
  | settle (index : Nat) (database file : WriteOutcome)
  | reconcileRejected (database file : WriteOutcome)
  | restart
  | tick (seconds : Time)
  | journalAccess (readable : Bool)
  | otherServers (worker : Worker)
  | otherServerRepairsJournal (file : WriteOutcome)

namespace World

/-- The attempt after `begin` returned: an error or a refusal goes to the `finally`. -/
def afterBegin (credential : Credential) : Except RotationError Bool → AttemptPhase
  | .ok true => .staged credential
  | .ok false | .error _ => .finishing credential

def step (serverId : ServerId) (world : World) : Event → Option World
  | .begin credential database file =>
      if world.attempt = .idle ∧ credential ≠ "" ∧ credential ∉ world.issued then
        let (result, worker) :=
          beginEventBridgeCredentialRotationIfServerExists world.now database file serverId
            credential world.worker
        some {
          world with
          worker
          attempt := afterBegin credential result
          issued := credential :: world.issued
        }
      else none
  | .push =>
      match world.attempt with
      | .staged credential =>
          some {
            world with
            attempt := .pushing credential
            inFlight := some credential
            authentications :=
              world.authentications.map (fun running => { running with undisturbed := false })
          }
      | _ => none
  | .pluginAdopts =>
      match world.inFlight with
      | some credential =>
          some {
            world with
            plugin := some credential
            inFlight := none
            adopted := credential :: world.adopted
          }
      | none => none
  | .pushLost => if world.inFlight.isSome then some { world with inFlight := none } else none
  | .reply reply =>
      match world.attempt with
      | .pushing credential =>
          match pushOutcome serverId reply with
          | .confirmed =>
              if credential ∈ world.adopted then
                some { world with attempt := .applied credential }
              else none
          -- The plugin consumed the push and kept its old credential.
          | .rejected =>
              if world.inFlight = some credential then
                some { world with attempt := .rejected credential, inFlight := none }
              else none
          | .ambiguous => some { world with attempt := .finishing credential }
      | _ => none
  | .promote database file =>
      match world.attempt with
      | .applied credential =>
          some {
            world with
            worker :=
              (promoteEventBridgeCredentialIfPending world.now database file serverId
                credential world.worker).2
            attempt := .finishing credential
          }
      | _ => none
  | .rememberRejection journalWrite database file =>
      match world.attempt with
      | .rejected credential =>
          some {
            world with
            worker :=
              (rememberRejectedEventBridgeCredentialRotation journalWrite database file
                serverId credential world.worker).2
            attempt := .recorded credential
          }
      | _ => none
  | .cancel database file =>
      match world.attempt with
      | .recorded credential =>
          some {
            world with
            worker :=
              (cancelEventBridgeCredentialRotation world.now database file serverId
                credential world.worker).2
            attempt := .finishing credential
          }
      | _ => none
  | .finishAttempt =>
      match world.attempt with
      | .finishing credential =>
          some {
            world with
            worker :=
              finishEventBridgeCredentialRotationAttempt serverId credential world.worker
            attempt := .idle
          }
      | _ => none
  | .present credential =>
      match acceptedAuthentication world.worker serverId credential with
      | none => some world
      | some accepted =>
          some {
            world with
            authentications :=
              world.authentications ++ [⟨credential, accepted, world.inFlight.isNone⟩]
          }
  | .settle index database file =>
      match world.authentications[index]? with
      | none => none
      | some running =>
          some {
            world with
            worker :=
              settleAuthentication world.now database file serverId running.credential
                running.accepted world.worker
            authentications := world.authentications.eraseIdx index
          }
  | .reconcileRejected database file =>
      some {
        world with
        worker :=
          (reconcileRejectedEventBridgeCredentialRotation world.now database file serverId
            world.worker).2
      }
  | .restart =>
      some {
        world with
        worker := { world.worker with rotation := .initial }
        attempt := .idle
        authentications := []
      }
  | .tick seconds => some { world with now := world.now + seconds }
  | .journalAccess readable =>
      some {
        world with
        worker :=
          { world.worker with journal := { world.worker.journal with readable } }
      }
  | .otherServers worker =>
      if sameServerSlice serverId worker world.worker then some { world with worker } else none
  | .otherServerRepairsJournal file =>
      if world.worker.journal.readable = false
          ∧ noPendingGenerationsRemain world.worker.settings.entries = true then
        some {
          world with
          worker :=
            { world.worker with
              journal := world.worker.journal.removeUnreadableJournalSafely file }
        }
      else none

/-- The successful steps, one constructor for each branch that changes the world. -/
inductive Transition (serverId : ServerId) (world : World) : Event → World → Prop
  | begin {credential : Credential} {database file : WriteOutcome}
    (idle : world.attempt = .idle) (credential_ne : credential ≠ "")
    (unissued : credential ∉ world.issued)
    : Transition serverId world (.begin credential database file) {
        world with
        worker :=
          (beginEventBridgeCredentialRotationIfServerExists world.now database file serverId
            credential world.worker).2
        attempt :=
          afterBegin credential
            (beginEventBridgeCredentialRotationIfServerExists world.now database file serverId
              credential world.worker).1
        issued := credential :: world.issued
      }
  | push {credential : Credential} (staged : world.attempt = .staged credential)
    : Transition serverId world .push {
        world with
        attempt := .pushing credential
        inFlight := some credential
        authentications :=
          world.authentications.map (fun running => { running with undisturbed := false })
      }
  | pluginAdopts {credential : Credential} (landing : world.inFlight = some credential)
    : Transition serverId world .pluginAdopts {
        world with
        plugin := some credential
        inFlight := none
        adopted := credential :: world.adopted
      }
  | pushLost : Transition serverId world .pushLost { world with inFlight := none }
  | confirmed {credential : Credential} {reply : PushReply}
    (pushing : world.attempt = .pushing credential) (adopted : credential ∈ world.adopted)
    : Transition serverId world (.reply reply)
        { world with attempt := .applied credential }
  | rejected {credential : Credential} {reply : PushReply}
    (pushing : world.attempt = .pushing credential)
    (landing : world.inFlight = some credential)
    : Transition serverId world (.reply reply)
        { world with attempt := .rejected credential, inFlight := none }
  | ambiguous {credential : Credential} {reply : PushReply}
    (pushing : world.attempt = .pushing credential)
    : Transition serverId world (.reply reply)
        { world with attempt := .finishing credential }
  | promote {credential : Credential} {database file : WriteOutcome}
    (applied : world.attempt = .applied credential)
    : Transition serverId world (.promote database file) {
        world with
        worker :=
          (promoteEventBridgeCredentialIfPending world.now database file serverId credential
            world.worker).2
        attempt := .finishing credential
      }
  | rememberRejection {credential : Credential}
    {journalWrite database file : WriteOutcome}
    (rejected : world.attempt = .rejected credential)
    : Transition serverId world (.rememberRejection journalWrite database file) {
        world with
        worker :=
          (rememberRejectedEventBridgeCredentialRotation journalWrite database file serverId
            credential world.worker).2
        attempt := .recorded credential
      }
  | cancel {credential : Credential} {database file : WriteOutcome}
    (recorded : world.attempt = .recorded credential)
    : Transition serverId world (.cancel database file) {
        world with
        worker :=
          (cancelEventBridgeCredentialRotation world.now database file serverId credential
            world.worker).2
        attempt := .finishing credential
      }
  | finishAttempt {credential : Credential}
    (finishing : world.attempt = .finishing credential)
    : Transition serverId world .finishAttempt {
        world with
        worker := finishEventBridgeCredentialRotationAttempt serverId credential world.worker
        attempt := .idle
      }
  | refused {credential : Credential} : Transition serverId world (.present credential) world
  | accepted {credential : Credential} {accepted : AcceptedAuthentication}
    (found : acceptedAuthentication world.worker serverId credential = some accepted)
    : Transition serverId world (.present credential) {
        world with
        authentications :=
          world.authentications ++ [⟨credential, accepted, world.inFlight.isNone⟩]
      }
  | settle {index : Nat} {database file : WriteOutcome} {running : RunningAuthentication}
    (found : world.authentications[index]? = some running)
    : Transition serverId world (.settle index database file) {
        world with
        worker :=
          settleAuthentication world.now database file serverId running.credential
            running.accepted world.worker
        authentications := world.authentications.eraseIdx index
      }
  | reconcileRejected {database file : WriteOutcome}
    : Transition serverId world (.reconcileRejected database file) {
        world with
        worker :=
          (reconcileRejectedEventBridgeCredentialRotation world.now database file serverId
            world.worker).2
      }
  | restart
    : Transition serverId world .restart {
        world with
        worker := { world.worker with rotation := .initial }
        attempt := .idle
        authentications := []
      }
  | tick {seconds : Time}
    : Transition serverId world (.tick seconds) { world with now := world.now + seconds }
  | journalAccess {readable : Bool}
    : Transition serverId world (.journalAccess readable) {
        world with
        worker := { world.worker with journal := { world.worker.journal with readable } }
      }
  | otherServers {worker : Worker} (same : sameServerSlice serverId worker world.worker)
    : Transition serverId world (.otherServers worker) { world with worker }
  | otherServerRepairsJournal {file : WriteOutcome}
    (unreadable : world.worker.journal.readable = false)
    (alone : noPendingGenerationsRemain world.worker.settings.entries = true)
    : Transition serverId world (.otherServerRepairsJournal file) {
        world with
        worker :=
          { world.worker with
            journal := world.worker.journal.removeUnreadableJournalSafely file }
      }

/-- Every step is one of the transitions. Witness: the guards of each event. -/
theorem Transition.of_step {serverId : ServerId} {world next : World} {event : Event}
    (taken : step serverId world event = some next)
    : Transition serverId world event next := by
  cases event with
  | begin credential database file =>
      simp only [step] at taken
      split at taken
      · next enabled =>
          cases taken
          exact .begin enabled.1 enabled.2.1 enabled.2.2
      · cases taken
  | push =>
      simp only [step] at taken
      split at taken
      · next credential staged =>
          cases taken
          exact .push staged
      · cases taken
  | pluginAdopts =>
      simp only [step] at taken
      split at taken
      · next credential landing =>
          cases taken
          exact .pluginAdopts landing
      · cases taken
  | pushLost =>
      simp only [step] at taken
      split at taken
      · cases taken
        exact .pushLost
      · cases taken
  | reply reply =>
      simp only [step] at taken
      split at taken
      · next credential pushing =>
          split at taken
          · split at taken
            · next adopted =>
                cases taken
                exact .confirmed pushing adopted
            · cases taken
          · split at taken
            · next landing =>
                cases taken
                exact .rejected pushing landing
            · cases taken
          · cases taken
            exact .ambiguous pushing
      · cases taken
  | promote database file =>
      simp only [step] at taken
      split at taken
      · next credential applied =>
          cases taken
          exact .promote applied
      · cases taken
  | rememberRejection journalWrite database file =>
      simp only [step] at taken
      split at taken
      · next credential rejected =>
          cases taken
          exact .rememberRejection rejected
      · cases taken
  | cancel database file =>
      simp only [step] at taken
      split at taken
      · next credential recorded =>
          cases taken
          exact .cancel recorded
      · cases taken
  | finishAttempt =>
      simp only [step] at taken
      split at taken
      · next credential finishing =>
          cases taken
          exact .finishAttempt finishing
      · cases taken
  | present credential =>
      simp only [step] at taken
      split at taken
      · cases taken
        exact .refused
      · next accepted found =>
          cases taken
          exact .accepted found
  | settle index database file =>
      simp only [step] at taken
      split at taken
      · cases taken
      · next running found =>
          cases taken
          exact .settle found
  | reconcileRejected database file =>
      cases taken
      exact .reconcileRejected
  | restart =>
      cases taken
      exact .restart
  | tick seconds =>
      cases taken
      exact .tick
  | journalAccess readable =>
      cases taken
      exact .journalAccess
  | otherServers worker =>
      simp only [step] at taken
      split at taken
      · next same =>
          cases taken
          exact .otherServers same
      · cases taken
  | otherServerRepairsJournal file =>
      simp only [step] at taken
      split at taken
      · next enabled =>
          cases taken
          exact .otherServerRepairsJournal enabled.1 enabled.2
      · cases taken

/-- The server is configured and nothing of a rotation is left: no attempt, push or
authentication runs, no rejection is stored, and either nothing is installed or the
plugin holds the stored current credential.
-/
structure Initial (serverId : ServerId) (world : World) : Prop where
  serverId_ne : serverId ≠ ""
  configured : world.worker.settings.serverIsConfigured serverId = true
  attempt : world.attempt = .idle
  inFlight : world.inFlight = none
  authentications : world.authentications = []
  active : world.worker.rotation.activeDigests.get? serverId = none
  rejected : world.worker.rotation.rejectedDigest serverId = none
  journal : world.worker.journal.rejections.get? serverId = none
  installed
    : (world.plugin = none
        ∧ world.worker.settings.record? serverId = none
        ∧ world.adopted = []
        ∧ world.issued = [])
      ∨ ∃ credential updatedAt,
          credential ≠ ""
          ∧ world.plugin = some credential
          ∧ world.worker.settings.record? serverId
            = some (currentRecord (credentialDigest serverId credential) updatedAt)
          ∧ world.adopted = [credential]
          ∧ world.issued = [credential]

/-- A configured server on which nothing was installed yet. -/
def uninstalled (serverId : ServerId) : World where
  worker := {
    settings := ⟨[serverId], none⟩
    rotation := .initial
    journal := ⟨∅, true⟩
  }
  plugin := none
  inFlight := none
  attempt := .idle
  authentications := []
  adopted := []
  issued := []
  now := 0

theorem uninstalled_initial {serverId : ServerId} (serverId_ne : serverId ≠ "")
    : Initial serverId (uninstalled serverId) where
  serverId_ne := serverId_ne
  configured := by simp [uninstalled, Settings.serverIsConfigured]
  attempt := rfl
  inFlight := rfl
  authentications := rfl
  active := rfl
  rejected := rfl
  journal := rfl
  installed := .inl ⟨rfl, rfl, rfl, rfl⟩

/-- The grace period of the stored pending digest is over. -/
def graceElapsed (serverId : ServerId) (world : World) : Bool :=
  RotationState.pendingReconciliationGraceElapsed world.now
    ((world.worker.settings.record? serverId).bind CredentialRecord.pendingStartedAt)

/-- The events of a run in which the journal stays readable, only the plugin presents
credentials, and an authentication with the current credential settles after the grace
period only when no push was in flight since it began.
-/
def Admits (serverId : ServerId) (world : World) : Event → Prop
  | .present credential => world.plugin = some credential
  | .settle index _ _ =>
      ∀ running ∈ world.authentications[index]?,
        running.accepted.pending ≠ some running.accepted.presented
        → world.graceElapsed serverId = true
        → running.undisturbed = true
  | .journalAccess readable => readable = true
  | _ => True

instance (serverId : ServerId) (world : World) (event : Event)
    : Decidable (Admits serverId world event) := by
  cases event <;> unfold Admits <;> infer_instance

/-- A run admitted for the lockout and recovery results. -/
abbrev RotationRun (serverId : ServerId) : World → List Event → World → Prop :=
  Run (step serverId) (Admits serverId)

end World

end OctoHubs.EventBridge
