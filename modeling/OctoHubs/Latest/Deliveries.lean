import OctoHubs.Latest.Ledger
import OctoHubs.Library.Runs
import Mathlib.Logic.Function.Basic

/-! Deliveries of notifications by any number of workers.
A worker claims a delivery, sends its message and records the outcome, each in a call of its
own, and may die between any two of them.
-/

namespace OctoHubs.Latest

open OctoHubs.Library

-- The messenger

/-- What becomes of a message. A reply that is lost, late or unreadable says nothing about
whether it was accepted.
-/
inductive SendOutcome
  | answered (accepted retryAfter : Bool)
  | unanswered (accepted : Bool)
deriving DecidableEq, Repr

def SendOutcome.accepted : SendOutcome → Bool
  | .answered accepted _ => accepted
  | .unanswered accepted => accepted

/-- What a worker learns: whether the message is known to be accepted, and otherwise whether
it is asked to try again.
-/
def telegramApiRequest : SendOutcome → Bool × Bool
  | .answered true _ => (true, false)
  | .answered false retryAfter => (false, retryAfter)
  | .unanswered _ => (false, false)

-- Workers

/-- A worker in one delivery: before it sends, with one more try or not, and after it. -/
inductive WorkerState
  | idle
  | sending (key : DeliveryKey) (token : String) (retried : Bool)
  | replied (key : DeliveryKey) (token : String) (ok : Bool)
deriving DecidableEq, Repr

namespace WorkerState

def sendingKey : WorkerState → Option DeliveryKey
  | .sending key _ _ => some key
  | _ => none

/-- The delivery that the worker has claimed and not yet given back. -/
def active : WorkerState → Option (DeliveryKey × String)
  | .idle => none
  | .sending key token _ => some (key, token)
  | .replied key token _ => some (key, token)

def failing : WorkerState → Option (DeliveryKey × String)
  | .replied key token false => some (key, token)
  | _ => none

/-- The state after a send, which is tried once more when the messenger asks for it. -/
def afterSend (key : DeliveryKey) (token : String) (retried : Bool) (outcome : SendOutcome)
    : WorkerState :=
  let (ok, retryAfter) := telegramApiRequest outcome
  if !ok && retryAfter && !retried then .sending key token true else .replied key token ok

end WorkerState

/-- The ledger, the workers and the messages that were accepted. -/
structure DeliveryWorld where
  ledger : DeliveryLedger
  workers : Nat → WorkerState
  accepted : List DeliveryKey

inductive DeliveryEvent
  | claim (worker : Nat) (key : DeliveryKey) (serverId token : String) (serverExists : Bool)
    (now : Timestamp)
  | photoUnavailable (worker : Nat)
  | send (worker : Nat) (outcome : SendOutcome)
  | record (worker : Nat) (error : String) (now : Timestamp)
  | recordRaises (worker : Nat)
  | crash (worker : Nat)
  | prune (now : Timestamp)
  | reset

namespace DeliveryWorld

def setWorker (world : DeliveryWorld) (worker : Nat) (state : WorkerState) : DeliveryWorld :=
  { world with workers := Function.update world.workers worker state }

/-- One call of a worker, or its end. -/
def step (world : DeliveryWorld) : DeliveryEvent → Option DeliveryWorld
  | .claim worker key serverId token serverExists now =>
      if world.workers worker ≠ .idle then none
      else
        let (ledger, status) :=
          DeliveryLedger.claim world.ledger key serverId token serverExists now
        let claimed := { world with ledger }
        some (if status = .acquired then claimed.setWorker worker (.sending key token false)
          else claimed)
  | .photoUnavailable worker =>
      match world.workers worker with
      | .sending key token false => some (world.setWorker worker (.replied key token false))
      | _ => none
  | .send worker outcome =>
      match world.workers worker with
      | .sending key token retried =>
          let sent := world.setWorker worker (.afterSend key token retried outcome)
          some { sent with
            accepted := if outcome.accepted then key :: world.accepted else world.accepted }
      | _ => none
  | .record worker error now =>
      match world.workers worker with
      | .replied key token ok =>
          let ledger :=
            if ok then (DeliveryLedger.complete world.ledger key token now).1
            else (DeliveryLedger.fail world.ledger key token error now).1
          some ({ world with ledger }.setWorker worker .idle)
      | _ => none
  | .recordRaises worker =>
      match world.workers worker with
      | .replied _ _ _ => some (world.setWorker worker .idle)
      | _ => none
  | .crash worker => some (world.setWorker worker .idle)
  | .prune now => some { world with ledger := DeliveryLedger.prune world.ledger now }
  | .reset => some { world with ledger := ∅ }

/-- The row of a delivery is not removed by retention or by the operator. -/
def KeepsRow (key : DeliveryKey) (world : DeliveryWorld) : DeliveryEvent → Prop
  | .claim _ other _ _ serverExists now =>
      DeliveryLedger.Inserts world.ledger other serverExists now
      → ∀ row ∈ world.ledger.get? key, row.isExpired now = false
  | .prune now => ∀ row ∈ world.ledger.get? key, row.isExpired now = false
  | .reset => world.ledger.get? key = none
  | _ => True

/-- A message is sent only if it was not accepted yet. -/
def SendsOnce (key : DeliveryKey) (world : DeliveryWorld) : DeliveryEvent → Prop
  | .send worker _ => (world.workers worker).sendingKey = some key → key ∉ world.accepted
  | _ => True

/-- No worker that still owns a delivery records it as failed after it was accepted. -/
def FailsRejected (key : DeliveryKey) (world : DeliveryWorld) : DeliveryEvent → Prop
  | .record worker _ _ =>
      ∀ claim ∈ (world.workers worker).failing,
        claim.1 = key
        → DeliveryLedger.Holds world.ledger key claim.2
        → key ∉ world.accepted
  | _ => True

-- One delivery

/-- A worker in a delivery is the only one, and its row is claimed by it or abandoned. An
accepted message has a row that nobody can claim, and no worker about to send it.
-/
structure Delivered (key : DeliveryKey) (world : DeliveryWorld) : Prop where
  active
    : ∀ worker token,
        (world.workers worker).active = some (key, token)
        → ∃ row,
            world.ledger.get? key = some row
            ∧ (row.status = .claimed ∧ row.claimToken = token ∨ row.status = .unknown)
  alone
    : ∀ worker other token otherToken,
        (world.workers worker).active = some (key, token)
        → (world.workers other).active = some (key, otherToken)
        → worker = other
  accepted
    : key ∈ world.accepted
      → ∃ row, world.ledger.get? key = some row ∧ row.status ≠ .failed
  quiet
    : key ∈ world.accepted
      → ∀ worker, (world.workers worker).sendingKey ≠ some key

variable {key : DeliveryKey} {world next : DeliveryWorld}

theorem active_setWorker {worker other : Nat} {state : WorkerState}
    {delivery : DeliveryKey × String}
    (found : ((world.setWorker worker state).workers other).active = some delivery)
    : other = worker ∧ state.active = some delivery
      ∨ other ≠ worker ∧ (world.workers other).active = some delivery := by
  unfold setWorker at found
  dsimp only at found
  rw [Function.update_apply] at found
  split at found
  · next same => exact .inl ⟨same, found⟩
  · next differs => exact .inr ⟨differs, found⟩

theorem active_of_sendingKey {state : WorkerState} (sends : state.sendingKey = some key)
    : ∃ token, state.active = some (key, token) := by
  cases state with
  | sending found token retried =>
      cases sends
      exact ⟨token, rfl⟩
  | _ => cases sends

theorem Delivered.setWorker (delivered : Delivered key world) {worker : Nat}
    {state : WorkerState}
    (continues
      : ∀ token,
          state.active = some (key, token)
          → (world.workers worker).active = some (key, token))
    (sends
      : state.sendingKey = some key → key ∉ world.accepted)
    : Delivered key (world.setWorker worker state) := by
  have source {other : Nat} {token : String}
      (found : ((world.setWorker worker state).workers other).active = some (key, token))
      : (world.workers other).active = some (key, token) := by
    rcases active_setWorker found with ⟨rfl, active⟩ | ⟨-, active⟩
    · exact continues token active
    · exact active
  refine ⟨?_, ?_, delivered.accepted, fun accepted other sending => ?_⟩
  · exact fun other token found => delivered.active other token (source found)
  · exact fun first second token otherToken firstFound secondFound =>
      delivered.alone first second token otherToken (source firstFound) (source secondFound)
  · unfold DeliveryWorld.setWorker at sending
    dsimp only at sending
    rw [Function.update_apply] at sending
    split at sending
    · exact sends sending accepted
    · exact delivered.quiet accepted other sending

theorem Delivered.setLedger (delivered : Delivered key world) {ledger : DeliveryLedger}
    (kept
      : ∀ row,
          world.ledger.get? key = some row
          → ledger.get? key = some row
            ∨ ∃ after, ledger.get? key = some after ∧ after.status = .unknown)
    : Delivered key { world with ledger } := by
  refine ⟨fun worker token found => ?_, delivered.alone, fun accepted => ?_, delivered.quiet⟩
  · obtain ⟨row, stored, owned⟩ := delivered.active worker token found
    rcases kept row stored with same | ⟨after, abandoned, unknown⟩
    · exact ⟨row, same, owned⟩
    · exact ⟨after, abandoned, .inr unknown⟩
  · obtain ⟨row, stored, unfailed⟩ := delivered.accepted accepted
    rcases kept row stored with same | ⟨after, abandoned, unknown⟩
    · exact ⟨row, same, unfailed⟩
    · exact ⟨after, abandoned, by rw [unknown]; exact DeliveryStatus.noConfusion⟩

theorem Delivered.free (delivered : Delivered key world)
    (claimable
      : ∀ row, world.ledger.get? key = some row → row.status = .failed)
    : (∀ worker token, (world.workers worker).active ≠ some (key, token))
      ∧ key ∉ world.accepted := by
  constructor
  · intro worker token found
    obtain ⟨row, stored, ⟨claimed, -⟩ | unknown⟩ := delivered.active worker token found
    · cases (claimable row stored).symm.trans claimed
    · cases (claimable row stored).symm.trans unknown
  · intro accepted
    obtain ⟨row, stored, unfailed⟩ := delivered.accepted accepted
    exact unfailed (claimable row stored)

theorem Delivered.acquire (delivered : Delivered key world) {ledger : DeliveryLedger}
    {row : DeliveryRow} {worker : Nat} {token : String}
    (claimable : ∀ row, world.ledger.get? key = some row → row.status = .failed)
    (stored : ledger.get? key = some row) (claimed : row.status = .claimed)
    (owned : row.claimToken = token)
    : Delivered key
        ({ world with ledger }.setWorker worker (.sending key token false)) := by
  obtain ⟨noWorker, unaccepted⟩ := delivered.free claimable
  have only {other : Nat} {held : String}
      (found
        : (({ world with ledger }.setWorker worker (.sending key token false)).workers
            other).active
          = some (key, held))
      : other = worker ∧ held = token := by
    rcases active_setWorker found with ⟨same, active⟩ | ⟨-, active⟩
    · cases active
      exact ⟨same, rfl⟩
    · exact absurd active (noWorker other held)
  refine ⟨fun other held found => ?_, fun first second _ _ firstFound secondFound => ?_,
    fun accepted => absurd accepted unaccepted, fun accepted => absurd accepted unaccepted⟩
  · obtain ⟨-, rfl⟩ := only found
    exact ⟨row, stored, .inl ⟨claimed, owned⟩⟩
  · exact (only firstFound).1.trans (only secondFound).1.symm

theorem Delivered.step_claim (delivered : Delivered key world) {worker : Nat}
    {other : DeliveryKey} {serverId token : String} {serverExists : Bool} {now : Timestamp}
    (keeps : KeepsRow key world (.claim worker other serverId token serverExists now))
    (taken : world.step (.claim worker other serverId token serverExists now) = some next)
    : Delivered key next := by
  simp only [step] at taken
  split at taken
  · cases taken
  cases taken
  by_cases same : other = key
  · subst same
    rcases DeliveryLedger.claim_cases keeps with gone | ⟨absent, acquired, stored⟩
        | ⟨row, found, failed, acquired, stored⟩ | ⟨row, found, unfailed, refused, stored⟩
    · rw [gone]
      exact delivered
    · rw [if_pos acquired]
      refine delivered.acquire (fun row found => ?_) stored rfl rfl
      cases absent.symm.trans found
    · rw [if_pos acquired]
      refine delivered.acquire (fun other stored => ?_) stored rfl rfl
      cases found.symm.trans stored
      exact failed
    · rw [if_neg refused]
      refine delivered.setLedger (fun other known => ?_)
      cases found.symm.trans known
      unfold DeliveryRow.abandon at stored
      split at stored
      · exact .inr ⟨_, stored, rfl⟩
      · exact .inl stored
  · have sameRow
        : (DeliveryLedger.claim world.ledger other serverId token serverExists now).1.get? key
          = world.ledger.get? key :=
      DeliveryLedger.get?_claim_of_ne (fun apart => same apart.symm) keeps
    have unchanged := delivered.setLedger (fun row found => .inl (sameRow.trans found))
    split
    · refine unchanged.setWorker (fun held active => ?_) (fun sends => ?_)
      · cases active
        exact absurd rfl same
      · cases sends
        exact absurd rfl same
    · exact unchanged

theorem Delivered.step_send (delivered : Delivered key world) {worker : Nat}
    {outcome : SendOutcome} (taken : world.step (.send worker outcome) = some next)
    : Delivered key next := by
  simp only [step] at taken
  split at taken
  case h_2 => cases taken
  next other token retried sending =>
  cases taken
  have active : (world.workers worker).active = some (other, token) := by
    rw [sending]
    rfl
  have goesOn
      : (WorkerState.afterSend other token retried outcome).active = some (other, token) := by
    unfold WorkerState.afterSend
    dsimp only
    split <;> rfl
  have stays
      : (WorkerState.afterSend other token retried outcome).sendingKey = some key
        → other = key ∧ outcome.accepted = false := by
    intro sends
    unfold WorkerState.afterSend at sends
    dsimp only at sends
    split at sends
    · next again =>
        cases sends
        refine ⟨rfl, ?_⟩
        cases outcome with
        | answered accepted retryAfter =>
            cases accepted with
            | true => cases again
            | false => rfl
        | unanswered accepted => cases again
    · cases sends
  have moved := delivered.setWorker
    (fun held found => by
      rw [goesOn] at found
      rw [active]
      exact found
      : ∀ held,
          (WorkerState.afterSend other token retried outcome).active = some (key, held)
          → (world.workers worker).active = some (key, held))
    (fun sends accepted => by
      obtain ⟨rfl, -⟩ := stays sends
      exact delivered.quiet accepted worker (by rw [sending]; rfl))
  split
  · next wasAccepted =>
      by_cases same : other = key
      · subst same
        refine ⟨moved.active, moved.alone, fun _ => ?_, fun _ later sends => ?_⟩
        · obtain ⟨row, stored, ⟨claimed, -⟩ | unknown⟩ := delivered.active worker token active
          · exact ⟨row, stored, by rw [claimed]; exact DeliveryStatus.noConfusion⟩
          · exact ⟨row, stored, by rw [unknown]; exact DeliveryStatus.noConfusion⟩
        · -- the sender has its reply, and nobody else is in this delivery
          obtain ⟨held, laterActive⟩ := active_of_sendingKey sends
          have alone := moved.alone later worker held token laterActive (by
            unfold DeliveryWorld.setWorker
            dsimp only
            rw [Function.update_self]
            exact goesOn)
          subst alone
          unfold DeliveryWorld.setWorker at sends
          dsimp only at sends
          rw [Function.update_self] at sends
          cases (stays sends).2.symm.trans wasAccepted
      · refine ⟨moved.active, moved.alone, fun accepted => ?_, fun accepted => ?_⟩
        · exact moved.accepted (List.mem_of_ne_of_mem (fun apart => same apart.symm) accepted)
        · exact moved.quiet (List.mem_of_ne_of_mem (fun apart => same apart.symm) accepted)
  · exact moved

theorem Delivered.leave (delivered : Delivered key world) {worker : Nat} {token : String}
    (active : (world.workers worker).active = some (key, token)) (other : Nat) (held : String)
    : ((world.setWorker worker .idle).workers other).active ≠ some (key, held) := by
  intro found
  rcases active_setWorker found with ⟨-, idle⟩ | ⟨differs, otherActive⟩
  · cases idle
  · exact differs (delivered.alone other worker held token otherActive active)

/-- A recorded outcome closes the delivery, unless a rejection that was none reopens it. -/
theorem Delivered.step_record (delivered : Delivered key world) {worker : Nat}
    {error : String} {now : Timestamp}
    (fails : FailsRejected key world (.record worker error now))
    (taken : world.step (.record worker error now) = some next)
    : Delivered key next := by
  simp only [step] at taken
  split at taken
  case h_2 => cases taken
  next other token ok replied =>
  cases taken
  have active : (world.workers worker).active = some (other, token) := by
    rw [replied]
    rfl
  by_cases same : other = key
  · subst same
    obtain ⟨row, stored, owned⟩ := delivered.active worker token active
    have gone := delivered.leave active
    have closed {ledger : DeliveryLedger}
        (settled
          : other ∈ world.accepted
            → ∃ row, ledger.get? other = some row ∧ row.status ≠ .failed)
        : Delivered other ({ world with ledger }.setWorker worker .idle) := by
      refine ⟨fun later held found => absurd found (gone later held),
        fun later _ held _ found => absurd found (gone later held), settled,
        fun _ later sends => ?_⟩
      obtain ⟨held, found⟩ := active_of_sendingKey sends
      exact gone later held found
    have abandonedRow (unknown : row.status = .unknown)
        (change : DeliveryRow → DeliveryRow)
        : DeliveryLedger.changeHeld world.ledger other token change
          = (world.ledger, false) := by
      apply DeliveryLedger.changeHeld_of_not_holds
      rintro ⟨held, found, claimed, -⟩
      cases stored.symm.trans found
      cases unknown.symm.trans claimed
    split
    · -- the row becomes sent, or stays abandoned
      apply closed
      intro _
      rcases owned with ⟨claimed, owner⟩ | unknown
      · refine ⟨_, DeliveryLedger.changeHeld_of_holds stored claimed owner, ?_⟩
        exact DeliveryStatus.noConfusion
      · refine ⟨row, ?_, by rw [unknown]; exact DeliveryStatus.noConfusion⟩
        unfold DeliveryLedger.complete
        rw [abandonedRow unknown]
        exact stored
    · next refused =>
        rw [Bool.not_eq_true] at refused
        subst refused
        apply closed
        intro accepted
        rcases owned with ⟨claimed, owner⟩ | unknown
        · have failing : (world.workers worker).failing = some (other, token) := by
            rw [replied]
            rfl
          exact absurd accepted
            (fails _ failing rfl ⟨row, stored, claimed, owner⟩)
        · refine ⟨row, ?_, by rw [unknown]; exact DeliveryStatus.noConfusion⟩
          unfold DeliveryLedger.fail
          rw [abandonedRow unknown]
          exact stored
  · have sameRow {change : DeliveryRow → DeliveryRow}
        : (DeliveryLedger.changeHeld world.ledger other token change).1.get? key
          = world.ledger.get? key :=
      DeliveryLedger.get?_changeHeld_of_ne (fun apart => same apart.symm)
    have left {ledger : DeliveryLedger}
        (unchanged : ledger.get? key = world.ledger.get? key)
        : Delivered key ({ world with ledger }.setWorker worker .idle) :=
      (delivered.setLedger (fun row found => .inl (unchanged.trans found))).setWorker
        (fun _ found => nomatch found) (fun sends => nomatch sends)
    split
    · exact left sameRow
    · exact left sameRow

theorem Delivered.step (delivered : Delivered key world) {event : DeliveryEvent}
    (keeps : KeepsRow key world event) (fails : FailsRejected key world event)
    (taken : world.step event = some next)
    : Delivered key next := by
  cases event with
  | claim worker other serverId token serverExists now => exact delivered.step_claim keeps taken
  | send worker outcome => exact delivered.step_send taken
  | record worker error now => exact delivered.step_record fails taken
  | photoUnavailable worker =>
      simp only [DeliveryWorld.step] at taken
      split at taken
      · next other token sending =>
          cases taken
          refine delivered.setWorker (fun held found => ?_) (fun sends => nomatch sends)
          rw [sending]
          exact found
      · cases taken
  | recordRaises worker =>
      simp only [DeliveryWorld.step] at taken
      split at taken
      · cases taken
        exact delivered.setWorker (fun _ found => nomatch found) (fun sends => nomatch sends)
      · cases taken
  | crash worker =>
      cases taken
      exact delivered.setWorker (fun _ found => nomatch found) (fun sends => nomatch sends)
  | prune now =>
      cases taken
      refine delivered.setLedger (fun row found => .inl ?_)
      exact (DeliveryLedger.get?_prune_of_kept (fun row found => keeps row found)).trans found
  | reset =>
      cases taken
      refine delivered.setLedger (fun row found => ?_)
      cases (show world.ledger.get? key = none from keeps).symm.trans found

theorem Delivered.sendsOnce (delivered : Delivered key world) (event : DeliveryEvent)
    : SendsOnce key world event := by
  cases event with
  | send worker outcome =>
      exact fun sends accepted => delivered.quiet accepted worker sends
  | _ => trivial

-- Runs

/-- Idle workers over a ledger, before any message. -/
def opening (ledger : DeliveryLedger) : DeliveryWorld := ⟨ledger, fun _ => .idle, []⟩

theorem delivered_opening (key : DeliveryKey) (ledger : DeliveryLedger)
    : Delivered key (opening ledger) where
  active _ _ found := nomatch found
  alone _ _ _ _ found := nomatch found
  accepted member := nomatch member
  quiet member := nomatch member

/-- In a run that keeps the row of a delivery and records no accepted message as failed, an
accepted message is never sent again.
-/
theorem sentOnce {key : DeliveryKey} {ledger : DeliveryLedger} {events : List DeliveryEvent}
    {finish : DeliveryWorld}
    (run
      : Run step (fun world event => KeepsRow key world event ∧ FailsRejected key world event)
          (opening ledger) events finish)
    : Run step (SendsOnce key) (opening ledger) events finish := by
  apply run.mono_of_invariant (Delivered key)
  · exact fun delivered _ => delivered.sendsOnce _
  · exact fun delivered admitted taken => delivered.step admitted.1 admitted.2 taken
  · exact delivered_opening key ledger

section Decidable

variable (key : DeliveryKey) (world : DeliveryWorld)

instance (event : DeliveryEvent) : Decidable (KeepsRow key world event) := by
  cases event with
  | claim worker other serverId token serverExists now =>
      exact inferInstanceAs (Decidable
        (DeliveryLedger.Inserts world.ledger other serverExists now
          → ∀ row ∈ world.ledger.get? key, row.isExpired now = false))
  | prune now =>
      exact inferInstanceAs (Decidable
        (∀ row ∈ world.ledger.get? key, row.isExpired now = false))
  | reset => exact inferInstanceAs (Decidable (world.ledger.get? key = none))
  | photoUnavailable | send | record | recordRaises | crash => exact .isTrue trivial

instance (event : DeliveryEvent) : Decidable (SendsOnce key world event) := by
  cases event with
  | send worker outcome =>
      exact inferInstanceAs (Decidable
        ((world.workers worker).sendingKey = some key → key ∉ world.accepted))
  | _ => exact .isTrue trivial

instance (event : DeliveryEvent) : Decidable (FailsRejected key world event) := by
  cases event with
  | record worker error now =>
      exact inferInstanceAs (Decidable
        (∀ claim ∈ (world.workers worker).failing,
          claim.1 = key
          → DeliveryLedger.Holds world.ledger key claim.2
          → key ∉ world.accepted))
  | _ => exact .isTrue trivial

end Decidable

def chatDelivery : DeliveryKey := ("server:movie:batch", "bot:chat")

/-- A rejected message is tried again by another worker, which dies after it was accepted. -/
def diesAfterSend : List DeliveryEvent :=
  [.claim 0 chatDelivery "server" "first" true 0, .send 0 (.answered false true),
    .send 0 (.answered false false), .record 0 "Errore invio Telegram" second,
    .claim 1 chatDelivery "server" "second" true (2 * second),
    .send 1 (.unanswered true), .crash 1,
    .claim 2 chatDelivery "server" "third" true (1000 * second)]

theorem sentOnce_diesAfterSend
    : ∃ finish,
        Run step (SendsOnce chatDelivery) (opening ∅) diesAfterSend finish
        ∧ (finish.ledger.get? chatDelivery).map (·.status) = some .unknown := by
  have reached
      : ∃ finish,
          Run step
            (fun world event =>
              KeepsRow chatDelivery world event ∧ FailsRejected chatDelivery world event)
            (opening ∅) diesAfterSend finish
          ∧ (finish.ledger.get? chatDelivery).map (·.status) = some .unknown :=
    Run.exists_of_execute (by decide)
  obtain ⟨finish, run, unknown⟩ := reached
  exact ⟨finish, sentOnce run, unknown⟩

/-- The reply to an accepted message is lost, so that its worker records it as failed and the
next one sends it again.
-/
def lostReply : List DeliveryEvent :=
  [.claim 0 chatDelivery "server" "first" true 0, .send 0 (.unanswered true),
    .record 0 "Errore invio Telegram" second,
    .claim 0 chatDelivery "server" "second" true (2 * second),
    .send 0 (.answered true false)]

theorem sentTwice_lostReply
    : ∃ finish,
        Run step (KeepsRow chatDelivery) (opening ∅) lostReply finish
        ∧ ¬ Run step (SendsOnce chatDelivery) (opening ∅) lostReply finish := by
  have reached
      : ∃ finish, Run step (KeepsRow chatDelivery) (opening ∅) lostReply finish ∧ True :=
    Run.exists_of_execute (by decide)
  obtain ⟨finish, run, -⟩ := reached
  refine ⟨finish, run, fun once => ?_⟩
  have stopped : (execute step (SendsOnce chatDelivery) (opening ∅) lostReply).isNone = true := by
    decide
  rw [once.execute_eq] at stopped
  cases stopped

end DeliveryWorld

end OctoHubs.Latest
