import OctoHubs.Library.Dict
import OctoHubs.Time

/-! The ledger of notification deliveries.
A delivery is one publication for one destination; a worker owns it by a claim token.
-/

namespace OctoHubs.Latest

open OctoHubs.Library

/-- The publication signature and the destination that the delivery key is the digest of. -/
abbrev DeliveryKey := String × String

inductive DeliveryStatus
  | claimed
  | sent
  | failed
  | unknown
deriving DecidableEq, Repr

structure DeliveryRow where
  serverId : String
  status : DeliveryStatus
  claimToken : String
  claimedAt : Timestamp
  sentAt : Option Timestamp
  failedAt : Option Timestamp
  lastError : Option String
  createdAt : Timestamp
  updatedAt : Timestamp
deriving DecidableEq

abbrev DeliveryLedger := Dict DeliveryKey DeliveryRow

inductive ClaimStatus
  | acquired
  | sent
  | inProgress
  | unknown
  | serverDeleted
deriving DecidableEq, Repr

def latestNotificationClaimLease : Timestamp := 15 * 60 * second
def latestNotificationRetention : Timestamp := 90 * 24 * 60 * 60 * second
def latestNotificationUnknownRetention : Timestamp := 365 * 24 * 60 * 60 * second

namespace DeliveryRow

variable (row : DeliveryRow)

/-- Retention drops the row; a claim is never dropped. -/
def isExpired (now : Timestamp) : Bool :=
  match row.status with
  | .sent | .failed => row.updatedAt < now - latestNotificationRetention
  | .unknown => row.updatedAt < now - latestNotificationUnknownRetention
  | .claimed => false

/-- A worker died with its claim, and the outcome of its delivery is not known. -/
def abandon (now : Timestamp) : DeliveryRow :=
  if row.status = .claimed ∧ row.claimedAt < now - latestNotificationClaimLease then
    { row with
      status := .unknown
      lastError := some "Esito consegna sconosciuto dopo interruzione del worker"
      updatedAt := now }
  else row

def reclaim (token : String) (now : Timestamp) : DeliveryRow :=
  { row with
    status := .claimed
    claimToken := token
    claimedAt := now
    failedAt := none
    lastError := none
    updatedAt := now }

/-- What a worker hears about a row that it does not get. -/
def report : ClaimStatus :=
  match row.status with
  | .sent => .sent
  | .unknown => .unknown
  | .claimed | .failed => .inProgress

theorem report_ne_acquired : row.report ≠ .acquired := by
  unfold report
  cases row.status with
  | claimed | sent | failed | unknown => exact ClaimStatus.noConfusion

end DeliveryRow

namespace DeliveryLedger

variable (ledger : DeliveryLedger)

def prune (now : Timestamp) : DeliveryLedger :=
  ledger.filter (fun _ row => !row.isExpired now)

def newRow (serverId token : String) (now : Timestamp) : DeliveryRow where
  serverId
  status := .claimed
  claimToken := token
  claimedAt := now
  sentAt := none
  failedAt := none
  lastError := none
  createdAt := now
  updatedAt := now

/-- Claim a delivery once, or hear what has become of it. A row that is there takes the
pruning back with the refused insertion.
-/
def claim (key : DeliveryKey) (serverId token : String) (serverExists : Bool)
    (now : Timestamp)
    : DeliveryLedger × ClaimStatus :=
  if !serverExists then (ledger, .serverDeleted)
  else
    match (prune ledger now).get? key with
    | none => ((prune ledger now).set key (newRow serverId token now), .acquired)
    | some row =>
        let checked := row.abandon now
        if checked.status = .failed then (ledger.set key (checked.reclaim token now), .acquired)
        else (ledger.set key checked, checked.report)

/-- The claim is still the one in the ledger. -/
def Holds (key : DeliveryKey) (token : String) : Prop :=
  ∃ row ∈ ledger.get? key, row.status = .claimed ∧ row.claimToken = token

instance (key : DeliveryKey) (token : String) : Decidable (Holds ledger key token) := by
  unfold Holds
  infer_instance

/-- Change the row of a claim that is still current. -/
def changeHeld (key : DeliveryKey) (token : String) (change : DeliveryRow → DeliveryRow)
    : DeliveryLedger × Bool :=
  match ledger.get? key with
  | none => (ledger, false)
  | some row =>
      if row.status = .claimed ∧ row.claimToken = token then
        (ledger.set key (change row), true)
      else (ledger, false)

def complete (key : DeliveryKey) (token : String) (now : Timestamp) : DeliveryLedger × Bool :=
  changeHeld ledger key token (fun row =>
    { row with status := .sent, sentAt := some now, updatedAt := now })

def fail (key : DeliveryKey) (token error : String) (now : Timestamp)
    : DeliveryLedger × Bool :=
  changeHeld ledger key token (fun row =>
    { row with
      status := .failed
      failedAt := some now
      lastError := (some error).filter (· ≠ "")
      updatedAt := now })

end DeliveryLedger

namespace DeliveryLedger

variable {ledger : DeliveryLedger} {key other : DeliveryKey}

theorem get?_prune_of_kept {now : Timestamp}
    (kept : ∀ row, ledger.get? key = some row → row.isExpired now = false)
    : (prune ledger now).get? key = ledger.get? key := by
  unfold prune
  rw [Dict.get?_filter]
  cases found : ledger.get? key with
  | none => rfl
  | some row => exact Option.filter_some_pos (by rw [kept row found]; rfl)

theorem get?_of_get?_prune {now : Timestamp} {row : DeliveryRow}
    (found : (prune ledger now).get? key = some row)
    : ledger.get? key = some row := by
  unfold prune at found
  rw [Dict.get?_filter, Option.filter_eq_some_iff] at found
  exact found.1

/-- The claim inserts a row, and with it the pruning is committed. -/
def Inserts (ledger : DeliveryLedger) (key : DeliveryKey) (serverExists : Bool)
    (now : Timestamp)
    : Prop :=
  serverExists = true ∧ (prune ledger now).get? key = none

instance (serverExists : Bool) (now : Timestamp)
    : Decidable (Inserts ledger key serverExists now) :=
  inferInstanceAs (Decidable (_ ∧ _))

section Claim

variable {serverId token : String} {serverExists : Bool} {now : Timestamp}

theorem get?_claim_of_ne (differs : key ≠ other)
    (kept
      : Inserts ledger other serverExists now
        → ∀ row, ledger.get? key = some row → row.isExpired now = false)
    : (claim ledger other serverId token serverExists now).1.get? key = ledger.get? key := by
  unfold claim
  split
  · rfl
  · next exists_ =>
      rw [Bool.not_eq_true', Bool.not_eq_false] at exists_
      split
      · next absent =>
          rw [Dict.get?_set_ne _ _ differs]
          exact get?_prune_of_kept (kept ⟨exists_, absent⟩)
      · dsimp only
        split
        · exact Dict.get?_set_ne _ _ differs
        · exact Dict.get?_set_ne _ _ differs

theorem claim_cases
    (kept
      : Inserts ledger key serverExists now
        → ∀ row, ledger.get? key = some row → row.isExpired now = false)
    : (claim ledger key serverId token serverExists now = (ledger, .serverDeleted))
      ∨ (ledger.get? key = none
        ∧ (claim ledger key serverId token serverExists now).2 = .acquired
        ∧ (claim ledger key serverId token serverExists now).1.get? key
          = some (newRow serverId token now))
      ∨ (∃ row,
          ledger.get? key = some row
          ∧ row.status = .failed
          ∧ (claim ledger key serverId token serverExists now).2 = .acquired
          ∧ (claim ledger key serverId token serverExists now).1.get? key
            = some (row.reclaim token now))
      ∨ ∃ row,
          ledger.get? key = some row
          ∧ row.status ≠ .failed
          ∧ (claim ledger key serverId token serverExists now).2 ≠ .acquired
          ∧ (claim ledger key serverId token serverExists now).1.get? key
            = some (row.abandon now) := by
  unfold claim
  split
  · exact .inl rfl
  next exists_ =>
  rw [Bool.not_eq_true', Bool.not_eq_false] at exists_
  right
  cases pruned : (prune ledger now).get? key with
  | none =>
      rw [get?_prune_of_kept (kept ⟨exists_, pruned⟩)] at pruned
      exact .inl ⟨pruned, rfl, Dict.get?_set_self ..⟩
  | some row =>
      right
      have found := get?_of_get?_prune pruned
      dsimp only
      split
      · next failed =>
          left
          have same : row.abandon now = row := by
            unfold DeliveryRow.abandon at failed ⊢
            split at failed
            · cases failed
            · next fresh => exact if_neg fresh
          rw [same] at failed ⊢
          exact ⟨row, found, failed, rfl, Dict.get?_set_self ..⟩
      · next unfailed =>
          refine .inr ⟨row, found, fun failed => unfailed ?_, ?_, Dict.get?_set_self ..⟩
          · unfold DeliveryRow.abandon
            rw [if_neg (fun stale => by rw [failed] at stale; cases stale.1)]
            exact failed
          · exact DeliveryRow.report_ne_acquired _

end Claim

theorem changeHeld_of_holds {token : String} {change : DeliveryRow → DeliveryRow}
    {row : DeliveryRow} (found : ledger.get? key = some row) (claimed : row.status = .claimed)
    (owned : row.claimToken = token)
    : (changeHeld ledger key token change).1.get? key = some (change row) := by
  unfold changeHeld
  rw [found]
  dsimp only
  rw [if_pos ⟨claimed, owned⟩]
  exact Dict.get?_set_self ..

theorem changeHeld_of_not_holds {token : String} {change : DeliveryRow → DeliveryRow}
    (lost : ¬ Holds ledger key token)
    : changeHeld ledger key token change = (ledger, false) := by
  unfold changeHeld
  cases found : ledger.get? key with
  | none => rfl
  | some row => exact if_neg (fun owned => lost ⟨row, found, owned⟩)

theorem get?_changeHeld_of_ne {token : String} {change : DeliveryRow → DeliveryRow}
    (differs : key ≠ other)
    : (changeHeld ledger other token change).1.get? key = ledger.get? key := by
  unfold changeHeld
  split
  · rfl
  · split
    · exact Dict.get?_set_ne _ _ differs
    · rfl

section Sent

variable {token : String} {now : Timestamp} {row : DeliveryRow}

theorem status_abandon_eq_sent (sent : (row.abandon now).status = .sent)
    : row.abandon now = row := by
  unfold DeliveryRow.abandon at sent ⊢
  split at sent
  · cases sent
  · next fresh => exact if_neg fresh

theorem sent_of_claim {serverId : String} {serverExists : Bool}
    (found : (claim ledger key serverId token serverExists now).1.get? other = some row)
    (sent : row.status = .sent)
    : ledger.get? other = some row := by
  unfold claim at found
  split at found
  · exact found
  · split at found
    · rw [Dict.get?_set] at found
      split at found
      · cases found
        cases sent
      · exact get?_of_get?_prune found
    · next old pruned =>
        dsimp only at found
        split at found
        all_goals
          rw [Dict.get?_set] at found
          split at found
        · cases found
          cases sent
        · exact found
        · next same =>
            have checked : old.abandon now = row := Option.some.inj found
            have unchanged : old.abandon now = old :=
              status_abandon_eq_sent (checked ▸ sent)
            rw [same, ← checked, unchanged]
            exact get?_of_get?_prune pruned
        · exact found

/-- The ledger reports a delivery as sent when a row says so that retention keeps. -/
theorem exists_of_claim_sent {serverId : String} {serverExists : Bool}
    (answer : (claim ledger key serverId token serverExists now).2 = .sent)
    : ∃ row ∈ ledger.get? key, row.status = .sent ∧ row.isExpired now = false := by
  unfold claim at answer
  split at answer
  · cases answer
  · split at answer
    · cases answer
    · next row pruned =>
        dsimp only at answer
        split at answer
        · cases answer
        · have sent : (row.abandon now).status = .sent := by
            unfold DeliveryRow.report at answer
            cases checked : (row.abandon now).status with
            | sent => rfl
            | claimed | failed | unknown =>
                rw [checked] at answer
                cases answer
          rw [status_abandon_eq_sent sent] at sent
          unfold prune at pruned
          rw [Dict.get?_filter, Option.filter_eq_some_iff] at pruned
          exact ⟨row, pruned.1, sent, (Bool.not_eq_true' _).mp pruned.2⟩

theorem sent_of_fail {error : String}
    (found : (fail ledger key token error now).1.get? other = some row)
    (sent : row.status = .sent)
    : ledger.get? other = some row := by
  unfold fail changeHeld at found
  split at found
  · exact found
  · split at found
    · rw [Dict.get?_set] at found
      split at found
      · cases found
        cases sent
      · exact found
    · exact found

theorem get?_complete_of_ne (differs : other ≠ key)
    : (complete ledger key token now).1.get? other = ledger.get? other :=
  get?_changeHeld_of_ne differs

end Sent

end DeliveryLedger

end OctoHubs.Latest
