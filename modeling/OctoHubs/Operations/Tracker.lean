import Mathlib.Data.List.Sort
import Mathlib.Data.Rat.Floor
import OctoHubs.Library.Dict
import OctoHubs.Time

/-! The registry of long-running operations and the trackers that write to it.
Every write of a tracker reads the stored registry, changes it and prunes it in one
transaction; a tracker itself only remembers which operations it renews.
-/

namespace OctoHubs.Operations

open OctoHubs.Library

inductive OperationStatus
  | queued
  | running
  | success
  | error
  | skipped
  | interrupted
  | other (name : String)
deriving DecidableEq, Repr

namespace OperationStatus

def Active (status : OperationStatus) : Prop := status = .queued ∨ status = .running

def Terminal (status : OperationStatus) : Prop :=
  status = .success ∨ status = .error ∨ status = .skipped ∨ status = .interrupted

instance : DecidablePred Active := fun _ => inferInstanceAs (Decidable (_ ∨ _))

instance : DecidablePred Terminal := fun _ => inferInstanceAs (Decidable (_ ∨ _))

theorem Terminal.not_active {status : OperationStatus} (terminal : status.Terminal)
    : ¬ status.Active := by
  rintro (rfl | rfl) <;> simp [Terminal] at terminal

end OperationStatus

/-- A stored operation. Details and results are kept as the texts of their values. -/
structure Operation where
  id : String
  kind : String
  title : String
  summary : String
  status : OperationStatus
  message : String
  progress : Int
  current : Int
  total : Option Int
  details : Dict String String
  result : Option (Dict String String)
  error : Option String
  startedAt : Timestamp
  updatedAt : Timestamp
  finishedAt : Option Timestamp
  ownerId : String
  heartbeatAt : Timestamp
deriving DecidableEq

abbrev Registry := Dict String Operation

def publicOperationFailureMessage : String := "Operazione non riuscita"

def positiveInt (value : Option Int) : Option Int := value.filter (· > 0)

/-- Rounding to the nearest number, and to the even one of two. -/
def round (value : ℚ) : Int :=
  let floor := value.floor
  if value - floor < 1 / 2 then floor
  else if value - floor > 1 / 2 then floor + 1
  else if floor % 2 = 0 then floor
  else floor + 1

def normalizeProgress (value : ℚ) : Int := max 0 (min 100 (round value))

def progressFromCounts (current : Int) (total : Option Int) : Option Int :=
  (positiveInt total).map (fun total => normalizeProgress ((current : ℚ) / total * 100))

/-- What a new operation is given. -/
structure OperationRequest where
  kind : String
  title : String
  summary : String
  details : Dict String String
  total : Option Int
deriving DecidableEq

/-- What an update may change; an empty status counts as none. -/
structure OperationUpdate where
  message : Option String
  progress : Option ℚ
  current : Option Int
  total : Option Int
  status : Option OperationStatus
  details : Dict String String
deriving DecidableEq

/-- How an operation ends: finished, failed, skipped or interrupted by its owner. -/
inductive OperationOutcome
  | finish (message : String) (result : Dict String String)
  | fail (message : String)
  | skip (message : String) (result : Dict String String)
  | interrupt (message : String) (result : Dict String String)
deriving DecidableEq

namespace OperationOutcome

def status : OperationOutcome → OperationStatus
  | .finish .. => .success
  | .fail .. => .error
  | .skip .. => .skipped
  | .interrupt .. => .interrupted

/-- A failure keeps its message to the log. -/
def message : OperationOutcome → String
  | .finish message _ | .skip message _ | .interrupt message _ => message
  | .fail _ => publicOperationFailureMessage

def result : OperationOutcome → Dict String String
  | .finish _ result | .skip _ result | .interrupt _ result => result
  | .fail _ => ∅

def error : OperationOutcome → Option String
  | .fail _ => some publicOperationFailureMessage
  | _ => none

end OperationOutcome

namespace Operation

variable (operation : Operation)

def Owns (ownerId : String) : Prop := operation.ownerId = ownerId

instance (ownerId : String) : Decidable (operation.Owns ownerId) :=
  inferInstanceAs (Decidable (_ = _))

def start (ownerId id : String) (request : OperationRequest) (now : Timestamp) : Operation where
  id
  kind := if request.kind = "" then "operation" else request.kind
  title := if request.title = "" then "Operazione" else request.title
  summary := request.summary
  status := .running
  message := "Avvio operazione"
  progress := 0
  current := 0
  total := positiveInt request.total
  details := request.details
  result := none
  error := none
  startedAt := now
  updatedAt := now
  finishedAt := none
  ownerId
  heartbeatAt := now

def update (change : OperationUpdate) (now : Timestamp) : Operation :=
  let status :=
    match change.status with
    | some status => status
    | none => if operation.status.Terminal then operation.status else .running
  let total := if change.total.isSome then positiveInt change.total else operation.total
  let current := (change.current.map (max 0)).getD operation.current
  let progress :=
    match change.progress with
    | some progress => some (normalizeProgress progress)
    | none => progressFromCounts current total
  { operation with
    status
    message := change.message.getD operation.message
    total
    current
    progress := progress.getD operation.progress
    details := operation.details.update change.details
    updatedAt := now
    heartbeatAt := now }

def renew (now : Timestamp) : Operation := { operation with heartbeatAt := now }

def complete (outcome : OperationOutcome) (now : Timestamp) : Operation :=
  { operation with
    status := outcome.status
    message := outcome.message
    progress := if outcome.status = .success then 100 else operation.progress
    result := some outcome.result
    error := outcome.error
    updatedAt := now
    finishedAt := some now }

def interrupt (message : String) (now : Timestamp) : Operation :=
  { operation with
    status := .interrupted
    message
    error := none
    updatedAt := now
    finishedAt := some now }

/-- The operation whose heartbeat could not be started. -/
def failStart (now : Timestamp) : Operation :=
  { operation with
    status := .error
    message := publicOperationFailureMessage
    result := some ∅
    error := some publicOperationFailureMessage
    updatedAt := now
    finishedAt := some now }

end Operation

namespace Registry

variable (registry : Registry)

def changeActive (ownerId id : String) (change : Operation → Operation) : Registry :=
  match registry.get? id with
  | none => registry
  | some operation =>
      if operation.Owns ownerId ∧ operation.status.Active then registry.set id (change operation)
      else registry

/-- Interrupt all active records of a kind. -/
def interruptWhere (concerned : Operation → Bool) (message : String) (now : Timestamp)
    : Registry :=
  registry.map (fun _ operation =>
    if operation.status.Active ∧ concerned operation then operation.interrupt message now
    else operation)

def clearCompleted : Registry :=
  ⟨registry.items.filter (fun item => item.2.status.Active),
    registry.nodup.sublist (List.filter_sublist.map Prod.fst)⟩

/-- A failing start ends its own record, whatever its status is by then. -/
def failStart (ownerId id : String) (now : Timestamp) : Registry :=
  match registry.get? id with
  | none => registry
  | some operation =>
      if operation.Owns ownerId then registry.set id (operation.failStart now) else registry

def completedItems : List (String × Operation) :=
  (registry.items.filter (fun item => ¬ item.2.status.Active)).insertionSort
    (fun left right => right.2.updatedAt ≤ left.2.updatedAt)

theorem prune_nodup (maxRecent : Nat)
    : ((registry.items.filter (fun item => item.2.status.Active)
        ++ registry.completedItems.take maxRecent).map Prod.fst).Nodup := by
  have kept
      : (registry.items.filter (fun item => item.2.status.Active)
          ++ registry.completedItems).Perm registry.items := by
    have sorted := List.perm_insertionSort (fun left right : String × Operation =>
      right.2.updatedAt ≤ left.2.updatedAt)
      (registry.items.filter (fun item => ¬ item.2.status.Active))
    refine (sorted.append_left _).trans ?_
    have parts := List.filter_append_perm (fun item : String × Operation =>
      decide item.2.status.Active) registry.items
    simpa using parts
  have unique := (kept.map Prod.fst).nodup_iff.mpr registry.nodup
  exact unique.sublist (((List.take_sublist _ _).append_left _).map Prod.fst)

/-- All active records, and the latest of the others. -/
def prune (maxRecent : Nat) : Registry :=
  ⟨registry.items.filter (fun item => item.2.status.Active)
    ++ registry.completedItems.take maxRecent, registry.prune_nodup maxRecent⟩

end Registry

end OctoHubs.Operations
