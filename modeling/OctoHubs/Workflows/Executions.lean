import Mathlib.Data.List.Sort
import OctoHubs.Library.Runs
import OctoHubs.Library.UniqueIndex
import OctoHubs.Time

/-! The stored executions of workflows and the one active slot among them.
Every operation is one transaction; a worker is known by the id of its execution and its
owner id.
-/

namespace OctoHubs.Workflows

open OctoHubs.Library

inductive WorkflowStatus
  | running
  | stopping
  | completed
  | failed
  | other (name : String)
deriving DecidableEq, Repr

def WorkflowStatus.Terminal (status : WorkflowStatus) : Prop :=
  status = .completed ∨ status = .failed

instance : DecidablePred WorkflowStatus.Terminal :=
  fun _ => inferInstanceAs (Decidable (_ ∨ _))

structure WorkflowExecution where
  workflowType : String
  status : WorkflowStatus
  context : Dict String String
  error : Option String
  startedAt : Timestamp
  completedAt : Option Timestamp
  ownerId : Option String
  stopRequested : Bool
  activeSlot : Option Nat
  heartbeatAt : Option Timestamp
deriving DecidableEq

structure WorkflowStep where
  workflowId : String
  stepId : String
  stepIndex : Nat
  status : String
  progress : Int
  details : Option String
  startedAt : Option Timestamp
  completedAt : Option Timestamp
  durationSeconds : Option Int
deriving DecidableEq, Repr

/-- The tables of executions and steps; no two executions have the same active slot. -/
structure WorkflowStore where
  executions : Dict String WorkflowExecution
  steps : List WorkflowStep
deriving DecidableEq

def workflowHeartbeatTtl : Timestamp := 15 * second
def workflowRetention : Timestamp := 30 * 24 * 60 * 60 * second
def workflowRetentionCount : Nat := 200

def recoveredMessage : String := "Workflow interrotto dal riavvio"

/-- Persisted text has no NUL characters, and an empty one is none. -/
def projectPersistedText (value : Option String) : Option String :=
  (value.map (fun text => String.ofList (text.toList.filter (fun c => c.toNat ≠ 0)))).filter
    (· ≠ "")

/-- A step with a new status, progress or details, where they are given. -/
def WorkflowStep.progressed (step : WorkflowStep) (status : Option String)
    (progress : Option Int) (details : Option String) (now : Timestamp)
    : WorkflowStep :=
  let moved :=
    match status.filter (· ≠ "") with
    | none => step
    | some status =>
        if status = "running" ∧ step.startedAt = none then
          { step with status, startedAt := some now }
        else if status = "done" ∨ status = "failed" ∨ status = "skipped" then
          { step with
            status
            completedAt := some now
            durationSeconds :=
              (step.startedAt.map (fun started => (now - started).tdiv second)).or
                step.durationSeconds }
        else { step with status }
  { moved with
    progress := progress.getD moved.progress
    details := (projectPersistedText details).or moved.details }

namespace WorkflowExecution

variable (execution : WorkflowExecution)

def HeartbeatIsFresh (now : Timestamp) : Prop :=
  ∃ heartbeat ∈ execution.heartbeatAt, heartbeat ≥ now - workflowHeartbeatTtl

instance (now : Timestamp) : Decidable (execution.HeartbeatIsFresh now) := by
  unfold HeartbeatIsFresh
  infer_instance

/-- The worker still owns the execution: it is active and belongs to the owner. -/
def Owned (ownerId : String) : Prop :=
  execution.ownerId = some ownerId ∧ execution.activeSlot = some 1

instance (ownerId : String) : Decidable (execution.Owned ownerId) :=
  inferInstanceAs (Decidable (_ ∧ _))

def recover (now : Timestamp) : WorkflowExecution :=
  { execution with
    status := .failed
    error := some recoveredMessage
    completedAt := some now
    stopRequested := false
    activeSlot := none }

def finalize (status : WorkflowStatus) (error : Option String) (now : Timestamp)
    : WorkflowExecution :=
  { execution with
    status
    error := projectPersistedText error
    completedAt := some now
    stopRequested := false
    activeSlot := none }

/-- The first terminal result wins; a missing completion time is added to it. -/
def update (status : WorkflowStatus) (error : Option String) (now : Timestamp)
    : WorkflowExecution :=
  if execution.status.Terminal then
    { execution with completedAt := execution.completedAt.or (some now) }
  else
    let error := (projectPersistedText error).or execution.error
    if status.Terminal then
      { execution with
        status, error, completedAt := some now, activeSlot := none, stopRequested := false }
    else { execution with status, error }

end WorkflowExecution

namespace WorkflowStore

variable (store : WorkflowStore)

def activeExecution : Option (String × WorkflowExecution) :=
  store.executions.items.find? (fun item => item.2.activeSlot = some 1)

/-- The ended executions that are too old, or too many by the time of their start. -/
def staleIds (now : Timestamp) : List String :=
  let ended := store.executions.items.filter (fun item => item.2.status.Terminal)
  let old := ended.filter (fun item =>
    item.2.completedAt.any (fun completed => completed < now - workflowRetention))
  let retained :=
    ended.insertionSort (fun left right => right.2.startedAt ≤ left.2.startedAt)
  (old ++ retained.drop workflowRetentionCount).map Prod.fst

def pruneWorkflows (now : Timestamp) : WorkflowStore :=
  let stale := store.staleIds now
  { executions := store.executions.eraseWhere (· ∈ stale)
    steps := store.steps.filter (fun step => step.workflowId ∉ stale) }

/-- Insert an execution, unless its id or its slot is taken. -/
def insert (id : String) (execution : WorkflowExecution) : Option WorkflowStore :=
  if (store.executions.get? id).isSome then none
  else
    (writeRow WorkflowExecution.activeSlot store.executions (id, execution)).map
      (fun executions => { store with executions })

def newExecution (workflowType : String) (context : Dict String String)
    (ownerId : Option String) (now : Timestamp)
    : WorkflowExecution where
  workflowType
  status := .running
  context
  error := none
  startedAt := now
  completedAt := none
  ownerId
  stopRequested := false
  activeSlot := some 1
  heartbeatAt := some now

def newStep (workflowId stepId : String) (stepIndex : Nat) : WorkflowStep where
  workflowId
  stepId
  stepIndex
  status := "pending"
  progress := 0
  details := some "In attesa..."
  startedAt := none
  completedAt := none
  durationSeconds := none

/-- The active execution, if there is one, ends unless its heartbeat is fresh. -/
def recoverActive (now : Timestamp) : WorkflowStore :=
  match store.activeExecution with
  | none => store
  | some (id, active) =>
      if active.HeartbeatIsFresh now then store
      else { store with executions := store.executions.set id (active.recover now) }

/-- Claim the active slot for a new execution with its steps. -/
def tryStart (id workflowType : String) (context : Dict String String) (ownerId : String)
    (steps : List (String × Nat)) (now : Timestamp)
    : Option (WorkflowStore × Bool) :=
  if store.activeExecution.any (fun active => active.2.HeartbeatIsFresh now) then
    some (store, false)
  else
    (((store.recoverActive now).pruneWorkflows now).insert id
        (newExecution workflowType context (some ownerId) now)).map
      (fun started =>
        ({ started with
          steps := started.steps ++ steps.map (fun step => newStep id step.1 step.2) },
          true))

/-- Recovery of an abandoned execution, by the process that holds the global lease. -/
def recoverAndPrune (now : Timestamp) : WorkflowStore :=
  (store.recoverActive now).pruneWorkflows now

def changeOwned (id ownerId : String) (change : WorkflowExecution → WorkflowExecution)
    : WorkflowStore × Bool :=
  match store.executions.get? id with
  | none => (store, false)
  | some execution =>
      if execution.Owned ownerId then
        ({ store with executions := store.executions.set id (change execution) }, true)
      else (store, false)

def heartbeat (id ownerId : String) (now : Timestamp) : WorkflowStore × Bool :=
  store.changeOwned id ownerId (fun execution => { execution with heartbeatAt := some now })

def finalize (id ownerId : String) (status : WorkflowStatus) (error : Option String)
    (now : Timestamp)
    : WorkflowStore × Bool :=
  store.changeOwned id ownerId (·.finalize status error now)

/-- Ask the active execution to stop, if it is the wanted one. -/
def requestStop (wanted : Option String) : WorkflowStore × Bool :=
  let concerned (id : String) (execution : WorkflowExecution) : Bool :=
    execution.activeSlot = some 1 && wanted.all (· = id)
  ({ store with
    executions := store.executions.map (fun id execution =>
      if concerned id execution then { execution with status := .stopping, stopRequested := true }
      else execution) },
    store.executions.items.any (fun item => concerned item.1 item.2))

/-- An execution without an owner, as it was created before there was a claim. -/
def create (id workflowType : String) (context : Dict String String) (now : Timestamp)
    : Option WorkflowStore :=
  store.insert id (newExecution workflowType context none now)

def update (id : String) (status : WorkflowStatus) (error : Option String) (now : Timestamp)
    : WorkflowStore :=
  match store.executions.get? id with
  | none => store
  | some execution =>
      { store with executions := store.executions.set id (execution.update status error now) }

/-- Report the progress of the first step with these ids. -/
def updateStep (workflowId stepId : String) (status : Option String) (progress : Option Int)
    (details : Option String) (now : Timestamp)
    : WorkflowStore :=
  let isStep (step : WorkflowStep) : Bool :=
    step.workflowId = workflowId && step.stepId = stepId
  match store.steps.span (fun step => !isStep step) with
  | (_, []) => store
  | (before, step :: after) =>
      { store with
        steps := before ++ step.progressed status progress details now :: after }

end WorkflowStore

inductive WorkflowEvent
  | tryStart (id workflowType : String) (context : Dict String String) (ownerId : String)
    (steps : List (String × Nat)) (now : Timestamp)
  | recoverAndPrune (now : Timestamp)
  | heartbeat (id ownerId : String) (now : Timestamp)
  | finalize (id ownerId : String) (status : WorkflowStatus) (error : Option String)
    (now : Timestamp)
  | requestStop (wanted : Option String)
  | create (id workflowType : String) (context : Dict String String) (now : Timestamp)
  | update (id : String) (status : WorkflowStatus) (error : Option String) (now : Timestamp)
  | updateStep (workflowId stepId : String) (status : Option String) (progress : Option Int)
    (details : Option String) (now : Timestamp)

/-- One committed transaction. A new execution has an id that is not stored. -/
def WorkflowStore.step (store : WorkflowStore) : WorkflowEvent → Option WorkflowStore
  | .tryStart id workflowType context ownerId steps now =>
      if (store.executions.get? id).isSome then none
      else (store.tryStart id workflowType context ownerId steps now).map Prod.fst
  | .recoverAndPrune now => some (store.recoverAndPrune now)
  | .heartbeat id ownerId now => some (store.heartbeat id ownerId now).1
  | .finalize id ownerId status error now => some (store.finalize id ownerId status error now).1
  | .requestStop wanted => some (store.requestStop wanted).1
  | .create id workflowType context now => store.create id workflowType context now
  | .update id status error now => some (store.update id status error now)
  | .updateStep workflowId stepId status progress details now =>
      some (store.updateStep workflowId stepId status progress details now)

end OctoHubs.Workflows
