import OctoHubs.Library.Coalescing
import OctoHubs.Library.Dict
import OctoHubs.Library.Runs

/-! The broadcasts of scan jobs, which any thread schedules and one drain of a job sends from the
event loop. A message that comes while another one waits replaces it, unless that one is terminal.
-/

namespace OctoHubs.Realtime

open OctoHubs.Library

variable {κ ν : Type*} [DecidableEq κ]

structure ScanMessage (ν : Type*) where
  type : Option String
  content : ν
deriving DecidableEq

def ScanMessage.terminal (message : ScanMessage ν) : Bool :=
  message.type = some "completed" || message.type = some "error"

/-- What the schedule lock guards. -/
structure BroadcastSchedule (κ ν : Type*) where
  scheduledBroadcasts : Dict κ (ScanMessage ν)
  scheduledJobs : List κ

/-- A drain is before a section under the lock or in a broadcast. -/
inductive DrainPhase
  | looks
  | broadcasts
deriving DecidableEq

structure BroadcastDrain (κ : Type*) where
  jobId : κ
  phase : DrainPhase

/-- The schedule with the threads that are about to call the loop, the starts of drains that the
loop has queued, the drains, and the job of a drain that has found nothing more and does not wait
before its end. The logs tell which messages were queued, which were given up for a queued
terminal one, and which were handed to the broadcast.
-/
structure BroadcastWorld (κ ν : Type*) where
  schedule : BroadcastSchedule κ ν
  calls : List κ
  starts : List κ
  drains : List (BroadcastDrain κ)
  finishing : Option κ
  queued : List (κ × ScanMessage ν)
  givenUp : List (κ × ScanMessage ν × ScanMessage ν)
  handed : List (κ × ScanMessage ν)

def BroadcastWorld.initial : BroadcastWorld κ ν := ⟨⟨∅, []⟩, [], [], [], none, [], [], []⟩

namespace BroadcastSchedule

variable (schedule : BroadcastSchedule κ ν)

/-- The queued terminal message of a job for which another one is given up. -/
def keeps? (jobId : κ) (message : ScanMessage ν) : Option (ScanMessage ν) :=
  (schedule.scheduledBroadcasts.get? jobId).filter (fun current =>
    current.terminal && !message.terminal)

/-- Queue a message of a job; the result tells whether a drain has to be scheduled. -/
def scheduleBroadcast (jobId : κ) (message : ScanMessage ν) : BroadcastSchedule κ ν × Bool :=
  let scheduledBroadcasts :=
    match schedule.keeps? jobId message with
    | some _ => schedule.scheduledBroadcasts
    | none => schedule.scheduledBroadcasts.set jobId message
  if jobId ∈ schedule.scheduledJobs then ({ schedule with scheduledBroadcasts }, false)
  else (⟨scheduledBroadcasts, schedule.scheduledJobs ++ [jobId]⟩, true)

def discardJob (jobId : κ) : BroadcastSchedule κ ν :=
  { schedule with scheduledJobs := schedule.scheduledJobs.filter (· ≠ jobId) }

def popBroadcast (jobId : κ) : BroadcastSchedule κ ν :=
  { schedule with scheduledBroadcasts := schedule.scheduledBroadcasts.erase jobId }

end BroadcastSchedule

inductive BroadcastEvent (κ ν : Type*)
  | schedule (jobId : κ) (message : ScanMessage ν)
  | callSoon (index : Nat)
  | startDrain (index : Nat)
  | drain (index : Nat)
  | broadcastEnds (index : Nat)
  | drainEnds

/-- One section under the schedule lock, or a call between two. Threads go on at any time, the
tasks of the loop only while no drain is about to end.
-/
def broadcastStep (world : BroadcastWorld κ ν) : BroadcastEvent κ ν → Option (BroadcastWorld κ ν)
  | .schedule jobId message =>
      let result := world.schedule.scheduleBroadcast jobId message
      let next :=
        { world with
          schedule := result.1
          calls := if result.2 then world.calls ++ [jobId] else world.calls }
      match world.schedule.keeps? jobId message with
      | some current => some { next with givenUp := world.givenUp ++ [(jobId, message, current)] }
      | none => some { next with queued := world.queued ++ [(jobId, message)] }
  | .callSoon index =>
      world.calls[index]?.map (fun jobId =>
        { world with
          calls := world.calls.eraseIdx index
          starts := world.starts ++ [jobId] })
  | .startDrain index =>
      match world.finishing, world.starts[index]? with
      | none, some jobId =>
          let next := { world with starts := world.starts.eraseIdx index }
          if jobId ∈ world.schedule.scheduledJobs then
            some { next with drains := world.drains ++ [⟨jobId, .looks⟩] }
          else some next
      | _, _ => none
  | .drain index =>
      match world.finishing, world.drains[index]? with
      | none, some ⟨jobId, .looks⟩ =>
          match world.schedule.scheduledBroadcasts.get? jobId with
          | some message =>
              some
                { world with
                  schedule := world.schedule.popBroadcast jobId
                  drains := world.drains.set index ⟨jobId, .broadcasts⟩
                  handed := world.handed ++ [(jobId, message)] }
          | none =>
              some
                { world with
                  schedule := world.schedule.discardJob jobId
                  drains := world.drains.eraseIdx index
                  finishing := some jobId }
      | _, _ => none
  | .broadcastEnds index =>
      match world.finishing, world.drains[index]? with
      | none, some ⟨jobId, .broadcasts⟩ =>
          some { world with drains := world.drains.set index ⟨jobId, .looks⟩ }
      | _, _ => none
  | .drainEnds =>
      world.finishing.map (fun jobId =>
        { world with
          schedule := (world.schedule.discardJob jobId).popBroadcast jobId
          finishing := none })

namespace BroadcastWorld

variable (world : BroadcastWorld κ ν)

/-- The drains of jobs that are scheduled or run, up to the section that finds nothing more. -/
def tasks : List κ := world.calls ++ world.starts ++ world.drains.map BroadcastDrain.jobId

/-- No drain of the job is scheduled or running. -/
def Quiet (jobId : κ) : Prop := jobId ∉ world.tasks ∧ world.finishing ≠ some jobId

end BroadcastWorld

/-- No message of a job is scheduled while a drain of it has found nothing and has not ended. -/
def BetweenDrains (world : BroadcastWorld κ ν) : BroadcastEvent κ ν → Prop
  | .schedule jobId _ => world.finishing ≠ some jobId
  | _ => True

instance (world : BroadcastWorld κ ν) (event : BroadcastEvent κ ν)
    : Decidable (BetweenDrains world event) :=
  match event with
  | .schedule jobId _ => inferInstanceAs (Decidable (world.finishing ≠ some jobId))
  | .callSoon _ => isTrue trivial
  | .startDrain _ => isTrue trivial
  | .drain _ => isTrue trivial
  | .broadcastEnds _ => isTrue trivial
  | .drainEnds => isTrue trivial

/-- A terminal message is replaced by another terminal one only. -/
def Supersedes (newer older : ScanMessage ν) : Prop :=
  older.terminal = true → newer.terminal = true

end OctoHubs.Realtime
