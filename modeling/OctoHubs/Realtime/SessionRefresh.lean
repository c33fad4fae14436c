import OctoHubs.Library.Coalescing
import OctoHubs.Library.Dict
import OctoHubs.Library.Runs

/-! The refreshes of the sessions of servers, which a few workers take from the submitted data.
Data that comes while a server is queued or refreshed replaces the data that waits for it.
-/

namespace OctoHubs.Realtime

open OctoHubs.Library

variable {κ ν : Type*} [DecidableEq κ]

/-- What the condition of the dispatcher guards. -/
structure SessionRefreshDispatcher (κ ν : Type*) where
  pending : Dict κ ν
  running : List κ
  ready : List κ
  closed : Bool

/-- Where a worker is: before a section under the lock, in its wait, or beside the callback. -/
inductive RefreshWorker (κ ν : Type*)
  | looks
  | waits
  | drains (serverId : κ)
  | holds (serverId : κ) (data : ν)
  | calls (serverId : κ) (data : ν)
  | ended
deriving DecidableEq

/-- The dispatcher with its workers, what was submitted and what the callback was called with, and
the shutdowns in progress with the results of the others.
-/
structure RefreshWorld (κ ν : Type*) where
  dispatcher : SessionRefreshDispatcher κ ν
  workers : List (RefreshWorker κ ν)
  submitted : List (κ × ν)
  handed : List (κ × ν)
  shutdowns : Nat
  outcomes : List Bool

namespace SessionRefreshDispatcher

variable (dispatcher : SessionRefreshDispatcher κ ν)

def submit (serverId : κ) (data : ν) : SessionRefreshDispatcher κ ν × Bool :=
  if dispatcher.closed then (dispatcher, false)
  else
    let pending := dispatcher.pending.set serverId data
    if serverId ∈ dispatcher.running then ({ dispatcher with pending }, true)
    else
      ({ dispatcher with
          pending
          running := dispatcher.running ++ [serverId]
          ready := dispatcher.ready ++ [serverId] },
        true)

/-- A submission that queues its server wakes a worker. -/
def notifies (serverId : κ) : Bool := !dispatcher.closed && serverId ∉ dispatcher.running

/-- The next data of a server, unless the dispatcher is closed. -/
def nextData (serverId : κ) : Option ν :=
  if dispatcher.closed then none else dispatcher.pending.get? serverId

def shutdown : SessionRefreshDispatcher κ ν :=
  { dispatcher with closed := true, pending := ∅, ready := [] }

end SessionRefreshDispatcher

inductive RefreshEvent (κ ν : Type*)
  | submit (serverId : κ) (data : ν) (woken : Option Nat)
  | look (index : Nat)
  | take (index : Nat)
  | callbackStarts (index : Nat)
  | callbackEnds (index : Nat) (failed : Bool)
  | shutdown
  | shutdownReturns

namespace RefreshWorker

def serverId? : RefreshWorker κ ν → Option κ
  | .drains serverId => some serverId
  | .holds serverId _ => some serverId
  | .calls serverId _ => some serverId
  | _ => none

/-- The data that a worker has taken, before it calls the callback with it. -/
def held? : RefreshWorker κ ν → Option (κ × ν)
  | .holds serverId data => some (serverId, data)
  | _ => none

def isCalling (serverId : κ) : RefreshWorker κ ν → Bool
  | .calls other _ => other = serverId
  | _ => false

def isWaiting : RefreshWorker κ ν → Bool
  | .waits => true
  | _ => false

def isEnded : RefreshWorker κ ν → Bool
  | .ended => true
  | _ => false

def wake : RefreshWorker κ ν → RefreshWorker κ ν
  | .waits => .looks
  | worker => worker

end RefreshWorker

namespace RefreshWorld

variable (world : RefreshWorld κ ν)

def initial (maxWorkers : Int) : RefreshWorld κ ν where
  dispatcher := ⟨∅, [], [], false⟩
  workers := List.replicate (max 1 maxWorkers).toNat .looks
  submitted := []
  handed := []
  shutdowns := 0
  outcomes := []

/-- One of the workers that wait is woken, if any does. -/
def notify : Option Nat → Option (RefreshWorld κ ν)
  | some index =>
      match world.workers[index]? with
      | some .waits => some { world with workers := world.workers.set index .looks }
      | _ => none
  | none => if world.workers.any RefreshWorker.isWaiting then none else some world

/-- The servers that the workers are at. -/
def drained : List κ := world.workers.filterMap RefreshWorker.serverId?

def held : List (κ × ν) := world.workers.filterMap RefreshWorker.held?

end RefreshWorld

/-- One section under the lock, one wait, or the start or the end of a callback. A callback that
fails is logged, and its worker goes on.
-/
def refreshStep (world : RefreshWorld κ ν) : RefreshEvent κ ν → Option (RefreshWorld κ ν)
  | .submit serverId data woken =>
      let result := world.dispatcher.submit serverId data
      let next :=
        { world with
          dispatcher := result.1
          submitted :=
            if result.2 then world.submitted ++ [(serverId, data)] else world.submitted }
      if world.dispatcher.notifies serverId then next.notify woken else some next
  | .look index =>
      match world.workers[index]? with
      | some .looks =>
          match world.dispatcher.ready with
          | serverId :: ready =>
              some
                { world with
                  dispatcher := { world.dispatcher with ready }
                  workers := world.workers.set index (.drains serverId) }
          | [] =>
              some
                { world with
                  workers :=
                    world.workers.set index (if world.dispatcher.closed then .ended else .waits) }
      | _ => none
  | .take index =>
      match world.workers[index]? with
      | some (.drains serverId) =>
          let pending := world.dispatcher.pending.erase serverId
          match world.dispatcher.nextData serverId with
          | some data =>
              some
                { world with
                  dispatcher := { world.dispatcher with pending }
                  workers := world.workers.set index (.holds serverId data) }
          | none =>
              some
                { world with
                  dispatcher :=
                    { world.dispatcher with
                      pending
                      running := world.dispatcher.running.filter (· ≠ serverId) }
                  workers := world.workers.set index .looks }
      | _ => none
  | .callbackStarts index =>
      match world.workers[index]? with
      | some (.holds serverId data) =>
          some
            { world with
              workers := world.workers.set index (.calls serverId data)
              handed := world.handed ++ [(serverId, data)] }
      | _ => none
  | .callbackEnds index _ =>
      match world.workers[index]? with
      | some (.calls serverId _) =>
          some { world with workers := world.workers.set index (.drains serverId) }
      | _ => none
  | .shutdown =>
      some
        { world with
          dispatcher := world.dispatcher.shutdown
          workers := world.workers.map RefreshWorker.wake
          shutdowns := world.shutdowns + 1 }
  | .shutdownReturns =>
      if world.shutdowns = 0 then none
      else
        some
          { world with
            shutdowns := world.shutdowns - 1
            outcomes := world.outcomes ++ [world.workers.all RefreshWorker.isEnded] }

end OctoHubs.Realtime
