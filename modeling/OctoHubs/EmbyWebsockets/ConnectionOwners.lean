import Mathlib.Algebra.Order.Group.Nat
import Mathlib.Data.Finset.Basic
import Mathlib.Data.List.DropRight
import OctoHubs.Library.Dict
import OctoHubs.Library.Runs

/-! The connections to the servers: which of them may report events, and whose worker runs, while
they are replaced, removed and stopped.
-/

namespace OctoHubs.EmbyWebsockets

open OctoHubs.Library

structure Connection where
  serverId : String
  serverUrl : String
  apiKey : String
deriving DecidableEq

/-- A connection that is to be stopped, and whether it already was before. -/
structure Stopping where
  serverId : String
  connection : Nat
  wasStopping : Bool

/-- What the holder of the lifecycle lock has still to do: stop connections, from the first of
which on it may have begun, and register another one.
-/
structure Operation where
  queue : List Stopping
  begun : Bool := false
  wanted : Option Connection := none

/-- The manager with its threads. A connection goes by its place among those that were built. -/
structure Manager where
  built : List Connection := []
  connections : Dict String Nat := ∅
  acceptingConnections : Bool := true
  stoppingServerIds : Finset String := ∅
  workers : Finset Nat := ∅
  lifecycle : Option Operation := none
  handling : Option Nat := none

inductive StopOutcome
  | drainedBefore
  | raised
  | drained
  | late
deriving DecidableEq

inductive Event
  | startAccepting
  | upsertServer (serverId serverUrl apiKey : String)
  | removeServer (serverId : String)
  | stopAll
  | beginStop
  | endStop (outcome : StopOutcome)
  | register (started : Bool)
  | notify (connection : Nat)
  | handled
  | workerEnds (connection : Nat)
deriving DecidableEq

namespace Manager

variable (manager : Manager)

/-- It fails while there are connections of before. -/
def startAccepting : Manager :=
  if manager.connections.items = [] ∧ manager.stoppingServerIds = ∅ then
    { manager with acceptingConnections := true }
  else manager

/-- Go on with an operation, or give the lock back. -/
def goOn (queue : List Stopping) (wanted : Option Connection) : Manager :=
  { manager with
    lifecycle := if queue = [] ∧ wanted = none then none else some { queue, wanted } }

/-- Mark the servers of connections, and stop these next. -/
def fence (queue : List Stopping) (wanted : Option Connection) : Manager :=
  { manager with
      stoppingServerIds := manager.stoppingServerIds ∪ (queue.map Stopping.serverId).toFinset }
    |>.goOn queue wanted

def stoppingOf (entry : String × Nat) : Stopping :=
  ⟨entry.1, entry.2, entry.1 ∈ manager.stoppingServerIds⟩

/-- Create or replace a connection, up to the stop of the one before. -/
def upsertServer (serverId serverUrl apiKey : String) : Manager :=
  let normalizedUrl := String.ofList (serverUrl.toList.rdropWhile (· = '/'))
  if serverId = "" ∨ normalizedUrl = "" ∨ apiKey = "" then manager
  else if manager.acceptingConnections = false then manager
  else
    let wanted : Connection := ⟨serverId, normalizedUrl, apiKey⟩
    match manager.connections.get? serverId with
    | none => manager.goOn [] (some wanted)
    | some existing =>
        if serverId ∉ manager.stoppingServerIds
            ∧ (manager.built[existing]?.any (fun connection =>
              connection.serverUrl = normalizedUrl ∧ connection.apiKey = apiKey)) = true
            ∧ existing ∈ manager.workers then
          manager
        else manager.fence [manager.stoppingOf (serverId, existing)] (some wanted)

def removeServer (serverId : String) : Manager :=
  match manager.connections.get? serverId with
  | none => manager
  | some existing => manager.fence [manager.stoppingOf (serverId, existing)] none

def stopAll : Manager :=
  { manager with acceptingConnections := false }
    |>.fence (manager.connections.items.map manager.stoppingOf) none

/-- The start of `_stop_connection`, for the first connection that is to be stopped. -/
def beginStop (head : Stopping) (rest : List Stopping) (wanted : Option Connection) : Manager :=
  if manager.connections.get? head.serverId = some head.connection then
    { manager with
      stoppingServerIds := insert head.serverId manager.stoppingServerIds
      lifecycle := some { queue := head :: rest, begun := true, wanted } }
  else manager.goOn rest wanted

def drop (head : Stopping) : Manager :=
  { manager with
    connections :=
      if manager.connections.get? head.serverId = some head.connection then
        manager.connections.erase head.serverId
      else manager.connections
    stoppingServerIds := manager.stoppingServerIds.erase head.serverId }

/-- The end of `_stop_connection`: with the worker gone the connection is dropped. An operation
that is to replace it fails otherwise.
-/
def endStop (head : Stopping) (rest : List Stopping) (wanted : Option Connection)
    (outcome : StopOutcome)
    : Option Manager :=
  match outcome with
  -- an upsert raises here, and the shutdown goes on to the next connection
  | .raised | .late => some (if wanted = none then manager.goOn rest none else manager.goOn [] none)
  | .drainedBefore | .drained =>
      -- only a retry waits before it asks the connection to stop
      if head.connection ∈ manager.workers
          ∨ outcome = .drainedBefore ∧ head.wasStopping = false then
        none
      else some ((manager.drop head).goOn rest wanted)

/-- Register a connection whose thread starts; one whose thread does not is dropped at once. -/
def register (wanted : Connection) (started : Bool) : Manager :=
  let done := manager.goOn [] none
  if manager.acceptingConnections = false ∨ wanted.serverId ∈ manager.stoppingServerIds then done
  else if started then
    { done with
      built := manager.built ++ [wanted]
      connections := manager.connections.set wanted.serverId manager.built.length
      workers := insert manager.built.length manager.workers }
  else
    { done with
      built := manager.built ++ [wanted]
      connections :=
        (manager.connections.set wanted.serverId manager.built.length).erase wanted.serverId }

/-- Whether events of a connection are passed on. -/
def Dispatches (id : Nat) : Prop :=
  ∃ connection,
    manager.built[id]? = some connection
    ∧ manager.connections.get? connection.serverId = some id
    ∧ connection.serverId ∉ manager.stoppingServerIds

instance (id : Nat) : Decidable (manager.Dispatches id) :=
  inferInstanceAs (Decidable (∃ connection ∈ manager.built[id]?, _))

/-- What one thread does between two waits, if the locks that it needs are free. -/
def step (event : Event) : Option Manager :=
  match event, manager.lifecycle, manager.handling with
  | .startAccepting, _, _ => some manager.startAccepting
  | .upsertServer serverId serverUrl apiKey, none, none =>
      some (manager.upsertServer serverId serverUrl apiKey)
  | .removeServer serverId, none, none => some (manager.removeServer serverId)
  | .stopAll, none, none => some manager.stopAll
  | .beginStop, some ⟨head :: rest, false, wanted⟩, _ => some (manager.beginStop head rest wanted)
  | .endStop outcome, some ⟨head :: rest, true, wanted⟩, _ =>
      manager.endStop head rest wanted outcome
  | .register started, some ⟨[], _, some wanted⟩, none => some (manager.register wanted started)
  | .notify id, _, none =>
      if id ∈ manager.workers then
        some (if manager.Dispatches id then { manager with handling := some id } else manager)
      else none
  | .handled, _, some _ => some { manager with handling := none }
  | .workerEnds id, _, handling =>
      if id ∈ manager.workers ∧ handling ≠ some id then
        some { manager with workers := manager.workers.erase id }
      else none
  | _, _, _ => none

end Manager

-- What holds in every state

/-- What a manager and its threads keep, whatever its operation is about: a worker runs only for
the registered connection of its server, only registered ones are marked, and a marked one is not
handling an event.
-/
structure Kept (manager : Manager) : Prop where
  named
    : ∀ {serverId id},
        manager.connections.get? serverId = some id
        → ∃ connection, manager.built[id]? = some connection ∧ connection.serverId = serverId
  alive
    : ∀ id ∈ manager.workers,
        ∃ connection,
          manager.built[id]? = some connection
          ∧ manager.connections.get? connection.serverId = some id
  marked
    : ∀ serverId ∈ manager.stoppingServerIds, manager.connections.get? serverId ≠ none
  handling : ∀ {id}, manager.handling = some id → manager.Dispatches id

/-- The connections that an operation has still to stop are marked or gone, and before it
registers one there is none of that server.
-/
structure Fits (manager : Manager) (operation : Operation) : Prop where
  queued
    : ∀ entry ∈ operation.queue,
        manager.connections.get? entry.serverId = none
        ∨ manager.connections.get? entry.serverId = some entry.connection
          ∧ entry.serverId ∈ manager.stoppingServerIds
  replaced
    : ∀ wanted,
        operation.wanted = some wanted
        → (∀ entry ∈ operation.queue, entry.serverId = wanted.serverId)
          ∧ (operation.queue = [] → manager.connections.get? wanted.serverId = none)

structure Owned (manager : Manager) : Prop where
  kept : Kept manager
  fits : ∀ {operation}, manager.lifecycle = some operation → Fits manager operation

/-- What a step does: a connection that was built stays silent when it is silent, and where none
is registered and none is accepted it stays so, unless the step opens the manager.
-/
structure Advanced (opens : Prop) (manager next : Manager) : Prop where
  owned : Owned next
  built : manager.built.length ≤ next.built.length
  silent : ∀ id < manager.built.length, next.Dispatches id → manager.Dispatches id
  closed
    : manager.acceptingConnections = false →
        (∀ serverId, manager.connections.get? serverId = none) →
          opens
          ∨ next.acceptingConnections = false
            ∧ ∀ serverId, next.connections.get? serverId = none

section Steps

variable {opens : Prop} {manager next : Manager} {queue rest : List Stopping}
  {wanted : Option Connection} {head : Stopping}

theorem Owned.goOn (kept : Kept manager)
    (fits : Fits manager { queue, wanted })
    : Owned (manager.goOn queue wanted) := by
  refine ⟨⟨kept.named, kept.alive, kept.marked, kept.handling⟩, ?_⟩
  intro operation holds
  simp only [Manager.goOn] at holds
  split at holds
  · cases holds
  · cases holds
    exact ⟨fits.queued, fits.replaced⟩

theorem Advanced.quiet (owned : Owned next)
    (accepting : manager.acceptingConnections = false → opens ∨ next.acceptingConnections = false)
    (built : next.built = manager.built)
    (connections : next.connections = manager.connections)
    (marked : manager.stoppingServerIds ⊆ next.stoppingServerIds)
    : Advanced opens manager next := by
  refine ⟨owned, built ▸ le_refl _, ?_, fun closed none_ => ?_⟩
  · rintro id - ⟨connection, found, registered, unmarked⟩
    exact ⟨connection, built ▸ found, connections ▸ registered, fun old => unmarked (marked old)⟩
  · exact (accepting closed).imp_right (fun closed => ⟨closed, connections ▸ none_⟩)

theorem Advanced.refl (owned : Owned manager) : Advanced opens manager manager :=
  .quiet owned .inr rfl rfl (Finset.Subset.refl _)

/-- Marking the servers of registered connections, while no event is handled. -/
theorem Advanced.fence (kept : Kept manager) (idle : manager.handling = none)
    (entries
      : ∀ entry ∈ queue,
          manager.connections.get? entry.serverId = some entry.connection)
    (replaced
      : ∀ connection,
          wanted = some connection
          → queue ≠ [] ∧ ∀ entry ∈ queue, entry.serverId = connection.serverId)
    : Advanced opens manager (manager.fence queue wanted) := by
  refine .quiet (.goOn ⟨kept.named, kept.alive, ?_, ?_⟩ ⟨?_, ?_⟩) .inr rfl rfl
    Finset.subset_union_left
  · intro serverId marked
    rcases Finset.mem_union.mp marked with old | new
    · exact kept.marked serverId old
    · rcases List.mem_map.mp (List.mem_toFinset.mp new) with ⟨entry, member, rfl⟩
      simp [entries entry member]
  · intro id handled
    exact absurd (idle.symm.trans handled) (by simp)
  · intro entry member
    refine .inr ⟨entries entry member, Finset.mem_union_right _ ?_⟩
    exact List.mem_toFinset.mpr (List.mem_map_of_mem member)
  · intro connection same
    exact ⟨(replaced connection same).2, fun none_ => absurd none_ (replaced connection same).1⟩

theorem Owned.advanced_beginStop (owned : Owned manager)
    (fits : Fits manager { queue := head :: rest, wanted })
    : Advanced opens manager (manager.beginStop head rest wanted) := by
  have entry := fits.queued head List.mem_cons_self
  unfold Manager.beginStop
  split
  · next registered =>
      have marked : head.serverId ∈ manager.stoppingServerIds := by
        rcases entry with gone | ⟨-, marked⟩
        · simp [gone] at registered
        · exact marked
      rw [Finset.insert_eq_of_mem marked]
      refine .quiet ⟨⟨owned.kept.named, owned.kept.alive, owned.kept.marked, owned.kept.handling⟩,
        ?_⟩ .inr rfl rfl (Finset.Subset.refl _)
      intro operation same
      cases same
      exact ⟨fits.queued, fits.replaced⟩
  · next other =>
      refine .quiet (.goOn owned.kept ⟨?_, ?_⟩) .inr rfl rfl (Finset.Subset.refl _)
      · exact fun entry member => fits.queued entry (List.mem_cons_of_mem _ member)
      · intro connection same
        obtain ⟨servers, -⟩ := fits.replaced connection same
        refine ⟨fun entry member => servers entry (List.mem_cons_of_mem _ member), fun _ => ?_⟩
        rw [← servers head List.mem_cons_self]
        exact entry.resolve_right (fun registered => other registered.1)

theorem get?_drop (fits : Fits manager { queue := head :: rest, wanted })
    (serverId : String)
    : (manager.drop head).connections.get? serverId
      = if serverId = head.serverId then none else manager.connections.get? serverId := by
  unfold Manager.drop
  dsimp only
  split
  · exact Dict.get?_erase _ _ _
  · next other =>
      have absent := (fits.queued head List.mem_cons_self).resolve_right
        (fun registered => other registered.1)
      split
      · next same => rw [same, absent]
      · rfl

theorem Owned.advanced_drop (owned : Owned manager)
    (fits : Fits manager { queue := head :: rest, wanted })
    (gone : head.connection ∉ manager.workers)
    : Advanced opens manager ((manager.drop head).goOn rest wanted) := by
  have entry := fits.queued head List.mem_cons_self
  have remains {serverId : String} (other : serverId ≠ head.serverId)
      : (manager.drop head).connections.get? serverId = manager.connections.get? serverId := by
    rw [get?_drop fits, if_neg other]
  have absent : (manager.drop head).connections.get? head.serverId = none := by
    rw [get?_drop fits, if_pos rfl]
  have different {serverId : String} {id : Nat}
      (registered : (manager.drop head).connections.get? serverId = some id)
      : serverId ≠ head.serverId := by
    rintro rfl
    simp [absent] at registered
  refine ⟨.goOn ⟨?_, ?_, ?_, ?_⟩ ⟨?_, ?_⟩, le_refl _, ?_, ?_⟩
  · intro serverId id registered
    exact owned.kept.named (remains (different registered) ▸ registered)
  · intro id running
    rcases owned.kept.alive id running with ⟨connection, found, registered⟩
    refine ⟨connection, found, ?_⟩
    rw [remains, registered]
    intro same
    rw [← same, registered] at entry
    rcases entry with none_ | ⟨itself, -⟩
    · cases none_
    · exact gone (Option.some.inj itself ▸ running)
  · intro serverId marked
    obtain ⟨other, before⟩ := Finset.mem_erase.mp marked
    rw [remains other]
    exact owned.kept.marked serverId before
  · intro id handled
    rcases owned.kept.handling handled with ⟨connection, found, registered, unmarked⟩
    refine ⟨connection, found, ?_, fun marked => unmarked (Finset.mem_of_mem_erase marked)⟩
    rw [remains, registered]
    intro same
    rw [← same, registered] at entry
    rcases entry with none_ | ⟨-, marked⟩
    · cases none_
    · exact unmarked marked
  · intro entry member
    by_cases same : entry.serverId = head.serverId
    · exact .inl (same ▸ absent)
    · rw [remains same]
      refine (fits.queued entry (List.mem_cons_of_mem _ member)).imp_right ?_
      exact fun holds => ⟨holds.1, Finset.mem_erase.mpr ⟨same, holds.2⟩⟩
  · intro connection same
    obtain ⟨servers, -⟩ := fits.replaced connection same
    refine ⟨fun entry member => servers entry (List.mem_cons_of_mem _ member), fun _ => ?_⟩
    rw [← servers head List.mem_cons_self]
    exact absent
  · rintro id - ⟨connection, found, registered, unmarked⟩
    have other := different registered
    refine ⟨connection, found, (remains other).symm.trans registered, fun marked => ?_⟩
    exact unmarked (Finset.mem_erase.mpr ⟨other, marked⟩)
  · intro closed none_
    refine .inr ⟨closed, fun serverId => (get?_drop fits serverId).trans ?_⟩
    rw [none_, ite_self]

theorem Fits.done (manager : Manager) : Fits manager { queue := [] } :=
  ⟨fun _ member => (nomatch member), fun _ same => (nomatch same)⟩

theorem Owned.advanced_endStop (owned : Owned manager) {outcome : StopOutcome}
    (fits : Fits manager { queue := head :: rest, wanted })
    (taken : manager.endStop head rest wanted outcome = some next)
    : Advanced opens manager next := by
  have failed
      : Advanced opens manager
          (if wanted = none then manager.goOn rest none else manager.goOn [] none) := by
    split
    · refine .quiet (.goOn owned.kept ⟨?_, fun _ same => nomatch same⟩) .inr rfl rfl
        (Finset.Subset.refl _)
      exact fun entry member => fits.queued entry (List.mem_cons_of_mem _ member)
    · exact .quiet (.goOn owned.kept (.done manager)) .inr rfl rfl (Finset.Subset.refl _)
  have drained {refused : Prop} [Decidable refused]
      (taken
        : (if head.connection ∈ manager.workers ∨ refused then none
          else some ((manager.drop head).goOn rest wanted)) = some next)
      : Advanced opens manager next := by
    split at taken
    · cases taken
    · next gone =>
        cases taken
        exact owned.advanced_drop fits (fun running => gone (.inl running))
  cases outcome with
  | raised | late =>
      cases taken
      exact failed
  | drainedBefore | drained => exact drained taken

/-- Building a connection of a server that has none. It is registered and its worker runs, or
neither.
-/
theorem Owned.advanced_add (owned : Owned manager) {connection : Connection}
    {connections : Dict String Nat} {workers : Finset Nat} (idle : manager.handling = none)
    (opened : manager.acceptingConnections ≠ false)
    (free : manager.connections.get? connection.serverId = none)
    (others
      : ∀ serverId,
          serverId ≠ connection.serverId
          → connections.get? serverId = manager.connections.get? serverId)
    (own
      : connections.get? connection.serverId = some manager.built.length
          ∧ workers = insert manager.built.length manager.workers
        ∨ connections.get? connection.serverId = none ∧ workers = manager.workers)
    : Advanced opens manager
        { manager.goOn [] none with
          built := manager.built ++ [connection]
          connections
          workers } := by
  have later {id : Nat} {old : Connection} (found : manager.built[id]? = some old)
      : (manager.built ++ [connection])[id]? = some old := by
    rw [List.getElem?_append_left (List.getElem?_eq_some_iff.mp found).1, found]
  have remains {serverId : String} (known : manager.connections.get? serverId ≠ none)
      : connections.get? serverId = manager.connections.get? serverId := by
    apply others
    rintro rfl
    exact known free
  have added {serverId : String} {id : Nat} (registered : connections.get? serverId = some id)
      : id = manager.built.length ∧ serverId = connection.serverId
        ∨ manager.connections.get? serverId = some id := by
    by_cases same : serverId = connection.serverId
    · rw [same] at registered
      rcases own with ⟨here, -⟩ | ⟨absent, -⟩
      · exact .inl ⟨Option.some.inj (registered.symm.trans here), same⟩
      · simp [absent] at registered
    · exact .inr (others serverId same ▸ registered)
  refine ⟨⟨⟨?_, ?_, ?_, ?_⟩, fun holds => ?_⟩, by simp, ?_, fun closed => absurd closed opened⟩
  · intro serverId id registered
    rcases added registered with ⟨rfl, same⟩ | before
    · exact ⟨connection, by simp, same.symm⟩
    · obtain ⟨old, found, named⟩ := owned.kept.named before
      exact ⟨old, later found, named⟩
  · intro id running
    have cases_
        : id = manager.built.length
            ∧ connections.get? connection.serverId = some manager.built.length
          ∨ id ∈ manager.workers := by
      rcases own with ⟨here, rfl⟩ | ⟨-, rfl⟩
      · exact (Finset.mem_insert.mp running).imp_left (fun same => ⟨same, here⟩)
      · exact .inr running
    rcases cases_ with ⟨rfl, here⟩ | before
    · exact ⟨connection, by simp, here⟩
    · rcases owned.kept.alive id before with ⟨old, found, registered⟩
      exact ⟨old, later found, (remains (by simp [registered])).trans registered⟩
  · intro serverId marked
    have before := owned.kept.marked serverId marked
    exact (remains before).trans_ne before
  · intro id handled
    exact absurd (idle.symm.trans handled) (by simp)
  · exact absurd holds (by simp [Manager.goOn])
  · rintro id known ⟨old, found, registered, unmarked⟩
    have found : (manager.built ++ [connection])[id]? = some old := found
    rw [List.getElem?_append_left known] at found
    rcases added registered with ⟨rfl, -⟩ | before
    · exact absurd known (lt_irrefl _)
    · exact ⟨old, found, before, unmarked⟩

theorem Owned.advanced_register (owned : Owned manager) {connection : Connection}
    (idle : manager.handling = none)
    (free : manager.connections.get? connection.serverId = none) (started : Bool)
    : Advanced opens manager (manager.register connection started) := by
  unfold Manager.register
  dsimp only
  split
  · exact .quiet (.goOn owned.kept (.done manager)) .inr rfl rfl (Finset.Subset.refl _)
  · next accepted =>
      have opened := mt Or.inl accepted
      split
      · exact owned.advanced_add idle opened free (fun _ other => Dict.get?_set_ne _ _ other)
          (.inl ⟨Dict.get?_set_self _ _ _, rfl⟩)
      · refine owned.advanced_add idle opened free (fun serverId other => ?_) (.inr ⟨?_, rfl⟩)
        · rw [Dict.get?_erase, if_neg other, Dict.get?_set_ne _ _ other]
        · rw [Dict.get?_erase, if_pos rfl]

theorem Owned.advanced_upsertServer (owned : Owned manager) (idle : manager.handling = none)
    (serverId serverUrl apiKey : String)
    : Advanced opens manager (manager.upsertServer serverId serverUrl apiKey) := by
  unfold Manager.upsertServer
  dsimp only
  split
  · exact .refl owned
  · split
    · exact .refl owned
    · split
      · next free =>
          refine .quiet (.goOn owned.kept ⟨fun _ member => (nomatch member), ?_⟩) .inr rfl rfl
            (Finset.Subset.refl _)
          rintro connection ⟨⟩
          exact ⟨fun _ member => (nomatch member), fun _ => free⟩
      · next existing registered =>
          split
          · exact .refl owned
          · refine .fence owned.kept idle ?_ ?_
            · simp [Manager.stoppingOf, registered]
            · rintro connection ⟨⟩
              simp [Manager.stoppingOf]

theorem Owned.advanced_removeServer (owned : Owned manager) (idle : manager.handling = none)
    (serverId : String)
    : Advanced opens manager (manager.removeServer serverId) := by
  unfold Manager.removeServer
  split
  · exact .refl owned
  · next existing registered =>
      refine .fence owned.kept idle ?_ (fun _ same => (nomatch same))
      simp [Manager.stoppingOf, registered]

theorem Owned.advanced_stopAll (owned : Owned manager) (idle : manager.handling = none)
    : Advanced opens manager manager.stopAll := by
  have closed : Kept { manager with acceptingConnections := false } :=
    ⟨owned.kept.named, owned.kept.alive, owned.kept.marked, owned.kept.handling⟩
  have fenced :=
    @Advanced.fence opens _ (manager.connections.items.map manager.stoppingOf) none closed idle
      (by
        intro entry member
        rcases List.mem_map.mp member with ⟨item, listed, rfl⟩
        exact Dict.mem_items_iff.mp listed)
      (fun _ same => (nomatch same))
  exact ⟨fenced.owned, fenced.built, fenced.silent, fun _ => fenced.closed rfl⟩

theorem Owned.advanced_startAccepting (owned : Owned manager) (opening : opens)
    : Advanced opens manager manager.startAccepting := by
  unfold Manager.startAccepting
  split
  · refine .quiet ⟨⟨owned.kept.named, owned.kept.alive, owned.kept.marked, owned.kept.handling⟩,
      fun holds => ?_⟩ (fun _ => .inl opening) rfl rfl (Finset.Subset.refl _)
    exact ⟨(owned.fits holds).queued, (owned.fits holds).replaced⟩
  · exact .refl owned

/-- A step of a worker: it starts on an event, is done with it, or ends. -/
theorem Owned.advanced_worker (owned : Owned manager) {workers : Finset Nat} {handling : Option Nat}
    (fewer : workers ⊆ manager.workers)
    (dispatched : ∀ {id}, handling = some id → manager.Dispatches id)
    : Advanced opens manager { manager with workers, handling } := by
  refine .quiet ⟨⟨owned.kept.named, ?_, owned.kept.marked, dispatched⟩, fun holds => ?_⟩ .inr rfl
    rfl (Finset.Subset.refl _)
  · exact fun id running => owned.kept.alive id (fewer running)
  · exact ⟨(owned.fits holds).queued, (owned.fits holds).replaced⟩

/-- One step, by cases on the events. -/
theorem Owned.advanced_step (owned : Owned manager) {event : Event}
    (taken : manager.step event = some next)
    : Advanced (event = .startAccepting) manager next := by
  unfold Manager.step at taken
  split at taken
  · cases taken
    exact owned.advanced_startAccepting rfl
  · next idle =>
      cases taken
      exact owned.advanced_upsertServer idle _ _ _
  · next idle =>
      cases taken
      exact owned.advanced_removeServer idle _
  · next idle =>
      cases taken
      exact owned.advanced_stopAll idle
  · next holds =>
      cases taken
      exact owned.advanced_beginStop ⟨(owned.fits holds).queued, (owned.fits holds).replaced⟩
  · next holds =>
      exact owned.advanced_endStop ⟨(owned.fits holds).queued, (owned.fits holds).replaced⟩ taken
  · next holds idle =>
      cases taken
      exact owned.advanced_register idle (((owned.fits holds).replaced _ rfl).2 rfl) _
  · split at taken
    · cases taken
      split
      · next dispatches =>
          exact owned.advanced_worker (Finset.Subset.refl _)
            (fun same => Option.some.inj same ▸ dispatches)
      · exact .refl owned
    · cases taken
  · cases taken
    exact owned.advanced_worker (Finset.Subset.refl _) (fun same => nomatch same)
  · split at taken
    · cases taken
      exact owned.advanced_worker (Finset.erase_subset _ _) owned.kept.handling
    · cases taken
  · cases taken

end Steps

section Runs

variable {manager finish : Manager} {events later : List Event}

theorem owned_initial : Owned {} :=
  ⟨⟨fun found => (nomatch found), fun _ member => (nomatch member),
    fun _ member => (nomatch member), fun same => (nomatch same)⟩, fun holds => (nomatch holds)⟩

theorem Owned.of_run (run : Run Manager.step (fun _ _ => True) {} events manager)
    : Owned manager :=
  run.preserves Owned (fun owned _ taken => (owned.advanced_step taken).owned) owned_initial

theorem Owned.silent_run (owned : Owned manager)
    (run : Run Manager.step (fun _ _ => True) manager later finish) {id : Nat}
    (built : id < manager.built.length) (silent : ¬manager.Dispatches id)
    : ¬finish.Dispatches id := by
  have kept :=
    run.preserves
      (fun state => Owned state ∧ id < state.built.length ∧ ¬state.Dispatches id)
      (fun holds _ taken =>
        have advanced := holds.1.advanced_step taken
        ⟨advanced.owned, holds.2.1.trans_le advanced.built,
          fun dispatches => holds.2.2 (advanced.silent id holds.2.1 dispatches)⟩)
      ⟨owned, built, silent⟩
  exact kept.2.2

theorem Owned.closed_run (owned : Owned manager)
    (run : Run Manager.step (fun _ _ => True) manager later finish)
    (closed : manager.acceptingConnections = false)
    (empty : ∀ serverId, manager.connections.get? serverId = none)
    (other : .startAccepting ∉ later) (serverId : String)
    : finish.connections.get? serverId = none := by
  induction run with
  | nil => exact empty serverId
  | cons _ taken _ ih =>
      have advanced := owned.advanced_step taken
      obtain ⟨closed, empty⟩ := (advanced.closed closed empty).resolve_left
        (fun same => other (same ▸ List.mem_cons_self))
      exact ih advanced.owned closed empty (fun member => other (List.mem_cons_of_mem _ member))

end Runs

/-- In every run, however the threads interleave, a worker runs only for the connection that is
registered for its server, so for one at most of each. A connection whose server is marked, or
that is not registered any more, handles no event from then on. When all of them are stopped and
no others are accepted, no worker runs until the manager is opened again.
-/
theorem websocket_ownership {events : List Event} {manager : Manager}
    (run : Run Manager.step (fun _ _ => True) {} events manager)
    : (∀ id ∈ manager.workers,
        ∃ connection,
          manager.built[id]? = some connection
          ∧ manager.connections.get? connection.serverId = some id)
      ∧ (∀ serverId ∈ manager.stoppingServerIds, manager.connections.get? serverId ≠ none)
      ∧ ∀ {later finish},
          Run Manager.step (fun _ _ => True) manager later finish
          → (∀ id < manager.built.length, ¬manager.Dispatches id → finish.handling ≠ some id)
            ∧ (manager.acceptingConnections = false → manager.connections.items = []
              → .startAccepting ∉ later → finish.workers = ∅) := by
  have owned := Owned.of_run run
  refine ⟨owned.kept.alive, owned.kept.marked, fun {later finish} rest => ⟨?_, ?_⟩⟩
  · intro id built silent handled
    have after := Owned.of_run (run.append rest)
    exact owned.silent_run rest built silent (after.kept.handling handled)
  · intro refusing empty unopened
    have after := Owned.of_run (run.append rest)
    have none_ := owned.closed_run rest refusing
      (fun serverId => by simp [Dict.get?, empty, lookupItems]) unopened
    rw [Finset.eq_empty_iff_forall_notMem]
    intro id running
    obtain ⟨connection, -, registered⟩ := after.kept.alive id running
    rw [none_] at registered
    cases registered

/-- A server's address changes while its first connection handles an event. -/
def replacing : List Event :=
  [.upsertServer "east" "http://east/" "key", .register true, .notify 0, .handled,
    .upsertServer "east" "http://new" "key", .beginStop, .notify 0, .workerEnds 0,
    .endStop .drained, .register true]

theorem websocket_ownership_replacing
    : ∃ manager,
        Run Manager.step (fun _ _ => True) {} replacing manager
        ∧ manager.workers = {1}
        ∧ ∀ {later finish},
            Run Manager.step (fun _ _ => True) manager later finish
            → finish.handling ≠ some 0 := by
  have reached
      : ∃ manager,
          Run Manager.step (fun _ _ => True) {} replacing manager
          ∧ (manager.workers = {1} ∧ 0 < manager.built.length ∧ ¬manager.Dispatches 0) :=
    Run.exists_of_execute (by decide)
  obtain ⟨manager, run, workers, built, silent⟩ := reached
  exact ⟨manager, run, workers, fun rest =>
    ((websocket_ownership run).2.2 rest).1 0 built silent⟩

end OctoHubs.EmbyWebsockets
