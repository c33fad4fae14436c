import Mathlib.Data.List.Dedup
import Mathlib.Data.List.Sort
import OctoHubs.Library.Runs
import OctoHubs.Library.SharedLocks
import OctoHubs.Library.Text

/-! Guards of user mutations: each key of a guard is locked in its process and, by the outermost
guard of a thread that has it, fenced in the database.
-/

namespace OctoHubs.UserGuards

open OctoHubs.Library

def groupSyncKey (groupId : String) : String := "user-sync:" ++ strip groupId

def serverMutationKey (serverId : String) : String := "emby-server-mutation:" ++ strip serverId

def userMutationKey (serverId userId : String) : String :=
  "emby-user-mutation:" ++ strip serverId ++ ":" ++ strip userId

def userMutationKeys (serverId userId : String) : List String :=
  [serverMutationKey serverId, userMutationKey serverId userId]

/-- A nested synchronisation of a group competes with the outer one. -/
def isGroupSync (key : String) : Bool := "user-sync:".toList.isPrefixOf key.toList

/-- The keys of a guard in the order in which every guard takes them. -/
def orderedKeys (keys : List String) : List String :=
  ((keys.map strip).filter (· ≠ "")).dedup.insertionSort (· ≤ ·)

theorem nodup_orderedKeys (keys : List String) : (orderedKeys keys).Nodup :=
  (List.perm_insertionSort _ _).nodup_iff.mpr (List.nodup_dedup _)

/-- A thread of a process. -/
structure Owner where
  process : Nat
  thread : Nat
deriving DecidableEq

/-- What a guard does next. -/
inductive Phase
  /-- Refer to the lock of the first key that remains. -/
  | entering (remaining : List String)
  /-- Take the lock that is referred to. -/
  | trying (key : String) (entry : Nat) (remaining : List String)
  /-- Another thread has the lock: refer to it no longer. -/
  | refused (key : String) (entry : Nat)
  /-- Fence the first key that remains in the database. -/
  | fencing (remaining : List String)
  /-- The body runs. -/
  | yielded (acquired : Bool)
  /-- Give back the latest fence or lock. -/
  | unwinding
  /-- The lock is given back: refer to it no longer. -/
  | dropping (key : String) (entry : Nat)
deriving DecidableEq

/-- A guard that was entered, with what its exit gives back, the latest first. -/
structure Guard where
  keys : List String
  held : List (String × Nat)
  outermostKeys : List String
  fences : List String
  phase : Phase

/-- A thread with how often it holds each key, and its guards, the innermost first. -/
structure GuardThread where
  counts : Dict String Nat := ∅
  guards : List Guard := []

def heldKeyCount (counts : Dict String Nat) (key : String) : Nat := (counts.get? key).getD 0

/-- A key is forgotten with the last time that it is held. -/
def uncount (counts : Dict String Nat) (key : String) : Dict String Nat :=
  let remaining := (counts.get? key).getD 1 - 1
  if remaining = 0 then counts.erase key else counts.set key remaining

/-- The locks of each process, the threads, and the sessions that hold the database's locks. -/
structure GuardWorld (Hash : Type) where
  processes : Nat → LockTable String Owner
  threads : Dict Owner GuardThread
  advisory : Dict Hash Owner

namespace GuardWorld

variable {Hash : Type}

def initial : GuardWorld Hash := ⟨fun _ => .empty, ∅, ∅⟩

def thread (world : GuardWorld Hash) (owner : Owner) : GuardThread :=
  (world.threads.get? owner).getD {}

/-- A thread moves, with the locks of its process and of the database. -/
def move (world : GuardWorld Hash) (owner : Owner)
    (moved : GuardThread × LockTable String Owner × Dict Hash Owner)
    : GuardWorld Hash where
  processes := Function.update world.processes owner.process moved.2.1
  threads := world.threads.set owner moved.1
  advisory := moved.2.2

end GuardWorld

section Moves

variable {Hash : Type} [DecidableEq Hash] (hashtext : String → Hash)

/-- The next move of a thread's innermost guard. -/
def Guard.advance (owner : Owner) (counts : Dict String Nat) (guard : Guard) (below : List Guard)
    (table : LockTable String Owner) (advisory : Dict Hash Owner)
    : Option (GuardThread × LockTable String Owner × Dict Hash Owner) :=
  match guard.phase with
  | .entering [] =>
      some
        (⟨counts, { guard with phase := .fencing guard.outermostKeys } :: below⟩, table, advisory)
  | .entering (key :: remaining) =>
      let (table, entry) := table.reference key
      some (⟨counts, { guard with phase := .trying key entry remaining } :: below⟩, table, advisory)
  | .trying key entry remaining =>
      match (table.entries entry).lock.tryAcquire? owner with
      | none => some (⟨counts, { guard with phase := .refused key entry } :: below⟩, table, advisory)
      | some lock =>
          let outermost := heldKeyCount counts key = 0
          let acquired :=
            { guard with
              held := (key, entry) :: guard.held
              outermostKeys :=
                if outermost then guard.outermostKeys ++ [key] else guard.outermostKeys
              phase :=
                if ¬outermost ∧ isGroupSync key then .yielded false else .entering remaining }
          some
            (⟨counts.set key (heldKeyCount counts key + 1), acquired :: below⟩,
              table.setLock entry lock, advisory)
  | .refused key entry =>
      some
        (⟨counts, { guard with phase := .yielded false } :: below⟩, table.drop key entry, advisory)
  | .fencing [] => some (⟨counts, { guard with phase := .yielded true } :: below⟩, table, advisory)
  | .fencing (key :: remaining) =>
      if (advisory.get? (hashtext key)).isSome then
        some (⟨counts, { guard with phase := .yielded false } :: below⟩, table, advisory)
      else
        let fenced := { guard with fences := key :: guard.fences, phase := .fencing remaining }
        some (⟨counts, fenced :: below⟩, table, advisory.set (hashtext key) owner)
  | .yielded _ => none
  | .unwinding =>
      match guard.fences, guard.held with
      | key :: fences, _ =>
          some (⟨counts, { guard with fences } :: below⟩, table, advisory.erase (hashtext key))
      | [], (key, entry) :: held =>
          some
            (⟨uncount counts key, { guard with held, phase := .dropping key entry } :: below⟩,
              table.setLock entry (table.entries entry).lock.release, advisory)
      | [], [] => some (⟨counts, below⟩, table, advisory)
  | .dropping key entry =>
      some (⟨counts, { guard with phase := .unwinding } :: below⟩, table.drop key entry, advisory)

inductive GuardAction
  | enter (keys : List String)
  | advance
  | fail
  | leave
deriving DecidableEq

structure GuardEvent where
  owner : Owner
  action : GuardAction

/-- A thread enters a guard where it has none or in the body of its innermost one, and leaves the
innermost one from its body. The database can fail while a key is being fenced.
-/
def GuardThread.act (owner : Owner) (thread : GuardThread) (table : LockTable String Owner)
    (advisory : Dict Hash Owner)
    : GuardAction → Option (GuardThread × LockTable String Owner × Dict Hash Owner)
  | .enter keys =>
      let ordered := orderedKeys keys
      let entered : Guard := ⟨ordered, [], [], [], .entering ordered⟩
      match thread.guards with
      | [] => some (⟨thread.counts, [entered]⟩, table, advisory)
      | guard :: below =>
          match guard.phase with
          | .yielded _ => some (⟨thread.counts, entered :: guard :: below⟩, table, advisory)
          | _ => none
  | .advance =>
      match thread.guards with
      | [] => none
      | guard :: below => guard.advance hashtext owner thread.counts below table advisory
  | .fail =>
      match thread.guards with
      | [] => none
      | guard :: below =>
          match guard.phase with
          | .fencing (_ :: _) =>
              some (⟨thread.counts, { guard with phase := .unwinding } :: below⟩, table, advisory)
          | _ => none
  | .leave =>
      match thread.guards with
      | [] => none
      | guard :: below =>
          match guard.phase with
          | .yielded _ =>
              some (⟨thread.counts, { guard with phase := .unwinding } :: below⟩, table, advisory)
          | _ => none

def guardStep (world : GuardWorld Hash) (event : GuardEvent) : Option (GuardWorld Hash) :=
  ((world.thread event.owner).act hashtext event.owner (world.processes event.owner.process)
    world.advisory event.action).map (world.move event.owner)

end Moves

end OctoHubs.UserGuards
