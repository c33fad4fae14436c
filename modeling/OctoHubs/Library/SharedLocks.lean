import Mathlib.Algebra.GroupWithZero.Nat
import Mathlib.Logic.Function.Basic
import OctoHubs.Library.Dict

/-! Reentrant locks that several threads share by key: each lock counts who refers to it, and the
table forgets it with its last reference.
-/

namespace OctoHubs.Library

-- Sums over a dictionary

namespace Dict

variable {κ ν : Type*} [DecidableEq κ]

def weigh (weight : κ → ν → Nat) (items : List (κ × ν)) : Nat :=
  (items.map (fun item => weight item.1 item.2)).sum

/-- The sum of the weights of all entries. -/
def total (weight : κ → ν → Nat) (dict : Dict κ ν) : Nat := weigh weight dict.items

theorem weigh_writeItems (weight : κ → ν → Nat) (key : κ) (value : ν) (items : List (κ × ν))
    : weigh weight (writeItems key value items) + (lookupItems key items).elim 0 (weight key)
      = weigh weight items + weight key value := by
  induction items with
  | nil => simp [writeItems, lookupItems, weigh]
  | cons item items ih =>
      simp only [weigh, writeItems, lookupItems] at ih ⊢
      split
      · next same =>
          subst same
          simp only [List.map_cons, List.sum_cons, Option.elim_some]
          omega
      · simp only [List.map_cons, List.sum_cons]
        omega

theorem total_set (weight : κ → ν → Nat) (dict : Dict κ ν) (key : κ) (value : ν)
    : (dict.set key value).total weight + (dict.get? key).elim 0 (weight key)
      = dict.total weight + weight key value :=
  weigh_writeItems weight key value dict.items

theorem total_pos_iff {weight : κ → ν → Nat} {dict : Dict κ ν}
    : 0 < dict.total weight ↔ ∃ key value, dict.get? key = some value ∧ 0 < weight key value := by
  rw [total, weigh, List.sum_pos_iff_exists_pos_nat]
  constructor
  · rintro ⟨_, member, positive⟩
    obtain ⟨⟨key, value⟩, held, rfl⟩ := List.mem_map.mp member
    exact ⟨key, value, mem_items_iff.mp held, positive⟩
  · rintro ⟨key, value, found, positive⟩
    exact ⟨_, List.mem_map.mpr ⟨(key, value), mem_items_iff.mpr found, rfl⟩, positive⟩

end Dict

-- Reentrant locks

/-- A lock that its owner may take again. -/
structure ReentrantLock (Thread : Type*) where
  owner : Option Thread
  depth : Nat

namespace ReentrantLock

variable {Thread : Type*}

def free : ReentrantLock Thread := ⟨none, 0⟩

/-- The lock without waiting, unless another thread owns it. -/
def tryAcquire? [DecidableEq Thread] (lock : ReentrantLock Thread) (thread : Thread)
    : Option (ReentrantLock Thread) :=
  if lock.owner = none ∨ lock.owner = some thread then some ⟨some thread, lock.depth + 1⟩
  else none

def release (lock : ReentrantLock Thread) : ReentrantLock Thread :=
  if lock.depth ≤ 1 then free else { lock with depth := lock.depth - 1 }

variable [DecidableEq Thread]

/-- The lock agrees with how often each thread holds it. -/
structure Counts (lock : ReentrantLock Thread) (held : Thread → Nat) : Prop where
  held : ∀ thread, held thread = if lock.owner = some thread then lock.depth else 0
  free : lock.owner = none ↔ lock.depth = 0

theorem counts_free : (free : ReentrantLock Thread).Counts (fun _ => 0) :=
  ⟨fun _ => rfl, fun _ => rfl, fun _ => rfl⟩

theorem Counts.congr {lock : ReentrantLock Thread} {held now : Thread → Nat}
    (counts : lock.Counts held) (same : ∀ thread, now thread = held thread)
    : lock.Counts now :=
  ⟨fun thread => (same thread).trans (counts.held thread), counts.free⟩

theorem Counts.owner_iff {lock : ReentrantLock Thread} {held : Thread → Nat}
    (counts : lock.Counts held) (thread : Thread)
    : lock.owner = some thread ↔ 0 < held thread := by
  rw [counts.held]
  split
  · next owned =>
      refine ⟨fun _ => Nat.pos_of_ne_zero ?_, fun _ => owned⟩
      intro none_
      rw [counts.free.mpr none_] at owned
      cases owned
  · next unowned => exact ⟨fun owned => absurd owned unowned, nofun⟩

theorem Counts.unique {lock : ReentrantLock Thread} {held : Thread → Nat}
    (counts : lock.Counts held) {first second : Thread} (firstHolds : 0 < held first)
    (secondHolds : 0 < held second)
    : first = second := by
  have owns := (counts.owner_iff first).mpr firstHolds
  exact Option.some.inj (owns.symm.trans ((counts.owner_iff second).mpr secondHolds))

theorem Counts.acquired {lock next : ReentrantLock Thread} {held now : Thread → Nat}
    {thread : Thread} (counts : lock.Counts held) (acquired : lock.tryAcquire? thread = some next)
    (one : now thread = held thread + 1)
    (others : ∀ other, other ≠ thread → now other = held other)
    : next.Counts now := by
  unfold tryAcquire? at acquired
  split at acquired
  · next available =>
      cases acquired
      refine ⟨?_, nofun, nofun⟩
      intro other
      by_cases same : other = thread
      · subst same
        rw [one, counts.held, if_pos rfl]
        rcases available with unowned | owned
        · rw [unowned, if_neg nofun, counts.free.mp unowned]
        · rw [if_pos owned]
      · rw [others other same, counts.held, if_neg (fun owned => same (Option.some.inj owned).symm)]
        rcases available with unowned | owned
        · rw [unowned, if_neg nofun]
        · rw [owned, if_neg (fun owned => same (Option.some.inj owned).symm)]
  · cases acquired

theorem Counts.released {lock : ReentrantLock Thread} {held now : Thread → Nat}
    {thread : Thread} (counts : lock.Counts held) (one : held thread = now thread + 1)
    (others : ∀ other, other ≠ thread → now other = held other)
    : lock.release.Counts now := by
  have owned : lock.owner = some thread := by
    by_contra unowned
    have none_ := counts.held thread
    rw [if_neg unowned, one] at none_
    cases none_
  have depth : lock.depth = now thread + 1 := by
    rw [← one, counts.held, if_pos owned]
  have elsewhere (other : Thread) (apart : other ≠ thread) : now other = 0 := by
    rw [others other apart, counts.held, owned,
      if_neg (fun same => apart (Option.some.inj same).symm)]
  unfold release
  split
  · next last =>
      refine ⟨?_, fun _ => rfl, fun _ => rfl⟩
      intro other
      rw [if_neg nofun]
      by_cases same : other = thread
      · subst same
        omega
      · exact elsewhere other same
  · next more =>
    refine ⟨?_, fun unowned => (nomatch owned.symm.trans unowned), fun none_ => ?_⟩
    · intro other
      dsimp only
      by_cases same : other = thread
      · subst same
        rw [if_pos owned, depth, Nat.add_sub_cancel]
      · rw [owned, if_neg (fun owned => same (Option.some.inj owned).symm)]
        exact elsewhere other same
    · exact absurd (Nat.sub_eq_zero_iff_le.mp none_) more

end ReentrantLock

-- Counted references

structure LockEntry (Thread : Type*) where
  lock : ReentrantLock Thread
  references : Nat

/-- The locks by their keys. Every lock that was made has a number of its own. -/
structure LockTable (Key Thread : Type*) where
  locks : Dict Key Nat
  entries : Nat → LockEntry Thread
  created : Nat

namespace LockTable

variable {Key Thread : Type*}

def empty : LockTable Key Thread := ⟨∅, fun _ => ⟨.free, 0⟩, 0⟩

def setEntry (table : LockTable Key Thread) (id : Nat) (entry : LockEntry Thread)
    : LockTable Key Thread :=
  { table with entries := Function.update table.entries id entry }

def setLock (table : LockTable Key Thread) (id : Nat) (lock : ReentrantLock Thread)
    : LockTable Key Thread :=
  table.setEntry id { table.entries id with lock }

theorem entries_setEntry (table : LockTable Key Thread) (id other : Nat)
    (entry : LockEntry Thread)
    : (table.setEntry id entry).entries other
      = if other = id then entry else table.entries other := by
  unfold setEntry
  dsimp only
  rw [Function.update_apply]

theorem references_setLock (table : LockTable Key Thread) (id other : Nat)
    (lock : ReentrantLock Thread)
    : ((table.setLock id lock).entries other).references = (table.entries other).references := by
  rw [setLock, entries_setEntry]
  split
  · next same => rw [same]
  · rfl

theorem lock_setLock (table : LockTable Key Thread) (id other : Nat)
    (lock : ReentrantLock Thread)
    : ((table.setLock id lock).entries other).lock
      = if other = id then lock else (table.entries other).lock := by
  rw [setLock, entries_setEntry]
  split <;> rfl

variable [DecidableEq Key]

def reference (table : LockTable Key Thread) (key : Key) : LockTable Key Thread × Nat :=
  match table.locks.get? key with
  | some id =>
      let entry := table.entries id
      (table.setEntry id { entry with references := entry.references + 1 }, id)
  | none =>
      ({ locks := table.locks.set key table.created
         entries := Function.update table.entries table.created ⟨.free, 1⟩
         created := table.created + 1 },
        table.created)

/-- Refer to a lock no longer; the last reference takes it from the table. -/
def drop (table : LockTable Key Thread) (key : Key) (id : Nat) : LockTable Key Thread :=
  let entry := table.entries id
  let references := entry.references - 1
  let dropped := table.setEntry id { entry with references }
  if references = 0 ∧ dropped.locks.get? key = some id then
    { dropped with locks := dropped.locks.erase key }
  else dropped

/-- The table has exactly the locks that are referred to, each under one key and with the number
of its references.
-/
structure Referenced (table : LockTable Key Thread) (count : Key → Nat → Nat) : Prop where
  listed : ∀ key id, 0 < count key id → table.locks.get? key = some id
  counted
    : ∀ key id,
        table.locks.get? key = some id
        → (table.entries id).references = count key id ∧ 0 < count key id
  apart
    : ∀ key other id,
        table.locks.get? key = some id → table.locks.get? other = some id → key = other
  known : ∀ key id, table.locks.get? key = some id → id < table.created

theorem referenced_empty : (empty : LockTable Key Thread).Referenced (fun _ _ => 0) where
  listed _ _ positive := absurd positive (Nat.lt_irrefl 0)
  counted := nofun
  apart := nofun
  known := nofun

theorem Referenced.setLock {table : LockTable Key Thread} {count : Key → Nat → Nat}
    (referenced : table.Referenced count) (id : Nat) (lock : ReentrantLock Thread)
    : (table.setLock id lock).Referenced count where
  listed := referenced.listed
  counted key other found := by
    rw [references_setLock]
    exact referenced.counted key other found
  apart := referenced.apart
  known := referenced.known

theorem Referenced.referenced {table : LockTable Key Thread} {count now : Key → Nat → Nat}
    (referenced : table.Referenced count) (key : Key)
    (one : now key (table.reference key).2 = count key (table.reference key).2 + 1)
    (others
      : ∀ other id,
          (other, id) ≠ (key, (table.reference key).2) → now other id = count other id)
    : (table.reference key).1.Referenced now := by
  unfold reference at one others ⊢
  cases listed : table.locks.get? key with
  | some id =>
      simp only [listed] at one others ⊢
      refine ⟨?_, ?_, referenced.apart, referenced.known⟩
      · intro other otherId positive
        by_cases same : (other, otherId) = (key, id)
        · cases same
          exact listed
        · rw [others other otherId same] at positive
          exact referenced.listed other otherId positive
      · intro other otherId found
        have before := referenced.counted other otherId found
        by_cases same : (other, otherId) = (key, id)
        · cases same
          simp only [entries_setEntry, if_true]
          exact ⟨by rw [one, before.1], by rw [one]; exact Nat.succ_pos _⟩
        · have apart : otherId ≠ id := by
            rintro rfl
            exact same (by rw [referenced.apart other key otherId found listed])
          simp only [entries_setEntry, if_neg apart]
          rw [others other otherId same]
          exact before
  | none =>
      simp only [listed] at one others ⊢
      have unlisted (id : Nat) : count key id = 0 := by
        by_contra positive
        have found := referenced.listed key id (Nat.pos_of_ne_zero positive)
        rw [listed] at found
        cases found
      have fresh (other : Key) (id : Nat) (found : table.locks.get? other = some id)
          : id ≠ table.created :=
        Nat.ne_of_lt (referenced.known other id found)
      have cases_ (other : Key) (id : Nat)
          (found : (table.locks.set key table.created).get? other = some id)
          : (other = key ∧ id = table.created)
            ∨ (other ≠ key ∧ table.locks.get? other = some id) := by
        rw [Dict.get?_set] at found
        split at found
        · next same => exact .inl ⟨same, (Option.some.inj found).symm⟩
        · next apart => exact .inr ⟨apart, found⟩
      refine ⟨?_, ?_, ?_, ?_⟩
      · intro other id positive
        dsimp only
        rw [Dict.get?_set]
        by_cases same : (other, id) = (key, table.created)
        · cases same
          exact if_pos rfl
        · rw [others other id same] at positive
          have found := referenced.listed other id positive
          rw [if_neg]
          · exact found
          · rintro rfl
            rw [listed] at found
            cases found
      · intro other id found
        rcases cases_ other id found with ⟨rfl, rfl⟩ | ⟨apart, found⟩
        · simp only [Function.update_self]
          rw [one, unlisted]
          exact ⟨rfl, Nat.one_pos⟩
        · simp only [Function.update_of_ne (fresh other id found)]
          rw [others other id (fun same => apart (Prod.ext_iff.mp same).1)]
          exact referenced.counted other id found
      · intro other second id found secondFound
        rcases cases_ other id found with ⟨rfl, rfl⟩ | ⟨_, found⟩
        · rcases cases_ second _ secondFound with ⟨rfl, _⟩ | ⟨_, found⟩
          · rfl
          · exact absurd rfl (fresh second _ found)
        · rcases cases_ second id secondFound with ⟨_, rfl⟩ | ⟨_, secondFound⟩
          · exact absurd rfl (fresh other _ found)
          · exact referenced.apart other second id found secondFound
      · intro other id found
        rcases cases_ other id found with ⟨rfl, rfl⟩ | ⟨_, found⟩
        · exact Nat.lt_succ_self _
        · exact Nat.lt_succ_of_lt (referenced.known other id found)

theorem lock_reference (table : LockTable Key Thread) (key : Key) (id : Nat)
    : ((table.reference key).1.entries id).lock = (table.entries id).lock
      ∨ (id = table.created ∧ ((table.reference key).1.entries id).lock = .free) := by
  unfold reference
  cases table.locks.get? key with
  | some listed =>
      left
      rw [entries_setEntry]
      split
      · next same => rw [same]
      · rfl
  | none =>
      by_cases same : id = table.created
      · right
        subst same
        exact ⟨rfl, by simp only [Function.update_self]⟩
      · left
        simp only [Function.update_of_ne same]

theorem lock_drop (table : LockTable Key Thread) (key : Key) (id other : Nat)
    : ((table.drop key id).entries other).lock = (table.entries other).lock := by
  have dropped
      : ((table.drop key id).entries) other
        = (table.setEntry id { table.entries id with
            references := (table.entries id).references - 1 }).entries other := by
    unfold drop
    dsimp only
    split <;> rfl
  rw [dropped, entries_setEntry]
  split
  · next same => rw [same]
  · rfl

theorem Referenced.dropped {table : LockTable Key Thread} {count now : Key → Nat → Nat}
    (referenced : table.Referenced count) {key : Key} {id : Nat}
    (one : count key id = now key id + 1)
    (others
      : ∀ other otherId, (other, otherId) ≠ (key, id) → now other otherId = count other otherId)
    : (table.drop key id).Referenced now := by
  have listed := referenced.listed key id (by rw [one]; exact Nat.succ_pos _)
  have references : (table.entries id).references - 1 = now key id := by
    rw [(referenced.counted key id listed).1, one, Nat.add_sub_cancel]
  have unmoved (other : Key) (otherId : Nat) (found : table.locks.get? other = some otherId)
      (apart : other ≠ key)
      : ((table.setEntry id { table.entries id with
            references := (table.entries id).references - 1 }).entries otherId).references
          = now other otherId ∧ 0 < now other otherId := by
    have different : otherId ≠ id := by
      rintro rfl
      exact apart (referenced.apart other key otherId found listed)
    rw [entries_setEntry, if_neg different,
      others other otherId (fun same => apart (Prod.ext_iff.mp same).1)]
    exact referenced.counted other otherId found
  have only (otherId : Nat) (positive : 0 < now key otherId) : otherId = id := by
    by_contra different
    rw [others key otherId (fun same => different (Prod.ext_iff.mp same).2)] at positive
    have found := referenced.listed key otherId positive
    exact different (Option.some.inj (found.symm.trans listed))
  unfold drop
  dsimp only
  split
  · next last =>
      rw [references] at last
      have kept (other : Key) (otherId : Nat)
          (found : (table.locks.erase key).get? other = some otherId)
          : other ≠ key ∧ table.locks.get? other = some otherId := by
        rw [Dict.get?_erase] at found
        split at found
        · cases found
        · next apart => exact ⟨apart, found⟩
      refine ⟨?_, ?_, ?_, ?_⟩
      · intro other otherId positive
        dsimp only [setEntry]
        have apart : other ≠ key := by
          rintro rfl
          have same := only otherId positive
          subst same
          rw [last.1] at positive
          cases positive
        rw [Dict.get?_erase, if_neg apart]
        rw [others other otherId (fun same => apart (Prod.ext_iff.mp same).1)] at positive
        exact referenced.listed other otherId positive
      · intro other otherId found
        obtain ⟨apart, found⟩ := kept other otherId found
        exact unmoved other otherId found apart
      · intro other second otherId found secondFound
        exact referenced.apart other second otherId (kept other otherId found).2
          (kept second otherId secondFound).2
      · intro other otherId found
        exact referenced.known other otherId (kept other otherId found).2
  · next more =>
      rw [references] at more
      have positive : 0 < now key id :=
        Nat.pos_of_ne_zero (fun zero => more ⟨zero, listed⟩)
      refine ⟨?_, ?_, referenced.apart, referenced.known⟩
      · intro other otherId some_
        by_cases same : (other, otherId) = (key, id)
        · cases same
          exact listed
        · rw [others other otherId same] at some_
          exact referenced.listed other otherId some_
      · intro other otherId found
        by_cases same : other = key
        · subst same
          have sameId := Option.some.inj (found.symm.trans listed)
          subst sameId
          refine ⟨?_, positive⟩
          rw [entries_setEntry, if_pos rfl]
          exact references
        · exact unmoved other otherId found same

end LockTable

end OctoHubs.Library
