import OctoHubs.UserGuards.MutationCoordinator

/-! What the guards of a thread refer to, hold and fence agrees with the locks of its process and
with the database, whatever the threads do in between.
-/

namespace OctoHubs.UserGuards

open OctoHubs.Library

-- What a thread has

/-- The lock that is referred to and not held. -/
def Phase.pending : Phase → List (String × Nat)
  | .trying key entry _ => [(key, entry)]
  | .refused key entry => [(key, entry)]
  | .dropping key entry => [(key, entry)]
  | _ => []

def Guard.references (guard : Guard) : List (String × Nat) := guard.phase.pending ++ guard.held

namespace GuardThread

def references (thread : GuardThread) : List (String × Nat) :=
  thread.guards.flatMap Guard.references

def held (thread : GuardThread) : List (String × Nat) := thread.guards.flatMap Guard.held

def fences (thread : GuardThread) : List String := thread.guards.flatMap Guard.fences

theorem mem_references_of_held {thread : GuardThread} {reference : String × Nat}
    (holds : reference ∈ thread.held)
    : reference ∈ thread.references := by
  obtain ⟨guard, open_, member⟩ := List.mem_flatMap.mp holds
  exact List.mem_flatMap.mpr ⟨guard, open_, List.mem_append_right _ member⟩

end GuardThread

theorem heldKeyCount_set (counts : Dict String Nat) (key other : String) (count : Nat)
    : heldKeyCount (counts.set key count) other
      = if other = key then count else heldKeyCount counts other := by
  rw [heldKeyCount, Dict.get?_set]
  split <;> rfl

theorem heldKeyCount_uncount (counts : Dict String Nat) (key other : String)
    : heldKeyCount (uncount counts key) other
      = if other = key then heldKeyCount counts key - 1 else heldKeyCount counts other := by
  unfold uncount
  dsimp only
  split
  · next last =>
      rw [heldKeyCount, Dict.get?_erase]
      split
      · cases found : counts.get? key with
        | none =>
            rw [heldKeyCount, found]
            rfl
        | some count =>
            rw [found] at last
            rw [heldKeyCount, found]
            exact last.symm
      · rfl
  · next more =>
      rw [heldKeyCount_set]
      cases found : counts.get? key with
      | none => exact absurd (by rw [found]; rfl) more
      | some count =>
          rw [heldKeyCount, heldKeyCount, found]
          rfl

namespace GuardWorld

variable {Hash : Type}

/-- How often the threads of a process refer to a lock. -/
def references (world : GuardWorld Hash) (process : Nat) (key : String) (entry : Nat) : Nat :=
  world.threads.total (fun owner thread =>
    if owner.process = process then thread.references.count (key, entry) else 0)

/-- How often a thread holds a lock of a process. -/
def holds (world : GuardWorld Hash) (process entry : Nat) (owner : Owner) : Nat :=
  if owner.process = process then (world.thread owner).held.countP (·.2 = entry) else 0

theorem thread_initial (owner : Owner) : (initial : GuardWorld Hash).thread owner = {} := rfl

theorem thread_move (world : GuardWorld Hash) (owner other : Owner)
    (moved : GuardThread × LockTable String Owner × Dict Hash Owner)
    : (world.move owner moved).thread other
      = if other = owner then moved.1 else world.thread other := by
  rw [thread, move, Dict.get?_set]
  split <;> rfl

theorem guards_move (world : GuardWorld Hash) (owner : Owner)
    (moved : GuardThread × LockTable String Owner × Dict Hash Owner)
    : ((world.move owner moved).thread owner).guards = moved.1.guards := by
  rw [thread_move, if_pos rfl]

theorem processes_move (world : GuardWorld Hash) (owner : Owner) (process : Nat)
    (moved : GuardThread × LockTable String Owner × Dict Hash Owner)
    : (world.move owner moved).processes process
      = if process = owner.process then moved.2.1 else world.processes process := by
  exact Function.update_apply _ _ _ _

theorem references_move (world : GuardWorld Hash) (owner : Owner) (process : Nat)
    (key : String) (entry : Nat)
    (moved : GuardThread × LockTable String Owner × Dict Hash Owner)
    : (world.move owner moved).references process key entry
        + (if owner.process = process then (world.thread owner).references.count (key, entry)
          else 0)
      = world.references process key entry
        + (if owner.process = process then moved.1.references.count (key, entry) else 0) := by
  have summed := Dict.total_set (fun owner (thread : GuardThread) =>
    if owner.process = process then thread.references.count (key, entry) else 0)
    world.threads owner moved.1
  have before
      : (world.threads.get? owner).elim 0 (fun thread =>
          if owner.process = process then thread.references.count (key, entry) else 0)
        = if owner.process = process then (world.thread owner).references.count (key, entry)
          else 0 := by
    rw [thread]
    cases world.threads.get? owner with
    | none => exact (ite_self _).symm
    | some thread => rfl
  rw [before] at summed
  exact summed

theorem references_move_here (world : GuardWorld Hash) (owner : Owner)
    (moved : GuardThread × LockTable String Owner × Dict Hash Owner) (key : String) (entry : Nat)
    : (world.move owner moved).references owner.process key entry
        + (world.thread owner).references.count (key, entry)
      = world.references owner.process key entry + moved.1.references.count (key, entry) := by
  have summed := world.references_move owner owner.process key entry moved
  rw [if_pos rfl, if_pos rfl] at summed
  exact summed

theorem references_pos_iff {world : GuardWorld Hash} {process : Nat} {key : String}
    {entry : Nat}
    : 0 < world.references process key entry
      ↔ ∃ owner, owner.process = process ∧ (key, entry) ∈ (world.thread owner).references := by
  rw [references, Dict.total_pos_iff]
  constructor
  · rintro ⟨owner, thread, found, positive⟩
    split at positive
    · next here =>
        refine ⟨owner, here, ?_⟩
        rw [GuardWorld.thread, found]
        exact List.count_pos_iff.mp positive
    · cases positive
  · rintro ⟨owner, here, member⟩
    rw [GuardWorld.thread] at member
    cases found : world.threads.get? owner with
    | none =>
        rw [found] at member
        cases member
    | some thread =>
        rw [found] at member
        refine ⟨owner, thread, found, ?_⟩
        rw [if_pos here]
        exact List.count_pos_iff.mpr member

theorem holds_move (world : GuardWorld Hash) (owner other : Owner) (process entry : Nat)
    (moved : GuardThread × LockTable String Owner × Dict Hash Owner)
    : (world.move owner moved).holds process entry other
      = if other = owner ∧ owner.process = process then moved.1.held.countP (·.2 = entry)
        else world.holds process entry other := by
  rw [holds, thread_move]
  by_cases same : other = owner
  · subst same
    rw [if_pos rfl]
    by_cases here : other.process = process
    · rw [if_pos here, if_pos ⟨rfl, here⟩]
    · rw [if_neg here, if_neg (fun both => here both.2), holds, if_neg here]
  · have apart : ¬(other = owner ∧ owner.process = process) := fun both => same both.1
    rw [if_neg same, if_neg apart, holds]

end GuardWorld

section Moves

variable {Hash : Type} [DecidableEq Hash] (hashtext : String → Hash)

/-- What a move does to what its thread has. -/
inductive Moved (owner : Owner) (thread : GuardThread) (table : LockTable String Owner)
    (advisory : Dict Hash Owner)
    (moved : GuardThread × LockTable String Owner × Dict Hash Owner) : Prop
  | rearranged
    (references : moved.1.references = thread.references)
    (held : moved.1.held = thread.held) (fences : moved.1.fences = thread.fences)
    (counts : moved.1.counts = thread.counts)
    (tables : moved.2.1 = table) (advisories : moved.2.2 = advisory)
  | referred {key : String}
    (references
      : moved.1.references = (key, (table.reference key).2) :: thread.references)
    (held : moved.1.held = thread.held) (fences : moved.1.fences = thread.fences)
    (counts : moved.1.counts = thread.counts)
    (tables : moved.2.1 = (table.reference key).1) (advisories : moved.2.2 = advisory)
  | dropped {key : String} {entry : Nat}
    (references : thread.references = (key, entry) :: moved.1.references)
    (held : moved.1.held = thread.held) (fences : moved.1.fences = thread.fences)
    (counts : moved.1.counts = thread.counts)
    (tables : moved.2.1 = table.drop key entry) (advisories : moved.2.2 = advisory)
  | locked {key : String} {entry : Nat} {lock : ReentrantLock Owner}
    (available : (table.entries entry).lock.tryAcquire? owner = some lock)
    (references : moved.1.references = thread.references)
    (held : moved.1.held = (key, entry) :: thread.held)
    (fences : moved.1.fences = thread.fences)
    (counts : moved.1.counts = thread.counts.set key (heldKeyCount thread.counts key + 1))
    (tables : moved.2.1 = table.setLock entry lock) (advisories : moved.2.2 = advisory)
  | unlocked {key : String} {entry : Nat}
    (references : moved.1.references = thread.references)
    (held : thread.held = (key, entry) :: moved.1.held)
    (fences : moved.1.fences = thread.fences)
    (counts : moved.1.counts = uncount thread.counts key)
    (tables : moved.2.1 = table.setLock entry (table.entries entry).lock.release)
    (advisories : moved.2.2 = advisory)
  | fenced {key : String} (free : advisory.get? (hashtext key) = none)
    (references : moved.1.references = thread.references)
    (held : moved.1.held = thread.held) (fences : moved.1.fences = key :: thread.fences)
    (counts : moved.1.counts = thread.counts)
    (tables : moved.2.1 = table) (advisories : moved.2.2 = advisory.set (hashtext key) owner)
  | unfenced {key : String}
    (references : moved.1.references = thread.references)
    (held : moved.1.held = thread.held) (fences : thread.fences = key :: moved.1.fences)
    (counts : moved.1.counts = thread.counts)
    (tables : moved.2.1 = table) (advisories : moved.2.2 = advisory.erase (hashtext key))

theorem Moved.of_guard {owner : Owner} {counts : Dict String Nat} {guard next : Guard}
    {below : List Guard} {table : LockTable String Owner} {advisory : Dict Hash Owner}
    (references : next.references = guard.references) (held : next.held = guard.held)
    (fences : next.fences = guard.fences)
    : Moved hashtext owner ⟨counts, guard :: below⟩ table advisory
        (⟨counts, next :: below⟩, table, advisory) := by
  refine .rearranged ?_ ?_ ?_ rfl rfl rfl
  · simp only [GuardThread.references, List.flatMap_cons, references]
  · simp only [GuardThread.held, List.flatMap_cons, held]
  · simp only [GuardThread.fences, List.flatMap_cons, fences]

theorem advance_moved {owner : Owner} {counts : Dict String Nat} {guard : Guard}
    {below : List Guard} {table : LockTable String Owner} {advisory : Dict Hash Owner}
    {moved : GuardThread × LockTable String Owner × Dict Hash Owner}
    (taken : guard.advance hashtext owner counts below table advisory = some moved)
    : Moved hashtext owner ⟨counts, guard :: below⟩ table advisory moved := by
  obtain ⟨keys, held, outermostKeys, fences, phase⟩ := guard
  cases phase with
  | entering remaining =>
      cases remaining with
      | nil =>
          cases taken
          exact .of_guard hashtext rfl rfl rfl
      | cons key remaining =>
          cases taken
          exact .referred rfl rfl rfl rfl rfl rfl
  | trying key entry remaining =>
      cases available : (table.entries entry).lock.tryAcquire? owner with
      | none =>
          simp only [Guard.advance, available] at taken
          cases taken
          exact .of_guard hashtext rfl rfl rfl
      | some lock =>
          simp only [Guard.advance, available] at taken
          cases taken
          refine .locked available ?_ rfl rfl rfl rfl rfl
          simp only [GuardThread.references, List.flatMap_cons, Guard.references]
          split <;> rfl
  | refused key entry =>
      cases taken
      exact .dropped rfl rfl rfl rfl rfl rfl
  | fencing remaining =>
      cases remaining with
      | nil =>
          cases taken
          exact .of_guard hashtext rfl rfl rfl
      | cons key remaining =>
          simp only [Guard.advance] at taken
          split at taken
          · cases taken
            exact .of_guard hashtext rfl rfl rfl
          · next free =>
              cases taken
              exact .fenced (Option.not_isSome_iff_eq_none.mp free) rfl rfl rfl rfl rfl rfl
  | yielded acquired => cases taken
  | unwinding =>
      cases fences with
      | cons key fences =>
          cases taken
          exact .unfenced rfl rfl rfl rfl rfl rfl
      | nil =>
          cases held with
          | cons reference held =>
              cases taken
              exact .unlocked rfl rfl rfl rfl rfl rfl
          | nil =>
              cases taken
              exact .rearranged rfl rfl rfl rfl rfl rfl
  | dropping key entry =>
      cases taken
      exact .dropped rfl rfl rfl rfl rfl rfl

theorem act_moved {owner : Owner} {thread : GuardThread} {table : LockTable String Owner}
    {advisory : Dict Hash Owner} {action : GuardAction}
    {moved : GuardThread × LockTable String Owner × Dict Hash Owner}
    (taken : thread.act hashtext owner table advisory action = some moved)
    : Moved hashtext owner thread table advisory moved := by
  obtain ⟨counts, guards⟩ := thread
  cases guards with
  | nil =>
      cases action with
      | enter keys =>
          cases taken
          exact .rearranged rfl rfl rfl rfl rfl rfl
      | _ => cases taken
  | cons guard below =>
      cases action with
      | enter keys =>
          simp only [GuardThread.act] at taken
          split at taken
          · cases taken
            exact .rearranged rfl rfl rfl rfl rfl rfl
          · cases taken
      | advance => exact advance_moved hashtext taken
      | fail =>
          simp only [GuardThread.act] at taken
          split at taken
          · next failing =>
              cases taken
              refine .of_guard hashtext ?_ rfl rfl
              rw [Guard.references, Guard.references, failing]
              rfl
          · cases taken
      | leave =>
          simp only [GuardThread.act] at taken
          split at taken
          · next yielded =>
              cases taken
              refine .of_guard hashtext ?_ rfl rfl
              rw [Guard.references, Guard.references, yielded]
              rfl
          · cases taken

-- Sound worlds

namespace GuardWorld

/-- The locks of the processes, the counts of the threads and the locks of the database agree with
what the guards have.
-/
structure Sound (world : GuardWorld Hash) : Prop where
  tables : ∀ process, (world.processes process).Referenced (world.references process)
  locks
    : ∀ process entry,
        ((world.processes process).entries entry).lock.Counts (world.holds process entry)
  counts
    : ∀ owner key,
        heldKeyCount (world.thread owner).counts key
        = (world.thread owner).held.countP (·.1 = key)
  fenced
    : ∀ hash owner,
        world.advisory.get? hash = some owner
        ↔ ∃ key ∈ (world.thread owner).fences, hashtext key = hash
  once : ∀ owner, ((world.thread owner).fences.map hashtext).Nodup

variable {hashtext}

theorem sound_initial : (initial : GuardWorld Hash).Sound hashtext where
  tables _ := LockTable.referenced_empty
  locks _ _ := ReentrantLock.counts_free.congr (fun _ => ite_self _)
  counts _ _ := rfl
  fenced hash owner := by
    rw [thread_initial]
    exact ⟨nofun, nofun⟩
  once owner := by
    rw [thread_initial]
    exact List.nodup_nil

variable {world : GuardWorld Hash} {owner : Owner}
  {moved : GuardThread × LockTable String Owner × Dict Hash Owner}

theorem Sound.tables_move (sound : world.Sound hashtext)
    (move : Moved hashtext owner (world.thread owner) (world.processes owner.process)
      world.advisory moved) (process : Nat)
    : ((world.move owner moved).processes process).Referenced
        ((world.move owner moved).references process) := by
  have table := sound.tables process
  rw [processes_move]
  split
  · next here =>
      subst here
      -- what the thread refers to stays
      have kept (same : moved.1.references = (world.thread owner).references)
          : (world.move owner moved).references owner.process
            = world.references owner.process := by
        funext key entry
        have summed := references_move_here world owner moved key entry
        rw [same] at summed
        exact Nat.add_right_cancel summed
      cases move with
      | rearranged references _ _ _ tables => rw [tables, kept references]; exact table
      | fenced _ references _ _ _ tables => rw [tables, kept references]; exact table
      | unfenced references _ _ _ tables => rw [tables, kept references]; exact table
      | locked _ references _ _ _ tables =>
          rw [tables, kept references]
          exact table.setLock _ _
      | unlocked references _ _ _ tables =>
          rw [tables, kept references]
          exact table.setLock _ _
      | @referred key references _ _ _ tables =>
          rw [tables]
          apply table.referenced key
          · have summed := references_move_here world owner moved key
              ((world.processes owner.process).reference key).2
            rw [references, List.count_cons_self] at summed
            omega
          · intro other entry apart
            have summed := references_move_here world owner moved other entry
            rw [references, List.count_cons_of_ne (Ne.symm apart)] at summed
            exact Nat.add_right_cancel summed
      | @dropped key entry references _ _ _ tables =>
          rw [tables]
          apply table.dropped
          · have summed := references_move_here world owner moved key entry
            rw [references, List.count_cons_self] at summed
            omega
          · intro other otherEntry apart
            have summed := references_move_here world owner moved other otherEntry
            rw [references, List.count_cons_of_ne (Ne.symm apart)] at summed
            exact Nat.add_right_cancel summed
  · next elsewhere =>
      have kept : (world.move owner moved).references process = world.references process := by
        funext key entry
        have summed := world.references_move owner process key entry moved
        rw [if_neg (Ne.symm elsewhere), if_neg (Ne.symm elsewhere)] at summed
        exact summed
      rw [kept]
      exact table

theorem Sound.holds_fresh (sound : world.Sound hashtext) (process : Nat) (other : Owner)
    : world.holds process (world.processes process).created other = 0 := by
  unfold holds
  split
  · next here =>
      refine List.countP_eq_zero.mpr ?_
      rintro ⟨key, entry⟩ member same
      have positive := references_pos_iff.mpr
        ⟨other, here, GuardThread.mem_references_of_held member⟩
      have listed := (sound.tables process).listed key entry positive
      exact absurd (of_decide_eq_true same)
        (Nat.ne_of_lt ((sound.tables process).known key entry listed))
  · rfl

theorem Sound.locks_move (sound : world.Sound hashtext)
    (move : Moved hashtext owner (world.thread owner) (world.processes owner.process)
      world.advisory moved) (process entry : Nat)
    : (((world.move owner moved).processes process).entries entry).lock.Counts
        ((world.move owner moved).holds process entry) := by
  have before := sound.locks process entry
  rw [processes_move]
  split
  · next here =>
      subst here
      have mine : world.holds owner.process entry owner
          = (world.thread owner).held.countP (·.2 = entry) :=
        if_pos rfl
      have now (other : Owner)
          : (world.move owner moved).holds owner.process entry other
            = if other = owner then moved.1.held.countP (·.2 = entry)
              else world.holds owner.process entry other := by
        rw [holds_move]
        simp only [and_true]
      have others (other : Owner) (apart : other ≠ owner)
          : (world.move owner moved).holds owner.process entry other
            = world.holds owner.process entry other := by
        rw [now, if_neg apart]
      -- what the thread holds stays
      have kept (same : moved.1.held = (world.thread owner).held) (other : Owner)
          : (world.move owner moved).holds owner.process entry other
            = world.holds owner.process entry other := by
        rw [now]
        split
        · next mover => rw [same, mover, mine]
        · rfl
      cases move with
      | rearranged _ held _ _ tables => rw [tables]; exact before.congr (kept held)
      | fenced _ _ held _ _ tables => rw [tables]; exact before.congr (kept held)
      | unfenced _ held _ _ tables => rw [tables]; exact before.congr (kept held)
      | dropped _ held _ _ tables =>
          rw [tables, LockTable.lock_drop]
          exact before.congr (kept held)
      | @referred key _ held _ _ tables =>
          rw [tables]
          rcases (world.processes owner.process).lock_reference key entry with same | ⟨rfl, fresh⟩
          · rw [same]
            exact before.congr (kept held)
          · rw [fresh]
            refine ReentrantLock.counts_free.congr (fun other => ?_)
            rw [kept held, sound.holds_fresh]
      | @locked key lockedEntry lock available _ held _ _ tables =>
          rw [tables, LockTable.lock_setLock]
          split
          · next same =>
              subst same
              refine before.acquired available ?_ others
              rw [now, if_pos rfl, mine, held,
                List.countP_cons_of_pos (by exact decide_eq_true rfl)]
          · next apart =>
              refine before.congr (fun other => ?_)
              rw [now]
              split
              · next mover =>
                  rw [mover, mine, held, List.countP_cons_of_neg]
                  exact fun same => apart (of_decide_eq_true same).symm
              · rfl
      | @unlocked key lockedEntry _ held _ _ tables =>
          rw [tables, LockTable.lock_setLock]
          split
          · next same =>
              subst same
              refine before.released ?_ others
              rw [now, if_pos rfl, mine, held,
                List.countP_cons_of_pos (by exact decide_eq_true rfl)]
          · next apart =>
              refine before.congr (fun other => ?_)
              rw [now]
              split
              · next mover =>
                  rw [mover, mine, held, List.countP_cons_of_neg]
                  exact fun same => apart (of_decide_eq_true same).symm
              · rfl
  · next elsewhere =>
      refine before.congr (fun other => ?_)
      rw [holds_move, if_neg (fun both => elsewhere both.2.symm)]

theorem Sound.counts_move (sound : world.Sound hashtext)
    (move : Moved hashtext owner (world.thread owner) (world.processes owner.process)
      world.advisory moved) (key : String)
    : heldKeyCount moved.1.counts key = moved.1.held.countP (·.1 = key) := by
  have before := sound.counts owner key
  cases move with
  | rearranged _ held _ counts => rw [held, counts]; exact before
  | fenced _ _ held _ counts => rw [held, counts]; exact before
  | unfenced _ held _ counts => rw [held, counts]; exact before
  | dropped _ held _ counts => rw [held, counts]; exact before
  | referred _ held _ counts => rw [held, counts]; exact before
  | @locked lockedKey _ _ _ _ held _ counts =>
      rw [held, counts, heldKeyCount_set, List.countP_cons]
      split
      · next same =>
          subst same
          rw [before, decide_eq_true rfl, if_pos rfl]
      · next apart =>
          rw [before, if_neg (fun same => apart (of_decide_eq_true same).symm)]
          rfl
  | @unlocked lockedKey _ _ held _ counts =>
      rw [held, List.countP_cons] at before
      rw [counts, heldKeyCount_uncount]
      split
      · next same =>
          subst same
          rw [before, decide_eq_true rfl, if_pos rfl, Nat.add_sub_cancel]
      · next apart =>
          rw [before, if_neg (fun same => apart (of_decide_eq_true same).symm)]
          rfl

theorem Sound.fenced_move (sound : world.Sound hashtext)
    (move : Moved hashtext owner (world.thread owner) (world.processes owner.process)
      world.advisory moved) (hash : Hash) (other : Owner)
    : (world.move owner moved).advisory.get? hash = some other
      ↔ ∃ key ∈ ((world.move owner moved).thread other).fences, hashtext key = hash := by
  have before := sound.fenced hash other
  change moved.2.2.get? hash = some other ↔ _
  rw [thread_move]
  have kept (same : moved.1.fences = (world.thread owner).fences)
      : (if other = owner then moved.1 else world.thread other).fences
        = (world.thread other).fences := by
    split
    · next mover => rw [same, mover]
    · rfl
  cases move with
  | rearranged _ _ fences _ _ advisories => rw [advisories, kept fences]; exact before
  | dropped _ _ fences _ _ advisories => rw [advisories, kept fences]; exact before
  | referred _ _ fences _ _ advisories => rw [advisories, kept fences]; exact before
  | locked _ _ _ fences _ _ advisories => rw [advisories, kept fences]; exact before
  | unlocked _ _ fences _ _ advisories => rw [advisories, kept fences]; exact before
  | @fenced key free _ _ fences _ _ advisories =>
      rw [advisories, Dict.get?_set]
      constructor
      · intro found
        split at found
        · next same =>
            cases found
            rw [if_pos rfl, fences]
            exact ⟨key, List.mem_cons_self, same.symm⟩
        · obtain ⟨fence, member, same⟩ := before.mp found
          refine ⟨fence, ?_, same⟩
          split
          · next mover =>
              rw [fences]
              exact List.mem_cons_of_mem _ (mover ▸ member)
          · exact member
      · rintro ⟨fence, member, same⟩
        by_cases mover : other = owner
        · subst mover
          rw [if_pos rfl, fences] at member
          rcases List.mem_cons.mp member with rfl | member
          · rw [if_pos same.symm]
          · split
            · rfl
            · exact before.mpr ⟨fence, member, same⟩
        · rw [if_neg mover] at member
          have found := before.mpr ⟨fence, member, same⟩
          rw [if_neg]
          · exact found
          · intro taken
            rw [taken, free] at found
            cases found
  | @unfenced key _ _ fences _ _ advisories =>
      rw [advisories, Dict.get?_erase]
      have owned : world.advisory.get? (hashtext key) = some owner := by
        refine (sound.fenced _ owner).mpr ⟨key, ?_, rfl⟩
        rw [fences]
        exact List.mem_cons_self
      have unique := sound.once owner
      rw [fences, List.map_cons, List.nodup_cons] at unique
      constructor
      · intro found
        split at found
        · cases found
        · next apart =>
            obtain ⟨fence, member, same⟩ := before.mp found
            refine ⟨fence, ?_, same⟩
            split
            · next mover =>
                rw [mover, fences] at member
                rcases List.mem_cons.mp member with rfl | member
                · exact absurd same.symm apart
                · exact member
            · exact member
      · rintro ⟨fence, member, same⟩
        by_cases mover : other = owner
        · subst mover
          rw [if_pos rfl] at member
          rw [if_neg]
          · refine before.mpr ⟨fence, ?_, same⟩
            rw [fences]
            exact List.mem_cons_of_mem _ member
          · intro taken
            exact unique.1 (List.mem_map.mpr ⟨fence, member, same.trans taken⟩)
        · rw [if_neg mover] at member
          have found := before.mpr ⟨fence, member, same⟩
          rw [if_neg]
          · exact found
          · intro taken
            rw [taken, owned] at found
            exact mover (Option.some.inj found).symm

theorem Sound.once_move (sound : world.Sound hashtext)
    (move : Moved hashtext owner (world.thread owner) (world.processes owner.process)
      world.advisory moved)
    : (moved.1.fences.map hashtext).Nodup := by
  have before := sound.once owner
  cases move with
  | rearranged _ _ fences => exact fences ▸ before
  | dropped _ _ fences => exact fences ▸ before
  | referred _ _ fences => exact fences ▸ before
  | locked _ _ _ fences => exact fences ▸ before
  | unlocked _ _ fences => exact fences ▸ before
  | @fenced key free _ _ fences =>
      rw [fences, List.map_cons, List.nodup_cons]
      refine ⟨?_, before⟩
      intro member
      obtain ⟨fence, held, same⟩ := List.mem_map.mp member
      have found := (sound.fenced _ owner).mpr ⟨fence, held, same⟩
      rw [free] at found
      cases found
  | unfenced _ _ fences =>
      rw [fences, List.map_cons, List.nodup_cons] at before
      exact before.2

theorem Sound.move (sound : world.Sound hashtext)
    (move : Moved hashtext owner (world.thread owner) (world.processes owner.process)
      world.advisory moved)
    : (world.move owner moved).Sound hashtext where
  tables := sound.tables_move move
  locks := sound.locks_move move
  counts other key := by
    rw [thread_move]
    split
    · exact sound.counts_move move key
    · exact sound.counts other key
  fenced := sound.fenced_move move
  once other := by
    rw [thread_move]
    split
    · exact sound.once_move move
    · exact sound.once other

theorem Sound.step {next : GuardWorld Hash} {event : GuardEvent}
    (sound : world.Sound hashtext) (taken : guardStep hashtext world event = some next)
    : next.Sound hashtext := by
  obtain ⟨moved, acted, rfl⟩ := Option.map_eq_some_iff.mp taken
  exact sound.move (act_moved hashtext acted)

end GuardWorld

end Moves

end OctoHubs.UserGuards
