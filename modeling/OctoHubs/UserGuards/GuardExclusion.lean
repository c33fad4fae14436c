import OctoHubs.UserGuards.GuardMoves

/-! Two guards that both have acquired never share a key, as long as every key that a thread takes
again is one that it has fenced.
-/

namespace OctoHubs.UserGuards

open OctoHubs.Library

def Guard.heldKeys (guard : Guard) : List String := guard.held.map Prod.fst

def heldKeysOf (guards : List Guard) : List String := guards.flatMap Guard.heldKeys

def fencesOf (guards : List Guard) : List String := guards.flatMap Guard.fences

/-- How far a guard has come. -/
def Guard.Placed (guard : Guard) : Prop :=
  match guard.phase with
  | .entering remaining => guard.heldKeys.reverse ++ remaining = guard.keys ∧ guard.fences = []
  | .trying key _ remaining =>
      guard.heldKeys.reverse ++ key :: remaining = guard.keys ∧ guard.fences = []
  | .fencing remaining =>
      guard.heldKeys.reverse = guard.keys
      ∧ guard.fences.reverse ++ remaining = guard.outermostKeys
  | .yielded true =>
      guard.heldKeys.reverse = guard.keys ∧ guard.fences.reverse = guard.outermostKeys
  | _ => True

/-- A guard takes its keys in order, and fences those that no guard around it holds. -/
structure Guard.Shaped (guard : Guard) (below : List Guard) : Prop where
  distinct : guard.keys.Nodup
  placed : guard.Placed
  outermost
    : ∀ key ∈ guard.heldKeys, key ∈ guard.outermostKeys ∨ key ∈ heldKeysOf below

def Stacked : List Guard → Prop
  | [] => True
  | guard :: below => guard.Shaped below ∧ Stacked below

/-- The keys that the guards around a guard hold already are fenced by them. -/
def NestedFenced : List Guard → Prop
  | [] => True
  | guard :: below =>
      (∀ key ∈ guard.keys, key ∈ heldKeysOf below → key ∈ fencesOf below) ∧ NestedFenced below

theorem heldKeysOf_eq (thread : GuardThread)
    : heldKeysOf thread.guards = thread.held.map Prod.fst := by
  rw [heldKeysOf, GuardThread.held, List.map_flatMap]
  rfl

theorem count_eq_zero_iff {thread : GuardThread} {key : String}
    : thread.held.countP (·.1 = key) = 0 ↔ key ∉ heldKeysOf thread.guards := by
  rw [heldKeysOf_eq, List.countP_eq_zero, List.mem_map]
  constructor
  · rintro none_ ⟨reference, member, same⟩
    exact none_ reference member (decide_eq_true same)
  · intro absent reference member same
    exact absent ⟨reference, member, of_decide_eq_true same⟩

theorem fenced_of_acquires {guards : List Guard} (stacked : Stacked guards)
    (nested : NestedFenced guards) {guard : Guard} (open_ : guard ∈ guards)
    (yielded : guard.phase = .yielded true) {key : String} (member : key ∈ guard.keys)
    : key ∈ fencesOf guards := by
  induction guards with
  | nil => cases open_
  | cons first rest ih =>
      rcases List.mem_cons.mp open_ with rfl | open_
      · have placed := stacked.1.placed
        rw [Guard.Placed, yielded] at placed
        have held : key ∈ guard.heldKeys := by
          rw [← List.mem_reverse, placed.1]
          exact member
        rcases stacked.1.outermost key held with outermost | around
        · rw [← placed.2, List.mem_reverse] at outermost
          exact List.mem_append_left _ outermost
        · exact List.mem_append_right _ (nested.1 key member around)
      · exact List.mem_append_right _ (ih stacked.2 nested.2 open_)

namespace GuardWorld

variable {Hash : Type}

def Acquires (world : GuardWorld Hash) (owner : Owner) (key : String) : Prop :=
  ∃ guard ∈ (world.thread owner).guards, guard.phase = .yielded true ∧ key ∈ guard.keys

instance (world : GuardWorld Hash) (owner : Owner) (key : String)
    : Decidable (world.Acquires owner key) :=
  inferInstanceAs (Decidable (∃ guard ∈ (world.thread owner).guards, _))

/-- No two threads have acquired a key. -/
def Exclusive (world : GuardWorld Hash) : Prop :=
  ∀ owner other key, world.Acquires owner key → world.Acquires other key → owner = other

/-- No two threads of a process have acquired a key. -/
def ProcessExclusive (world : GuardWorld Hash) : Prop :=
  ∀ owner other key,
    owner.process = other.process
    → world.Acquires owner key
    → world.Acquires other key
    → owner = other

/-- A process has a lock for a key exactly while one of its threads refers to it. -/
def Tabled (world : GuardWorld Hash) : Prop :=
  ∀ process key,
    ((world.processes process).locks.get? key).isSome = true
    ↔ ∃ owner entry,
        owner.process = process ∧ (key, entry) ∈ (world.thread owner).references

theorem held_of_acquires {world : GuardWorld Hash} {owner : Owner} {key : String}
    (stacked : Stacked (world.thread owner).guards) (acquires : world.Acquires owner key)
    : ∃ entry, (key, entry) ∈ (world.thread owner).held := by
  obtain ⟨guard, open_, yielded, member⟩ := acquires
  have shaped : guard.Placed := by
    generalize (world.thread owner).guards = guards at stacked open_
    induction guards with
    | nil => cases open_
    | cons first rest ih =>
        rcases List.mem_cons.mp open_ with rfl | open_
        · exact stacked.1.placed
        · exact ih stacked.2 open_
  rw [Guard.Placed, yielded] at shaped
  rw [← shaped.1, List.mem_reverse] at member
  obtain ⟨⟨other, entry⟩, held, rfl⟩ := List.mem_map.mp member
  exact ⟨entry, List.mem_flatMap.mpr ⟨guard, open_, held⟩⟩

/-- The guards of every thread are within fences. -/
def Nested (world : GuardWorld Hash) : Prop :=
  ∀ owner, NestedFenced (world.thread owner).guards

theorem nested_initial : (initial : GuardWorld Hash).Nested := fun _ => trivial

end GuardWorld

section Exclusion

variable {Hash : Type} [DecidableEq Hash] {hashtext : String → Hash}

theorem Guard.Shaped.of_held {guard next : Guard} {below : List Guard}
    (shaped : guard.Shaped below) (keys : next.keys = guard.keys)
    (held : next.heldKeys ⊆ guard.heldKeys) (outermost : next.outermostKeys = guard.outermostKeys)
    (placed : next.Placed)
    : next.Shaped below where
  distinct := keys ▸ shaped.distinct
  placed := placed
  outermost key member := outermost ▸ shaped.outermost key (held member)

theorem Guard.placed_locked {guard : Guard} {competes : Prop} [Decidable competes]
    {remaining : List String}
    (phase : guard.phase = if competes then .yielded false else .entering remaining)
    (ordered : guard.heldKeys.reverse ++ remaining = guard.keys) (unfenced : guard.fences = [])
    : guard.Placed := by
  unfold Guard.Placed
  rw [phase]
  by_cases nested : competes
  · rw [if_pos nested]
    trivial
  · rw [if_neg nested]
    exact ⟨ordered, unfenced⟩

theorem Stacked.advance {owner : Owner} {counts : Dict String Nat} {guard : Guard}
    {below : List Guard} {table : LockTable String Owner} {advisory : Dict Hash Owner}
    {moved : GuardThread × LockTable String Owner × Dict Hash Owner}
    (stacked : Stacked (guard :: below))
    (counted
      : ∀ key, heldKeyCount counts key = 0 ↔ key ∉ heldKeysOf (guard :: below))
    (taken : guard.advance hashtext owner counts below table advisory = some moved)
    : Stacked moved.1.guards := by
  obtain ⟨shaped, rest⟩ := stacked
  have placed := shaped.placed
  obtain ⟨keys, held, outermostKeys, fences, phase⟩ := guard
  cases phase with
  | entering remaining =>
      cases remaining with
      | nil =>
          cases taken
          have all : (held.map Prod.fst).reverse = keys :=
            (List.append_nil _).symm.trans placed.1
          have unfenced : fences = [] := placed.2
          refine ⟨shaped.of_held rfl (List.Subset.refl _) rfl ⟨all, ?_⟩, rest⟩
          rw [unfenced]
          rfl
      | cons key remaining =>
          cases taken
          exact ⟨shaped.of_held rfl (List.Subset.refl _) rfl placed, rest⟩
  | trying key entry remaining =>
      cases available : (table.entries entry).lock.tryAcquire? owner with
      | none =>
          simp only [Guard.advance, available] at taken
          cases taken
          exact ⟨shaped.of_held rfl (List.Subset.refl _) rfl trivial, rest⟩
      | some lock =>
          simp only [Guard.advance, available] at taken
          cases taken
          refine ⟨⟨shaped.distinct, ?_, ?_⟩, rest⟩
          · -- the key moves from those that remain to those that are held
            refine Guard.placed_locked rfl ?_ placed.2
            rw [Guard.heldKeys, List.map_cons, List.reverse_cons, List.append_assoc]
            exact placed.1
          · have apart : key ∉ held.map Prod.fst := by
              intro member
              have distinct := shaped.distinct
              rw [← placed.1] at distinct
              exact (List.disjoint_of_nodup_append distinct) (List.mem_reverse.mpr member)
                List.mem_cons_self
            intro other member
            by_cases first : heldKeyCount counts key = 0
            · simp only [first, if_true]
              rcases List.mem_cons.mp member with rfl | member
              · exact .inl (List.mem_append_right _ List.mem_cons_self)
              · exact (shaped.outermost other member).imp_left (List.mem_append_left _)
            · simp only [first, if_false]
              rcases List.mem_cons.mp member with rfl | member
              · right
                rw [counted, not_not] at first
                exact (List.mem_append.mp first).resolve_left apart
              · exact shaped.outermost other member
  | refused key entry =>
      cases taken
      exact ⟨shaped.of_held rfl (List.Subset.refl _) rfl trivial, rest⟩
  | fencing remaining =>
      cases remaining with
      | nil =>
          cases taken
          refine ⟨shaped.of_held rfl (List.Subset.refl _) rfl ⟨placed.1, ?_⟩, rest⟩
          simpa using placed.2
      | cons key remaining =>
          simp only [Guard.advance] at taken
          split at taken
          · cases taken
            exact ⟨shaped.of_held rfl (List.Subset.refl _) rfl trivial, rest⟩
          · cases taken
            refine ⟨shaped.of_held rfl (List.Subset.refl _) rfl ⟨placed.1, ?_⟩, rest⟩
            have fenced := placed.2
            rw [List.reverse_cons, List.append_assoc]
            exact fenced
  | yielded acquired => cases taken
  | unwinding =>
      cases fences with
      | cons key fences =>
          cases taken
          exact ⟨shaped.of_held rfl (List.Subset.refl _) rfl trivial, rest⟩
      | nil =>
          cases held with
          | cons reference held =>
              cases taken
              exact ⟨shaped.of_held rfl (List.subset_cons_self _ _) rfl trivial, rest⟩
          | nil =>
              cases taken
              exact rest
  | dropping key entry =>
      cases taken
      exact ⟨shaped.of_held rfl (List.Subset.refl _) rfl trivial, rest⟩

/-- What an action does to the guards of its thread. -/
inductive Reguarded (thread : GuardThread) (action : GuardAction) (guards : List Guard) : Prop
  | entered {keys : List String} (entering : action = .enter keys)
    (pushed
      : guards
        = ⟨orderedKeys keys, [], [], [], .entering (orderedKeys keys)⟩ :: thread.guards)
  | changed {guard next : Guard} {below : List Guard} (open_ : thread.guards = guard :: below)
    (changes : guards = next :: below) (keys : next.keys = guard.keys)
  | ended {guard : Guard} (open_ : thread.guards = guard :: guards)

theorem advance_reguarded {owner : Owner} {counts : Dict String Nat} {guard : Guard}
    {below : List Guard} {table : LockTable String Owner} {advisory : Dict Hash Owner}
    {moved : GuardThread × LockTable String Owner × Dict Hash Owner}
    (taken : guard.advance hashtext owner counts below table advisory = some moved)
    : Reguarded ⟨counts, guard :: below⟩ .advance moved.1.guards := by
  unfold Guard.advance at taken
  split at taken
  · cases taken
    exact .changed rfl rfl rfl
  · cases taken
    exact .changed rfl rfl rfl
  · split at taken <;> cases taken <;> exact .changed rfl rfl rfl
  · cases taken
    exact .changed rfl rfl rfl
  · cases taken
    exact .changed rfl rfl rfl
  · split at taken <;> cases taken <;> exact .changed rfl rfl rfl
  · cases taken
  · split at taken
    · cases taken
      exact .changed rfl rfl rfl
    · cases taken
      exact .changed rfl rfl rfl
    · cases taken
      exact .ended rfl
  · cases taken
    exact .changed rfl rfl rfl

theorem act_reguarded {owner : Owner} {thread : GuardThread} {table : LockTable String Owner}
    {advisory : Dict Hash Owner} {action : GuardAction}
    {moved : GuardThread × LockTable String Owner × Dict Hash Owner}
    (taken : thread.act hashtext owner table advisory action = some moved)
    : Reguarded thread action moved.1.guards := by
  obtain ⟨counts, guards⟩ := thread
  cases guards with
  | nil =>
      cases action with
      | enter keys =>
          cases taken
          exact .entered rfl rfl
      | _ => cases taken
  | cons guard below =>
      cases action with
      | enter keys =>
          simp only [GuardThread.act] at taken
          split at taken
          · cases taken
            exact .entered rfl rfl
          · cases taken
      | advance => exact advance_reguarded taken
      | fail =>
          simp only [GuardThread.act] at taken
          split at taken
          · cases taken
            exact .changed rfl rfl rfl
          · cases taken
      | leave =>
          simp only [GuardThread.act] at taken
          split at taken
          · cases taken
            exact .changed rfl rfl rfl
          · cases taken

theorem Stacked.act {owner : Owner} {thread : GuardThread} {table : LockTable String Owner}
    {advisory : Dict Hash Owner} {action : GuardAction}
    {moved : GuardThread × LockTable String Owner × Dict Hash Owner}
    (stacked : Stacked thread.guards)
    (counted : ∀ key, heldKeyCount thread.counts key = thread.held.countP (·.1 = key))
    (taken : thread.act hashtext owner table advisory action = some moved)
    : Stacked moved.1.guards := by
  obtain ⟨counts, guards⟩ := thread
  have fresh (keys : List String) (guards : List Guard)
      : (⟨orderedKeys keys, [], [], [], .entering (orderedKeys keys)⟩ : Guard).Shaped guards :=
    ⟨nodup_orderedKeys keys, ⟨rfl, rfl⟩, fun _ member => (List.not_mem_nil member).elim⟩
  cases guards with
  | nil =>
      cases action with
      | enter keys =>
          cases taken
          exact ⟨fresh keys [], trivial⟩
      | _ => cases taken
  | cons guard below =>
      cases action with
      | enter keys =>
          simp only [GuardThread.act] at taken
          split at taken
          · cases taken
            exact ⟨fresh keys _, stacked⟩
          · cases taken
      | advance =>
          refine stacked.advance (fun key => ?_) taken
          rw [counted]
          exact count_eq_zero_iff
      | fail =>
          simp only [GuardThread.act] at taken
          split at taken
          · cases taken
            exact ⟨stacked.1.of_held rfl (List.Subset.refl _) rfl trivial, stacked.2⟩
          · cases taken
      | leave =>
          simp only [GuardThread.act] at taken
          split at taken
          · cases taken
            exact ⟨stacked.1.of_held rfl (List.Subset.refl _) rfl trivial, stacked.2⟩
          · cases taken

namespace GuardWorld

variable (hashtext)

/-- A thread owns the locks that its open guards hold, and no others. -/
def Accounted (world : GuardWorld Hash) : Prop :=
  ∀ owner : Owner,
    (∀ process entry,
      ((world.processes process).entries entry).lock.owner = some owner
      ↔ owner.process = process ∧ ∃ key, (key, entry) ∈ (world.thread owner).held)
    ∧ (∀ hash,
      world.advisory.get? hash = some owner
      ↔ ∃ key ∈ (world.thread owner).fences, hashtext key = hash)

/-- A guard that is left, acquired or not, comes to its end by its own moves. -/
def Ends (world : GuardWorld Hash) : Prop :=
  ∀ owner guard below acquired,
    (world.thread owner).guards = guard :: below
    → guard.phase = .yielded acquired
    → ∃ count next,
        Run (guardStep hashtext) (fun _ _ => True) world
          (⟨owner, .leave⟩ :: List.replicate count ⟨owner, .advance⟩) next
        ∧ (next.thread owner).guards = below

/-- A thread enters a guard only with keys that it does not hold or has fenced. -/
def NestedInFence (world : GuardWorld Hash) (event : GuardEvent) : Prop :=
  ∀ keys,
    event.action = .enter keys
    → ∀ key ∈ orderedKeys keys,
        0 < heldKeyCount (world.thread event.owner).counts key
        → key ∈ (world.thread event.owner).fences

variable {hashtext}

/-- What holds in every run. -/
structure Kept (hashtext : String → Hash) (world : GuardWorld Hash) : Prop where
  sound : world.Sound hashtext
  stacked : ∀ owner, Stacked (world.thread owner).guards

theorem kept_initial : (initial : GuardWorld Hash).Kept hashtext where
  sound := sound_initial
  stacked _ := trivial

theorem Kept.step {world next : GuardWorld Hash} {event : GuardEvent}
    (kept : world.Kept hashtext) (taken : guardStep hashtext world event = some next)
    : next.Kept hashtext where
  sound := kept.sound.step taken
  stacked owner := by
    obtain ⟨moved, acted, rfl⟩ := Option.map_eq_some_iff.mp taken
    rw [thread_move]
    split
    · exact (kept.stacked event.owner).act (kept.sound.counts event.owner) acted
    · exact kept.stacked owner

theorem Nested.step {world next : GuardWorld Hash} {event : GuardEvent}
    (nested : world.Nested) (kept : world.Kept hashtext) (within : world.NestedInFence event)
    (taken : guardStep hashtext world event = some next)
    : next.Nested := by
  intro owner
  obtain ⟨moved, acted, rfl⟩ := Option.map_eq_some_iff.mp taken
  rw [thread_move]
  split
  · have before := nested event.owner
    cases act_reguarded acted with
    | @entered keys entering pushed =>
        rw [pushed]
        refine ⟨?_, before⟩
        intro key member held
        refine within keys entering key member ?_
        rw [kept.sound.counts]
        apply Nat.pos_of_ne_zero
        rw [ne_eq, count_eq_zero_iff, not_not]
        exact held
    | changed open_ changes keys =>
        rw [open_] at before
        rw [changes]
        exact ⟨keys ▸ before.1, before.2⟩
    | ended open_ =>
        rw [open_] at before
        exact before.2
  · exact nested owner

theorem Kept.exclusive {world : GuardWorld Hash} (kept : world.Kept hashtext)
    (nested : world.Nested)
    : world.Exclusive := by
  have fenced (owner : Owner) (key : String) (acquires : world.Acquires owner key)
      : world.advisory.get? (hashtext key) = some owner := by
    obtain ⟨guard, open_, yielded, member⟩ := acquires
    exact (kept.sound.fenced _ owner).mpr
      ⟨key, fenced_of_acquires (kept.stacked owner) (nested owner) open_ yielded member, rfl⟩
  intro owner other key first second
  exact Option.some.inj ((fenced owner key first).symm.trans (fenced other key second))

theorem Kept.processExclusive {world : GuardWorld Hash} (kept : world.Kept hashtext)
    : world.ProcessExclusive := by
  intro owner other key together first second
  obtain ⟨entry, held⟩ := held_of_acquires (kept.stacked owner) first
  obtain ⟨otherEntry, otherHeld⟩ := held_of_acquires (kept.stacked other) second
  have table := kept.sound.tables other.process
  -- both refer to the lock that the table has for the key
  have listed := table.listed key entry
    (references_pos_iff.mpr ⟨owner, together, GuardThread.mem_references_of_held held⟩)
  have otherListed := table.listed key otherEntry
    (references_pos_iff.mpr ⟨other, rfl, GuardThread.mem_references_of_held otherHeld⟩)
  have same : otherEntry = entry := Option.some.inj (otherListed.symm.trans listed)
  subst same
  apply (kept.sound.locks other.process otherEntry).unique
  · rw [holds, if_pos together]
    exact List.countP_pos_iff.mpr ⟨_, held, decide_eq_true rfl⟩
  · rw [holds, if_pos rfl]
    exact List.countP_pos_iff.mpr ⟨_, otherHeld, decide_eq_true rfl⟩

theorem Kept.tabled {world : GuardWorld Hash} (kept : world.Kept hashtext) : world.Tabled := by
  intro process key
  have table := kept.sound.tables process
  constructor
  · intro listed
    obtain ⟨entry, found⟩ := Option.isSome_iff_exists.mp listed
    obtain ⟨owner, here, member⟩ := references_pos_iff.mp (table.counted key entry found).2
    exact ⟨owner, entry, here, member⟩
  · rintro ⟨owner, entry, here, member⟩
    rw [table.listed key entry (references_pos_iff.mpr ⟨owner, here, member⟩)]
    rfl

theorem Kept.accounted {world : GuardWorld Hash} (kept : world.Kept hashtext)
    : world.Accounted hashtext := by
  intro owner
  refine ⟨?_, fun hash => kept.sound.fenced hash owner⟩
  intro process entry
  rw [(kept.sound.locks process entry).owner_iff, holds]
  split
  · next here =>
      rw [List.countP_pos_iff]
      constructor
      · rintro ⟨⟨key, other⟩, member, same⟩
        exact ⟨here, key, of_decide_eq_true same ▸ member⟩
      · rintro ⟨_, key, member⟩
        exact ⟨_, member, decide_eq_true rfl⟩
  · next elsewhere =>
      exact ⟨fun holds => absurd holds (Nat.lt_irrefl 0), fun owned => absurd owned.1 elsewhere⟩

variable (hashtext)

theorem step_advance {world : GuardWorld Hash} {owner : Owner} {guard : Guard}
    {below : List Guard} {moved : GuardThread × LockTable String Owner × Dict Hash Owner}
    (open_ : (world.thread owner).guards = guard :: below)
    (taken
      : guard.advance hashtext owner (world.thread owner).counts below
          (world.processes owner.process) world.advisory = some moved)
    : ∃ next,
        guardStep hashtext world ⟨owner, .advance⟩ = some next
        ∧ (next.thread owner).guards = moved.1.guards := by
  refine ⟨world.move owner moved, ?_, world.guards_move owner moved⟩
  simp only [guardStep, GuardThread.act, open_, taken, Option.map_some]

/-- A guard that unwinds gives everything back, by induction on what it has. -/
theorem unwinds (owner : Owner) (below : List Guard) (size : Nat) (world : GuardWorld Hash)
    (guard : Guard) (open_ : (world.thread owner).guards = guard :: below)
    (unwinding : guard.phase = .unwinding)
    (sized : guard.fences.length + guard.held.length = size)
    : ∃ count next,
        Run (guardStep hashtext) (fun _ _ => True) world
          (List.replicate count ⟨owner, .advance⟩) next
        ∧ (next.thread owner).guards = below := by
  obtain ⟨keys, held, outermostKeys, fences, phase⟩ := guard
  cases unwinding
  induction size generalizing world held fences with
  | zero =>
      have none_ := Nat.eq_zero_of_add_eq_zero sized
      cases List.eq_nil_of_length_eq_zero none_.1
      cases List.eq_nil_of_length_eq_zero none_.2
      obtain ⟨next, taken, after⟩ := step_advance hashtext open_ rfl
      exact ⟨1, next, .cons trivial taken (.nil _), after⟩
  | succ size ih =>
      cases fences with
      | cons key fences =>
          obtain ⟨next, taken, after⟩ := step_advance hashtext open_ rfl
          have smaller : fences.length + held.length = size := by
            simpa [Nat.succ_add] using sized
          obtain ⟨count, finish, run, ended⟩ := ih next held fences after smaller
          exact ⟨count + 1, finish, .cons trivial taken run, ended⟩
      | nil =>
          cases held with
          | nil => cases sized
          | cons reference held =>
              obtain ⟨middle, taken, released⟩ := step_advance hashtext open_ rfl
              obtain ⟨next, dropped, after⟩ := step_advance hashtext released rfl
              have smaller : ([] : List String).length + held.length = size := by
                simpa using sized
              obtain ⟨count, finish, run, ended⟩ := ih next held [] after smaller
              exact ⟨count + 2, finish, .cons trivial taken (.cons trivial dropped run), ended⟩

theorem ends (world : GuardWorld Hash) : world.Ends hashtext := by
  intro owner guard below acquired open_ yielded
  obtain ⟨next, taken, left⟩
      : ∃ next,
          guardStep hashtext world ⟨owner, .leave⟩ = some next
          ∧ (next.thread owner).guards = { guard with phase := .unwinding } :: below := by
    refine ⟨_, ?_, world.guards_move owner
      (⟨(world.thread owner).counts, { guard with phase := .unwinding } :: below⟩,
        world.processes owner.process, world.advisory)⟩
    simp only [guardStep, GuardThread.act, open_, yielded, Option.map_some]
  obtain ⟨count, finish, run, ended⟩ := unwinds hashtext owner below _ next _ left rfl rfl
  exact ⟨count, finish, .cons trivial taken run, ended⟩

variable {hashtext}

/-- In every run whose guards nest within fences, no two threads have acquired a key. In every run
whatever this holds within each process, the table of locks is exact, threads own what their open
guards hold, and a guard that is left comes to its end.
-/
theorem guards_exclude (events : List GuardEvent) (finish : GuardWorld Hash)
    : (Run (guardStep hashtext) NestedInFence .initial events finish → finish.Exclusive)
      ∧ (Run (guardStep hashtext) (fun _ _ => True) .initial events finish
        → finish.ProcessExclusive
          ∧ finish.Tabled
          ∧ finish.Accounted hashtext
          ∧ finish.Ends hashtext) := by
  constructor
  · intro run
    have kept := run.preserves (fun world => world.Kept hashtext ∧ world.Nested)
      (fun holds within taken =>
        ⟨holds.1.step taken, holds.2.step holds.1 within taken⟩)
      ⟨kept_initial, nested_initial⟩
    exact kept.1.exclusive kept.2
  · intro run
    have kept := run.preserves (Kept hashtext) (fun kept _ taken => kept.step taken) kept_initial
    exact ⟨kept.processExclusive, kept.tabled, kept.accounted, ends hashtext finish⟩

end GuardWorld

end Exclusion

def steps (owner : Owner) (count : Nat) : List GuardEvent :=
  List.replicate count ⟨owner, .advance⟩

/-- One process removes a server. In another, a guard of a user of that server is refused, and in
its body a guard of the server is entered.
-/
def guardInRefusedGuard : List GuardEvent :=
  ⟨⟨1, 0⟩, .enter [serverMutationKey "home"]⟩ :: steps ⟨1, 0⟩ 5
  ++ ⟨⟨0, 0⟩, .enter (userMutationKeys "home" "anna")⟩ :: steps ⟨0, 0⟩ 6
  ++ ⟨⟨0, 0⟩, .enter [serverMutationKey "home"]⟩ :: steps ⟨0, 0⟩ 4

/-- Both processes have acquired the server. -/
theorem refused_guard_covers_nested
    : ∃ world,
        Run (guardStep (id : String → String)) (fun _ _ => True) .initial guardInRefusedGuard world
        ∧ world.Acquires ⟨1, 0⟩ (serverMutationKey "home")
        ∧ world.Acquires ⟨0, 0⟩ (serverMutationKey "home") :=
  Run.exists_of_execute (by decide)

end OctoHubs.UserGuards
