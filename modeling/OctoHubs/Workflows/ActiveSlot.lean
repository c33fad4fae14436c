import OctoHubs.Workflows.Executions

/-! The active slot and ended executions over every run of workers.
An operation changes an execution only while it is not ended, and an execution that has left
the slot never gets it back.
-/

namespace OctoHubs.Workflows

open OctoHubs.Library

-- One execution

namespace WorkflowExecution

/-- An ended execution is out of the slot and has its completion time. -/
def Sound (execution : WorkflowExecution) : Prop :=
  execution.status.Terminal
  → execution.activeSlot = none ∧ execution.completedAt.isSome = true

/-- What no operation undoes: a terminal result, and having left the slot. -/
structure Evolves (before after : WorkflowExecution) : Prop where
  result
    : before.status.Terminal
      → after.status = before.status
        ∧ after.error = before.error
        ∧ after.completedAt = before.completedAt
  left : before.activeSlot = none → after.activeSlot = none

variable {execution : WorkflowExecution}

theorem Evolves.refl : Evolves execution execution :=
  ⟨fun _ => ⟨rfl, rfl, rfl⟩, id⟩

theorem Sound.not_terminal (sound : execution.Sound)
    (holds : execution.activeSlot = some 1)
    : ¬ execution.status.Terminal := by
  intro terminal
  rw [(sound terminal).1] at holds
  cases holds

theorem Sound.evolves_of_active (sound : execution.Sound)
    (holds : execution.activeSlot = some 1) (after : WorkflowExecution)
    : Evolves execution after := by
  refine ⟨fun terminal => absurd terminal (sound.not_terminal holds), fun gone => ?_⟩
  rw [holds] at gone
  cases gone

theorem sound_recover (now : Timestamp) : (execution.recover now).Sound :=
  fun _ => ⟨rfl, rfl⟩

theorem sound_finalize (status : WorkflowStatus) (error : Option String) (now : Timestamp)
    : (execution.finalize status error now).Sound :=
  fun _ => ⟨rfl, rfl⟩

theorem update_spec (sound : execution.Sound) (status : WorkflowStatus)
    (error : Option String) (now : Timestamp)
    : (execution.update status error now).Sound
      ∧ Evolves execution (execution.update status error now)
      ∧ ((execution.update status error now).activeSlot = none
        ∨ (execution.update status error now).activeSlot = execution.activeSlot) := by
  unfold update
  by_cases ended : execution.status.Terminal
  · -- the completion time is there already
    obtain ⟨slot, completed⟩ := sound ended
    obtain ⟨time, found⟩ := Option.isSome_iff_exists.mp completed
    rw [if_pos ended, found]
    refine ⟨fun _ => ⟨slot, rfl⟩, ⟨fun _ => ⟨rfl, rfl, by rw [found]; rfl⟩, id⟩, .inr rfl⟩
  · rw [if_neg ended]
    dsimp only
    split
    · exact ⟨fun _ => ⟨rfl, rfl⟩, ⟨fun terminal => absurd terminal ended, fun _ => rfl⟩, .inl rfl⟩
    · next unended =>
        exact ⟨fun terminal => absurd terminal unended,
          ⟨fun terminal => absurd terminal ended, id⟩, .inr rfl⟩

end WorkflowExecution

open WorkflowExecution

-- The tables

namespace WorkflowStore

/-- The slot is held once, and every execution is sound. -/
structure Consistent (store : WorkflowStore) : Prop where
  indexed : Indexed WorkflowExecution.activeSlot store.executions
  sound : ∀ id execution, store.executions.get? id = some execution → execution.Sound

/-- Every stored execution evolves, or is deleted. -/
def Advances (store next : WorkflowStore) : Prop :=
  ∀ id execution,
    store.executions.get? id = some execution
    → next.executions.get? id = none
      ∨ ∃ after, next.executions.get? id = some after ∧ Evolves execution after

variable {store next last : WorkflowStore}

theorem Advances.refl : Advances store store :=
  fun _ execution found => .inr ⟨execution, found, .refl⟩

theorem Consistent.withSteps (consistent : Consistent store) (steps : List WorkflowStep)
    : Consistent { store with steps } ∧ Advances store { store with steps } :=
  ⟨⟨consistent.indexed, consistent.sound⟩, .refl⟩

theorem Consistent.change (consistent : Consistent store) {id : String}
    {execution changed : WorkflowExecution}
    (found : store.executions.get? id = some execution) (sound : changed.Sound)
    (evolves : Evolves execution changed)
    (slot : changed.activeSlot = none ∨ changed.activeSlot = execution.activeSlot)
    : Consistent { store with executions := store.executions.set id changed }
      ∧ Advances store { store with executions := store.executions.set id changed } := by
  have fits
      : ¬ Collides WorkflowExecution.activeSlot store.executions (id, changed) := by
    rintro ⟨other, row, stored, differs, same, present⟩
    rcases slot with left | kept
    · rw [left] at present
      cases present
    · rw [kept] at same present
      exact consistent.indexed id execution found ⟨other, row, stored, differs, same, present⟩
  refine ⟨⟨consistent.indexed.set fits, fun other row stored => ?_⟩,
    fun other row stored => ?_⟩
  · rw [Dict.get?_set] at stored
    split at stored
    · cases stored
      exact sound
    · exact consistent.sound other row stored
  · right
    rw [Dict.get?_set]
    split
    · next same =>
        rw [same, found] at stored
        cases stored
        exact ⟨changed, rfl, evolves⟩
    · exact ⟨row, stored, .refl⟩

theorem activeExecution_spec {active : String × WorkflowExecution}
    (found : store.activeExecution = some active)
    : store.executions.get? active.1 = some active.2 ∧ active.2.activeSlot = some 1 := by
  have holds := List.find?_some found
  rw [decide_eq_true_eq] at holds
  exact ⟨Dict.mem_items_iff.mp (List.mem_of_find?_eq_some found), holds⟩

theorem recoverActive_spec (consistent : Consistent store) (now : Timestamp)
    : Consistent (store.recoverActive now) ∧ Advances store (store.recoverActive now) := by
  unfold recoverActive
  split
  · exact ⟨consistent, .refl⟩
  · next id active found =>
      obtain ⟨stored, holds⟩ := activeExecution_spec found
      split
      · exact ⟨consistent, .refl⟩
      · have sound := consistent.sound id active stored
        exact consistent.change stored (sound_recover now)
          (sound.evolves_of_active holds _) (.inl rfl)

theorem pruneWorkflows_spec (consistent : Consistent store) (now : Timestamp)
    : Consistent (store.pruneWorkflows now)
      ∧ ∀ id,
          (store.pruneWorkflows now).executions.get? id = none
          ∨ (store.pruneWorkflows now).executions.get? id = store.executions.get? id := by
  have pruned (id : String)
      : (store.pruneWorkflows now).executions.get? id = none
        ∨ (store.pruneWorkflows now).executions.get? id = store.executions.get? id := by
    unfold pruneWorkflows
    rw [Dict.get?_eraseWhere]
    split
    · exact .inl rfl
    · exact .inr rfl
  have kept {id : String} {execution : WorkflowExecution}
      (found : (store.pruneWorkflows now).executions.get? id = some execution)
      : store.executions.get? id = some execution := by
    rcases pruned id with gone | same
    · rw [gone] at found
      cases found
    · exact same ▸ found
  refine ⟨⟨?_, fun id execution found => consistent.sound id execution (kept found)⟩, pruned⟩
  rintro id execution found ⟨other, row, stored, collision⟩
  exact consistent.indexed id execution (kept found) ⟨other, row, kept stored, collision⟩

theorem recoverAndPrune_spec (consistent : Consistent store) (now : Timestamp)
    : Consistent (store.recoverAndPrune now)
      ∧ Advances store (store.recoverAndPrune now) := by
  obtain ⟨recovered, advances⟩ := recoverActive_spec consistent now
  obtain ⟨pruned, rows⟩ := pruneWorkflows_spec recovered now
  refine ⟨pruned, fun id execution found => ?_⟩
  unfold recoverAndPrune
  rcases rows id with gone | same
  · exact .inl gone
  · rw [same]
    exact advances id execution found

theorem insert_spec (consistent : Consistent store) {id : String}
    {execution : WorkflowExecution} (sound : execution.Sound)
    (inserted : store.insert id execution = some next)
    : Consistent next
      ∧ ∀ other, other ≠ id → next.executions.get? other = store.executions.get? other := by
  unfold insert at inserted
  split at inserted
  · cases inserted
  · obtain ⟨executions, written, rfl⟩ := Option.map_eq_some_iff.mp inserted
    obtain ⟨fits, rfl⟩ := writeRow_eq_some_iff.mp written
    refine ⟨⟨consistent.indexed.set fits, fun other row stored => ?_⟩, fun other differs => ?_⟩
    · rw [Dict.get?_set] at stored
      split at stored
      · cases stored
        exact sound
      · exact consistent.sound other row stored
    · exact Dict.get?_set_ne _ _ differs

theorem sound_newExecution (workflowType : String) (context : Dict String String)
    (ownerId : Option String) (now : Timestamp)
    : (newExecution workflowType context ownerId now).Sound := by
  rintro (ended | ended) <;> cases ended

theorem tryStart_spec (consistent : Consistent store) {id workflowType : String}
    {context : Dict String String} {ownerId : String} {steps : List (String × Nat)}
    {now : Timestamp} (unused : store.executions.get? id = none) {granted : Bool}
    (started
      : store.tryStart id workflowType context ownerId steps now = some (next, granted))
    : Consistent next ∧ Advances store next := by
  unfold tryStart at started
  split at started
  · cases started
    exact ⟨consistent, .refl⟩
  · obtain ⟨inserted, entered, same⟩ := Option.map_eq_some_iff.mp started
    cases same
    obtain ⟨recovered, advances⟩ := recoverAndPrune_spec consistent now
    obtain ⟨consistentNext, others⟩ :=
      insert_spec recovered (sound_newExecution workflowType context (some ownerId) now) entered
    refine ⟨⟨consistentNext.indexed, consistentNext.sound⟩, fun other execution found => ?_⟩
    have differs : other ≠ id := by
      rintro rfl
      cases unused.symm.trans found
    dsimp only
    rw [others other differs]
    exact advances other execution found

theorem changeOwned_spec (consistent : Consistent store) (id ownerId : String)
    {change : WorkflowExecution → WorkflowExecution}
    (changes
      : ∀ execution : WorkflowExecution,
          execution.Sound
          → execution.activeSlot = some 1
          → (change execution).Sound
            ∧ ((change execution).activeSlot = none
              ∨ (change execution).activeSlot = execution.activeSlot))
    : Consistent (store.changeOwned id ownerId change).1
      ∧ Advances store (store.changeOwned id ownerId change).1 := by
  unfold changeOwned
  split
  · exact ⟨consistent, .refl⟩
  · next execution found =>
      split
      · next owned =>
          have sound := consistent.sound id execution found
          obtain ⟨soundAfter, slot⟩ := changes execution sound owned.2
          exact consistent.change found soundAfter (sound.evolves_of_active owned.2 _) slot
      · exact ⟨consistent, .refl⟩

theorem requestStop_row (wanted : Option String) (id : String)
    : (store.requestStop wanted).1.executions.get? id = store.executions.get? id
      ∨ ∃ execution,
          store.executions.get? id = some execution
          ∧ execution.activeSlot = some 1
          ∧ (store.requestStop wanted).1.executions.get? id
            = some { execution with status := .stopping, stopRequested := true } := by
  unfold requestStop
  rw [Dict.get?_map]
  cases found : store.executions.get? id with
  | none => exact .inl rfl
  | some execution =>
      rw [Option.map_some]
      split
      · next concerned =>
          rw [Bool.and_eq_true, decide_eq_true_eq] at concerned
          exact .inr ⟨execution, rfl, concerned.1, rfl⟩
      · exact .inl rfl

theorem requestStop_spec (consistent : Consistent store) (wanted : Option String)
    : Consistent (store.requestStop wanted).1
      ∧ Advances store (store.requestStop wanted).1 := by
  -- every row comes from one with its slot
  have source {id : String} {row : WorkflowExecution}
      (found : (store.requestStop wanted).1.executions.get? id = some row)
      : ∃ execution,
          store.executions.get? id = some execution
          ∧ execution.activeSlot = row.activeSlot
          ∧ (row = execution ∨ ¬ row.status.Terminal) := by
    rcases requestStop_row wanted id with same | ⟨execution, stored, -, marked⟩
    · exact ⟨row, same ▸ found, rfl, .inl rfl⟩
    · rw [marked] at found
      cases found
      exact ⟨execution, stored, rfl, .inr (by rintro (ended | ended) <;> cases ended)⟩
  refine ⟨⟨?_, fun id row found => ?_⟩, fun id execution stored => .inr ?_⟩
  · rintro id row found ⟨other, otherRow, otherFound, differs, same, present⟩
    obtain ⟨execution, stored, slot, -⟩ := source found
    obtain ⟨otherExecution, otherStored, otherSlot, -⟩ := source otherFound
    rw [← slot] at same present
    rw [← otherSlot] at same
    exact consistent.indexed id execution stored
      ⟨other, otherExecution, otherStored, differs, same, present⟩
  · obtain ⟨execution, stored, -, unchanged | unended⟩ := source found
    · exact unchanged ▸ consistent.sound id execution stored
    · exact fun terminal => absurd terminal unended
  · rcases requestStop_row wanted id with same | ⟨marked, found, holds, after⟩
    · exact ⟨execution, same.trans stored, .refl⟩
    · cases found.symm.trans stored
      exact ⟨_, after, (consistent.sound id execution stored).evolves_of_active holds _⟩

theorem create_spec (consistent : Consistent store) {id workflowType : String}
    {context : Dict String String} {now : Timestamp}
    (created : store.create id workflowType context now = some next)
    : Consistent next ∧ Advances store next := by
  obtain ⟨consistentNext, others⟩ :=
    insert_spec consistent (sound_newExecution workflowType context none now) created
  refine ⟨consistentNext, fun other execution found => .inr ⟨execution, ?_, .refl⟩⟩
  have differs : other ≠ id := by
    rintro rfl
    rw [WorkflowStore.create, insert, found] at created
    cases created
  rw [others other differs, found]

theorem updateStep_spec (consistent : Consistent store) (workflowId stepId : String)
    (status : Option String) (progress : Option Int) (details : Option String)
    (now : Timestamp)
    : Consistent (store.updateStep workflowId stepId status progress details now)
      ∧ Advances store (store.updateStep workflowId stepId status progress details now) := by
  unfold updateStep
  dsimp only
  split
  · exact ⟨consistent, .refl⟩
  · exact consistent.withSteps _

theorem updateExecution_spec (consistent : Consistent store) (id : String)
    (status : WorkflowStatus) (error : Option String) (now : Timestamp)
    : Consistent (store.update id status error now)
      ∧ Advances store (store.update id status error now) := by
  unfold WorkflowStore.update
  split
  · exact ⟨consistent, .refl⟩
  · next execution found =>
      obtain ⟨sound, evolves, slot⟩ :=
        update_spec (consistent.sound id execution found) status error now
      exact consistent.change found sound evolves slot

theorem step_spec (consistent : Consistent store) {event : WorkflowEvent}
    (taken : store.step event = some next)
    : Consistent next ∧ Advances store next := by
  cases event with
  | tryStart id workflowType context ownerId steps now =>
      simp only [step] at taken
      split at taken
      · cases taken
      · next unused =>
          obtain ⟨⟨started, granted⟩, claimed, rfl⟩ := Option.map_eq_some_iff.mp taken
          exact tryStart_spec consistent (Option.not_isSome_iff_eq_none.mp unused) claimed
  | recoverAndPrune now =>
      cases taken
      exact recoverAndPrune_spec consistent now
  | heartbeat id ownerId now =>
      cases taken
      apply changeOwned_spec consistent id ownerId
      intro execution sound holds
      exact ⟨fun terminal => absurd terminal (sound.not_terminal holds), .inr rfl⟩
  | finalize id ownerId status error now =>
      cases taken
      apply changeOwned_spec consistent id ownerId
      intro execution _ _
      exact ⟨sound_finalize status error now, .inl rfl⟩
  | requestStop wanted =>
      cases taken
      exact requestStop_spec consistent wanted
  | create id workflowType context now => exact create_spec consistent taken
  | update id status error now =>
      cases taken
      exact updateExecution_spec consistent id status error now
  | updateStep workflowId stepId status progress details now =>
      cases taken
      exact updateStep_spec consistent workflowId stepId status progress details now

-- Runs

/-- No tables yet. -/
def empty : WorkflowStore := ⟨∅, []⟩

theorem consistent_empty : Consistent empty where
  indexed _ _ found := nomatch found
  sound _ _ found := nomatch found

def ActiveOnce (store : WorkflowStore) : Prop :=
  ∀ id other execution otherExecution,
    store.executions.get? id = some execution
    → store.executions.get? other = some otherExecution
    → execution.activeSlot = some 1
    → otherExecution.activeSlot = some 1
    → id = other

theorem Consistent.activeOnce (consistent : Consistent store) : store.ActiveOnce := by
  intro id other execution otherExecution found otherFound holds otherHolds
  by_contra differs
  apply consistent.indexed id execution found
  refine ⟨other, otherExecution, otherFound, Ne.symm differs, ?_, ?_⟩
  · exact otherHolds.trans holds.symm
  · rw [holds]
    rfl

/-- The worker owns the stored execution. -/
def Owns (store : WorkflowStore) (id ownerId : String) : Prop :=
  ∃ execution, store.executions.get? id = some execution ∧ execution.Owned ownerId

theorem changeOwned_of_not_owns {id ownerId : String} (lost : ¬ store.Owns id ownerId)
    (change : WorkflowExecution → WorkflowExecution)
    : store.changeOwned id ownerId change = (store, false) := by
  unfold changeOwned
  split
  · rfl
  · next execution found =>
      exact if_neg (fun owned => lost ⟨execution, found, owned⟩)

/-- What every transaction respects: one execution in the slot, ended executions as they
are, and workers that lost their execution.
-/
structure Fenced (store : WorkflowStore) (event : WorkflowEvent) : Prop where
  activeOnce : store.ActiveOnce
  advances : ∀ next, store.step event = some next → Advances store next
  heartbeat
    : ∀ id ownerId now,
        event = .heartbeat id ownerId now
        → ¬ store.Owns id ownerId
        → store.heartbeat id ownerId now = (store, false)
  finalize
    : ∀ id ownerId status error now,
        event = .finalize id ownerId status error now
        → ¬ store.Owns id ownerId
        → store.finalize id ownerId status error now = (store, false)

theorem Consistent.fenced (consistent : Consistent store) (event : WorkflowEvent)
    : Fenced store event where
  activeOnce := consistent.activeOnce
  advances _ taken := (step_spec consistent taken).2
  heartbeat _ _ _ _ lost := changeOwned_of_not_owns lost _
  finalize _ _ _ _ _ _ lost := changeOwned_of_not_owns lost _

/-- In every run of workers each transaction is fenced. -/
theorem workers_fenced {events : List WorkflowEvent} {finish : WorkflowStore}
    (run : Run step (fun _ _ => True) empty events finish)
    : Run step Fenced empty events finish ∧ finish.ActiveOnce := by
  have fenced
      : Run step (fun _ _ => True) empty events finish
        ↔ Run step Fenced empty events finish := by
    apply Run.iff_of_invariant Consistent
    · exact fun consistent => ⟨fun _ => consistent.fenced _, fun _ => trivial⟩
    · exact fun consistent _ taken => (step_spec consistent taken).1
    · exact consistent_empty
  refine ⟨fenced.mp run, ?_⟩
  apply Consistent.activeOnce
  exact run.preserves Consistent
    (fun consistent _ taken => (step_spec consistent taken).1) consistent_empty

/-- The first worker stops renewing, the second one takes the slot over, and the first one
comes back with its result.
-/
def takenOver : List WorkflowEvent :=
  [.tryStart "first" "scan" ∅ "worker-1" [("probe", 0)] 0,
    .updateStep "first" "probe" (some "running") (some 10) none (2 * second),
    .tryStart "second" "scan" ∅ "worker-2" [] (20 * second),
    .heartbeat "first" "worker-1" (21 * second),
    .finalize "first" "worker-1" .completed none (22 * second),
    .update "first" .completed none (23 * second),
    .requestStop none,
    .finalize "second" "worker-2" .completed none (24 * second)]

theorem workers_fenced_takenOver
    : ∃ finish,
        (Run step Fenced empty takenOver finish ∧ finish.ActiveOnce)
        ∧ (finish.executions.get? "first").map (·.status) = some .failed
        ∧ (finish.executions.get? "second").map (·.status) = some .completed := by
  have reached
      : ∃ finish,
          Run step (fun _ _ => True) empty takenOver finish
          ∧ (finish.executions.get? "first").map (·.status) = some .failed
          ∧ (finish.executions.get? "second").map (·.status) = some .completed :=
    Run.exists_of_execute (by decide)
  obtain ⟨finish, run, ended⟩ := reached
  exact ⟨finish, workers_fenced run, ended⟩

end WorkflowStore

end OctoHubs.Workflows
