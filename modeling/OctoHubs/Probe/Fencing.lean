import OctoHubs.Probe.Queue

/-! Claims of queue rows over every interleaving of workers.
A row gets a token only by a claim that draws a new one, so a worker that lost its claim
never has it back and nothing it does reaches the tables.
-/

namespace OctoHubs.Probe

open OctoHubs.Library

/-- Every row that has a token had it before. -/
def Inherits (before after : SerialTable ProbeQueueEntry) : Prop :=
  ∀ id entry,
    after.get? id = some entry
    → entry.claimToken = none
      ∨ ∃ old, before.get? id = some old ∧ old.claimToken = entry.claimToken

section Inherits

variable {first second third : SerialTable ProbeQueueEntry}

theorem Inherits.refl : Inherits first first :=
  fun _ entry found => .inr ⟨entry, found, rfl⟩

theorem Inherits.trans (earlier : Inherits first second) (later : Inherits second third)
    : Inherits first third := by
  intro id entry found
  rcases later id entry found with free | ⟨middle, middleFound, sameToken⟩
  · exact .inl free
  · rw [← sameToken]
    exact earlier id middle middleFound

theorem inherits_delete (removes : Nat → ProbeQueueEntry → Bool)
    : Inherits first (first.delete removes) := by
  intro id entry found
  rw [SerialTable.get?_delete, Option.filter_eq_some_iff] at found
  exact .inr ⟨entry, found.1, rfl⟩

theorem inherits_insert {entry : ProbeQueueEntry} (free : entry.claimToken = none)
    : Inherits first (first.insert entry) := by
  intro id row found
  rw [SerialTable.get?_insert] at found
  split at found
  · cases found
    exact .inl free
  · exact .inr ⟨row, found, rfl⟩

theorem inherits_modify {change : Nat → ProbeQueueEntry → ProbeQueueEntry}
    (changes
      : ∀ id entry,
          first.get? id = some entry
          → (change id entry).claimToken = none
            ∨ (change id entry).claimToken = entry.claimToken)
    : Inherits first (first.modify change) := by
  intro id row found
  rw [SerialTable.get?_modify] at found
  obtain ⟨entry, stored, rfl⟩ := Option.map_eq_some_iff.mp found
  rcases changes id entry stored with free | kept
  · exact .inl free
  · exact .inr ⟨entry, stored, kept.symm⟩

end Inherits

namespace ProbeStore

variable {store next : ProbeStore}

/-- The row is there and has the token. -/
def Holds (store : ProbeStore) (id : Nat) (token : String) : Prop :=
  ∃ entry, store.queue.get? id = some entry ∧ entry.claimToken = some token

theorem Holds.of_inherits (inherits : Inherits store.queue next.queue) {id : Nat}
    {token : String} (holds : next.Holds id token)
    : store.Holds id token := by
  obtain ⟨entry, found, claimed⟩ := holds
  rcases inherits id entry found with free | ⟨old, oldFound, sameToken⟩
  · cases free.symm.trans claimed
  · exact ⟨old, oldFound, sameToken.trans claimed⟩

theorem heldEntry_eq_some_iff {id : Nat} {token : String} {entry : ProbeQueueEntry}
    : store.heldEntry id token = some entry
      ↔ store.queue.get? id = some entry ∧ entry.claimToken = some token := by
  unfold heldEntry
  rw [Option.filter_eq_some_iff, decide_eq_true_eq]

theorem heldEntry_eq_none {id : Nat} {token : String} (lost : ¬ store.Holds id token)
    : store.heldEntry id token = none := by
  cases held : store.heldEntry id token with
  | none => rfl
  | some entry => exact absurd ⟨entry, heldEntry_eq_some_iff.mp held⟩ lost

theorem setEntry_inherits {id : Nat} {entry changed : ProbeQueueEntry}
    (stored : store.queue.get? id = some entry)
    (token : changed.claimToken = none ∨ changed.claimToken = entry.claimToken)
    : Inherits store.queue (store.setEntry id changed).queue := by
  apply inherits_modify
  intro other row found
  split
  · next same =>
      subst same
      cases stored.symm.trans found
      exact token
  · exact .inr rfl

theorem setEntry_not_holds {id : Nat} {changed : ProbeQueueEntry}
    (free : changed.claimToken = none) (token : String)
    : ¬ (store.setEntry id changed).Holds id token := by
  rintro ⟨entry, found, claimed⟩
  unfold setEntry at found
  rw [SerialTable.get?_modify] at found
  obtain ⟨old, -, rfl⟩ := Option.map_eq_some_iff.mp found
  rw [if_pos rfl, free] at claimed
  cases claimed

theorem deleteEntry_not_holds (id : Nat) (token : String)
    : ¬ (store.deleteEntry id).Holds id token := by
  rintro ⟨entry, found, -⟩
  unfold deleteEntry at found
  rw [SerialTable.get?_delete, Option.filter_eq_some_iff, decide_eq_true rfl] at found
  cases found.2

theorem prepareConcreteEntry_inherits (item : ProbeQueueItem) (now : Timestamp)
    : Inherits store.queue (store.prepareConcreteEntry item now).1.queue := by
  unfold prepareConcreteEntry
  dsimp only
  split
  · exact .refl
  · split
    · exact .refl
    · split
      · exact .refl
      · exact inherits_delete _

theorem addItem_inherits (item : ProbeQueueItem) (now : Timestamp)
    : Inherits store.queue (store.addItem item now).1.queue := by
  have prepared : Inherits store.queue (store.prepareConcreteEntry item now).1.queue :=
    prepareConcreteEntry_inherits item now
  unfold addItem
  dsimp only
  split
  · exact prepared
  · split
    · exact prepared
    · exact prepared.trans (inherits_insert rfl)

theorem addToProbeQueue_inherits (items : List ProbeQueueItem) (now : Timestamp)
    : Inherits store.queue (store.addToProbeQueue items now).1.queue := by
  induction items generalizing store with
  | nil => exact .refl
  | cons item items ih => exact (addItem_inherits item now).trans ih

theorem retryProbeItems_inherits {items : List ProbeQueueItem} {target : ProbeTarget}
    {now : Timestamp} (retried : store.retryProbeItems items target now = some next)
    : Inherits store.queue next.queue := by
  have queued : Inherits store.queue (store.addToProbeQueue items now).1.queue :=
    addToProbeQueue_inherits items now
  unfold retryProbeItems at retried
  dsimp only at retried
  split at retried
  · cases retried
  · cases retried
    exact queued

theorem renewProbeQueueClaim_inherits (id : Nat) (token : String) (now : Timestamp)
    : Inherits store.queue (store.renewProbeQueueClaim id token now).1.queue := by
  unfold renewProbeQueueClaim
  split
  · exact .refl
  · next entry held => exact setEntry_inherits (heldEntry_eq_some_iff.mp held).1 (.inr rfl)

theorem completeProbeQueueClaim_inherits (id : Nat) (token : String)
    : Inherits store.queue (store.completeProbeQueueClaim id token).1.queue := by
  unfold completeProbeQueueClaim
  split
  · exact .refl
  · exact inherits_delete _

theorem releaseProbeQueueClaim_inherits (id : Nat) (token : String)
    : Inherits store.queue (store.releaseProbeQueueClaim id token).1.queue := by
  unfold releaseProbeQueueClaim
  split
  · exact .refl
  · next entry held => exact setEntry_inherits (heldEntry_eq_some_iff.mp held).1 (.inl rfl)

theorem recordResult_queue (result : ProbeResult) (failure : Option ProbeFailure)
    (now : Timestamp)
    : (store.recordResult result failure now).1.queue = store.queue := by
  cases failure with
  | none => rfl
  | some failure => rfl

theorem commitProbeQueueResult_spec (store : ProbeStore) (id : Nat) (token : String)
    (result : ProbeResult) (failure : Option ProbeFailure) (maxRetries : Int) (allowRequeue : Bool)
    (now : Timestamp)
    : store.commitProbeQueueResult id token result failure maxRetries allowRequeue now
        = (store, none)
      ∨ ∃ finished outcome,
          store.commitProbeQueueResult id token result failure maxRetries allowRequeue now
            = (finished, some outcome)
          ∧ store.Holds id token
          ∧ ¬ finished.Holds id token
          ∧ Inherits store.queue finished.queue := by
  unfold commitProbeQueueResult
  split
  · exact .inl rfl
  cases held : store.heldEntry id token with
  | none => exact .inl rfl
  | some entry =>
      right
      have holds := heldEntry_eq_some_iff.mp held
      have sameQueue : (store.recordResult result failure now).1.queue = store.queue :=
        recordResult_queue result failure now
      rcases counted : store.recordResult result failure now with ⟨recorded, retryCount⟩
      rw [counted] at sameQueue
      refine ⟨_, _, rfl, ⟨entry, holds⟩, ?_⟩
      -- the row is free again or gone
      split
      · refine ⟨setEntry_not_holds rfl token, ?_⟩
        rw [← sameQueue] at holds ⊢
        have stored : (recorded.appendHistory result now).queue.get? id = some entry := holds.1
        exact setEntry_inherits stored (.inl rfl)
      · refine ⟨deleteEntry_not_holds id token, ?_⟩
        rw [← sameQueue]
        exact inherits_delete _

theorem deleteEntries_keeps {removes : ProbeQueueEntry → Bool}
    (free : ∀ entry, removes entry = true → entry.claimToken = none) {id : Nat}
    {entry : ProbeQueueEntry} (found : store.queue.get? id = some entry)
    (claimed : entry.claimToken.isSome = true)
    : (store.deleteEntries removes).1.queue.get? id = some entry := by
  unfold deleteEntries
  rw [SerialTable.get?_delete, Option.filter_eq_some_iff]
  refine ⟨found, ?_⟩
  rw [Bool.not_eq_true', ← Bool.not_eq_true]
  intro removed
  rw [free entry removed] at claimed
  cases claimed

end ProbeStore

open ProbeStore

/-- The claim that a worker acts under. -/
def ProbeEvent.claimed : ProbeEvent → Option (Nat × String)
  | .renew id token _ => some (id, token)
  | .release id token => some (id, token)
  | .complete id token => some (id, token)
  | .commit id token _ _ _ _ _ => some (id, token)
  | _ => none

/-- The operator removes rows from the queue. -/
def ProbeEvent.Removes : ProbeEvent → Prop
  | .removeItem _ => True
  | .clear _ _ => True
  | _ => False

namespace ProbeWorld

variable {world next : ProbeWorld} {event : ProbeEvent}

theorem step_inherits (taken : world.step event = some next)
    : (∃ token,
        token ∉ world.issued
        ∧ next.issued = token :: world.issued
        ∧ next.committed = world.committed
        ∧ ∀ id held,
            next.store.Holds id held → held = token ∨ world.store.Holds id held)
      ∨ next.issued = world.issued ∧ Inherits world.store.queue next.store.queue := by
  cases event with
  | claim entryIds locked token leaseSeconds now =>
      left
      simp only [step] at taken
      split at taken
      · cases taken
      · next unused =>
          cases taken
          refine ⟨token, unused, rfl, rfl, fun id held holds => ?_⟩
          obtain ⟨entry, found, claimed⟩ := holds
          unfold claimProbeQueueItems at found
          rw [SerialTable.get?_modify] at found
          obtain ⟨old, stored, rfl⟩ := Option.map_eq_some_iff.mp found
          split at claimed
          · cases claimed
            exact .inl rfl
          · exact .inr ⟨old, stored, claimed⟩
  | add items now =>
      cases taken
      exact .inr ⟨rfl, addToProbeQueue_inherits items now⟩
  | retry items target now =>
      obtain ⟨store, retried, rfl⟩ := Option.map_eq_some_iff.mp taken
      exact .inr ⟨rfl, retryProbeItems_inherits retried⟩
  | renew id token now =>
      cases taken
      exact .inr ⟨rfl, renewProbeQueueClaim_inherits id token now⟩
  | release id token =>
      cases taken
      exact .inr ⟨rfl, releaseProbeQueueClaim_inherits id token⟩
  | complete id token =>
      cases taken
      exact .inr ⟨rfl, completeProbeQueueClaim_inherits id token⟩
  | commit id token result failure maxRetries allowRequeue now =>
      cases taken
      refine .inr ⟨rfl, ?_⟩
      unfold ProbeWorld.commit
      rcases commitProbeQueueResult_spec world.store id token result failure maxRetries
        allowRequeue now with same | ⟨finished, outcome, committed, -, -, inherits⟩
      · rw [same]
        exact .refl
      · rw [committed]
        exact inherits
  | removeItem target =>
      cases taken
      exact .inr ⟨rfl, inherits_delete _⟩
  | clear serverId scope =>
      cases taken
      exact .inr ⟨rfl, inherits_delete _⟩
  | removeItemState target =>
      cases taken
      exact .inr ⟨rfl, inherits_delete _⟩

theorem step_committed (taken : world.step event = some next)
    : next.committed = world.committed
      ∨ ∃ id token,
          next.committed = (id, token) :: world.committed
          ∧ world.store.Holds id token
          ∧ ¬ next.store.Holds id token := by
  cases event with
  | commit id token result failure maxRetries allowRequeue now =>
      cases taken
      unfold ProbeWorld.commit
      rcases commitProbeQueueResult_spec world.store id token result failure maxRetries
        allowRequeue now with same | ⟨finished, outcome, committed, holds, ended, -⟩
      · rw [same]
        exact .inl rfl
      · rw [committed]
        exact .inr ⟨id, token, rfl, holds, ended⟩
  | claim entryIds locked token leaseSeconds now =>
      simp only [step] at taken
      split at taken
      · cases taken
      · cases taken
        exact .inl rfl
  | retry items target now =>
      obtain ⟨store, -, rfl⟩ := Option.map_eq_some_iff.mp taken
      exact .inl rfl
  | add | renew | release | complete | removeItem | clear | removeItemState =>
      cases taken
      exact .inl rfl

theorem step_not_holds (taken : world.step event = some next) {id : Nat} {token : String}
    (old : token ∈ world.issued) (lost : ¬ world.store.Holds id token)
    : token ∈ next.issued ∧ ¬ next.store.Holds id token := by
  rcases step_inherits taken with ⟨drawn, unused, issued, -, holders⟩ | ⟨issued, inherits⟩
  · rw [issued]
    refine ⟨List.mem_cons_of_mem drawn old, fun holds => ?_⟩
    rcases holders id token holds with rfl | before
    · exact unused old
    · exact lost before
  · rw [issued]
    exact ⟨old, fun holds => lost (holds.of_inherits inherits)⟩

/-- The tokens in the queue were given out, and a claim with a result is over. -/
structure Tracked (world : ProbeWorld) : Prop where
  issued : ∀ id token, world.store.Holds id token → token ∈ world.issued
  finished
    : ∀ id token,
        (id, token) ∈ world.committed
        → token ∈ world.issued ∧ ¬ world.store.Holds id token
  once : world.committed.Nodup

theorem Tracked.step (tracked : Tracked world) (taken : world.step event = some next)
    : Tracked next := by
  have issued (id : Nat) (token : String) (holds : next.store.Holds id token)
      : token ∈ next.issued := by
    rcases step_inherits taken with ⟨drawn, -, same, -, holders⟩ | ⟨same, inherits⟩
    · rw [same]
      rcases holders id token holds with rfl | before
      · exact List.mem_cons_self
      · exact List.mem_cons_of_mem drawn (tracked.issued id token before)
    · rw [same]
      exact tracked.issued id token (holds.of_inherits inherits)
  have lasting {id : Nat} {token : String} (member : (id, token) ∈ world.committed)
      : token ∈ next.issued ∧ ¬ next.store.Holds id token := by
    obtain ⟨old, lost⟩ := tracked.finished id token member
    exact step_not_holds taken old lost
  rcases step_committed taken with same | ⟨id, token, added, holds, ended⟩
  · refine ⟨issued, fun id token member => ?_, ?_⟩
    · rw [same] at member
      exact lasting member
    · rw [same]
      exact tracked.once
  · refine ⟨issued, fun other held member => ?_, ?_⟩
    · rw [added, List.mem_cons] at member
      rcases member with fresh | earlier
      · cases fresh
        refine ⟨?_, ended⟩
        -- the token was in the queue, so it was given out
        rcases step_inherits taken with ⟨drawn, -, grown, -⟩ | ⟨same, -⟩
        · rw [grown]
          exact List.mem_cons_of_mem drawn (tracked.issued id token holds)
        · rw [same]
          exact tracked.issued id token holds
      · exact lasting earlier
    · rw [added]
      exact List.nodup_cons.mpr
        ⟨fun member => (tracked.finished id token member).2 holds, tracked.once⟩

/-- What every transaction of a worker respects. -/
structure Fenced (world : ProbeWorld) (event : ProbeEvent) : Prop where
  /-- Only the holder commits, and no claim commits twice. -/
  held
    : ∀ id token result failure maxRetries allowRequeue now,
        event = .commit id token result failure maxRetries allowRequeue now
        → (world.store.commitProbeQueueResult id token result failure maxRetries
            allowRequeue now).2.isSome = true
        → world.store.Holds id token ∧ (id, token) ∉ world.committed
  /-- A worker without its claim changes nothing. -/
  lost
    : ∀ id token,
        event.claimed = some (id, token)
        → ¬ world.store.Holds id token
        → world.step event = some world
  /-- A claim once lost stays lost. -/
  gone
    : ∀ next id token,
        world.step event = some next
        → token ∈ world.issued
        → ¬ world.store.Holds id token
        → ¬ next.store.Holds id token
  /-- Removal keeps every claimed row, whether its lease has expired or not. -/
  kept
    : event.Removes
      → ∀ next id entry,
          world.step event = some next
          → world.store.queue.get? id = some entry
          → entry.claimToken.isSome = true
          → next.store.queue.get? id = some entry

theorem step_of_not_holds {id : Nat} {token : String}
    (acts : event.claimed = some (id, token)) (lost : ¬ world.store.Holds id token)
    : world.step event = some world := by
  have absent := heldEntry_eq_none lost
  cases event with
  | renew id token now =>
      cases acts
      simp only [ProbeWorld.step, renewProbeQueueClaim, absent]
  | release id token =>
      cases acts
      simp only [ProbeWorld.step, releaseProbeQueueClaim, absent]
  | complete id token =>
      cases acts
      simp only [ProbeWorld.step, completeProbeQueueClaim, absent]
  | commit id token result failure maxRetries allowRequeue now =>
      cases acts
      rcases commitProbeQueueResult_spec world.store id token result failure maxRetries
        allowRequeue now with same | ⟨finished, outcome, -, holds, -⟩
      · simp only [ProbeWorld.step, ProbeWorld.commit, same]
        rfl
      · exact absurd holds lost
  | _ => cases acts

theorem step_keeps (removes : event.Removes) (taken : world.step event = some next)
    {id : Nat} {entry : ProbeQueueEntry} (found : world.store.queue.get? id = some entry)
    (claimed : entry.claimToken.isSome = true)
    : next.store.queue.get? id = some entry := by
  have free (condition : Bool) (row : ProbeQueueEntry)
      (removed : (condition && decide (row.claimToken = none)) = true)
      : row.claimToken = none := by
    rw [Bool.and_eq_true, decide_eq_true_eq] at removed
    exact removed.2
  cases event with
  | removeItem target =>
      cases taken
      exact deleteEntries_keeps (fun row removed => free _ row removed) found claimed
  | clear serverId scope =>
      cases taken
      exact deleteEntries_keeps (fun row removed => free _ row removed) found claimed
  | _ => exact removes.elim

theorem Tracked.fenced (tracked : Tracked world) (event : ProbeEvent)
    : Fenced world event where
  held id token result failure maxRetries allowRequeue now _ committed := by
    rcases commitProbeQueueResult_spec world.store id token result failure maxRetries
      allowRequeue now with same | ⟨finished, outcome, -, holds, -⟩
    · rw [same] at committed
      cases committed
    · exact ⟨holds, fun member => (tracked.finished id token member).2 holds⟩
  lost _ _ acts lost := step_of_not_holds acts lost
  gone _ _ _ taken old lost := (step_not_holds taken old lost).2
  kept removes _ _ _ taken found claimed := step_keeps removes taken found claimed

/-- Tables as workers find them: only the tokens in the queue have been given out. -/
def opening (store : ProbeStore) : ProbeWorld where
  store
  issued := store.queue.rows.values.filterMap (·.claimToken)
  committed := []

theorem tracked_opening (store : ProbeStore) : Tracked (opening store) where
  issued id token := by
    rintro ⟨entry, found, claimed⟩
    exact List.mem_filterMap.mpr ⟨entry, Dict.mem_values_iff.mpr ⟨id, found⟩, claimed⟩
  finished _ _ member := nomatch member
  once := List.nodup_nil

/-- In every run of workers each transaction is fenced, and no claim has two results. -/
theorem probeWorkers_fenced {store : ProbeStore} {events : List ProbeEvent} {finish : ProbeWorld}
    (run : Run step (fun _ _ => True) (opening store) events finish)
    : Run step Fenced (opening store) events finish ∧ finish.committed.Nodup := by
  have fenced
      : Run step (fun _ _ => True) (opening store) events finish
        ↔ Run step Fenced (opening store) events finish := by
    apply Run.iff_of_invariant Tracked
    · exact fun tracked => ⟨fun _ => tracked.fenced _, fun _ => trivial⟩
    · exact fun tracked _ taken => tracked.step taken
    · exact tracked_opening store
  refine ⟨fenced.mp run, ?_⟩
  apply Tracked.once
  exact run.preserves Tracked (fun tracked _ taken => tracked.step taken)
    (tracked_opening store)

/-- The lease of the first worker expires and the second one takes the row over, is queued
again for a retry, and a third claim has the last result.
-/
def leaseExpired : List ProbeEvent :=
  let details : ProbeItemDetails :=
    ⟨none, none, "Episodio", none, none, none, false, none, none, none, none, none⟩
  let result : ProbeResult :=
    ⟨"server", "item", some "source", some .recent, "Episodio", none, "OK", none, none⟩
  let failure : ProbeFailure := ⟨some "timeout", none, none⟩
  [.add [⟨"server", "item", some "source", some .recent, details⟩] 0,
    .claim [1] [] "first" 300 0,
    .clear "server" none,
    .claim [1] [] "second" 300 (400 * second),
    .renew 1 "first" (401 * second),
    .commit 1 "first" result none 3 true (402 * second),
    .commit 1 "second" result (some failure) 3 true (403 * second),
    .complete 1 "second",
    .claim [1] [] "third" 300 (404 * second),
    .commit 1 "third" result none 3 true (405 * second)]

theorem probeWorkers_fenced_leaseExpired
    : ∃ finish,
        (Run step Fenced (opening ⟨∅, ∅, []⟩) leaseExpired finish ∧ finish.committed.Nodup)
        ∧ finish.committed = [(1, "third"), (1, "second")]
        ∧ finish.store.history.length = 2 := by
  have reached
      : ∃ finish,
          Run step (fun _ _ => True) (opening ⟨∅, ∅, []⟩) leaseExpired finish
          ∧ finish.committed = [(1, "third"), (1, "second")]
          ∧ finish.store.history.length = 2 :=
    Run.exists_of_execute (by decide)
  obtain ⟨finish, run, results⟩ := reached
  exact ⟨finish, probeWorkers_fenced run, results⟩

end ProbeWorld

end OctoHubs.Probe
