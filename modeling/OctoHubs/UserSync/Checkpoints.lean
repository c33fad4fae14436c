import OctoHubs.UserSync.Snapshots

/-! The committed baselines and the checkpoint that replaces them.
Snapshots are observed without storing them; a complete set of observations is committed
at once, and only while the stored baselines are still the ones that were read with them.
-/

namespace OctoHubs.UserSync

open OctoHubs.Library

/-- A user of a group, by server id and user id. -/
abbrev Participant := String × String

/-- An observation of one baseline key: the snapshot, absent when it could not be read, and
the baseline stored at that time. Snapshots stand for their hashes.
-/
structure ObservedState (κ σ : Type) where
  key : κ
  snapshot : Option σ
  expectedHash : Option σ
deriving DecidableEq

inductive SyncStepError (κ : Type)
  | incompleteSnapshots (failures : List κ)
  | incompleteCheckpoint
  | snapshotsChanged
  | invalidResult (message : String)
deriving DecidableEq

def snapshotFailureMessage : String :=
  "Snapshot non disponibile. Verifica i log dell'applicazione."

def SyncStepError.message {κ : Type} (participant : κ → Participant)
    : SyncStepError κ → String
  | .incompleteSnapshots failures =>
      let labels := failures.map (fun key =>
        s!"{(participant key).1}/{(participant key).2}: {snapshotFailureMessage}")
      "Snapshot incompleto: "
        ++ (if labels.isEmpty then "snapshot mancanti" else String.intercalate "; " labels)
  | .incompleteCheckpoint => "Impossibile salvare uno snapshot incompleto"
  | .snapshotsChanged => "Snapshot modificati durante la sincronizzazione; riprovare"
  | .invalidResult message => message

section Checkpoints

variable {κ σ : Type}

/-- All observations were made and none of them failed. -/
def requireCompleteSnapshots (states : List (ObservedState κ σ)) (expected : Nat)
    : Except (SyncStepError κ) (List (ObservedState κ σ)) :=
  let failures := states.filter (fun state => state.snapshot.isNone)
  if states.length ≠ expected ∨ failures ≠ [] then
    .error (.incompleteSnapshots (failures.map ObservedState.key))
  else .ok states

theorem requireCompleteSnapshots_eq_ok_iff {states result : List (ObservedState κ σ)}
    {expected : Nat}
    : requireCompleteSnapshots states expected = .ok result
      ↔ result = states
        ∧ states.length = expected
        ∧ ∀ state ∈ states, state.snapshot.isSome = true := by
  unfold requireCompleteSnapshots
  simp only [ne_eq, List.filter_eq_nil_iff, Option.isNone_iff_eq_none]
  constructor
  · intro required
    split at required
    · cases required
    · next complete =>
        cases required
        simp only [not_or, not_not] at complete
        refine ⟨rfl, complete.1, fun state member => ?_⟩
        exact Option.isSome_iff_ne_none.mpr (complete.2 state member)
  · rintro ⟨rfl, sameLength, complete⟩
    rw [if_neg]
    simp only [not_or, not_not]
    exact ⟨sameLength, fun state member => Option.isSome_iff_ne_none.mp (complete state member)⟩

variable [DecidableEq κ]

def observe (store : Dict κ σ) (read : κ → Option σ) (key : κ) : ObservedState κ σ :=
  ⟨key, read key, store.get? key⟩

def checkpointUpdates (states : List (ObservedState κ σ)) : Dict κ (Option σ × σ) :=
  states.foldl
    (fun updates state =>
      match state.snapshot with
      | none => updates
      | some snapshot => updates.set state.key (state.expectedHash, snapshot))
    ∅

theorem get?_checkpointUpdates {states : List (ObservedState κ σ)} {key : κ}
    {update : Option σ × σ} (found : (checkpointUpdates states).get? key = some update)
    : ∃ state ∈ states,
        state.key = key ∧ state.expectedHash = update.1 ∧ state.snapshot = some update.2 := by
  induction states using List.reverseRecOn with
  | nil => cases found
  | append_singleton states last ih =>
      have before
          (kept : (checkpointUpdates states).get? key = some update)
          : ∃ state ∈ states ++ [last],
              state.key = key
              ∧ state.expectedHash = update.1
              ∧ state.snapshot = some update.2 := by
        obtain ⟨state, member, facts⟩ := ih kept
        exact ⟨state, List.mem_append_left _ member, facts⟩
      unfold checkpointUpdates at found before
      rw [List.foldl_append, List.foldl_cons, List.foldl_nil] at found
      split at found
      · exact before found
      · next snapshot read =>
          rw [Dict.get?_set] at found
          split at found
          · next same =>
              cases found
              exact ⟨last, by simp, same.symm, rfl, read⟩
          · exact before found

theorem isSome_checkpointUpdates {states : List (ObservedState κ σ)}
    (complete : ∀ state ∈ states, state.snapshot.isSome = true) {state : ObservedState κ σ}
    (member : state ∈ states)
    : ((checkpointUpdates states).get? state.key).isSome = true := by
  induction states using List.reverseRecOn with
  | nil => cases member
  | append_singleton states last ih =>
      obtain ⟨snapshot, read⟩ := Option.isSome_iff_exists.mp (complete last (by simp))
      unfold checkpointUpdates
      rw [List.foldl_append, List.foldl_cons, List.foldl_nil, read]
      simp only [Dict.get?_set]
      split
      · rfl
      · next other =>
          rcases List.mem_append.mp member with earlier | last'
          · exact ih (fun state old => complete state (List.mem_append_left _ old)) earlier
          · rw [List.mem_singleton.mp last'] at other
            exact absurd rfl other

variable [DecidableEq σ]

/-- Store all snapshots if every key still has its expected one. -/
def compareAndSetKeyValues (store : Dict κ σ) (updates : Dict κ (Option σ × σ))
    : Option (Dict κ σ) :=
  if updates.items.all (fun update => store.get? update.1 = update.2.1) then
    some (updates.items.foldl (fun store update => store.set update.1 update.2.2) store)
  else none

/-- Advance a complete checkpoint behind the comparison of all expected hashes. -/
def commitMany (store : Dict κ σ) (states : List (ObservedState κ σ))
    : Except (SyncStepError κ) (Dict κ σ) :=
  if states.any (fun state => state.snapshot.isNone) then .error .incompleteCheckpoint
  else
    match compareAndSetKeyValues store (checkpointUpdates states) with
    | none => .error .snapshotsChanged
    | some next => .ok next

theorem get?_of_compareAndSet {store next : Dict κ σ} {updates : Dict κ (Option σ × σ)}
    (stored : compareAndSetKeyValues store updates = some next) (key : κ)
    : next.get? key = ((updates.get? key).map Prod.snd).or (store.get? key) := by
  unfold compareAndSetKeyValues at stored
  split at stored
  · cases stored
    have shown := Dict.get?_foldl_set (updates.items.map (fun item => (item.1, item.2.2)))
      (by simpa [List.map_map, Function.comp_def] using updates.nodup) store key
    rw [List.foldl_map] at shown
    rw [shown]
    congr 1
    unfold Dict.get?
    induction updates.items with
    | nil => rfl
    | cons item rest ih =>
        obtain ⟨found, update⟩ := item
        simp only [List.map_cons, lookupItems]
        split
        · rfl
        · exact ih
  · cases stored

theorem commitMany_ok {store : Dict κ σ} {states : List (ObservedState κ σ)}
    (complete : ∀ state ∈ states, state.snapshot.isSome = true)
    (current : ∀ state ∈ states, state.expectedHash = store.get? state.key)
    : ∃ next, commitMany store states = .ok next := by
  have allRead : states.any (fun state => state.snapshot.isNone) = false := by
    simp only [List.any_eq_false, Option.isNone_iff_eq_none]
    exact fun state member => Option.isSome_iff_ne_none.mp (complete state member)
  have fits
      : (checkpointUpdates states).items.all
          (fun update => store.get? update.1 = update.2.1) = true := by
    simp only [List.all_eq_true, decide_eq_true_eq]
    rintro ⟨key, update⟩ entry
    obtain ⟨state, member, rfl, expected, -⟩ :=
      get?_checkpointUpdates (Dict.mem_items_iff.mp entry)
    exact (current state member).symm.trans expected
  unfold commitMany compareAndSetKeyValues
  rw [if_neg (by simp [allRead]), if_pos fits]
  exact ⟨_, rfl⟩

/-- What a committed checkpoint shows: an observed snapshot under each observed key, and the
old baseline elsewhere.
-/
structure Committed (store : Dict κ σ) (states : List (ObservedState κ σ))
    (next : Dict κ σ)
    : Prop where
  observed
    : ∀ state ∈ states,
        ∃ other ∈ states,
          other.key = state.key
          ∧ other.snapshot.isSome = true
          ∧ next.get? state.key = other.snapshot
  untouched
    : ∀ key, (∀ state ∈ states, state.key ≠ key) → next.get? key = store.get? key

theorem Committed.of_ok {store next : Dict κ σ} {states : List (ObservedState κ σ)}
    (committed : commitMany store states = .ok next)
    : Committed store states next := by
  unfold commitMany at committed
  split at committed
  · cases committed
  next allRead =>
  split at committed
  · cases committed
  next stored =>
  cases committed
  have complete : ∀ state ∈ states, state.snapshot.isSome = true := by
    intro state member
    simp only [List.any_eq_true, not_exists, not_and, Option.isNone_iff_eq_none] at allRead
    exact Option.isSome_iff_ne_none.mpr (allRead state member)
  constructor
  · intro state member
    obtain ⟨update, found⟩ :=
      Option.isSome_iff_exists.mp (isSome_checkpointUpdates complete member)
    obtain ⟨other, otherMember, same, -, read⟩ := get?_checkpointUpdates found
    refine ⟨other, otherMember, same, complete other otherMember, ?_⟩
    rw [get?_of_compareAndSet stored, found, read]
    rfl
  · intro key unobserved
    rw [get?_of_compareAndSet stored]
    cases found : (checkpointUpdates states).get? key with
    | none => rfl
    | some update =>
        obtain ⟨state, member, same, -⟩ := get?_checkpointUpdates found
        exact absurd same (unobserved state member)

end Checkpoints

end OctoHubs.UserSync
