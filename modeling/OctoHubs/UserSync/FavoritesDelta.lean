import Mathlib.Data.Finset.Card
import Mathlib.Data.Finset.SDiff
import OctoHubs.UserSync.Snapshots

/-! The favourites delta: one set of desired favourites for all participants of a group.
Additions and removals since the baselines are collected over the participants, and a
participant without a baseline contributes its whole snapshot.
-/

namespace OctoHubs.UserSync

/-- The conflicts that abort a delta run before its first write. -/
inductive SyncError
  | favorites (conflicts : Nat)
  | playstate (key : ItemKey)
  | playlist (name : PlaylistName)
  | playlistItem (name : PlaylistName)
  | playlistOrder (name : PlaylistName)
deriving DecidableEq, Repr

def SyncError.message : SyncError → String
  | .favorites conflicts =>
      s!"Conflitto preferiti su {conflicts} elementi; nessuna modifica applicata"
  | .playstate key =>
      s!"Conflitto stato riproduzione per {key}; nessuna modifica applicata"
  | .playlist name => s!"Conflitto playlist '{name}'; nessuna modifica applicata"
  | .playlistItem name =>
      s!"Conflitto elemento playlist '{name}'; nessuna modifica applicata"
  | .playlistOrder name =>
      s!"Conflitto ordine playlist '{name}'; nessuna modifica applicata"

abbrev FavoritesState := Observation FavoritesSnapshot

structure FavoritesTally where
  baselineKeys : Finset ItemKey
  addedKeys : Finset ItemKey
  removedKeys : Finset ItemKey
  initialKeys : Finset ItemKey
  changedStates : List FavoritesState

namespace FavoritesTally

def empty : FavoritesTally := ⟨∅, ∅, ∅, ∅, []⟩

/-- Count one participant in. -/
def add (tally : FavoritesTally) (state : FavoritesState) : FavoritesTally :=
  let changedStates :=
    if state.changed then tally.changedStates ++ [state] else tally.changedStates
  match state.previousSnapshot with
  | none =>
      { tally with
        initialKeys := tally.initialKeys ∪ state.snapshot.toFinset
        changedStates }
  | some previous =>
      let diff := diffSets previous state.snapshot
      { tally with
        baselineKeys := tally.baselineKeys ∪ previous.toFinset
        addedKeys := tally.addedKeys ∪ diff.added.toFinset
        removedKeys := tally.removedKeys ∪ diff.removed.toFinset
        changedStates }

def desiredKeys (tally : FavoritesTally) : Finset ItemKey :=
  (tally.baselineKeys ∪ tally.initialKeys ∪ tally.addedKeys) \ tally.removedKeys

def conflicts (tally : FavoritesTally) : Finset ItemKey :=
  tally.addedKeys ∩ tally.removedKeys

end FavoritesTally

structure FavoritesCounts where
  baseline : Nat
  added : Nat
  removed : Nat
  conflicts : Nat
  desired : Nat
deriving DecidableEq, Repr

/-- What a favourites run hands to the writes: the desired keys and the reported counts. -/
structure FavoritesPlan where
  desiredKeys : Finset ItemKey
  delta : FavoritesCounts
deriving DecidableEq

/-- The run up to its writes; without participants it is skipped. -/
def runFavoritesDeltaSync (states : List FavoritesState)
    : Except SyncError (Option FavoritesPlan) :=
  if states.isEmpty then .ok none
  else
    let tally := states.foldl FavoritesTally.add .empty
    if tally.conflicts ≠ ∅ ∧ tally.changedStates ≠ [] then
      .error (.favorites tally.conflicts.card)
    else
      .ok (some {
        desiredKeys := tally.desiredKeys
        delta := {
          baseline := tally.baselineKeys.card
          added := (tally.addedKeys ∪ tally.initialKeys).card
          removed := tally.removedKeys.card
          conflicts := tally.conflicts.card
          desired := tally.desiredKeys.card
        }
      })

namespace Observation

variable (state : FavoritesState) (key : ItemKey)

/-- The key is in the participant's baseline. -/
def HadFavorite : Prop := ∃ previous ∈ state.previousSnapshot, key ∈ previous

/-- Added since the baseline of a participant that has one. -/
def AddedFavorite : Prop :=
  ∃ previous ∈ state.previousSnapshot, key ∈ state.snapshot ∧ key ∉ previous

def RemovedFavorite : Prop :=
  ∃ previous ∈ state.previousSnapshot, key ∈ previous ∧ key ∉ state.snapshot

/-- Present in the snapshot of a participant without a baseline. -/
def InitialFavorite : Prop := state.previousSnapshot = none ∧ key ∈ state.snapshot

/-- Set by the participant: added, or present in its initial snapshot. -/
def SetFavorite : Prop := state.AddedFavorite key ∨ state.InitialFavorite key

end Observation

/-- Every tallied set collects what its participants did, by induction on them. -/
theorem mem_tally (states : List FavoritesState) (key : ItemKey)
    : let tally := states.foldl FavoritesTally.add .empty
      (key ∈ tally.baselineKeys ↔ ∃ state ∈ states, state.HadFavorite key)
      ∧ (key ∈ tally.addedKeys ↔ ∃ state ∈ states, state.AddedFavorite key)
      ∧ (key ∈ tally.removedKeys ↔ ∃ state ∈ states, state.RemovedFavorite key)
      ∧ (key ∈ tally.initialKeys ↔ ∃ state ∈ states, state.InitialFavorite key) := by
  induction states using List.reverseRecOn with
  | nil => simp [FavoritesTally.empty]
  | append_singleton states last ih =>
      obtain ⟨baseline, added, removed, initial⟩ := ih
      simp only [List.foldl_append, List.foldl_cons, List.foldl_nil, List.mem_append,
        List.mem_singleton, or_and_right, exists_or, exists_eq_left, ← baseline, ← added,
        ← removed, ← initial]
      unfold FavoritesTally.add Observation.HadFavorite Observation.AddedFavorite
        Observation.RemovedFavorite Observation.InitialFavorite
      cases last.previousSnapshot with
      | none => simp
      | some previous => simp

theorem changedStates_tally (states : List FavoritesState)
    : (states.foldl FavoritesTally.add .empty).changedStates
      = states.filter Observation.changed := by
  induction states using List.reverseRecOn with
  | nil => rfl
  | append_singleton states last ih =>
      simp only [List.foldl_append, List.foldl_cons, List.foldl_nil, List.filter_append,
        List.filter_cons, List.filter_nil, ← ih]
      unfold FavoritesTally.add
      cases last.previousSnapshot <;> by_cases changed : last.changed = true <;>
        simp [changed]

theorem changed_of_added {state : FavoritesState} {key : ItemKey}
    (added : state.AddedFavorite key)
    : state.changed = true := by
  obtain ⟨previous, found, present, absent⟩ := added
  unfold Observation.changed
  rw [Option.mem_def.mp found]
  simp only [ne_eq, Option.some.injEq, decide_not, Bool.not_eq_true', decide_eq_false_iff_not]
  intro same
  exact absent (same ▸ present)

/-- Some participant of the group has done so. -/
def SomeoneDid (states : List FavoritesState) (did : FavoritesState → ItemKey → Prop)
    (key : ItemKey)
    : Prop :=
  ∃ state ∈ states, did state key

theorem SomeoneDid.perm_iff {states order : List FavoritesState} (perm : order.Perm states)
    {did : FavoritesState → ItemKey → Prop} {key : ItemKey}
    : SomeoneDid order did key ↔ SomeoneDid states did key := by
  simp only [SomeoneDid, perm.mem_iff]

/-- Some key was treated so by one participant and removed by another. -/
def ConflictWithRemoval (states : List FavoritesState)
    (did : FavoritesState → ItemKey → Prop)
    : Prop :=
  ∃ key, SomeoneDid states did key ∧ SomeoneDid states Observation.RemovedFavorite key

/-- The keys all participants shall end with; a skipped run wants none. -/
def plannedKeys (plan : Option FavoritesPlan) : Finset ItemKey :=
  (plan.map FavoritesPlan.desiredKeys).getD ∅

theorem runFavoritesDeltaSync_error_iff {states : List FavoritesState}
    : (∃ error, runFavoritesDeltaSync states = .error error)
      ↔ ConflictWithRemoval states Observation.AddedFavorite := by
  have collected := mem_tally states
  have conflicting
      : (states.foldl FavoritesTally.add .empty).conflicts ≠ ∅
        ↔ ConflictWithRemoval states Observation.AddedFavorite := by
    rw [← Finset.nonempty_iff_ne_empty]
    simp only [Finset.Nonempty, FavoritesTally.conflicts, Finset.mem_inter,
      (collected _).2.1, (collected _).2.2.1, ConflictWithRemoval, SomeoneDid]
  constructor
  · rintro ⟨error, failed⟩
    unfold runFavoritesDeltaSync at failed
    split at failed
    · cases failed
    simp only at failed
    split at failed
    · next both => exact conflicting.mp both.1
    · cases failed
  · intro conflict
    obtain ⟨key, ⟨state, member, added⟩, -⟩ := id conflict
    have changed : (states.foldl FavoritesTally.add .empty).changedStates ≠ [] := by
      rw [changedStates_tally]
      exact List.ne_nil_of_mem (List.mem_filter.mpr ⟨member, changed_of_added added⟩)
    have started : states.isEmpty = false := by
      simpa using List.ne_nil_of_mem member
    unfold runFavoritesDeltaSync
    simp only [started, Bool.false_eq_true, if_false]
    rw [if_pos ⟨conflicting.mpr conflict, changed⟩]
    exact ⟨_, rfl⟩

/-- A run that does not abort plans the baselines, the initial snapshots and the additions
without the removals.
-/
theorem mem_plannedKeys {states : List FavoritesState} {plan : Option FavoritesPlan}
    (planned : runFavoritesDeltaSync states = .ok plan) (key : ItemKey)
    : key ∈ plannedKeys plan
      ↔ (SomeoneDid states Observation.HadFavorite key
          ∨ SomeoneDid states Observation.SetFavorite key)
        ∧ ¬ SomeoneDid states Observation.RemovedFavorite key := by
  obtain ⟨baseline, added, removed, initial⟩ := mem_tally states key
  unfold runFavoritesDeltaSync at planned
  split at planned
  · next empty =>
      cases planned
      simp [plannedKeys, SomeoneDid, List.isEmpty_iff.mp empty]
  simp only at planned
  split at planned
  · cases planned
  · cases planned
    have setEither
        : SomeoneDid states Observation.SetFavorite key
          ↔ (∃ state ∈ states, state.AddedFavorite key)
            ∨ ∃ state ∈ states, state.InitialFavorite key := by
      simp only [SomeoneDid, Observation.SetFavorite, and_or_left, exists_or]
    simp only [plannedKeys, Option.map_some, Option.getD_some, FavoritesTally.desiredKeys,
      Finset.mem_sdiff, Finset.mem_union, baseline, added, removed, initial, setEither]
    rw [or_assoc, or_comm (b := ∃ state ∈ states, state.AddedFavorite key)]
    exact Iff.rfl

/-- In any order of the participants, a key that was set and removed aborts the run, and
otherwise the run plans the baselines and all set keys without the removed ones.
-/
def FavoritesLaw (states : List FavoritesState) : Prop :=
  ∀ order,
    order.Perm states
    → (ConflictWithRemoval states Observation.SetFavorite
        → ∃ error, runFavoritesDeltaSync order = .error error)
      ∧ (¬ ConflictWithRemoval states Observation.SetFavorite
        → ∃ plan,
            runFavoritesDeltaSync order = .ok plan
            ∧ ∀ key,
                key ∈ plannedKeys plan
                ↔ (SomeoneDid states Observation.HadFavorite key
                    ∨ SomeoneDid states Observation.SetFavorite key)
                  ∧ ¬ SomeoneDid states Observation.RemovedFavorite key)

/-- The law holds exactly when no key of an initial snapshot was removed by another
participant, or some added key was removed anyway.
-/
theorem favoritesLaw_iff (states : List FavoritesState)
    : FavoritesLaw states
      ↔ ¬ ConflictWithRemoval states Observation.InitialFavorite
        ∨ ConflictWithRemoval states Observation.AddedFavorite := by
  constructor
  · intro law
    by_contra neither
    rw [not_or, not_not] at neither
    obtain ⟨⟨key, ⟨state, member, initial⟩, removed⟩, unadded⟩ := neither
    have failed := (law states (.refl states)).1
      ⟨key, ⟨state, member, .inr initial⟩, removed⟩
    exact unadded (runFavoritesDeltaSync_error_iff.mp failed)
  · intro holds order perm
    have sameRemovals
        : ConflictWithRemoval order Observation.AddedFavorite
          ↔ ConflictWithRemoval states Observation.AddedFavorite := by
      simp only [ConflictWithRemoval, SomeoneDid.perm_iff perm]
    refine ⟨?_, fun quiet => ?_⟩
    · rintro ⟨key, ⟨state, member, added | initial⟩, removed⟩
      · rw [runFavoritesDeltaSync_error_iff, sameRemovals]
        exact ⟨key, ⟨state, member, added⟩, removed⟩
      · rw [runFavoritesDeltaSync_error_iff, sameRemovals]
        exact holds.resolve_left
          (fun unset => unset ⟨key, ⟨state, member, initial⟩, removed⟩)
    · cases planned : runFavoritesDeltaSync order with
      | error error =>
          obtain ⟨key, ⟨state, member, added⟩, removed⟩ :=
            sameRemovals.mp (runFavoritesDeltaSync_error_iff.mp ⟨error, planned⟩)
          exact absurd ⟨key, ⟨state, member, .inl added⟩, removed⟩ quiet
      | ok plan =>
          refine ⟨plan, rfl, fun key => ?_⟩
          rw [mem_plannedKeys planned, SomeoneDid.perm_iff perm, SomeoneDid.perm_iff perm,
            SomeoneDid.perm_iff perm]

/-- The favourite of a participant without a baseline, removed by the other one. -/
def initialAgainstRemoval : List FavoritesState :=
  [⟨["imdb:a"], none⟩, ⟨[], some ["imdb:a"]⟩]

theorem favoritesLaw_initialAgainstRemoval : ¬ FavoritesLaw initialAgainstRemoval := by
  intro law
  have conflict : ConflictWithRemoval initialAgainstRemoval Observation.SetFavorite := by
    refine ⟨"imdb:a", ⟨⟨["imdb:a"], none⟩, by simp [initialAgainstRemoval], ?_⟩,
      ⟨⟨[], some ["imdb:a"]⟩, by simp [initialAgainstRemoval], ?_⟩⟩
    · exact .inr ⟨rfl, by simp⟩
    · exact ⟨["imdb:a"], rfl, by simp, by simp⟩
  obtain ⟨error, failed⟩ := (law initialAgainstRemoval (.refl _)).1 conflict
  obtain ⟨key, ⟨state, member, previous, found, added, absent⟩, -⟩ :=
    runFavoritesDeltaSync_error_iff.mp ⟨error, failed⟩
  simp only [initialAgainstRemoval, List.mem_cons, List.not_mem_nil, or_false] at member
  rcases member with rfl | rfl
  · cases found
  · cases added

end OctoHubs.UserSync
