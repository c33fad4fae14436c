import OctoHubs.UserSync.KeptRemoval

/-! When a favourite removed during a run is still removed after the next run that commits.
The run in flight may overtake the removal between its first and its last observation of the
participant; elsewhere the next run finds the removal.
-/

namespace OctoHubs.UserSync

open OctoHubs.Library

namespace SyncedGroup

section Order

variable (group : SyncedGroup)

/-- A run observes the participants in their order, at its start and at its end. -/
def PhaseOrdered (world : FavoritesWorld) (observed : List (Participant × FavoritesState))
    : FavoritesPhase → Prop
  | .observing remaining =>
      observed.map Prod.fst ++ remaining = group.participants
      ∧ ∀ entry ∈ observed, entry.2.previousSnapshot = world.baselines.get? entry.1
  | .refreshing states remaining =>
      states.map ObservedState.key ++ remaining = group.participants
  | _ => True

def Ordered (world : FavoritesWorld) : Prop :=
  ∀ run, world.run = some run → group.PhaseOrdered world run.observed run.phase

end Order

variable {group : SyncedGroup} {participant : Participant} {key : ItemKey}
  {world : FavoritesWorld}

theorem Ordered.step (ordered : group.Ordered world) {event : FavoritesEvent}
    {after : FavoritesWorld} (taken : group.step world event = some after)
    : group.Ordered after := by
  intro next running
  cases event with
  | edit target item favorite =>
      simp only [SyncedGroup.step, Option.ite_none_right_eq_some] at taken
      obtain ⟨-, taken⟩ := taken
      cases taken
      exact ordered next running
  | begin =>
      simp only [SyncedGroup.step] at taken
      split at taken
      · cases taken
        cases running
        exact ⟨rfl, by simp⟩
      · cases taken
  | stop =>
      obtain ⟨run, was, taken⟩ := Option.map_eq_some_iff.mp taken
      cases taken
      cases running
  | fail =>
      obtain ⟨⟨observed, place⟩, was, taken⟩ := Option.bind_eq_some_iff.mp taken
      unfold failNext at taken
      split at taken <;> cases taken <;> cases running <;> trivial
  | advance =>
      obtain ⟨⟨observed, place⟩, was, taken⟩ := Option.bind_eq_some_iff.mp taken
      have phase := ordered _ was
      unfold SyncedGroup.advance at taken
      split at taken
      · next target remaining here =>
          cases here
          cases taken
          cases running
          obtain ⟨names, entries⟩ := phase
          refine ⟨by simpa using names, fun entry listed => ?_⟩
          rcases List.mem_append.mp listed with earlier | last
          · exact entries entry earlier
          · cases List.mem_singleton.mp last
            rfl
      · split at taken <;> cases taken <;> cases running
        trivial
      · cases taken
        cases running
        trivial
      · split at taken <;> cases taken <;> cases running
        rfl
      · cases taken
        cases running
        trivial
      · cases taken
        cases running
        trivial
      · cases taken
        cases running
        trivial
      · next states target remaining here =>
          cases here
          cases taken
          cases running
          simpa [PhaseOrdered, observe] using phase
      · split at taken <;> cases taken <;> cases running

/-- The run in flight has read the participant's favourites for its checkpoint with the key,
which the participant no longer has.
-/
structure Reobserved (group : SyncedGroup) (participant : Participant) (key : ItemKey)
    (snapshot : FavoritesSnapshot) (world : FavoritesWorld)
    : Prop where
  avoids : ¬ group.HasFavorite world.favorites participant key
  ordered : group.Ordered world
  read
    : ∃ observed states remaining expected,
        world.run = some ⟨observed, .refreshing states remaining⟩
        ∧ ⟨participant, some snapshot, expected⟩ ∈ states

theorem Reobserved.step {snapshot : FavoritesSnapshot}
    (reobserved : group.Reobserved participant key snapshot world) {event : FavoritesEvent}
    (continues : event.Continues key) {after : FavoritesWorld}
    (taken : group.step world event = some after)
    : after.run = none ∨ group.Reobserved participant key snapshot after := by
  have ordered := reobserved.ordered.step taken
  obtain ⟨avoids, -, observed, states, remaining, expected, running, listed⟩ := reobserved
  cases event with
  | edit target item favorite =>
      simp only [SyncedGroup.step, Option.ite_none_right_eq_some] at taken
      obtain ⟨offered, taken⟩ := taken
      cases taken
      have same
          : group.SameFavorites key world.favorites
              (setFavorite world.favorites target item favorite) :=
        sameFavorites_set offered continues.2
      exact .inr ⟨fun has => avoids ((same.hasFavorite_iff participant).mp has), ordered,
        observed, states, remaining, expected, running, listed⟩
  | begin => exact absurd rfl continues.1
  | stop =>
      obtain ⟨run, -, taken⟩ := Option.map_eq_some_iff.mp taken
      cases taken
      exact .inl rfl
  | fail =>
      simp only [SyncedGroup.step, running, Option.bind_some] at taken
      cases remaining with
      | cons target remaining =>
          cases taken
          exact .inl rfl
      | nil => cases taken
  | advance =>
      simp only [SyncedGroup.step, running, Option.bind_some] at taken
      cases remaining with
      | cons target remaining =>
          cases taken
          exact .inr ⟨avoids, ordered, observed, _, remaining, expected, rfl,
            List.mem_append_left _ listed⟩
      | nil =>
          simp only [SyncedGroup.advance] at taken
          split at taken <;> cases taken <;> exact .inl rfl

theorem Reobserved.heeds_of_commits {snapshot : FavoritesSnapshot}
    (reobserved : group.Reobserved participant key snapshot world) (had : key ∈ snapshot)
    {event : FavoritesEvent} (commits : Commits world event) {after : FavoritesWorld}
    (taken : group.step world event = some after)
    : group.Heeds key participant after := by
  obtain ⟨-, observed, states, baselines, running, stored, takes⟩ := exists_of_commits commits
  cases (takes group).symm.trans taken
  obtain ⟨avoids, ordered, _, _, _, expected, alsoRunning, listed⟩ := reobserved
  cases running.symm.trans alsoRunning
  have names := ordered _ running
  simp only [PhaseOrdered, List.append_nil] at names
  obtain ⟨other, otherListed, same, -, shown⟩ := (Committed.of_ok stored).observed _ listed
  have unique : (states.map ObservedState.key).Nodup := names ▸ group.unique
  cases List.inj_on_of_nodup_map unique otherListed listed same
  exact ⟨avoids, .inl ⟨snapshot, shown, had⟩, fun _ absurdity => by cases absurdity⟩

end SyncedGroup

open SyncedGroup

/-- A participant removes a favourite while a run is in flight, and nobody edits an item with
its key again. The run ends; runs that do not commit may follow, and then one that commits.
-/
structure RemovalHistory (group : SyncedGroup) where
  participant : Participant
  item : MediaItem
  member : participant ∈ group.participants
  offered : item ∈ group.items participant
  start : FavoritesWorld
  idle : start.run = none
  /-- The world right before the removal, its run in flight. -/
  world : FavoritesWorld
  earlier : List FavoritesEvent
  reached : Run group.step (fun _ _ => True) start earlier world
  running : world.run.isSome = true
  favorite : (participant, item.id) ∈ world.favorites
  edited : FavoritesWorld
  removed : group.step world (.edit participant item false) = some edited
  last : FavoritesWorld
  during : List FavoritesEvent
  inFlight : Run group.step (fun _ event => event.Continues item.key) edited during last
  unfinished : last.run.isSome = true
  closing : FavoritesEvent
  ended : FavoritesWorld
  closed : group.step last closing = some ended
  finished : ended.run = none
  /-- The world in which the next run that commits begins. -/
  between : FavoritesWorld
  retries : List FavoritesEvent
  uncommitted
    : Run group.step (fun world event => ¬ event.Edits item.key ∧ ¬ Commits world event)
        ended retries between
  opening : FavoritesWorld
  opened : group.step between .begin = some opening
  final : FavoritesWorld
  later : List FavoritesEvent
  next : Run group.step (fun _ event => event.Continues item.key) opening later final
  committing : Commits final .advance
  committed : FavoritesWorld
  stored : group.step final .advance = some committed

namespace RemovalHistory

variable {group : SyncedGroup} (history : RemovalHistory group)

/-- After the run that commits, the item is still no favourite of the participant. -/
def Kept : Prop := (history.participant, history.item.id) ∉ history.committed.favorites

/-- The run in flight has not observed the participant yet, and its baseline has the key. -/
def Unobserved : Prop :=
  BaselineHas history.world history.participant history.item.key
  ∧ ∃ observed remaining,
      history.world.run = some ⟨observed, .observing remaining⟩
      ∧ history.participant ∈ remaining

/-- The run in flight has read the key for the checkpoint that it stores. -/
def Checkpointed : Prop :=
  Commits history.last history.closing
  ∧ ∃ observed states remaining expected snapshot,
      history.world.run = some ⟨observed, .refreshing states remaining⟩
      ∧ ⟨history.participant, some snapshot, expected⟩ ∈ states
      ∧ history.item.key ∈ snapshot

/-- The removal left the participant no favourite with the key and was not overtaken. -/
def InTime : Prop :=
  ¬ group.HasFavorite history.edited.favorites history.participant history.item.key
  ∧ (history.Unobserved ∨ history.Checkpointed)

theorem edited_eq
    : history.edited
      = { history.world with
          favorites :=
            setFavorite history.world.favorites history.participant history.item false } := by
  have removed := history.removed
  simp only [SyncedGroup.step, history.offered, if_true, Option.some.injEq] at removed
  exact removed.symm

theorem ordered : group.Ordered history.world := by
  apply history.reached.preserves group.Ordered
  · exact fun ordered _ taken => ordered.step taken
  · intro run running
    rw [history.idle] at running
    cases running

theorem closing_unedited : ¬ history.closing.Edits history.item.key := by
  intro edits
  have closed := history.closed
  have unfinished := history.unfinished
  cases event : history.closing with
  | edit target item favorite =>
      rw [event] at closed
      simp only [SyncedGroup.step, Option.ite_none_right_eq_some] at closed
      have finished := history.finished
      rw [← Option.some.inj closed.2] at finished
      rw [finished] at unfinished
      cases unfinished
  | begin => exact (event ▸ edits : FavoritesEvent.Edits _ .begin)
  | advance => exact (event ▸ edits : FavoritesEvent.Edits _ .advance)
  | fail => exact (event ▸ edits : FavoritesEvent.Edits _ .fail)
  | stop => exact (event ▸ edits : FavoritesEvent.Edits _ .stop)

theorem heeds_of_unobserved (unobserved : history.Unobserved)
    (avoids
      : ¬ group.HasFavorite history.edited.favorites history.participant history.item.key)
    : group.Heeds history.item.key history.participant history.ended := by
  obtain ⟨baseline, observed, remaining, running, waiting⟩ := unobserved
  have start : group.Heeds history.item.key history.participant history.edited := by
    obtain ⟨names, entries⟩ := history.ordered _ running
    refine ⟨avoids, ?_, fun run same => ?_⟩
    · rw [edited_eq]
      exact .inl baseline
    · rw [edited_eq] at same ⊢
      cases running.symm.trans same
      refine ⟨names, fun entry listed => ⟨entries entry listed, ?_⟩⟩
      rintro (same | unseen)
      · have unique := names ▸ group.unique
        have apart := (List.nodup_append.mp unique).2.2
        exact absurd same (apart entry.1 (List.mem_map_of_mem listed) _ waiting)
      · exact absurd baseline unseen
  have last := history.inFlight.preserves _
    (fun heeds continues taken => heeds.step history.member continues.2 taken) start
  exact last.step history.member history.closing_unedited history.closed

theorem heeds_of_checkpointed (checkpointed : history.Checkpointed)
    (avoids
      : ¬ group.HasFavorite history.edited.favorites history.participant history.item.key)
    : group.Heeds history.item.key history.participant history.ended := by
  obtain ⟨commits, observed, states, remaining, expected, snapshot, running, listed, had⟩ :=
    checkpointed
  have start
      : group.Reobserved history.participant history.item.key snapshot history.edited := by
    refine ⟨avoids, history.ordered.step history.removed, ?_⟩
    rw [edited_eq]
    exact ⟨observed, states, remaining, expected, running, listed⟩
  have last
      : history.last.run = none
        ∨ group.Reobserved history.participant history.item.key snapshot history.last := by
    apply history.inFlight.preserves
      (fun world => world.run = none
        ∨ group.Reobserved history.participant history.item.key snapshot world)
    · intro world after event reobserved continues taken
      rcases reobserved with finished | reobserved
      · left
        exact run_none_of_continues finished continues taken
      · exact reobserved.step continues taken
    · exact .inr start
  have reobserved := last.resolve_left (by
    have unfinished := history.unfinished
    rw [Option.isSome_iff_ne_none] at unfinished
    exact unfinished)
  exact reobserved.heeds_of_commits had commits history.closed

theorem removalSeen_of_inTime (inTime : history.InTime)
    : group.RemovalSeen history.item.key history.between := by
  obtain ⟨avoids, window⟩ := inTime
  have ended : group.Heeds history.item.key history.participant history.ended := by
    rcases window with unobserved | checkpointed
    · exact history.heeds_of_unobserved unobserved avoids
    · exact history.heeds_of_checkpointed checkpointed avoids
  have between := history.uncommitted.preserves _
    (fun heeds quiet taken => heeds.step history.member quiet.1 taken) ended
  rcases between.seen with baseline | gone
  · exact .inl ⟨history.participant, history.member, baseline, between.avoids⟩
  · exact .inr (fun target inGroup => (gone target inGroup).2)

theorem kept_iff_removalSeen
    : history.Kept ↔ group.RemovalSeen history.item.key history.between := by
  have opening
      : group.Settles history.participant history.item history.between history.opening := by
    have opened := history.opened
    simp only [SyncedGroup.step] at opened
    split at opened
    · rw [← Option.some.inj opened]
      intro run same
      cases same
      exact ⟨rfl, rfl, fun _ _ _ _ => Iff.rfl, by simp⟩
    · cases opened
  have final := history.next.preserves _
    (fun settles continues taken =>
      settles.step history.offered history.member continues taken) opening
  obtain ⟨-, observed, states, baselines, running, -, takes⟩ :=
    exists_of_commits history.committing
  have settled := final _ running
  have committed := Option.some.inj ((takes group).symm.trans history.stored)
  rw [Kept, ← committed]
  exact (not_congr settled).trans not_not

end RemovalHistory

/-- The removal is kept exactly when the next run that commits finds it visible, which it
does whenever the run in flight had not observed the participant yet or stores a checkpoint
read before the removal.
-/
theorem removalKept_iff {group : SyncedGroup} (history : RemovalHistory group)
    : (history.Kept ↔ group.RemovalSeen history.item.key history.between)
      ∧ (history.InTime → history.Kept) :=
  ⟨history.kept_iff_removalSeen,
    fun inTime => history.kept_iff_removalSeen.mpr (history.removalSeen_of_inTime inTime)⟩

def firstUser : Participant := ("s1", "u1")
def secondUser : Participant := ("s2", "u2")
def film : MediaItem := ⟨"11", "imdb:tt0111161"⟩

/-- Two users whose servers offer the same film. -/
def filmGroup : SyncedGroup where
  participants := [firstUser, secondUser]
  items _ := [film]
  unique := by decide
  distinct _ := by simp

/-- Both have the film as a favourite, and it is in both baselines. -/
def bothFavorites : FavoritesWorld where
  favorites := {(firstUser, film.id), (secondUser, film.id)}
  baselines := ⟨[(firstUser, [film.key]), (secondUser, [film.key])], by decide⟩
  run := none

def filmWorld (start : FavoritesWorld) (events : List FavoritesEvent) : FavoritesWorld :=
  (execute filmGroup.step (fun _ _ => True) start events).getD start

def plannedWorld : FavoritesWorld :=
  filmWorld bothFavorites [.begin, .advance, .advance, .advance]

/-- The first user removes the film when both users are observed and the plan is made. -/
def overtakenWorld : FavoritesWorld :=
  filmWorld plannedWorld [.edit firstUser film false]

def refreshedWorld : FavoritesWorld :=
  filmWorld overtakenWorld (List.replicate 10 .advance)

def nextRefreshedWorld : FavoritesWorld :=
  filmWorld refreshedWorld (.advance :: .begin :: List.replicate 12 .advance)

def overtakenRemoval : RemovalHistory filmGroup where
  participant := firstUser
  item := film
  member := by decide
  offered := by decide
  start := bothFavorites
  idle := rfl
  world := plannedWorld
  earlier := [.begin, .advance, .advance, .advance]
  reached := .of_execute (by decide)
  running := by decide
  favorite := by decide
  edited := overtakenWorld
  removed := by decide
  last := refreshedWorld
  during := List.replicate 10 .advance
  inFlight := .of_execute (by decide)
  unfinished := by decide
  closing := .advance
  ended := filmWorld refreshedWorld [.advance]
  closed := by decide
  finished := by decide
  between := filmWorld refreshedWorld [.advance]
  retries := []
  uncommitted := .nil _
  opening := filmWorld refreshedWorld [.advance, .begin]
  opened := by decide
  final := nextRefreshedWorld
  later := List.replicate 12 .advance
  next := .of_execute (by decide)
  committing := by decide
  committed := filmWorld nextRefreshedWorld [.advance]
  stored := by decide

/-- The run in flight looks up the first user only after the removal, adds the film again
and stores a checkpoint that shows it.
-/
theorem removalLost_overtaken
    : ¬ ∀ (group : SyncedGroup) (history : RemovalHistory group), history.Kept := by
  intro kept
  have lost : (firstUser, film.id) ∈ overtakenRemoval.committed.favorites := by decide
  exact kept filmGroup overtakenRemoval lost

end OctoHubs.UserSync
