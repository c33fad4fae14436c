import OctoHubs.UserSync.FavoritesRace

/-! The removal of a favourite that a run sees.
While the committed baseline still shows the removed key, every plan removes it everywhere;
once it is gone everywhere, no plan brings it back.
-/

namespace OctoHubs.UserSync

open OctoHubs.Library

def FavoritesEvent.Edits (key : ItemKey) : FavoritesEvent → Prop
  | .edit _ item _ => item.key = key
  | _ => False

instance (key : ItemKey) (event : FavoritesEvent) : Decidable (event.Edits key) := by
  cases event <;> unfold FavoritesEvent.Edits <;> infer_instance

namespace SyncedGroup

variable (group : SyncedGroup)

-- Favourites by key

/-- Some favourite of the participant has the key. -/
def HasFavorite (favorites : Finset (Participant × String)) (participant : Participant)
    (key : ItemKey)
    : Prop :=
  ∃ item ∈ group.items participant,
    item.key = key ∧ (participant, item.id) ∈ favorites

def BaselineHas (world : FavoritesWorld) (participant : Participant) (key : ItemKey) : Prop :=
  ∃ baseline, world.baselines.get? participant = some baseline ∧ key ∈ baseline

/-- No participant has the key as a favourite or in its baseline. -/
def Gone (world : FavoritesWorld) (key : ItemKey) : Prop :=
  ∀ participant ∈ group.participants,
    ¬ BaselineHas world participant key ∧ ¬ group.HasFavorite world.favorites participant key

/-- The items with the key are favourites in the one exactly when they are in the other. -/
def SameFavorites (key : ItemKey) (favorites next : Finset (Participant × String)) : Prop :=
  ∀ participant,
    ∀ item ∈ group.items participant,
      item.key = key
      → ((participant, item.id) ∈ next ↔ (participant, item.id) ∈ favorites)

variable {group} {key : ItemKey} {favorites next : Finset (Participant × String)}

theorem mem_readFavorites {participant : Participant}
    : key ∈ group.readFavorites favorites participant
      ↔ group.HasFavorite favorites participant key := by
  unfold readFavorites isFavorite HasFavorite
  simp only [mem_sorted, List.mem_map, List.mem_filter, decide_eq_true_eq]
  constructor
  · rintro ⟨item, ⟨offered, favorite⟩, rfl⟩
    exact ⟨item, offered, rfl, favorite⟩
  · rintro ⟨item, offered, rfl, favorite⟩
    exact ⟨item, ⟨offered, favorite⟩, rfl⟩

theorem item_eq_of_id {participant : Participant} {item other : MediaItem}
    (offered : item ∈ group.items participant) (otherOffered : other ∈ group.items participant)
    (same : item.id = other.id)
    : item = other :=
  List.inj_on_of_nodup_map (group.distinct participant) offered otherOffered same

theorem mem_setFavorite {target participant : Participant} {item : MediaItem}
    {favorite : Bool} {id : String}
    : (participant, id) ∈ setFavorite favorites target item favorite
      ↔ if participant = target ∧ id = item.id then favorite = true
        else (participant, id) ∈ favorites := by
  unfold setFavorite
  cases favorite with
  | true =>
      simp only [if_true, Finset.mem_insert, Prod.mk.injEq]
      split <;> simp_all
  | false =>
      simp only [Bool.false_eq_true, if_false, Finset.mem_erase, ne_eq, Prod.mk.injEq]
      split <;> simp_all

theorem sameFavorites_set {target : Participant} {item : MediaItem} {favorite : Bool}
    (offered : item ∈ group.items target) (differs : item.key ≠ key)
    : group.SameFavorites key favorites (setFavorite favorites target item favorite) := by
  intro participant other otherOffered sameKey
  rw [mem_setFavorite, if_neg]
  rintro ⟨rfl, sameId⟩
  exact differs (item_eq_of_id offered otherOffered sameId.symm ▸ sameKey)

theorem SameFavorites.hasFavorite_iff (same : group.SameFavorites key favorites next)
    (participant : Participant)
    : group.HasFavorite next participant key ↔ group.HasFavorite favorites participant key := by
  unfold HasFavorite
  constructor
  · rintro ⟨item, offered, sameKey, favorite⟩
    exact ⟨item, offered, sameKey, (same participant item offered sameKey).mp favorite⟩
  · rintro ⟨item, offered, sameKey, favorite⟩
    exact ⟨item, offered, sameKey, (same participant item offered sameKey).mpr favorite⟩

theorem hasFavorite_of_cleared {target participant : Participant} {item : MediaItem}
    (has : group.HasFavorite (setFavorite favorites target item false) participant key)
    : group.HasFavorite favorites participant key := by
  obtain ⟨other, offered, sameKey, favorite⟩ := has
  rw [mem_setFavorite] at favorite
  split at favorite
  · cases favorite
  · exact ⟨other, offered, sameKey, favorite⟩

-- The invariant of a seen removal

variable (group) (participant : Participant) (key)

/-- What a run knows at each place so that it never gives the key back: it plans from the
participant's removal or from nothing, clears the key on each target, and reads it nowhere
at its end.
-/
def PhaseHeeds (world : FavoritesWorld) (observed : List (Participant × FavoritesState))
    : FavoritesPhase → Prop
  | .observing remaining =>
      observed.map Prod.fst ++ remaining = group.participants
      ∧ ∀ entry ∈ observed,
          entry.2.previousSnapshot = world.baselines.get? entry.1
          ∧ (entry.1 = participant ∨ ¬ BaselineHas world participant key
            → key ∉ entry.2.snapshot)
  | .applying desired remaining failed =>
      key ∉ desired
      ∧ (failed = false
        → ∀ target ∈ group.participants,
            target ∈ remaining ∨ ¬ group.HasFavorite world.favorites target key)
  | .looking desired current targetKeys remaining failed =>
      key ∉ desired
      ∧ (group.HasFavorite world.favorites current key → key ∈ targetKeys)
      ∧ (failed = false
        → ∀ target ∈ group.participants,
            target ∈ current :: remaining
            ∨ ¬ group.HasFavorite world.favorites target key)
  | .writing desired current writes remaining failed =>
      key ∉ desired
      ∧ (∀ write ∈ writes,
          write.1 ∈ group.items current ∧ (write.2 = true → write.1.key ≠ key))
      ∧ (failed = false
        → (∀ item ∈ group.items current,
            item.key = key → (current, item.id) ∈ world.favorites → (item, false) ∈ writes)
          ∧ ∀ target ∈ group.participants,
              target ∈ current :: remaining
              ∨ ¬ group.HasFavorite world.favorites target key)
  | .refreshing states remaining =>
      states.map ObservedState.key ++ remaining = group.participants
      ∧ (∀ target ∈ group.participants, ¬ group.HasFavorite world.favorites target key)
      ∧ ∀ state ∈ states, ∀ snapshot, state.snapshot = some snapshot → key ∉ snapshot

/-- The participant's removal of the key is seen, or the key is gone everywhere. -/
structure Heeds (world : FavoritesWorld) : Prop where
  avoids : ¬ group.HasFavorite world.favorites participant key
  seen : BaselineHas world participant key ∨ group.Gone world key
  run
    : ∀ run,
        world.run = some run → group.PhaseHeeds key participant world run.observed run.phase

-- Every step keeps a seen removal

variable {group key participant} {world : FavoritesWorld} {run : FavoritesRun}

theorem PhaseHeeds.of_same {observed : List (Participant × FavoritesState)}
    {phase : FavoritesPhase}
    (heeds : group.PhaseHeeds key participant world observed phase)
    (same : group.SameFavorites key world.favorites next)
    : group.PhaseHeeds key participant { world with favorites := next } observed phase := by
  have has (target : Participant) := same.hasFavorite_iff target
  cases phase with
  | observing remaining => exact heeds
  | applying desired remaining failed =>
      simpa only [PhaseHeeds, has] using heeds
  | looking desired current targetKeys remaining failed =>
      simpa only [PhaseHeeds, has] using heeds
  | writing desired current writes remaining failed =>
      obtain ⟨undesired, listed, covered⟩ := heeds
      refine ⟨undesired, listed, fun unfailed => ?_⟩
      obtain ⟨pending, others⟩ := covered unfailed
      refine ⟨fun item offered sameKey favorite => ?_, ?_⟩
      · exact pending item offered sameKey ((same current item offered sameKey).mp favorite)
      · simpa only [has] using others
  | refreshing states remaining =>
      simpa only [PhaseHeeds, has] using heeds

theorem Heeds.not_mem_readFavorites (heeds : group.Heeds key participant world)
    {target : Participant} (member : target ∈ group.participants)
    (here : target = participant ∨ ¬ BaselineHas world participant key)
    : key ∉ group.readFavorites world.favorites target := by
  rw [mem_readFavorites]
  rcases here with rfl | unseen
  · exact heeds.avoids
  · exact ((heeds.seen.resolve_left unseen) target member).2

theorem Heeds.not_mem_desired (heeds : group.Heeds key participant world)
    (member : participant ∈ group.participants)
    {observed : List (Participant × FavoritesState)}
    (observes : group.PhaseHeeds key participant world observed (.observing []))
    {plan : FavoritesPlan}
    (planned : runFavoritesDeltaSync (observed.map Prod.snd) = .ok (some plan))
    : key ∉ plan.desiredKeys := by
  obtain ⟨names, entries⟩ := observes
  rw [List.append_nil] at names
  intro wanted
  obtain ⟨someone, unremoved⟩ := (mem_plannedKeys planned key).mp wanted
  by_cases seen : BaselineHas world participant key
  · -- the participant's own entry removes the key
    rw [← names] at member
    obtain ⟨entry, listed, rfl⟩ := List.mem_map.mp member
    obtain ⟨previous, unread⟩ := entries entry listed
    obtain ⟨baseline, stored, had⟩ := seen
    exact unremoved ⟨entry.2, List.mem_map_of_mem listed, baseline, previous.trans stored,
      had, unread (.inl rfl)⟩
  · have gone := heeds.seen.resolve_left seen
    have absent : ∀ entry ∈ observed,
        ¬ entry.2.HadFavorite key ∧ key ∉ entry.2.snapshot := by
      intro entry listed
      obtain ⟨previous, unread⟩ := entries entry listed
      refine ⟨?_, unread (.inr seen)⟩
      rintro ⟨baseline, stored, had⟩
      have inGroup : entry.1 ∈ group.participants := names ▸ List.mem_map_of_mem listed
      exact (gone entry.1 inGroup).1 ⟨baseline, previous.symm.trans stored, had⟩
    rcases someone with ⟨state, listed, had⟩ | ⟨state, listed, set⟩
    · obtain ⟨entry, entryListed, rfl⟩ := List.mem_map.mp listed
      exact (absent entry entryListed).1 had
    · obtain ⟨entry, entryListed, rfl⟩ := List.mem_map.mp listed
      rcases set with ⟨-, -, present, -⟩ | ⟨-, present⟩
      · exact (absent entry entryListed).2 present
      · exact (absent entry entryListed).2 present

theorem mem_pendingWrites {desired : Finset ItemKey} {target : Participant}
    {targetKeys : List ItemKey} {write : MediaItem × Bool}
    : write ∈ group.pendingWrites favorites desired target targetKeys
      ↔ write.1 ∈ group.items target
        ∧ (write.1.key ∈ desired ∨ write.1.key ∈ targetKeys)
        ∧ write.2 = decide (write.1.key ∈ desired)
        ∧ write.2 ≠ isFavorite favorites target write.1 := by
  unfold pendingWrites
  simp only [List.mem_filterMap, Option.ite_none_right_eq_some, Option.some.injEq]
  constructor
  · rintro ⟨item, offered, ⟨found, pending⟩, rfl⟩
    exact ⟨offered, found, rfl, pending⟩
  · rintro ⟨offered, found, value, pending⟩
    rw [value] at pending
    exact ⟨write.1, offered, ⟨found, pending⟩, value ▸ rfl⟩

theorem PhaseHeeds.gone_of_committed {observed : List (Participant × FavoritesState)}
    {states : List (ObservedState Participant FavoritesSnapshot)}
    (heeds : group.PhaseHeeds key participant world observed (.refreshing states []))
    {baselines : Dict Participant FavoritesSnapshot}
    (committed : commitMany world.baselines states = .ok baselines)
    : group.Gone { world with baselines, run := none } key := by
  obtain ⟨names, cleared, unread⟩ := heeds
  rw [List.append_nil] at names
  intro target member
  refine ⟨?_, cleared target member⟩
  rintro ⟨baseline, stored, had⟩
  rw [← names] at member
  obtain ⟨state, listed, rfl⟩ := List.mem_map.mp member
  obtain ⟨other, otherListed, -, -, shown⟩ := (Committed.of_ok committed).observed state listed
  exact unread other otherListed baseline (shown.symm.trans stored) had

theorem Heeds.of_phase (heeds : group.Heeds key participant world)
    (phase : group.PhaseHeeds key participant world run.observed run.phase)
    : group.Heeds key participant { world with run := some run } where
  avoids := heeds.avoids
  seen := heeds.seen
  run found same := by
    cases same
    exact phase

theorem Heeds.ended (heeds : group.Heeds key participant world)
    : group.Heeds key participant { world with run := none } where
  avoids := heeds.avoids
  seen := heeds.seen
  run _ absurdity := by cases absurdity

theorem Heeds.of_same (heeds : group.Heeds key participant world)
    (same : group.SameFavorites key world.favorites next)
    : group.Heeds key participant { world with favorites := next } where
  avoids has := heeds.avoids ((same.hasFavorite_iff participant).mp has)
  seen := by
    refine heeds.seen.imp_right (fun gone target member => ⟨(gone target member).1, ?_⟩)
    rw [same.hasFavorite_iff target]
    exact (gone target member).2
  run run running := (heeds.run run running).of_same same

theorem Heeds.write (heeds : group.Heeds key participant world)
    {observed : List (Participant × FavoritesState)} {desired : Finset ItemKey}
    {target : Participant} {item : MediaItem} {favorite failed : Bool}
    {writes : List (MediaItem × Bool)} {remaining : List Participant}
    (phase
      : group.PhaseHeeds key participant world observed
          (.writing desired target ((item, favorite) :: writes) remaining failed))
    : group.Heeds key participant
        { world with
          favorites := setFavorite world.favorites target item favorite
          run := some ⟨observed, .writing desired target writes remaining failed⟩ } := by
  obtain ⟨undesired, listed, covered⟩ := phase
  obtain ⟨offered, avoids⟩ := listed (item, favorite) List.mem_cons_self
  have others : ∀ write ∈ writes,
      write.1 ∈ group.items target ∧ (write.2 = true → write.1.key ≠ key) :=
    fun write member => listed write (List.mem_cons_of_mem _ member)
  by_cases differs : item.key = key
  · -- the key is cleared on the target
    have cleared : favorite = false := by
      cases favorite with
      | false => rfl
      | true => exact absurd differs (avoids rfl)
    subst cleared
    have fewer (current : Participant)
        (has : group.HasFavorite (setFavorite world.favorites target item false) current key)
        : group.HasFavorite world.favorites current key :=
      hasFavorite_of_cleared has
    refine ⟨fun has => heeds.avoids (fewer participant has), ?_, ?_⟩
    · refine heeds.seen.imp_right (fun gone current member => ⟨(gone current member).1, ?_⟩)
      exact fun has => (gone current member).2 (fewer current has)
    · intro run same
      cases same
      refine ⟨undesired, others, fun unfailed => ?_⟩
      obtain ⟨pending, elsewhere⟩ := covered unfailed
      refine ⟨fun other otherOffered sameKey still => ?_, fun current member => ?_⟩
      · rw [mem_setFavorite] at still
        split at still
        · cases still
        next untouched =>
        rcases List.mem_cons.mp (pending other otherOffered sameKey still) with now | later
        · cases now
          exact absurd ⟨rfl, rfl⟩ untouched
        · exact later
      · exact (elsewhere current member).imp_right (fun free has => free (fewer current has))
  · -- another key is written
    have same : group.SameFavorites key world.favorites
        (setFavorite world.favorites target item favorite) :=
      sameFavorites_set offered differs
    have before
        : group.PhaseHeeds key participant world observed
            (.writing desired target writes remaining failed) := by
      refine ⟨undesired, others, fun unfailed => ?_⟩
      obtain ⟨pending, elsewhere⟩ := covered unfailed
      refine ⟨fun other otherOffered sameKey favored => ?_, elsewhere⟩
      rcases List.mem_cons.mp (pending other otherOffered sameKey favored) with now | later
      · cases now
        exact absurd sameKey differs
      · exact later
    exact (heeds.of_same same).of_phase (before.of_same same)

theorem Heeds.advance (heeds : group.Heeds key participant world)
    (member : participant ∈ group.participants) (running : world.run = some run)
    {after : FavoritesWorld} (taken : group.advance world run = some after)
    : group.Heeds key participant after := by
  have phase := heeds.run run running
  obtain ⟨observed, place⟩ := run
  cases place with
  | observing remaining =>
      obtain ⟨names, entries⟩ := phase
      cases remaining with
      | cons target remaining =>
          cases taken
          have inGroup : target ∈ group.participants := by
            rw [← names]
            exact List.mem_append_right _ List.mem_cons_self
          apply heeds.of_phase
          refine ⟨by simpa using names, fun entry listed => ?_⟩
          rcases List.mem_append.mp listed with earlier | last
          · exact entries entry earlier
          · cases List.mem_singleton.mp last
            exact ⟨rfl, heeds.not_mem_readFavorites inGroup⟩
      | nil =>
          simp only [SyncedGroup.advance] at taken
          split at taken
          · cases taken
            exact heeds.ended
          · cases taken
            exact heeds.ended
          · next plan planned =>
              cases taken
              apply heeds.of_phase
              exact ⟨heeds.not_mem_desired member ⟨names, entries⟩ planned,
                fun _ target inGroup => .inl inGroup⟩
  | applying desired remaining failed =>
      obtain ⟨undesired, covered⟩ := phase
      cases remaining with
      | cons target remaining =>
          cases taken
          apply heeds.of_phase
          exact ⟨undesired, mem_readFavorites.mpr, covered⟩
      | nil =>
          cases failed with
          | true =>
              cases taken
              exact heeds.ended
          | false =>
              cases taken
              apply heeds.of_phase
              refine ⟨rfl, fun target inGroup => ?_, by simp⟩
              exact (covered rfl target inGroup).resolve_left (by simp)
  | looking desired target targetKeys remaining failed =>
      obtain ⟨undesired, found, covered⟩ := phase
      cases taken
      apply heeds.of_phase
      refine ⟨undesired, fun write pending => ?_, fun unfailed => ⟨?_, covered unfailed⟩⟩
      · obtain ⟨offered, -, value, -⟩ := mem_pendingWrites.mp pending
        refine ⟨offered, fun favorite same => undesired ?_⟩
        rw [favorite, eq_comm, decide_eq_true_eq] at value
        exact same ▸ value
      · intro item offered same favorite
        have unwanted : item.key ∉ desired := same ▸ undesired
        have has : group.HasFavorite world.favorites target key :=
          ⟨item, offered, same, favorite⟩
        apply mem_pendingWrites.mpr
        refine ⟨offered, .inr (same ▸ found has), by simp [unwanted], ?_⟩
        simpa [isFavorite] using favorite
  | writing desired target writes remaining failed =>
      cases writes with
      | cons write writes =>
          cases taken
          exact heeds.write phase
      | nil =>
          obtain ⟨undesired, -, covered⟩ := phase
          cases taken
          apply heeds.of_phase
          refine ⟨undesired, fun unfailed current inGroup => ?_⟩
          obtain ⟨pending, elsewhere⟩ := covered unfailed
          rcases elsewhere current inGroup with listed | free
          · rcases List.mem_cons.mp listed with rfl | later
            · right
              rintro ⟨item, offered, same, favorite⟩
              exact absurd (pending item offered same favorite) List.not_mem_nil
            · exact .inl later
          · exact .inr free
  | refreshing states remaining =>
      cases remaining with
      | cons target remaining =>
          obtain ⟨names, cleared, unread⟩ := phase
          cases taken
          apply heeds.of_phase
          refine ⟨by simpa [observe] using names, cleared, fun state listed => ?_⟩
          rcases List.mem_append.mp listed with earlier | last
          · exact unread state earlier
          · cases List.mem_singleton.mp last
            intro snapshot read
            cases read
            have inGroup : target ∈ group.participants := by
              rw [← names]
              exact List.mem_append_right _ List.mem_cons_self
            rw [mem_readFavorites]
            exact cleared target inGroup
      | nil =>
          simp only [SyncedGroup.advance] at taken
          split at taken
          · cases taken
            exact heeds.ended
          · next baselines committed =>
              cases taken
              have gone := phase.gone_of_committed committed
              exact ⟨heeds.avoids, .inr gone, fun _ absurdity => by cases absurdity⟩

theorem Heeds.failNext (heeds : group.Heeds key participant world)
    (running : world.run = some run) {after : FavoritesWorld}
    (taken : failNext world run = some after)
    : group.Heeds key participant after := by
  have phase := heeds.run run running
  obtain ⟨observed, place⟩ := run
  cases place with
  | observing remaining =>
      cases remaining with
      | cons target remaining =>
          cases taken
          exact heeds.ended
      | nil => cases taken
  | applying desired remaining failed =>
      cases remaining with
      | cons target remaining =>
          cases taken
          apply heeds.of_phase
          exact ⟨phase.1, fun unfailed => by cases unfailed⟩
      | nil => cases taken
  | looking desired target targetKeys remaining failed =>
      cases taken
      apply heeds.of_phase
      exact ⟨phase.1, fun unfailed => by cases unfailed⟩
  | writing desired target writes remaining failed =>
      cases writes with
      | cons write writes =>
          cases taken
          apply heeds.of_phase
          refine ⟨phase.1, fun other member => ?_, fun unfailed => by cases unfailed⟩
          exact phase.2.1 other (List.mem_cons_of_mem _ member)
      | nil => cases taken
  | refreshing states remaining =>
      cases remaining with
      | cons target remaining =>
          cases taken
          exact heeds.ended
      | nil => cases taken

theorem Heeds.step (heeds : group.Heeds key participant world)
    (member : participant ∈ group.participants) {event : FavoritesEvent}
    (quiet : ¬ event.Edits key) {after : FavoritesWorld}
    (taken : group.step world event = some after)
    : group.Heeds key participant after := by
  cases event with
  | edit target item favorite =>
      simp only [SyncedGroup.step, Option.ite_none_right_eq_some] at taken
      obtain ⟨offered, taken⟩ := taken
      cases taken
      exact heeds.of_same (sameFavorites_set offered quiet)
  | begin =>
      simp only [SyncedGroup.step] at taken
      split at taken
      · cases taken
        apply heeds.of_phase
        exact ⟨rfl, by simp⟩
      · cases taken
  | advance =>
      obtain ⟨run, running, taken⟩ := Option.bind_eq_some_iff.mp taken
      exact heeds.advance member running taken
  | fail =>
      obtain ⟨run, running, taken⟩ := Option.bind_eq_some_iff.mp taken
      exact heeds.failNext running taken
  | stop =>
      obtain ⟨run, running, taken⟩ := Option.map_eq_some_iff.mp taken
      cases taken
      exact heeds.ended

end SyncedGroup

end OctoHubs.UserSync
