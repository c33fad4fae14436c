import OctoHubs.UserSync.HeededRemoval

/-! A favourite that its user removes while a run is in flight, and the next run that commits.
What that run makes of the favourite is decided by what it finds when it begins.
-/

namespace OctoHubs.UserSync

open OctoHubs.Library

namespace SyncedGroup

-- What a run makes of an item

section Settling

variable (group : SyncedGroup) (key : ItemKey)

/-- Between two runs the removal of the key is visible: some baseline still has what its user
no longer has as a favourite, or nobody has the key.
-/
def RemovalSeen (world : FavoritesWorld) : Prop :=
  (∃ participant ∈ group.participants,
    BaselineHas world participant key
    ∧ ¬ group.HasFavorite world.favorites participant key)
  ∨ ∀ participant ∈ group.participants,
      ¬ group.HasFavorite world.favorites participant key

/-- The observation shows the favourites and the baseline that were there at the start. -/
def Shows (start : FavoritesWorld) (entry : Participant × FavoritesState) : Prop :=
  entry.2.previousSnapshot = start.baselines.get? entry.1
  ∧ (key ∈ entry.2.snapshot ↔ group.HasFavorite start.favorites entry.1 key)

variable (participant : Participant) (item : MediaItem)

/-- The item is a favourite exactly when its key is desired. -/
def Settled (world : FavoritesWorld) (desired : Finset ItemKey) : Prop :=
  (participant, item.id) ∈ world.favorites ↔ item.key ∈ desired

/-- What a run since the start knows of the item at each place, as long as nothing failed. -/
def PhaseSettles (start world : FavoritesWorld)
    (observed : List (Participant × FavoritesState))
    : FavoritesPhase → Prop
  | .observing remaining =>
      observed.map Prod.fst ++ remaining = group.participants
      ∧ world.baselines = start.baselines
      ∧ group.SameFavorites item.key start.favorites world.favorites
      ∧ ∀ entry ∈ observed, group.Shows item.key start entry
  | .applying desired remaining failed =>
      (item.key ∈ desired ↔ ¬ group.RemovalSeen item.key start)
      ∧ (failed = false → participant ∈ remaining ∨ Settled participant item world desired)
  | .looking desired current targetKeys remaining failed =>
      (item.key ∈ desired ↔ ¬ group.RemovalSeen item.key start)
      ∧ (current = participant
        → (participant, item.id) ∈ world.favorites
        → item.key ∈ targetKeys)
      ∧ (failed = false
        → participant ∈ current :: remaining ∨ Settled participant item world desired)
  | .writing desired current writes remaining failed =>
      (item.key ∈ desired ↔ ¬ group.RemovalSeen item.key start)
      ∧ (∀ write ∈ writes,
          write.1 ∈ group.items current ∧ write.2 = decide (write.1.key ∈ desired))
      ∧ (failed = false
        → participant ∈ remaining
          ∨ Settled participant item world desired
          ∨ current = participant ∧ (item, decide (item.key ∈ desired)) ∈ writes)
  | .refreshing _ _ =>
      (participant, item.id) ∈ world.favorites ↔ ¬ group.RemovalSeen item.key start

end Settling

variable {group : SyncedGroup} {participant : Participant} {item : MediaItem}
  {start world : FavoritesWorld} {run : FavoritesRun}

theorem mem_desired_iff {key : ItemKey} {observed : List (Participant × FavoritesState)}
    (names : observed.map Prod.fst = group.participants)
    (shown : ∀ entry ∈ observed, group.Shows key start entry) {plan : FavoritesPlan}
    (planned : runFavoritesDeltaSync (observed.map Prod.snd) = .ok (some plan))
    : key ∈ plan.desiredKeys ↔ ¬ group.RemovalSeen key start := by
  have wanted := mem_plannedKeys planned key
  simp only [plannedKeys, Option.map_some, Option.getD_some] at wanted
  have had {entry : Participant × FavoritesState} (listed : entry ∈ observed)
      : entry.2.HadFavorite key ↔ BaselineHas start entry.1 key := by
    unfold Observation.HadFavorite BaselineHas
    rw [(shown entry listed).1]
    rfl
  have removed
      : SomeoneDid (observed.map Prod.snd) Observation.RemovedFavorite key
        ↔ ∃ target ∈ group.participants,
            BaselineHas start target key
            ∧ ¬ group.HasFavorite start.favorites target key := by
    rw [← names]
    simp only [SomeoneDid, List.mem_map, exists_exists_and_eq_and]
    constructor
    · rintro ⟨entry, listed, previous, stored, was, unread⟩
      have present := (shown entry listed).2
      exact ⟨entry, listed, (had listed).mp ⟨previous, stored, was⟩, fun has =>
        unread (present.mpr has)⟩
    · rintro ⟨entry, listed, baseline, lacks⟩
      obtain ⟨previous, stored, was⟩ := (had listed).mpr baseline
      have present := (shown entry listed).2
      exact ⟨entry, listed, previous, stored, was, fun read => lacks (present.mp read)⟩
  rw [wanted, RemovalSeen, not_or, ← removed, and_comm]
  refine and_congr_right (fun unremoved => ?_)
  simp only [not_forall, not_not]
  constructor
  · -- a key of a baseline is still a favourite, since nobody removed it
    rintro (⟨state, listed, was⟩ | ⟨state, listed, set⟩)
    · obtain ⟨entry, entryListed, rfl⟩ := List.mem_map.mp listed
      have inGroup : entry.1 ∈ group.participants := names ▸ List.mem_map_of_mem entryListed
      refine ⟨entry.1, inGroup, by_contra (fun lacks => unremoved (removed.mpr ?_))⟩
      exact ⟨entry.1, inGroup, (had entryListed).mp was, lacks⟩
    · obtain ⟨entry, entryListed, rfl⟩ := List.mem_map.mp listed
      have inGroup : entry.1 ∈ group.participants := names ▸ List.mem_map_of_mem entryListed
      have present := (shown entry entryListed).2
      rcases set with ⟨-, -, read, -⟩ | ⟨-, read⟩
      · exact ⟨entry.1, inGroup, present.mp read⟩
      · exact ⟨entry.1, inGroup, present.mp read⟩
  · rintro ⟨target, inGroup, has⟩
    rw [← names] at inGroup
    obtain ⟨entry, listed, rfl⟩ := List.mem_map.mp inGroup
    have read := (shown entry listed).2.mpr has
    by_cases was : entry.2.HadFavorite key
    · exact .inl ⟨entry.2, List.mem_map_of_mem listed, was⟩
    · refine .inr ⟨entry.2, List.mem_map_of_mem listed, ?_⟩
      cases stored : entry.2.previousSnapshot with
      | none => exact .inr ⟨stored, read⟩
      | some previous =>
          exact .inl ⟨previous, stored, read, fun before => was ⟨previous, stored, before⟩⟩

/-- The run in flight knows what it makes of the item. -/
def Settles (group : SyncedGroup) (participant : Participant) (item : MediaItem)
    (start world : FavoritesWorld)
    : Prop :=
  ∀ run,
    world.run = some run
    → group.PhaseSettles participant item start world run.observed run.phase

theorem Settles.of_phase
    (phase : group.PhaseSettles participant item start world run.observed run.phase)
    : group.Settles participant item start { world with run := some run } := by
  intro found same
  cases same
  exact phase

theorem Settles.ended : group.Settles participant item start { world with run := none } :=
  fun _ absurdity => by cases absurdity

theorem PhaseSettles.of_same (offered : item ∈ group.items participant)
    {observed : List (Participant × FavoritesState)} {phase : FavoritesPhase}
    (settles : group.PhaseSettles participant item start world observed phase)
    {next : Finset (Participant × String)}
    (same : group.SameFavorites item.key world.favorites next)
    : group.PhaseSettles participant item start { world with favorites := next } observed
        phase := by
  have stays := same participant item offered rfl
  cases phase with
  | observing remaining =>
      obtain ⟨names, baselines, before, shown⟩ := settles
      refine ⟨names, baselines, fun target other otherOffered sameKey => ?_, shown⟩
      rw [same target other otherOffered sameKey, before target other otherOffered sameKey]
  | applying desired remaining failed =>
      simpa only [PhaseSettles, Settled, stays] using settles
  | looking desired current targetKeys remaining failed =>
      simpa only [PhaseSettles, Settled, stays] using settles
  | writing desired current writes remaining failed =>
      simpa only [PhaseSettles, Settled, stays] using settles
  | refreshing states remaining =>
      simpa only [PhaseSettles, stays] using settles

theorem PhaseSettles.write (offered : item ∈ group.items participant)
    {observed : List (Participant × FavoritesState)} {desired : Finset ItemKey}
    {target : Participant} {write : MediaItem × Bool} {failed : Bool}
    {writes : List (MediaItem × Bool)} {remaining : List Participant}
    (settles
      : group.PhaseSettles participant item start world observed
          (.writing desired target (write :: writes) remaining failed))
    : group.PhaseSettles participant item start
        { world with favorites := setFavorite world.favorites target write.1 write.2 }
        observed (.writing desired target writes remaining failed) := by
  obtain ⟨wanted, listed, covered⟩ := settles
  obtain ⟨writeOffered, value⟩ := listed write List.mem_cons_self
  refine ⟨wanted, fun other member => listed other (List.mem_cons_of_mem _ member), ?_⟩
  intro unfailed
  by_cases hit : participant = target ∧ item.id = write.1.id
  · obtain ⟨rfl, sameId⟩ := hit
    have same : item = write.1 := item_eq_of_id offered writeOffered sameId
    refine .inr (.inl ?_)
    simp only [Settled, mem_setFavorite, and_self, if_true, value, same, decide_eq_true_eq]
  · rcases covered unfailed with later | settled | ⟨rfl, pending⟩
    · exact .inl later
    · refine .inr (.inl ?_)
      simpa only [Settled, mem_setFavorite, if_neg hit] using settled
    · refine .inr (.inr ⟨rfl, ?_⟩)
      rcases List.mem_cons.mp pending with now | later
      · exact absurd ⟨rfl, by rw [← now]⟩ hit
      · exact later

/-- The lookup of the target lists the item unless it already is as desired. -/
theorem settled_or_pending (offered : item ∈ group.items participant)
    {desired : Finset ItemKey} {targetKeys : List ItemKey}
    (found : (participant, item.id) ∈ world.favorites → item.key ∈ targetKeys)
    : Settled participant item world desired
      ∨ (item, decide (item.key ∈ desired))
        ∈ group.pendingWrites world.favorites desired participant targetKeys := by
  by_cases settled : Settled participant item world desired
  · exact .inl settled
  · right
    apply mem_pendingWrites.mpr
    unfold Settled at settled
    refine ⟨offered, ?_, rfl, ?_⟩
    · by_cases wanted : item.key ∈ desired
      · exact .inl wanted
      · exact .inr (found (by_contra (fun absent => settled (by tauto))))
    · simp only [isFavorite, ne_eq, decide_eq_decide]
      exact fun same => settled same.symm

theorem Settles.advance (offered : item ∈ group.items participant)
    (member : participant ∈ group.participants)
    (settles : group.Settles participant item start world)
    (running : world.run = some run) {after : FavoritesWorld}
    (taken : group.advance world run = some after)
    : group.Settles participant item start after := by
  have phase := settles run running
  obtain ⟨observed, place⟩ := run
  cases place with
  | observing remaining =>
      obtain ⟨names, baselines, same, shown⟩ := phase
      cases remaining with
      | cons target remaining =>
          cases taken
          apply Settles.of_phase
          refine ⟨by simpa using names, baselines, same, fun entry listed => ?_⟩
          rcases List.mem_append.mp listed with earlier | last
          · exact shown entry earlier
          · cases List.mem_singleton.mp last
            refine ⟨by rw [baselines], ?_⟩
            rw [mem_readFavorites]
            exact same.hasFavorite_iff target
      | nil =>
          rw [List.append_nil] at names
          simp only [SyncedGroup.advance] at taken
          split at taken
          · cases taken
            exact .ended
          · cases taken
            exact .ended
          · next plan planned =>
              cases taken
              apply Settles.of_phase
              exact ⟨mem_desired_iff names shown planned, fun _ => .inl member⟩
  | applying desired remaining failed =>
      obtain ⟨wanted, covered⟩ := phase
      cases remaining with
      | cons target remaining =>
          cases taken
          apply Settles.of_phase
          refine ⟨wanted, ?_, covered⟩
          rintro rfl favorite
          exact mem_readFavorites.mpr ⟨item, offered, rfl, favorite⟩
      | nil =>
          cases failed with
          | true =>
              cases taken
              exact .ended
          | false =>
              cases taken
              apply Settles.of_phase
              exact ((covered rfl).resolve_left List.not_mem_nil).trans wanted
  | looking desired target targetKeys remaining failed =>
      obtain ⟨wanted, found, covered⟩ := phase
      cases taken
      apply Settles.of_phase
      refine ⟨wanted, fun write pending => ?_, fun unfailed => ?_⟩
      · obtain ⟨writeOffered, -, value, -⟩ := mem_pendingWrites.mp pending
        exact ⟨writeOffered, value⟩
      · rcases covered unfailed with listed | settled
        · rcases List.mem_cons.mp listed with rfl | later
          · exact .inr ((settled_or_pending offered (found rfl)).imp_right (⟨rfl, ·⟩))
          · exact .inl later
        · exact .inr (.inl settled)
  | writing desired target writes remaining failed =>
      cases writes with
      | cons write writes =>
          cases taken
          intro found same
          cases same
          exact phase.write offered
      | nil =>
          obtain ⟨wanted, -, covered⟩ := phase
          cases taken
          apply Settles.of_phase
          refine ⟨wanted, fun unfailed => ?_⟩
          rcases covered unfailed with later | settled | ⟨-, absurdity⟩
          · exact .inl later
          · exact .inr settled
          · cases absurdity
  | refreshing states remaining =>
      cases remaining with
      | cons target remaining =>
          cases taken
          exact Settles.of_phase phase
      | nil =>
          simp only [SyncedGroup.advance] at taken
          split at taken
          · cases taken
            exact .ended
          · cases taken
            exact fun _ absurdity => by cases absurdity

theorem Settles.failNext (settles : group.Settles participant item start world)
    (running : world.run = some run) {after : FavoritesWorld}
    (taken : failNext world run = some after)
    : group.Settles participant item start after := by
  have phase := settles run running
  obtain ⟨observed, place⟩ := run
  cases place with
  | observing remaining =>
      cases remaining with
      | cons target remaining =>
          cases taken
          exact .ended
      | nil => cases taken
  | applying desired remaining failed =>
      cases remaining with
      | cons target remaining =>
          cases taken
          apply Settles.of_phase
          exact ⟨phase.1, fun unfailed => by cases unfailed⟩
      | nil => cases taken
  | looking desired target targetKeys remaining failed =>
      cases taken
      apply Settles.of_phase
      exact ⟨phase.1, fun unfailed => by cases unfailed⟩
  | writing desired target writes remaining failed =>
      cases writes with
      | cons write writes =>
          cases taken
          apply Settles.of_phase
          refine ⟨phase.1, fun other listed => ?_, fun unfailed => by cases unfailed⟩
          exact phase.2.1 other (List.mem_cons_of_mem _ listed)
      | nil => cases taken
  | refreshing states remaining =>
      cases remaining with
      | cons target remaining =>
          cases taken
          exact .ended
      | nil => cases taken

end SyncedGroup

/-- The event neither begins a run nor touches an item with the key. -/
def FavoritesEvent.Continues (key : ItemKey) (event : FavoritesEvent) : Prop :=
  event ≠ .begin ∧ ¬ event.Edits key

instance (key : ItemKey) (event : FavoritesEvent) : Decidable (event.Continues key) := by
  unfold FavoritesEvent.Continues
  infer_instance

namespace SyncedGroup

variable {group : SyncedGroup} {participant : Participant} {item : MediaItem}
  {start world : FavoritesWorld}

theorem Settles.step (offered : item ∈ group.items participant)
    (member : participant ∈ group.participants)
    (settles : group.Settles participant item start world) {event : FavoritesEvent}
    (continues : event.Continues item.key) {after : FavoritesWorld}
    (taken : group.step world event = some after)
    : group.Settles participant item start after := by
  cases event with
  | edit target other favorite =>
      simp only [SyncedGroup.step, Option.ite_none_right_eq_some] at taken
      obtain ⟨otherOffered, taken⟩ := taken
      cases taken
      intro run running
      exact (settles run running).of_same offered (sameFavorites_set otherOffered continues.2)
  | begin => exact absurd rfl continues.1
  | advance =>
      obtain ⟨run, running, taken⟩ := Option.bind_eq_some_iff.mp taken
      exact settles.advance offered member running taken
  | fail =>
      obtain ⟨run, running, taken⟩ := Option.bind_eq_some_iff.mp taken
      exact settles.failNext running taken
  | stop =>
      obtain ⟨run, running, taken⟩ := Option.map_eq_some_iff.mp taken
      cases taken
      exact .ended

/-- Without a run in flight no event but a new run's beginning starts one. -/
theorem run_none_of_continues {key : ItemKey} (idle : world.run = none)
    {event : FavoritesEvent} (continues : event.Continues key) {after : FavoritesWorld}
    (taken : group.step world event = some after)
    : after.run = none := by
  cases event with
  | edit target other favorite =>
      simp only [SyncedGroup.step, Option.ite_none_right_eq_some] at taken
      obtain ⟨-, taken⟩ := taken
      cases taken
      exact idle
  | begin => exact absurd rfl continues.1
  | advance => simp [SyncedGroup.step, idle] at taken
  | fail => simp [SyncedGroup.step, idle] at taken
  | stop => simp [SyncedGroup.step, idle] at taken

-- The run that follows

/-- The event is the last step of a run, and its checkpoint is stored. -/
def Commits (world : FavoritesWorld) (event : FavoritesEvent) : Prop :=
  match event, world.run with
  | .advance, some ⟨_, .refreshing states []⟩ =>
      (commitMany world.baselines states).isOk = true
  | _, _ => False

instance (world : FavoritesWorld) (event : FavoritesEvent)
    : Decidable (Commits world event) := by
  unfold Commits
  split <;> infer_instance

theorem exists_of_commits {event : FavoritesEvent} (commits : Commits world event)
    : event = .advance
      ∧ ∃ observed states baselines,
          world.run = some ⟨observed, .refreshing states []⟩
          ∧ commitMany world.baselines states = .ok baselines
          ∧ ∀ group : SyncedGroup,
              group.step world event = some { world with baselines, run := none } := by
  unfold Commits at commits
  split at commits
  · next observed states running =>
      cases stored : commitMany world.baselines states with
      | error failure =>
          rw [stored] at commits
          cases commits
      | ok baselines =>
          refine ⟨rfl, observed, states, baselines, running, stored, fun group => ?_⟩
          simp only [SyncedGroup.step, running, Option.bind_some, SyncedGroup.advance, stored]
  · cases commits

end SyncedGroup

end OctoHubs.UserSync
