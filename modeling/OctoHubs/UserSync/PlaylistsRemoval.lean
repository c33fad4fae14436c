import OctoHubs.UserSync.PlaylistsDelta

/-! What a playlists run takes away from the participants.
An item is left out of a playlist, or a whole playlist is deleted, only by the recorded
operations and by the choice of the last baseline among the overlaid ones.
-/

namespace OctoHubs.UserSync

open OctoHubs.Library

-- What the participants did to their playlists

namespace Observation

variable (state : PlaylistsState) (name : PlaylistName) (key : ItemKey)

/-- The playlist is not in the baseline, or there is no baseline. -/
def CreatedPlaylist (playlist : Playlist) : Prop :=
  state.baseline.get? name = none ∧ state.snapshot.get? name = some playlist

def DeletedPlaylist : Prop :=
  (state.baseline.get? name).isSome = true ∧ state.snapshot.get? name = none

/-- The playlist is in the baseline and in the snapshot. -/
def KeptPlaylist : Prop :=
  (state.baseline.get? name).isSome = true ∧ (state.snapshot.get? name).isSome = true

/-- The item is in the participant's playlist. -/
def HasItem : Prop := key ∈ itemsOf state.snapshot name

def KeptItem : Prop :=
  key ∈ itemsOf state.baseline name ∧ key ∈ itemsOf state.snapshot name

/-- The item came into a kept playlist. -/
def AddedItem : Prop :=
  state.KeptPlaylist name
  ∧ key ∈ itemsOf state.snapshot name ∧ key ∉ itemsOf state.baseline name

/-- The item was in the baseline playlist and is not in the playlist any more. -/
def RemovedItem : Prop :=
  key ∈ itemsOf state.baseline name ∧ key ∉ itemsOf state.snapshot name

/-- Some item of a kept playlist was added or removed. -/
def EditedPlaylist : Prop :=
  state.KeptPlaylist name ∧ ∃ key, state.AddedItem name key ∨ state.RemovedItem name key

end Observation

theorem isSome_of_mem_itemsOf {playlists : PlaylistsSnapshot} {name : PlaylistName}
    {key : ItemKey} (present : key ∈ itemsOf playlists name)
    : (playlists.get? name).isSome = true := by
  unfold itemsOf at present
  cases found : playlists.get? name with
  | none => simp [found] at present
  | some playlist => rfl

theorem mem_itemsOf_iff {playlists : PlaylistsSnapshot} {name : PlaylistName} {key : ItemKey}
    : key ∈ itemsOf playlists name
      ↔ ∃ playlist, playlists.get? name = some playlist ∧ key ∈ playlist.items := by
  unfold itemsOf
  cases playlists.get? name <;> simp

theorem mem_recordedPlaylistOps {state : PlaylistsState} {name : PlaylistName}
    {op : Change Playlist}
    : (name, op) ∈ recordedPlaylistOps state
      ↔ (∃ playlist, op = .set playlist ∧ state.CreatedPlaylist name playlist)
        ∨ (op = .remove ∧ state.DeletedPlaylist name) := by
  unfold recordedPlaylistOps Observation.CreatedPlaylist Observation.DeletedPlaylist
    Observation.baseline
  cases state.previousSnapshot with
  | none =>
      simp only [List.mem_map, Prod.mk.injEq, Prod.exists, Dict.mem_items_iff]
      simp [and_comm, eq_comm]
  | some previous =>
      simp only [diffPlaylists, List.mem_append, List.mem_filterMap, List.mem_map, mem_sorted,
        List.mem_filter, Dict.mem_keys_iff_isSome, decide_eq_true_eq, Option.getD_some,
        Option.map_eq_some_iff, Prod.mk.injEq, Bool.not_eq_true, Option.isSome_eq_false_iff,
        Option.isNone_iff_eq_none]
      constructor
      · rintro (⟨other, ⟨-, absent⟩, playlist, found, rfl, rfl⟩ | ⟨other, ⟨had, gone⟩, rfl, rfl⟩)
        · exact .inl ⟨playlist, rfl, absent, found⟩
        · exact .inr ⟨rfl, had, gone⟩
      · rintro (⟨playlist, rfl, absent, found⟩ | ⟨rfl, had, gone⟩)
        · exact .inl ⟨name, ⟨by rw [found]; rfl, absent⟩, playlist, found, rfl, rfl⟩
        · exact .inr ⟨name, ⟨had, gone⟩, rfl, rfl⟩

theorem mem_stateItemOps {state : PlaylistsState} {name : PlaylistName} {key : ItemKey}
    {op : ItemOp}
    : ((name, key), op) ∈ stateItemOps state
      ↔ (op = .add ∧ state.AddedItem name key)
        ∨ (op = .remove ∧ state.KeptPlaylist name ∧ state.RemovedItem name key) := by
  unfold stateItemOps Observation.AddedItem Observation.RemovedItem Observation.KeptPlaylist
  simp only [List.mem_flatMap, Prod.exists, mem_changedPlaylists, recordedItemOps,
    List.mem_append, List.mem_map, Prod.mk.injEq]
  constructor
  · rintro ⟨changed, itemsDiff, ⟨had, has, rfl, -⟩, found⟩
    rcases found with ⟨item, added, ⟨rfl, rfl⟩, rfl⟩ | ⟨item, removed, ⟨rfl, rfl⟩, rfl⟩
    · exact .inl ⟨rfl, ⟨had, has⟩, mem_diffSets_added.mp added⟩
    · exact .inr ⟨rfl, ⟨had, has⟩, mem_diffSets_removed.mp removed⟩
  · rintro (⟨rfl, ⟨had, has⟩, added⟩ | ⟨rfl, ⟨had, has⟩, removed⟩)
    · have found := mem_diffSets_added.mpr added
      exact ⟨name, _, ⟨had, has, rfl, .inl (List.ne_nil_of_mem found)⟩,
        .inl ⟨key, found, ⟨rfl, rfl⟩, rfl⟩⟩
    · have found := mem_diffSets_removed.mpr removed
      exact ⟨name, _, ⟨had, has, rfl, .inr (.inl (List.ne_nil_of_mem found))⟩,
        .inr ⟨key, found, ⟨rfl, rfl⟩, rfl⟩⟩

-- What the plan of a run is

/-- Without a conflict the tally holds the operations of all participants. -/
structure Tallied (states : List PlaylistsState) (tally : PlaylistsTally) : Prop where
  playlistOps
    : ∀ name op,
        tally.playlistOps.get? name = some op
        ↔ ∃ state ∈ states, (name, op) ∈ recordedPlaylistOps state
  itemOps
    : ∀ item op,
        tally.itemOps.get? item = some op ↔ ∃ state ∈ states, (item, op) ∈ stateItemOps state
  desired
    : ∀ name,
        tally.desiredPlaylists.get? name
        = lastValue (states.map Observation.baseline) name

theorem Tallied.of_ok {states : List PlaylistsState} {tally : PlaylistsTally}
    (counted : states.foldlM PlaylistsTally.add .empty = .ok tally)
    : Tallied states tally := by
  have records := foldlM_add_records states .empty
  rw [counted] at records
  obtain ⟨playlists, items, -⟩ := records
  refine ⟨fun name op => ?_, fun item op => ?_, fun name => ?_⟩
  · rw [recordAll_get? playlists]
    simp [PlaylistsTally.empty]
  · rw [recordAll_get? items]
    simp [PlaylistsTally.empty]
  · rw [foldlM_add_desired counted, get?_overlay]
    simp [PlaylistsTally.empty]

theorem tally_error_iff {states : List PlaylistsState}
    : (∃ error, states.foldlM PlaylistsTally.add .empty = .error error)
      ↔ PlaylistsConflict states := by
  have records := foldlM_add_records states .empty
  unfold PlaylistsConflict
  cases counted : states.foldlM PlaylistsTally.add .empty with
  | error error =>
      rw [counted] at records
      simp only [Except.error.injEq, exists_eq', true_iff, not_and_or]
      have disagree {κ ω : Type} [DecidableEq κ] [DecidableEq ω] {entries : List (κ × ω)}
          (failed : ∃ conflict, recordAll ∅ entries = .error conflict)
          : ¬ Agree entries := by
        intro agree
        obtain ⟨conflict, failed⟩ := failed
        obtain ⟨result, recorded⟩ := recordAll_ok_iff.mpr agree
        rw [failed] at recorded
        cases recorded
      exact records.imp disagree (Or.imp disagree disagree)
  | ok tally =>
      rw [counted] at records
      simp only [reduceCtorEq, exists_false, false_iff, not_not]
      obtain ⟨playlists, items, orders⟩ := records
      exact ⟨.of_recorded playlists, .of_recorded items, .of_recorded orders⟩

theorem runPlaylistsDeltaSync_error_iff {states : List PlaylistsState}
    : (∃ error, runPlaylistsDeltaSync states = .error error) ↔ PlaylistsConflict states := by
  rw [← tally_error_iff]
  unfold runPlaylistsDeltaSync
  cases states with
  | nil => simp [pure, Except.pure]
  | cons state rest =>
      simp only [List.isEmpty_cons, Bool.false_eq_true, if_false]
      cases (state :: rest).foldlM PlaylistsTally.add .empty <;> simp

theorem exists_plan {states : List PlaylistsState} {state : PlaylistsState}
    (member : state ∈ states) (quiet : ¬ PlaylistsConflict states)
    : ∃ plan, runPlaylistsDeltaSync states = .ok (some plan) := by
  rw [← tally_error_iff] at quiet
  have started : states.isEmpty = false := by
    simpa using List.ne_nil_of_mem member
  unfold runPlaylistsDeltaSync
  rw [started]
  cases counted : states.foldlM PlaylistsTally.add .empty with
  | error error => exact absurd ⟨error, counted⟩ quiet
  | ok tally => exact ⟨_, rfl⟩

theorem exists_tallied {states : List PlaylistsState} {plan : PlaylistsPlan}
    (planned : runPlaylistsDeltaSync states = .ok (some plan))
    : ∃ tally,
        Tallied states tally
        ∧ plan.desiredPlaylists = tally.orderedPlaylists
        ∧ plan.deletedPlaylistNames = tally.deletedPlaylistNames := by
  unfold runPlaylistsDeltaSync at planned
  split at planned
  · cases planned
  split at planned
  · cases planned
  · next tally counted =>
      cases planned
      exact ⟨tally, .of_ok counted, rfl, rfl⟩

namespace Tallied

variable {states : List PlaylistsState} {tally : PlaylistsTally}

theorem mem_items (tallied : Tallied states tally) (name : PlaylistName) (key : ItemKey)
    : key ∈ itemsOf tally.orderedPlaylists name
      ↔ (∃ state ∈ states, state.AddedItem name key)
        ∨ (¬ (∃ state ∈ states, state.KeptPlaylist name ∧ state.RemovedItem name key)
          ∧ key ∈ itemsOf tally.wholePlaylists name) := by
  have op (op : ItemOp) := tallied.itemOps (name, key) op
  simp only [mem_stateItemOps] at op
  have added := op .add
  have removed := op .remove
  simp only [true_and, reduceCtorEq, false_and, or_false, false_or] at added removed
  unfold PlaylistsTally.orderedPlaylists PlaylistsTally.editedPlaylists
  rw [(foldl_applyOrder).2, mem_itemsOf_foldl_applyItemOp tally.itemOps.nodup, ← added,
    ← removed]
  change tally.itemOps.get? (name, key) = some .add
    ∨ (tally.itemOps.get? (name, key) = none ∧ _) ↔ _
  cases found : tally.itemOps.get? (name, key) with
  | none => simp
  | some op => cases op <;> simp

theorem mem_names (tallied : Tallied states tally) (name : PlaylistName)
    : name ∈ tally.orderedPlaylists.keys
      ↔ (∃ state ∈ states, state.EditedPlaylist name)
        ∨ (tally.wholePlaylists.get? name).isSome = true := by
  unfold PlaylistsTally.orderedPlaylists PlaylistsTally.editedPlaylists
  rw [Dict.mem_keys_iff_isSome, (foldl_applyOrder).1, isSome_foldl_applyItemOp]
  refine or_congr_left ?_
  constructor
  · rintro ⟨⟨⟨edited, key⟩, op⟩, member, rfl⟩
    obtain ⟨state, stateMember, recorded⟩ :=
      (tallied.itemOps (edited, key) op).mp (Dict.mem_items_iff.mp member)
    refine ⟨state, stateMember, ?_⟩
    rcases mem_stateItemOps.mp recorded with ⟨-, added⟩ | ⟨-, kept, removed⟩
    · exact ⟨added.1, key, .inl added⟩
    · exact ⟨kept, key, .inr removed⟩
  · rintro ⟨state, member, kept, key, added | removed⟩
    · have recorded := (tallied.itemOps (name, key) .add).mpr
        ⟨state, member, mem_stateItemOps.mpr (.inl ⟨rfl, added⟩)⟩
      exact ⟨((name, key), .add), Dict.mem_items_iff.mpr recorded, rfl⟩
    · have recorded := (tallied.itemOps (name, key) .remove).mpr
        ⟨state, member, mem_stateItemOps.mpr (.inr ⟨rfl, kept, removed⟩)⟩
      exact ⟨((name, key), .remove), Dict.mem_items_iff.mpr recorded, rfl⟩

theorem whole_of_created (tallied : Tallied states tally) {state : PlaylistsState}
    (member : state ∈ states) {name : PlaylistName} {playlist : Playlist}
    (created : state.CreatedPlaylist name playlist)
    : tally.wholePlaylists.get? name = some playlist := by
  have recorded := (tallied.playlistOps name (.set playlist)).mpr
    ⟨state, member, mem_recordedPlaylistOps.mpr (.inl ⟨playlist, rfl, created⟩)⟩
  unfold PlaylistsTally.wholePlaylists
  rw [Change.get?_applyAll, recorded]
  rfl

theorem whole_of_deleted (tallied : Tallied states tally) {state : PlaylistsState}
    (member : state ∈ states) {name : PlaylistName} (deleted : state.DeletedPlaylist name)
    : tally.wholePlaylists.get? name = none := by
  have recorded := (tallied.playlistOps name .remove).mpr
    ⟨state, member, mem_recordedPlaylistOps.mpr (.inr ⟨rfl, deleted⟩)⟩
  unfold PlaylistsTally.wholePlaylists
  rw [Change.get?_applyAll, recorded]
  rfl

theorem whole_of_untouched (tallied : Tallied states tally) {name : PlaylistName}
    (uncreated : ∀ state ∈ states, ∀ playlist, ¬ state.CreatedPlaylist name playlist)
    (undeleted : ∀ state ∈ states, ¬ state.DeletedPlaylist name)
    : tally.wholePlaylists.get? name = lastValue (states.map Observation.baseline) name := by
  have unrecorded : tally.playlistOps.get? name = none := by
    rw [Option.eq_none_iff_forall_ne_some]
    intro op recorded
    obtain ⟨state, member, found⟩ := (tallied.playlistOps name op).mp recorded
    rcases mem_recordedPlaylistOps.mp found with ⟨playlist, -, created⟩ | ⟨-, deleted⟩
    · exact uncreated state member playlist created
    · exact undeleted state member deleted
  unfold PlaylistsTally.wholePlaylists
  rw [Change.get?_applyAll, unrecorded, tallied.desired]
  rfl

theorem deleted_of_mem (tallied : Tallied states tally) {name : PlaylistName}
    (member : name ∈ tally.deletedPlaylistNames)
    : ∃ state ∈ states, state.DeletedPlaylist name := by
  unfold PlaylistsTally.deletedPlaylistNames at member
  rw [List.mem_filterMap] at member
  obtain ⟨⟨other, op⟩, entry, chosen⟩ := member
  split at chosen
  · next removal =>
      cases chosen
      obtain ⟨rfl, -⟩ := removal
      obtain ⟨state, stateMember, found⟩ :=
        (tallied.playlistOps other .remove).mp (Dict.mem_items_iff.mp entry)
      rcases mem_recordedPlaylistOps.mp found with ⟨playlist, impossible, -⟩ | ⟨-, deleted⟩
      · cases impossible
      · exact ⟨state, stateMember, deleted⟩
  · cases chosen

end Tallied

-- Only made removals are propagated

/-- The plan leaves out an item of some participant's playlist only when a participant removed
it since its own baseline, and it deletes only playlists that a participant deleted.
-/
def OnlyMadeRemovals (states : List PlaylistsState) : Prop :=
  ∀ plan,
    runPlaylistsDeltaSync states = .ok (some plan)
    → (∀ name key,
        (∃ state ∈ states, state.HasItem name key)
        → key ∉ itemsOf plan.desiredPlaylists name
        → ∃ state ∈ states, state.RemovedItem name key)
      ∧ ∀ name ∈ plan.deletedPlaylistNames, ∃ state ∈ states, state.DeletedPlaylist name

theorem OnlyMadeRemovals.unchanged {states : List PlaylistsState}
    (only : OnlyMadeRemovals states)
    (same : ∀ state ∈ states, state.snapshot = state.baseline) {plan : PlaylistsPlan}
    (planned : runPlaylistsDeltaSync states = .ok (some plan))
    : (∀ name key,
        (∃ state ∈ states, state.HasItem name key)
        → key ∈ itemsOf plan.desiredPlaylists name)
      ∧ plan.deletedPlaylistNames = [] := by
  obtain ⟨items, playlists⟩ := only plan planned
  constructor
  · intro name key held
    by_contra missing
    obtain ⟨state, member, had, absent⟩ := items name key held missing
    rw [same state member] at absent
    exact absent had
  · rw [List.eq_nil_iff_forall_not_mem]
    intro name deleted
    obtain ⟨state, member, had, gone⟩ := playlists name deleted
    rw [same state member] at gone
    simp [gone] at had

/-- The playlist that the item operations start from has the item: nobody deleted the
playlist, and the created one has the item, or without a created one the one of the last
baseline that has the playlist.
-/
def GroundItem (states : List PlaylistsState) (name : PlaylistName) (key : ItemKey) : Prop :=
  (∀ state ∈ states, ¬ state.DeletedPlaylist name)
  ∧ (∀ state ∈ states, ∀ playlist,
      state.CreatedPlaylist name playlist → key ∈ playlist.items)
  ∧ ((∀ state ∈ states, ∀ playlist, ¬ state.CreatedPlaylist name playlist)
      → ∀ playlist,
          lastValue (states.map Observation.baseline) name = some playlist
          → key ∈ playlist.items)

/-- The ground items are those of the whole playlists, when somebody has the playlist in
its baseline.
-/
theorem groundItem_iff {states : List PlaylistsState} {tally : PlaylistsTally}
    (tallied : Tallied states tally) {name : PlaylistName} {key : ItemKey}
    (based : ∃ state ∈ states, (state.baseline.get? name).isSome = true)
    : GroundItem states name key ↔ key ∈ itemsOf tally.wholePlaylists name := by
  rw [mem_itemsOf_iff]
  by_cases deletes : ∃ state ∈ states, state.DeletedPlaylist name
  · obtain ⟨deleter, member, deleted⟩ := deletes
    constructor
    · intro ground
      exact absurd deleted (ground.1 deleter member)
    · rintro ⟨playlist, found, -⟩
      rw [tallied.whole_of_deleted member deleted] at found
      cases found
  have undeleted : ∀ state ∈ states, ¬ state.DeletedPlaylist name :=
    fun state member deleted => deletes ⟨state, member, deleted⟩
  by_cases creates : ∃ state ∈ states, ∃ playlist, state.CreatedPlaylist name playlist
  · obtain ⟨creator, member, playlist, created⟩ := creates
    have whole := tallied.whole_of_created member created
    constructor
    · intro ground
      exact ⟨playlist, whole, ground.2.1 creator member playlist created⟩
    · rintro ⟨found, isWhole, present⟩
      cases whole.symm.trans isWhole
      refine ⟨undeleted, fun other otherMember otherPlaylist otherCreated => ?_, ?_⟩
      · cases whole.symm.trans (tallied.whole_of_created otherMember otherCreated)
        exact present
      · intro uncreated
        exact absurd created (uncreated creator member playlist)
  have uncreated : ∀ state ∈ states, ∀ playlist, ¬ state.CreatedPlaylist name playlist :=
    fun state member playlist created => creates ⟨state, member, playlist, created⟩
  have whole := tallied.whole_of_untouched uncreated undeleted
  rw [whole]
  constructor
  · intro ground
    cases last : lastValue (states.map Observation.baseline) name with
    | none =>
        obtain ⟨state, member, had⟩ := based
        have missing := lastValue_eq_none_iff.mp last state.baseline
          (List.mem_map_of_mem member)
        simp [missing] at had
    | some playlist => exact ⟨playlist, rfl, ground.2.2 uncreated playlist last⟩
  · rintro ⟨playlist, last, present⟩
    refine ⟨undeleted, fun state member other created => ?_, fun _ other otherLast => ?_⟩
    · exact absurd created (uncreated state member other)
    · cases last.symm.trans otherLast
      exact present

theorem mem_desired_of_kept {states : List PlaylistsState} {tally : PlaylistsTally}
    (tallied : Tallied states tally) {name : PlaylistName} {key : ItemKey}
    (kept : ∃ state ∈ states, state.KeptItem name key)
    (unremoved : ¬ ∃ state ∈ states, state.RemovedItem name key)
    : key ∈ itemsOf tally.orderedPlaylists name
      ↔ (∃ state ∈ states, state.AddedItem name key) ∨ GroundItem states name key := by
  have based : ∃ state ∈ states, (state.baseline.get? name).isSome = true := by
    obtain ⟨state, member, had, -⟩ := kept
    exact ⟨state, member, isSome_of_mem_itemsOf had⟩
  have unedited
      : ¬ ∃ state ∈ states, state.KeptPlaylist name ∧ state.RemovedItem name key := by
    rintro ⟨state, member, -, removed⟩
    exact unremoved ⟨state, member, removed⟩
  rw [tallied.mem_items, groundItem_iff tallied based]
  simp only [unedited, not_false_eq_true, true_and]

/-- Only made removals are propagated exactly when the run aborts, or when every item that
a participant kept while nobody added or removed it is a ground item of its playlist.
-/
theorem onlyMadeRemovals_iff (states : List PlaylistsState)
    : OnlyMadeRemovals states
      ↔ PlaylistsConflict states
        ∨ ∀ name key,
            (∃ state ∈ states, state.KeptItem name key)
            → ¬ (∃ state ∈ states, state.AddedItem name key)
            → ¬ (∃ state ∈ states, state.RemovedItem name key)
            → GroundItem states name key := by
  constructor
  · intro only
    by_contra neither
    rw [not_or] at neither
    obtain ⟨quiet, ungrounded⟩ := neither
    apply ungrounded
    intro name key kept unadded unremoved
    obtain ⟨state, member, had, has⟩ := id kept
    obtain ⟨plan, planned⟩ := exists_plan member quiet
    obtain ⟨tally, tallied, desired, -⟩ := exists_tallied planned
    have present : key ∈ itemsOf plan.desiredPlaylists name := by
      by_contra missing
      exact unremoved ((only plan planned).1 name key ⟨state, member, has⟩ missing)
    rw [desired, mem_desired_of_kept tallied kept unremoved] at present
    exact present.resolve_left unadded
  · intro holds plan planned
    have quiet : ¬ PlaylistsConflict states := by
      rw [← runPlaylistsDeltaSync_error_iff, planned]
      simp
    have grounded := holds.resolve_left quiet
    obtain ⟨tally, tallied, desired, deletedNames⟩ := exists_tallied planned
    rw [desired, deletedNames]
    refine ⟨fun name key held missing => ?_, fun name deleted => tallied.deleted_of_mem deleted⟩
    by_contra unremoved
    have unadded : ¬ ∃ state ∈ states, state.AddedItem name key :=
      fun added => missing ((tallied.mem_items name key).mpr (.inl added))
    obtain ⟨state, member, has⟩ := held
    have playlistNow : (state.snapshot.get? name).isSome = true := isSome_of_mem_itemsOf has
    by_cases had : (state.baseline.get? name).isSome = true
    · by_cases before : key ∈ itemsOf state.baseline name
      · have kept : ∃ state ∈ states, state.KeptItem name key := ⟨state, member, before, has⟩
        exact missing ((mem_desired_of_kept tallied kept unremoved).mpr
          (.inr (grounded name key kept unadded unremoved)))
      · exact unadded ⟨state, member, ⟨had, playlistNow⟩, has, before⟩
    · obtain ⟨playlist, found, present⟩ := mem_itemsOf_iff.mp has
      have created : state.CreatedPlaylist name playlist := ⟨by simpa using had, found⟩
      have whole := tallied.whole_of_created member created
      refine missing ((tallied.mem_items name key).mpr (.inr ⟨?_, ?_⟩))
      · rintro ⟨other, otherMember, -, removed⟩
        exact unremoved ⟨other, otherMember, removed⟩
      · exact mem_itemsOf_iff.mpr ⟨playlist, whole, present⟩

def playlistOf (items : List ItemKey) : PlaylistsSnapshot :=
  (∅ : PlaylistsSnapshot).set "evening" ⟨"Evening", items⟩

/-- Two participants whose baselines differ and who changed nothing. -/
def differingPlaylists : List PlaylistsState :=
  [⟨playlistOf ["imdb:a", "imdb:b"], some (playlistOf ["imdb:a", "imdb:b"])⟩,
    ⟨playlistOf ["imdb:a"], some (playlistOf ["imdb:a"])⟩]

theorem removalWithoutRemover_differingPlaylists : ¬ OnlyMadeRemovals differingPlaylists := by
  intro only
  obtain ⟨plan, planned⟩
      : ∃ plan, runPlaylistsDeltaSync differingPlaylists = .ok (some plan) := ⟨_, rfl⟩
  have kept := (only.unchanged (by decide) planned).1 "evening" "imdb:b"
    ⟨_, List.mem_cons_self, by unfold Observation.HasItem; decide⟩
  cases planned
  exact absurd kept (by decide)

-- A deletion against an edit

/-- When one participant deleted a playlist that another one edited, the run aborts, leaves
the playlist deleted, or keeps it with all items the editor has in it.
-/
def DeletionAgainstEdit (states : List PlaylistsState) : Prop :=
  ∀ name,
    ∀ deleter ∈ states,
      ∀ editor ∈ states,
        deleter.DeletedPlaylist name
        → editor.EditedPlaylist name
        → (∃ error, runPlaylistsDeltaSync states = .error error)
          ∨ ∃ plan,
              runPlaylistsDeltaSync states = .ok (some plan)
              ∧ ((name ∉ plan.desiredPlaylists.keys ∧ name ∈ plan.deletedPlaylistNames)
                ∨ (name ∈ plan.desiredPlaylists.keys
                  ∧ ∀ key,
                      editor.HasItem name key → key ∈ itemsOf plan.desiredPlaylists name))

theorem Tallied.mem_items_of_deleted {states : List PlaylistsState} {tally : PlaylistsTally}
    (tallied : Tallied states tally) {name : PlaylistName} {deleter : PlaylistsState}
    (member : deleter ∈ states) (deleted : deleter.DeletedPlaylist name) (key : ItemKey)
    : key ∈ itemsOf tally.orderedPlaylists name
      ↔ ∃ state ∈ states, state.AddedItem name key := by
  have emptied : key ∉ itemsOf tally.wholePlaylists name := by
    rw [mem_itemsOf_iff, tallied.whole_of_deleted member deleted]
    simp
  rw [tallied.mem_items]
  simp only [emptied, and_false, or_false]

/-- Deletions and edits are combined so exactly when the run aborts, or when no editor of a
deleted playlist kept an item that nobody added.
-/
theorem deletionAgainstEdit_iff (states : List PlaylistsState)
    : DeletionAgainstEdit states
      ↔ PlaylistsConflict states
        ∨ ∀ name,
            ∀ deleter ∈ states,
              ∀ editor ∈ states,
                deleter.DeletedPlaylist name
                → editor.EditedPlaylist name
                → ∀ key,
                    editor.KeptItem name key
                    → ∃ adder ∈ states, adder.AddedItem name key := by
  constructor
  · intro combined
    by_contra neither
    rw [not_or] at neither
    obtain ⟨quiet, unadded⟩ := neither
    apply unadded
    intro name deleter deleterMember editor editorMember deleted edited key kept
    rcases combined name deleter deleterMember editor editorMember deleted edited with
      failed | ⟨plan, planned, outcome⟩
    · exact absurd (runPlaylistsDeltaSync_error_iff.mp failed) quiet
    obtain ⟨tally, tallied, desired, -⟩ := exists_tallied planned
    rw [desired] at outcome
    rcases outcome with ⟨absent, -⟩ | ⟨-, complete⟩
    · -- the edit brought the playlist back, so it is not left deleted
      exact absurd ((tallied.mem_names name).mpr (.inl ⟨editor, editorMember, edited⟩)) absent
    · exact (tallied.mem_items_of_deleted deleterMember deleted key).mp (complete key kept.2)
  · intro holds name deleter deleterMember editor editorMember deleted edited
    by_cases conflict : PlaylistsConflict states
    · exact .inl (runPlaylistsDeltaSync_error_iff.mpr conflict)
    have added := holds.resolve_left conflict
    obtain ⟨plan, planned⟩ := exists_plan deleterMember conflict
    obtain ⟨tally, tallied, desired, -⟩ := exists_tallied planned
    refine .inr ⟨plan, planned, .inr ?_⟩
    rw [desired]
    refine ⟨(tallied.mem_names name).mpr (.inl ⟨editor, editorMember, edited⟩), ?_⟩
    intro key has
    rw [tallied.mem_items_of_deleted deleterMember deleted]
    by_cases before : key ∈ itemsOf editor.baseline name
    · exact added name deleter deleterMember editor editorMember deleted edited key
        ⟨before, has⟩
    · exact ⟨editor, editorMember, edited.1, has, before⟩

/-- One participant deleted a playlist to which the other one added an item. -/
def deletedAndEdited : List PlaylistsState :=
  [⟨∅, some (playlistOf ["imdb:a"])⟩,
    ⟨playlistOf ["imdb:a", "imdb:b"], some (playlistOf ["imdb:a"])⟩]

theorem recreatedWithEdits_deletedAndEdited : ¬ DeletionAgainstEdit deletedAndEdited := by
  intro combined
  have outcome := combined "evening" _ List.mem_cons_self _
    (List.mem_cons_of_mem _ List.mem_cons_self) ⟨by decide, by decide⟩
    ⟨⟨by decide, by decide⟩, "imdb:b", .inl ⟨⟨by decide, by decide⟩, by decide, by decide⟩⟩
  rcases outcome with ⟨error, failed⟩ | ⟨plan, planned, ⟨absent, -⟩ | ⟨-, complete⟩⟩
  · cases failed
  · cases planned
    exact absurd absent (by decide)
  · have kept := complete "imdb:a" (by unfold Observation.HasItem; decide)
    cases planned
    exact absurd kept (by decide)

end OctoHubs.UserSync
