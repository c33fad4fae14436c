import OctoHubs.Latest.MovieCheckpoints

/-! What the state shows of a title, through checkpoints of its server and the final merge. -/

namespace OctoHubs.Latest

open OctoHubs.Library

namespace ServerState

section Views

variable (rules : TextRules) (server : ServerState) (kind : MediaKind) (title : CachedItem)

/-- What the records of the title show. -/
def Shows (evidence : Evidence) : Prop :=
  match kind with
  | .movie => MovieRecord.movieShows rules server.movies title evidence
  | .series =>
      ∃ record ∈ server.series.get? title.seriesKey, record.notification.Shows evidence

/-- The record that checkpoints of the title write has a complete publication. -/
def Completed (publicationKey : String) (destinations : List String) : Prop :=
  match kind with
  | .movie =>
      ∃ record ∈ server.movies.get? title.movieKey,
        record.notification.Complete publicationKey destinations
  | .series =>
      ∃ record ∈ server.series.get? title.seriesKey,
        record.notification.Complete publicationKey destinations

end Views

variable {rules : TextRules} {server : ServerState} {kind : MediaKind} {title : CachedItem}
  {publicationKey notifiedAt : String} {destinations : List String} {evidence : Evidence}
  {update : DeliveryUpdate}

theorem Completed.shows
    (completed : server.Completed kind title publicationKey destinations)
    (rules : TextRules) (identified : title.itemId ≠ "")
    : (∀ key ∈ destinations, server.Shows rules kind title (.destination publicationKey key))
      ∧ server.Shows rules kind title (.publication publicationKey)
      ∧ server.Shows rules kind title .title := by
  cases kind with
  | movie =>
      obtain ⟨record, found, complete⟩ := completed
      have shown {evidence : Evidence} (here : record.notification.Shows evidence)
          : MovieRecord.movieShows rules server.movies title evidence :=
        MovieRecord.movieShows_of_key identified (Option.mem_def.mp found) here
      exact ⟨fun key member => shown (complete.reached key member), shown complete.publication,
        shown complete.title⟩
  | series =>
      obtain ⟨record, found, complete⟩ := completed
      exact ⟨fun key member => ⟨record, found, complete.reached key member⟩,
        ⟨record, found, complete.publication⟩, ⟨record, found, complete.title⟩⟩

theorem not_completed_empty
    : ¬ ServerState.empty.Completed kind title publicationKey destinations := by
  cases kind with
  | movie | series =>
      intro completed
      obtain ⟨record, nothing, -⟩ := completed
      cases nothing

section Series

variable {item : CachedItem} {checkpointKey : String} {delivered : Delivered}
  {required : List String}

theorem get?_persistSeries_self (rules : TextRules) (server : ServerState)
    (checkpointKey : String) (delivered : Delivered) (required : List String)
    (notifiedAt : String) (identified : item.itemId ≠ "")
    : ∃ record found : SeriesRecord,
        (server.persistSeries rules item checkpointKey delivered required
            notifiedAt).series.get? item.seriesKey
          = some record
        ∧ record.notification
          = found.notification.applyDestinationState checkpointKey delivered required notifiedAt
        ∧ ∀ known ∈ server.series.get? item.seriesKey, known = found := by
  have named : item.seriesKey ≠ "" := by
    unfold CachedItem.seriesKey
    rw [if_pos identified]
    exact identified
  unfold persistSeries
  dsimp only
  rw [if_neg named]
  refine ⟨_, _, Dict.get?_set_self .., rfl, fun known found => ?_⟩
  rw [Option.mem_def.mp found]
  rfl

theorem get?_persistSeries_of_ne {seriesKey : String} (differs : seriesKey ≠ item.seriesKey)
    : (server.persistSeries rules item checkpointKey delivered required
          notifiedAt).series.get? seriesKey
      = server.series.get? seriesKey := by
  unfold persistSeries
  dsimp only
  split
  · rfl
  · exact Dict.get?_set_ne _ _ differs

theorem movies_persistSeries
    : (server.persistSeries rules item checkpointKey delivered required notifiedAt).movies
      = server.movies := by
  unfold persistSeries
  dsimp only
  split
  · rfl
  · rfl

theorem series_persistMovie
    : (server.persistMovie rules item checkpointKey delivered required notifiedAt).series
      = server.series := by
  unfold persistMovie
  dsimp only
  split
  · rfl
  · rfl

end Series

/-- An item whose checkpoints leave the names of the title alone, or have its key. -/
structure Fits (rules : TextRules) (mine : IdentityToken → Prop) (title item : CachedItem)
    : Prop where
  identified : item.itemId ≠ ""
  uniform : item.mediaKind rules = some .movie → Uniform mine item.names
  sameKey
    : item.mediaKind rules = some .movie
      → (∀ token ∈ item.names, mine token)
      → item.movieKey = title.movieKey

section Updates

variable {mine : IdentityToken → Prop}

theorem separated_persistUpdate (separated : Separated mine server.movies)
    (fits : Fits rules mine title update.item)
    : Separated mine (server.persistUpdate rules update notifiedAt).movies := by
  unfold persistUpdate
  dsimp only
  cases kind_ : update.item.mediaKind rules with
  | none => exact separated
  | some itemKind =>
      cases itemKind with
      | movie => exact separated.persistMovie (fits.uniform kind_) fits.identified
      | series =>
          dsimp only
          rw [movies_persistSeries]
          exact separated

theorem Shows.persistUpdate (shown : server.Shows rules kind title evidence)
    (separated : Separated mine server.movies) (fits : Fits rules mine title update.item)
    (identified : title.itemId ≠ "")
    (owned : kind = .movie → ∀ token ∈ title.names, mine token)
    (other : evidence ≠ .publication update.checkpointKey)
    : (server.persistUpdate rules update notifiedAt).Shows rules kind title evidence := by
  unfold ServerState.persistUpdate
  dsimp only
  cases kind_ : update.item.mediaKind rules with
  | none => exact shown
  | some itemKind =>
      cases kind with
      | movie =>
          cases itemKind with
          | movie =>
              exact separated.movieShows (fits.uniform kind_) fits.identified (owned rfl) identified
                (fits.sameKey kind_) shown other
          | series =>
              unfold Shows
              dsimp only
              rw [movies_persistSeries]
              exact shown
      | series =>
          obtain ⟨record, found, here⟩ := shown
          cases itemKind with
          | movie =>
              unfold Shows
              dsimp only
              rw [series_persistMovie]
              exact ⟨record, found, here⟩
          | series =>
              by_cases same : title.seriesKey = update.item.seriesKey
              · obtain ⟨after, before, written, state, known⟩ :=
                  get?_persistSeries_self rules server update.checkpointKey update.delivered
                    update.required notifiedAt fits.identified
                rw [← same] at written known
                refine ⟨after, written, ?_⟩
                rw [state, ← known record found]
                exact here.applyDestinationState other
              · exact ⟨record, (get?_persistSeries_of_ne same).trans found, here⟩

theorem Completed.persistUpdate
    (completed : server.Completed kind title publicationKey destinations)
    (separated : Separated mine server.movies) (fits : Fits rules mine title update.item)
    (identified : title.itemId ≠ "")
    (owned : kind = .movie → ∀ token ∈ title.names, mine token) (some_ : update.required ≠ [])
    (subset : update.checkpointKey = publicationKey → update.required ⊆ destinations)
    : (server.persistUpdate rules update notifiedAt).Completed kind title publicationKey
        destinations := by
  unfold ServerState.persistUpdate
  dsimp only
  cases kind_ : update.item.mediaKind rules with
  | none => exact completed
  | some itemKind =>
      cases kind with
      | movie =>
          cases itemKind with
          | movie =>
              exact separated.complete (fits.uniform kind_) fits.identified (owned rfl) identified
                (fits.sameKey kind_) some_ subset completed
          | series =>
              unfold Completed
              dsimp only
              rw [movies_persistSeries]
              exact completed
      | series =>
          obtain ⟨record, found, complete⟩ := completed
          cases itemKind with
          | movie =>
              unfold Completed
              dsimp only
              rw [series_persistMovie]
              exact ⟨record, found, complete⟩
          | series =>
              by_cases same : title.seriesKey = update.item.seriesKey
              · obtain ⟨after, before, written, state, known⟩ :=
                  get?_persistSeries_self rules server update.checkpointKey update.delivered
                    update.required notifiedAt fits.identified
                rw [← same] at written known
                refine ⟨after, written, ?_⟩
                rw [state, ← known record found]
                exact complete.applyDestinationState some_ subset
              · exact ⟨record, (get?_persistSeries_of_ne same).trans found, complete⟩

theorem completed_persistUpdate (notifiedAt : String)
    (kind_ : update.item.mediaKind rules = some kind)
    (sameItem : update.item.itemId = title.itemId)
    (sameSignature : update.item.signature = title.signature) (identified : title.itemId ≠ "")
    (reached
      : ∀ key ∈ destinations,
          server.Shows rules kind title (.destination update.checkpointKey key)
          ∨ key ∈ update.delivered.keys)
    (some_ : update.required ≠ []) (subset : update.required ⊆ destinations)
    : (server.persistUpdate rules update notifiedAt).Completed kind title update.checkpointKey
        destinations := by
  have known : update.item.itemId ≠ "" := by rwa [sameItem]
  unfold ServerState.persistUpdate
  dsimp only
  rw [kind_]
  cases kind with
  | movie =>
      have sameKey : update.item.movieKey = title.movieKey := by
        unfold CachedItem.movieKey
        rw [sameItem, sameSignature]
      refine
        ⟨checkpointRecord rules server update.item update.checkpointKey update.delivered
            update.required notifiedAt,
          ?_, ?_⟩
      · rw [← sameKey]
        exact get?_persistMovie_self known
      · refine NotificationState.complete_applyDestinationState (fun key member => ?_) some_ subset
        refine (reached key member).imp_left (fun shown => shows_movieEntryWithHistory ?_)
        unfold MovieRecord.movieShows
        rw [sameKey, sameItem, sameSignature]
        exact shown
  | series =>
      have sameKey : title.seriesKey = update.item.seriesKey := by
        unfold CachedItem.seriesKey
        rw [if_pos identified, if_pos known, sameItem]
      obtain ⟨after, before, written, state, here⟩ :=
        get?_persistSeries_self rules server update.checkpointKey update.delivered update.required
          notifiedAt known
      rw [← sameKey] at written here
      refine ⟨after, written, ?_⟩
      rw [state]
      refine NotificationState.complete_applyDestinationState (fun key member => ?_) some_ subset
      refine (reached key member).imp_left (fun shown => ?_)
      obtain ⟨record, found, kept⟩ := shown
      rw [← here record found]
      exact kept

end Updates

section Records

variable {ν : Type} {notification : ν → NotificationState} {write : ν → NotificationState → ν}
  {target source : Dict String ν} {key : String} {record : ν}

theorem get?_mergeRecords_of_target (found : target.get? key = some record)
    : ∃ merged,
        (mergeRecords notification write target source).get? key = some merged
        ∧ (merged = record
          ∨ ∃ state,
              merged = write record state
              ∧ ∀ evidence, (notification record).Shows evidence → state.Shows evidence) := by
  unfold mergeRecords
  rw [Dict.get?_joinWith, found]
  cases (source.filter (fun key record =>
    (target.get? key).isSome || (notification record).hasNotificationMetadata)).get? key with
  | none => exact ⟨record, rfl, .inl rfl⟩
  | some other =>
      exact ⟨_, rfl, .inr ⟨_, rfl, fun evidence shown =>
        NotificationState.shows_merge_iff.mpr (.inl shown)⟩⟩

theorem complete_mergeRecords (read : ∀ record state, notification (write record state) = state)
    (completed
      : ∃ record ∈ source.get? key,
          (notification record).Complete publicationKey destinations)
    : ∃ record ∈ (mergeRecords notification write target source).get? key,
        (notification record).Complete publicationKey destinations := by
  obtain ⟨record, found, complete⟩ := completed
  have kept
      : (some record).filter (fun record =>
          (target.get? key).isSome || (notification record).hasNotificationMetadata)
        = some record :=
    Option.filter_some_pos (by rw [complete.title.hasNotificationMetadata, Bool.or_true])
  unfold mergeRecords
  rw [Dict.get?_joinWith, Dict.get?_filter, Option.mem_def.mp found, kept]
  cases target.get? key with
  | none => exact ⟨record, rfl, complete⟩
  | some stored =>
      refine ⟨_, rfl, ?_⟩
      dsimp only [Option.elim_some]
      rw [read]
      exact complete.of_shows (fun evidence shown =>
        NotificationState.shows_merge_iff.mpr (.inr shown))

end Records

section Merge

variable {target source : ServerState}

theorem movie_mergeNotificationUpdates (source : ServerState) {key : String}
    {kept : MovieRecord} (found : target.movies.get? key = some kept)
    : ∃ merged,
        (target.mergeNotificationUpdates source).movies.get? key = some merged
        ∧ MovieRecord.tokens (key, merged) = MovieRecord.tokens (key, kept)
        ∧ ∀ evidence,
            kept.notification.Shows evidence → merged.notification.Shows evidence := by
  unfold mergeNotificationUpdates
  obtain ⟨merged, here, same | ⟨state, written, shows_⟩⟩ := get?_mergeRecords_of_target found
  · exact ⟨merged, here, by rw [same], fun evidence shown => same ▸ shown⟩
  · refine ⟨merged, here, ?_, fun evidence shown => ?_⟩
    · rw [written]
      rfl
    · rw [written]
      exact shows_ evidence shown

/-- Every alias has its counterpart under the same key and with the same names, by induction
on its links.
-/
theorem alias_mergeNotificationUpdates (source : ServerState) {names : List IdentityToken}
    {entry : String × MovieRecord} (alias_ : MovieRecord.Alias target.movies names entry)
    : ∃ merged,
        MovieRecord.Alias (target.mergeNotificationUpdates source).movies names (entry.1, merged)
        ∧ MovieRecord.tokens (entry.1, merged) = MovieRecord.tokens entry
        ∧ ∀ evidence,
            entry.2.notification.Shows evidence → merged.notification.Shows evidence := by
  induction alias_ with
  | seed member seeded =>
      obtain ⟨merged, found, same, shows_⟩ :=
        movie_mergeNotificationUpdates source (Dict.mem_items_iff.mp member)
      refine ⟨merged, .seed (Dict.mem_items_iff.mpr found) ?_, same, shows_⟩
      rw [same]
      exact seeded
  | step before member follows ih =>
      obtain ⟨merged, found, same, shows_⟩ :=
        movie_mergeNotificationUpdates source (Dict.mem_items_iff.mp member)
      obtain ⟨earlier, reached, sameEarlier, -⟩ := ih
      refine ⟨merged, .step reached (Dict.mem_items_iff.mpr found) ?_, same, shows_⟩
      rw [same, sameEarlier]
      exact follows

theorem Shows.mergeNotificationUpdates (shown : target.Shows rules kind title evidence)
    : (target.mergeNotificationUpdates source).Shows rules kind title evidence := by
  cases kind with
  | movie =>
      obtain ⟨entry, alias_, here⟩ := MovieRecord.movieShows_iff.mp shown
      obtain ⟨merged, reached, -, shows_⟩ := alias_mergeNotificationUpdates source alias_
      exact MovieRecord.movieShows_iff.mpr ⟨_, reached, shows_ evidence here⟩
  | series =>
      obtain ⟨record, found, here⟩ := shown
      unfold Shows ServerState.mergeNotificationUpdates
      dsimp only
      obtain ⟨merged, written, same | ⟨state, write, shows_⟩⟩ :=
        get?_mergeRecords_of_target (Option.mem_def.mp found)
      · exact ⟨merged, written, same ▸ here⟩
      · refine ⟨merged, written, ?_⟩
        rw [write]
        exact shows_ evidence here

theorem Completed.mergeNotificationUpdates (target : ServerState)
    (completed : source.Completed kind title publicationKey destinations)
    : (target.mergeNotificationUpdates source).Completed kind title publicationKey
        destinations := by
  cases kind with
  | movie | series => exact complete_mergeRecords (fun record state => rfl) completed

end Merge

end ServerState

end OctoHubs.Latest
