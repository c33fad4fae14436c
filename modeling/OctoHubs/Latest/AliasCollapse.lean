import OctoHubs.Latest.DispatchRecovery

/-! What a checkpoint of a movie leaves of its aliases.
The record under the key of the movie takes over the evidence of all aliases, and what is linked
to the names that this record has then is dropped. The old record under the key may have linked
more: its names are gone by then, and aliases behind them stay.
-/

namespace OctoHubs.Latest

open OctoHubs.Library

/-- A destination of the title, one of its publications, or a destination of a publication. -/
inductive Trace
  | destination (key : String)
  | publication (publicationKey : String)
  | reached (publicationKey key : String)

namespace NotificationState

def Records (state : NotificationState) : Trace → Prop
  | .destination key => key ∈ state.destinations.keys
  | .publication publicationKey => state.Knows publicationKey
  | .reached publicationKey key => state.Shows (.destination publicationKey key)

variable {rules : TextRules} {snapshot entry : NotificationState} {trace : Trace}

theorem not_records_empty : ¬ empty.Records trace := by
  cases trace with
  | destination key | publication publicationKey => exact List.not_mem_nil
  | reached publicationKey key =>
      have unseen : ¬ empty.Shows (.destination publicationKey key) := not_shows_empty
      exact unseen

theorem records_absorb_iff
    : (snapshot.absorb rules entry).Records trace
      ↔ snapshot.Records trace ∨ entry.Records trace := by
  cases trace with
  | destination key =>
      have united
          : (snapshot.absorb rules entry).destinations
            = snapshot.destinations.update entry.destinations :=
        getD_nonempty _
      unfold Records
      rw [united]
      exact mem_keys_update
  | publication publicationKey =>
      unfold Records Knows
      rw [publications_absorb]
      simp only [Dict.mem_keys_iff_isSome, Dict.get?_joinWith, Option.isSome_or, Option.isSome_map,
        Bool.or_eq_true]
      exact or_comm
  | reached publicationKey key =>
      have shown
          : (snapshot.absorb rules entry).Shows (.destination publicationKey key)
            ↔ snapshot.Shows (.destination publicationKey key)
              ∨ entry.Shows (.destination publicationKey key) :=
        shows_absorb_iff
      exact shown

theorem records_snapshot_iff {entries : List (Option NotificationState)}
    : (notificationSnapshot rules entries).Records trace
      ↔ ∃ entry, some entry ∈ entries ∧ entry.Records trace := by
  have each (states : List NotificationState) (snapshot : NotificationState)
      : (states.foldl (absorb rules) snapshot).Records trace
        ↔ snapshot.Records trace ∨ ∃ entry ∈ states, entry.Records trace := by
    induction states generalizing snapshot with
    | nil => simp
    | cons first rest ih =>
        rw [List.foldl_cons, ih, records_absorb_iff, or_assoc]
        simp only [List.mem_cons, exists_eq_or_imp]
  unfold notificationSnapshot
  rw [each, or_iff_right not_records_empty]
  simp only [List.mem_filterMap, id_eq, exists_eq_right]

theorem Records.update (recorded : snapshot.Records trace)
    : (entry.update snapshot).Records trace := by
  cases trace with
  | destination key =>
      unfold Records destinations NotificationState.update at *
      dsimp only
      cases written : snapshot.notifiedDestinations with
      | none =>
          rw [written] at recorded
          cases recorded
      | some destinations =>
          rw [written] at recorded
          exact recorded
  | publication publicationKey =>
      unfold Records Knows publications NotificationState.update at *
      dsimp only
      cases written : snapshot.notifiedPublications with
      | none =>
          rw [written] at recorded
          cases recorded
      | some publications =>
          rw [written] at recorded
          exact recorded
  | reached publicationKey key =>
      have shown : snapshot.Shows (.destination publicationKey key) := recorded
      exact shown.update

theorem Records.applyDestinationState {publicationKey : String} {delivered : Delivered}
    {required : List String} {notifiedAt : String} (recorded : entry.Records trace)
    : (entry.applyDestinationState publicationKey delivered required
        notifiedAt).Records trace := by
  cases trace with
  | destination key => exact mem_keys_update.mpr (.inl recorded)
  | publication other =>
      have known : other ∈ entry.publications.keys := recorded
      have written
          : (entry.applyDestinationState publicationKey delivered required
                notifiedAt).publications
            = entry.publications.set publicationKey
                (((entry.publications.get? publicationKey).getD .empty).deliver delivered
                  required notifiedAt) :=
        rfl
      show other ∈ (NotificationState.publications _).keys
      rw [written, Dict.mem_keys_iff_isSome, Dict.get?_set]
      split
      · rfl
      · exact Dict.mem_keys_iff_isSome.mp known
  | reached other key =>
      have shown : entry.Shows (.destination other key) := recorded
      exact shown.applyDestinationState (fun same => by cases same)

end NotificationState

open NotificationState

namespace MovieRecord

variable {rules : TextRules} {entries : Dict String MovieRecord} {names lasting : List IdentityToken}
  {entry : String × MovieRecord} {trace : Trace}

theorem records_find {stateKey itemId signature : String}
    (alias_ : Alias entries (identityTokens stateKey itemId signature) entry)
    (recorded : entry.2.notification.Records trace)
    : ∃ found ∈ findMovieIdentityEntry rules entries stateKey itemId signature,
        found.2.notification.Records trace := by
  have member := mem_matching_iff.mpr alias_
  unfold findMovieIdentityEntry
  cases matching
      : matchingMovieIdentityEntries entries (identityTokens stateKey itemId signature) with
  | nil =>
      rw [matching] at member
      cases member
  | cons first rest =>
      rw [matching] at member
      refine ⟨_, rfl, Records.update (records_snapshot_iff.mpr ?_)⟩
      exact ⟨_, List.mem_map_of_mem (List.mem_map_of_mem member), recorded⟩

theorem Alias.mono (subset : names ⊆ lasting) (alias_ : Alias entries names entry)
    : Alias entries lasting entry := by
  induction alias_ with
  | seed member seeded =>
      rcases shareToken_iff.mp seeded with ⟨token, named, carried⟩
      exact .seed member (shareToken_iff.mpr ⟨token, subset named, carried⟩)
  | step _ member follows ih => exact .step ih member follows

theorem alias_set_iff {key : String} {record : MovieRecord}
    (linked : shareToken names (tokens (key, record)) = true) (apart : entry.1 ≠ key)
    : Alias (entries.set key record) names entry
      ↔ Alias (entries.erase key) (names ++ tokens (key, record)) entry := by
  constructor
  · intro alias_
    have kept {entry : String × MovieRecord} (apart : entry.1 ≠ key)
        (member : entry ∈ (entries.set key record).items)
        : entry ∈ (entries.erase key).items := by
      refine Dict.mem_items_iff.mpr ((Dict.get?_erase_ne _ apart).trans ?_)
      exact (Dict.get?_set_ne _ _ apart).symm.trans (Dict.mem_items_iff.mp member)
    induction alias_ with
    | seed member seeded =>
        rcases shareToken_iff.mp seeded with ⟨token, named, carried⟩
        exact
          .seed (kept apart member)
            (shareToken_iff.mpr ⟨token, List.mem_append_left _ named, carried⟩)
    | @step entry other before member follows ih =>
        by_cases here : other.1 = key
        · have found := Dict.mem_items_iff.mp before.mem
          rw [here, Dict.get?_set_self] at found
          have same : other = (key, record) := Prod.ext here (Option.some.inj found).symm
          subst same
          rcases shareToken_iff.mp follows with ⟨token, named, carried⟩
          exact
            .seed (kept apart member)
              (shareToken_iff.mpr ⟨token, List.mem_append_right _ named, carried⟩)
        · exact .step (ih here) (kept apart member) follows
  · intro alias_
    have written : Alias (entries.set key record) names (key, record) :=
      .seed (Dict.mem_items_iff.mpr (Dict.get?_set_self ..)) linked
    have kept {entry : String × MovieRecord} (member : entry ∈ (entries.erase key).items)
        : entry ∈ (entries.set key record).items := by
      have found := Dict.mem_items_iff.mp member
      rw [Dict.get?_erase, Option.ite_none_left_eq_some] at found
      exact Dict.mem_items_iff.mpr ((Dict.get?_set_ne _ _ found.1).trans found.2)
    clear apart
    induction alias_ with
    | seed member seeded =>
        rcases shareToken_iff.mp seeded with ⟨token, named, carried⟩
        rcases List.mem_append.mp named with mine | others
        · exact .seed (kept member) (shareToken_iff.mpr ⟨token, mine, carried⟩)
        · exact .step written (kept member) (shareToken_iff.mpr ⟨token, others, carried⟩)
    | step _ member follows ih => exact .step ih (kept member) follows

end MovieRecord

open MovieRecord

/-- One record of a movie is left, under its key, and has all that is known of the movie. -/
structure Collapses (before after : Dict String MovieRecord) (names : List IdentityToken)
    (key : String) (known : Trace → Prop)
    : Prop where
  others : ∀ entry, Alias before names entry → entry.1 ≠ key → after.get? entry.1 = none
  kept
    : ∃ record ∈ after.get? key,
        ∀ trace, known trace → record.notification.Records trace

namespace ServerState

variable (rules : TextRules) (server : ServerState) (item : CachedItem)

/-- An alias of the movie, in the state or in the history, has the trace on record. -/
def Known (trace : Trace) : Prop :=
  ∃ entry,
    (Alias server.movies item.names entry ∨ Alias server.movieHistory item.names entry)
    ∧ entry.2.notification.Records trace

/-- A checkpoint finds all aliases of its movie, and one record of them is left in the state and
one in the history.
-/
structure CollapsesAliases (after : ServerState) : Prop where
  matched
    : ∀ entries entry,
        entry ∈ matchingMovieIdentityEntries entries item.names
        ↔ Alias entries item.names entry
  movies
    : Collapses server.movies after.movies item.names item.movieKey (server.Known item)
  history
    : Collapses server.movieHistory after.movieHistory item.names (strip item.movieKey)
        (server.Known item)

/-- The names that the record of a movie has after a checkpoint: those of the movie, and the
signature of the preferred alias where the movie has none.
-/
def lastingNames : List IdentityToken :=
  let preferred :=
    findMovieIdentityEntry rules server.movies item.movieKey item.itemId item.signature
  identityTokens item.movieKey item.itemId
    (if item.signature ≠ "" then item.signature
    else (preferred.bind (·.2.signature)).getD "")

/-- The other aliases are linked to these names without the record under the key. -/
def StaysConnected (entries : Dict String MovieRecord) (names lasting : List IdentityToken)
    (key : String)
    : Prop :=
  ∀ entry,
    Alias entries names entry → entry.1 ≠ key → Alias (entries.erase key) lasting entry

section Collapse

variable {rules server item} {publicationKey : String} {delivered : Delivered}
  {required : List String} {notifiedAt : String} {trace : Trace}
  {entries : Dict String MovieRecord} {names : List IdentityToken} {key : String}
  {record : MovieRecord}

theorem get?_dropAliases_iff {entry : String × MovieRecord}
    (here : entries.get? entry.1 = some entry.2) (apart : entry.1 ≠ key)
    : (dropAliases (entries.set key record) names key).get? entry.1 = none
      ↔ Alias (entries.set key record) names entry := by
  have still : (entries.set key record).get? entry.1 = some entry.2 :=
    (Dict.get?_set_ne _ _ apart).trans here
  unfold dropAliases
  rw [Dict.get?_eraseWhere, still]
  simp only [ite_eq_left_iff, reduceCtorEq, imp_false, not_not, Bool.and_eq_true,
    decide_eq_true_eq, ne_eq, apart, not_false_eq_true, true_and, List.mem_map]
  constructor
  · rintro ⟨known, member, same⟩
    have alias_ := mem_matching_iff.mp member
    have found := alias_.get?
    rw [same, still] at found
    have equal : known = entry := Prod.ext same (Option.some.inj found).symm
    exact equal ▸ alias_
  · intro alias_
    exact ⟨entry, mem_matching_iff.mpr alias_, rfl⟩

/-- All others go if and only if they stay connected. -/
theorem others_iff {lasting : List IdentityToken}
    (linked : shareToken names (tokens (key, record)) = true)
    (after : ∀ token, token ∈ lasting ↔ token ∈ names ++ tokens (key, record))
    : (∀ entry,
          Alias entries names entry
          → entry.1 ≠ key
          → (dropAliases (entries.set key record) names key).get? entry.1 = none)
      ↔ StaysConnected entries names lasting key := by
  refine forall_congr' (fun entry => forall_congr' (fun alias_ => forall_congr' (fun apart => ?_)))
  rw [get?_dropAliases_iff alias_.get? apart, alias_set_iff linked apart]
  constructor
  · exact Alias.mono (fun token => (after token).mpr)
  · exact Alias.mono (fun token => (after token).mp)

theorem records_movieEntryWithHistory (known : server.Known item trace)
    : (server.movieEntryWithHistory rules item).notification.Records trace := by
  rcases known with ⟨entry, alias_ | alias_, recorded⟩
  · rcases @records_find rules _ _ _ _ _ _ alias_ recorded with ⟨found, here, holds⟩
    have own : (server.movieEntry rules item).notification.Records trace := by
      unfold movieEntry
      rw [Option.mem_def.mp here]
      exact holds
    unfold movieEntryWithHistory
    cases server.movieHistoryEntry rules item with
    | none => exact own
    | some past =>
        exact Records.update (records_snapshot_iff.mpr ⟨_, List.mem_cons_self, own⟩)
  · rcases @records_find rules _ _ _ _ _ _ alias_ recorded with ⟨found, here, holds⟩
    have past : server.movieHistoryEntry rules item = some found.2 := by
      unfold movieHistoryEntry
      rw [Option.mem_def.mp here]
      rfl
    unfold movieEntryWithHistory
    rw [past]
    exact Records.update (records_snapshot_iff.mpr ⟨_, by simp, holds⟩)

theorem records_checkpointRecord (known : server.Known item trace)
    : (checkpointRecord rules server item publicationKey delivered required
        notifiedAt).notification.Records trace :=
  (records_movieEntryWithHistory known).applyDestinationState

/-- The record that a checkpoint writes into the history. -/
def historyRecord (rules : TextRules) (server : ServerState) (item : CachedItem)
    (publicationKey : String) (delivered : Delivered) (required : List String)
    (notifiedAt : String)
    : MovieRecord :=
  let record := checkpointRecord rules server item publicationKey delivered required notifiedAt
  let existing := server.movieHistory.get? (strip item.movieKey)
  { itemId := if item.itemId ≠ "" then some item.itemId else none
    signature := if item.signature ≠ "" then some item.signature else none
    title := (item.entry.details.get? "title").getD ""
    year := item.entry.details.get? "year"
    lastSeenAt := item.entry.addedAt.get.getD ""
    mediaSourceKeys :=
      mergeKeyLists record.mediaSourceKeys ((existing.map (·.mediaSourceKeys)).getD []) [] 0
    mediainfoSourceKeys := record.mediainfoSourceKeys
    mediainfoComplete := record.mediainfoComplete
    notification :=
      mergeNotification rules (existing.map (·.notification))
        (.notificationSnapshot rules
          [some record.notification,
            (server.movieHistoryEntry rules item).map (·.notification)]) }

theorem history_persistMovie (identified : item.itemId ≠ "")
    : (server.persistMovie rules item publicationKey delivered required notifiedAt).movieHistory
      = dropAliases
          (server.movieHistory.set (strip item.movieKey)
            (historyRecord rules server item publicationKey delivered required notifiedAt))
          item.names item.movieKey := by
  unfold persistMovie updateMovieHistory
  dsimp only
  rw [if_neg (CachedItem.movieKey_ne_empty identified),
    if_neg (CachedItem.movieKey_visible identified)]
  rfl

theorem records_historyRecord (known : server.Known item trace)
    : (historyRecord rules server item publicationKey delivered required
        notifiedAt).notification.Records trace := by
  have payload
      : (notificationSnapshot rules
            [some
                (checkpointRecord rules server item publicationKey delivered required
                  notifiedAt).notification,
              (server.movieHistoryEntry rules item).map (·.notification)]).Records trace :=
    records_snapshot_iff.mpr ⟨_, List.mem_cons_self, records_checkpointRecord known⟩
  exact
    Records.update
      (records_snapshot_iff.mpr ⟨_, List.mem_cons_of_mem _ List.mem_cons_self, payload⟩)

theorem tokens_movieEntry_eq (identified : item.itemId ≠ "")
    : tokens (item.movieKey, server.movieEntry rules item) = lastingNames rules server item := by
  unfold tokens lastingNames movieEntry
  dsimp only
  rw [if_pos identified, Option.getD_some]
  congr 1
  split
  · rfl
  · cases findMovieIdentityEntry rules server.movies item.movieKey item.itemId item.signature with
    | none => rfl
    | some found => rfl

theorem tokens_historyRecord (identified : item.itemId ≠ "")
    (bare : strip item.movieKey = item.movieKey)
    : tokens (strip item.movieKey,
          historyRecord rules server item publicationKey delivered required notifiedAt)
      = item.names := by
  unfold tokens historyRecord CachedItem.names
  dsimp only
  rw [if_pos identified, Option.getD_some, bare]
  congr 1
  split
  · rfl
  · next unsigned => rw [not_not.mp unsigned]; rfl

theorem names_subset_lastingNames : item.names ⊆ lastingNames rules server item := by
  intro token member
  unfold CachedItem.names at member
  unfold lastingNames
  rw [mem_identityTokens_iff] at member ⊢
  rcases member with own | own | signed
  · exact .inl own
  · exact .inr (.inl own)
  · refine .inr (.inr ?_)
    rw [if_pos]
    · exact signed
    · intro unsigned
      rw [unsigned] at signed
      exact signed.1 rfl

theorem shareToken_key (identified : item.itemId ≠ "") {key : String}
    (same : strip key = strip item.movieKey) (record : MovieRecord)
    : shareToken item.names (tokens (key, record)) = true := by
  refine shareToken_iff.mpr ⟨_, CachedItem.key_mem_names identified, ?_⟩
  exact
    mem_identityTokens_iff.mpr
      (.inl ⟨same ▸ CachedItem.movieKey_visible identified, by rw [same]⟩)

theorem collapses_movies_iff (identified : item.itemId ≠ "")
    : Collapses server.movies
          (server.persistMovie rules item publicationKey delivered required notifiedAt).movies
          item.names item.movieKey (server.Known item)
      ↔ StaysConnected server.movies item.names (lastingNames rules server item)
          item.movieKey := by
  have after (token : IdentityToken)
      : token ∈ lastingNames rules server item
        ↔ token ∈ item.names ++ tokens (item.movieKey, server.movieEntry rules item) := by
    rw [tokens_movieEntry_eq identified, List.mem_append]
    exact (or_iff_right_of_imp (fun own => names_subset_lastingNames own)).symm
  rw [← others_iff (shareToken_key identified rfl _) after, movies_persistMovie identified]
  constructor
  · intro collapses entry alias_ apart
    exact (Dict.get?_set_ne _ _ apart).symm.trans (collapses.others entry alias_ apart)
  · intro gone
    refine ⟨fun entry alias_ apart => ?_, _, Dict.get?_set_self .., ?_⟩
    · exact (Dict.get?_set_ne _ _ apart).trans (gone entry alias_ apart)
    · exact fun trace known => records_checkpointRecord known

theorem key_bare_of_kept (identified : item.itemId ≠ "") {written : MovieRecord}
    (kept
      : ∃ record,
          (dropAliases (entries.set (strip item.movieKey) written) item.names
              item.movieKey).get? (strip item.movieKey)
          = some record)
    : strip item.movieKey = item.movieKey := by
  by_contra surrounded
  rcases kept with ⟨record, found⟩
  unfold dropAliases at found
  rw [Dict.get?_eraseWhere, Option.ite_none_left_eq_some] at found
  refine found.1 ?_
  have alias_
      : Alias (entries.set (strip item.movieKey) written) item.names
          (strip item.movieKey, written) :=
    .seed (Dict.mem_items_iff.mpr (Dict.get?_set_self ..))
      (shareToken_key identified (strip_strip _) written)
  have listed := List.mem_map_of_mem (f := Prod.fst) (mem_matching_iff.mpr alias_)
  simp [surrounded, listed]

theorem collapses_history_iff (identified : item.itemId ≠ "")
    : Collapses server.movieHistory
          (server.persistMovie rules item publicationKey delivered required
            notifiedAt).movieHistory
          item.names (strip item.movieKey) (server.Known item)
      ↔ StaysConnected server.movieHistory item.names item.names item.movieKey
        ∧ strip item.movieKey = item.movieKey := by
  rw [history_persistMovie identified]
  by_cases bare : strip item.movieKey = item.movieKey
  · have after (token : IdentityToken)
        : token ∈ item.names
          ↔ token
            ∈ item.names
              ++ tokens (item.movieKey,
                historyRecord rules server item publicationKey delivered required
                  notifiedAt) := by
      have same :=
        @tokens_historyRecord rules server item publicationKey delivered required notifiedAt
          identified bare
      rw [bare] at same
      rw [same, List.mem_append, or_self]
    rw [and_iff_left bare, bare, ← others_iff (shareToken_key identified rfl _) after]
    constructor
    · exact fun collapses => collapses.others
    · intro gone
      have kept
          : (dropAliases
                (server.movieHistory.set item.movieKey
                  (historyRecord rules server item publicationKey delivered required notifiedAt))
                item.names item.movieKey).get? item.movieKey
            = some
                (historyRecord rules server item publicationKey delivered required
                  notifiedAt) := by
        unfold dropAliases
        rw [Dict.get?_eraseWhere, if_neg (by simp), Dict.get?_set_self]
      exact ⟨gone, _, kept, fun trace known => records_historyRecord known⟩
  · constructor
    · intro collapses
      rcases collapses.kept with ⟨record, found, -⟩
      exact absurd (key_bare_of_kept identified ⟨record, found⟩) bare
    · intro connected
      exact absurd connected.2 bare

end Collapse

/-- The checkpoint of a delivered publication collapses the aliases of its movie if and only if
the other aliases stay connected without the record under its key, and nothing surrounds this key.
-/
theorem collapsesAliases_iff (rules : TextRules) (server : ServerState) {item : CachedItem}
    (named : publicationSignature item.entry ≠ "") (publicationKey : String)
    (delivered : Delivered) (required : List String) (notifiedAt : String)
    : server.CollapsesAliases item
        (server.persistMovie rules item publicationKey delivered required notifiedAt)
      ↔ StaysConnected server.movies item.names (lastingNames rules server item) item.movieKey
        ∧ StaysConnected server.movieHistory item.names item.names item.movieKey
        ∧ strip item.movieKey = item.movieKey := by
  have identified := (CachedItem.named_of_publicationSignature item named).2
  constructor
  · intro collapses
    exact
      ⟨(collapses_movies_iff identified).mp collapses.movies,
        (collapses_history_iff identified).mp collapses.history⟩
  · intro connected
    exact {
      matched := fun entries entry => mem_matching_iff
      movies := (collapses_movies_iff identified).mpr connected.1
      history := (collapses_history_iff identified).mpr connected.2
    }

def filmRecord (itemId signature : String) : MovieRecord where
  itemId := some itemId
  signature := some signature
  title := "Film"
  year := none
  lastSeenAt := ""
  mediaSourceKeys := []
  mediainfoSourceKeys := []
  mediainfoComplete := false
  notification := .empty

/-- The film was stored under its title before it had a provider signature. -/
def titledFilm : ServerState :=
  { ServerState.empty with
    movies := (∅ : Dict String MovieRecord).set "title:film" (filmRecord "7" "title:film") }

theorem titledFilm_collapses
    : titledFilm.CollapsesAliases film
        (titledFilm.persistMovie crashRules film "server:movies:1"
          ((∅ : Delivered).set channel.key ("bot", "chat")) [channel.key]
          "2026-01-10T10:00:05+00:00") := by
  refine
    (collapsesAliases_iff crashRules titledFilm (by decide) _ _ _ _).mpr
      ⟨fun entry alias_ apart => ?_, fun entry alias_ apart => ?_, by decide⟩
  · have member := alias_.mem
    rw [show titledFilm.movies.items = [("title:film", filmRecord "7" "title:film")] from rfl,
      List.mem_singleton] at member
    subst member
    exact .seed (by decide) (by decide)
  · have member := alias_.mem
    cases member

/-- The film has a new item; its title is known by the old one only. -/
def movedFilm : ServerState :=
  { ServerState.empty with
    movies :=
      (∅ : Dict String MovieRecord).set "tmdb:603" (filmRecord "5" "tmdb:603")
        |>.set "title:film" (filmRecord "5" "title:film") }

/-- Two records of the film are left. -/
theorem movedFilm_keeps_alias
    : ¬ movedFilm.CollapsesAliases film
        (movedFilm.persistMovie crashRules film "server:movies:1"
          ((∅ : Delivered).set channel.key ("bot", "chat")) [channel.key]
          "2026-01-10T10:00:05+00:00") := by
  intro collapses
  have direct : Alias movedFilm.movies film.names ("tmdb:603", filmRecord "5" "tmdb:603") :=
    .seed (by decide) (by decide)
  have alias_ : Alias movedFilm.movies film.names ("title:film", filmRecord "5" "title:film") :=
    .step direct (by decide) (by decide)
  have gone := collapses.movies.others _ alias_ (by decide)
  exact absurd gone (by decide)

end ServerState

end OctoHubs.Latest
