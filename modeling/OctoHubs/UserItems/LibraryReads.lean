import OctoHubs.UserItems.UnidentifiedItems
import OctoHubs.UserItems.UserLibraries

/-! What a synchronisation reads of a library: which items, with which descriptions, does not
depend on what is stored, but for the lists of played items and of those to resume.
-/

namespace OctoHubs.UserItems

open OctoHubs.Library

section Reads

variable {rules : Alphabet}

-- Lookups over other playback states

/-- An item with the playback state that is known of its id. -/
def retold (data : String → UserData) (item : LibraryItem) : LibraryItem :=
  { item with userData := data item.id }

/-- A server that answers like another one but for the playback states. -/
structure Retells (data : String → UserData) (api other : Api) : Prop where
  items
    : ∀ query,
        query.unplayedOnly = false
        → api.items query = (other.items query).map (List.map (retold data))
  episodes
    : ∀ id season, api.episodes id season = (other.episodes id season).map (List.map (retold data))

variable {data : String → UserData} {api other : Api}

theorem filter_retold (keeps : LibraryItem → Bool) (items : List LibraryItem)
    (alike : ∀ item, keeps (retold data item) = keeps item)
    : (items.map (retold data)).filter keeps = (items.filter keeps).map (retold data) := by
  rw [List.filter_map]
  exact congrArg _ (congrFun (congrArg List.filter (funext alike)) items)

theorem unseen_retold (items : List LibraryItem)
    : unseen (items.map (retold data)) = (unseen items).map (retold data) := by
  have step (listed : List LibraryItem) (item : LibraryItem)
      : addUnseen (listed.map (retold data)) (retold data item)
        = (addUnseen listed item).map (retold data) := by
    have there
        : (listed.map (retold data)).any (fun other => decide (other.id = (retold data item).id))
          = listed.any (fun other => decide (other.id = item.id)) := List.any_map
    unfold addUnseen
    rw [there]
    have same : (retold data item).id = item.id := rfl
    rw [same]
    split <;> simp
  rw [unseen, unseen, List.foldl_map]
  change List.foldl _ (List.map (retold data) []) items = _
  exact List.foldl_hom (List.map (retold data)) step

theorem Retells.seasons (retells : Retells data api other) (shows : List LibraryItem)
    (season : String)
    : (shows.map (retold data)).mapM (fun show_ => api.episodes show_.id season)
      = (shows.mapM (fun show_ => other.episodes show_.id season)).map
          (List.map (List.map (retold data))) := by
  rw [List.mapM_map]
  exact mapM_map_answers (fun show_ => retells.episodes show_.id season) shows

theorem Retells.episodesAtPosition (retells : Retells data api other) (parsed : SeriesPosition)
    : episodesAtPosition rules api true parsed
      = (episodesAtPosition rules other true parsed).map (List.map (retold data)) := by
  unfold UserItems.episodesAtPosition
  rw [retells.items (seriesQuery parsed) rfl]
  cases other.items (seriesQuery parsed) with
  | none => rfl
  | some shows =>
      simp only [Option.map_some, Option.bind_eq_bind, Option.bind_some]
      rw [filter_retold _ _ (fun _ => rfl), retells.seasons]
      cases (shows.filter (fun show_ => decide (show_.id ≠ ""))).mapM
          (fun show_ => other.episodes show_.id parsed.season) with
      | none => rfl
      | some seasons =>
          simp only [Option.map_some, Option.bind_some, Option.pure_def, Bool.true_or,
            Bool.and_true]
          rw [← List.map_flatten, filter_retold _ _ (fun _ => rfl), List.map_map, List.map_map]
          rfl

theorem Retells.fetchByProviderIds (retells : Retells data api other) (keys : List String)
    : fetchEmbyItemsByProviderIds rules api keys true
      = (fetchEmbyItemsByProviderIds rules other keys true).map (List.map (retold data)) := by
  have chunks (lists : List (List String))
      : lists.mapM (fun tokens => api.items (providerQuery tokens true))
        = (lists.mapM (fun tokens => other.items (providerQuery tokens true))).map
            (List.map (List.map (retold data))) :=
    mapM_map_answers (fun tokens => retells.items (providerQuery tokens true) rfl) lists
  have positions (parsed : List SeriesPosition)
      : parsed.mapM (UserItems.episodesAtPosition rules api true)
        = (parsed.mapM (UserItems.episodesAtPosition rules other true)).map
            (List.map (List.map (retold data))) :=
    mapM_map_answers retells.episodesAtPosition parsed
  unfold fetchEmbyItemsByProviderIds fetchEmbyItemsBySeriesProviderKeys
  dsimp only
  rw [chunks, positions]
  cases ((keys.filterMap (formatProviderToken rules)).toChunks 100).mapM
      (fun tokens => other.items (providerQuery tokens true)) with
  | none => rfl
  | some found =>
      cases (keys.filterMap parseSeriesProviderKey).mapM
          (UserItems.episodesAtPosition rules other true) with
      | none => rfl
      | some seasons =>
          simp only [Option.map_some, Option.bind_eq_bind, Option.bind_some, Option.pure_def]
          rw [← List.map_flatten, ← List.map_flatten, unseen_retold, ← List.map_append,
            unseen_retold]

theorem Retells.fetchByFallbackKey (retells : Retells data api other) (key : String)
    : fetchItemsByFallbackKey rules api key
      = (fetchItemsByFallbackKey rules other key).map (List.map (retold data)) := by
  unfold fetchItemsByFallbackKey
  split
  · next parsed _ =>
      unfold fetchEpisodeItemsByFallbackKey
      rw [retells.items (searchQuery "Series" parsed.series (some 100)) rfl]
      cases other.items (searchQuery "Series" parsed.series (some 100)) with
      | none => rfl
      | some shows =>
          simp only [Option.map_some, Option.bind_eq_bind, Option.bind_some]
          rw [filter_retold _ _ (fun _ => rfl), filter_retold _ _ (fun _ => rfl), retells.seasons]
          cases ((shows.filter (isCalled rules parsed.series)).filter
              (fun show_ => decide (show_.id ≠ ""))).mapM
                (fun show_ => other.episodes show_.id parsed.season) with
          | none => rfl
          | some seasons =>
              simp only [Option.map_some, Option.bind_some, Option.pure_def]
              rw [← List.map_flatten, filter_retold _ _ (fun _ => rfl)]
  · next parsed _ _ =>
      unfold fetchMovieItemsByFallbackKey
      rw [retells.items (searchQuery "Movie" parsed.title (some 50)) rfl]
      cases other.items (searchQuery "Movie" parsed.title (some 50)) with
      | none => rfl
      | some movies =>
          simp only [Option.map_some, Option.bind_eq_bind, Option.bind_some, Option.pure_def]
          rw [filter_retold _ _ (fun _ => rfl)]
  · rfl

-- Lookups in a library

/-- Nothing was played. -/
def unwatched : Stored := fun _ => ⟨false, 0, none, false⟩

variable {library : UserLibrary} {stored : Stored}

/-- What a library lists of a user's items, in which state they are. -/
def UserLibrary.dataOf (library : UserLibrary) (stored : Stored) (id : String) : UserData :=
  library.shown (stored id)

theorem UserLibrary.retells (library : UserLibrary) (stored other : Stored)
    : Retells (library.dataOf stored) (library.api stored) (library.api other) where
  items query all := by
    have keepsAll (data : Stored)
        : ((library.items query).map (library.reply data)).filter
            (fun item => !query.unplayedOnly || !item.userData.played)
          = (library.items query).map (library.reply data) :=
      List.filter_eq_self.mpr (fun item _ => by rw [all]; rfl)
    change some _ = Option.map _ (some _)
    rw [keepsAll, keepsAll, Option.map_some, List.map_map]
    rfl
  episodes id season := by
    change some _ = Option.map _ (some _)
    rw [Option.map_some, List.map_map]
    rfl

theorem exists_fetchByProviderIds (rules : Alphabet) (library : UserLibrary) (stored : Stored)
    (keys : List String)
    : ∃ found, fetchEmbyItemsByProviderIds rules (library.api stored) keys true = some found := by
  have position (parsed : SeriesPosition)
      : ∃ found, episodesAtPosition rules (library.api stored) true parsed = some found := by
    obtain ⟨shows, shown⟩ : ∃ shows, (library.api stored).items (seriesQuery parsed) = some shows :=
      ⟨_, rfl⟩
    obtain ⟨seasons, listed⟩ :=
      exists_mapM (fun show_ : LibraryItem =>
        (⟨_, rfl⟩ : ∃ found, (library.api stored).episodes show_.id parsed.season = some found))
        (shows.filter (·.id ≠ ""))
    exact ⟨_, by rw [episodesAtPosition, shown, Option.bind_eq_bind, Option.bind_some, listed]; rfl⟩
  obtain ⟨found, first⟩ :=
    exists_mapM (fun tokens : List String =>
      (⟨_, rfl⟩ : ∃ found, (library.api stored).items (providerQuery tokens true) = some found))
      ((keys.filterMap (formatProviderToken rules)).toChunks 100)
  obtain ⟨seasons, second⟩ := exists_mapM position (keys.filterMap parseSeriesProviderKey)
  refine Option.isSome_iff_exists.mp ?_
  unfold fetchEmbyItemsByProviderIds fetchEmbyItemsBySeriesProviderKeys
  dsimp only
  rw [first, second]
  rfl

theorem exists_fetchByFallbackKey (rules : Alphabet) (library : UserLibrary) (stored : Stored)
    (key : String)
    : ∃ found, fetchItemsByFallbackKey rules (library.api stored) key = some found := by
  unfold fetchItemsByFallbackKey
  split
  · next parsed _ =>
      obtain ⟨shows, shown⟩
          : ∃ shows,
              (library.api stored).items (searchQuery "Series" parsed.series (some 100))
              = some shows :=
        ⟨_, rfl⟩
      obtain ⟨seasons, listed⟩ :=
        exists_mapM (fun show_ : LibraryItem =>
          (⟨_, rfl⟩ : ∃ found, (library.api stored).episodes show_.id parsed.season = some found))
          ((shows.filter (isCalled rules parsed.series)).filter (·.id ≠ ""))
      refine Option.isSome_iff_exists.mp ?_
      unfold fetchEpisodeItemsByFallbackKey
      rw [shown, Option.bind_eq_bind, Option.bind_some]
      dsimp only
      rw [listed]
      rfl
  · exact ⟨_, rfl⟩
  · exact ⟨[], rfl⟩

-- A user's items

/-- An item is listed when it is played or, if these are asked for, to be resumed. -/
def StoredPlaystate.Listed (state : StoredPlaystate) (includeResume : Bool) : Prop :=
  state.played = true ∨ includeResume = true ∧ 0 < state.position

/-- What is read of an item: the flag that hides it is known of items that are listed to be resumed,
besides what the server shows.
-/
def UserLibrary.seen (library : UserLibrary) (includeResume : Bool) (stored : Stored) (id : String)
    : UserData :=
  if id ∈ library.ids ∧ includeResume = true ∧ 0 < (stored id).position then
    { library.shown (stored id) with hideFromResume := some (stored id).hidden }
  else library.shown (stored id)

def UserLibrary.ownItem (library : UserLibrary) (includeResume : Bool) (stored : Stored)
    (id : String)
    : LibraryItem :=
  ⟨id, library.details id, library.seen includeResume stored id⟩

theorem mem_listOf {keeps : StoredPlaystate → Bool} {item : LibraryItem}
    : item ∈ library.listOf stored keeps
      ↔ ∃ id ∈ library.ids,
          keeps (stored id) = true ∧ library.reply stored (id, library.details id) = item := by
  simp only [UserLibrary.listOf, List.mem_map, List.mem_filter, and_assoc]

theorem attachMissingLastPlayedDate_self {item : LibraryItem}
    (same : item.userData.lastPlayedDate = (stored item.id).lastPlayed)
    : attachMissingLastPlayedDate (library.reads stored).detail item = item := by
  have detail
      : (library.reads stored).detail item.id
        = some (library.reply stored (item.id, library.details item.id)) := rfl
  have date
      : (library.reply stored (item.id, library.details item.id)).userData.lastPlayedDate
        = item.userData.lastPlayedDate := same.symm
  unfold attachMissingLastPlayedDate
  dsimp only
  split
  · rfl
  · next undated =>
      rw [detail]
      dsimp only
      rw [date, if_neg (fun there => undated (.inr (.inr there)))]

theorem map_attachMissingLastPlayedDate {items : List LibraryItem}
    (same : ∀ item ∈ items, item.userData.lastPlayedDate = (stored item.id).lastPlayed)
    : items.map (attachMissingLastPlayedDate (library.reads stored).detail) = items := by
  conv_rhs => rw [← List.map_id items]
  exact List.map_congr_left (fun item member => attachMissingLastPlayedDate_self (same item member))

theorem annotateHideFromResume_listed {id : String} (member : id ∈ library.ids)
    (started : 0 < (stored id).position)
    : annotateHideFromResume
          ((library.listOf stored (fun state => 0 < state.position && !state.hidden)).map (·.id))
          (library.reply stored (id, library.details id))
      = library.ownItem true stored id := by
  have visible
      : id ∈ (library.listOf stored (fun state => 0 < state.position && !state.hidden)).map (·.id)
        ↔ (stored id).hidden = false := by
    simp only [List.mem_map, mem_listOf]
    constructor
    · rintro ⟨_, ⟨other, -, keeps, rfl⟩, same⟩
      have same : other = id := same
      subst same
      simpa [started] using keeps
    · exact fun shown => ⟨_, ⟨id, member, by simp [started, shown], rfl⟩, rfl⟩
  have flag
      : decide
          (id ∉ (library.listOf stored (fun state => 0 < state.position && !state.hidden)).map
            (·.id))
        = (stored id).hidden := by
    rw [Bool.eq_iff_iff, decide_eq_true_iff, visible, Bool.not_eq_false]
  have named : ¬(id = "" ∨ (library.shown (stored id)).playbackPositionTicks ≤ 0) := by
    rintro (empty | early)
    · exact library.named id member empty
    · exact absurd started (not_lt.mpr early)
  unfold annotateHideFromResume UserLibrary.ownItem UserLibrary.seen
  have reply
      : library.reply stored (id, library.details id)
        = ⟨id, library.details id, library.shown (stored id)⟩ := rfl
  rw [reply]
  dsimp only
  rw [if_neg named, if_pos ⟨member, rfl, started⟩, flag]

theorem mergeUserItemData_seen {id : String} {data : UserData}
    (same : data.lastPlayedDate = (stored id).lastPlayed) (member : id ∈ library.ids)
    (started : 0 < (stored id).position)
    : mergeUserItemData data (library.seen true stored id) = library.seen true stored id := by
  unfold mergeUserItemData UserLibrary.seen
  rw [if_pos ⟨member, rfl, started⟩, same]
  simp [UserLibrary.shown]

theorem seen_lastPlayedDate {includeResume : Bool} {id : String}
    : (library.seen includeResume stored id).lastPlayedDate = (stored id).lastPlayed := by
  unfold UserLibrary.seen
  split <;> rfl

def UserLibrary.resumableOf (library : UserLibrary) (stored : Stored) : List LibraryItem :=
  (library.ids.filter (fun id => 0 < (stored id).position)).map (library.ownItem true stored)

theorem mem_resumableOf {item : LibraryItem}
    : item ∈ library.resumableOf stored
      ↔ ∃ id ∈ library.ids, 0 < (stored id).position ∧ library.ownItem true stored id = item := by
  simp only [UserLibrary.resumableOf, List.mem_map, List.mem_filter, decide_eq_true_iff, and_assoc]

/-- Merging the annotated items of an id, by induction on them. -/
theorem foldl_merge_seen (id : String) {others : List LibraryItem}
    (all : ∀ other ∈ others, other ∈ library.resumableOf stored ∧ other.id = id)
    (item : LibraryItem) (same : item.userData.lastPlayedDate = (stored id).lastPlayed)
    : others.foldl
          (fun item other =>
            { item with userData := mergeUserItemData item.userData other.userData })
          item
      = if others = [] then item else { item with userData := library.seen true stored id } := by
  induction others generalizing item with
  | nil => rfl
  | cons other rest ih =>
      obtain ⟨inside, sameId⟩ := all other List.mem_cons_self
      obtain ⟨name, member, started, rfl⟩ := mem_resumableOf.mp inside
      have sameId : name = id := sameId
      subst sameId
      have merged := mergeUserItemData_seen same member started
      have step (start : LibraryItem) (data : start.userData = library.seen true stored name) :=
        ih (fun later inRest => all later (List.mem_cons_of_mem _ inRest)) start
          (data ▸ seen_lastPlayedDate)
      have owned
          : (library.ownItem true stored name).userData = library.seen true stored name := rfl
      rw [List.foldl_cons, if_neg (List.cons_ne_nil _ _), owned, merged, step _ rfl]
      split <;> rfl

theorem merge_own {id : String} (member : id ∈ library.ids)
    : (((library.resumableOf stored).filter (·.id ≠ "")).filter (·.id = id)).foldl
          (fun item other =>
            { item with userData := mergeUserItemData item.userData other.userData })
          (library.reply stored (id, library.details id))
      = library.ownItem true stored id := by
  have all
      : ∀ other ∈ ((library.resumableOf stored).filter (·.id ≠ "")).filter (·.id = id),
          other ∈ library.resumableOf stored ∧ other.id = id := by
    intro other inside
    obtain ⟨inside, same⟩ := List.mem_filter.mp inside
    exact ⟨(List.mem_filter.mp inside).1, of_decide_eq_true same⟩
  rw [foldl_merge_seen id all _ rfl]
  split
  · next absent =>
      have early : ¬(id ∈ library.ids ∧ true = true ∧ 0 < (stored id).position) := by
        rintro ⟨-, -, started⟩
        have inside := mem_resumableOf.mpr ⟨id, member, started, rfl⟩
        have kept : library.ownItem true stored id
            ∈ ((library.resumableOf stored).filter (·.id ≠ "")).filter (·.id = id) :=
          List.mem_filter.mpr ⟨List.mem_filter.mpr
            ⟨inside, decide_eq_true (library.named id member)⟩, decide_eq_true rfl⟩
        rw [absent] at kept
        cases kept
      unfold UserLibrary.ownItem UserLibrary.seen
      rw [if_neg early]
      rfl
  · rfl

theorem mem_mergeResumable {item : LibraryItem}
    : item ∈ mergeResumable (library.listOf stored (·.played)) (library.resumableOf stored)
      ↔ ∃ id ∈ library.ids,
          (stored id).Listed true ∧ library.ownItem true stored id = item := by
  unfold mergeResumable
  dsimp only
  rw [List.mem_append]
  constructor
  · rintro (inside | inside)
    · obtain ⟨_, listed, rfl⟩ := List.mem_map.mp inside
      obtain ⟨id, member, played, rfl⟩ := mem_listOf.mp listed
      exact ⟨id, member, .inl played, (merge_own member).symm⟩
    · obtain ⟨id, member, started, rfl⟩ :=
        mem_resumableOf.mp (List.mem_filter.mp (List.mem_filter.mp inside).1).1
      exact ⟨id, member, .inr ⟨rfl, started⟩, rfl⟩
  · rintro ⟨id, member, listed, rfl⟩
    by_cases played : (stored id).played = true
    · exact .inl (List.mem_map.mpr
        ⟨_, mem_listOf.mpr ⟨id, member, played, rfl⟩, merge_own member⟩)
    · have started := (listed.resolve_left played).2
      refine .inr (List.mem_filter.mpr ⟨List.mem_filter.mpr
        ⟨mem_resumableOf.mpr ⟨id, member, started, rfl⟩, decide_eq_true (library.named id member)⟩,
        List.all_eq_true.mpr (fun other inside => decide_eq_true (fun same => ?_))⟩)
      obtain ⟨_, -, played_, rfl⟩ := mem_listOf.mp inside
      have same : _ = id := same
      subst same
      exact played played_

theorem map_attach_listOf (keeps : StoredPlaystate → Bool)
    : (library.listOf stored keeps).map (attachMissingLastPlayedDate (library.reads stored).detail)
      = library.listOf stored keeps :=
  map_attachMissingLastPlayedDate (fun item member => by
    obtain ⟨id, -, -, rfl⟩ := mem_listOf.mp member
    rfl)

theorem map_attach_resumableOf
    : (library.resumableOf stored).map (attachMissingLastPlayedDate (library.reads stored).detail)
      = library.resumableOf stored :=
  map_attachMissingLastPlayedDate (fun item member => by
    obtain ⟨id, -, -, rfl⟩ := mem_resumableOf.mp member
    exact seen_lastPlayedDate)

theorem map_annotate_listOf
    : (library.listOf stored (fun state => 0 < state.position)).map
          (annotateHideFromResume
            ((library.listOf stored (fun state => 0 < state.position && !state.hidden)).map (·.id)))
      = library.resumableOf stored := by
  unfold UserLibrary.resumableOf
  conv_lhs => unfold UserLibrary.listOf
  rw [List.map_map]
  refine List.map_congr_left (fun id inside => ?_)
  obtain ⟨member, started⟩ := List.mem_filter.mp inside
  exact annotateHideFromResume_listed member (of_decide_eq_true started)

theorem exists_fetchEmbyUserItemsForSync (library : UserLibrary) (stored : Stored)
    (includeResume : Bool)
    : ∃ items,
        fetchEmbyUserItemsForSync (library.reads stored) includeResume = some items
        ∧ ∀ item,
            item ∈ items
            ↔ ∃ id ∈ library.ids,
                (stored id).Listed includeResume
                ∧ library.ownItem includeResume stored id = item := by
  have played : (library.reads stored).played = some (library.listOf stored (·.played)) := rfl
  have resumable
      : (library.reads stored).resumable
        = some (library.listOf stored (fun state => 0 < state.position)) := rfl
  have visible
      : (library.reads stored).visibleResumeIds
        = some
          ((library.listOf stored (fun state => 0 < state.position && !state.hidden)).map
            (·.id)) := rfl
  unfold fetchEmbyUserItemsForSync
  rw [played, resumable, visible, Option.map_some]
  dsimp only
  rw [map_attach_listOf]
  cases includeResume with
  | false =>
      refine ⟨_, rfl, fun item => ?_⟩
      dsimp only
      rw [mem_listOf]
      refine exists_congr (fun id => and_congr_right (fun _ => and_congr ?_ ?_))
      · simp [StoredPlaystate.Listed]
      · unfold UserLibrary.ownItem UserLibrary.seen
        rw [if_neg (fun there => Bool.false_ne_true there.2.1)]
        rfl
  | true =>
      refine ⟨_, rfl, fun item => ?_⟩
      dsimp only
      rw [map_annotate_listOf, map_attach_resumableOf]
      exact mem_mergeResumable

-- The items of a synchronisation

/-- An item is in a list that a lookup answers with, under a description. -/
def Lists (found : Option (List LibraryItem)) (id : String) (details : Item) : Prop :=
  ∃ items, found = some items ∧ ∃ item ∈ items, item.id = id ∧ item.details = details

/-- The lookups of a synchronisation find an item, under a description. -/
def UserLibrary.LooksUp (library : UserLibrary) (rules : Alphabet) (keys : List String)
    (id : String) (details : Item)
    : Prop :=
  id ≠ ""
  ∧ (Lists (providedItems (library.server unwatched rules) (keys.filter isProviderKey)) id details
    ∨ ∃ key ∈ keys,
        isProviderKey key = false
        ∧ Lists (fetchItemsByFallbackKey rules (library.api unwatched) key) id details)

/-- An item is described as in the user's lists or as a lookup found it. -/
def UserLibrary.Describes (library : UserLibrary) (rules : Alphabet) (keys : List String)
    (id : String) (details : Item)
    : Prop :=
  details = library.details id ∨ library.LooksUp rules keys id details

/-- The items that were read so far reflect what is stored. -/
structure Reflects (library : UserLibrary) (rules : Alphabet) (includeResume : Bool)
    (stored : Stored) (keys : List String) (byId : ItemsById)
    : Prop where
  under : UnderIds byId
  data
    : ∀ id item,
        byId.get? id = some item
        → item.userData = library.seen includeResume stored id
          ∧ library.Describes rules keys id item.details
  listed
    : ∀ id ∈ library.ids, (stored id).Listed includeResume → (byId.get? id).isSome = true

variable {includeResume : Bool} {keys : List String} {byId : ItemsById}

theorem shown_hideFromResume (id : String)
    : (library.shown (stored id)).hideFromResume.or
          (library.seen includeResume stored id).hideFromResume
      = (library.seen includeResume stored id).hideFromResume := by
  unfold UserLibrary.seen
  split <;>
    · unfold UserLibrary.shown
      cases library.showsHidden <;> rfl

theorem preservingUserData_seen (id : String)
    : preservingUserData (library.seen includeResume stored id) (library.shown (stored id))
      = library.seen includeResume stored id := by
  have date
      : (if dated (library.shown (stored id)).lastPlayedDate then
            (library.shown (stored id)).lastPlayedDate
          else (library.seen includeResume stored id).lastPlayedDate)
        = (library.seen includeResume stored id).lastPlayedDate := by
    rw [seen_lastPlayedDate]
    split <;> rfl
  have rest
      : { library.shown (stored id) with
          lastPlayedDate := (library.seen includeResume stored id).lastPlayedDate
          hideFromResume := (library.seen includeResume stored id).hideFromResume }
        = library.seen includeResume stored id := by
    unfold UserLibrary.seen
    split <;> rfl
  unfold preservingUserData
  rw [date, shown_hideFromResume]
  exact rest

theorem Reflects.shown_of_absent (reflects : Reflects library rules includeResume stored keys byId)
    {id : String} (absent : byId.get? id = none)
    : library.shown (stored id) = library.seen includeResume stored id := by
  unfold UserLibrary.seen
  rw [if_neg]
  rintro ⟨member, asked, started⟩
  have there := reflects.listed id member (.inr ⟨asked, started⟩)
  rw [absent] at there
  cases there

theorem Reflects.set (reflects : Reflects library rules includeResume stored keys byId)
    {item : LibraryItem} (data : item.userData = library.seen includeResume stored item.id)
    (described : library.Describes rules keys item.id item.details)
    : Reflects library rules includeResume stored keys (byId.set item.id item) where
  under := reflects.under.set rfl
  data id other found := by
    rw [Dict.get?_set] at found
    split at found
    · next same =>
        cases found
        exact same ▸ ⟨data, described⟩
    · exact reflects.data id other found
  listed id member there := by
    rw [Dict.get?_set]
    split
    · rfl
    · exact reflects.listed id member there

variable {item : LibraryItem}

theorem Reflects.upsert (reflects : Reflects library rules includeResume stored keys byId)
    (data : item.userData = library.shown (stored item.id))
    (looked : item.id ≠ "" → library.LooksUp rules keys item.id item.details)
    : Reflects library rules includeResume stored keys (upsertPreservingUserData byId item) := by
  unfold upsertPreservingUserData
  split
  · exact reflects
  · next named =>
      split
      · next existing found =>
          let merged : LibraryItem :=
            { item with userData := preservingUserData existing.userData item.userData }
          have seen : merged.userData = library.seen includeResume stored merged.id := by
            change preservingUserData existing.userData item.userData = _
            rw [data, (reflects.data item.id existing found).1]
            exact preservingUserData_seen item.id
          exact reflects.set seen (.inr (looked named))
      · next absent =>
          exact reflects.set (data.trans (reflects.shown_of_absent absent)) (.inr (looked named))

theorem Reflects.addNew (reflects : Reflects library rules includeResume stored keys byId)
    (data : item.userData = library.shown (stored item.id))
    (looked : item.id ≠ "" → library.LooksUp rules keys item.id item.details)
    : Reflects library rules includeResume stored keys (addNewItem byId item) := by
  unfold addNewItem
  split
  · exact reflects
  · next fresh =>
      obtain ⟨named, absent⟩ := not_or.mp fresh
      have absent := Option.not_isSome_iff_eq_none.mp absent
      exact reflects.set (data.trans (reflects.shown_of_absent absent)) (.inr (looked named))

-- Which items there are

theorem isSome_set_iff {id key : String}
    : ((byId.set key item).get? id).isSome = true ↔ (byId.get? id).isSome = true ∨ key = id := by
  rw [Dict.get?_set]
  split
  · next same => exact iff_of_true rfl (.inr same.symm)
  · next other => exact (or_iff_left (fun same => other same.symm)).symm

theorem isSome_upsert_iff {id : String}
    : ((upsertPreservingUserData byId item).get? id).isSome = true
      ↔ (byId.get? id).isSome = true ∨ item.id ≠ "" ∧ item.id = id := by
  unfold upsertPreservingUserData
  split
  · next empty => exact (or_iff_left (fun there => there.1 empty)).symm
  · next named =>
      split <;> exact isSome_set_iff.trans (or_congr_right (iff_and_self.mpr (fun _ => named)))

theorem isSome_addNew_iff {id : String}
    : ((addNewItem byId item).get? id).isSome = true
      ↔ (byId.get? id).isSome = true ∨ item.id ≠ "" ∧ item.id = id := by
  unfold addNewItem
  split
  · next skipped =>
      refine (or_iff_left_of_imp (fun there => ?_)).symm
      exact there.2 ▸ skipped.resolve_left there.1
  · next fresh =>
      exact isSome_set_iff.trans
        (or_congr_right (iff_and_self.mpr (fun _ => (not_or.mp fresh).1)))

theorem isSome_indexById_iff {items : List LibraryItem} {id : String}
    : ((indexById items).get? id).isSome = true
      ↔ ∃ item ∈ items, item.id ≠ "" ∧ item.id = id := by
  refine (foldl_gathers (fun byId : ItemsById => (byId.get? id).isSome = true)
    (fun item : LibraryItem => item.id = id) (fun _ _ => isSome_set_iff) _ ∅).trans ?_
  simp only [Dict.get?_empty, Option.isSome_none, Bool.false_eq_true, false_or, List.mem_filter,
    decide_eq_true_iff, and_assoc]

theorem mem_of_indexById {items : List LibraryItem} {id : String}
    (found : (indexById items).get? id = some item)
    : item ∈ items := by
  refine List.foldlRecOn (motive := fun byId : ItemsById =>
    ∀ id item, byId.get? id = some item → item ∈ items) _ _ ?_ ?_ id item found
  · intro id item absent
    cases absent
  · intro byId kept other member id item found
    rw [Dict.get?_set] at found
    split at found
    · cases found
      exact (List.mem_filter.mp member).1
    · exact kept id item found

theorem reflects_indexById {items : List LibraryItem}
    (listed
      : ∀ item,
          item ∈ items
          ↔ ∃ id ∈ library.ids,
              (stored id).Listed includeResume
              ∧ library.ownItem includeResume stored id = item)
    : Reflects library rules includeResume stored keys (indexById items) where
  under := indexById_underIds items
  data id item found := by
    have same := indexById_underIds items id item found
    obtain ⟨_, -, -, rfl⟩ := (listed item).mp (mem_of_indexById found)
    cases same
    exact ⟨rfl, .inl rfl⟩
  listed id member there :=
    isSome_indexById_iff.mpr
      ⟨_, (listed _).mpr ⟨id, member, there, rfl⟩, library.named id member, rfl⟩

theorem Reflects.foldl (reflects : Reflects library rules includeResume stored keys byId)
    (add : ItemsById → LibraryItem → ItemsById) {found : List LibraryItem}
    (adds
      : ∀ {byId item},
          Reflects library rules includeResume stored keys byId
          → item.userData = library.shown (stored item.id)
          → (item.id ≠ "" → library.LooksUp rules keys item.id item.details)
          → Reflects library rules includeResume stored keys (add byId item))
    (looked
      : ∀ item ∈ found, item.id ≠ "" → library.LooksUp rules keys item.id item.details)
    : Reflects library rules includeResume stored keys
        ((found.map (retold (library.dataOf stored))).foldl add byId) := by
  refine List.foldlRecOn _ add reflects (fun byId kept item member => ?_)
  obtain ⟨other, inside, rfl⟩ := List.mem_map.mp member
  exact adds kept rfl (looked other inside)

theorem exists_mem_retold {data : String → UserData} {found : List LibraryItem} {id : String}
    : (∃ item ∈ found.map (retold data), item.id ≠ "" ∧ item.id = id)
      ↔ id ≠ "" ∧ ∃ details, Lists (some found) id details := by
  simp only [List.mem_map, Lists, Option.some.injEq, exists_eq_left']
  constructor
  · rintro ⟨_, ⟨item, member, rfl⟩, named, rfl⟩
    exact ⟨named, item.details, item, member, rfl, rfl⟩
  · rintro ⟨named, _, item, member, rfl, rfl⟩
    exact ⟨_, ⟨item, member, rfl⟩, named, rfl⟩

theorem isSome_foldl_iff (add : ItemsById → LibraryItem → ItemsById) {id : String}
    (adds
      : ∀ byId item,
          ((add byId item).get? id).isSome = true
          ↔ (byId.get? id).isSome = true ∨ item.id ≠ "" ∧ item.id = id)
    {data : String → UserData} {found : List LibraryItem}
    : (((found.map (retold data)).foldl add byId).get? id).isSome = true
      ↔ (byId.get? id).isSome = true ∨ id ≠ "" ∧ ∃ details, Lists (some found) id details :=
  (foldl_gathers (fun byId : ItemsById => (byId.get? id).isSome = true) _ adds _ byId).trans
    (or_congr_right exists_mem_retold)

/-- The lookups by names add what they list, by induction on the keys. -/
theorem Reflects.exists_addItems (reflects : Reflects library rules includeResume stored keys byId)
    {fallbackKeys : List String}
    (within : ∀ key ∈ fallbackKeys, key ∈ keys ∧ isProviderKey key = false)
    : ∃ result,
        addItemsMatchingFallbackKeys rules (library.api stored) byId fallbackKeys = some result
        ∧ Reflects library rules includeResume stored keys result
        ∧ ∀ id,
            (result.get? id).isSome = true
            ↔ (byId.get? id).isSome = true
              ∨ ∃ key ∈ fallbackKeys,
                  id ≠ ""
                  ∧ ∃ details,
                      Lists (fetchItemsByFallbackKey rules (library.api unwatched) key) id
                        details := by
  unfold addItemsMatchingFallbackKeys
  induction fallbackKeys generalizing byId with
  | nil => exact ⟨byId, rfl, reflects, fun id => by simp⟩
  | cons key rest ih =>
      obtain ⟨found, answer⟩ := exists_fetchByFallbackKey rules library unwatched key
      obtain ⟨inKeys, byName⟩ := within key List.mem_cons_self
      have told : fetchItemsByFallbackKey rules (library.api stored) key = _ :=
        (library.retells stored unwatched).fetchByFallbackKey key
      rw [answer, Option.map_some] at told
      have looked
          : ∀ item ∈ found, item.id ≠ "" → library.LooksUp rules keys item.id item.details :=
        fun item member named =>
          ⟨named, .inr ⟨key, inKeys, byName, found, answer, item, member, rfl, rfl⟩⟩
      obtain ⟨result, added, reflects_, isSome⟩ :=
        ih (reflects.foldl addNewItem Reflects.addNew looked)
          (fun other member => within other (List.mem_cons_of_mem _ member))
      refine ⟨result, ?_, reflects_, fun id => ?_⟩
      · rw [List.foldlM_cons, told, Option.map_some, Option.bind_eq_bind, Option.bind_some]
        exact added
      · rw [isSome id, isSome_foldl_iff addNewItem (fun _ _ => isSome_addNew_iff), or_assoc]
        simp only [List.mem_cons, exists_eq_or_imp, answer]

theorem exists_providedItems (rules : Alphabet) (library : UserLibrary) (stored : Stored)
    (keys : List String)
    : ∃ found,
        providedItems (library.server unwatched rules) keys = some found
        ∧ providedItems (library.server stored rules) keys
          = some (found.map (retold (library.dataOf stored))) := by
  unfold providedItems
  split
  · exact ⟨[], rfl, rfl⟩
  · obtain ⟨found, answer⟩ := exists_fetchByProviderIds rules library unwatched keys
    have told : fetchEmbyItemsByProviderIds rules (library.api stored) keys true = _ :=
      (library.retells stored unwatched).fetchByProviderIds keys
    rw [answer] at told
    exact ⟨found, answer, told⟩

/-- What is read of a library reflects what is stored and has the items that are listed or looked
up.
-/
theorem exists_readTargetItems (library : UserLibrary) (rules : Alphabet) (includeResume : Bool)
    (stored : Stored) (keys : List String)
    : ∃ byId,
        readTargetItems rules includeResume (library.server stored rules) keys = some byId
        ∧ Reflects library rules includeResume stored keys byId
        ∧ ∀ id,
            (byId.get? id).isSome = true
            ↔ id ∈ library.ids ∧ (stored id).Listed includeResume
              ∨ ∃ details, library.LooksUp rules keys id details := by
  obtain ⟨current, fetched, listed⟩ :=
    exists_fetchEmbyUserItemsForSync library stored includeResume
  have own : Reflects library rules includeResume stored keys (indexById current) :=
    reflects_indexById listed
  obtain ⟨found, answer, told⟩ :=
    exists_providedItems rules library stored (keys.filter isProviderKey)
  have looked
      : ∀ item ∈ found, item.id ≠ "" → library.LooksUp rules keys item.id item.details :=
    fun item member named => ⟨named, .inl ⟨found, answer, item, member, rfl, rfl⟩⟩
  have within : ∀ key ∈ keys.filter (fun key => !isProviderKey key),
      key ∈ keys ∧ isProviderKey key = false := by
    simp
  obtain ⟨byId, added, reflects, isSome⟩ :=
    (own.foldl upsertPreservingUserData Reflects.upsert looked).exists_addItems within
  refine ⟨byId, ?_, reflects, fun id => ?_⟩
  · have fetched
        : (library.server stored rules).fetchUserItemsForSync includeResume = some current :=
      fetched
    rw [readTargetItems, fetched, Option.bind_eq_bind, Option.bind_some, told, Option.bind_some]
    exact added
  · rw [isSome id, isSome_foldl_iff upsertPreservingUserData (fun _ _ => isSome_upsert_iff),
      isSome_indexById_iff, or_assoc]
    refine or_congr ?_ ?_
    · constructor
      · rintro ⟨item, member, -, rfl⟩
        obtain ⟨id, inLibrary, there, rfl⟩ := (listed item).mp member
        exact ⟨inLibrary, there⟩
      · exact fun ⟨member, there⟩ =>
          ⟨_, (listed _).mpr ⟨id, member, there, rfl⟩, library.named id member, rfl⟩
    · simp only [UserLibrary.LooksUp, answer, List.mem_filter, Bool.not_eq_true']
      constructor
      · rintro (⟨named, details, there⟩ | ⟨key, ⟨inKeys, byName⟩, named, details, there⟩)
        · exact ⟨details, named, .inl there⟩
        · exact ⟨details, named, .inr ⟨key, inKeys, byName, there⟩⟩
      · rintro ⟨details, named, there | ⟨key, inKeys, byName, there⟩⟩
        · exact .inl ⟨named, details, there⟩
        · exact .inr ⟨key, ⟨inKeys, byName⟩, named, details, there⟩

end Reads

end OctoHubs.UserItems
