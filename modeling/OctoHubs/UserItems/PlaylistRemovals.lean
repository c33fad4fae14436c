import OctoHubs.Library.Labelled
import OctoHubs.UserItems.PlaylistPayload

/-! Which entries an applied playlist loses: those that no desired key leads to. -/

namespace OctoHubs.UserItems

open OctoHubs.Library
open OctoHubs.UserSync

section Removals

variable {rules : Alphabet}

variable (rules) in
def firstWith (library : List LibraryItem) (key : ItemKey) : Option String :=
  ((library.filter (·.id ≠ "")).find? (fun item => key ∈ itemSyncKeys rules item.details)).map
    LibraryItem.id

theorem get?_setDefault {ν : Type} (dict : Dict ItemKey ν) (key other : ItemKey) (value : ν)
    : (dict.setDefault key value).get? other
      = (dict.get? other).or (if other = key then some value else none) := by
  unfold Dict.setDefault
  cases found : dict.get? key with
  | some old =>
      rw [Option.isSome_some, if_pos rfl]
      by_cases same : other = key
      · subst same
        rw [found, Option.some_or]
      · rw [if_neg same, Option.or_none]
  | none =>
      rw [Option.isSome_none, if_neg Bool.false_ne_true, Dict.get?_set]
      by_cases same : other = key
      · subst same
        rw [if_pos rfl, if_pos rfl, found, Option.none_or]
      · rw [if_neg same, if_neg same, Option.or_none]

theorem get?_foldl_setDefault (keys : List ItemKey) (id : String) (dict : Dict ItemKey String)
    (key : ItemKey)
    : (keys.foldl (fun keyMap key => keyMap.setDefault key id) dict).get? key
      = (dict.get? key).or (if key ∈ keys then some id else none) := by
  induction keys generalizing dict with
  | nil => rw [if_neg List.not_mem_nil, Option.or_none]; rfl
  | cons first keys ih =>
      rw [List.foldl_cons, ih, get?_setDefault, Option.or_assoc]
      congr 1
      by_cases same : key = first
      · subst same
        rw [if_pos rfl, if_pos List.mem_cons_self, Option.some_or]
      · rw [if_neg same, Option.none_or]
        simp only [List.mem_cons, same, false_or]

/-- A key leads to the first item that has it, by induction on the items. -/
theorem get?_keyMapOf (library : List LibraryItem) (key : ItemKey)
    : (keyMapOf rules library).get? key = firstWith rules library key := by
  unfold keyMapOf firstWith
  suffices added : ∀ (items : List LibraryItem) (dict : Dict ItemKey String),
      (items.foldl
          (fun keyMap item =>
            (itemSyncKeys rules item.details).foldl
              (fun keyMap key => keyMap.setDefault key item.id) keyMap)
          dict).get? key
        = (dict.get? key).or
            ((items.find? (fun item => key ∈ itemSyncKeys rules item.details)).map
              LibraryItem.id) from
    (added _ ∅).trans (Option.none_or)
  intro items dict
  induction items generalizing dict with
  | nil => exact Option.or_none.symm
  | cons item rest ih =>
      rw [List.foldl_cons, ih, get?_foldl_setDefault, Option.or_assoc, List.find?_cons]
      by_cases has : key ∈ itemSyncKeys rules item.details
      · rw [if_pos has, decide_eq_true has]
        rfl
      · rw [if_neg has, decide_eq_false has, Option.none_or]

theorem mem_orderedIdsOf {library : List LibraryItem} {items : List ItemKey} {id : String}
    : id ∈ orderedIdsOf rules library items
      ↔ ∃ key ∈ items, firstWith rules library key = some id := by
  rw [orderedIdsOf, List.mem_eraseDups, List.mem_filterMap]
  simp only [get?_keyMapOf]

/-- An entry that can be removed is, unless a desired key leads to its item. -/
theorem mem_removedEntries {application : Application} {entry : PlaylistEntry}
    (existing : entry ∈ application.existingItems)
    : entry ∈ application.removedEntries rules
      ↔ entry.item.id ≠ "" ∧ entry.removalId ≠ ""
        ∧ ¬∃ key ∈ application.items,
            firstWith rules application.library key = some entry.item.id := by
  rw [Application.removedEntries, Application.extraEntries, List.mem_filter, List.mem_filter,
    ← mem_orderedIdsOf]
  simp only [existing, true_and, Application.orderedIds, ne_eq, decide_not, Bool.and_eq_true,
    Bool.not_eq_true', decide_eq_false_iff_not]
  exact ⟨fun both => ⟨both.1.1, both.2, of_decide_eq_true both.1.2⟩,
    fun all => ⟨⟨all.1, decide_eq_true all.2.2⟩, all.2.1⟩⟩

theorem not_mem_removedEntries_iff {application : Application} {entry : PlaylistEntry}
    (existing : entry ∈ application.existingItems)
    : entry ∉ application.removedEntries rules
      ↔ entry.item.id = ""
        ∨ entry.removalId = ""
        ∨ ∃ key ∈ application.items,
            firstWith rules application.library key = some entry.item.id := by
  rw [mem_removedEntries existing, not_and_or, not_and_or, not_not, not_not, not_not]

section Runs

variable {σ : Type}

/-- A desired playlist applied to what a target's lookup and its playlist answered. -/
def Application.MadeFor (desiredPlaylists : PlaylistsSnapshot) (service : PlaylistService σ)
    (application : Application)
    : Prop :=
  (∃ playlist,
    desiredPlaylists.get? application.name = some playlist
    ∧ playlist.items = application.items)
  ∧ (∃ state, lookedUp service state (desiredKeys desiredPlaylists) = some application.library)
  ∧ ∃ state,
      service.fetchPlaylistItems state application.playlistId = some application.existingItems

theorem mem_createMissing_events {service : PlaylistService σ} {library : List LibraryItem}
    {run : PayloadRun σ} {playlistName : String} {entry : PlaylistName × Playlist}
    {application : Application}
    (made
      : .applied application
        ∈ (createMissing rules service library run playlistName entry).events)
    : .applied application ∈ run.events := by
  unfold createMissing at made
  split at made
  · exact made
  · exact (List.mem_append.mp made).resolve_right (fun last => nomatch List.mem_singleton.mp last)

theorem mem_deleteNamed_events {service : PlaylistService σ} {run : PayloadRun σ}
    {deletedName : String} {application : Application}
    (made : .applied application ∈ (deleteNamed service run deletedName).events)
    : .applied application ∈ run.events := by
  unfold deleteNamed at made
  dsimp only at made
  split at made
  · exact made
  · have added
        : .applied application
          ∈ run.events
            ++ [.deleted service.serverId ((run.targetByName.get? deletedName).getD "")] := by
      split at made <;> exact made
    rcases List.mem_append.mp added with there | last
    · exact there
    · cases List.mem_singleton.mp last

theorem mem_applyPlaylist_events {desiredPlaylists : PlaylistsSnapshot}
    {service : PlaylistService σ} {library : List LibraryItem} {state : σ}
    (lookup : lookedUp service state (desiredKeys desiredPlaylists) = some library)
    (run : PayloadRun σ) {entry : PlaylistName × Playlist}
    (member : entry ∈ desiredPlaylists.items) {application : Application}
    (made : .applied application ∈ (applyPlaylist rules service library run entry).events)
    : .applied application ∈ run.events ∨ application.MadeFor desiredPlaylists service := by
  unfold applyPlaylist at made
  dsimp only at made
  split at made
  · exact .inl (mem_createMissing_events made)
  · split at made
    · exact .inl made
    · next existingItems fetched =>
        rcases List.mem_append.mp made with earlier | made
        · exact .inl earlier
        · cases List.mem_singleton.mp made
          exact .inr ⟨⟨entry.2, Dict.mem_items_iff.mp member, rfl⟩, ⟨state, lookup⟩,
            ⟨run.state, fetched⟩⟩

theorem madeFor_of_mem_target {desiredPlaylists : PlaylistsSnapshot}
    {service : PlaylistService σ} {deletedPlaylistNames : List String} {state : σ}
    {application : Application}
    (made
      : .applied application
        ∈ (applyToTarget rules service desiredPlaylists deletedPlaylistNames state).events)
    : application.MadeFor desiredPlaylists service := by
  unfold applyToTarget at made
  split at made
  · cases made
  · next library lookup =>
      split at made
      · cases made
      · next playlists fetched =>
          revert made
          refine List.foldlRecOn desiredPlaylists.items
            (motive := fun run => .applied application ∈ run.events
              → application.MadeFor desiredPlaylists service)
            (applyPlaylist rules service library) ?_ (fun run kept entry member made => ?_)
          · refine foldl_preserves (fun run : PayloadRun σ => .applied application ∈ run.events
              → application.MadeFor desiredPlaylists service) ?_ (fun run name kept made => ?_)
            · exact fun made => (List.not_mem_nil made).elim
            · exact kept (mem_deleteNamed_events made)
          · exact (mem_applyPlaylist_events lookup run member made).elim kept id

theorem exists_madeFor {desiredPlaylists : PlaylistsSnapshot}
    {targets : List (Except String (PlaylistService σ))} {deletedPlaylistNames : List String}
    {state : σ} {application : Application}
    (made
      : application
        ∈ (syncUserPlaylistsToPayload rules desiredPlaylists targets deletedPlaylistNames
            state).applications)
    : ∃ service, .ok service ∈ targets ∧ application.MadeFor desiredPlaylists service := by
  rw [PayloadResult.mem_applications] at made
  revert made
  refine List.foldlRecOn targets
    (motive := fun result => .applied application ∈ result.events
      → ∃ service, .ok service ∈ targets ∧ application.MadeFor desiredPlaylists service)
    (applyTarget rules desiredPlaylists deletedPlaylistNames)
    ?_ (fun result kept target member made => ?_)
  · exact fun made => (List.not_mem_nil made).elim
  · unfold applyTarget at made
    split at made
    · exact kept made
    · next service =>
        rcases List.mem_append.mp made with earlier | made
        · exact kept earlier
        · exact ⟨service, member, madeFor_of_mem_target made⟩

end Runs

end Removals

def datedClip : LibraryItem where
  id := "7"
  details :=
    itemOf
      [ ("Type", .text "Movie"),
        ("Name", .text "clip"),
        ("ProductionYear", .int 2020),
        ("RunTimeTicks", .int 600) ]
  userData := ⟨false, 0, none, none⟩

def clipEntry : PlaylistEntry := ⟨datedClip, "1", [], ""⟩

/-- A user with one playlist of one film, which the provider lookup does not find. -/
def mixService : PlaylistService Unit where
  serverId := "s1"
  label := "Home"
  fetchPlaylists _ := some [⟨"p1", "mix", ""⟩]
  fetchPlaylistItems _ _ := some [clipEntry]
  fetchItemsByProviderIds _ _ _ := some []
  createPlaylist state _ _ := (state, some "p2")
  addPlaylistItems state _ _ := (state, true)
  removePlaylistEntries state _ _ := (state, true)
  deletePlaylist state _ := (state, true)

def mixPlaylists : PlaylistsSnapshot :=
  (∅ : PlaylistsSnapshot).set "mix" ⟨"mix", ["fallback-movie:clip|y2020"]⟩

def mixApplication : Application :=
  ⟨"mix", ["fallback-movie:clip|y2020"], "s1", "p1", [], [clipEntry]⟩

theorem mixApplication_mem
    : mixApplication
      ∈ (syncUserPlaylistsToPayload plainRules mixPlaylists [.ok mixService] [] ()).applications :=
  List.mem_singleton_self _

end OctoHubs.UserItems
