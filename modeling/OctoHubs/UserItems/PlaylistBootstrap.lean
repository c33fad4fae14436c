import OctoHubs.UserItems.PlaylistRemovals

/-! The bootstrap of playlists: the union of all users' playlists is applied to each of them. -/

namespace OctoHubs.UserItems

open OctoHubs.Library
open OctoHubs.UserSync

section Bootstrap

variable (rules : Alphabet)

def mergedName (info : PlaylistInfo) : String :=
  strip
    (if info.name ≠ "" then info.name else if info.sortName ≠ "" then info.sortName else "Playlist")

def addKeysTo (items keys : List ItemKey) : List ItemKey :=
  keys.foldl (fun items key => if key ∈ items then items else items ++ [key]) items

def entryKeys (entries : List PlaylistEntry) : List ItemKey :=
  entries.flatMap (fun entry => itemSyncKeys rules entry.item.details)

/-- Entries without a key are skipped. -/
def addSourcePlaylist (desired : PlaylistsSnapshot) (name : String)
    (entries : List PlaylistEntry)
    : PlaylistsSnapshot :=
  let playlist := (desired.get? (rules.lower name)).getD ⟨name, []⟩
  desired.set (rules.lower name)
    { playlist with items := addKeysTo playlist.items (entryKeys rules entries) }

/-- The union so far with the failures of the reads. -/
structure Union where
  desiredPlaylists : PlaylistsSnapshot
  failures : List String

section Sources

variable {σ : Type} (state : σ)

def mergeSourcePlaylist (service : PlaylistService σ) (union : Union) (info : PlaylistInfo)
    : Union :=
  let name := mergedName info
  if info.id = "" ∨ name = "" then union
  else
    match service.fetchPlaylistItems state info.id with
    | none =>
        { union with failures := union.failures ++ [s!"{service.label}: read '{name}' failed"] }
    | some entries =>
        { union with
          desiredPlaylists := addSourcePlaylist rules union.desiredPlaylists name entries }

def mergeSource (union : Union) (target : Except String (PlaylistService σ)) : Union :=
  match target with
  | .error serverId =>
      { union with failures := union.failures ++ [s!"Server {serverId} not found"] }
  | .ok service =>
      match service.fetchPlaylists state with
      | none =>
          { union with
            failures := union.failures ++ [s!"{service.label}: Playlist fetch error"] }
      | some playlists => playlists.foldl (mergeSourcePlaylist rules state service) union

def mergedPlaylists (targets : List (Except String (PlaylistService σ))) : Union :=
  targets.foldl (mergeSource rules state) ⟨∅, []⟩

/-- The union is applied to every target, unless a read of a source failed. -/
def syncMergePlaylists (targets : List (Except String (PlaylistService σ))) : PayloadResult σ :=
  let union := mergedPlaylists rules state targets
  if union.failures ≠ [] then ⟨state, [], [], union.failures⟩
  else syncUserPlaylistsToPayload rules union.desiredPlaylists targets [] state

/-- A key of an entry in a playlist of that name. -/
def ListedBy (service : PlaylistService σ) (name : PlaylistName) (key : ItemKey)
    (info : PlaylistInfo)
    : Prop :=
  (info.id ≠ "" ∧ mergedName info ≠ "")
  ∧ rules.lower (mergedName info) = name
  ∧ ∃ entries,
      service.fetchPlaylistItems state info.id = some entries
      ∧ ∃ entry ∈ entries, key ∈ itemSyncKeys rules entry.item.details

/-- Some user has an entry of the key in a playlist of that name. -/
def Listed (targets : List (Except String (PlaylistService σ))) (name : PlaylistName)
    (key : ItemKey)
    : Prop :=
  ∃ service,
    .ok service ∈ targets
    ∧ ∃ playlists,
        service.fetchPlaylists state = some playlists
        ∧ ∃ info ∈ playlists, ListedBy rules state service name key info

end Sources

end Bootstrap

def HoldsKey (name : PlaylistName) (key : ItemKey) (desired : PlaylistsSnapshot) : Prop :=
  ∃ playlist, desired.get? name = some playlist ∧ key ∈ playlist.items

section Listing

variable {rules : Alphabet} {σ : Type} {state : σ} {name : PlaylistName} {key : ItemKey}

theorem mem_addKeysTo {items keys : List ItemKey}
    : key ∈ addKeysTo items keys ↔ key ∈ items ∨ key ∈ keys := by
  refine (foldl_gathers (key ∈ ·) (key = ·) (fun items added => ?_) keys items).trans ?_
  · split
    · next there => exact ⟨.inl, fun either => either.elim id (fun same => same ▸ there)⟩
    · rw [List.mem_append, List.mem_singleton]
  · simp only [exists_eq_right']

theorem holdsKey_addSourcePlaylist {desired : PlaylistsSnapshot} {added : String}
    {entries : List PlaylistEntry}
    : HoldsKey name key (addSourcePlaylist rules desired added entries)
      ↔ HoldsKey name key desired
        ∨ rules.lower added = name
          ∧ ∃ entry ∈ entries, key ∈ itemSyncKeys rules entry.item.details := by
  unfold HoldsKey addSourcePlaylist
  dsimp only
  rw [Dict.get?_set]
  by_cases same : name = rules.lower added
  · subst same
    rw [if_pos rfl]
    simp only [Option.some.injEq, exists_eq_left', mem_addKeysTo, entryKeys, List.mem_flatMap,
      true_and]
    cases desired.get? (rules.lower added) with
    | none => simp
    | some playlist => simp
  · rw [if_neg same]
    simp only [Ne.symm same, false_and, or_false]

theorem holdsKey_mergeSourcePlaylist (service : PlaylistService σ) (union : Union)
    (info : PlaylistInfo)
    : HoldsKey name key (mergeSourcePlaylist rules state service union info).desiredPlaylists
      ↔ HoldsKey name key union.desiredPlaylists ∨ ListedBy rules state service name key info := by
  unfold mergeSourcePlaylist ListedBy
  dsimp only
  split
  · next missing =>
      have unnamed : ¬(info.id ≠ "" ∧ mergedName info ≠ "") :=
        fun both => missing.elim both.1 both.2
      simp only [unnamed, false_and, or_false]
  · next named =>
      have both : info.id ≠ "" ∧ mergedName info ≠ "" := not_or.mp named
      cases service.fetchPlaylistItems state info.id with
      | none => simp
      | some entries =>
          refine holdsKey_addSourcePlaylist.trans ?_
          simp only [both, ne_eq, not_false_eq_true, and_self, true_and, Option.some.injEq,
            exists_eq_left']

theorem holdsKey_mergeSource (union : Union) (target : Except String (PlaylistService σ))
    : HoldsKey name key (mergeSource rules state union target).desiredPlaylists
      ↔ HoldsKey name key union.desiredPlaylists
        ∨ ∃ service,
            .ok service = target
            ∧ ∃ playlists,
                service.fetchPlaylists state = some playlists
                ∧ ∃ info ∈ playlists, ListedBy rules state service name key info := by
  unfold mergeSource
  split
  · simp
  · next service =>
      simp only [Except.ok.injEq, exists_eq_left]
      cases service.fetchPlaylists state with
      | none => simp
      | some playlists =>
          refine (foldl_gathers (fun union : Union => HoldsKey name key union.desiredPlaylists)
            (ListedBy rules state service name key)
            (holdsKey_mergeSourcePlaylist service) playlists union).trans ?_
          simp only [Option.some.injEq, exists_eq_left']

theorem holdsKey_mergedPlaylists (targets : List (Except String (PlaylistService σ)))
    : HoldsKey name key (mergedPlaylists rules state targets).desiredPlaylists
      ↔ Listed rules state targets name key := by
  refine (foldl_gathers (fun union : Union => HoldsKey name key union.desiredPlaylists) _
    holdsKey_mergeSource targets ⟨∅, []⟩).trans ?_
  constructor
  · rintro (⟨playlist, found, -⟩ | ⟨_, member, service, rfl, listed⟩)
    · cases found
    · exact ⟨service, member, listed⟩
  · rintro ⟨service, member, listed⟩
    exact .inr ⟨_, member, service, rfl, listed⟩

def NoDeletion (events : List PayloadEvent) : Prop :=
  ∀ serverId playlistId, .deleted serverId playlistId ∉ events

theorem NoDeletion.append {events more : List PayloadEvent} (none_ : NoDeletion events)
    (noMore : NoDeletion more)
    : NoDeletion (events ++ more) :=
  fun serverId playlistId member =>
    (List.mem_append.mp member).elim (none_ serverId playlistId) (noMore serverId playlistId)

theorem applyPlaylist_noDeletion (service : PlaylistService σ) (library : List LibraryItem)
    (run : PayloadRun σ) (entry : PlaylistName × Playlist) (none_ : NoDeletion run.events)
    : NoDeletion (applyPlaylist rules service library run entry).events := by
  unfold applyPlaylist
  dsimp only
  split
  · unfold createMissing
    split
    · exact none_
    · refine none_.append (fun _ _ last => ?_)
      cases List.mem_singleton.mp last
  · split
    · exact none_
    · refine none_.append (fun _ _ last => ?_)
      cases List.mem_singleton.mp last

theorem applyToTarget_noDeletion (service : PlaylistService σ) (desired : PlaylistsSnapshot)
    (state : σ)
    : NoDeletion (applyToTarget rules service desired [] state).events := by
  unfold applyToTarget
  split
  · exact fun _ _ => List.not_mem_nil
  · split
    · exact fun _ _ => List.not_mem_nil
    · exact foldl_preserves (fun run : PayloadRun σ => NoDeletion run.events)
        (fun _ _ => List.not_mem_nil)
        (fun run entry => applyPlaylist_noDeletion service _ run entry)

theorem syncUserPlaylistsToPayload_noDeletion (desired : PlaylistsSnapshot)
    (targets : List (Except String (PlaylistService σ)))
    : NoDeletion (syncUserPlaylistsToPayload rules desired targets [] state).events := by
  refine foldl_preserves (fun result : PayloadResult σ => NoDeletion result.events)
    (fun _ _ => List.not_mem_nil) (fun result target none_ => ?_)
  unfold applyTarget
  split
  · exact none_
  · exact none_.append (applyToTarget_noDeletion _ desired _)

theorem syncMergePlaylists_deletions (targets : List (Except String (PlaylistService σ)))
    : (syncMergePlaylists rules state targets).deletions = [] := by
  refine List.filterMap_eq_nil_iff.mpr (fun event member => ?_)
  cases event with
  | applied => rfl
  | created => rfl
  | deleted serverId playlistId =>
      unfold syncMergePlaylists at member
      dsimp only at member
      split at member
      · cases member
      · exact absurd member (syncUserPlaylistsToPayload_noDeletion _ targets _ _)

theorem exists_madeFor_union {targets : List (Except String (PlaylistService σ))}
    {application : Application}
    (made : application ∈ (syncMergePlaylists rules state targets).applications)
    : ∃ service,
        .ok service ∈ targets
        ∧ application.MadeFor (mergedPlaylists rules state targets).desiredPlaylists service := by
  unfold syncMergePlaylists at made
  dsimp only at made
  split at made
  · cases made
  · exact exists_madeFor made

theorem mem_items_iff_listed {targets : List (Except String (PlaylistService σ))}
    {application : Application}
    (made : application ∈ (syncMergePlaylists rules state targets).applications)
    : key ∈ application.items ↔ Listed rules state targets application.name key := by
  obtain ⟨service, -, ⟨playlist, found, same⟩, -⟩ := exists_madeFor_union made
  rw [← holdsKey_mergedPlaylists, ← same]
  exact ⟨fun member => ⟨playlist, found, member⟩, fun ⟨other, there, member⟩ => by
    rw [found] at there
    cases there
    exact member⟩

end Listing

/-- Whether the bootstrap takes nothing away from anyone. -/
theorem bootstrap_additive_iff (rules : Alphabet) {σ : Type} (state : σ)
    (targets : List (Except String (PlaylistService σ)))
    : (∀ application ∈ (syncMergePlaylists rules state targets).applications,
        ∃ service,
          .ok service ∈ targets
          ∧ application.MadeFor (mergedPlaylists rules state targets).desiredPlaylists service)
      ∧ (((syncMergePlaylists rules state targets).deletions = []
          ∧ ∀ application ∈ (syncMergePlaylists rules state targets).applications,
              application.removedEntries rules = [])
        ↔ ∀ application ∈ (syncMergePlaylists rules state targets).applications,
            ∀ entry ∈ application.existingItems,
              entry.item.id ≠ ""
              → entry.removalId ≠ ""
              → ∃ key,
                  Listed rules state targets application.name key
                  ∧ firstWith rules application.library key = some entry.item.id) := by
  refine ⟨fun _ made => exists_madeFor_union made, ?_⟩
  rw [syncMergePlaylists_deletions, and_iff_right rfl]
  refine forall₂_congr (fun application made => ?_)
  simp only [← mem_items_iff_listed made]
  constructor
  · intro none_ entry existing named removable
    by_contra unlisted
    have removed := (mem_removedEntries existing).mpr ⟨named, removable, unlisted⟩
    rw [none_] at removed
    cases removed
  · intro kept
    refine List.eq_nil_iff_forall_not_mem.mpr (fun entry removed => ?_)
    have existing : entry ∈ application.existingItems :=
      (List.mem_filter.mp (List.mem_filter.mp removed).1).1
    obtain ⟨named, removable, unlisted⟩ := (mem_removedEntries existing).mp removed
    exact unlisted (kept entry existing named removable)

def keylessEntry : PlaylistEntry :=
  ⟨⟨"7", itemOf [("Type", .text "Movie"), ("Name", .text "Clip")], ⟨false, 0, none, none⟩⟩, "1",
    [], ""⟩

/-- A user with one playlist of one film that has no key. -/
def keylessService : PlaylistService Unit :=
  { mixService with fetchPlaylistItems := fun _ _ => some [keylessEntry] }

theorem bootstrap_removes_keyless_entry
    : ∃ application ∈ (syncMergePlaylists plainRules () [.ok keylessService]).applications,
        ∃ entry ∈ application.existingItems, entry ∈ application.removedEntries plainRules := by
  refine ⟨⟨"mix", [], "s1", "p1", [], [keylessEntry]⟩, ?_, keylessEntry,
    List.mem_singleton_self _, ?_⟩
  · exact List.mem_singleton_self _
  · exact (mem_removedEntries (List.mem_singleton_self _)).mpr (by decide)

end OctoHubs.UserItems
