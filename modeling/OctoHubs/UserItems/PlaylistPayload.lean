import OctoHubs.UserItems.Playstates
import OctoHubs.UserSync.Snapshots

/-! Applying resolved playlists to the playlists of users. -/

namespace OctoHubs.UserItems

open OctoHubs.Library
open OctoHubs.UserSync

/-- A playlist as a server lists it. What is missing is empty. -/
structure PlaylistInfo where
  id : String
  name : String
  sortName : String
deriving DecidableEq

/-- An item in a playlist, with what may name its place there. -/
structure PlaylistEntry where
  item : LibraryItem
  playlistItemId : String
  playlistItemIds : List String
  entryId : String

def PlaylistEntry.removalId (entry : PlaylistEntry) : String :=
  if entry.playlistItemId ≠ "" then entry.playlistItemId
  else entry.playlistItemIds.head?.getD entry.entryId

/-- The requests about one user's playlists, on servers whose state is `σ`. A created playlist
may be returned without an id.
-/
structure PlaylistService (σ : Type) where
  serverId : String
  label : String
  fetchPlaylists : σ → Option (List PlaylistInfo)
  fetchPlaylistItems : σ → String → Option (List PlaylistEntry)
  fetchItemsByProviderIds : σ → List String → Bool → Option (List LibraryItem)
  createPlaylist : σ → String → List String → σ × Option String
  addPlaylistItems : σ → String → List String → σ × Bool
  removePlaylistEntries : σ → String → List String → σ × Bool
  deletePlaylist : σ → String → σ × Bool

section Payload

variable (rules : Alphabet)

def normalizedName (name : String) : String := rules.lower (strip name)

/-- The ids of playlists under their names; a later playlist of one name wins. -/
def playlistsByName (playlists : List PlaylistInfo) : Dict String String :=
  (playlists.filter (·.name ≠ "")).foldl
    (fun byName info => byName.set (normalizedName rules info.name) info.id) ∅

def desiredKeys (desiredPlaylists : PlaylistsSnapshot) : List ItemKey :=
  (desiredPlaylists.values.flatMap Playlist.items).eraseDups

def keyMapOf (items : List LibraryItem) : Dict ItemKey String :=
  (items.filter (·.id ≠ "")).foldl
    (fun keyMap item =>
      (itemSyncKeys rules item.details).foldl (fun keyMap key => keyMap.setDefault key item.id)
        keyMap)
    ∅

/-- What the lookup of the desired keys answers; without keys nothing is asked. -/
def lookedUp {σ : Type} (service : PlaylistService σ) (state : σ) (keys : List ItemKey)
    : Option (List LibraryItem) :=
  if keys = [] then some [] else service.fetchItemsByProviderIds state keys true

/-- A desired playlist with what the target's library and its playlist of the name hold. -/
structure Application where
  name : PlaylistName
  items : List ItemKey
  serverId : String
  playlistId : String
  library : List LibraryItem
  existingItems : List PlaylistEntry

def orderedIdsOf (library : List LibraryItem) (items : List ItemKey) : List String :=
  (items.filterMap (keyMapOf rules library).get?).eraseDups

namespace Application

variable (application : Application)

def orderedIds : List String := orderedIdsOf rules application.library application.items

def idsToAdd : List String :=
  (application.orderedIds rules).filter (fun id =>
    id ∉ application.existingItems.map (·.item.id))

def extraEntries : List PlaylistEntry :=
  application.existingItems.filter (fun entry =>
    entry.item.id ≠ "" && entry.item.id ∉ application.orderedIds rules)

def removedEntries : List PlaylistEntry :=
  (application.extraEntries rules).filter (fun entry => entry.removalId ≠ "")

end Application

/-- What is done to a playlist. A new one holds nothing before. -/
inductive PayloadEvent
  | applied (application : Application)
  | created (application : Application)
  | deleted (serverId playlistId : String)

/-- A target while its playlists are applied. -/
structure PayloadRun (σ : Type) where
  state : σ
  targetByName : Dict String String
  events : List PayloadEvent
  failed : List String

section Steps

variable {σ : Type} (service : PlaylistService σ)

/-- A request that is not sent when it asks for nothing. -/
def sendIfAny (send : σ → List String → σ × Bool) (state : σ) (ids : List String) : σ × Bool :=
  if ids = [] then (state, true) else send state ids

def createMissing (library : List LibraryItem) (run : PayloadRun σ) (playlistName : String)
    (entry : PlaylistName × Playlist)
    : PayloadRun σ :=
  match
    service.createPlaylist run.state playlistName (orderedIdsOf rules library entry.2.items)
  with
  | (state, none) =>
      { run with
        state
        failed := run.failed ++ [s!"{service.label}: create '{playlistName}' failed"] }
  | (state, some created) =>
      { run with
        state
        targetByName :=
          if created ≠ "" then run.targetByName.set (normalizedName rules playlistName) created
          else run.targetByName
        events :=
          run.events
          ++ [.created ⟨entry.1, entry.2.items, service.serverId, created, library, []⟩] }

/-- Add what is missing from an existing playlist and remove what is not wanted. -/
def updateExisting (run : PayloadRun σ) (playlistName : String) (application : Application)
    : PayloadRun σ :=
  let (added, addOk) :=
    sendIfAny (fun state => service.addPlaylistItems state application.playlistId) run.state
      (application.idsToAdd rules)
  let (state, removeOk) :=
    sendIfAny (fun state => service.removePlaylistEntries state application.playlistId) added
      ((application.removedEntries rules).map PlaylistEntry.removalId)
  let notRemovable :=
    if removeOk then
      (application.extraEntries rules).length - (application.removedEntries rules).length
    else (application.extraEntries rules).length
  { run with
    state
    events := run.events ++ [.applied application]
    failed :=
      run.failed
      ++ (if addOk then [] else [s!"{service.label}: update '{playlistName}' failed"])
      ++ if notRemovable = 0 then []
        else
          [ s!"{service.label}: remove '{playlistName}' incomplete ({notRemovable} item(s))" ] }

/-- A playlist without a name is called by its key. -/
def playlistNameOf (entry : PlaylistName × Playlist) : String :=
  if entry.2.name ≠ "" then entry.2.name else entry.1

def applyPlaylist (library : List LibraryItem) (run : PayloadRun σ)
    (entry : PlaylistName × Playlist)
    : PayloadRun σ :=
  let playlistName := playlistNameOf entry
  let playlistId := (run.targetByName.get? (normalizedName rules playlistName)).getD ""
  if playlistId = "" then createMissing rules service library run playlistName entry
  else
    match service.fetchPlaylistItems run.state playlistId with
    | none =>
        { run with failed := run.failed ++ [s!"{service.label}: read '{playlistName}' failed"] }
    | some existingItems =>
        updateExisting rules service run playlistName
          ⟨entry.1, entry.2.items, service.serverId, playlistId, library, existingItems⟩

def deleteNamed (run : PayloadRun σ) (deletedName : String) : PayloadRun σ :=
  let playlistId := (run.targetByName.get? deletedName).getD ""
  if playlistId = "" then run
  else
    let events := run.events ++ [.deleted service.serverId playlistId]
    match service.deletePlaylist run.state playlistId with
    | (state, true) =>
        { run with state, targetByName := run.targetByName.erase deletedName, events }
    | (state, false) =>
        { run with
          state
          events
          failed := run.failed ++ [s!"{service.label}: delete '{deletedName}' failed"] }

/-- The names to delete, without spaces around them and in order. -/
def namesToDelete (deletedPlaylistNames : List String) : List String :=
  sorted ((deletedPlaylistNames.map (normalizedName rules)).filter (· ≠ ""))

def failedRun (state : σ) (failure : String) : PayloadRun σ := ⟨state, ∅, [], [failure]⟩

/-- One target: its lookups, then the deletions, then the desired playlists. -/
def applyToTarget (desiredPlaylists : PlaylistsSnapshot) (deletedPlaylistNames : List String)
    (state : σ)
    : PayloadRun σ :=
  match lookedUp service state (desiredKeys desiredPlaylists) with
  | none => failedRun state s!"{service.label}: Fetch error"
  | some library =>
      match service.fetchPlaylists state with
      | none => failedRun state s!"{service.label}: Playlist fetch error"
      | some playlists =>
          let start : PayloadRun σ := ⟨state, playlistsByName rules playlists, [], []⟩
          desiredPlaylists.items.foldl (applyPlaylist rules service library)
            ((namesToDelete rules deletedPlaylistNames).foldl (deleteNamed service) start)

end Steps

section Targets

variable {σ : Type}

/-- What a run did to the targets and what it reports. -/
structure PayloadResult (σ : Type) where
  state : σ
  events : List PayloadEvent
  success : List String
  failed : List String

namespace PayloadResult

def applications (result : PayloadResult σ) : List Application :=
  result.events.filterMap (fun
    | .applied application => some application
    | _ => none)

def deletions (result : PayloadResult σ) : List (String × String) :=
  result.events.filterMap (fun
    | .deleted serverId playlistId => some (serverId, playlistId)
    | _ => none)

theorem mem_applications {result : PayloadResult σ} {application : Application}
    : application ∈ result.applications ↔ .applied application ∈ result.events := by
  rw [applications, List.mem_filterMap]
  constructor
  · rintro ⟨event, member, same⟩
    split at same
    · cases same
      exact member
    · cases same
  · exact fun member => ⟨_, member, rfl⟩

end PayloadResult

/-- A target whose server is unknown has only its id in the report. -/
def applyTarget (desiredPlaylists : PlaylistsSnapshot) (deletedPlaylistNames : List String)
    (result : PayloadResult σ) (target : Except String (PlaylistService σ))
    : PayloadResult σ :=
  match target with
  | .error serverId =>
      { result with failed := result.failed ++ [s!"Server {serverId} not found"] }
  | .ok service =>
      let run := applyToTarget rules service desiredPlaylists deletedPlaylistNames result.state
      { state := run.state
        events := result.events ++ run.events
        success := if run.failed = [] then result.success ++ [service.label] else result.success
        failed := result.failed ++ run.failed }

def syncUserPlaylistsToPayload (desiredPlaylists : PlaylistsSnapshot)
    (targets : List (Except String (PlaylistService σ))) (deletedPlaylistNames : List String)
    (state : σ)
    : PayloadResult σ :=
  targets.foldl (applyTarget rules desiredPlaylists deletedPlaylistNames) ⟨state, [], [], []⟩

end Targets

end Payload

end OctoHubs.UserItems
