import OctoHubs.Library.Labelled
import OctoHubs.UserItems.PlaystateWrites

/-! A user's library on a server that stores the values it is sent, and what is read of it. -/

namespace OctoHubs.UserItems

open OctoHubs.Library

/-- The lists of a user's items, the ids of those visible to resume, and single items. -/
structure PlaystateReads where
  played : Option (List LibraryItem)
  resumable : Option (List LibraryItem)
  visibleResumeIds : Option (List String)
  detail : String → Option LibraryItem

/-- What the source says replaces what the target says. -/
def mergeUserItemData (target source : UserData) : UserData :=
  { source with
    lastPlayedDate := source.lastPlayedDate.or target.lastPlayedDate
    hideFromResume := source.hideFromResume.or target.hideFromResume }

def annotateHideFromResume (visibleResumeIds : List String) (item : LibraryItem) : LibraryItem :=
  if item.id = "" ∨ item.userData.playbackPositionTicks ≤ 0 then item
  else
    { item with
      userData := { item.userData with hideFromResume := some (item.id ∉ visibleResumeIds) } }

/-- An item with a playback state but without its date is read once more. -/
def attachMissingLastPlayedDate (detail : String → Option LibraryItem) (item : LibraryItem)
    : LibraryItem :=
  let hasPlaystate := item.userData.played || 0 < item.userData.playbackPositionTicks
  if item.id = "" ∨ hasPlaystate = false ∨ dated item.userData.lastPlayedDate then item
  else
    match detail item.id with
    | some payload =>
        if dated payload.userData.lastPlayedDate then
          { item with userData := mergeUserItemData item.userData payload.userData }
        else item
    | none => item

/-- Items to resume are merged into the ones already listed under their ids, or are added. -/
def mergeResumable (items resumable : List LibraryItem) : List LibraryItem :=
  let named := resumable.filter (·.id ≠ "")
  items.map (fun item =>
    (named.filter (·.id = item.id)).foldl
      (fun item other => { item with userData := mergeUserItemData item.userData other.userData })
      item)
  ++ named.filter (fun other => items.all (·.id ≠ other.id))

/-- A failure to read the items to resume, or which of them are visible, is passed over. -/
def fetchEmbyUserItemsForSync (reads : PlaystateReads) (includeResume : Bool)
    : Option (List LibraryItem) :=
  reads.played.map (fun played =>
    let items := played.map (attachMissingLastPlayedDate reads.detail)
    match includeResume, reads.resumable with
    | true, some resumable =>
        let annotated :=
          match reads.visibleResumeIds with
          | some visibleResumeIds => resumable.map (annotateHideFromResume visibleResumeIds)
          | none => resumable
        mergeResumable items (annotated.map (attachMissingLastPlayedDate reads.detail))
    | _, _ => items)

/-- How a date is written for a server: fourteen digits, down to the second. -/
structure DateFormat where
  isdigit : String → Bool
  strftime : Timestamp → String

/-- The date that is sent with a mark as played; an unreadable one is left out. -/
def formatEmbyDatePlayed (calendar : Calendar) (format : DateFormat) (date : Option String)
    : Option String :=
  if dated date then
    let text := strip (date.getD "")
    if text = "" then none
    else if format.isdigit text ∧ text.length = 14 then some text
    else (calendar.fromisoformat (normalizedDate text)).map format.strftime
  else none

/-- What is stored of a user and an item. -/
structure StoredPlaystate where
  played : Bool
  position : Int
  lastPlayed : Option String
  hidden : Bool
deriving DecidableEq

abbrev Stored := String → StoredPlaystate

/-- The items of a user, and what searches list, whatever the user has played. -/
structure UserLibrary where
  ids : List String
  named : ∀ id ∈ ids, id ≠ ""
  details : String → Item
  items : ItemQuery → List (String × Item)
  episodes : String → String → List (String × Item)
  /-- Whether replies show the flag that hides an item from those to resume. -/
  showsHidden : Bool
  /-- The text that shows a date which was sent as digits. -/
  shownDate : String → String

namespace UserLibrary

variable (library : UserLibrary) (stored : Stored)

def shown (state : StoredPlaystate) : UserData where
  played := state.played
  playbackPositionTicks := state.position
  lastPlayedDate := state.lastPlayed
  hideFromResume := if library.showsHidden then some state.hidden else none

def reply (entry : String × Item) : LibraryItem :=
  ⟨entry.1, entry.2, library.shown (stored entry.1)⟩

/-- The items in a state that a filter keeps. -/
def listOf (keeps : StoredPlaystate → Bool) : List LibraryItem :=
  (library.ids.filter (fun id => keeps (stored id))).map (fun id =>
    library.reply stored (id, library.details id))

def reads : PlaystateReads where
  played := some (library.listOf stored (·.played))
  resumable := some (library.listOf stored (fun state => 0 < state.position))
  visibleResumeIds :=
    some ((library.listOf stored (fun state => 0 < state.position && !state.hidden)).map (·.id))
  detail id := some (library.reply stored (id, library.details id))

def api : Api where
  items query :=
    some (((library.items query).map (library.reply stored)).filter (fun item =>
      !query.unplayedOnly || !item.userData.played))
  episodes id season := some ((library.episodes id season).map (library.reply stored))

/-- The reads that a synchronisation is handed, over the library. -/
def server (rules : Alphabet) : TargetServer where
  fetchUserItemsForSync := fetchEmbyUserItemsForSync (library.reads stored)
  fetchItemsByProviderIds := fetchEmbyItemsByProviderIds rules (library.api stored)
  fetchItemsBySafeFallback := fetchEmbyItemsBySafeFallback rules (library.api stored)
  api := library.api stored

section Writing

variable (calendar : Calendar) (format : DateFormat)

/-- What a request sends is stored and the rest is left as it is. -/
def apply (state : StoredPlaystate) : Write → StoredPlaystate
  | .played date =>
      { state with
        played := true
        lastPlayed :=
          match formatEmbyDatePlayed calendar format date with
          | some sent => some (library.shownDate sent)
          | none => state.lastPlayed }
  | .unplayed => { state with played := false }
  | .resume position date preservePlayed =>
      { state with
        played := preservePlayed || state.played
        position := position
        lastPlayed := if dated date then date else state.lastPlayed }
  | .hideFromResume hide => { state with hidden := hide }

def applyWrites (writes : List (String × Write)) : Stored :=
  writes.foldl (fun stored (id, write) =>
    Function.update stored id (library.apply calendar format (stored id) write)) stored

end Writing

end UserLibrary

end OctoHubs.UserItems
