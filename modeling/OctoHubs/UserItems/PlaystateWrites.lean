import OctoHubs.UserItems.ItemLookup
import OctoHubs.UserSync.Snapshots

/-! Making the playback states of users those of one user, or those of a resolved state. -/

namespace OctoHubs.UserItems

open OctoHubs.Library
open OctoHubs.UserSync

/-- The reads of one user's library that are handed to a synchronisation. -/
structure TargetServer where
  fetchUserItemsForSync : Bool → Option (List LibraryItem)
  fetchItemsByProviderIds : List String → Bool → Option (List LibraryItem)
  fetchItemsBySafeFallback : Item → Option (List LibraryItem)
  api : Api

/-- A request that changes what a server keeps of an item. -/
inductive Write
  | played (date : Option String)
  | unplayed
  | resume (position : Int) (date : Option String) (preservePlayed : Bool)
  | hideFromResume (hide : Bool)
deriving DecidableEq

abbrev ItemsById := Dict String LibraryItem

def playstateStateFromUserData (userData : UserData) : PlayState where
  played := userData.played
  lastPlayed := userData.lastPlayedDate
  position := userData.playbackPositionTicks
  hideFromResume := userData.hideFromResume

/-- The items under their ids; items without one are dropped. -/
def indexById (items : List LibraryItem) : ItemsById :=
  (items.filter (·.id ≠ "")).foldl (fun byId item => byId.set item.id item) ∅

/-- What a new reply does not say is taken from the earlier one. -/
def preservingUserData (existing current : UserData) : UserData :=
  { current with
    lastPlayedDate :=
      if dated current.lastPlayedDate then current.lastPlayedDate else existing.lastPlayedDate
    hideFromResume := current.hideFromResume.or existing.hideFromResume }

def upsertPreservingUserData (byId : ItemsById) (item : LibraryItem) : ItemsById :=
  if item.id = "" then byId
  else
    match byId.get? item.id with
    | some existing =>
        byId.set item.id
          { item with userData := preservingUserData existing.userData item.userData }
    | none => byId.set item.id item

def addNewItem (byId : ItemsById) (item : LibraryItem) : ItemsById :=
  if item.id = "" ∨ (byId.get? item.id).isSome then byId else byId.set item.id item

section Sync

variable (calendar : Calendar) (rules : Alphabet) (includeResume : Bool)

def addItemsMatchingFallbackKeys (api : Api) (byId : ItemsById) (fallbackKeys : List String)
    : Option ItemsById :=
  fallbackKeys.foldlM (fun byId key =>
    (fetchItemsByFallbackKey rules api key).map (fun found => found.foldl addNewItem byId)) byId

/-- The items that the provider keys find; without one nothing is asked. -/
def providedItems (server : TargetServer) (providerKeys : List String)
    : Option (List LibraryItem) :=
  if providerKeys = [] then some [] else server.fetchItemsByProviderIds providerKeys true

/-- The current items of a user with those that the keys find, unless a read fails. -/
def readTargetItems (server : TargetServer) (keys : List String) : Option ItemsById := do
  let current ← server.fetchUserItemsForSync includeResume
  let provided ← providedItems server (keys.filter isProviderKey)
  addItemsMatchingFallbackKeys rules server.api
    (provided.foldl upsertPreservingUserData (indexById current))
    (keys.filter (fun key => !isProviderKey key))

/-- The flag is written when it is wanted and not known to be set so. -/
def applyHideFromResume (desired current : Option Bool) : List Write :=
  match desired with
  | none => []
  | some hide => if current = some hide then [] else [.hideFromResume hide]

def unmatchedWrites (item : LibraryItem) : List Write :=
  let userData := item.userData
  let cleared :=
    if userData.played ∧ itemSyncKeys rules item.details ≠ [] then [.unplayed] else []
  let reset :=
    if includeResume then
      (if userData.playbackPositionTicks ≠ 0 then [.resume 0 none false] else [])
      ++ applyHideFromResume (some true) userData.hideFromResume
    else []
  cleared ++ reset

def playedWrites (state : PlayState) (userData : UserData) : List Write :=
  if state.played then
    if userData.played = false
        ∨ lastPlayedDiffers calendar state.lastPlayed userData.lastPlayedDate = true then
      [.played state.lastPlayed]
    else []
  else if userData.played then [.unplayed]
  else []

def resumeWrites (state : PlayState) (userData : UserData) : List Write :=
  let dateChanged := lastPlayedDiffers calendar state.lastPlayed userData.lastPlayedDate
  let shouldWrite :=
    userData.playbackPositionTicks ≠ state.position
    || (if state.played then state.position > 0 && dateChanged else dateChanged)
  let moved :=
    if shouldWrite then [.resume state.position state.lastPlayed state.played] else []
  let hidden :=
    if state.played = false ∨ 0 < state.position ∨ 0 < userData.playbackPositionTicks then
      applyHideFromResume state.hideFromResume userData.hideFromResume
    else []
  moved ++ hidden

def matchedWrites (state : PlayState) (userData : UserData) : List Write :=
  playedWrites calendar state userData
  ++ if includeResume then resumeWrites calendar state userData else []

def itemWrites (state : Option PlayState) (item : LibraryItem) : List Write :=
  match state with
  | none => unmatchedWrites rules includeResume item
  | some state => matchedWrites calendar includeResume state item.userData

/-- The state of the first key that has one, or the one that was found by signature. -/
def matchOf (states : Dict String PlayState) (fallbackStates : Dict String PlayState)
    (item : LibraryItem)
    : Option PlayState :=
  ((itemSyncKeys rules item.details).findSome? states.get?).or (fallbackStates.get? item.id)

/-- What one user's items were found to be and what is sent for them. -/
structure Pass where
  itemsById : ItemsById
  fallbackStateById : Dict String PlayState
  writes : List (String × Write)

def passOf (states fallbackStates : Dict String PlayState) (byId : ItemsById) : Pass where
  itemsById := byId
  fallbackStateById := fallbackStates
  writes :=
    byId.values.flatMap (fun item =>
      (itemWrites calendar rules includeResume (matchOf rules states fallbackStates item) item).map
        (item.id, ·))

/-- A target that is unknown or cannot be read is passed over. -/
def syncUserPlaystateToState (desiredState : Dict String PlayState)
    (targets : List (Option TargetServer))
    : List Pass :=
  targets.filterMap (fun target => do
    let byId ← readTargetItems rules includeResume (← target) desiredState.keys
    return passOf calendar rules includeResume desiredState ∅ byId)

/-- The states of the source's items under their keys, and those of items without a key. -/
def sourceStates (items : List LibraryItem)
    : Dict String PlayState × List (LibraryItem × PlayState) :=
  items.foldl
    (fun (states, keyless) item =>
      let state := playstateStateFromUserData item.userData
      let keys := itemSyncKeys rules item.details
      if keys = [] then
        if itemType item.details ≠ some "Episode"
            ∧ (state.played ∨ includeResume ∧ state.position ≠ 0) then
          (states, keyless ++ [(item, state)])
        else (states, keyless)
      else (keys.foldl (fun states key => states.set key state) states, keyless))
    (∅, [])

def maxPlaystateFallbackLookups : Nat := 50

/-- The target's items that have the signature of an item without a key, with its state. -/
def addSafeFallbacks (server : TargetServer) (byId : ItemsById)
    (keyless : List (LibraryItem × PlayState))
    : Option (ItemsById × Dict String PlayState) :=
  (keyless.take maxPlaystateFallbackLookups).foldlM
    (fun (byId, states) (sourceItem, state) =>
      (server.fetchItemsBySafeFallback sourceItem.details).map (fun found =>
        (found.filter (·.id ≠ "")).foldl
          (fun (byId, states) item => (byId.set item.id item, states.set item.id state))
          (byId, states)))
    (byId, ∅)

def syncUserPlaystateExact (source : Option (List LibraryItem))
    (targets : List (Option TargetServer))
    : List Pass :=
  match source with
  | none => []
  | some items =>
      let (states, keyless) := sourceStates rules includeResume items
      targets.filterMap (fun target => do
        let server ← target
        let byId ← readTargetItems rules includeResume server states.keys
        let (byId, fallbackStates) ← addSafeFallbacks server byId keyless
        return passOf calendar rules includeResume states fallbackStates byId)

end Sync

end OctoHubs.UserItems
