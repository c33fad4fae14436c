import OctoHubs.Library.Selection
import OctoHubs.UserItems.Playstates

/-! The union of the playback states of several users, from which their bootstrap sync starts. -/

namespace OctoHubs.UserItems

open OctoHubs.Library

/-- What is gathered from the items of all sources. -/
structure Aggregate where
  globalPlayedMap : Dict String (Option String)
  globalResumeMap : Dict String ResumeState
  providerKeys : List String
  fallbackKeysNoProvider : List String
  fallbackGlobalPlayedItems : List (LibraryItem × Option String)
  fallbackGlobalResumeItems : List (LibraryItem × ResumeState)

def Aggregate.empty : Aggregate := ⟨∅, ∅, [], [], [], []⟩

def mergedHidden (existing current : Option Bool) : Option Bool :=
  if existing = some true ∨ current = some true then some true
  else if existing.isSome ∨ current.isSome then some false
  else none

section Merging

variable (calendar : Calendar) (rules : Alphabet) (includeResume : Bool)

/-- Two dates that can be read and the first of which is later. -/
def laterThan (current existing : Option String) : Bool :=
  match parseEmbyDatetime calendar current, parseEmbyDatetime calendar existing with
  | some currentTime, some existingTime => existingTime < currentTime
  | _, _ => false

/-- The furthest position with its date; at one position the later of two dates. -/
def mergeBootstrapResumeState (existing : Option ResumeState) (current : ResumeState)
    : ResumeState :=
  match existing with
  | none => current
  | some existing =>
      let merged :=
        if existing.position < current.position then current
        else if current.position = existing.position
            && lastPlayedDiffers calendar current.lastPlayed existing.lastPlayed
            && laterThan calendar current.lastPlayed existing.lastPlayed then
          { existing with lastPlayed := current.lastPlayed }
        else existing
      { merged with
        hideFromResume := mergedHidden existing.hideFromResume current.hideFromResume }

/-- The earliest date of a key. -/
def mergePlayed (played : Dict String (Option String)) (entry : String × Option String)
    : Dict String (Option String) :=
  match played.get? entry.1 with
  | none => played.set entry.1 entry.2
  | some current =>
      if lastPlayedIsOlder calendar entry.2 current then played.set entry.1 entry.2 else played

def mergeResume (resume : Dict String ResumeState) (entry : String × ResumeState)
    : Dict String ResumeState :=
  resume.set entry.1 (mergeBootstrapResumeState calendar (resume.get? entry.1) entry.2)

/-- Positions are merged and the item has one. -/
def resumable (item : LibraryItem) : Bool :=
  includeResume && item.userData.playbackPositionTicks ≠ 0

def addKeyless (aggregate : Aggregate) (item : LibraryItem) : Aggregate :=
  if itemType item.details = some "Episode" then aggregate
  else
    { aggregate with
      fallbackGlobalPlayedItems :=
        if item.userData.played then
          aggregate.fallbackGlobalPlayedItems ++ [(item, item.userData.lastPlayedDate)]
        else aggregate.fallbackGlobalPlayedItems
      fallbackGlobalResumeItems :=
        if resumable includeResume item then
          aggregate.fallbackGlobalResumeItems ++ [(item, resumeStateFromUserData item.userData)]
        else aggregate.fallbackGlobalResumeItems }

def addKeys (aggregate : Aggregate) (keys : List String) : Aggregate :=
  if keys.any isProviderKey then
    { aggregate with providerKeys := aggregate.providerKeys ++ keys.filter isProviderKey }
  else { aggregate with fallbackKeysNoProvider := aggregate.fallbackKeysNoProvider ++ keys }

def addPlayed (item : LibraryItem) (aggregate : Aggregate) (key : String) : Aggregate :=
  { aggregate with
    globalPlayedMap :=
      mergePlayed calendar aggregate.globalPlayedMap (key, item.userData.lastPlayedDate) }

def addResume (item : LibraryItem) (aggregate : Aggregate) (key : String) : Aggregate :=
  { aggregate with
    globalResumeMap :=
      mergeResume calendar aggregate.globalResumeMap
        (key, resumeStateFromUserData item.userData) }

def addBoth (item : LibraryItem) (aggregate : Aggregate) (key : String) : Aggregate :=
  let aggregate := addPlayed calendar item aggregate key
  if resumable includeResume item then addResume calendar item aggregate key else aggregate

def addItem (aggregate : Aggregate) (item : LibraryItem) : Aggregate :=
  let keys := itemSyncKeys rules item.details
  if keys = [] then addKeyless includeResume aggregate item
  else
    let aggregate := addKeys aggregate keys
    if item.userData.played = false then
      if resumable includeResume item then keys.foldl (addResume calendar item) aggregate
      else aggregate
    else keys.foldl (addBoth calendar includeResume item) aggregate

/-- The union of what all sources hold. -/
def aggregateSources (sources : List (List LibraryItem)) : Aggregate :=
  sources.flatten.foldl (addItem calendar rules includeResume) Aggregate.empty

end Merging

section Entries

variable {calendar : Calendar} {rules : Alphabet} {includeResume : Bool}

variable (rules) in
/-- The keys of an item with a date, if it is played. -/
def playedEntries (item : LibraryItem) : List (String × Option String) :=
  if item.userData.played then
    (itemSyncKeys rules item.details).map (·, item.userData.lastPlayedDate)
  else []

variable (rules includeResume) in
def resumeEntries (item : LibraryItem) : List (String × ResumeState) :=
  if resumable includeResume item then
    (itemSyncKeys rules item.details).map (·, resumeStateFromUserData item.userData)
  else []

theorem foldl_addResume_played (item : LibraryItem) (keys : List String) (aggregate : Aggregate)
    : (keys.foldl (addResume calendar item) aggregate).globalPlayedMap
      = aggregate.globalPlayedMap := by
  induction keys generalizing aggregate with
  | nil => rfl
  | cons key keys ih => rw [List.foldl_cons, ih, addResume]

theorem foldl_addResume_resume (item : LibraryItem) (keys : List String) (aggregate : Aggregate)
    : (keys.foldl (addResume calendar item) aggregate).globalResumeMap
      = (keys.map (·, resumeStateFromUserData item.userData)).foldl (mergeResume calendar)
          aggregate.globalResumeMap := by
  induction keys generalizing aggregate with
  | nil => rfl
  | cons key keys ih =>
      rw [List.foldl_cons, ih, List.map_cons, List.foldl_cons]
      rfl

theorem foldl_addBoth_played (item : LibraryItem) (keys : List String) (aggregate : Aggregate)
    : (keys.foldl (addBoth calendar includeResume item) aggregate).globalPlayedMap
      = (keys.map (·, item.userData.lastPlayedDate)).foldl (mergePlayed calendar)
          aggregate.globalPlayedMap := by
  induction keys generalizing aggregate with
  | nil => rfl
  | cons key keys ih =>
      rw [List.foldl_cons, ih, List.map_cons, List.foldl_cons, addBoth]
      split <;> rfl

theorem foldl_addBoth_resume (item : LibraryItem) (keys : List String) (aggregate : Aggregate)
    : (keys.foldl (addBoth calendar includeResume item) aggregate).globalResumeMap
      = if resumable includeResume item then
          (keys.map (·, resumeStateFromUserData item.userData)).foldl (mergeResume calendar)
            aggregate.globalResumeMap
        else aggregate.globalResumeMap := by
  induction keys generalizing aggregate with
  | nil => exact (ite_self _).symm
  | cons key keys ih =>
      rw [List.foldl_cons, ih, List.map_cons, List.foldl_cons, addBoth]
      cases resumable includeResume item <;> rfl

theorem addKeys_played (aggregate : Aggregate) (keys : List String)
    : (addKeys aggregate keys).globalPlayedMap = aggregate.globalPlayedMap := by
  unfold addKeys
  split <;> rfl

theorem addKeys_resume (aggregate : Aggregate) (keys : List String)
    : (addKeys aggregate keys).globalResumeMap = aggregate.globalResumeMap := by
  unfold addKeys
  split <;> rfl

theorem addKeyless_played (aggregate : Aggregate) (item : LibraryItem)
    : (addKeyless includeResume aggregate item).globalPlayedMap = aggregate.globalPlayedMap := by
  unfold addKeyless
  split <;> rfl

theorem addKeyless_resume (aggregate : Aggregate) (item : LibraryItem)
    : (addKeyless includeResume aggregate item).globalResumeMap = aggregate.globalResumeMap := by
  unfold addKeyless
  split <;> rfl

theorem addItem_played (aggregate : Aggregate) (item : LibraryItem)
    : (addItem calendar rules includeResume aggregate item).globalPlayedMap
      = (playedEntries rules item).foldl (mergePlayed calendar) aggregate.globalPlayedMap := by
  unfold addItem playedEntries
  dsimp only
  split
  · next keyless =>
      rw [addKeyless_played, keyless, List.map_nil, ite_self]
      rfl
  · cases item.userData.played with
    | false =>
        rw [if_pos rfl, if_neg Bool.false_ne_true]
        split
        · exact (foldl_addResume_played item _ _).trans (addKeys_played _ _)
        · exact addKeys_played _ _
    | true =>
        rw [if_neg (by decide), if_pos rfl, ← addKeys_played aggregate (itemSyncKeys rules _)]
        exact foldl_addBoth_played item _ _

theorem addItem_resume (aggregate : Aggregate) (item : LibraryItem)
    : (addItem calendar rules includeResume aggregate item).globalResumeMap
      = (resumeEntries rules includeResume item).foldl (mergeResume calendar)
          aggregate.globalResumeMap := by
  unfold addItem resumeEntries
  dsimp only
  split
  · next keyless =>
      rw [addKeyless_resume, keyless, List.map_nil, ite_self]
      rfl
  · rw [← addKeys_resume aggregate (itemSyncKeys rules item.details)]
    cases item.userData.played with
    | false =>
        rw [if_pos rfl]
        split
        · exact foldl_addResume_resume item _ _
        · rfl
    | true =>
        rw [if_neg (by decide)]
        refine (foldl_addBoth_resume item _ _).trans ?_
        split <;> rfl

theorem aggregateSources_played (sources : List (List LibraryItem))
    : (aggregateSources calendar rules includeResume sources).globalPlayedMap
      = (sources.flatten.flatMap (playedEntries rules)).foldl (mergePlayed calendar) ∅ := by
  rw [List.foldl_flatMap]
  exact (List.foldl_hom Aggregate.globalPlayedMap
    (fun aggregate item => (addItem_played aggregate item).symm)).symm

theorem aggregateSources_resume (sources : List (List LibraryItem))
    : (aggregateSources calendar rules includeResume sources).globalResumeMap
      = (sources.flatten.flatMap (resumeEntries rules includeResume)).foldl
          (mergeResume calendar) ∅ := by
  rw [List.foldl_flatMap]
  exact (List.foldl_hom Aggregate.globalResumeMap
    (fun aggregate item => (addItem_resume aggregate item).symm)).symm

end Entries

end OctoHubs.UserItems
