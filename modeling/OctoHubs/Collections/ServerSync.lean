import OctoHubs.Library.Coercions
import Mathlib.Data.List.Defs

/-! A collection is brought to a server: the items of the source are looked up, the collection is
found or created, emptied and filled again. Each call may fail, with or without an effect.
-/

namespace OctoHubs.Collections

open OctoHubs.Library

def collectionBatchSize : Nat := 50

def providerPriority : List (String × String) := [("tmdb", "Tmdb"), ("imdb", "Imdb")]

structure CollectionRules extends Alphabet where
  titleCase : String → String

def CollectionRules.providerLabel (rules : CollectionRules) (key : String) : String :=
  (providerPriority.lookup key).getD (rules.titleCase key)

/-- The parameters of a lookup. -/
structure ItemQuery where
  anyProviderIdEquals : String
  includeItemTypes : Option String
deriving DecidableEq

inductive EmbyRead
  | items (query : ItemQuery)
  | collections
  | collectionItems (collection : String)
  | usersMe
  | usersCurrent
  | users
  | userItem (user item : String)
  | item (item : String)

inductive ImageKind
  | poster
  | background

inductive EmbyWrite
  | createCollection (name sortName : String) (ids : List String)
  | removeItems (collection : String) (ids : List String)
  | addItems (collection : String) (ids : List String)
  | setImage (collection : String) (kind : ImageKind)
  | updateProperties (collection : String)
  | refreshMetadata (item : String)

def EmbyWrite.limited (reached : String → Bool) : EmbyWrite → EmbyWrite
  | .removeItems collection ids => .removeItems collection (ids.filter reached)
  | .addItems collection ids => .addItems collection (ids.filter reached)
  | write => write

/-- What becomes of a call. One that fails is refused, or breaks off after it reached some items.
-/
inductive Fate
  | answered
  | refused
  | broken (reached : String → Bool)

/-- The calls of a synchronization that read or change items, by their places in it. -/
inductive Call
  | findItems (entry candidate : Nat)
  | listCollections
  | createCollection
  | readItems
  | removeItems
  | addItems (batch : Nat)
  | setImage (kind : ImageKind)
  | fetchProperties (attempt step : Nat)
  | updateProperties
  | refreshMetadata (index : Nat)

/-- A server: what it answers to reads, what writes do, which items its library has and which are
in a collection.
-/
structure Emby (State : Type*) where
  read : State → EmbyRead → Json
  write : State → EmbyWrite → State × Json
  library : String → Prop
  holds : State → String → String → Prop

section Payloads

def isText (value : Json) (expected : String) : Bool :=
  match value with
  | .text value => value = expected
  | _ => false

/-- The entries that are dictionaries. -/
def dicts (entries : List Json) : List Document := entries.filterMap Json.asDict?

def itemId? (item : Document) : Option String :=
  match item.field "Id" with
  | .text id => if id = "" then none else some id
  | _ => none

/-- The dictionaries of a value that is walked through, which a number cannot be. A value that
counts as false has none.
-/
def walk? (value : Json) : Option (List Document) :=
  match value with
  | .list _ values => some (dicts (List.ofFn values))
  | .text _ => some []
  | .object _ _ _ => some []
  | value => if value.truthy then none else some []

def extractEmbyItems? (payload : Json) : Option (List Document) :=
  match payload.asDict? with
  | some fields =>
      walk? (if (fields.field "Items").truthy then fields.field "Items" else fields.field "items")
  | none => some (dicts (payload.asList?.getD []))

/-- The ids of the items that a lookup answers. -/
def foundIds (payload : Json) : List String :=
  let items :=
    match payload.asDict? with
    | some fields => fields.field "Items"
    | none => payload
  (dicts (items.asList?.getD [])).filterMap itemId?

/-- The ids of the items that the content of a collection names. -/
def contentIds? (payload : Json) : Option (List String) :=
  (extractEmbyItems? payload).map (·.filterMap itemId?)

end Payloads

variable {State : Type*} (rules : CollectionRules) (emby : Emby State)

namespace Emby

/-- The answer to a read, if it arrives. -/
def get (state : State) (fate : Fate) (read : EmbyRead) : Option Json :=
  match fate with
  | .answered => some (emby.read state read)
  | _ => none

def send (state : State) (fate : Fate) (write : EmbyWrite) : Option Json × State :=
  match fate with
  | .answered => (some (emby.write state write).2, (emby.write state write).1)
  | .refused => (none, state)
  | .broken reached => (none, (emby.write state (write.limited reached)).1)

end Emby

section Lookups

/-- The providers that an entry is looked up by: each with its label and the id. -/
def entryProviderCandidates (entry : Document) : List (String × String) :=
  let providerKey := strip ((entry.field "provider_key").textOr rules.toAlphabet "")
  let providerId := strip ((entry.field "provider_id").textOr rules.toAlphabet "")
  if providerKey = "" ∨ providerId = "" then []
  else
    let providerLabel :=
      (entry.field "provider_label").textOr rules.toAlphabet (rules.providerLabel providerKey)
    let tmdbId := strip ((entry.field "tmdb_id").textOr rules.toAlphabet "")
    if tmdbId ≠ "" ∧ (rules.lower providerKey ≠ "tmdb" ∨ providerId ≠ tmdbId) then
      [(providerLabel, providerId), (rules.providerLabel "tmdb", tmdbId)]
    else [(providerLabel, providerId)]

def itemQuery (entry : Document) (candidate : String × String) : ItemQuery where
  anyProviderIdEquals := candidate.1 ++ "." ++ candidate.2
  includeItemTypes :=
    if isText (entry.field "media_type") "movie" then some "Movie"
    else if isText (entry.field "media_type") "tv" then some "Series"
    else none

/-- The items of the first lookup that answers some; one that fails is passed over. -/
def firstFound (state : State) (fates : Nat → Fate) (entry : Document)
    : Nat → List (String × String) → List String
  | _, [] => []
  | index, candidate :: rest =>
      match emby.get state (fates index) (.items (itemQuery entry candidate)) with
      | none => firstFound state fates entry (index + 1) rest
      | some payload =>
          if foundIds payload = [] then firstFound state fates entry (index + 1) rest
          else foundIds payload

def findEmbyItemIds (state : State) (fates : Nat → Fate) (entry : Document) : List String :=
  firstFound emby state fates entry 0 (entryProviderCandidates rules entry)

/-- What each entry of the source finds. -/
def lookups (state : State) (fates : Call → Fate) (entries : List Document)
    : List (List String) :=
  entries.mapIdx (fun index entry =>
    findEmbyItemIds rules emby state (fun candidate => fates (.findItems index candidate)) entry)

end Lookups

/-- Why a synchronization stops. -/
inductive SyncFailure
  | notIterable
  | notCreated
  | notRemoved
  | notAdded
deriving DecidableEq

section Collections

/-- The collection of the server with one of the names, if its answer can be walked through. -/
def existingCollection (payload : Json) (name sortName : String)
    : Except SyncFailure (Option String) :=
  let existing? :=
    match payload.asDict? with
    | some fields => walk? (fields.field "Items")
    | none => some (dicts (payload.asList?.getD []))
  let named (entry : Document) : Option String :=
    if (entry.field "Id").truthy
        ∧ (isText (entry.field "SortName") sortName ∨ isText (entry.field "Name") name) then
      some ((entry.field "Id").asText rules.toAlphabet)
    else none
  match existing? with
  | none => .error .notIterable
  | some existing => .ok (existing.findSome? named)

/-- The collection, and whether it is a new one that holds the first items. -/
def ensureEmbyCollection (state : State) (fates : Call → Fate) (name sortName : String)
    (initialIds : List String) : Except SyncFailure (String × Bool) × State :=
  let existing :=
    match emby.get state (fates .listCollections) .collections with
    | none => Except.ok none
    | some payload => existingCollection rules payload name sortName
  match existing with
  | .error failure => (.error failure, state)
  | .ok (some collection) => (.ok (collection, false), state)
  | .ok none =>
      match emby.send state (fates .createCollection)
        (.createCollection name (if sortName = "" then name else sortName)
          (initialIds.filter (· ≠ ""))) with
      | (none, state) => (.error .notCreated, state)
      | (some response, state) =>
          match response.asDict? with
          | none => (.error .notCreated, state)
          | some fields =>
              if (fields.field "Id").truthy then
                (.ok ((fields.field "Id").asText rules.toAlphabet, true), state)
              else (.error .notCreated, state)

/-- Remove what the collection holds. One that cannot be read is left as it is. -/
def clearCollectionItems (state : State) (fates : Call → Fate) (collection : String)
    : Option SyncFailure × State :=
  if collection = "" then (none, state)
  else
    match emby.get state (fates .readItems) (.collectionItems collection) with
    | none => (none, state)
    | some payload =>
        match contentIds? payload with
        | none => (some .notIterable, state)
        | some [] => (none, state)
        | some items =>
            match emby.send state (fates .removeItems) (.removeItems collection items) with
            | (none, state) => (some .notRemoved, state)
            | (some _, state) => (none, state)

def addBatches (fates : Call → Fate) (collection : String)
    : Nat → List (List String) → State → Option SyncFailure × State
  | _, [], state => (none, state)
  | index, batch :: rest, state =>
      match emby.send state (fates (.addItems index)) (.addItems collection batch) with
      | (none, state) => (some .notAdded, state)
      | (some _, state) => addBatches fates collection (index + 1) rest state

def updateCollectionItems (state : State) (fates : Call → Fate) (collection : String)
    (itemIds : List String) : Option SyncFailure × State :=
  addBatches emby fates collection 0
    ((itemIds.filter (· ≠ "")).toChunks collectionBatchSize) state

end Collections

section Properties

def selectPrimaryUserId (usersPayload : Json) : String :=
  let users :=
    match usersPayload.asDict? with
    | some fields => fields.field "Items"
    | none => usersPayload
  let userId (user : Document) : String :=
    strip ((user.field "Id").textOr rules.toAlphabet "")
  let named := (dicts (users.asList?.getD [])).filter (fun user => userId user ≠ "")
  let admin? := named.find? (fun user =>
    ((user.dictAt "Policy").field "IsAdministrator").truthy)
  ((admin?.or named.head?).map userId).getD ""

def ownUserId (answer : Option Json) : String :=
  match answer.bind Json.asDict? with
  | none => ""
  | some fields =>
      strip ((fields.field "Id").textOr rules.toAlphabet
        ((fields.field "UserId").textOr rules.toAlphabet ""))

def getApiUserId (state : State) (fates : Nat → Fate) : String :=
  let me := ownUserId rules (emby.get state (fates 0) .usersMe)
  let current := ownUserId rules (emby.get state (fates 1) .usersCurrent)
  if me ≠ "" then me
  else if current ≠ "" then current
  else ((emby.get state (fates 2) .users).map (selectPrimaryUserId rules)).getD ""

/-- The collection as an item, if one of the reads answers it, and whether it has a source. -/
def fetchCollectionItem (state : State) (fates : Nat → Fate) (collection : String)
    : Option (Document × Bool) :=
  let userId := getApiUserId rules emby state fates
  let own :=
    if userId = "" then none
    else (emby.get state (fates 3) (.userItem userId collection)).bind Json.asDict?
  let direct := (emby.get state (fates 4) (.item collection)).bind Json.asDict?
  (own.or direct).map (fun item =>
    (item, (item.field "Source").isDict && (item.field "Source").truthy))

/-- Read the collection again until it has a source. -/
def retryCollectionItem (state : State) (fates : Nat → Nat → Fate) (collection : String)
    : Nat → Nat → Option (Document × Bool)
  | _, 0 => none
  | attempt, 1 => fetchCollectionItem rules emby state (fates attempt) collection
  | attempt, retries + 1 =>
      match fetchCollectionItem rules emby state (fates attempt) collection with
      | some (item, true) => some (item, true)
      | _ => retryCollectionItem state fates collection (attempt + 1) retries

/-- Write the names and tags of the collection, if it can be read. -/
def applyCollectionProperties (state : State) (fates : Call → Fate) (collection : String)
    : State :=
  if collection = "" then state
  else
    let reads attempt step := fates (.fetchProperties attempt step)
    let fetched :=
      match fetchCollectionItem rules emby state (reads 0) collection with
      | none => none
      | some (item, true) => some (item, true)
      | some (_, false) => retryCollectionItem rules emby state reads collection 1 3
    if fetched.isSome then
      (emby.send state (fates .updateProperties) (.updateProperties collection)).2
    else state

end Properties

/-- The collection that is wanted, and which of its parts are written after the items. -/
structure CollectionPlan where
  name : String
  sortName : String
  hasPoster : Bool
  hasBackground : Bool
  refreshMetadata : Bool

def setCollectionImage (state : State) (fates : Call → Fate) (collection : String)
    (kind : ImageKind) (given : Bool) : State :=
  if given ∧ collection ≠ "" then
    (emby.send state (fates (.setImage kind)) (.setImage collection kind)).2
  else state

def refreshItemsMetadata (fates : Call → Fate) : Nat → List String → State → State
  | _, [], state => state
  | index, item :: rest, state =>
      refreshItemsMetadata fates (index + 1) rest
        (emby.send state (fates (.refreshMetadata index)) (.refreshMetadata item)).2

structure SyncReport where
  status : String
  message : String
  matched : Nat
  candidates : Nat
  missing : Nat
deriving DecidableEq

/-- Add the items, and write what follows them once they are all there. -/
def fillCollection (state : State) (fates : Call → Fate) (plan : CollectionPlan)
    (collection : String) (uniqueIds remainingIds : List String) : Option SyncFailure × State :=
  match updateCollectionItems emby state fates collection remainingIds with
  | (some failure, state) => (some failure, state)
  | (none, state) =>
      let state := setCollectionImage emby state fates collection .poster plan.hasPoster
      let state := setCollectionImage emby state fates collection .background plan.hasBackground
      let state := applyCollectionProperties rules emby state fates collection
      (none,
        if plan.refreshMetadata then refreshItemsMetadata emby fates 0 uniqueIds state else state)

/-- Empty a collection that was there before, and fill it; a new one holds the first item. -/
def replaceItems (state : State) (fates : Call → Fate) (plan : CollectionPlan)
    (collection : String) (wasCreated : Bool) (uniqueIds : List String)
    : Option SyncFailure × State :=
  if wasCreated then
    fillCollection rules emby state fates plan collection uniqueIds (uniqueIds.drop 1)
  else
    match clearCollectionItems emby state fates collection with
    | (some failure, state) => (some failure, state)
    | (none, state) => fillCollection rules emby state fates plan collection uniqueIds uniqueIds

/-- The report of a synchronization, or why it stopped, and the server after it. -/
def syncCollectionToServer (state : State) (fates : Call → Fate) (plan : CollectionPlan)
    (entries : List Document) : Except SyncFailure SyncReport × State :=
  let found := lookups rules emby state fates entries
  let matched := found.countP (· ≠ [])
  let missing := found.countP (· = [])
  let uniqueIds := found.flatten.eraseDups
  if uniqueIds = [] then
    let message :=
      if entries.length = 0 then "La fonte non ha restituito contenuti"
      else "Nessun contenuto corrispondente trovato su Emby"
    (.ok ⟨"warning", message, 0, entries.length, missing⟩, state)
  else
    match ensureEmbyCollection rules emby state fates plan.name plan.sortName
      (uniqueIds.take 1) with
    | (.error failure, state) => (.error failure, state)
    | (.ok (collection, wasCreated), state) =>
        match replaceItems rules emby state fates plan collection wasCreated uniqueIds with
        | (some failure, state) => (.error failure, state)
        | (none, state) =>
            let counted := toString matched ++ " elementi sincronizzati"
            let report :=
              if missing = 0 then ⟨"success", counted, matched, entries.length, missing⟩
              else
                ⟨"partial", counted ++ " (" ++ toString missing ++ " mancanti)", matched,
                  entries.length, missing⟩
            (.ok report, state)

end OctoHubs.Collections
