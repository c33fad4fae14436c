import OctoHubs.Latest.MovieIdentities
import OctoHubs.Latest.StateMerging
import OctoHubs.Library.Coercions

/-! The stored state of the publications as a refresh collects and publishes it.
For each server the entries of the films and series that were seen are written, the old aliases
of a film are dropped, and both sections are pruned by age and by count.
-/

namespace OctoHubs.Latest.Documents

open OctoHubs.Library

/-- How values are read, and how an entry of the history takes over what was seen. -/
structure CollectorRules where
  alphabet : Alphabet
  parseDate : Json → Option Timestamp
  uniteHistory : (existing payload : Document) → Document

/-- Normalised settings: both bounds are positive. -/
structure CollectorSettings where
  maxMovies : Int
  maxSeries : Int
  retentionDays : Int
  movies_pos : 0 < maxMovies
  series_pos : 0 < maxSeries

section Aliases

variable (alphabet : Alphabet)

/-- The entries of a dictionary with their keys. -/
def listEntries (entries : Document) : List (String × Document) :=
  entries.items.filterMap (fun item => item.2.asDict?.map (fun entry => (item.1, entry)))

def movieIdentityTokens (entry : String × Document) : List IdentityToken :=
  identityTokens entry.1 ((entry.2.field "item_id").textOr alphabet "")
    ((entry.2.field "signature").textOr alphabet "")

/-- Every entry that belongs to the film with these names. -/
def matchingMovieIdentityEntries (entries : Document) (names : List IdentityToken)
    : List (String × Document) :=
  absorb (fun entry => shareToken names (movieIdentityTokens alphabet entry))
    (fun left right =>
      shareToken (movieIdentityTokens alphabet left) (movieIdentityTokens alphabet right))
    (listEntries entries)

end Aliases

def matchPreference (stateKey : String) (entry : String × Document) : Nat ×ₗ Nat ×ₗ Nat :=
  let evidence :=
    (entry.2.dictAt? "notified_publications").isSome
    || (entry.2.dictAt? "notified_destinations").isSome
  toLex ((entry.2.field "notified").truthy.toNat,
    toLex (evidence.toNat, (decide (entry.1 = strip stateKey)).toNat))

def preferredKey (stateKey : String) : List (String × Document) → String
  | [] => ""
  | first :: rest =>
      (rest.foldl
        (fun best entry =>
          if matchPreference stateKey entry > matchPreference stateKey best then entry else best)
        first).1

def removeObsoleteAliases (entries : Document) (canonicalKey : String) (aliases : List String)
    (fallbackKey : String)
    : Document :=
  (if aliases = [] then [fallbackKey] else aliases).foldl
    (fun entries aliasKey =>
      if aliasKey ≠ "" ∧ aliasKey ≠ canonicalKey then entries.erase aliasKey else entries)
    entries

/-- A film that was seen, with the other fields of its entry. -/
structure MovieVisit where
  itemId : Json
  signature : String
  details : Document
  signature_ne : signature ≠ ""

/-- A series that was seen, with the entries of its history and of its episodes. -/
structure SeriesVisit where
  seriesId : String
  entry : Document
  history : Document
  episodes : List (String × Document)

section Visits

variable (rules : CollectorRules)

def MovieVisit.stateKey (visit : MovieVisit) : String :=
  if visit.signature = "" then visit.itemId.textOr rules.alphabet "" else visit.signature

def MovieVisit.entry (visit : MovieVisit) : Document :=
  (visit.details.set "item_id" visit.itemId).set "signature" (.text visit.signature)

def MovieVisit.names (visit : MovieVisit) : List IdentityToken :=
  identityTokens (visit.stateKey rules) (visit.itemId.textOr rules.alphabet "")
    visit.signature

/-- The entry under its key, without the entries of its aliases. -/
def storeMovie (visit : MovieVisit) (entries : Document)
    (write : Document → String → Document → Document)
    : Document :=
  let aliases := matchingMovieIdentityEntries rules.alphabet entries (visit.names rules)
  removeObsoleteAliases (write entries (visit.stateKey rules) visit.entry)
    (visit.stateKey rules) (aliases.map Prod.fst)
    (preferredKey (visit.stateKey rules) aliases)

def updateHistoryEntry (entries : Document) (key : String) (payload : Document) : Document :=
  let textKey := strip key
  if textKey = "" then entries
  else entries.setDict textKey (rules.uniteHistory (entries.dictAt textKey) payload)

/-- What a server's collection writes to; items that are no dictionary cannot be written. -/
structure CollectedItems where
  items : Json
  history : Document

def processMovie (collected : CollectedItems) (visit : MovieVisit) : Option CollectedItems := do
  let items ← collected.items.asDict?
  return {
    items := .ofDict (storeMovie rules visit items Document.setDict)
    history :=
      collected.history.setDict "movies"
        (storeMovie rules visit (collected.history.dictAt "movies")
          (updateHistoryEntry rules)) }

def processSeries (collected : CollectedItems) (visit : SeriesVisit) : Option CollectedItems := do
  let items ← collected.items.asDict?
  let episodes :=
    visit.episodes.foldl (fun entries item => updateHistoryEntry rules entries item.1 item.2)
      (collected.history.dictAt "episodes")
  let series :=
    updateHistoryEntry rules (collected.history.dictAt "series") visit.seriesId visit.history
  return {
    items := .ofDict (items.setDict visit.seriesId visit.entry)
    history := (collected.history.setDict "episodes" episodes).setDict "series" series }

end Visits

def day : Timestamp := 24 * 60 * 60 * second

/-- The first day of the calendar. -/
def datetimeMin : Timestamp := -719162 * day

/-- The first entries in an order; those that are equal in it stay as they were. -/
def firstEntries (entries : Document) (before : String × Json → String × Json → Prop)
    [DecidableRel before] (count : Nat)
    : Document :=
  ⟨(entries.items.insertionSort before).take count,
    ((((List.perm_insertionSort _ entries.items).map Prod.fst).nodup_iff.mpr
      entries.nodup).sublist ((List.take_sublist _ _).map Prod.fst))⟩

section Pruning

variable (rules : CollectorRules) (now : Timestamp)

def entryDate (value : Json) : Option Timestamp :=
  value.asDict?.bind (fun entry =>
    let seen := entry.field "last_seen_at"
    rules.parseDate (if seen.truthy then seen else entry.field "added_at"))

def expired (retentionDays : Int) (value : Json) : Bool :=
  0 < retentionDays
    && (entryDate rules value).any (fun date => date < now - retentionDays * day)

def sortDate (value : Json) : Timestamp := (entryDate rules value).getD datetimeMin

/-- Without what is no entry or too old, and the newest ones only where there are too many. -/
def pruneEntries (maxCount retentionDays : Int) (entries : Document) : Document :=
  let filtered :=
    entries.filter (fun _ value => value.isDict && !expired rules now retentionDays value)
  if 0 < maxCount ∧ maxCount < filtered.items.length then
    firstEntries filtered (fun left right => sortDate rules right.2 ≤ sortDate rules left.2)
      maxCount.toNat
  else filtered

def pruneStateItemsByLastSeen (maxCount retentionDays : Int) (items : Json) : Json :=
  items.asDict?.elim items (fun entries =>
    .ofDict (pruneEntries rules now maxCount retentionDays entries))

/-- A series without its old episodes; an episode that is no dictionary cannot be read. -/
def pruneEpisodes (retentionDays : Int) (value : Json) : Option Json :=
  match value.asDict? with
  | none => some value
  | some entry =>
      match entry.dictAt? "episodes" with
      | none => some value
      | some episodes =>
          if episodes.values.all Json.isDict then
            let kept :=
              episodes.filter (fun _ episode =>
                !(episode.asDict?.bind (fun fields =>
                    rules.parseDate (fields.field "last_seen_at"))).any
                  (fun seen => retentionDays < (now - seen) / day))
            some (.ofDict (entry.setDict "episodes" kept))
          else none

/-- Every entry changed in place, where all of them can be. -/
def changeEntries (change : Json → Option Json) (entries : Document) : Option Document :=
  if entries.values.all (fun value => (change value).isSome) then
    some (entries.map (fun _ value => (change value).getD value))
  else none

end Pruning

/-- What the analysis of one server has seen, and when its entries were pruned. -/
structure ServerWork where
  movies : List MovieVisit
  series : List SeriesVisit
  now : Timestamp

/-- The section to write to; one that is no dictionary cannot be. -/
def stateSection (server : Document) (name : String) : Option Document :=
  (server.get? name).elim (some ∅) Json.asDict?

def ensureHistory (server : Document) : Document :=
  ["movies", "series", "episodes"].foldl
    (fun history name => history.setDict name (history.dictAt name))
    (server.dictAt "history")

def storedServer (stored : Json) : Option Document :=
  if stored.truthy then stored.asDict? else some ∅

section Servers

variable (rules : CollectorRules)

/-- The state of a server after its collection, or nothing where the collection fails. -/
def collectServer (settings : CollectorSettings) (stored : Json) (work : ServerWork)
    : Option Document := do
  let server ← storedServer stored
  let movies ← stateSection server "movies"
  let series ← stateSection server "series"
  let movieItems := (movies.get? "items").getD (.ofDict ∅)
  let seriesItems := (series.get? "items").getD (.ofDict ∅)
  let seen ← work.movies.foldlM (processMovie rules) ⟨movieItems, ensureHistory server⟩
  let watched ← work.series.foldlM (processSeries rules) ⟨seriesItems, seen.history⟩
  let newMovies :=
    pruneStateItemsByLastSeen rules work.now settings.maxMovies settings.retentionDays seen.items
  let newSeries :=
    pruneStateItemsByLastSeen rules work.now settings.maxSeries settings.retentionDays
      watched.items
  let seriesEntries ← newSeries.asDict?
  let seriesEntries ←
    changeEntries (pruneEpisodes rules work.now settings.retentionDays) seriesEntries
  return ((server.setDict "movies" (movies.set "items" newMovies)).setDict "series"
    (series.setDict "items" seriesEntries)).setDict "history" watched.history

/-- The servers of a refresh in their order; it fails as a whole where one reports an error. -/
structure Refresh where
  settings : CollectorSettings
  servers : List (String × ServerWork)
  failed : Bool

/-- Something was seen, so the state is to be published. -/
def Refresh.stateChanged (refresh : Refresh) : Bool :=
  refresh.servers.any (fun item =>
    item.1 ≠ "" && (!item.2.movies.isEmpty || !item.2.series.isEmpty))

def storeServer (settings : CollectorSettings) (latestState state : Document)
    (item : String × ServerWork)
    : Option Document :=
  if item.1 = "" then some state
  else
    (collectServer rules settings (latestState.field item.1) item.2).map
      (state.setDict item.1)

def collectEntries (latestState : Document) (refresh : Refresh) : Option Document :=
  if refresh.failed || !refresh.stateChanged then none
  else refresh.servers.foldlM (storeServer rules refresh.settings latestState) latestState

def publishLatestRefresh (persisted : Document) (latestState : Option Document) : Document :=
  latestState.elim persisted (mergeNotificationUpdates · persisted)

/-- A refresh that loads the stored state, collects and publishes. -/
def refreshLatest (persisted : Document) (refresh : Refresh) : Document :=
  publishLatestRefresh persisted (collectEntries rules persisted refresh)

end Servers

end OctoHubs.Latest.Documents
