import OctoHubs.Latest.Deduplication
import OctoHubs.Library.Absorption

/-! The merge of a fresh collection into the cached publications.
A fresh entry whose sources are known keeps the cached event, and it takes the place of the entry
of its title with the same batch.
-/

namespace OctoHubs.Latest

open OctoHubs.Library LatestEntry

section Reconciliation

variable (rules : TextRules) (family : String)

/-- The whole chain of cached aliases of one event. -/
def matchingEventComponent (candidate : LatestEntry) (cached : List LatestEntry)
    : List LatestEntry :=
  absorb (fun entry => eventsAreEquivalent rules entry candidate family)
    (fun known entry => eventsAreEquivalent rules entry known family) cached

abbrev TitleAlias := String × String × String

/-- No time comes before every time. -/
def compareTimes : WithBot Timestamp → WithBot Timestamp → Ordering
  | ⊥, ⊥ => .eq
  | ⊥, (_ : Timestamp) => .lt
  | (_ : Timestamp), ⊥ => .gt
  | (left : Timestamp), (right : Timestamp) => compare left right

def showAlias (visible : Dict TitleAlias LatestEntry) (entry : LatestEntry)
    (alias_ : TitleAlias)
    : Dict TitleAlias LatestEntry :=
  match visible.get? alias_ with
  | none => visible.set alias_ entry
  | some current =>
      match compareTimes (current.eventTimestamp rules) (entry.eventTimestamp rules) with
      | .lt => visible.set alias_ entry
      | .eq => visible.set alias_ (preferredEvent rules current entry)
      | .gt => visible

def visibleEventsByAlias (cached : List LatestEntry) : Dict TitleAlias LatestEntry :=
  cached.foldl
    (fun visible entry =>
      if entry.isExistingSnapshot rules then visible
      else
        (entry.publicationLogicalAliases rules family).foldl
          (fun visible alias_ => showAlias rules visible entry alias_) visible)
    ∅

/-- The first entry of the last time, news before the rest. -/
def lastEvent : List LatestEntry → Option LatestEntry
  | [] => none
  | first :: rest =>
      let order (best entry : LatestEntry) : Ordering :=
        (compareTimes (best.eventTimestamp rules) (entry.eventTimestamp rules)).then
          (compare (entry.classificationRank rules) (best.classificationRank rules))
      some (rest.foldl (fun best entry => if order best entry = .lt then entry else best) first)

def preferredAmong : List LatestEntry → Option LatestEntry
  | [] => none
  | first :: rest => some (rest.foldl (preferredEvent rules) first)

def eventSourceForCandidate (candidate : LatestEntry) (rawCached : List LatestEntry)
    (visibleByAlias : Dict TitleAlias LatestEntry)
    : Option LatestEntry :=
  match preferredAmong rules (matchingEventComponent rules family candidate rawCached) with
  | some event => some event
  | none =>
      if candidate.isExistingSnapshot rules then
        lastEvent rules
          ((candidate.publicationLogicalAliases rules family).filterMap visibleByAlias.get?)
      else none

/-- A fresh entry with the cached event that it stands for, if there is one. -/
def reconcileCandidate (cached : List LatestEntry) (candidate : LatestEntry) : LatestEntry :=
  let visibleByAlias :=
    visibleEventsByAlias rules family
      (deduplicatePublicationEvents rules family (cached.map (·, false)) [])
  (eventSourceForCandidate rules family candidate cached visibleByAlias).elim candidate
    candidate.withEventEnvelope

def reconcilePublicationEvents (fresh cached : List LatestEntry) : List LatestEntry :=
  deduplicatePublicationEvents rules family
    (fresh.map (fun candidate => (reconcileCandidate rules family cached candidate, false))) []

end Reconciliation

/-- How the details of an entry are read; they are kept as the texts of their values. -/
structure DetailRules where
  readText : String → String
  isBlank : String → Bool

def copiedDetails : List String :=
  ["original_title", "year", "overview", "genres", "rating", "community_rating",
    "official_rating", "runtime", "runtime_minutes", "premiere_date", "tagline", "studios",
    "cast", "season_count", "episode_count", "tmdb_id", "imdb_id", "tvdb_id", "trakt_id",
    "tmdb_rating", "tmdb_votes", "imdb_rating", "imdb_votes", "metacritic_rating",
    "trakt_rating", "trakt_votes", "tmdb_poster_url", "tmdb_backdrop_url", "tmdb_logo_url",
    "tmdb_banner_url", "tmdb_thumb_url", "omdb_fetched_at", "trakt_fetched_at"]

def deprecatedDetails : List String :=
  ["critic_rating", "rt_tomatometer", "rt_audience", "letterboxd_rating"]

section Details

variable (rules : TextRules) (details : DetailRules)

def isSeries (fields : Dict String String) : Bool :=
  rules.lower (((fields.get? "item_type").map details.readText).getD "") ∈ ["series", "episode"]

def mergeDetails (fields cached : Dict String String) : Dict String String :=
  let blank (field : Option String) : Bool := field.all details.isBlank
  let series := isSeries rules details fields
  let copied := copiedDetails ++ [if series then "creators" else "directors"]
  let merged :=
    copied.foldl
      (fun merged name =>
        match cached.get? name with
        | none => merged
        | some value =>
            if blank (merged.get? name) && !details.isBlank value then merged.set name value
            else merged)
      fields
  (merged.set (if series then "directors" else "creators") "[]").eraseWhere
    (· ∈ deprecatedDetails)

def mergeCachedEntry (entry cached : LatestEntry) : LatestEntry :=
  { entry with details := mergeDetails rules details entry.details cached.details }

end Details

namespace LatestEntry

variable (entry : LatestEntry)

def serverText : String := entry.serverId.getD ""

def itemText : String := entry.itemId.getD ""

/-- The signature, or the item where there is none. -/
def signatureText : String :=
  if entry.signature.getD "" = "" then entry.itemText else entry.signature.getD ""

def signatureKey : String := s!"{entry.serverText}:{entry.signatureText}"

def itemKey : String := s!"{entry.serverText}:{entry.itemText}"

/-- Equal as dictionaries: the order of the details does not count. -/
def sameAs (other : LatestEntry) : Bool :=
  { entry with details := ∅ } = { other with details := ∅ }
  && entry.details.items.Perm other.details.items

end LatestEntry

/-- The last entry under each key. -/
def indexEntries (named : LatestEntry → Bool) (key : LatestEntry → String)
    (entries : List LatestEntry)
    : Dict String LatestEntry :=
  entries.foldl (fun map entry => if named entry then map.set (key entry) entry else map) ∅

structure CacheMaps where
  movieBySignature : Dict String LatestEntry
  movieByItemId : Dict String LatestEntry
  seriesByItemId : Dict String LatestEntry

structure LatestPayload where
  movies : List LatestEntry
  series : List LatestEntry
  errors : List String

def buildCacheMaps (payload : LatestPayload) : CacheMaps :=
  let bySignature (entry : LatestEntry) : Bool :=
    entry.serverText ≠ "" && entry.signatureText ≠ ""
  let byItem (entry : LatestEntry) : Bool := entry.serverText ≠ "" && entry.itemText ≠ ""
  { movieBySignature := indexEntries bySignature signatureKey payload.movies
    movieByItemId := indexEntries byItem itemKey payload.movies
    seriesByItemId := indexEntries byItem itemKey payload.series }

/-- A batch that names itself. -/
def hasBatch (entry : LatestEntry) : Bool := entry.batchId.get.any (· ≠ "")

def matchesMovieBatch (fresh entry : LatestEntry) : Bool :=
  entry.serverText = fresh.serverText && entry.batchId.get = fresh.batchId.get
  && (fresh.signatureText ≠ "" && entry.signatureText = fresh.signatureText
    || fresh.itemText ≠ "" && entry.itemText = fresh.itemText)

def matchesSeriesBatch (fresh entry : LatestEntry) : Bool :=
  entry.serverText = fresh.serverText && entry.batchId.get = fresh.batchId.get
  && (fresh.itemText ≠ "" && entry.itemText = fresh.itemText)

section Merge

variable (rules : TextRules) (details : DetailRules)

/-- The entries so far, with a mark for those that come from the refresh. -/
abbrev MergedEntries := List (LatestEntry × Bool)

/-- The entry that a match stands for in the list is replaced, or the fresh one is appended. -/
def mergeFresh (matches_ : LatestEntry → LatestEntry → Bool)
    (lookup : LatestEntry → Option LatestEntry) (merged : MergedEntries) (fresh : LatestEntry)
    : MergedEntries :=
  let batchMatch :=
    if hasBatch fresh then (merged.find? (fun item => matches_ fresh item.1)).map Prod.fst
    else none
  match batchMatch.or (lookup fresh) with
  | none => merged ++ [(fresh, true)]
  | some cached =>
      let entry := mergeCachedEntry rules details fresh cached
      if batchMatch.isSome || fresh.batchId.get = cached.batchId.get then
        match merged.findIdx? (fun item => cached.sameAs item.1) with
        | some index => merged.set index (entry, true)
        | none => merged ++ [(entry, true)]
      else merged ++ [(entry, true)]

/-- The merged entries of one family. -/
def mergeFamily (family : String) (matches_ : LatestEntry → LatestEntry → Bool)
    (lookup : LatestEntry → Option LatestEntry) (fresh cached : List LatestEntry)
    : List LatestEntry :=
  let start := deduplicatePublicationEvents rules family (cached.map (·, false)) []
  let merged :=
    (reconcilePublicationEvents rules family fresh cached).foldl
      (mergeFresh rules details matches_ lookup) (start.map (·, false))
  deduplicatePublicationEvents rules family merged cached

def mergeWithDb (newPayload : LatestPayload) (dbPayload : Option LatestPayload)
    : LatestPayload :=
  match dbPayload with
  | none => newPayload
  | some db =>
      let maps := buildCacheMaps db
      { movies :=
          mergeFamily rules details "movie" matchesMovieBatch
            (fun fresh =>
              (maps.movieBySignature.get? fresh.signatureKey).or
                (maps.movieByItemId.get? fresh.itemKey))
            newPayload.movies db.movies
        series :=
          mergeFamily rules details "series" matchesSeriesBatch
            (fun fresh => maps.seriesByItemId.get? fresh.itemKey) newPayload.series db.series
        errors := newPayload.errors }

end Merge

end OctoHubs.Latest
