import Mathlib.Data.List.Sort
import OctoHubs.Library.Coercions
import OctoHubs.Time

/-! The seasons of a requested series: which are asked for, how far each one is available, and
which of them a scan selects.
-/

namespace OctoHubs.Requests

open OctoHubs.Library

inductive EpisodeState
  | available
  | pending
  | unreleased
deriving DecidableEq

structure EpisodeStatus where
  episode : Int
  status : EpisodeState
deriving DecidableEq

/-- What is read besides a payload: letter cases, numbers and dates in texts, the time, and what
Trakt lists of a season, if it is asked.
-/
structure SeasonReader where
  alphabet : Alphabet
  digits : String → Option Int
  parseDateValue : Json → Option Timestamp
  now : Timestamp
  traktEpisodes : Document → Int → Option (List EpisodeStatus)

/-- The first value that counts as true, or the last one. -/
def anyOf (payload : Document) : List String → Json
  | [] => .null
  | [key] => Document.field payload key
  | key :: rest =>
      let value := Document.field payload key
      if value.truthy then value else anyOf payload rest

/-- The entries of a list, or none where there is no list. -/
def listAt (payload : Document) (key : String) : List Json :=
  (Document.field payload key).asList?.getD []

def dictsOf (values : List Json) : List Document := values.filterMap Json.asDict?

inductive MediaType
  | movie
  | tv
deriving DecidableEq

section Seasons

variable (reader : SeasonReader)

def tryParseInt : Json → Option Int
  | .int value => some value
  | .bool value => some (if value then 1 else 0)
  | .text value => reader.digits value
  | _ => none

def normalizeMediaType (value : Json) : Option MediaType :=
  if value.truthy then
    let lowered := reader.alphabet.lower (strip (value.asText reader.alphabet))
    if lowered ∈ ["movie", "movies", "film"] then some .movie
    else if lowered ∈ ["tv", "show", "series", "tvshow"] then some .tv
    else none
  else none

def coerceTruthy : Json → Bool
  | .bool value => value
  | .int value => value ≠ 0
  | .float value _ => value ≠ 0
  | .text value =>
      reader.alphabet.lower (strip value)
      ∈ ["true", "1", "yes", "y", "available", "completed", "done", "downloaded", "ready"]
  | _ => false

def isStatusAvailable : Json → Bool
  | .bool value => value
  | .int value => value = 5
  | .text value =>
      reader.alphabet.lower value
      ∈ ["available", "fulfilled", "completed", "done", "downloaded", "ready"]
  | _ => false

def isEpisodeEntryAvailable (entry : Document) : Bool :=
  let mediaInfo := Document.dictAt entry "mediaInfo"
  ["available", "hasFile", "hasFile4k", "isAvailable", "downloaded"].any (fun key =>
    coerceTruthy reader (Document.field entry key))
  || ["available", "hasFile", "hasFile4k"].any (fun key =>
    coerceTruthy reader (Document.field mediaInfo key))
  || ["status", "state", "status4k", "downloadStatus", "downloadStatus4k", "availability"].any
    (fun key => isStatusAvailable reader (Document.field entry key))

def isSeasonEntryAvailable (entry : Document) : Bool :=
  let episodes := listAt entry "episodes"
  ["status", "state", "status4k"].any (fun key =>
    isStatusAvailable reader (Document.field entry key))
  || coerceTruthy reader (Document.field entry "available")
  || episodes ≠ []
    && episodes.all (fun episode => episode.asDict?.any (isEpisodeEntryAvailable reader))

/-- The entries of the seasons in a payload; a bare number stands for an entry with it. -/
def seasonPayloads (payload : Document) : List Document :=
  ["seasonRequests", "seasons"].flatMap (fun key =>
    (listAt payload key).map (fun entry =>
      entry.asDict?.getD ((∅ : Document).set "seasonNumber" entry)))

/-- The entries of the request's seasons, and of those its media lists. -/
def collectRequestSeasonPayloads (request : Document) (includeRelated : Bool) : List Document :=
  seasonPayloads request
  ++ if includeRelated then
      seasonPayloads (Document.dictAt request "media")
      ++ seasonPayloads (Document.dictAt request "mediaInfo")
    else []

def seasonNumber (entry : Document) : Option Int :=
  tryParseInt reader (anyOf entry ["seasonNumber", "season", "number"])

def extractRequestSeasons (request : Document) : List Int :=
  ((collectRequestSeasonPayloads request false).filterMap (seasonNumber reader)).foldl
    (fun numbers number => if number ∈ numbers then numbers else numbers ++ [number]) []

/-- The entries of seasons that several payloads and their media list. -/
def collectSeasonEntries (sources : List Document) : List Document :=
  sources.flatMap (fun source =>
    dictsOf (listAt source "seasons" ++ listAt (Document.dictAt source "media") "seasons"))

/-- The request with what it says of its media. -/
def relatedSources (request : Document) : List Document :=
  request
  :: [Document.dictAt? request "media", Document.dictAt? request "mediaInfo"].reduceOption

/-- The release dates of seasons; a later entry of a season wins. -/
def seasonReleaseMap (request : Document) : Dict Int Timestamp :=
  (collectSeasonEntries (relatedSources request)).foldl
    (fun mapping entry =>
      match seasonNumber reader entry,
        reader.parseDateValue (anyOf entry ["airDate", "releaseDate", "firstAirDate"]) with
      | some number, some date => mapping.set number date
      | _, _ => mapping)
    ∅

/-- How many episodes an entry says its season has. -/
def episodeCount? (entry : Document) : Option Int :=
  let episodes := listAt entry "episodes"
  if episodes ≠ [] then some episodes.length
  else
    ["episodeCount", "episode_count", "episodesCount", "episodes_count"].findSome? (fun key =>
      (tryParseInt reader (Document.field entry key)).filter (· ≠ 0))

def getEpisodeCountForSeason (sources : List Document) (season : Int) : Option Int :=
  ((collectSeasonEntries sources).filter (fun entry =>
    seasonNumber reader entry = some season)).findSome? (episodeCount? reader)

/-- Episodes that are only counted are pending. -/
def placeholders (count : Option Int) : List EpisodeStatus :=
  (List.range (count.getD 0).toNat).map (fun index => ⟨index + 1, .pending⟩)

/-- The entry of a season that lists the most episodes. -/
def bestEntry (request : Document) (season : Int) : Option Document :=
  ((collectRequestSeasonPayloads request true).filter (fun entry =>
      seasonNumber reader entry = some season)).foldl
    (fun best entry =>
      match best with
      | none => some entry
      | some chosen =>
          if (listAt chosen "episodes").length < (listAt entry "episodes").length then some entry
          else some chosen)
    none

def describeEpisode (entry : Document) : Option EpisodeStatus :=
  (tryParseInt reader (anyOf entry ["episodeNumber", "episode", "number"])).map (fun number =>
    let release :=
      reader.parseDateValue (anyOf entry ["airDate", "releaseDate", "availableDate", "firstAired"])
    let status :=
      if isEpisodeEntryAvailable reader entry then .available
      else if release.any (reader.now < ·) then .unreleased
      else .pending
    ⟨number, status⟩)

/-- The episodes of a season without a list: those of Trakt, or as many as are counted. -/
def unlistedEpisodes (request : Document) (season : Int) : List EpisodeStatus :=
  (reader.traktEpisodes request season).getD
    (placeholders (getEpisodeCountForSeason reader (relatedSources request) season))

def describeEpisodeStatuses (request : Document) (season : Int) : List EpisodeStatus :=
  if season ∉ extractRequestSeasons reader request then []
  else
    let episodes := ((bestEntry reader request season).map (listAt · "episodes")).getD []
    if episodes = [] then unlistedEpisodes reader request season
    else
      let described :=
        ((dictsOf episodes).filterMap (describeEpisode reader)).insertionSort (fun left right =>
          left.episode ≤ right.episode)
      if described = [] then (reader.traktEpisodes request season).getD [] else described

/-- The numbers of pending episodes; nothing is said of a season without episodes. -/
def getPendingEpisodeNumbers (request : Document) (season : Option Int) : Option (List Int) :=
  season.bind (fun season =>
    let details := describeEpisodeStatuses reader request season
    if details = [] then none
    else
      let pending := (details.filter (·.status = .pending)).map (·.episode)
      some (pending.dedup.insertionSort (· ≤ ·)))

inductive SeasonState
  | available
  | partial_
  | pending
  | unreleased
  | unknown
deriving DecidableEq

structure SeasonStatus where
  season : Int
  status : SeasonState
  pending : List Int
deriving DecidableEq

def countOf (episodes : List EpisodeStatus) (state : EpisodeState) : Nat :=
  (episodes.filter (·.status = state)).length

def describeSeason (request : Document) (season : Int) : SeasonStatus :=
  let episodes := describeEpisodeStatuses reader request season
  let available := countOf episodes .available
  let pending := countOf episodes .pending
  let release := (seasonReleaseMap reader request).get? season
  if release.any (reader.now < ·) ∧ available = 0 ∧ pending = 0 then
    ⟨season, .unreleased, []⟩
  else if episodes.length = 0 then
    match getPendingEpisodeNumbers reader request (some season) with
    | none => ⟨season, .unknown, []⟩
    | some [] => ⟨season, .available, []⟩
    | some numbers => ⟨season, .pending, numbers⟩
  else
    let status :=
      if available = episodes.length then .available
      else if available = 0 ∧ 0 < pending then .pending
      else if available = 0 ∧ pending = 0 ∧ 0 < countOf episodes .unreleased then .unreleased
      else .partial_
    ⟨season, status, (episodes.filter (·.status = .pending)).map (·.episode)⟩

def describeSeasonStatuses (request : Document) : List SeasonStatus :=
  ((extractRequestSeasons reader request).insertionSort (· ≤ ·)).map (describeSeason reader request)

def selectScanSeasons (statuses : List SeasonStatus) (skipAvailable skipUnreleased : Bool)
    : List Int :=
  (statuses.filter (fun entry =>
    !(skipAvailable && entry.status = .available)
    && !(skipUnreleased && entry.status = .unreleased))).map (·.season)

/-- The payload and what it says of its media, where something is said. -/
def collectMetadataSources (payload : Document) : List Document :=
  (payload
  :: [Document.dictAt? payload "mediaInfo", Document.dictAt? payload "media"].reduceOption).filter
    (·.items ≠ [])

def releaseKeys : List String :=
  ["airDate", "releaseDate", "inCinemaDate", "physicalRelease", "digitalRelease", "firstAirDate",
    "startDate", "start_date"]

def requestReleaseDate (request : Document) : Option Timestamp :=
  ((collectMetadataSources request).flatMap (fun source =>
    releaseKeys.filterMap (fun key => reader.parseDateValue (Document.field source key)))).min?

def isRequestUnreleased (request : Document) : Bool :=
  (requestReleaseDate reader request).any (reader.now < ·)

def filterUnreleasedSeasons (request : Document) (seasons : List Int) : List Int :=
  let mapping := seasonReleaseMap reader request
  seasons.filter (fun season => !(mapping.get? season).any (reader.now < ·))

end Seasons

end OctoHubs.Requests
