import Mathlib.Data.List.Basic
import OctoHubs.Library.Splitting
import OctoHubs.UserItems.Playstates

/-! Looking items up in a user's library: by the keys of other servers and by signatures. -/

namespace OctoHubs.UserItems

open OctoHubs.Library

/-- What is asked of a library. An empty text is a parameter that is not sent. -/
structure ItemQuery where
  includeItemTypes : String
  anyProviderIdEquals : String
  searchTerm : String
  unplayedOnly : Bool
  limit : Option Nat
deriving DecidableEq

/-- What a server answers for a user, or that it fails. -/
structure Api where
  items : ItemQuery → Option (List LibraryItem)
  episodes : String → String → Option (List LibraryItem)

/-- An item is listed once and under an id only. -/
def addUnseen (items : List LibraryItem) (item : LibraryItem) : List LibraryItem :=
  if item.id = "" ∨ items.any (·.id = item.id) then items else items ++ [item]

def unseen (items : List LibraryItem) : List LibraryItem := items.foldl addUnseen []

/-- An episode by an id of its series. -/
structure SeriesPosition where
  provider : String
  providerId : String
  season : String
  episode : String
deriving DecidableEq

def seriesPrefixes : List (String × String) :=
  [("series-tmdb:", "tmdb"), ("series-imdb:", "imdb"), ("series-tvdb:", "tvdb")]

def startsWith (text lead : String) : Bool := lead.toList.isPrefixOf text.toList

def afterPrefix (text lead : String) : List Char := text.toList.drop lead.toList.length

/-- The parts of a position, all of which must be there. -/
def readSeriesPosition (provider : String) (raw : List Char) : Option SeriesPosition := do
  let (id, rest) ← splitFirst [':', 's'] raw
  let (season, episode) ← splitFirst [':', 'e'] rest
  if id = [] ∨ season = [] ∨ episode = [] then none
  else some ⟨provider, String.ofList id, String.ofList season, String.ofList episode⟩

def parseSeriesProviderKey (key : String) : Option SeriesPosition := do
  let (lead, provider) ← seriesPrefixes.find? (fun (lead, _) => startsWith key lead)
  readSeriesPosition provider (afterPrefix key lead)

structure FallbackEpisode where
  series : String
  season : String
  episode : String
deriving DecidableEq

def parseFallbackEpisodeKey (key : String) : Option FallbackEpisode :=
  if startsWith key "fallback-episode:" then do
    let (series, rest) ← splitLast ['|', 's'] (afterPrefix key "fallback-episode:")
    let (season, episode) ← splitFirst ['|', 'e'] rest
    if series = [] ∨ season = [] ∨ episode = [] then none
    else some ⟨String.ofList series, String.ofList season, String.ofList episode⟩
  else none

structure FallbackMovie where
  title : String
  year : String
deriving DecidableEq

def parseFallbackMovieKey (key : String) : Option FallbackMovie :=
  if startsWith key "fallback-movie:" then do
    let (title, year) ← splitLast ['|', 'y'] (afterPrefix key "fallback-movie:")
    if title = [] ∨ year = [] then none else some ⟨String.ofList title, String.ofList year⟩
  else none

section Lookup

variable (rules : Alphabet)

/-- A key as servers search for it. Keys of series are searched for in another way. -/
def formatProviderToken (key : String) : Option String :=
  if key = "" ∨ seriesPrefixes.any (fun (lead, _) => startsWith key lead) then none
  else
    match key.toList.span (· ≠ ':') with
    | (_, []) => if '.' ∈ key.toList then some key else none
    | (lead, _ :: tail) =>
        let provider := rules.lower (strip (String.ofList lead))
        let id := strip (String.ofList tail)
        if provider = "" ∨ id = "" then none else some (provider ++ "." ++ id)

def providerQuery (tokens : List String) (includePlayed : Bool) : ItemQuery where
  includeItemTypes := "Movie,Episode"
  anyProviderIdEquals := ",".intercalate tokens
  searchTerm := ""
  unplayedOnly := !includePlayed
  limit := none

def seriesQuery (parsed : SeriesPosition) : ItemQuery where
  includeItemTypes := "Series"
  anyProviderIdEquals := parsed.provider ++ "." ++ parsed.providerId
  searchTerm := ""
  unplayedOnly := false
  limit := none

/-- The season and the number of an episode, where a value that counts as false is empty. -/
def isAt (season episode : String) (item : LibraryItem) : Bool :=
  (Document.field item.details "IndexNumber").textOr rules "" = episode
  && (Document.field item.details "ParentIndexNumber").textOr rules "" = season

/-- An episode that was found by an id of its series carries the id. -/
def withSeriesProvider (parsed : SeriesPosition) (item : LibraryItem) : LibraryItem :=
  let ids := Document.dictAt item.details "SeriesProviderIds"
  { item with
    details :=
      item.details.set "SeriesProviderIds"
        (.ofDict (ids.set parsed.provider (.text parsed.providerId))) }

def episodesAtPosition (api : Api) (includePlayed : Bool) (parsed : SeriesPosition)
    : Option (List LibraryItem) := do
  let series ← api.items (seriesQuery parsed)
  let seasons ← (series.filter (·.id ≠ "")).mapM (fun show_ => api.episodes show_.id parsed.season)
  let found :=
    seasons.flatten.filter (fun item =>
      isAt rules parsed.season parsed.episode item && (includePlayed || !item.userData.played))
  return found.map (withSeriesProvider parsed)

def fetchEmbyItemsBySeriesProviderKeys (api : Api) (providerKeys : List String)
    (includePlayed : Bool)
    : Option (List LibraryItem) := do
  let found ←
    (providerKeys.filterMap parseSeriesProviderKey).mapM
      (episodesAtPosition rules api includePlayed)
  return unseen found.flatten

def fetchEmbyItemsByProviderIds (api : Api) (providerKeys : List String) (includePlayed : Bool)
    : Option (List LibraryItem) := do
  let chunks := (providerKeys.filterMap (formatProviderToken rules)).toChunks 100
  let found ← chunks.mapM (fun tokens => api.items (providerQuery tokens includePlayed))
  let episodes ← fetchEmbyItemsBySeriesProviderKeys rules api providerKeys includePlayed
  return unseen (found.flatten ++ episodes)

def searchQuery (types term : String) (limit : Option Nat) : ItemQuery where
  includeItemTypes := types
  anyProviderIdEquals := ""
  searchTerm := term
  unplayedOnly := false
  limit := limit

def isCalled (name : String) (series : LibraryItem) : Bool :=
  normalizeString rules (fieldOr series.details "Name" "SortName") = name
  || normalizeString rules (Document.field series.details "OriginalTitle") = name

def fetchEpisodeItemsByFallbackKey (api : Api) (key : String) (parsed : FallbackEpisode)
    : Option (List LibraryItem) := do
  let series ← api.items (searchQuery "Series" parsed.series (some 100))
  let called := series.filter (isCalled rules parsed.series)
  let seasons ← (called.filter (·.id ≠ "")).mapM (fun show_ => api.episodes show_.id parsed.season)
  return seasons.flatten.filter (fun item =>
    isAt rules parsed.season parsed.episode item && key ∈ itemSyncKeys rules item.details)

def fetchMovieItemsByFallbackKey (api : Api) (key : String) (parsed : FallbackMovie)
    : Option (List LibraryItem) := do
  let movies ← api.items (searchQuery "Movie" parsed.title (some 50))
  return movies.filter (fun item => key ∈ itemSyncKeys rules item.details)

def fetchItemsByFallbackKey (api : Api) (key : String) : Option (List LibraryItem) :=
  match parseFallbackEpisodeKey key, parseFallbackMovieKey key with
  | some parsed, _ => fetchEpisodeItemsByFallbackKey rules api key parsed
  | none, some parsed => fetchMovieItemsByFallbackKey rules api key parsed
  | none, none => some []

def signatureType : FallbackSignature → String
  | .movie .. => "Movie"
  | .episode .. => "Episode"

def searchTerms (item : Item) (signature : FallbackSignature) : List String :=
  let values :=
    match signature with
    | .movie .. => [Document.field item "Name", Document.field item "OriginalTitle"]
    | .episode .. => [Document.field item "SeriesName", Document.field item "Name"]
  (values.map (fun value => strip (value.textOr rules ""))).filter (· ≠ "")

/-- The one item with the signature of another. Several ones are an error. -/
def fetchEmbyItemsBySafeFallback (api : Api) (sourceItem : Item) : Option (List LibraryItem) :=
  match safeFallbackSignature rules sourceItem with
  | none => some []
  | some signature => do
      let found ←
        (searchTerms rules sourceItem signature).mapM (fun term =>
          api.items (searchQuery (signatureType signature) term none))
      let matching :=
        unseen (found.flatten.filter (fun item =>
          matchesSafeFallbackSignature rules item.details signature))
      if matching.length ≤ 1 then return matching else none

end Lookup

end OctoHubs.UserItems
