import Mathlib.Data.List.Dedup
import OctoHubs.Library.Coercions

/-! The keys by which an item of one server is found on another, and the signature by which an
item without provider ids is recognised.
-/

namespace OctoHubs.UserItems

open OctoHubs.Library

/-- An item as a server returns it. -/
abbrev Item := Document

/-- The value of the first field that counts as true, or of the second one. -/
def fieldOr (item : Item) (key other : String) : Json :=
  let value := Document.field item key
  if value.truthy then value else Document.field item other

/-- What an item is, such as a movie, if it is said by a text. -/
def itemType (item : Item) : Option String :=
  match fieldOr item "Type" "ItemType" with
  | .text name => some name
  | _ => none

def runtimeToleranceTicks : Int := 3 * 60 * 10000000

def providerPriority : List String := ["tmdb", "tvdb", "imdb"]

def providerAliases : List (String × String) :=
  [ ("themoviedb", "tmdb"),
    ("tmdb", "tmdb"),
    ("imdb", "imdb"),
    ("thetvdb", "tvdb"),
    ("tvdb", "tvdb") ]

section Matching

variable (rules : Alphabet)

def normalizeString (value : Json) : String := rules.lower (strip (value.textOr rules ""))

def providerName (rawKey : String) : String :=
  (providerAliases.lookup (rules.lower rawKey)).getD (rules.lower rawKey)

/-- The ids under the names of their providers; a later spelling of a provider wins. -/
def providerIds (item : Item) (key : String) : Document :=
  (Document.dictAt item key).items.foldl
    (fun normalized (rawKey, value) =>
      if value.truthy then normalized.set (providerName rules rawKey) value else normalized)
    ∅

def episodePosition (item : Item) : Option (String × String) :=
  match Document.field item "ParentIndexNumber", Document.field item "IndexNumber" with
  | .null, _ => none
  | _, .null => none
  | season, episode => some (season.asText rules, episode.asText rules)

def firstProviderId (ids : Document) : Option (String × Json) :=
  providerPriority.findSome? (fun provider =>
    let id := Document.field ids provider
    if id.truthy then some (provider, id) else none)

def isProviderKey (key : String) : Bool :=
  ["tmdb:", "imdb:", "tvdb:", "series-tmdb:", "series-imdb:", "series-tvdb:"].any
    (fun lead => lead.toList.isPrefixOf key.toList)

inductive FallbackSignature
  | movie (title originalTitle year : String) (runtime : Int)
  | episode (series season episode : String) (runtime : Int)
deriving DecidableEq

def runtimeTicks (item : Item) : Int :=
  let value := Document.field item "RunTimeTicks"
  if value.truthy then (value.toInt? rules).getD 0 else 0

/-- The signature of an item that has a title, a place in time or in its series, and a length. -/
def safeFallbackSignature (item : Item) : Option FallbackSignature :=
  let runtime := runtimeTicks rules item
  if runtime = 0 then none
  else if itemType item = some "Movie" then
    let title := normalizeString rules (Document.field item "Name")
    let originalTitle := normalizeString rules (Document.field item "OriginalTitle")
    let year := Document.field item "ProductionYear"
    if title = "" ∨ year.truthy = false then none
    else some (.movie title originalTitle (year.asText rules) runtime)
  else if itemType item = some "Episode" then
    let series := normalizeString rules (Document.field item "SeriesName")
    if series = "" then none
    else
      (episodePosition rules item).map (fun (season, episode) =>
        .episode series season episode runtime)
  else none

def matchesSafeFallbackSignature (candidate : Item) (signature : FallbackSignature) : Bool :=
  let runtime := runtimeTicks rules candidate
  let near (expected : Int) : Bool :=
    runtime ≠ 0 && (runtime - expected).natAbs ≤ runtimeToleranceTicks
  match signature with
  | .movie title originalTitle year expected =>
      let titles :=
        [ normalizeString rules (Document.field candidate "Name"),
          normalizeString rules (Document.field candidate "OriginalTitle") ]
      let allowed := [title, originalTitle].filter (· ≠ "")
      itemType candidate = some "Movie" && near expected
      && (Document.field candidate "ProductionYear").textOr rules "" = year
      && titles.any (· ∈ allowed)
  | .episode series season episode expected =>
      itemType candidate = some "Episode" && near expected
      && normalizeString rules (Document.field candidate "SeriesName") = series
      && (Document.field candidate "ParentIndexNumber").textOr rules "" = season
      && (Document.field candidate "IndexNumber").textOr rules "" = episode

/-- A part of a key, without the bars that separate the parts. -/
def fallbackKeyPart (value : Json) : String :=
  let text := normalizeString rules value
  strip (String.ofList (text.toList.map (fun c => if c = '|' then ' ' else c)))

def fallbackEpisodeKey (series season episode : String) : String :=
  "fallback-episode:" ++ (series ++ "|s" ++ (season ++ "|e" ++ episode))

def fallbackMovieKey (title year : String) : String :=
  "fallback-movie:" ++ (title ++ "|y" ++ year)

/-- Keys for an item without provider ids: by series and position, or by title and year. -/
def safeFallbackKeys (item : Item) : List String :=
  if itemType item = some "Episode" then
    let series := fallbackKeyPart rules (Document.field item "SeriesName")
    let season := fallbackKeyPart rules (Document.field item "ParentIndexNumber")
    let episode := fallbackKeyPart rules (Document.field item "IndexNumber")
    if series ≠ "" ∧ season ≠ "" ∧ episode ≠ "" then [fallbackEpisodeKey series season episode]
    else []
  else
    match safeFallbackSignature rules item with
    | some (.movie title originalTitle year _) =>
        let year := fallbackKeyPart rules (.text year)
        let titles :=
          [fallbackKeyPart rules (.text title), fallbackKeyPart rules (.text originalTitle)]
        let named := titles.filter (fun title => title ≠ "" && year ≠ "")
        (named.map (fallbackMovieKey · year)).dedup
    | _ => []

def seriesKey (provider id season episode : String) : String :=
  "series-" ++ (provider ++ ":" ++ (id ++ ":s" ++ (season ++ ":e" ++ episode)))

def providerKey (provider id : String) : String := provider ++ ":" ++ id

/-- The provider of an episode's series with the id there and the episode's position. -/
def seriesPosition? (item : Item) : Option (String × Json × String × String) :=
  if itemType item = some "Episode" then
    (episodePosition rules item).bind (fun (season, episode) =>
      (firstProviderId (providerIds rules item "SeriesProviderIds")).map (fun (provider, id) =>
        (provider, id, season, episode)))
  else none

def itemSyncKeys (item : Item) : List String :=
  match seriesPosition? rules item with
  | some (provider, id, season, episode) => [seriesKey provider (id.asText rules) season episode]
  | none =>
      match firstProviderId (providerIds rules item "ProviderIds") with
      | some (provider, id) => [providerKey provider (id.asText rules)]
      | none => safeFallbackKeys rules item

end Matching

/-- An alphabet without letter cases. -/
def plainRules : Alphabet := ⟨id, Char.isAlphanum, String.toInt?, fun _ => ""⟩

def itemOf (fields : List (String × Json)) : Item :=
  fields.foldl (fun item (key, value) => item.set key value) ∅

end OctoHubs.UserItems
