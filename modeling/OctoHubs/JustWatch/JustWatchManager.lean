import OctoHubs.Library.Coercions
import OctoHubs.Library.Distinct
import OctoHubs.Library.Equality

/-! Where episodes and movies can be watched: what the catalogue replies is remembered as long as
the manager lives, and the answers are stored beyond that.
-/

namespace OctoHubs.JustWatch

open OctoHubs.Library

inductive JustWatchRequest
  | search (title : String)
  | show_ (nodeId : String)
  | offers (nodeId : String)
deriving DecidableEq

/-- What requests are replied with: the edges of a search, or a node. A request may fail. -/
abbrev JustWatchApi := JustWatchRequest → Option Json

/-- Whether something can be watched, and where. -/
abbrev Availability := Bool × List String

structure CachedAvailability where
  isAvailable : Bool
  providers : List String
  lastChecked : Int
deriving DecidableEq

def CachedAvailability.availability (cached : CachedAvailability) : Availability :=
  (cached.isAvailable, cached.providers)

/-- The key of a stored answer: a title with a suffix, a season and an episode. -/
abbrev CacheKey := String × Int × Int

/-- The manager with its storage; what was not found is remembered, too. -/
structure JustWatchManager where
  storage : Dict CacheKey CachedAvailability
  showCache : Dict String (Option Document)
  showDetailsCache : Dict String (Option Document)

/-- A manager that knows nothing. -/
def JustWatchManager.fresh : JustWatchManager := ⟨∅, ∅, ∅⟩

/-- How titles are shortened. -/
structure CatalogueRules extends Alphabet where
  digest : String → String

def titleMaxLength : Nat := 500
def episodeCacheSuffix : String := "::episode-v2"
def movieCacheSuffix : String := "::movie"

/-- A day in microseconds. -/
def recheckAfter : Int := 24 * 60 * 60 * 1000000

variable (rules : CatalogueRules)

-- Keys

/-- A title that fits stands for itself; any other is cut, with a digest at its end. -/
def cacheTitle (showName : String) : String :=
  let title := showName.toList.filter (· ≠ '\x00')
  if '\x00' ∉ showName.toList ∧ title.length ≤ titleMaxLength then showName
  else
    let digest := rules.digest showName
    String.ofList (title.take (titleMaxLength - digest.length - 1)) ++ "~" ++ digest

def episodeCacheKey (showName : String) : String := cacheTitle rules showName ++ episodeCacheSuffix

def movieCacheKey (title : String) : String := cacheTitle rules title ++ movieCacheSuffix

/-- A year of zero counts as none. -/
def yearText (year : Option Int) : String := (year.filter (· ≠ 0)).elim "" toString

def searchKey (title : String) (year : Option Int) (objectType : String) : String :=
  title ++ "::" ++ yearText year ++ "::" ++ objectType

-- Replies

/-- The node with the year, or else the first one. -/
def matchingNode (edges : Json) (year : Option Int) (objectType : String) : Option Document :=
  let nodes :=
    (edges.asList?.getD []).filterMap (fun edge => edge.asDict?.bind (·.dictAt? "node"))
  let candidates := nodes.filter (fun node => (node.field "objectType").equals (.text objectType))
  let dated :=
    year.bind (fun targetYear =>
      candidates.find? (fun node =>
        ((node.dictAt "content").field "originalReleaseYear").equals (.int targetYear)))
  dated.or candidates.head?

def nodeId? (node : Document) : Option String :=
  match node.field "id" with
  | .text id => if id = "" then none else some id
  | _ => none

def showNode? (node : Json) : Option Document :=
  node.asDict?.filter (fun fields => (fields.field "__typename").equals (.text "Show"))

def episodeOffers (details : Document) (season episode : Int) : List Json :=
  let seasons :=
    (((details.field "seasons").asList?.getD []).filterMap Json.asDict?).filter (fun fields =>
      ((fields.dictAt "content").field "seasonNumber").equals (.int season))
  let episodes :=
    (seasons.flatMap (fun fields =>
      (fields.field "episodes").asList?.getD [])).filterMap Json.asDict?
  let wanted :=
    episodes.find? (fun fields =>
      ((fields.dictAt "content").field "episodeNumber").equals (.int episode))
  wanted.elim [] (fun fields => (fields.field "offers").asList?.getD [])

/-- The first value, if it counts as true, or else the second one. -/
def orElse (first second : Json) : Json := if first.truthy then first else second

def validOffers (offers : List Json) : List Document :=
  (offers.filterMap Json.asDict?).filter (fun offer =>
    rules.lower
        ((orElse (offer.field "monetizationType") (offer.field "monetization_type")).asText
          rules.toAlphabet)
      ∈ ["flatrate", "rent", "buy"])

/-- The different names of those who offer something. -/
def extractOfferProviders (offers : List Document) : List String :=
  let labels :=
    offers.filterMap (fun offer =>
      let package :=
        ((offer.dictAt? "package").map (fun package =>
          orElse (package.field "clearName") (package.field "technicalName"))).getD .null
      let label :=
        orElse package (orElse (offer.field "provider_name") (offer.field "package_short_name"))
      if label.truthy then some (label.asText rules.toAlphabet) else none)
  appendNew id none [] labels

def availabilityOf (offers : List Json) : Availability :=
  let valid := validOffers rules offers
  (valid ≠ [], extractOfferProviders rules valid)

-- Checks

/-- A value, the requests that were made for it, and the manager afterwards. -/
structure Asked (α : Type) where
  value : α
  requests : List JustWatchRequest
  manager : JustWatchManager

namespace JustWatchManager

variable (api : JustWatchApi) (manager : JustWatchManager)

/-- A failed search is remembered as one that found nothing. -/
def searchTitle (title : String) (year : Option Int) (objectType : String)
    : Asked (Option Document) :=
  let key := searchKey title year objectType
  match manager.showCache.get? key with
  | some node => ⟨node, [], manager⟩
  | none =>
      let node := (api (.search title)).bind (fun edges => matchingNode edges year objectType)
      ⟨node, [.search title], { manager with showCache := manager.showCache.set key node }⟩

def getShowDetails (nodeId : String) : Asked (Option Document) :=
  match manager.showDetailsCache.get? nodeId with
  | some details => ⟨details, [], manager⟩
  | none =>
      let details := (api (.show_ nodeId)).bind showNode?
      ⟨details, [.show_ nodeId],
        { manager with showDetailsCache := manager.showDetailsCache.set nodeId details }⟩

def getTitleOffers (nodeId : String) : List Json :=
  ((((api (.offers nodeId)).bind Json.asDict?).map (·.field "offers")).bind Json.asList?).getD []

def save (key : CacheKey) (now : Int) (availability : Availability) : JustWatchManager :=
  { manager with
    storage := manager.storage.set key ⟨availability.1, availability.2, now⟩ }

/-- The stored answer, where it is used. Without providers an answer is asked for again. -/
def storedAnswer (key : CacheKey) (now : Int) : Option Availability :=
  (manager.storage.get? key).bind (fun cached =>
    if cached.isAvailable ∧ cached.providers ≠ [] then some (true, cached.providers)
    else if now - cached.lastChecked < recheckAfter ∧ cached.providers ≠ [] then
      some (false, cached.providers)
    else none)

def checkAvailabilityDetails (now : Int) (showName : String) (season episode : Int)
    (year : Option Int)
    : Asked Availability :=
  let key := (episodeCacheKey rules showName, season, episode)
  match manager.storedAnswer key now with
  | some availability => ⟨availability, [], manager⟩
  | none =>
      let searched := manager.searchTitle api showName year "SHOW"
      match searched.value.bind nodeId? with
      | none => ⟨(false, []), searched.requests, searched.manager.save key now (false, [])⟩
      | some nodeId =>
          let details := searched.manager.getShowDetails api nodeId
          let availability :=
            availabilityOf rules (details.value.elim [] (episodeOffers · season episode))
          ⟨availability, searched.requests ++ details.requests,
            details.manager.save key now availability⟩

def checkMovieAvailabilityDetails (now : Int) (title : String) (year : Option Int)
    : Asked Availability :=
  let key := (movieCacheKey rules title, 0, 0)
  match manager.storedAnswer key now with
  | some availability => ⟨availability, [], manager⟩
  | none =>
      let searched := manager.searchTitle api title year "MOVIE"
      match searched.value.bind (fun node => (nodeId? node).map (node, ·)) with
      | none => ⟨(false, []), searched.requests, searched.manager.save key now (false, [])⟩
      | some (node, nodeId) =>
          let searchOffers := (node.field "offers").asList?.getD []
          let offers := if searchOffers = [] then getTitleOffers api nodeId else searchOffers
          let asked := if searchOffers = [] then [.offers nodeId] else []
          let availability := availabilityOf rules offers
          ⟨availability, searched.requests ++ asked, searched.manager.save key now availability⟩

end JustWatchManager

/-- A check of an episode or of a movie. -/
inductive JustWatchCall
  | episode (showName : String) (season number : Int) (year : Option Int)
  | movie (title : String) (year : Option Int)
deriving DecidableEq

namespace JustWatchCall

def title : JustWatchCall → String
  | episode showName _ _ _ => showName
  | movie title _ => title

def year : JustWatchCall → Option Int
  | episode _ _ _ year => year
  | movie _ year => year

def objectType : JustWatchCall → String
  | episode _ _ _ _ => "SHOW"
  | movie _ _ => "MOVIE"

def cacheKey : JustWatchCall → CacheKey
  | episode showName season number _ => (episodeCacheKey rules showName, season, number)
  | movie title _ => (movieCacheKey rules title, 0, 0)

def searchKey (call : JustWatchCall) : String :=
  JustWatch.searchKey call.title call.year call.objectType

/-- Check what a call is about. -/
def check (api : JustWatchApi) (now : Int) (manager : JustWatchManager)
    : JustWatchCall → Asked Availability
  | episode showName season number year =>
      manager.checkAvailabilityDetails rules api now showName season number year
  | movie title year => manager.checkMovieAvailabilityDetails rules api now title year

end JustWatchCall

end OctoHubs.JustWatch
