import OctoHubs.Requests.SeasonStates

/-! The scan of the requests and the dashboard's row of a request, which says whether the scan will
pass it over.
-/

namespace OctoHubs.Requests

open OctoHubs.Library

/-- A request as it is listed, with its details, which are those of its id, and the rule that is
stored for it.
-/
structure SeerrRequest where
  id : Int
  identified : id ≠ 0
  payload : Document
  details : Option Document
  rule : Json

/-- The settings, and what is looked up of a medium. -/
structure ScanSettings where
  reader : SeasonReader
  skipAvailable : Bool
  skipUnreleased : Bool
  fetchMediaInfo : Document → Json → Option Document × Option MediaType

/-- Details without anything in them count as missing. -/
def fetchRequestDetails (request : SeerrRequest) : Option Document :=
  request.details.filter (·.items ≠ [])

section Availability

variable (reader : SeasonReader)

def mediaField (payload : Document) (key : String) : Json :=
  Document.field (Document.dictAt payload "media") key

def requestStatusAvailable (request : Document) : Bool :=
  let mediaStatus := mediaField request "status"
  let status := Document.field request "status"
  isStatusAvailable reader
    (if mediaStatus.truthy then mediaStatus
    else if status.truthy then status
    else Document.field (Document.dictAt request "mediaInfo") "status")

def seasonStatusesAvailable (statuses : List SeasonStatus) : Bool :=
  statuses ≠ [] && statuses.all (·.status = .available)

/-- The states of seasons that a row of the dashboard carries. -/
def cachedStatusesAvailable (statuses : List Json) : Bool :=
  let entries := dictsOf statuses
  entries ≠ []
  && entries.all (fun entry =>
    reader.alphabet.lower ((Document.field entry "status").textOr reader.alphabet "") = "available")

def seasonPayloadsAvailable (request : Document) : Bool :=
  let payloads := collectRequestSeasonPayloads request true
  payloads ≠ [] && payloads.all (isSeasonEntryAvailable reader)

/-- The type that any of the fields for it says. -/
def availabilityType (request : Document) : Option MediaType :=
  let own := anyOf request ["media_type", "type"]
  let media := mediaField request "mediaType"
  normalizeMediaType reader
    (if own.truthy then own
    else if media.truthy then media
    else Document.field (Document.dictAt request "mediaInfo") "mediaType")

def isRequestAvailable (request : Document) (statuses : Option (List SeasonStatus)) : Bool :=
  (match Document.field request "is_available" with
    | .bool true => true
    | _ => false)
  || requestStatusAvailable reader request
  || availabilityType reader request = some .tv
    && match statuses, (Document.field request "season_status").asList? with
      | some statuses, _ => seasonStatusesAvailable statuses
      | none, some cached => cachedStatusesAvailable reader cached
      | none, none => seasonPayloadsAvailable reader request

end Availability

/-- Whether a list of titles has one. -/
def hasListedTitle (values : Json) : Bool :=
  (dictsOf (values.asList?.getD [])).any (fun entry => (anyOf entry ["title", "name"]).truthy)

/-- The first field that is neither missing nor an empty text. -/
def firstAvailableField (payload : Document) (keys : List String) : Json :=
  ((keys.map (Document.field payload)).find? (fun value =>
    match value with
    | .null => false
    | .text text => text ≠ ""
    | _ => true)).getD .null

def isTitled (source : Document) : Bool :=
  (firstAvailableField source
    ["title", "name", "originalTitle", "originalName", "displayName"]).truthy
  || hasListedTitle (Document.field source "titles")
  || hasListedTitle (Document.field source "alternativeTitles")

/-- Whether a title is found in a request or in further payloads. -/
def hasTitle (request : Document) (extraSources : List Document) : Bool :=
  ((request :: extraSources).flatMap collectMetadataSources).any isTitled

/-- The type of a request, by itself or by its medium. -/
def typeOf (request : Document) : Json :=
  let own := Document.field request "type"
  if own.truthy then own else mediaField request "mediaType"

/-- The dictionaries under a payload's keys for media. -/
def mediaSources (payload : Document) : List Document :=
  [Document.dictAt? payload "media", Document.dictAt? payload "mediaInfo"].reduceOption

/-- The medium of the later payload, if it says something of it. -/
def mediaOf (payload earlier : Document) : Document :=
  let media := Document.dictAt payload "media"
  if media.items ≠ [] then media else earlier

section Scan

variable (settings : ScanSettings)

/-- A stored rule switches its request off by a value that counts as false, or by a word for it. -/
def ruleEnabled (rule : Json) : Bool :=
  match rule.asDict? with
  | none => true
  | some entry =>
      match Document.field entry "enabled" with
      | .null => true
      | .text value => settings.reader.alphabet.lower value ∉ ["false", "0", "no"]
      | value => value.truthy

/-- The numeric status of a medium that is fully there; numbers are compared by value. -/
def isListedAvailable (request : Document) : Bool :=
  match mediaField request "status" with
  | .int value => value = 5
  | .float value _ => value = 5
  | _ => false

def filterRequests (requests : List SeerrRequest) : List SeerrRequest :=
  requests.filter (fun request =>
    !(settings.skipAvailable && isListedAvailable request.payload)
    && !(settings.skipUnreleased && isRequestUnreleased settings.reader request.payload)
    && ruleEnabled settings request.rule)

def isTv (value : Json) : Bool := normalizeMediaType settings.reader value = some .tv

/-- Series are scanned by their details where something may be skipped. -/
def preparedPayload (request : SeerrRequest) : Document :=
  if isTv settings (typeOf request.payload)
      && (settings.skipAvailable || settings.skipUnreleased) then
    (fetchRequestDetails request).getD request.payload
  else request.payload

def prepareRequests (requests : List SeerrRequest) : List (SeerrRequest × Document) :=
  requests.map (fun request => (request, preparedPayload settings request))

/-- The seasons to scan, none of them where the request is scanned as a whole; nothing where every
season is skipped.
-/
def requestScanSeasons (payload : Document) : Option (List Int) :=
  if isTv settings (typeOf payload) then
    let overview := describeSeasonStatuses settings.reader payload
    let seasons := selectScanSeasons overview settings.skipAvailable settings.skipUnreleased
    if seasons ≠ [] then some seasons
    else if overview ≠ [] then none
    else
      let asked := extractRequestSeasons settings.reader payload
      some
        (if settings.skipUnreleased then filterUnreleasedSeasons settings.reader payload asked
        else asked)
  else some []

structure Job where
  request : SeerrRequest
  payload : Document
  seasons : List (Option Int)

def buildJobQueue (prepared : List (SeerrRequest × Document)) : List Job :=
  prepared.filterMap (fun (request, payload) =>
    (requestScanSeasons settings payload).map (fun seasons =>
      ⟨request, payload, if seasons = [] then [none] else seasons.map some⟩))

structure RequestSearchContext where
  baseData : Document
  mediaType : Option MediaType
  overview : List SeasonStatus

/-- A payload with what was read of it so far. -/
structure Hydrated where
  baseData : Document
  mediaInfo : Document
  mediaType : Json
  titled : Bool
  extraSources : List Document
  replaced : Bool

def firstTruthy (value other : Json) : Json := if value.truthy then value else other

/-- The details take the place of the payload. -/
def Hydrated.withDetails (hydrated : Hydrated) (detailed : Document) : Hydrated :=
  let extraSources := hydrated.extraSources ++ detailed :: mediaSources detailed
  { baseData := detailed
    mediaInfo := mediaOf detailed hydrated.mediaInfo
    mediaType := firstTruthy (typeOf detailed) hydrated.mediaType
    titled := hasTitle detailed extraSources
    extraSources := extraSources
    replaced := true }

/-- The details are read where a title or a type is missing, and of series that may be available. -/
def hydrateRequestData (request : SeerrRequest) (payload : Document)
    : Hydrated × Option MediaType :=
  let hydrated : Hydrated :=
    { baseData := payload
      mediaInfo := Document.dictAt payload "media"
      mediaType := typeOf payload
      titled := hasTitle payload []
      extraSources := []
      replaced := false }
  let hydrated :=
    if hydrated.titled && hydrated.mediaType.truthy then hydrated
    else (fetchRequestDetails request).elim hydrated hydrated.withDetails
  let normalized := normalizeMediaType settings.reader hydrated.mediaType
  let hydrated :=
    if settings.skipAvailable && normalized = some .tv && !hydrated.replaced then
      (fetchRequestDetails request).elim hydrated hydrated.withDetails
    else hydrated
  (hydrated, normalized)

/-- What is known of the medium itself, where no title was found. -/
def hydrateMissingTitle (hydrated : Hydrated) : Bool × Bool :=
  if hydrated.titled then (true, hydrated.mediaType.truthy)
  else
    let (details, resolved) := settings.fetchMediaInfo hydrated.mediaInfo hydrated.mediaType
    let other := Document.dictAt hydrated.baseData "mediaInfo"
    let (details, resolved) :=
      match details with
      | some details => (some details, resolved)
      | none =>
          if other.items ≠ [] then
            match settings.fetchMediaInfo other hydrated.mediaType with
            | (some details, type) => (some details, resolved.or type)
            | (none, _) => (none, resolved)
          else (none, resolved)
    let titled :=
      match details with
      | some details => hasTitle hydrated.baseData (hydrated.extraSources ++ [details])
      | none => false
    (titled, hydrated.mediaType.truthy || resolved.isSome)

/-- A request without a title or a type is left out. -/
def resolveRequestContext (request : SeerrRequest) (payload : Document)
    : Option RequestSearchContext :=
  let (hydrated, mediaType) := hydrateRequestData settings request payload
  let (titled, typed) := hydrateMissingTitle settings hydrated
  if typed && titled then
    -- the overview of the queue is used where there is one
    let queued :=
      if isTv settings (typeOf payload) then describeSeasonStatuses settings.reader payload else []
    let overview :=
      if mediaType = some .tv then
        if queued ≠ [] then queued else describeSeasonStatuses settings.reader hydrated.baseData
      else []
    some ⟨hydrated.baseData, mediaType, overview⟩
  else none

def normalizePending (pending : List Int) : List Int :=
  (pending.filter (0 < ·)).dedup.insertionSort (· ≤ ·)

/-- Whether a season has no episode left to search for, as far as its episodes are known. -/
def isSeasonComplete (context : RequestSearchContext) (season : Option Int) : Bool :=
  if settings.skipAvailable && context.mediaType = some .tv then
    let entry := (context.overview.filter (fun entry => some entry.season = season)).getLast?
    let pending :=
      match entry with
      | some entry => some entry.pending
      | none => getPendingEpisodeNumbers settings.reader context.baseData season
    pending.map normalizePending = some []
  else false

/-- The searches of a request, by the seasons that are searched for. -/
def processJob (job : Job) : List (Int × Option Int) :=
  match resolveRequestContext settings job.request job.payload with
  | none => []
  | some context =>
      (job.seasons.filter (fun season => !isSeasonComplete settings context season)).map
        (job.request.id, ·)

/-- The searches of a scan that is not stopped. -/
def runRequestScan (requests : List SeerrRequest) : List (Int × Option Int) :=
  (buildJobQueue settings (prepareRequests settings (filterRequests settings requests))).flatMap
    (processJob settings)

/-- The payload that the dashboard starts from: the details of series that are not available. -/
def enrichedPayload (request : SeerrRequest) : Document :=
  if isTv settings (typeOf request.payload)
      && !isRequestAvailable settings.reader request.payload none then
    (fetchRequestDetails request).getD request.payload
  else request.payload

/-- The payloads in which the dashboard looks for a title besides the first one. -/
def summarySources (payload : Document) : List Document :=
  (mediaSources payload).flatMap (fun media =>
    media :: (Document.dictAt? media "mediaInfo").toList)

/-- The payload of a row and its type. -/
def resolveRequestMetadataForSummary (request : SeerrRequest) (payload : Document)
    (forceDetails : Bool)
    : Document × Option MediaType :=
  let hydrated : Hydrated :=
    { baseData := payload
      mediaInfo := Document.dictAt payload "media"
      mediaType := typeOf payload
      titled := hasTitle payload (summarySources payload)
      extraSources := summarySources payload
      replaced := false }
  let hydrated :=
    if forceDetails || !hydrated.titled || !hydrated.mediaType.truthy then
      (fetchRequestDetails request).elim hydrated hydrated.withDetails
    else hydrated
  let mediaType :=
    if hydrated.mediaType.truthy then normalizeMediaType settings.reader hydrated.mediaType
    else if hydrated.titled then none
    else
      match settings.fetchMediaInfo hydrated.mediaInfo hydrated.mediaType with
      | (some _, resolved) => resolved
      | (none, _) => none
  (hydrated.baseData, mediaType)

structure SummaryRow where
  id : Int
  isAvailable : Bool
  isUnreleased : Bool
  willSkip : Bool
  seasonStatus : List SeasonStatus
  enabled : Bool

def summarizeRequest (request : SeerrRequest) : SummaryRow :=
  let payload := enrichedPayload settings request
  let forceDetails :=
    isTv settings (typeOf payload) && !isRequestAvailable settings.reader payload none
  let (base, mediaType) := resolveRequestMetadataForSummary settings request payload forceDetails
  let statuses :=
    if mediaType = some .tv then describeSeasonStatuses settings.reader base else []
  let available := isRequestAvailable settings.reader base (some statuses)
  let unreleased := isRequestUnreleased settings.reader base
  let skipped :=
    mediaType = some .tv && statuses ≠ []
    && selectScanSeasons statuses settings.skipAvailable settings.skipUnreleased = []
  { id := request.id
    isAvailable := available
    isUnreleased := unreleased
    willSkip :=
      settings.skipAvailable && available || settings.skipUnreleased && unreleased || skipped
    seasonStatus := statuses
    enabled := ruleEnabled settings request.rule }

def summarizeRequestsForDashboard (requests : List SeerrRequest) : List SummaryRow :=
  requests.map (summarizeRequest settings)

end Scan

end OctoHubs.Requests
