import Mathlib.Data.Rat.Init
import Mathlib.Algebra.Order.Ring.Rat
import OctoHubs.Latest.NotificationState

/-! What a refresh finds out about one series.
The episodes are grouped by date; each group that shows something new becomes a group of
changes, and the series, its episodes and their history remember what was seen.
-/

namespace OctoHubs.Latest

open OctoHubs.Library

/-- A time as a clock on the wall shows it. -/
structure CivilTime where
  year : Fin 10000
  month : Fin 13
  day : Fin 32
  hour : Fin 24
  minute : Fin 60
  second : Fin 60
deriving DecidableEq, Repr

namespace CivilTime

variable (time : CivilTime)

/-- Everything but the seconds. -/
def toMinute : Fin 10000 × Fin 13 × Fin 32 × Fin 24 × Fin 60 :=
  (time.year, time.month, time.day, time.hour, time.minute)

def minuteStamp : List Char :=
  paddedDigits 4 time.year ++ paddedDigits 2 time.month ++ paddedDigits 2 time.day
  ++ paddedDigits 2 time.hour ++ paddedDigits 2 time.minute

def secondStamp : List Char := time.minuteStamp ++ paddedDigits 2 time.second

theorem toMinute_eq_of_minuteStamp {left right : CivilTime}
    (same : left.minuteStamp = right.minuteStamp)
    : left.toMinute = right.toMinute := by
  unfold minuteStamp at same
  obtain ⟨same, minute⟩ := List.append_inj' same (by simp)
  obtain ⟨same, hour⟩ := List.append_inj' same (by simp)
  obtain ⟨same, day⟩ := List.append_inj' same (by simp)
  obtain ⟨year, month⟩ := List.append_inj' same (by simp)
  have years := paddedDigits_inj (by omega) (by omega) year
  have months := paddedDigits_inj (by omega) (by omega) month
  have days := paddedDigits_inj (by omega) (by omega) day
  have hours := paddedDigits_inj (by omega) (by omega) hour
  have minutes := paddedDigits_inj (by omega) (by omega) minute
  unfold toMinute
  rw [Fin.ext years, Fin.ext months, Fin.ext days, Fin.ext hours, Fin.ext minutes]

theorem minuteStamp_eq_of_toMinute {left right : CivilTime}
    (same : left.toMinute = right.toMinute)
    : left.minuteStamp = right.minuteStamp := by
  obtain ⟨year, month, day, hour, minute⟩ : _ ∧ _ ∧ _ ∧ _ ∧ _ := by
    simpa only [toMinute, Prod.mk.injEq] using same
  unfold minuteStamp
  rw [year, month, day, hour, minute]

@[simp] theorem minuteStamp_length : time.minuteStamp.length = 12 := by
  simp [minuteStamp]

theorem minuteStamp_visible {time : CivilTime} {c : Char} (member : c ∈ time.minuteStamp)
    : isSpace c = false ∧ c ≠ ':' := by
  unfold minuteStamp at member
  simp only [List.mem_append] at member
  rcases member with (((year | month) | day) | hour) | minute
  · exact paddedDigits_visible year
  · exact paddedDigits_visible month
  · exact paddedDigits_visible day
  · exact paddedDigits_visible hour
  · exact paddedDigits_visible minute

theorem secondStamp_visible {time : CivilTime} {c : Char}
    (member : c ∈ time.secondStamp)
    : isSpace c = false ∧ c ≠ ':' := by
  rcases List.mem_append.mp member with minutes | seconds
  · exact minuteStamp_visible minutes
  · exact paddedDigits_visible seconds

end CivilTime

/-- A series of a server, with the clocks that its batches are named by. -/
structure SeriesContext where
  rules : TextRules
  localTime : Timestamp → CivilTime
  utcTime : Timestamp → CivilTime
  serverId : String
  seriesId : String
  serverNamed : serverId ≠ ""
  seriesNamed : strip seriesId ≠ ""

/-- The earliest date that there is. -/
def datetimeMin : Timestamp := -62135596800 * second

/-- Items with their dates; at least one. -/
structure DateGroup (α : Type) where
  first : α × Timestamp
  rest : List (α × Timestamp)

namespace DateGroup

variable {α : Type} (group : DateGroup α)

def members : List (α × Timestamp) := group.first :: group.rest

def newest : Timestamp := group.rest.foldl (fun date item => max date item.2) group.first.2

def oldest : Timestamp := group.rest.foldl (fun date item => min date item.2) group.first.2

/-- A new group wherever the next item is older by more than the gap. -/
def split (gap : Timestamp) : List (α × Timestamp) → List (DateGroup α)
  | [] => []
  | item :: items =>
      match split gap items with
      | [] => [⟨item, []⟩]
      | group :: groups =>
          if item.2 - group.first.2 > gap then ⟨item, []⟩ :: group :: groups
          else ⟨item, group.members⟩ :: groups

end DateGroup

/-- Items that have no date at all stand alone; otherwise they are left out. -/
def groupItemsByDate {α : Type} (date : α → Option Timestamp) (gap : Timestamp)
    (items : List α)
    : List (DateGroup α) :=
  let parsed := items.filterMap (fun item => (date item).map (fun found => (item, found)))
  if parsed = [] then items.map (fun item => ⟨(item, datetimeMin), []⟩)
  else DateGroup.split gap (parsed.insertionSort (fun left right => left.2 ≥ right.2))

structure SourceVersion where
  key : String
  id : Option String
  path : Option String
  sourceName : Option String
  addedAt : Option String
  quality : Nat ×ₗ ℚ
  strmPlaceholder : Bool

/-- An episode, or one group of its versions. -/
structure EpisodeEntry where
  id : String
  parentIndexNumber : Option Int
  indexNumber : Option Int
  name : String
  dateCreated : Option String
  versionGroupDt : Option String
  versionGroupVersions : List SourceVersion
  extractedVersions : List SourceVersion
  versionTimeMap : Dict String Timestamp
  catalogBaselineDetected : Bool
  catalogBaselineKeys : List String
  versionGroupIsLatest : Bool

/-- An episode as the state and the history remember it. -/
structure EpisodeRecord where
  season : Option Int
  episode : Option Int
  title : String
  lastSeenAt : Option String
  mediaSourceKeys : List String
  mediainfoComplete : Bool
  mediainfoSourceKeys : List String
  notification : NotificationState
deriving DecidableEq

/-- A group of changes; its batch and its date are made from the newest date in it. -/
structure SeriesGroup where
  updateType : String
  updateLabel : String
  changes : List LatestChange
  newest : Timestamp
deriving DecidableEq

structure SeriesRecord where
  title : String
  year : Option String
  lastSeenAt : String
  episodes : Dict String EpisodeRecord
  seasons : List Int
  lastChanges : List SeriesGroup
  notification : NotificationState
deriving DecidableEq

structure SeriesHistory where
  title : String
  year : Option String
  lastSeenAt : String
  seasons : List Int
  notification : NotificationState
deriving DecidableEq

/-- All that is remembered about a series. -/
structure SeriesMemory where
  series : Option SeriesRecord
  history : Option SeriesHistory
  episodeHistory : Dict String EpisodeRecord
deriving DecidableEq

/-- What a refresh reads of a series, with the settings that it runs under. -/
structure SeriesObservation where
  stateEnabled : Bool
  gapMinutes : Int
  maxVersions : Nat
  episodeDates : List (Option String)
  fallbackTitle : String
  fallbackYear : Option String
  episodeEntries : List EpisodeEntry
  seriesIsNew : Bool
  seasonRecent : Dict Int Bool
  mediainfoSourceKeys : List String

namespace SeriesGroup

variable (context : SeriesContext) (group : SeriesGroup)

def batchId : String :=
  s!"{context.serverId}:series:{context.seriesId}:"
    ++ String.ofList (context.localTime group.newest).minuteStamp

def addedAt : String := context.rules.isoformat group.newest

end SeriesGroup

def buildEpisodeSignature (seriesId : String) (seasonNumber episodeNumber : Option Int)
    (episodeId episodeName : String)
    : String :=
  let seriesKey := strip seriesId
  if seriesKey = "" then strip episodeId
  else
    match seasonNumber, episodeNumber with
    | some season, some episode => s!"{seriesKey}:S{season}:E{episode}"
    | _, _ =>
        let suffix := strip (if episodeId ≠ "" then episodeId else episodeName)
        if suffix ≠ "" then s!"{seriesKey}:{suffix}" else seriesKey

/-- The keys in their order, each one once; the fallback counts where there are none. -/
def mergeKeyLists (primary existing fallback : List String) (maxCount : Nat) : List String :=
  let addMany (output values : List String) : List String :=
    values.foldl (fun output value =>
      let text := strip value
      if text = "" ∨ text ∈ output then output else output ++ [text]) output
  let known := addMany (addMany [] primary) existing
  let output := if known = [] then addMany known fallback else known
  if maxCount > 0 then output.take maxCount else output

def getHistoryEntry {ν : Type} (entries : Dict String ν) (key : String) : Option ν :=
  let textKey := strip key
  if textKey = "" then none else entries.get? textKey

section History

variable (rules : TextRules)

/-- What is known about notifications, whether it stands in the record or in what is written. -/
def mergeNotification (existing : Option NotificationState) (payload : NotificationState)
    : NotificationState :=
  let merged := (existing.getD .empty).update payload
  merged.update (.notificationSnapshot rules [existing, some payload])

def updateEpisodeHistory (entries : Dict String EpisodeRecord) (key : String)
    (payload : EpisodeRecord)
    : Dict String EpisodeRecord :=
  let textKey := strip key
  if textKey = "" then entries
  else
    let existing := entries.get? textKey
    entries.set textKey { payload with
      mediaSourceKeys :=
        mergeKeyLists payload.mediaSourceKeys
          ((existing.map (·.mediaSourceKeys)).getD []) [] 0
      notification := mergeNotification rules (existing.map (·.notification)) payload.notification }

def sortedSeasons (seasons : List Int) : List Int := seasons.dedup.insertionSort (· ≤ ·)

def updateSeriesHistory (existing : Option SeriesHistory) (payload : SeriesHistory)
    : SeriesHistory :=
  { payload with
    seasons := sortedSeasons (((existing.map (·.seasons)).getD []) ++ payload.seasons)
    notification := mergeNotification rules (existing.map (·.notification)) payload.notification }

end History

/-- A new season shows itself as a new episode. -/
inductive ChangeKind
  | newSeason
  | newEpisode
  | newVersion
deriving DecidableEq

def ChangeKind.text : ChangeKind → String
  | .newVersion => "new_version"
  | .newSeason | .newEpisode => "new_episode"

/-- What the loop over a group has gathered. -/
structure GroupProgress where
  changes : List LatestChange
  kinds : List ChangeKind
  seasonsInGroup : List Int
  groupEpisodeKeys : List String
  episodes : Dict String EpisodeRecord
  history : Dict String EpisodeRecord

/-- What the loop over the groups has gathered. -/
structure SeriesProgress where
  seasonsSeen : List Int
  batchEpisodeKeys : List String
  groupedChanges : List SeriesGroup
  episodes : Dict String EpisodeRecord
  history : Dict String EpisodeRecord

def mediaSourceKeySet (records : List (Option EpisodeRecord)) : List String :=
  (records.filterMap id).flatMap (fun record =>
    (record.mediaSourceKeys.map strip).filter (· ≠ ""))

def isNotified (records : List (Option EpisodeRecord)) : Bool :=
  (records.filterMap id).any (·.notification.notified)

def sortVersionsByQuality (versions : List SourceVersion) : List SourceVersion :=
  versions.insertionSort (fun left right => left.quality ≥ right.quality)

def filterVersionsForChanges (versions : List SourceVersion) : List SourceVersion :=
  let visible := versions.filter (fun version => !version.strmPlaceholder)
  if versions.length ≤ 1 ∨ visible = [] then versions else visible

section Episodes

variable (rules : TextRules)

def notificationCheckpointDatetime (records : List (Option EpisodeRecord)) : Option Timestamp :=
  ((records.filterMap id).filterMap (fun record =>
    if record.notification.notified then
      (rules.parseDateValue record.notification.notifiedAt).or
        (record.lastSeenAt.bind rules.parseDateValue)
    else none)).max?

def versionKeysAtOrBeforeCheckpoint (episode : EpisodeEntry) (versions : List SourceVersion)
    (checkpoint : Option Timestamp)
    : List String :=
  checkpoint.elim [] (fun last =>
    versions.filterMap (fun version =>
      let date :=
        (episode.versionTimeMap.get? version.key).or (version.addedAt.bind rules.parseDateValue)
      if version.key ≠ "" ∧ date.any (· ≤ last) = true then some version.key else none))

end Episodes

section Update

variable (context : SeriesContext) (observation : SeriesObservation) (memory : SeriesMemory)

/-- The series is read from the state only where the state is enabled. -/
def existingSeries : Option SeriesRecord :=
  if observation.stateEnabled then memory.series else none

def existingHistory : Option SeriesHistory :=
  if observation.stateEnabled then memory.history else none

def initialEpisodeState : Dict String EpisodeRecord :=
  ((existingSeries observation memory).map (·.episodes)).getD ∅

def seriesKnown : Bool :=
  (existingSeries observation memory).isSome || (existingHistory observation memory).isSome

/-- Why an episode with these new versions is news, if it is. -/
def changeKind (episode : EpisodeEntry) (groupIndex : Nat) (before : SeriesProgress)
    (episodeKey : String) (known notified : Bool) (newVersions : List SourceVersion)
    : Option ChangeKind :=
  if episode.catalogBaselineDetected then
    some (if episode.versionGroupIsLatest then .newVersion else .newEpisode)
  else if episodeKey ≠ "" ∧ episodeKey ∈ before.batchEpisodeKeys
      ∧ (newVersions ≠ [] ∨ known = false) then
    some .newVersion
  else if known = false then
    if seriesKnown observation memory = false ∧ observation.seriesIsNew ∧ groupIndex = 0 then
      some .newSeason
    else
      let recent (season : Int) : Bool := (observation.seasonRecent.get? season).getD false
      some (if episode.parentIndexNumber.any (fun season =>
          season ∉ before.seasonsSeen && recent season) then .newSeason else .newEpisode)
  else if newVersions ≠ [] then some (if notified then .newVersion else .newEpisode)
  else none

def changeOf (episode : EpisodeEntry) (kind : ChangeKind) (version : SourceVersion)
    : LatestChange where
  kind := some kind.text
  path := version.path
  mediaSourceId := some (version.id.getD "")
  sourceName := version.sourceName
  addedAt :=
    let date :=
      (episode.versionTimeMap.get? version.key).or
        (version.addedAt.bind context.rules.parseDateValue)
    (date.map context.rules.isoformat).or episode.dateCreated
  seasonNumber := episode.parentIndexNumber
  episodeNumber := episode.indexNumber
  episodeTitle := some episode.name

/-- One episode of a group: its changes, and what is remembered of it. -/
def processEpisode (groupIndex : Nat) (before : SeriesProgress) (progress : GroupProgress)
    (episode : EpisodeEntry)
    : GroupProgress :=
  if episode.id = "" then progress
  else
    let episodeKey :=
      buildEpisodeSignature context.seriesId episode.parentIndexNumber episode.indexNumber
        episode.id episode.name
    let versions :=
      if episode.versionGroupVersions = [] then episode.extractedVersions
      else episode.versionGroupVersions
    let existing :=
      if observation.stateEnabled then
        (initialEpisodeState observation memory).get? episodeKey
      else none
    let history :=
      if observation.stateEnabled then getHistoryEntry progress.history episodeKey else none
    let existingKeys := mediaSourceKeySet [existing, history]
    let notified := isNotified [existing, history]
    let baselineKeys :=
      episode.catalogBaselineKeys.filter (· ≠ "")
      ++ if notified then
          versionKeysAtOrBeforeCheckpoint context.rules episode versions
            (notificationCheckpointDatetime context.rules [existing, history])
        else []
    let newVersions :=
      versions.filter (fun version =>
        version.key ≠ "" && version.key ∉ existingKeys && version.key ∉ baselineKeys)
    let known := existing.isSome || history.isSome
    match changeKind observation memory episode groupIndex before episodeKey known notified
        newVersions with
    | none => progress
    | some kind =>
        let targetVersions :=
          filterVersionsForChanges
            (sortVersionsByQuality (if newVersions = [] then versions else newVersions))
        let mergedKeys :=
          mergeKeyLists (newVersions.map (·.key)) (existingKeys ++ baselineKeys)
            ((versions.map (·.key)).filter (· ≠ "")) observation.maxVersions
        let existingMediainfoKeys :=
          ([existing, history].filterMap id).flatMap (·.mediainfoSourceKeys)
        let mergedMediainfoKeys :=
          mergedKeys.filter (fun key =>
            key ∈ observation.mediainfoSourceKeys || key ∈ existingMediainfoKeys)
        let record : EpisodeRecord :=
          { season := episode.parentIndexNumber
            episode := episode.indexNumber
            title := episode.name
            lastSeenAt := episode.dateCreated
            mediaSourceKeys := mergedKeys
            mediainfoComplete :=
              !mergedKeys.isEmpty && mergedMediainfoKeys.length = mergedKeys.length
            mediainfoSourceKeys := mergedMediainfoKeys
            notification :=
              .notificationSnapshot context.rules
                [existing.map (·.notification), history.map (·.notification)] }
        let stateKey := if episodeKey ≠ "" then episodeKey else episode.id
        { changes := progress.changes ++ targetVersions.map (changeOf context episode kind)
          kinds := progress.kinds ++ [kind]
          seasonsInGroup := progress.seasonsInGroup ++ episode.parentIndexNumber.toList
          groupEpisodeKeys :=
            if episodeKey ≠ "" then progress.groupEpisodeKeys ++ [episodeKey]
            else progress.groupEpisodeKeys
          episodes :=
            if observation.stateEnabled then progress.episodes.set stateKey record
            else progress.episodes
          history :=
            if observation.stateEnabled then
              updateEpisodeHistory context.rules progress.history stateKey record
            else progress.history }

def seriesChangeSortKey (change : LatestChange) : Int ×ₗ Int :=
  toLex (change.seasonNumber.getD 999999, change.episodeNumber.getD 999999)

def updateKind (groupIndex : Nat) (kinds : List ChangeKind) : String × String :=
  if seriesKnown observation memory = false ∧ observation.seriesIsNew ∧ groupIndex = 0 then
    ("new", "Nuova serie")
  else if .newSeason ∈ kinds then ("update", "Nuova stagione")
  else if .newEpisode ∈ kinds then ("update", "Nuovi episodi")
  else if .newVersion ∈ kinds then ("update", "Nuova versione")
  else ("update", "Aggiornamento")

/-- One group; without changes it counts for neither the seasons nor the batch. -/
def processGroup (before : SeriesProgress) (indexed : DateGroup EpisodeEntry × Nat)
    : SeriesProgress :=
  let (group, groupIndex) := indexed
  let progress :=
    (group.members.map Prod.fst).foldl
      (processEpisode context observation memory groupIndex before)
      ⟨[], [], [], [], before.episodes, before.history⟩
  let remembered :=
    { before with episodes := progress.episodes, history := progress.history }
  if progress.changes = [] then remembered
  else
    let (updateType, updateLabel) := updateKind observation memory groupIndex progress.kinds
    { remembered with
      seasonsSeen := before.seasonsSeen ++ progress.seasonsInGroup
      batchEpisodeKeys := before.batchEpisodeKeys ++ progress.groupEpisodeKeys
      groupedChanges :=
        before.groupedChanges
        ++ [{ updateType
              updateLabel
              changes :=
                progress.changes.insertionSort (fun left right =>
                  seriesChangeSortKey left ≤ seriesChangeSortKey right)
              newest := group.newest }] }

def episodeGroups : List (DateGroup EpisodeEntry) :=
  (groupItemsByDate (fun entry => entry.versionGroupDt.bind context.rules.parseDateValue)
    (observation.gapMinutes * (60 * second)) observation.episodeEntries).insertionSort
      (fun left right => left.oldest ≤ right.oldest)

/-- Build the changes of a series and remember what was seen of it. -/
def updateSeriesState : List SeriesGroup × SeriesMemory :=
  let existing := existingSeries observation memory
  let history := existingHistory observation memory
  let start : SeriesProgress :=
    { seasonsSeen :=
        ((existing.map (·.seasons)).getD []) ++ ((history.map (·.seasons)).getD [])
      batchEpisodeKeys := []
      groupedChanges := []
      episodes := initialEpisodeState observation memory
      history := memory.episodeHistory }
  let progress :=
    (episodeGroups context observation).zipIdx.foldl
      (processGroup context observation memory) start
  let groups := progress.groupedChanges
  if observation.stateEnabled then
    let notification :=
      .notificationSnapshot context.rules
        [existing.map (·.notification), history.map (·.notification)]
    let record : SeriesRecord :=
      { title :=
          ((existing.map (·.title)).or (history.map (·.title))).getD observation.fallbackTitle
        year := ((existing.map (·.year)).or (history.map (·.year))).getD observation.fallbackYear
        lastSeenAt := ((observation.episodeDates.filterMap id).max?).getD ""
        episodes := progress.episodes
        seasons := sortedSeasons progress.seasonsSeen
        lastChanges :=
          if groups = [] then (existing.map (·.lastChanges)).getD [] else groups
        notification }
    (groups,
      { series := some record
        history :=
          some (updateSeriesHistory context.rules memory.history
            { title := record.title
              year := record.year
              lastSeenAt := record.lastSeenAt
              seasons := record.seasons
              notification })
        episodeHistory := progress.history })
  else (groups, memory)

end Update

namespace SeriesMemory

variable (rules : TextRules) (seriesKey : String)

/-- The episodes of a publication remember what their series does. -/
def persistEpisodeHistory (item : LatestEntry) (snapshot : NotificationState)
    (history : Dict String EpisodeRecord) (change : LatestChange)
    : Dict String EpisodeRecord :=
  let episodeKey :=
    buildEpisodeSignature seriesKey change.seasonNumber change.episodeNumber ""
      (change.episodeTitle.getD "")
  if episodeKey = "" then history
  else
    let existing := getHistoryEntry history episodeKey
    updateEpisodeHistory rules history episodeKey
      { season := change.seasonNumber
        episode := change.episodeNumber
        title := change.episodeTitle.getD ""
        lastSeenAt := some ((change.addedAt.or item.addedAt.get).getD "")
        mediaSourceKeys := []
        mediainfoComplete := (existing.map (·.mediainfoComplete)).getD false
        mediainfoSourceKeys := (existing.map (·.mediainfoSourceKeys)).getD []
        notification := snapshot }

/-- Write what was delivered of a publication into the state and the history. -/
def persistSeries (memory : SeriesMemory) (item : LatestEntry) (publicationKey : String)
    (delivered : Delivered) (required : List String) (notifiedAt : String)
    : SeriesMemory :=
  let title := (item.details.get? "title").getD ""
  let year := item.details.get? "year"
  let lastSeenAt := item.addedAt.get.getD ""
  let found := memory.series.getD ⟨title, year, lastSeenAt, ∅, [], [], .empty⟩
  let record :=
    { found with
      notification :=
        found.notification.applyDestinationState publicationKey delivered required notifiedAt }
  let snapshot := .notificationSnapshot rules [some record.notification]
  { series := some record
    history :=
      some (updateSeriesHistory rules memory.history
        { title, year, lastSeenAt, seasons := record.seasons, notification := snapshot })
    episodeHistory :=
      item.changeList.foldl (persistEpisodeHistory rules seriesKey item snapshot)
        memory.episodeHistory }

end SeriesMemory

end OctoHubs.Latest
