import Mathlib.Data.List.Sort
import OctoHubs.Library.Dict
import OctoHubs.Library.Text
import OctoHubs.Time

/-! The history of the transcode guard: the event log and the stream history. An action of the
guard is written to both, each in a load, an edit and a save of its own.
-/

namespace OctoHubs.TranscodeGuard

open OctoHubs.Library

structure Server where
  id : String
  alias_ : String
  originalName : String
  name : String
deriving DecidableEq, Repr

def firstNonempty (texts : List String) : String := (texts.find? (· ≠ "")).getD ""

def Server.label (server : Server) : String :=
  firstNonempty
    ([server.alias_, server.originalName, server.name, server.id].map strip ++ ["Server Emby"])

/-- A stream as a scan reports it, or as the history keeps it. `labelHeight` is the height that
the video label names.
-/
structure Stream where
  serverId : String
  serverName : String
  sessionId : String
  sessionKey : String
  playbackKey : String
  contentKey : String
  user : String
  client : String
  device : String
  deviceId : String
  itemId : String
  title : String
  mediaType : String
  seriesName : String
  seasonNumber : Option Int
  episodeNumber : Option Int
  year : String
  mediaSourceId : String
  audioStreamIndex : Option (Option Int)
  subtitleStreamIndex : Option (Option Int)
  videoHeight : Option Int
  sourceHeight : Option Int
  labelHeight : Option Int
deriving DecidableEq, Repr

def slugPart (value : String) : String :=
  ((strip value).map Char.toLower).map (fun letter =>
    if letter = '|' ∨ letter = ':' then ' ' else letter)

namespace Stream

variable (stream : Stream)

def makeContentKey : String :=
  let series := strip stream.seriesName
  let title := strip stream.title
  match stream.seasonNumber, stream.episodeNumber with
  | some season, some episode =>
      if (strip stream.mediaType).map Char.toLower = "episode" ∨ series ≠ "" then
        "episode:"
          ++ "|".intercalate
            [slugPart (firstNonempty [series, stream.title, "series"]),
              slugPart (if season = 0 then "" else toString season),
              slugPart (if episode = 0 then "" else toString episode)]
      else byItem title
  | _, _ => byItem title
where
  byItem (title : String) : String :=
    if strip stream.itemId ≠ "" then "item:" ++ strip stream.itemId
    else if title = "" then ""
    else "title:" ++ "|".intercalate [slugPart title, slugPart (strip stream.year)]

def makePlaybackKey (serverId : String) : String :=
  let content := stream.makeContentKey
  if content = "" then ""
  else
    "|".intercalate
      [serverId, slugPart (firstNonempty [stream.user, "user"]),
        slugPart (firstNonempty [stream.deviceId, stream.device, stream.client, "device"]),
        content]

def extractVideoHeight : Option Int :=
  match stream.videoHeight.or stream.sourceHeight with
  | some height => if 0 < height then some height else none
  | none => stream.labelHeight

end Stream

/-- Make the id of a new row from its server, its session and the time in milliseconds. -/
def makeEventId (serverId sessionId : String) (time : Timestamp) : String :=
  ":".intercalate
    [slugPart (firstNonempty [serverId, "server"]),
      slugPart (firstNonempty [sessionId, "session"]), toString (time / 1000)]

structure Decision where
  category : String
  shouldEnforce : Bool
  sourceHeight : Option Int
  ruleId : String
  ruleName : String
  rulePath : List String
deriving DecidableEq, Repr

/-- An action of a row; `stamp` is the time that it carries. -/
structure ActionEntry where
  action : String
  outcome : String
  success : Bool
  stamp : Timestamp
  source : String
deriving DecidableEq, Repr

def ActionEntry.isPlayerAction (entry : ActionEntry) : Bool :=
  (strip (firstNonempty [entry.source, "guard"])).map Char.toLower ∈ ["player", "plugin", "proxy"]

def ActionEntry.isTerminal (entry : ActionEntry) : Bool :=
  entry.action ∈ ["exit", "stop"] || (entry.action = "pause" && !entry.isPlayerAction)

/-- Add an action; a repeated action replaces the last one. -/
def appendAction (actions : List ActionEntry) (entry : ActionEntry) : List ActionEntry :=
  if (actions.getLast?).any (fun last => last.action = entry.action) then
    actions.dropLast ++ [entry]
  else actions ++ [entry]

/-- A row of the event log, under its id. A saved row has an action. -/
structure EventRow where
  playbackKey : String
  contentKey : String
  sessionId : String
  itemId : String
  title : String
  user : String
  client : String
  device : String
  deviceId : String
  serverId : String
  serverName : String
  sourceHeight : Option Int
  category : String
  ruleId : String
  ruleName : String
  rulePath : List String
  startedAt : Timestamp
  updatedAt : Timestamp
  actions : List ActionEntry
deriving DecidableEq, Repr

/-- When a stream went missing; a stored value may be unreadable. -/
inductive MissingSince
  | time (since : Timestamp)
  | unreadable
deriving DecidableEq, Repr

structure StreamRow extends Stream where
  id : String
  eventId : String
  startedAt : Timestamp
  updatedAt : Timestamp
  lastSeenAt : Timestamp
  endedAt : Option Timestamp
  missingSince : Option MissingSince
  missingSinceAt : Option Timestamp
  observations : Nat
  violationCount : Nat
  actions : List ActionEntry
  lastShouldEnforce : Bool
  lastDecisionCategory : String
  lastRuleId : String
  lastRuleName : String
  lastRulePath : List String
  mediaSourceIdKnown : Bool
  audioStreamIndexKnown : Bool
  subtitleStreamIndexKnown : Bool
  videoHeightKnown : Bool
deriving DecidableEq, Repr

abbrev EventLog := Dict String EventRow

def streamLogLimit : Nat := 1000

/-- The stored stream history is no longer than its limit. -/
structure StreamLog where
  rows : List StreamRow
  bounded : rows.length ≤ streamLogLimit

structure GuardHistory where
  events : EventLog
  streams : StreamLog

/-- The newest rows first. -/
def sortRows {α : Type} (updatedAt : α → Timestamp) (rows : List α) : List α :=
  rows.insertionSort (fun left right => updatedAt right ≤ updatedAt left)

def EventLog.sort (log : EventLog) : EventLog :=
  ⟨sortRows (fun item => item.2.updatedAt) log.items,
    ((List.perm_insertionSort _ log.items).map Prod.fst).nodup_iff.mpr log.nodup⟩

def StreamLog.load (log : StreamLog) : List StreamRow := sortRows StreamRow.updatedAt log.rows

def StreamLog.save (rows : List StreamRow) : StreamLog :=
  ⟨(sortRows StreamRow.updatedAt rows).take streamLogLimit, List.length_take_le _ _⟩

def sameSourceResolution (previous current : Option Int) : Bool :=
  match previous, current with
  | some previous, some current => (previous - current).natAbs ≤ 80
  | _, _ => true

def Decision.heightOf (decision : Decision) (stream : Stream) : Option Int :=
  (decision.sourceHeight.filter (· ≠ 0)).or stream.extractVideoHeight

/-- What a scan sees change in a stream that it has seen before. -/
def observedStreamChangeActions (previous : StreamRow) (stream : Stream) (decision : Decision)
    : List (String × String) :=
  let previousSource := strip previous.mediaSourceId
  let currentSource := strip stream.mediaSourceId
  let previousHeight := previous.extractVideoHeight
  let currentHeight := decision.heightOf stream
  let sourceChanged :=
    previous.mediaSourceIdKnown && previousSource ≠ "" && currentSource ≠ ""
      && previousSource ≠ currentSource
  let heightChanged :=
    previous.videoHeightKnown && previousHeight.isSome && currentHeight.isSome
      && !sameSourceResolution previousHeight currentHeight
  let audioChanged :=
    previous.audioStreamIndexKnown && stream.audioStreamIndex.isSome
      && previous.audioStreamIndex.join ≠ stream.audioStreamIndex.join
  let subtitleChanged :=
    previous.subtitleStreamIndexKnown && stream.subtitleStreamIndex.isSome
      && previous.subtitleStreamIndex.join ≠ stream.subtitleStreamIndex.join
  (if sourceChanged || heightChanged then [("quality_change", "Cambio qualità")] else [])
    ++ (if audioChanged then [("audio_change", "Cambio audio")] else [])
    ++ (if subtitleChanged then [("subtitle_change", "Cambio sottotitoli")] else [])

/-- An action of the guard, before it gets its time. -/
structure GuardAction where
  action : String
  outcome : String
  success : Bool
  source : String
deriving DecidableEq, Repr

def GuardAction.entry (action : GuardAction) (now : Timestamp) : ActionEntry :=
  ⟨action.action, action.outcome, action.success, now, action.source⟩

namespace StreamRow

variable (row : StreamRow)

/-- The identity of the stream as the row keeps it; the row keeps its own keys. -/
def streamIdentityFields (server : Server) (stream : Stream) (decision : Decision) : Stream :=
  let serverId := firstNonempty [server.id, stream.serverId]
  { stream with
    serverId
    serverName := server.label
    sessionKey :=
      if stream.sessionId = "" then ""
      else firstNonempty [stream.sessionKey, serverId ++ ":" ++ stream.sessionId]
    playbackKey := row.playbackKey
    contentKey := row.contentKey
    title := firstNonempty [stream.title, "Stream"]
    audioStreamIndex := some stream.audioStreamIndex.join
    subtitleStreamIndex := some stream.subtitleStreamIndex.join
    videoHeight := stream.extractVideoHeight
    sourceHeight := decision.heightOf stream }

/-- The actions that a scan adds to a row that was observed before. -/
def recordObservedStreamChanges (server : Server) (stream : Stream) (decision : Decision)
    (now : Timestamp)
    : List ActionEntry :=
  if row.observations = 0 ∨ firstNonempty [server.id, stream.serverId] = ""
      ∨ stream.sessionId = "" then
    row.actions
  else
    (observedStreamChangeActions row stream decision).foldl
      (fun actions (action, outcome) =>
        appendAction actions ⟨action, outcome, true, now, "observed"⟩)
      row.actions

def endedAfter (action : String) (now : Timestamp) : Option Timestamp :=
  if action ∈ ["exit", "stop", "pause"] then some now
  else if action ∈ ["relapse", "resolved", "partial_resolved", "resolution_change",
      "resolved_later"] then
    none
  else row.endedAt

def observe (server : Server) (stream : Stream) (decision : Decision) (eventId : Option String)
    (action : Option GuardAction) (now : Timestamp)
    : StreamRow :=
  let observed := row.recordObservedStreamChanges server stream decision now
  { row with
    toStream := row.streamIdentityFields server stream decision
    eventId := eventId.getD row.eventId
    violationCount :=
      if decision.shouldEnforce && !row.lastShouldEnforce then row.violationCount + 1
      else row.violationCount
    actions := action.elim observed (fun action => appendAction observed (action.entry now))
    endedAt := action.elim row.endedAt (fun action => row.endedAfter action.action now)
    lastShouldEnforce := decision.shouldEnforce
    lastDecisionCategory := decision.category
    lastRuleId := decision.ruleId
    lastRuleName := decision.ruleName
    lastRulePath := decision.rulePath
    mediaSourceIdKnown := strip stream.mediaSourceId ≠ ""
    audioStreamIndexKnown := stream.audioStreamIndex.isSome
    subtitleStreamIndexKnown := stream.subtitleStreamIndex.isSome
    videoHeightKnown := stream.extractVideoHeight.isSome
    observations := row.observations + 1
    lastSeenAt := now
    updatedAt := now }

/-- The row of a stream that the history does not have yet. -/
def opened (server : Server) (stream : Stream) (eventId : Option String) (playbackKey : String)
    (now time : Timestamp)
    : StreamRow where
  toStream :=
    { stream with
      playbackKey
      contentKey := stream.makeContentKey
      sessionKey :=
        if stream.sessionId = "" then ""
        else firstNonempty [server.id, stream.serverId] ++ ":" ++ stream.sessionId }
  id :=
    makeEventId (firstNonempty [server.id, stream.serverId])
      (firstNonempty [stream.sessionId, playbackKey]) time
  eventId := eventId.getD ""
  startedAt := now
  updatedAt := now
  lastSeenAt := now
  endedAt := none
  missingSince := none
  missingSinceAt := none
  observations := 0
  violationCount := 0
  actions := []
  lastShouldEnforce := false
  lastDecisionCategory := ""
  lastRuleId := ""
  lastRuleName := ""
  lastRulePath := []
  mediaSourceIdKnown := false
  audioStreamIndexKnown := false
  subtitleStreamIndexKnown := false
  videoHeightKnown := false

end StreamRow

/-- Load the stream history, observe the row of the stream and save. The row is found by the
event, else by the key of an open row; else it is new.
-/
def StreamLog.recordStreamObservation (log : StreamLog) (server : Server) (stream : Stream)
    (decision : Decision) (eventId : Option String) (action : Option GuardAction)
    (now time : Timestamp)
    : StreamLog :=
  let serverId := firstNonempty [server.id, stream.serverId]
  let playbackKey := firstNonempty [stream.playbackKey, stream.makePlaybackKey serverId]
  if playbackKey = "" then log
  else
    let rows := log.load
    let byEvent :=
      eventId.bind (fun eventId =>
        rows.findIdx? (fun row => firstNonempty [row.eventId, row.id] = eventId))
    let byKey :=
      rows.findIdx? (fun row => row.playbackKey = playbackKey && row.endedAt.isNone)
    match byEvent.or byKey with
    | some index =>
        save
          (rows.modify index (fun row =>
            row.observe server stream decision eventId action now))
    | none =>
        let row := StreamRow.opened server stream eventId playbackKey now time
        save (row.observe server stream decision eventId action now :: rows)

namespace EventRow

variable (row : EventRow)

def lastAction : Option ActionEntry := row.actions.getLast?

/-- The last action of the row ends the playback. -/
def isClosed : Bool := row.lastAction.any ActionEntry.isTerminal

/-- The row of an event that the log does not have yet. -/
def opened (server : Server) (stream : Stream) (decision : Decision) (playbackKey : String)
    (now : Timestamp)
    : EventRow where
  playbackKey
  contentKey := firstNonempty [stream.contentKey, stream.makeContentKey]
  sessionId := stream.sessionId
  itemId := stream.itemId
  title := firstNonempty [stream.title, "Stream"]
  user := stream.user
  client := stream.client
  device := stream.device
  deviceId := stream.deviceId
  serverId := firstNonempty [server.id, stream.serverId]
  serverName := server.label
  sourceHeight := decision.heightOf stream
  category := decision.category
  ruleId := decision.ruleId
  ruleName := decision.ruleName
  rulePath := decision.rulePath
  startedAt := now
  updatedAt := now
  actions := []

/-- The row after an action; it fills what it does not know yet. -/
def act (stream : Stream) (decision : Decision) (playbackKey : String) (entry : ActionEntry)
    : EventRow :=
  { row with
    updatedAt := entry.stamp
    actions := appendAction row.actions entry
    playbackKey := firstNonempty [row.playbackKey, playbackKey]
    contentKey := firstNonempty [row.contentKey, stream.contentKey, stream.makeContentKey]
    sessionId := firstNonempty [row.sessionId, stream.sessionId]
    itemId := firstNonempty [row.itemId, stream.itemId]
    deviceId := firstNonempty [row.deviceId, stream.deviceId]
    sourceHeight := (row.sourceHeight.filter (· ≠ 0)).or (decision.heightOf stream)
    category := firstNonempty [row.category, decision.category]
    ruleId := firstNonempty [row.ruleId, decision.ruleId]
    ruleName := firstNonempty [row.ruleName, decision.ruleName]
    rulePath := if row.rulePath = [] then decision.rulePath else row.rulePath }

end EventRow

/-- The readings of the clock while one row is recorded: for ids, for the event log and for the
stream history.
-/
structure Readings where
  time : Timestamp
  eventAt : Timestamp
  rowAt : Timestamp
deriving DecidableEq, Repr

def EventLog.insertFront (log : EventLog) (id : String) (row : EventRow)
    (fresh : id ∉ log.keys)
    : EventLog :=
  ⟨(id, row) :: log.items, List.nodup_cons.mpr ⟨fresh, log.nodup⟩⟩

/-- Write an action to the event log, and then to the stream history. -/
def GuardHistory.recordEventAction (history : GuardHistory) (eventId : String)
    (action : GuardAction) (server : Server) (stream : Stream) (decision : Decision)
    (readings : Readings)
    : GuardHistory :=
  let serverId := firstNonempty [server.id, stream.serverId]
  let playbackKey := firstNonempty [stream.playbackKey, stream.makePlaybackKey serverId]
  let eventId :=
    firstNonempty
      [eventId,
        makeEventId serverId (firstNonempty [stream.sessionId, playbackKey]) readings.time]
  let entry := action.entry readings.eventAt
  let log := history.events.sort
  let events : EventLog :=
    match found : log.get? eventId with
    | some row => log.set eventId (row.act stream decision playbackKey entry)
    | none =>
        let row := EventRow.opened server stream decision playbackKey readings.eventAt
        log.insertFront eventId (row.act stream decision playbackKey entry) (by
          rw [Dict.mem_keys_iff_isSome, found]
          exact Bool.false_ne_true)
  { events := events.sort
    streams :=
      history.streams.recordStreamObservation server stream decision (some eventId)
        (some action) readings.rowAt readings.time }

end OctoHubs.TranscodeGuard
