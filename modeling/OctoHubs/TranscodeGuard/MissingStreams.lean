import OctoHubs.TranscodeGuard.History

/-! The pass that closes the rows of streams which are gone. It holds the rows that it has
loaded while the exit of each row loads, edits and saves the same rows, and saves its own at the
end.
-/

namespace OctoHubs.TranscodeGuard

open OctoHubs.Library

def exitSettleTime : Timestamp := 4 * second

/-- The stream has been missing for long enough; an unreadable time counts as that. -/
def MissingSince.settled (missing : MissingSince) (time : Timestamp) : Bool :=
  match missing with
  | .time since => exitSettleTime ≤ time - since
  | .unreadable => true

def exitAction : GuardAction := ⟨"exit", "Uscita riproduzione", true, "guard"⟩

/-- The log holds the event and its last action does not end the playback. -/
def EventLog.IsOpen (log : EventLog) (eventId : String) : Prop :=
  (log.get? eventId).any (fun row => !row.isClosed) = true

instance (log : EventLog) (eventId : String) : Decidable (log.IsOpen eventId) :=
  inferInstanceAs (Decidable (_ = true))

/-- Record the exit of the stream with the event of its row, if that one is still open. -/
def GuardHistory.recordExitForStreamRow (history : GuardHistory) (row : StreamRow)
    (readings : Readings)
    : GuardHistory × Option ActionEntry :=
  if row.eventId = "" ∨ ¬history.events.sort.IsOpen row.eventId then (history, none)
  else
    (history.recordEventAction row.eventId exitAction
      ⟨row.serverId, "", "", row.serverName⟩ row.toStream
      ⟨row.lastDecisionCategory, false, row.sourceHeight, row.lastRuleId, row.lastRuleName,
        row.lastRulePath⟩
      readings,
      some (exitAction.entry readings.eventAt))

/-- What the pass was told: the scanned servers, the streams that are there and its time. -/
structure Scan where
  scanned : List String
  present : List String
  now : Timestamp
deriving DecidableEq, Repr

/-- A row after its turn; `exit` is the action that its turn wrote to the event log. -/
structure Turn where
  row : StreamRow
  changed : Bool
  history : GuardHistory
  exit : Option ActionEntry

/-- The row as the pass closes it. -/
def StreamRow.close (row : StreamRow) (now : Timestamp) : StreamRow :=
  { row with endedAt := some now, updatedAt := now }

def Scan.visit (scan : Scan) (history : GuardHistory) (row : StreamRow) (readings : Readings)
    : Turn :=
  if row.endedAt.isSome ∨ row.serverId ∉ scan.scanned then ⟨row, false, history, none⟩
  else if row.playbackKey ∈ scan.present then
    if row.missingSince.isSome ∨ row.missingSinceAt.isSome then
      ⟨{ row with missingSince := none, missingSinceAt := none }, true, history, none⟩
    else ⟨row, false, history, none⟩
  else
    match row.missingSince with
    | none =>
        ⟨{ row with
            missingSince := some (.time readings.time)
            missingSinceAt := some scan.now
            updatedAt := scan.now },
          true, history, none⟩
    | some missing =>
        if missing.settled readings.time then
          let recorded := history.recordExitForStreamRow row readings
          ⟨row.close scan.now, true, recorded.1, recorded.2⟩
        else ⟨row, false, history, none⟩

/-- What the turns of some rows leave; `exits` pairs a row as it is saved with the exit that its
turn wrote to the event log.
-/
structure Turns where
  rows : List StreamRow
  changed : Bool
  history : GuardHistory
  exits : List (StreamRow × ActionEntry)

/-- Visit the rows in turn; the readings of the clock are counted from the first row. -/
def Scan.visitAll (scan : Scan)
    : (readings : Nat → Readings) → GuardHistory → List StreamRow → Turns
  | _, history, [] => ⟨[], false, history, []⟩
  | readings, history, row :: rest =>
      let turn := scan.visit history row (readings 0)
      let later := scan.visitAll (fun index => readings (index + 1)) turn.history rest
      ⟨turn.row :: later.rows, turn.changed || later.changed, later.history,
        turn.exit.toList.map (fun entry => (turn.row, entry)) ++ later.exits⟩

/-- The history after the pass, with the exits that it wrote to the event log. -/
def GuardHistory.closeMissingStreamRows (history : GuardHistory) (scan : Scan)
    (readings : Nat → Readings)
    : GuardHistory × List (StreamRow × ActionEntry) :=
  if scan.scanned = [] then (history, [])
  else
    let turns := scan.visitAll readings history history.streams.load
    (if turns.changed then { turns.history with streams := .save turns.rows }
      else turns.history,
      turns.exits)

/-- The stream history has every exit that was written to the event log, in the closed row of
its stream.
-/
def GuardHistory.HasExits (history : GuardHistory) (exits : List (StreamRow × ActionEntry))
    : Prop :=
  ∀ exit ∈ exits,
    exit.1 ∈ history.streams.rows ∧ exit.1.endedAt.isSome = true
    ∧ ∃ entry ∈ exit.1.actions,
        entry.action = exit.2.action ∧ entry.stamp = exit.2.stamp

instance (history : GuardHistory) (exits : List (StreamRow × ActionEntry))
    : Decidable (history.HasExits exits) := by
  unfold GuardHistory.HasExits
  infer_instance

namespace EventLog

variable (log : EventLog) (eventId other : String)

theorem get?_sort : log.sort.get? eventId = log.get? eventId := by
  ext row
  rw [← Dict.mem_items_iff, ← Dict.mem_items_iff]
  exact (List.perm_insertionSort _ log.items).mem_iff

theorem isOpen_sort : log.sort.IsOpen eventId ↔ log.IsOpen eventId := by
  rw [IsOpen, IsOpen, get?_sort]

end EventLog

theorem isClosed_act (row : EventRow) (stream : Stream) (decision : Decision)
    (playbackKey : String) {entry : ActionEntry} (terminal : entry.isTerminal = true)
    : (row.act stream decision playbackKey entry).isClosed = true := by
  have last : (appendAction row.actions entry).getLast? = some entry := by
    unfold appendAction
    split <;> exact List.getLast?_concat
  rw [EventRow.isClosed, EventRow.lastAction]
  change (appendAction row.actions entry).getLast?.any ActionEntry.isTerminal = true
  rw [last]
  exact terminal

/-- A terminal action closes its event and no other. -/
theorem isOpen_recordEventAction {history : GuardHistory} {eventId : String}
    {action : GuardAction} {server : Server} {stream : Stream} {decision : Decision}
    {readings : Readings} (named : eventId ≠ "")
    (terminal : (action.entry readings.eventAt).isTerminal = true) (other : String)
    : (history.recordEventAction eventId action server stream decision
          readings).events.IsOpen other
      ↔ other ≠ eventId ∧ history.events.IsOpen other := by
  have chosen (fallback : String) : firstNonempty [eventId, fallback] = eventId := by
    simp [firstNonempty, named]
  simp only [GuardHistory.recordEventAction, chosen]
  rw [EventLog.isOpen_sort, ← history.events.isOpen_sort other]
  split
  · next row found =>
      rw [EventLog.IsOpen, Dict.get?_set]
      by_cases same : other = eventId
      · simp [same, isClosed_act row stream decision _ terminal]
      · simp [same, EventLog.IsOpen]
  · next absent =>
      rw [EventLog.IsOpen, Dict.get?, EventLog.insertFront]
      by_cases same : other = eventId
      · simp [same, lookupItems, isClosed_act _ stream decision _ terminal]
      · simp [lookupItems, Ne.symm same, same, EventLog.IsOpen, Dict.get?]

/-- The row is open on a scanned server, and its stream has been missing for long enough. -/
def Scan.departs (scan : Scan) (row : StreamRow) (time : Timestamp) : Bool :=
  row.endedAt.isNone && decide (row.serverId ∈ scan.scanned)
  && decide (row.playbackKey ∉ scan.present)
  && row.missingSince.any (fun missing => missing.settled time)

section Turns

variable {scan : Scan} {history : GuardHistory} {row : StreamRow} {readings : Readings}

theorem visit_of_departs (departs : scan.departs row readings.time = true)
    : scan.visit history row readings
      = ⟨row.close scan.now, true, (history.recordExitForStreamRow row readings).1,
          (history.recordExitForStreamRow row readings).2⟩ := by
  simp only [Scan.departs, Bool.and_eq_true, decide_eq_true_eq, Option.isNone_iff_eq_none]
    at departs
  obtain ⟨⟨⟨unended, scanned⟩, absent⟩, missed⟩ := departs
  obtain ⟨missing, since, settled⟩ := Option.any_eq_true _ _ |>.mp missed
  unfold Scan.visit
  rw [if_neg (by simp [unended, scanned]), if_neg absent, since]
  simp only [settled, if_true]

theorem visit_of_stays (stays : scan.departs row readings.time = false)
    : (scan.visit history row readings).exit = none
      ∧ (scan.visit history row readings).history = history := by
  unfold Scan.visit
  split
  · exact ⟨rfl, rfl⟩
  · next skipped =>
      rw [not_or, Option.not_isSome_iff_eq_none, not_not] at skipped
      split
      · split <;> exact ⟨rfl, rfl⟩
      · next absent =>
          split
          · exact ⟨rfl, rfl⟩
          · next missing since =>
              have unsettled : missing.settled readings.time = false := by
                simpa [Scan.departs, skipped.1, skipped.2, absent, since] using stays
              simp only [unsettled, Bool.false_eq_true, if_false, and_self]

theorem exitAction_isTerminal (now : Timestamp)
    : (exitAction.entry now).isTerminal = true := by
  simp [exitAction, GuardAction.entry, ActionEntry.isTerminal]

/-- The exit of a row is written where its event is open. -/
theorem recordExitForStreamRow_exit
    : (history.recordExitForStreamRow row readings).2
      = if row.eventId ≠ "" ∧ history.events.IsOpen row.eventId then
          some (exitAction.entry readings.eventAt)
        else none := by
  simp only [GuardHistory.recordExitForStreamRow, EventLog.isOpen_sort]
  by_cases named : row.eventId = ""
  · simp [named]
  · by_cases open_ : history.events.IsOpen row.eventId <;> simp [named, open_]

/-- After the exit of a row its event is closed, and every other one is as before. -/
theorem isOpen_recordExitForStreamRow {eventId : String} (named : eventId ≠ "")
    : (history.recordExitForStreamRow row readings).1.events.IsOpen eventId
      ↔ eventId ≠ row.eventId ∧ history.events.IsOpen eventId := by
  simp only [GuardHistory.recordExitForStreamRow, EventLog.isOpen_sort]
  split
  · next skipped =>
      constructor
      · intro open_
        refine ⟨?_, open_⟩
        rintro rfl
        exact skipped.elim named (fun closed => closed open_)
      · exact And.right
  · next wanted =>
      rw [not_or] at wanted
      exact isOpen_recordEventAction wanted.1 (exitAction_isTerminal _) eventId

/-- A turn closes the event of its row where the row departs, and no other. -/
theorem isOpen_visit {eventId : String} (named : eventId ≠ "")
    : (scan.visit history row readings).history.events.IsOpen eventId
      ↔ ¬(scan.departs row readings.time = true ∧ row.eventId = eventId)
        ∧ history.events.IsOpen eventId := by
  by_cases departs : scan.departs row readings.time = true
  · rw [visit_of_departs departs, isOpen_recordExitForStreamRow named]
    simp [departs, eq_comm]
  · rw [(visit_of_stays (eq_false_of_ne_true departs)).2]
    simp [departs]

end Turns

/-- The row at the index departs as the first one of its event, and the event is open. -/
structure Scan.ExitsAt (scan : Scan) (events : EventLog) (rows : List StreamRow)
    (readings : Nat → Readings) (index : Nat) (row : StreamRow)
    : Prop where
  found : rows[index]? = some row
  departs : scan.departs row (readings index).time = true
  named : row.eventId ≠ ""
  isOpen : events.IsOpen row.eventId
  first
    : ∀ earlier < index, ∀ other,
        rows[earlier]? = some other
        → scan.departs other (readings earlier).time = true
        → other.eventId ≠ row.eventId

/-- The first row exits where it departs and its event is open. -/
theorem exitsAt_zero {scan : Scan} {events : EventLog} {readings : Nat → Readings}
    {head row : StreamRow} {rest : List StreamRow}
    : scan.ExitsAt events (head :: rest) readings 0 row
      ↔ row = head ∧ scan.departs head (readings 0).time = true ∧ head.eventId ≠ ""
        ∧ events.IsOpen head.eventId := by
  constructor
  · intro exits
    cases exits.found
    exact ⟨rfl, exits.departs, exits.named, exits.isOpen⟩
  · rintro ⟨rfl, departs, named, isOpen⟩
    exact ⟨rfl, departs, named, isOpen, fun earlier before => absurd before earlier.not_lt_zero⟩

theorem exitsAt_succ {scan : Scan} {history : GuardHistory} {readings : Nat → Readings}
    {head row : StreamRow} {rest : List StreamRow} {index : Nat}
    : scan.ExitsAt history.events (head :: rest) readings (index + 1) row
      ↔ scan.ExitsAt (scan.visit history head (readings 0)).history.events rest
          (fun index => readings (index + 1)) index row := by
  constructor
  · intro exits
    have ahead := exits.first 0 (Nat.zero_lt_succ index) head rfl
    refine ⟨exits.found, exits.departs, exits.named, ?_, ?_⟩
    · rw [isOpen_visit exits.named]
      exact ⟨fun same => ahead same.1 same.2, exits.isOpen⟩
    · intro earlier before
      exact exits.first (earlier + 1) (Nat.succ_lt_succ before)
  · intro exits
    obtain ⟨ahead, isOpen⟩ := (isOpen_visit exits.named).mp exits.isOpen
    refine ⟨exits.found, exits.departs, exits.named, isOpen, ?_⟩
    intro earlier before other found departs
    cases earlier with
    | zero =>
        cases found
        exact fun same => ahead ⟨departs, same⟩
    | succ earlier =>
        exact exits.first earlier (Nat.lt_of_succ_lt_succ before) other found departs

/-- The pass writes the exits of the first open departures, by induction on the rows. -/
theorem mem_exits_iff {scan : Scan} {history : GuardHistory} {readings : Nat → Readings}
    {rows : List StreamRow} {saved : StreamRow} {entry : ActionEntry}
    : (saved, entry) ∈ (scan.visitAll readings history rows).exits
      ↔ ∃ index row,
          scan.ExitsAt history.events rows readings index row
          ∧ saved = row.close scan.now
          ∧ entry = exitAction.entry (readings index).eventAt := by
  induction rows generalizing history readings with
  | nil =>
      constructor
      · intro member
        cases member
      · rintro ⟨index, row, exits, -⟩
        cases exits.found
  | cons head rest ih =>
      have own
          : (saved, entry)
              ∈ (scan.visit history head (readings 0)).exit.toList.map (fun entry =>
                ((scan.visit history head (readings 0)).row, entry))
            ↔ scan.ExitsAt history.events (head :: rest) readings 0 head
              ∧ saved = head.close scan.now ∧ entry = exitAction.entry (readings 0).eventAt := by
        rw [exitsAt_zero]
        by_cases departs : scan.departs head (readings 0).time = true
        · rw [visit_of_departs departs, recordExitForStreamRow_exit]
          split
          · next wanted => simp [departs, wanted]
          · next unwanted =>
              simp only [Option.toList_none, List.map_nil, List.not_mem_nil, departs, true_and,
                false_iff]
              exact fun exits => unwanted exits.1
        · rw [(visit_of_stays (eq_false_of_ne_true departs)).1]
          simp [departs]
      rw [Scan.visitAll, List.mem_append, own, ih]
      constructor
      · rintro (⟨exits, shape⟩ | ⟨index, row, exits, shape⟩)
        · exact ⟨0, head, exits, shape⟩
        · exact ⟨index + 1, row, exitsAt_succ.mpr exits, shape⟩
      · rintro ⟨index, row, exits, shape⟩
        cases index with
        | zero =>
            cases exits.found
            exact Or.inl ⟨exits, shape⟩
        | succ index => exact Or.inr ⟨index, row, exitsAt_succ.mp exits, shape⟩

theorem length_visitAll {scan : Scan} {history : GuardHistory} {readings : Nat → Readings}
    {rows : List StreamRow}
    : (scan.visitAll readings history rows).rows.length = rows.length := by
  induction rows generalizing history readings with
  | nil => rfl
  | cons head rest ih => rw [Scan.visitAll, List.length_cons, ih, List.length_cons]

theorem mem_rows_of_exit {scan : Scan} {history : GuardHistory} {readings : Nat → Readings}
    {rows : List StreamRow} {exit : StreamRow × ActionEntry}
    (member : exit ∈ (scan.visitAll readings history rows).exits)
    : exit.1 ∈ (scan.visitAll readings history rows).rows
      ∧ (scan.visitAll readings history rows).changed = true := by
  induction rows generalizing history readings with
  | nil => cases member
  | cons head rest ih =>
      rw [Scan.visitAll] at member ⊢
      obtain own | later := List.mem_append.mp member
      · obtain ⟨entry, exited, rfl⟩ := List.mem_map.mp own
        refine ⟨List.mem_cons_self, ?_⟩
        by_cases departs : scan.departs head (readings 0).time = true
        · rw [visit_of_departs departs]
          rfl
        · rw [(visit_of_stays (eq_false_of_ne_true departs)).1] at exited
          cases exited
      · obtain ⟨member, changed⟩ := ih later
        exact ⟨List.mem_cons_of_mem _ member, by simp [changed]⟩

theorem mem_save {rows : List StreamRow} (bounded : rows.length ≤ streamLogLimit)
    {row : StreamRow}
    : row ∈ (StreamLog.save rows).rows ↔ row ∈ rows := by
  have sorted := List.perm_insertionSort
    (fun left right : StreamRow => right.updatedAt ≤ left.updatedAt) rows
  have whole := List.take_of_length_le (sorted.length_eq.trans_le bounded)
  simp only [StreamLog.save, sortRows, whole]
  exact sorted.mem_iff

/-- The stream history agrees with the event log after the pass if and only if each stream that
departs first for an open event already had an exit at the time of this one.
-/
theorem hasExits_iff (history : GuardHistory) (scan : Scan) (readings : Nat → Readings)
    : (history.closeMissingStreamRows scan readings).1.HasExits
          (history.closeMissingStreamRows scan readings).2
      ↔ ∀ index row,
          scan.ExitsAt history.events history.streams.load readings index row
          → ∃ entry ∈ row.actions,
              entry.action = "exit" ∧ entry.stamp = (readings index).eventAt := by
  rw [GuardHistory.closeMissingStreamRows]
  split
  · next nowhere =>
      constructor
      · intro _ index row exits
        have departs := exits.departs
        simp [Scan.departs, nowhere] at departs
      · intro _ exit member
        cases member
  · constructor
    · intro agrees index row exits
      have member := mem_exits_iff.mpr ⟨index, row, exits, rfl, rfl⟩
      obtain ⟨-, -, carried⟩ := agrees _ member
      exact carried
    · intro carries exit member
      obtain ⟨index, row, exits, saved, entry⟩ := mem_exits_iff.mp member
      obtain ⟨listed, changed⟩ := mem_rows_of_exit member
      have bounded
          : (scan.visitAll readings history history.streams.load).rows.length
            ≤ streamLogLimit := by
        rw [length_visitAll, StreamLog.load, sortRows, List.length_insertionSort]
        exact history.streams.bounded
      refine ⟨?_, ?_, ?_⟩
      · dsimp only
        rw [if_pos changed]
        exact (mem_save bounded).mpr listed
      · rw [saved]
        rfl
      · rw [saved, entry]
        exact carries index row exits

def warnedStream : Stream where
  serverId := "server"
  serverName := "Casa"
  sessionId := "session"
  sessionKey := "server:session"
  playbackKey := "server|anna|tv|item:7"
  contentKey := "item:7"
  user := "anna"
  client := "Emby Web"
  device := "tv"
  deviceId := "tv"
  itemId := "7"
  title := "Film"
  mediaType := "movie"
  seriesName := ""
  seasonNumber := none
  episodeNumber := none
  year := "2020"
  mediaSourceId := "source"
  audioStreamIndex := some (some 1)
  subtitleStreamIndex := some none
  videoHeight := some 2160
  sourceHeight := some 2160
  labelHeight := none

def warning : ActionEntry := ⟨"warn", "Avviso inviato", true, 0, "guard"⟩

/-- A stream that was warned and has been missing since second one. -/
def warnedHistory : GuardHistory where
  events :=
    ⟨[("event",
      { warnedStream with
        category := "video_transcode"
        ruleId := "rule"
        ruleName := "Regola"
        rulePath := []
        startedAt := 0
        updatedAt := 0
        actions := [warning] })], by decide⟩
  streams :=
    ⟨[{ warnedStream with
        id := "row"
        eventId := "event"
        startedAt := 0
        updatedAt := second
        lastSeenAt := 0
        endedAt := none
        missingSince := some (.time second)
        missingSinceAt := some second
        observations := 1
        violationCount := 1
        actions := [warning]
        lastShouldEnforce := true
        lastDecisionCategory := "video_transcode"
        lastRuleId := "rule"
        lastRuleName := "Regola"
        lastRulePath := []
        mediaSourceIdKnown := true
        audioStreamIndexKnown := true
        subtitleStreamIndexKnown := true
        videoHeightKnown := true }], by decide⟩

theorem warnedHistory_loses_exit
    : ¬(warnedHistory.closeMissingStreamRows ⟨["server"], [], 6 * second⟩
          (fun _ => ⟨6 * second, 6 * second, 6 * second⟩)).1.HasExits
        (warnedHistory.closeMissingStreamRows ⟨["server"], [], 6 * second⟩
          (fun _ => ⟨6 * second, 6 * second, 6 * second⟩)).2 := by
  decide

end OctoHubs.TranscodeGuard
