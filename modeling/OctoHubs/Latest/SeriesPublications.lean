import OctoHubs.Latest.SeriesUpdates
import OctoHubs.Library.Runs

/-! The publications of one series over any sequence of refreshes and dispatches.
A publication is known by the batch of its group, and a batch by a minute on the server's
clock.
-/

namespace OctoHubs.Latest

open OctoHubs.Library

/-- The dates of the episodes that a refresh works on; at least one. -/
structure BatchDates where
  dates : List (Option String)
  filled : dates ≠ []
deriving DecidableEq

/-- An entry of the series in the published payload, with a group of changes or without. -/
inductive Announcement
  | changed (base : LatestEntry) (group : SeriesGroup)
  | unchanged (base : LatestEntry) (batch : BatchDates)
deriving DecidableEq

section Entries

variable (context : SeriesContext)

def batchRange (batch : BatchDates) : List Char :=
  let parsed := batch.dates.filterMap (·.bind context.rules.parseDateValue)
  match parsed.min?, parsed.max? with
  | some oldest, some newest =>
      (context.utcTime oldest).secondStamp ++ ':' :: (context.utcTime newest).secondStamp
  | _, _ => "unknown".toList

/-- The batch of all episodes, which entries without changes are published under. -/
def buildBatchId (batch : BatchDates) : String :=
  s!"{context.serverId}:series:" ++ String.ofList (batchRange context batch)

def seriesEntry (base : LatestEntry) : LatestEntry :=
  { base with serverId := some context.serverId, itemId := some context.seriesId }

namespace Announcement

def entry : Announcement → LatestEntry
  | .changed base group =>
      { seriesEntry context base with
        batchId := some (some (group.batchId context))
        updateType := some (some group.updateType)
        updateLabel := some (some group.updateLabel)
        changes := some (some group.changes)
        addedAt := some (some (group.addedAt context)) }
  | .unchanged base batch =>
      { seriesEntry context base with
        batchId := some (some (buildBatchId context batch))
        updateType := some (some "existing")
        updateLabel := some (some "")
        changes := some (some []) }

/-- The newest date in the group of changes. -/
def newest : Announcement → Option Timestamp
  | .changed _ group => some group.newest
  | .unchanged _ _ => none

end Announcement

end Entries

namespace Announcement

variable {context : SeriesContext}

/-- The name of the batch among those of the server's series. -/
def batchName (context : SeriesContext) : Announcement → List Char
  | .changed _ group =>
      context.seriesId.toList ++ ':' :: (context.localTime group.newest).minuteStamp
  | .unchanged _ batch => batchRange context batch

theorem batchId_entry (item : Announcement)
    : (item.entry context).batchId
      = some (some (s!"{context.serverId}:series:" ++ String.ofList (item.batchName context))) := by
  cases item with
  | unchanged base batch => rfl
  | changed base group =>
      refine congrArg (fun text => some (some text)) (String.ext ?_)
      simp only [SeriesGroup.batchId, batchName, String.toList_append, String.toList_ofList,
        List.append_assoc]
      rfl

theorem batchName_ends (context : SeriesContext) (item : Announcement)
    : ∃ c, (item.batchName context).getLast? = some c ∧ isSpace c = false := by
  cases item with
  | changed base group =>
      have long := (context.localTime group.newest).minuteStamp_length
      have some_ : (context.localTime group.newest).minuteStamp ≠ [] :=
        fun bare => by rw [bare] at long; cases long
      refine ⟨_, ?_, (CivilTime.minuteStamp_visible (List.getLast_mem some_)).1⟩
      rw [batchName, List.getLast?_append_of_ne_nil _ (List.cons_ne_nil _ _),
        List.getLast?_cons, List.getLast?_eq_some_getLast some_]
      rfl
  | unchanged base batch =>
      unfold batchName batchRange
      dsimp only
      split
      · next oldest newest _ _ =>
          have some_ : (context.utcTime newest).secondStamp ≠ [] := by
            unfold CivilTime.secondStamp
            simp [paddedDigits]
          refine ⟨_, ?_, (CivilTime.secondStamp_visible (List.getLast_mem some_)).1⟩
          rw [List.getLast?_append_of_ne_nil _ (List.cons_ne_nil _ _),
            List.getLast?_cons, List.getLast?_eq_some_getLast some_]
          rfl
      · exact ⟨'n', by decide, by decide⟩

theorem batchName_eq_iff {base other : LatestEntry} {group earlier : SeriesGroup}
    : batchName context (.changed base group) = batchName context (.changed other earlier)
      ↔ (context.localTime group.newest).toMinute
        = (context.localTime earlier.newest).toMinute := by
  unfold batchName
  rw [List.append_cancel_left_eq, List.cons.injEq]
  constructor
  · exact fun same => CivilTime.toMinute_eq_of_minuteStamp same.2
  · exact fun same => ⟨rfl, CivilTime.minuteStamp_eq_of_toMinute same⟩

theorem batchName_unchanged_ne {base other : LatestEntry} {group : SeriesGroup}
    {batch : BatchDates}
    : batchName context (.unchanged other batch) ≠ batchName context (.changed base group) := by
  intro same
  unfold batchName at same
  dsimp only at same
  unfold batchRange at same
  dsimp only at same
  split at same
  · next oldest newest _ _ =>
      -- the last 13 characters are digits on one side and begin with a colon on the other
      have long : (context.utcTime newest).secondStamp.length = 14 := by
        simp [CivilTime.secondStamp]
      obtain ⟨digit, rest, stamp⟩ := List.exists_cons_of_length_eq_add_one long
      rw [stamp, List.length_cons] at long
      have shape
          : (context.utcTime oldest).secondStamp ++ ':' :: digit :: rest
            = ((context.utcTime oldest).secondStamp ++ [':', digit]) ++ rest := by
        simp
      rw [stamp, shape] at same
      obtain ⟨-, suffix⟩ := List.append_inj' same (by simp; omega)
      have colon : ':' ∈ (context.utcTime newest).secondStamp := by
        rw [stamp, suffix]
        simp
      exact (CivilTime.secondStamp_visible colon).2 rfl
  · have colon : ':' ∈ "unknown".toList := by
      rw [same]
      simp
    revert colon
    decide

/-- The server and the kind, as every key of the series begins. -/
def keyLead (context : SeriesContext) : String :=
  String.ofList ((s!"{context.serverId}:series:").toList.dropWhile isSpace)

theorem key_ne_empty (item : Announcement)
    : keyLead context ++ String.ofList (item.batchName context) ≠ "" := by
  intro bare
  obtain ⟨last, found, -⟩ := item.batchName_ends context
  have nothing := congrArg String.toList bare
  rw [String.toList_append, String.toList_ofList] at nothing
  rw [(List.append_eq_nil_iff.mp nothing).2] at found
  cases found

theorem publicationStateKey_entry (item : Announcement)
    : publicationStateKey (item.entry context)
      = keyLead context ++ String.ofList (item.batchName context) := by
  obtain ⟨last, found, solid⟩ := item.batchName_ends context
  have colon : ':' ∈ (s!"{context.serverId}:series:").toList := by
    simp only [String.toList_append, List.mem_append]
    exact .inr (by decide)
  have stripped
      : strip (s!"{context.serverId}:series:" ++ String.ofList (item.batchName context))
        = keyLead context ++ String.ofList (item.batchName context) :=
    strip_append ⟨':', colon, by decide⟩ ⟨last, by rwa [String.toList_ofList], solid⟩
  have read
      : (item.entry context).batchId.get.getD ""
        = s!"{context.serverId}:series:" ++ String.ofList (item.batchName context) := by
    rw [batchId_entry]
    rfl
  unfold publicationStateKey
  rw [read, stripped]
  exact if_pos item.key_ne_empty

theorem publicationStateKey_eq_iff {left right : Announcement}
    : publicationStateKey (left.entry context) = publicationStateKey (right.entry context)
      ↔ left.batchName context = right.batchName context := by
  rw [publicationStateKey_entry, publicationStateKey_entry]
  constructor
  · intro same
    have chars := congrArg String.toList same
    rw [String.toList_append, String.toList_append, List.append_cancel_left_eq,
      String.toList_ofList, String.toList_ofList] at chars
    exact chars
  · exact fun same => by rw [same]

theorem itemSignature_entry (item : Announcement)
    : itemSignature (item.entry context) = s!"{context.serverId}:{context.seriesId}" := by
  have named : context.seriesId ≠ "" := by
    intro bare
    refine context.seriesNamed ?_
    rw [bare]
    decide
  cases item with
  | changed base group | unchanged base batch => exact if_pos ⟨context.serverNamed, named⟩

theorem publicationSignature_eq_iff {left right : Announcement}
    : publicationSignature (left.entry context) = publicationSignature (right.entry context)
      ↔ publicationStateKey (left.entry context) = publicationStateKey (right.entry context) := by
  have titled : s!"{context.serverId}:{context.seriesId}" ≠ "" := by
    intro bare
    rw [String.append_eq_empty_iff, String.append_eq_empty_iff] at bare
    exact absurd bare.1.2 (by decide)
  have shape (item : Announcement)
      : publicationSignature (item.entry context)
        = (context.serverId ++ ":" ++ context.seriesId) ++ ":"
          ++ publicationStateKey (item.entry context) := by
    unfold publicationSignature
    rw [itemSignature_entry]
    dsimp only
    rw [if_neg titled, if_pos (by rw [publicationStateKey_entry]; exact item.key_ne_empty)]
    rfl
  rw [shape, shape]
  constructor
  · intro same
    have chars := congrArg String.toList same
    simp only [String.toList_append, List.append_cancel_left_eq] at chars
    exact String.ext chars
  · exact fun same => by rw [same]

end Announcement

structure SeriesRefresh where
  observation : SeriesObservation
  base : LatestEntry
  batch : BatchDates
  keepsSeries : Bool
  keepsEpisode : String → Bool

inductive SeriesEvent
  | refresh (refresh : SeriesRefresh)
  | dispatch (item : Announcement) (delivered : Delivered) (required : List String)
    (notifiedAt : String)
  | prune (keepsSeries : Bool) (keepsEpisode : String → Bool)
  | reset

/-- What is remembered of the series and, in their order, all entries ever published. -/
structure SeriesWorld where
  memory : SeriesMemory
  published : List Announcement
deriving DecidableEq

namespace SeriesMemory

def blank : SeriesMemory := ⟨none, none, ∅⟩

/-- Retention drops the series or some of its episodes; the history stays. -/
def prune (memory : SeriesMemory) (keepsSeries : Bool) (keepsEpisode : String → Bool)
    : SeriesMemory :=
  { memory with
    series :=
      (memory.series.filter (fun _ => keepsSeries)).map (fun record =>
        { record with episodes := record.episodes.filter (fun key _ => keepsEpisode key) }) }

/-- Only what belongs to notifications is taken over from the source. -/
def mergeNotificationUpdates (target source : SeriesMemory) : SeriesMemory where
  series :=
    mergeRecord (·.notification) (fun record state => { record with notification := state })
      target.series source.series
  history :=
    mergeRecord (·.notification) (fun record state => { record with notification := state })
      target.history source.history
  episodeHistory :=
    mergeRecords (·.notification) (fun record state => { record with notification := state })
      target.episodeHistory source.episodeHistory

/-- The publication was sent to the destination, as far as the state of the series knows. -/
def destinationNotified (memory : SeriesMemory) (item : LatestEntry) (key : String) : Bool :=
  memory.series.elim false (fun record =>
    record.notification.destinationNotified (publicationStateKey item) key)

end SeriesMemory

namespace SeriesWorld

def blank : SeriesWorld := ⟨.blank, []⟩

variable (context : SeriesContext)

/-- What a refresh leaves behind; the notifications of the stored state are kept. -/
def refreshMemory (world : SeriesWorld) (refresh : SeriesRefresh) : SeriesMemory :=
  let updated := (updateSeriesState context refresh.observation world.memory).2
  if refresh.observation.stateEnabled then
    (updated.prune refresh.keepsSeries refresh.keepsEpisode).mergeNotificationUpdates
      world.memory
  else world.memory

def refreshGroups (world : SeriesWorld) (refresh : SeriesRefresh) : List SeriesGroup :=
  (updateSeriesState context refresh.observation world.memory).1

/-- The entries of a refresh: its groups, else the groups of the last changes that the state
remembers, else the series without changes.
-/
def refreshEntries (world : SeriesWorld) (refresh : SeriesRefresh) : List Announcement :=
  let (groups, updated) := updateSeriesState context refresh.observation world.memory
  let changes :=
    if groups = [] ∧ refresh.observation.stateEnabled then
      (updated.series.map (·.lastChanges)).getD []
    else groups
  if changes = [] then [.unchanged refresh.base refresh.batch]
  else changes.map (.changed refresh.base)

def step (world : SeriesWorld) : SeriesEvent → Option SeriesWorld
  | .refresh refresh =>
      some
        { memory := refreshMemory context world refresh
          published := world.published ++ refreshEntries context world refresh }
  | .dispatch item delivered required notifiedAt =>
      if item ∈ world.published then
        some { world with
          memory :=
            let published := item.entry context
            world.memory.mergeNotificationUpdates
              (world.memory.persistSeries context.rules context.seriesId published
                (publicationStateKey published) delivered required notifiedAt) }
      else none
  | .prune keepsSeries keepsEpisode =>
      some { world with
        memory :=
          (world.memory.prune keepsSeries keepsEpisode).mergeNotificationUpdates world.memory }
  | .reset => some { world with memory := .blank }

/-- The episode and the version that a change is about. -/
def source (change : LatestChange)
    : Option Int × Option Int × Option String × Option String × Option String :=
  (change.seasonNumber, change.episodeNumber, change.episodeTitle, change.mediaSourceId,
    change.path)

def sources (items : List Announcement)
    : List (Option Int × Option Int × Option String × Option String × Option String) :=
  items.flatMap (fun item => (item.entry context).changeList.map source)

/-- The group has a source that none of the entries has. -/
def IsNews (earlier : List Announcement) (group : SeriesGroup) : Prop :=
  ∃ change ∈ group.changes, source change ∉ sources context earlier

instance (earlier : List Announcement) (group : SeriesGroup)
    : Decidable (IsNews context earlier group) := by
  unfold IsNews
  infer_instance

/-- Every group with a new source, and all entries that were published before it. -/
def EachNews (world : SeriesWorld) (event : SeriesEvent)
    (property : SeriesRefresh → List Announcement → SeriesGroup → Prop)
    : Prop :=
  match event with
  | .refresh refresh =>
      ∀ before group after,
        refreshGroups context world refresh = before ++ group :: after
        → IsNews context (world.published ++ before.map (.changed refresh.base)) group
        → property refresh (world.published ++ before.map (.changed refresh.base)) group
  | _ => True

/-- News are published under a signature of their own, and no destination counts as notified
of them.
-/
def AnnouncesSeparately (world : SeriesWorld) (event : SeriesEvent) : Prop :=
  EachNews context world event (fun refresh earlier group =>
    let published := (Announcement.changed refresh.base group).entry context
    (∀ item ∈ earlier,
      publicationSignature (item.entry context) ≠ publicationSignature published)
    ∧ ∀ key, (refreshMemory context world refresh).destinationNotified published key = false)

/-- The newest date of the news lies in a minute of its own on the server's clock. -/
def MinutesApart (world : SeriesWorld) (event : SeriesEvent) : Prop :=
  EachNews context world event (fun _ earlier group =>
    ∀ item ∈ earlier, ∀ date ∈ item.newest,
      (context.localTime date).toMinute ≠ (context.localTime group.newest).toMinute)

end SeriesWorld

end OctoHubs.Latest
