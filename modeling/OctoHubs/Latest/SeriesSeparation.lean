import OctoHubs.Latest.SeriesPublications

/-! News of a series are announced separately when their minutes differ.
What is remembered of notifications names published entries only, so a new batch is not
remembered; and a batch is new exactly when its minute is.
-/

namespace OctoHubs.Latest

open OctoHubs.Library

namespace SeriesMemory

/-- The state or the history of the series remembers something about the publication. -/
def Knows (memory : SeriesMemory) (publicationKey : String) : Prop :=
  (∃ record ∈ memory.series, record.notification.Knows publicationKey)
  ∨ ∃ record ∈ memory.history, record.notification.Knows publicationKey

variable {memory target source : SeriesMemory} {publicationKey : String}

theorem known_of_mergeRecord {ν : Type} {notification : ν → NotificationState}
    {write : ν → NotificationState → ν} {target source : Option ν} {record : ν}
    (written : ∀ record state, notification (write record state) = state)
    (merged : record ∈ mergeRecord notification write target source)
    (known : (notification record).Knows publicationKey)
    : (∃ kept ∈ target, (notification kept).Knows publicationKey)
      ∨ ∃ other ∈ source, (notification other).Knows publicationKey := by
  cases source with
  | none =>
      have same : record ∈ target := by
        cases target with
        | none | some kept => exact merged
      exact .inl ⟨record, same, known⟩
  | some other =>
      cases target with
      | none =>
          unfold mergeRecord at merged
          dsimp only at merged
          split at merged
          · cases merged
            exact .inr ⟨_, rfl, known⟩
          · cases merged
      | some kept =>
          cases merged
          rw [written] at known
          rcases known.of_merge with before | added
          · exact .inl ⟨kept, rfl, before⟩
          · exact .inr ⟨other, rfl, added⟩

theorem Knows.of_merge
    (known : (target.mergeNotificationUpdates source).Knows publicationKey)
    : target.Knows publicationKey ∨ source.Knows publicationKey := by
  rcases known with ⟨record, found, known⟩ | ⟨record, found, known⟩
  · rcases known_of_mergeRecord (fun _ _ => rfl) found known with kept | other
    · exact .inl (.inl kept)
    · exact .inr (.inl other)
  · rcases known_of_mergeRecord (fun _ _ => rfl) found known with kept | other
    · exact .inl (.inr kept)
    · exact .inr (.inr other)

theorem Knows.of_prune {keepsSeries : Bool} {keepsEpisode : String → Bool}
    (known : (memory.prune keepsSeries keepsEpisode).Knows publicationKey)
    : memory.Knows publicationKey := by
  rcases known with ⟨record, found, known⟩ | known
  · obtain ⟨before, kept, rfl⟩ := Option.mem_map.mp found
    exact .inl ⟨before, (Option.mem_filter_iff.mp kept).1, known⟩
  · exact .inr known

end SeriesMemory

theorem NotificationState.Knows.of_mergeNotification {rules : TextRules}
    {existing : Option NotificationState} {payload : NotificationState}
    {publicationKey : String}
    (known : (mergeNotification rules existing payload).Knows publicationKey)
    : (∃ record ∈ existing, record.Knows publicationKey) ∨ payload.Knows publicationKey := by
  rcases known.of_update with merged | united
  · rcases merged.of_update with before | written
    · cases existing with
      | none => cases before
      | some record => exact .inl ⟨record, rfl, before⟩
    · exact .inr written
  · obtain ⟨record, member, known⟩ := united.of_snapshot
    rcases List.mem_cons.mp member with first | last
    · exact .inl ⟨record, first.symm, known⟩
    · cases List.mem_singleton.mp last
      exact .inr known

section Refreshes

variable {context : SeriesContext} {observation : SeriesObservation} {memory : SeriesMemory}
  {publicationKey : String}

theorem mem_of_existingSeries {record : SeriesRecord}
    (found : record ∈ existingSeries observation memory)
    : record ∈ memory.series := by
  unfold existingSeries at found
  split at found
  · exact found
  · cases found

theorem mem_of_existingHistory {record : SeriesHistory}
    (found : record ∈ existingHistory observation memory)
    : record ∈ memory.history := by
  unfold existingHistory at found
  split at found
  · exact found
  · cases found

theorem SeriesMemory.Knows.of_snapshot
    (known
      : (NotificationState.notificationSnapshot context.rules
            [(existingSeries observation memory).map (·.notification),
              (existingHistory observation memory).map (·.notification)]).Knows publicationKey)
    : memory.Knows publicationKey := by
  obtain ⟨entry, member, known⟩ := known.of_snapshot
  rw [List.mem_cons, List.mem_singleton] at member
  rcases member with found | found
  · obtain ⟨record, stored, rfl⟩ := Option.map_eq_some_iff.mp found.symm
    exact .inl ⟨record, mem_of_existingSeries stored, known⟩
  · obtain ⟨record, stored, rfl⟩ := Option.map_eq_some_iff.mp found.symm
    exact .inr ⟨record, mem_of_existingHistory stored, known⟩

theorem SeriesMemory.Knows.of_updateSeriesState
    (known : (updateSeriesState context observation memory).2.Knows publicationKey)
    : memory.Knows publicationKey := by
  unfold updateSeriesState at known
  dsimp only at known
  split at known
  · rcases known with ⟨record, found, known⟩ | ⟨record, found, known⟩
    · cases found
      exact .of_snapshot known
    · cases found
      rcases known.of_mergeNotification with ⟨state, stored, known⟩ | known
      · obtain ⟨record, held, rfl⟩ := Option.mem_map.mp stored
        exact .inr ⟨record, held, known⟩
      · exact .of_snapshot known
  · exact known

theorem SeriesMemory.Knows.of_persistSeries {rules : TextRules} {seriesKey : String}
    {item : LatestEntry} {other : String} {delivered : Delivered} {required : List String}
    {notifiedAt : String}
    (known
      : (memory.persistSeries rules seriesKey item other delivered required notifiedAt).Knows
          publicationKey)
    : publicationKey = other ∨ memory.Knows publicationKey := by
  -- what the record of the series knows after the checkpoint
  have ofRecord {title : String} {year : Option String} {lastSeenAt : String}
      (known
        : ((memory.series.getD ⟨title, year, lastSeenAt, ∅, [], [], .empty⟩
              ).notification.applyDestinationState other delivered required
            notifiedAt).Knows publicationKey)
      : publicationKey = other ∨ memory.Knows publicationKey := by
    rcases known.of_applyDestinationState with same | before
    · exact .inl same
    · cases stored : memory.series with
      | none =>
          rw [stored] at before
          cases before
      | some record =>
          rw [stored] at before
          exact .inr (.inl ⟨record, stored, before⟩)
  rcases known with ⟨record, found, known⟩ | ⟨record, found, known⟩
  · cases found
    exact ofRecord known
  · cases found
    rcases known.of_mergeNotification with ⟨state, stored, known⟩ | known
    · obtain ⟨record, held, rfl⟩ := Option.mem_map.mp stored
      exact .inr (.inr ⟨record, held, known⟩)
    · obtain ⟨entry, member, known⟩ := known.of_snapshot
      cases List.mem_singleton.mp member
      exact ofRecord known

end Refreshes

namespace SeriesWorld

variable {context : SeriesContext} {world next : SeriesWorld} {event : SeriesEvent}

def RemembersPublished (context : SeriesContext) (world : SeriesWorld) : Prop :=
  ∀ publicationKey,
    world.memory.Knows publicationKey
    → ∃ item ∈ world.published, publicationStateKey (item.entry context) = publicationKey

theorem knows_of_refreshMemory {refresh : SeriesRefresh} {publicationKey : String}
    (known : (refreshMemory context world refresh).Knows publicationKey)
    : world.memory.Knows publicationKey := by
  unfold refreshMemory at known
  dsimp only at known
  split at known
  · rcases known.of_merge with updated | before
    · exact updated.of_prune.of_updateSeriesState
    · exact before
  · exact known

theorem RemembersPublished.step (remembers : RemembersPublished context world)
    (taken : world.step context event = some next)
    : RemembersPublished context next := by
  intro publicationKey known
  cases event with
  | refresh refresh =>
      cases taken
      obtain ⟨item, member, same⟩ := remembers publicationKey (knows_of_refreshMemory known)
      exact ⟨item, List.mem_append_left _ member, same⟩
  | dispatch item delivered required notifiedAt =>
      simp only [SeriesWorld.step] at taken
      split at taken
      · next published =>
          cases taken
          rcases known.of_merge with before | written
          · exact remembers publicationKey before
          · rcases written.of_persistSeries with same | before
            · exact ⟨item, published, same.symm⟩
            · exact remembers publicationKey before
      · cases taken
  | prune keepsSeries keepsEpisode =>
      cases taken
      exact remembers publicationKey (known.of_merge.elim (·.of_prune) id)
  | reset =>
      cases taken
      rcases known with ⟨record, nothing, -⟩ | ⟨record, nothing, -⟩
      · cases nothing
      · cases nothing

theorem destinationNotified_eq_false (remembers : RemembersPublished context world)
    {refresh : SeriesRefresh} {earlier : List Announcement} {news : Announcement}
    (published : world.published ⊆ earlier)
    (apart
      : ∀ item ∈ earlier,
          publicationSignature (item.entry context)
            ≠ publicationSignature (news.entry context))
    (key : String)
    : (refreshMemory context world refresh).destinationNotified (news.entry context) key
      = false := by
  unfold SeriesMemory.destinationNotified
  cases stored : (refreshMemory context world refresh).series with
  | none => rfl
  | some record =>
      refine NotificationState.destinationNotified_of_not_knows (fun known => ?_) key
      obtain ⟨item, member, same⟩ :=
        remembers _ (knows_of_refreshMemory (.inl ⟨record, stored, known⟩))
      exact apart item (published member) (Announcement.publicationSignature_eq_iff.mpr same)

theorem signatures_apart_iff {base : LatestEntry} {group : SeriesGroup} {item : Announcement}
    : publicationSignature (item.entry context)
        ≠ publicationSignature ((Announcement.changed base group).entry context)
      ↔ ∀ date ∈ item.newest,
          (context.localTime date).toMinute ≠ (context.localTime group.newest).toMinute := by
  rw [ne_eq, Announcement.publicationSignature_eq_iff, Announcement.publicationStateKey_eq_iff]
  cases item with
  | changed other earlier =>
      rw [Announcement.batchName_eq_iff]
      exact ⟨fun apart date found => by cases found; exact apart, fun apart => apart _ rfl⟩
  | unchanged other batch =>
      exact ⟨fun _ date nothing => (by cases nothing),
        fun _ => Announcement.batchName_unchanged_ne⟩

theorem announcesSeparately_iff (remembers : RemembersPublished context world)
    : AnnouncesSeparately context world event ↔ MinutesApart context world event := by
  cases event with
  | refresh refresh =>
      refine forall₃_congr (fun before group after => forall₂_congr (fun emitted news => ?_))
      constructor
      · exact fun announced item member => signatures_apart_iff.mp (announced.1 item member)
      · intro apart
        have signatures (item : Announcement)
            (member : item ∈ world.published ++ before.map (.changed refresh.base))
            : publicationSignature (item.entry context)
              ≠ publicationSignature ((Announcement.changed refresh.base group).entry context) :=
          signatures_apart_iff.mpr (apart item member)
        exact ⟨signatures,
          destinationNotified_eq_false remembers (List.subset_append_left _ _) signatures⟩
  | dispatch | prune | reset => exact Iff.rfl

def firstArrival : Timestamp := 1768039205 * second

def secondArrival : Timestamp := 1768039240 * second

def arrivalTexts : List (String × Timestamp) :=
  [("2026-01-10T10:00:05+00:00", firstArrival), ("2026-01-10T10:00:40+00:00", secondArrival)]

def dayClock (time : Timestamp) : CivilTime :=
  let seconds := ((time - 1768003200 * second) / second).toNat
  ⟨2026, 1, 10, Fin.ofNat 24 (seconds / 3600), Fin.ofNat 60 (seconds / 60),
    Fin.ofNat 60 seconds⟩

def arrivalRules : TextRules where
  strip := strip
  lower := String.map Char.toLower
  casefold := String.map Char.toLower
  parseDateValue text := arrivalTexts.lookup text
  isoformat time := ((arrivalTexts.find? (·.2 = time)).map Prod.fst).getD ""

def arrivalSeries : SeriesContext where
  rules := arrivalRules
  localTime := dayClock
  utcTime := dayClock
  serverId := "server"
  seriesId := "series"
  serverNamed := by decide
  seriesNamed := by decide

def arrivedVersion (id added : String) : SourceVersion :=
  ⟨id, some id, some id, none, some added, toLex (1080, 8), false⟩

def arrivedEpisode (id : String) (number : Int) (added : String) : EpisodeEntry where
  id
  parentIndexNumber := some 1
  indexNumber := some number
  name := id
  dateCreated := some added
  versionGroupDt := some added
  versionGroupVersions := [arrivedVersion id added]
  extractedVersions := []
  versionTimeMap := ∅
  catalogBaselineDetected := false
  catalogBaselineKeys := []
  versionGroupIsLatest := true

def pilot : EpisodeEntry := arrivedEpisode "pilot" 1 "2026-01-10T10:00:05+00:00"

def sequel : EpisodeEntry := arrivedEpisode "sequel" 2 "2026-01-10T10:00:40+00:00"

/-- A refresh that finds the episodes; retention drops nothing. -/
def arrivals (episodes : List EpisodeEntry) : SeriesRefresh where
  observation :=
    { stateEnabled := true
      gapMinutes := 60
      maxVersions := 50
      episodeDates := episodes.map (·.dateCreated)
      fallbackTitle := "Series"
      fallbackYear := none
      episodeEntries := episodes
      seriesIsNew := true
      seasonRecent := ∅
      mediainfoSourceKeys := [] }
  base := ⟨none, none, none, none, none, none, none, none, ∅⟩
  batch := ⟨[none], by decide⟩
  keepsSeries := true
  keepsEpisode := fun _ => true

def pilotGroup : SeriesGroup where
  updateType := "new"
  updateLabel := "Nuova serie"
  changes :=
    [changeOf arrivalSeries pilot .newSeason
      (arrivedVersion "pilot" "2026-01-10T10:00:05+00:00")]
  newest := firstArrival

def sequelGroup : SeriesGroup where
  updateType := "update"
  updateLabel := "Nuovi episodi"
  changes :=
    [changeOf arrivalSeries sequel .newEpisode
      (arrivedVersion "sequel" "2026-01-10T10:00:40+00:00")]
  newest := secondArrival

/-- The first episode is published and sent. -/
def pilotDispatched : List SeriesEvent :=
  [.refresh (arrivals [pilot]),
    .dispatch (.changed (arrivals [pilot]).base pilotGroup)
      ((∅ : Delivered).set "bot:chat" ("bot", "chat")) ["bot:chat"] "2026-01-10T10:00:10+00:00"]

def afterPilot : SeriesWorld :=
  (execute (step arrivalSeries) (fun _ _ => True) blank pilotDispatched).getD blank

end SeriesWorld

end OctoHubs.Latest
