import Mathlib.Data.String.Basic
import Mathlib.Data.List.DropRight
import Mathlib.Data.List.Sort
import Mathlib.Data.Prod.Lex
import OctoHubs.Library.Grouping
import OctoHubs.Probe.Queue

/-! The titles that are queued, counted without their rows, and the rows of one title. The rows of
a title are asked for by a filter of its own, which selects more than the title where it has no
year or where a row has the title for its id.
-/

namespace OctoHubs.Probe

open OctoHubs.Library

/-- What depends on the database: small letters and the order of texts. -/
structure SqlText where
  lower : String → String
  casefold : String → String
  precedes : String → String → Bool

/-- The text without blanks at its ends, or nothing when there is no other character. -/
def nullIfBlank (text : Option String) : Option String :=
  (text.map (fun text =>
    String.ofList ((text.toList.dropWhile (· = ' ')).rdropWhile (· = ' ')))).filter (· ≠ "")

inductive ProbeGroupType
  | series
  | movie
deriving DecidableEq, Repr

structure ProbeQueueGroup where
  serverId : String
  libraryId : Option String
  libraryName : Option String
  groupType : ProbeGroupType
  groupId : Option String
  title : String
  year : Option Int
  mediaType : Option String
  fileCount : Nat
  addedAt : Option Timestamp

abbrev ProbeRow := Nat × ProbeQueueEntry

namespace ProbeRow

variable (sql : SqlText) (row : ProbeRow)

def seriesName : Option String := nullIfBlank row.2.details.seriesName

def movieTitle : Option String :=
  nullIfBlank (some (row.2.details.title.getD row.2.details.name))

def movieGroupId : Option String := (movieTitle row).map sql.lower

end ProbeRow

section Listing

variable (sql : SqlText)

/-- The last text in the order of the database. -/
def maxText (values : List (Option String)) : Option String :=
  (values.filterMap id).foldl
    (fun best value =>
      match best with
      | none => some value
      | some found => if sql.precedes found value then some value else some found)
    none

def scopedRows (store : ProbeStore) (serverId : String) (scope : Option ProbeScope)
    : List ProbeRow :=
  store.queue.rows.items.filter (fun row =>
    row.2.identity.serverId = serverId && matchesScope scope row.2.identity.scope)

/-- The row of a series; its year is the one that was resolved. -/
def seriesGroup (serverId : String)
    (group : (Option String × Option String) × List ProbeRow)
    : ProbeQueueGroup :=
  let ((libraryId, name), rows) := group
  { serverId
    libraryId
    libraryName := maxText sql (rows.map (·.2.details.libraryName))
    groupType := .series
    groupId := name
    title := name.getD ""
    year :=
      (rows.filterMap (fun row =>
        if row.2.details.seriesYearResolved then row.2.details.year else none)).max?
    mediaType := maxText sql (rows.map (·.2.details.mediaType))
    fileCount := rows.length
    addedAt := (rows.map (·.2.addedAt)).min? }

def movieGroup (serverId : String)
    (group : (Option String × Option String × Option Int) × List ProbeRow)
    : ProbeQueueGroup :=
  let ((libraryId, groupId, year), rows) := group
  { serverId
    libraryId
    libraryName := maxText sql (rows.map (·.2.details.libraryName))
    groupType := .movie
    groupId
    title :=
      match maxText sql (rows.map ProbeRow.movieTitle) with
      | some title => if title = "" then "Sconosciuto" else title
      | none => "Sconosciuto"
    year
    mediaType := maxText sql (rows.map (·.2.details.mediaType))
    fileCount := rows.length
    addedAt := (rows.map (·.2.addedAt)).min? }

/-- Groups are listed by library, title and year. -/
def groupSortKey (group : ProbeQueueGroup) : String ×ₗ String ×ₗ Int ×ₗ String :=
  toLex (sql.casefold (group.libraryName.getD ""),
    toLex (sql.casefold group.title, toLex (group.year.getD 0, group.groupId.getD "")))

def getProbeQueueGroups (store : ProbeStore) (serverId : String) (scope : Option ProbeScope)
    : List ProbeQueueGroup :=
  let rows := scopedRows store serverId scope
  let seriesRows :=
    groupBy (fun row => (row.2.details.libraryId, ProbeRow.seriesName row))
      (rows.filter (fun row => (ProbeRow.seriesName row).isSome))
  let movieRows :=
    groupBy
      (fun row => (row.2.details.libraryId, ProbeRow.movieGroupId sql row, row.2.details.year))
      (rows.filter (fun row => (ProbeRow.seriesName row).isNone))
  (seriesRows.items.map (seriesGroup sql serverId)
    ++ movieRows.items.map (movieGroup sql serverId)).insertionSort (fun left right =>
      groupSortKey sql left ≤ groupSortKey sql right)

/-- What the rows of a title are asked by. -/
def selectsRow (groupType : ProbeGroupType) (groupId libraryId : Option String)
    (year : Option Int) (row : ProbeRow)
    : Bool :=
  row.2.details.libraryId = libraryId
  && match groupType with
    | .series => ProbeRow.seriesName row = groupId
    | .movie =>
        ProbeRow.seriesName row = none
        && (ProbeRow.movieGroupId sql row = groupId || some row.2.identity.itemId = groupId)
        && year.all (fun year => row.2.details.year = some year)

/-- The order of the rows of a title: a missing number comes last. -/
def rowPrecedes (groupType : ProbeGroupType) (left right : ProbeRow) : Bool :=
  let number (value : Option Int) : Int := value.getD 2147483647
  let places (row : ProbeRow) : Int ×ₗ Int :=
    match groupType with
    | .series => toLex (number row.2.details.seasonNumber, number row.2.details.episodeNumber)
    | .movie => toLex (0, 0)
  places left < places right
  || places left = places right
    && (if left.2.details.name = right.2.details.name then left.1 ≤ right.1
      else sql.precedes left.2.details.name right.2.details.name)

def getProbeQueueGroupItems (store : ProbeStore) (serverId : String) (scope : Option ProbeScope)
    (groupType : ProbeGroupType) (groupId libraryId : Option String) (year : Option Int)
    : List ProbeRow :=
  ((scopedRows store serverId scope).filter (selectsRow sql groupType groupId libraryId
    year)).insertionSort (fun left right => rowPrecedes sql groupType left right)

def countsIn (group : ProbeQueueGroup) (row : ProbeRow) : Bool :=
  row.2.details.libraryId = group.libraryId
  && match group.groupType with
    | .series => (ProbeRow.seriesName row).isSome && ProbeRow.seriesName row = group.groupId
    | .movie =>
        (ProbeRow.seriesName row).isNone
        && ProbeRow.movieGroupId sql row = group.groupId
        && row.2.details.year = group.year

/-- The groups count every row once, and only those rows. -/
def GroupsPartition (store : ProbeStore) (serverId : String) (scope : Option ProbeScope) : Prop :=
  (∀ row ∈ scopedRows store serverId scope,
      (getProbeQueueGroups sql store serverId scope).countP (countsIn sql · row) = 1)
  ∧ ∀ group ∈ getProbeQueueGroups sql store serverId scope,
      group.fileCount = (scopedRows store serverId scope).countP (countsIn sql group)

/-- The rows of every listed title are those that are counted in it. -/
def GroupsOpen (store : ProbeStore) (serverId : String) (scope : Option ProbeScope) : Prop :=
  ∀ group ∈ getProbeQueueGroups sql store serverId scope,
    (getProbeQueueGroupItems sql store serverId scope group.groupType group.groupId
        group.libraryId group.year).Perm
      ((scopedRows store serverId scope).filter (countsIn sql group))

def SameLibraryMovies (left right : ProbeRow) : Prop :=
  left.2.details.libraryId = right.2.details.libraryId
  ∧ ProbeRow.seriesName left = none
  ∧ ProbeRow.seriesName right = none

/-- Titles without a year stand alone in their library, and no movie has another title of the
library for its id, unless their years tell them apart.
-/
def TitlesStandApart (store : ProbeStore) (serverId : String) (scope : Option ProbeScope)
    : Prop :=
  ∀ row ∈ scopedRows store serverId scope,
    ∀ other ∈ scopedRows store serverId scope,
      SameLibraryMovies row other
      → (row.2.details.year = none
          → ProbeRow.movieGroupId sql other = ProbeRow.movieGroupId sql row
          → other.2.details.year = none)
        ∧ (some other.2.identity.itemId = ProbeRow.movieGroupId sql row
          → (row.2.details.year = none ∨ other.2.details.year = row.2.details.year)
          → ProbeRow.movieGroupId sql other = ProbeRow.movieGroupId sql row)

end Listing

section Keys

variable {sql : SqlText} {store : ProbeStore} {serverId : String} {scope : Option ProbeScope}
  {row : ProbeRow}

def seriesKey (row : ProbeRow) : Option String × Option String :=
  (row.2.details.libraryId, ProbeRow.seriesName row)

def movieKey (sql : SqlText) (row : ProbeRow) : Option String × Option String × Option Int :=
  (row.2.details.libraryId, ProbeRow.movieGroupId sql row, row.2.details.year)

/-- The rows of the series and of the movies that are queued, under their keys. -/
def seriesRows (store : ProbeStore) (serverId : String) (scope : Option ProbeScope)
    : Dict (Option String × Option String) (List ProbeRow) :=
  groupBy seriesKey
    ((scopedRows store serverId scope).filter (fun row => (ProbeRow.seriesName row).isSome))

def movieRows (sql : SqlText) (store : ProbeStore) (serverId : String)
    (scope : Option ProbeScope)
    : Dict (Option String × Option String × Option Int) (List ProbeRow) :=
  groupBy (movieKey sql)
    ((scopedRows store serverId scope).filter (fun row => (ProbeRow.seriesName row).isNone))

theorem getProbeQueueGroups_perm
    : (getProbeQueueGroups sql store serverId scope).Perm
        ((seriesRows store serverId scope).items.map (seriesGroup sql serverId)
          ++ (movieRows sql store serverId scope).items.map (movieGroup sql serverId)) :=
  List.perm_insertionSort _ _

theorem mem_getProbeQueueGroups {group : ProbeQueueGroup}
    : group ∈ getProbeQueueGroups sql store serverId scope
      ↔ (∃ series ∈ (seriesRows store serverId scope).items,
          seriesGroup sql serverId series = group)
        ∨ ∃ movie ∈ (movieRows sql store serverId scope).items,
            movieGroup sql serverId movie = group := by
  rw [getProbeQueueGroups_perm.mem_iff, List.mem_append, List.mem_map, List.mem_map]

theorem countsIn_seriesGroup (series : (Option String × Option String) × List ProbeRow)
    : countsIn sql (seriesGroup sql serverId series) row = true
      ↔ (ProbeRow.seriesName row).isSome = true ∧ series.1 = seriesKey row := by
  rcases series with ⟨⟨libraryId, name⟩, rows⟩
  simp only [countsIn, seriesGroup, seriesKey, Bool.and_eq_true, Prod.mk.injEq]
  constructor
  · rintro ⟨library, some_, named⟩
    exact ⟨some_, (of_decide_eq_true library).symm, (of_decide_eq_true named).symm⟩
  · rintro ⟨some_, library, named⟩
    exact ⟨decide_eq_true library.symm, some_, decide_eq_true named.symm⟩

theorem countsIn_movieGroup
    (movie : (Option String × Option String × Option Int) × List ProbeRow)
    : countsIn sql (movieGroup sql serverId movie) row = true
      ↔ (ProbeRow.seriesName row).isNone = true ∧ movie.1 = movieKey sql row := by
  rcases movie with ⟨⟨libraryId, groupId, year⟩, rows⟩
  simp only [countsIn, movieGroup, movieKey, Bool.and_eq_true, Prod.mk.injEq]
  constructor
  · rintro ⟨library, ⟨none_, named⟩, dated⟩
    exact ⟨none_, (of_decide_eq_true library).symm, (of_decide_eq_true named).symm,
      (of_decide_eq_true dated).symm⟩
  · rintro ⟨none_, library, named, dated⟩
    exact ⟨decide_eq_true library.symm, ⟨none_, decide_eq_true named.symm⟩,
      decide_eq_true dated.symm⟩

theorem countP_groups (member : row ∈ scopedRows store serverId scope)
    : (getProbeQueueGroups sql store serverId scope).countP (countsIn sql · row) = 1 := by
  rw [getProbeQueueGroups_perm.countP_eq, List.countP_append, List.countP_map, List.countP_map]
  cases named : ProbeRow.seriesName row with
  | some name =>
      have inSeries
          : row
            ∈ (scopedRows store serverId scope).filter (fun row =>
                (ProbeRow.seriesName row).isSome) :=
        List.mem_filter.mpr ⟨member, by rw [named]; rfl⟩
      have one : (seriesRows store serverId scope).items.countP
          ((countsIn sql · row) ∘ seriesGroup sql serverId) = 1 := by
        rw [← countP_groupBy seriesKey inSeries]
        refine List.countP_congr fun series _ => ?_
        simp [countsIn_seriesGroup, named]
      have none_ : (movieRows sql store serverId scope).items.countP
          ((countsIn sql · row) ∘ movieGroup sql serverId) = 0 := by
        rw [List.countP_eq_zero]
        intro movie _
        simp [countsIn_movieGroup, named]
      omega
  | none =>
      have inMovies
          : row
            ∈ (scopedRows store serverId scope).filter (fun row =>
                (ProbeRow.seriesName row).isNone) :=
        List.mem_filter.mpr ⟨member, by rw [named]; rfl⟩
      have none_ : (seriesRows store serverId scope).items.countP
          ((countsIn sql · row) ∘ seriesGroup sql serverId) = 0 := by
        rw [List.countP_eq_zero]
        intro series _
        simp [countsIn_seriesGroup, named]
      have one : (movieRows sql store serverId scope).items.countP
          ((countsIn sql · row) ∘ movieGroup sql serverId) = 1 := by
        rw [← countP_groupBy (movieKey sql) inMovies]
        refine List.countP_congr fun movie _ => ?_
        simp [countsIn_movieGroup, named]
      omega

theorem fileCount_eq {group : ProbeQueueGroup}
    (listed : group ∈ getProbeQueueGroups sql store serverId scope)
    : group.fileCount = (scopedRows store serverId scope).countP (countsIn sql group) := by
  rcases mem_getProbeQueueGroups.mp listed with
    ⟨⟨key, rows⟩, stored, rfl⟩ | ⟨⟨key, rows⟩, stored, rfl⟩
  · have members := (mem_items_groupBy stored).2
    change rows.length = _
    rw [members, List.filter_filter, ← List.countP_eq_length_filter]
    refine List.countP_congr fun row _ => ?_
    rw [countsIn_seriesGroup, Bool.and_eq_true, decide_eq_true_eq, and_comm]
    exact and_congr_right fun _ => eq_comm
  · have members := (mem_items_groupBy stored).2
    change rows.length = _
    rw [members, List.filter_filter, ← List.countP_eq_length_filter]
    refine List.countP_congr fun row _ => ?_
    rw [countsIn_movieGroup, Bool.and_eq_true, decide_eq_true_eq, and_comm]
    exact and_congr_right fun _ => eq_comm

theorem groupsPartition (sql : SqlText) (store : ProbeStore) (serverId : String)
    (scope : Option ProbeScope)
    : GroupsPartition sql store serverId scope :=
  ⟨fun _ => countP_groups, fun _ => fileCount_eq⟩

theorem selectsRow_movie {groupId libraryId : Option String} {year : Option Int}
    : selectsRow sql .movie groupId libraryId year row = true
      ↔ row.2.details.libraryId = libraryId
        ∧ ProbeRow.seriesName row = none
        ∧ (ProbeRow.movieGroupId sql row = groupId ∨ some row.2.identity.itemId = groupId)
        ∧ ∀ wanted, year = some wanted → row.2.details.year = some wanted := by
  cases year <;> simp [selectsRow, and_assoc]

theorem selectsRow_series {groupId libraryId : Option String} {year : Option Int}
    : selectsRow sql .series groupId libraryId year row = true
      ↔ row.2.details.libraryId = libraryId ∧ ProbeRow.seriesName row = groupId := by
  simp [selectsRow]

theorem groupsOpen_iff
    : GroupsOpen sql store serverId scope
      ↔ ∀ group ∈ getProbeQueueGroups sql store serverId scope,
          ∀ row ∈ scopedRows store serverId scope,
            selectsRow sql group.groupType group.groupId group.libraryId group.year row
            = countsIn sql group row := by
  refine forall_congr' fun group => forall_congr' fun _ => ?_
  rw [← perm_filter_iff]
  have sorted := List.perm_insertionSort
    (fun left right => rowPrecedes sql group.groupType left right = true)
    ((scopedRows store serverId scope).filter
      (selectsRow sql group.groupType group.groupId group.libraryId group.year))
  exact ⟨fun opened => sorted.symm.trans opened, fun opened => sorted.trans opened⟩

theorem selectsRow_of_series {series : (Option String × Option String) × List ProbeRow}
    (stored : series ∈ (seriesRows store serverId scope).items)
    : selectsRow sql .series series.1.2 series.1.1 (seriesGroup sql serverId series).year row
      = countsIn sql (seriesGroup sql serverId series) row := by
  rcases series with ⟨⟨libraryId, name⟩, rows⟩
  rcases (mem_items_groupBy stored).1 with ⟨sample, member, same⟩
  have named : name.isSome = true := by
    have shown := (List.mem_filter.mp member).2
    rw [(Prod.mk.inj same).2] at shown
    exact shown
  rw [Bool.eq_iff_iff, selectsRow_series, countsIn_seriesGroup]
  constructor
  · rintro ⟨library, rfl⟩
    exact ⟨named, Prod.ext library.symm rfl⟩
  · rintro ⟨-, same⟩
    exact ⟨(congrArg Prod.fst same).symm, (congrArg Prod.snd same).symm⟩

theorem exists_movie_iff {key : Option String × Option String × Option Int}
    : (∃ rows, (key, rows) ∈ (movieRows sql store serverId scope).items)
      ↔ ∃ row ∈ scopedRows store serverId scope,
          ProbeRow.seriesName row = none ∧ movieKey sql row = key := by
  constructor
  · rintro ⟨rows, stored⟩
    rcases (mem_items_groupBy stored).1 with ⟨row, member, same⟩
    rcases List.mem_filter.mp member with ⟨inRows, unnamed⟩
    exact ⟨row, inRows, Option.isNone_iff_eq_none.mp unnamed, same⟩
  · rintro ⟨row, inRows, unnamed, same⟩
    have member
        : row
          ∈ (scopedRows store serverId scope).filter (fun row =>
              (ProbeRow.seriesName row).isNone) :=
      List.mem_filter.mpr ⟨inRows, by rw [unnamed]; rfl⟩
    have found := (isSome_groupBy (movieKey sql) _ key).mpr ⟨row, member, same⟩
    rcases Option.isSome_iff_exists.mp found with ⟨rows, stored⟩
    exact ⟨rows, Dict.mem_items_iff.mpr stored⟩

def asksFor (sql : SqlText) (title row : ProbeRow) : Bool :=
  selectsRow sql .movie (ProbeRow.movieGroupId sql title) title.2.details.libraryId
    title.2.details.year row

theorem asksFor_iff_of_apart (apart : TitlesStandApart sql store serverId scope)
    {title : ProbeRow} (inTitles : title ∈ scopedRows store serverId scope)
    (unnamed : ProbeRow.seriesName title = none) (inRows : row ∈ scopedRows store serverId scope)
    : asksFor sql title row = true
      ↔ (ProbeRow.seriesName row).isNone = true ∧ movieKey sql title = movieKey sql row := by
  unfold asksFor
  rw [selectsRow_movie]
  constructor
  · rintro ⟨library, rowUnnamed, sameTitleOrId, dates⟩
    rcases apart title inTitles row inRows ⟨library.symm, unnamed, rowUnnamed⟩ with
      ⟨undatedAlone, idAlone⟩
    have years
        : title.2.details.year = none ∨ row.2.details.year = title.2.details.year := by
      cases dated : title.2.details.year with
      | none => exact .inl rfl
      | some wanted => exact .inr (dates wanted dated)
    have sameTitle : ProbeRow.movieGroupId sql row = ProbeRow.movieGroupId sql title := by
      rcases sameTitleOrId with same | id
      · exact same
      · exact idAlone id years
    have sameYear : row.2.details.year = title.2.details.year := by
      rcases years with undated | same
      · exact (undatedAlone undated sameTitle).trans undated.symm
      · exact same
    exact ⟨by rw [rowUnnamed]; rfl,
      Prod.ext library.symm (Prod.ext sameTitle.symm sameYear.symm)⟩
  · rintro ⟨rowUnnamed, same⟩
    rcases Prod.mk.inj same with ⟨library, rest⟩
    rcases Prod.mk.inj rest with ⟨sameTitle, sameYear⟩
    exact ⟨library.symm, Option.isNone_iff_eq_none.mp rowUnnamed, .inl sameTitle.symm,
      fun wanted dated => sameYear.symm.trans dated⟩

theorem apart_of_asksFor
    (alike
      : ∀ title ∈ scopedRows store serverId scope,
          ProbeRow.seriesName title = none
          → ∀ row ∈ scopedRows store serverId scope,
              asksFor sql title row = true → movieKey sql title = movieKey sql row)
    : TitlesStandApart sql store serverId scope := by
  rintro title inTitles other inOthers ⟨library, unnamed, otherUnnamed⟩
  have key := alike title inTitles unnamed other inOthers
  refine ⟨?_, ?_⟩
  · intro undated sameTitle
    have asked : asksFor sql title other = true := by
      refine selectsRow_movie.mpr ⟨library.symm, otherUnnamed, .inl sameTitle, ?_⟩
      intro wanted dated
      rw [undated] at dated
      cases dated
    have sameYear := (Prod.mk.inj (Prod.mk.inj (key asked)).2).2
    exact sameYear.symm.trans undated
  · intro sameId years
    have asked : asksFor sql title other = true := by
      refine selectsRow_movie.mpr ⟨library.symm, otherUnnamed, .inr sameId, ?_⟩
      intro wanted dated
      rcases years with undated | same
      · rw [undated] at dated
        cases dated
      · exact same.trans dated
    exact (Prod.mk.inj (Prod.mk.inj (key asked)).2).1.symm

/-- The groups open to exactly their rows if and only if the titles stand apart. -/
theorem groupsOpen_iff_titlesStandApart
    : GroupsOpen sql store serverId scope ↔ TitlesStandApart sql store serverId scope := by
  rw [groupsOpen_iff]
  constructor
  · intro opened
    refine apart_of_asksFor fun title inTitles unnamed row inRows asked => ?_
    rcases exists_movie_iff.mpr ⟨title, inTitles, unnamed, rfl⟩ with ⟨rows, stored⟩
    have alike :=
      opened (movieGroup sql serverId (movieKey sql title, rows))
        (mem_getProbeQueueGroups.mpr (.inr ⟨_, stored, rfl⟩)) row inRows
    exact ((countsIn_movieGroup _).mp (alike.symm.trans asked)).2
  · intro apart group listed row inRows
    rcases mem_getProbeQueueGroups.mp listed with
      ⟨series, stored, rfl⟩ | ⟨⟨key, rows⟩, stored, rfl⟩
    · exact selectsRow_of_series stored
    · rcases exists_movie_iff.mp ⟨rows, stored⟩ with ⟨title, inTitles, unnamed, rfl⟩
      rw [Bool.eq_iff_iff, countsIn_movieGroup]
      exact asksFor_iff_of_apart apart inTitles unnamed inRows

end Keys

/-- The listed groups count every row once, and each opens to the rows that it counts, if and only
if the titles stand apart.
-/
theorem probe_groups_iff (sql : SqlText) (store : ProbeStore) (serverId : String)
    (scope : Option ProbeScope)
    : GroupsPartition sql store serverId scope ∧ GroupsOpen sql store serverId scope
      ↔ TitlesStandApart sql store serverId scope := by
  rw [groupsOpen_iff_titlesStandApart]
  exact and_iff_right (groupsPartition sql store serverId scope)

def queuedMovie (itemId title : String) (year : Option Int) : ProbeQueueEntry where
  identity := ⟨"server", itemId, some .libraries, none⟩
  details :=
    { libraryId := some "movies"
      libraryName := some "Movies"
      name := title
      title := some title
      seriesName := none
      seriesId := none
      seriesYearResolved := false
      seasonNumber := none
      episodeNumber := none
      year
      mediaType := some "Movie"
      path := none }
  addedAt := 0
  claimToken := none
  claimedAt := none

/-- Two films of one title, of which the first has no year. -/
def remakeQueue : ProbeStore where
  queue := ((∅ : SerialTable ProbeQueueEntry).insert (queuedMovie "1" "Dune" none)).insert
    (queuedMovie "2" "Dune" (some 2021))
  blacklist := ∅
  history := []

def plainSql : SqlText := ⟨String.map Char.toLower, String.map Char.toLower, fun a b => a < b⟩

/-- The title without a year opens to the film of the other year too. -/
theorem remakeQueue_opens_both
    : (getProbeQueueGroups plainSql remakeQueue "server" (some .libraries)).map (fun group =>
            (group.groupId, group.year, group.fileCount))
        = [(some "dune", none, 1), (some "dune", some 2021, 1)]
      ∧ (getProbeQueueGroupItems plainSql remakeQueue "server" (some .libraries) .movie
            (some "dune") (some "movies") none).map Prod.fst
          = [1, 2]
      ∧ ¬(GroupsPartition plainSql remakeQueue "server" (some .libraries)
            ∧ GroupsOpen plainSql remakeQueue "server" (some .libraries)) := by
  refine ⟨by decide +kernel, by decide +kernel, ?_⟩
  rintro ⟨-, opened⟩
  have apart := groupsOpen_iff_titlesStandApart.mp opened
  have undated :=
    (apart (1, queuedMovie "1" "Dune" none) ?_ (2, queuedMovie "2" "Dune" (some 2021)) ?_
      ⟨rfl, by decide +kernel, by decide +kernel⟩).1 rfl (by decide +kernel)
  · cases undated
  · decide
  · decide

end OctoHubs.Probe
