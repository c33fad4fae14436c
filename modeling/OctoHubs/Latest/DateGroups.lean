import OctoHubs.Latest.SeriesSeparation
import OctoHubs.Library.SortedGroups

/-! The groups by date of the episodes that a refresh fetched. They hold every episode once where
all have a date, or none has one; an episode without a date beside one with a date falls out.
-/

namespace OctoHubs.Latest

open OctoHubs.Library

section Splitting

variable {α : Type} {gap : Timestamp} {items : List (α × Timestamp)}

/-- Two neighbours stay together up to the gap. -/
def within (gap : Timestamp) (newer older : α × Timestamp) : Bool :=
  decide (newer.2 - older.2 ≤ gap)

theorem DateGroup.split_cons (gap : Timestamp) (item : α × Timestamp)
    (items : List (α × Timestamp))
    : (split gap items = [] ∧ split gap (item :: items) = [⟨item, []⟩])
      ∨ ∃ group groups,
          split gap items = group :: groups
          ∧ (within gap item group.first = false
              ∧ split gap (item :: items) = ⟨item, []⟩ :: group :: groups
            ∨ within gap item group.first = true
              ∧ split gap (item :: items) = ⟨item, group.members⟩ :: groups) := by
  rw [split]
  cases shape : split gap items with
  | nil => exact .inl ⟨rfl, rfl⟩
  | cons group groups =>
      refine .inr ⟨group, groups, rfl, ?_⟩
      dsimp only
      by_cases far : item.2 - group.first.2 > gap
      · rw [if_pos far]
        exact .inl ⟨decide_eq_false (Int.not_le.mpr far), rfl⟩
      · rw [if_neg far]
        exact .inr ⟨decide_eq_true (Int.not_lt.mp far), rfl⟩

theorem DateGroup.flatten_split (gap : Timestamp) (items : List (α × Timestamp))
    : ((split gap items).map members).flatten = items := by
  induction items with
  | nil => rfl
  | cons item items ih =>
      obtain ⟨none_, single⟩ | ⟨group, groups, before, ⟨-, apart⟩ | ⟨-, joined⟩⟩ :=
        split_cons gap item items
      · rw [none_] at ih
        rw [single, ← ih]
        rfl
      · rw [before] at ih
        rw [apart, List.map_cons, List.flatten_cons, ih]
        rfl
      · rw [before, List.map_cons, List.flatten_cons] at ih
        rw [joined, List.map_cons, List.flatten_cons, ← ih]
        rfl

theorem DateGroup.isChain_split {group : DateGroup α} (member : group ∈ split gap items)
    : group.members.IsChain (fun newer older => within gap newer older = true) := by
  induction items generalizing group with
  | nil => cases member
  | cons item items ih =>
      obtain ⟨-, single⟩ | ⟨next, groups, before, ⟨-, apart⟩ | ⟨near, joined⟩⟩ :=
        split_cons gap item items
      · rw [single, List.mem_singleton] at member
        subst member
        exact List.isChain_singleton _
      · rw [apart] at member
        obtain rfl | later := List.mem_cons.mp member
        · exact List.isChain_singleton _
        · exact ih (before ▸ later)
      · rw [joined] at member
        obtain rfl | later := List.mem_cons.mp member
        · exact List.isChain_cons_cons.mpr ⟨near, ih (before ▸ List.mem_cons_self)⟩
        · exact ih (before ▸ List.mem_cons_of_mem _ later)

theorem DateGroup.borders_split (gap : Timestamp) (items : List (α × Timestamp))
    : ((split gap items).map members).IsChain (fun g h =>
        ∃ hg hh, within gap (g.getLast hg) (h.head hh) = false) := by
  induction items with
  | nil => exact .nil
  | cons item items ih =>
      obtain ⟨-, single⟩ | ⟨next, groups, before, ⟨far, apart⟩ | ⟨-, joined⟩⟩ :=
        split_cons gap item items
      · rw [single]
        exact List.isChain_singleton _
      · rw [before] at ih
        rw [apart]
        exact List.isChain_cons_cons.mpr
          ⟨⟨List.cons_ne_nil _ _, List.cons_ne_nil _ _, far⟩, ih⟩
      · rw [before, List.map_cons] at ih
        rw [joined, List.map_cons]
        cases rest : groups.map members with
        | nil => exact List.isChain_singleton _
        | cons following others =>
            rw [rest] at ih
            obtain ⟨⟨filled, opened, far⟩, later⟩ := List.isChain_cons_cons.mp ih
            refine List.isChain_cons_cons.mpr ⟨⟨List.cons_ne_nil _ _, opened, ?_⟩, later⟩
            exact (List.getLast_cons (a := item) filled) ▸ far

theorem DateGroup.pairwise_split (gap : Timestamp)
    (sorted : items.Pairwise (fun left right => right.2 ≤ left.2))
    : ((split gap items).map members).Pairwise (fun g h =>
        ∀ newer ∈ g, ∀ older ∈ h, gap < newer.2 - older.2) := by
  refine pairwise_apart_of_borders ?_ ?_ ?_
    (by rw [flatten_split]; exact sorted) (borders_split gap items)
  · intro newer older _ far
    exact Int.not_le.mp (of_decide_eq_false far)
  · intro first newer older before apart
    exact Int.lt_of_lt_of_le apart (Int.sub_le_sub_right before _)
  · intro newer older last apart before
    exact Int.lt_of_lt_of_le apart (Int.sub_le_sub_left before _)

end Splitting

section Grouping

variable {α : Type} (date : α → Option Timestamp) (gap : Timestamp) (items : List α)

/-- What groups by date promise. Each item is in one group, a group has several items only where
all of them have dates, and then neighbours are at most the gap apart; items with dates in
different groups are more than the gap apart.
-/
structure GroupsByDate (groups : List (DateGroup α)) : Prop where
  complete : (groups.flatMap (fun group => group.members.map Prod.fst)).Perm items
  near
    : ∀ group ∈ groups,
        group.members.IsChain (fun newer older =>
          date newer.1 = some newer.2
          ∧ date older.1 = some older.2
          ∧ newer.2 - older.2 ≤ gap)
  apart
    : groups.Pairwise (fun g h =>
        ∀ newer ∈ g.members,
          ∀ older ∈ h.members,
            ∀ later earlier,
              date newer.1 = some later
              → date older.1 = some earlier
              → gap < later - earlier)

/-- The items with dates, with their dates. -/
def parsedItems : List (α × Timestamp) :=
  items.filterMap (fun item => (date item).map (fun found => (item, found)))

variable {date gap items}

theorem mem_parsedItems {item : α × Timestamp}
    : item ∈ parsedItems date items ↔ item.1 ∈ items ∧ date item.1 = some item.2 := by
  unfold parsedItems
  rw [List.mem_filterMap]
  constructor
  · rintro ⟨found, member, dated⟩
    obtain ⟨time, known, rfl⟩ := Option.map_eq_some_iff.mp dated
    exact ⟨member, known⟩
  · rintro ⟨member, known⟩
    exact ⟨item.1, member, by rw [known]; rfl⟩

theorem parsedItems_eq_nil_iff : parsedItems date items = [] ↔ ∀ item ∈ items, date item = none := by
  unfold parsedItems
  rw [List.filterMap_eq_nil_iff]
  simp only [Option.map_eq_none_iff]

theorem map_parsedItems : (parsedItems date items).map Prod.fst = items.filter (date · |>.isSome) := by
  induction items with
  | nil => rfl
  | cons item items ih =>
      unfold parsedItems at ih ⊢
      cases known : date item with
      | none =>
          rw [List.filterMap_cons_none (by rw [known]; rfl), ih,
            List.filter_cons_of_neg (by simp [known])]
      | some time =>
          rw [List.filterMap_cons_some (b := (item, time)) (by rw [known]; rfl), List.map_cons, ih,
            List.filter_cons_of_pos (by simp [known])]

theorem groupItemsByDate_of_dated (dated : parsedItems date items ≠ [])
    : groupItemsByDate date gap items
      = DateGroup.split gap
          ((parsedItems date items).insertionSort (fun left right => left.2 ≥ right.2)) :=
  if_neg dated

theorem groupItemsByDate_of_undated (undated : parsedItems date items = [])
    : groupItemsByDate date gap items
      = items.map (fun item => ⟨(item, datetimeMin), []⟩) :=
  if_pos undated

theorem members_of_dated (dated : parsedItems date items ≠ [])
    : ((groupItemsByDate date gap items).flatMap (fun group =>
        group.members.map Prod.fst)).Perm
        (items.filter (date · |>.isSome)) := by
  rw [groupItemsByDate_of_dated dated, ← List.map_flatMap, List.flatMap_def,
    DateGroup.flatten_split, ← map_parsedItems]
  exact (List.perm_insertionSort _ _).map Prod.fst

theorem members_of_undated (undated : parsedItems date items = [])
    : (groupItemsByDate date gap items).flatMap (fun group => group.members.map Prod.fst)
      = items := by
  rw [groupItemsByDate_of_undated undated, List.flatMap_map]
  exact List.flatMap_singleton' items

theorem groupsByDate_of_dated (dated : parsedItems date items ≠ [])
    (all : ∀ item ∈ items, date item ≠ none)
    : GroupsByDate date gap items (groupItemsByDate date gap items) := by
  have sorted
      : ((parsedItems date items).insertionSort (fun left right => left.2 ≥ right.2)).Pairwise
          (fun left right => left.2 ≥ right.2) := by
    have : Std.Total (fun left right : α × Timestamp => left.2 ≥ right.2) :=
      ⟨fun left right => Int.le_total right.2 left.2⟩
    have : IsTrans (α × Timestamp) (fun left right => left.2 ≥ right.2) :=
      ⟨fun _ _ _ first second => Int.le_trans second first⟩
    exact List.pairwise_insertionSort _ _
  have known {group : DateGroup α} (member : group ∈ groupItemsByDate date gap items)
      {item : α × Timestamp} (inside : item ∈ group.members)
      : date item.1 = some item.2 := by
    rw [groupItemsByDate_of_dated dated] at member
    have listed : item ∈ ((DateGroup.split gap _).map DateGroup.members).flatten :=
      List.mem_flatten.mpr ⟨_, List.mem_map_of_mem member, inside⟩
    rw [DateGroup.flatten_split, List.mem_insertionSort] at listed
    exact (mem_parsedItems.mp listed).2
  refine ⟨?_, ?_, ?_⟩
  · have kept : items.filter (date · |>.isSome) = items :=
      List.filter_eq_self.mpr (fun item member => Option.isSome_iff_ne_none.mpr (all item member))
    exact (members_of_dated dated).trans (.of_eq kept)
  · intro group member
    have near : group.members.IsChain (fun newer older => within gap newer older = true) := by
      rw [groupItemsByDate_of_dated dated] at member
      exact DateGroup.isChain_split member
    refine near.imp_of_mem_imp ?_
    intro newer older inNewer inOlder close
    exact ⟨known member inNewer, known member inOlder, of_decide_eq_true close⟩
  · have far := DateGroup.pairwise_split gap sorted
    rw [List.pairwise_map, ← groupItemsByDate_of_dated dated] at far
    refine far.imp_of_mem ?_
    intro g h inG inH distant newer inNewer older inOlder later earlier isLater isEarlier
    obtain rfl := Option.some.inj ((known inG inNewer).symm.trans isLater)
    obtain rfl := Option.some.inj ((known inH inOlder).symm.trans isEarlier)
    exact distant newer inNewer older inOlder

theorem groupsByDate_of_undated (undated : parsedItems date items = [])
    : GroupsByDate date gap items (groupItemsByDate date gap items) := by
  refine ⟨.of_eq (members_of_undated undated), ?_, ?_⟩
  · intro group member
    rw [groupItemsByDate_of_undated undated] at member
    obtain ⟨item, -, rfl⟩ := List.mem_map.mp member
    exact List.isChain_singleton _
  · rw [groupItemsByDate_of_undated undated, List.pairwise_map]
    refine List.pairwise_of_forall_mem_list ?_
    intro item inItems other _ newer inNewer older _ later earlier isLater _
    obtain rfl := List.mem_singleton.mp inNewer
    have none_ : date item = none := parsedItems_eq_nil_iff.mp undated item inItems
    rw [show date item = some later from isLater] at none_
    cases none_

theorem all_dated_of_complete (dated : parsedItems date items ≠ [])
    (complete
      : ((groupItemsByDate date gap items).flatMap (fun group =>
          group.members.map Prod.fst)).Perm
          items)
    : ∀ item ∈ items, date item ≠ none := by
  have same := ((members_of_dated dated).symm.trans complete).length_eq
  intro item member
  exact Option.isSome_iff_ne_none.mp (List.length_filter_eq_length_iff.mp same item member)

/-- The groups keep their promise if and only if every item has a date or none has. -/
theorem groupsByDate_iff
    : GroupsByDate date gap items (groupItemsByDate date gap items)
      ↔ (∀ item ∈ items, date item ≠ none) ∨ ∀ item ∈ items, date item = none := by
  by_cases undated : parsedItems date items = []
  · exact iff_of_true (groupsByDate_of_undated undated)
      (.inr (parsedItems_eq_nil_iff.mp undated))
  · constructor
    · exact fun grouped => .inl (all_dated_of_complete undated grouped.complete)
    · rintro (all | none_)
      · exact groupsByDate_of_dated undated all
      · exact absurd (parsedItems_eq_nil_iff.mpr none_) undated

end Grouping

section Examined

variable (context : SeriesContext) (observation : SeriesObservation)

def entryDate (entry : EpisodeEntry) : Option Timestamp :=
  entry.versionGroupDt.bind context.rules.parseDateValue

/-- The entries that the loops over the groups and their members come to, in their order. -/
def examinedEntries : List EpisodeEntry :=
  (episodeGroups context observation).flatMap (fun group => group.members.map Prod.fst)

variable {context observation}

theorem examinedEntries_perm
    : (examinedEntries context observation).Perm
        ((groupItemsByDate (entryDate context) (observation.gapMinutes * (60 * second))
          observation.episodeEntries).flatMap (fun group => group.members.map Prod.fst)) :=
  (List.perm_insertionSort _ _).flatMap_right _

/-- The entries of a refresh are grouped by date as promised and each of them is examined once,
if and only if every entry has a date or none has.
-/
theorem episodes_examined_iff (context : SeriesContext) (observation : SeriesObservation)
    : (GroupsByDate (entryDate context) (observation.gapMinutes * (60 * second))
            observation.episodeEntries
            (groupItemsByDate (entryDate context) (observation.gapMinutes * (60 * second))
              observation.episodeEntries)
          ∧ (examinedEntries context observation).Perm observation.episodeEntries)
      ↔ (∀ entry ∈ observation.episodeEntries, entryDate context entry ≠ none)
        ∨ ∀ entry ∈ observation.episodeEntries, entryDate context entry = none := by
  constructor
  · exact fun examined => groupsByDate_iff.mp examined.1
  · intro dates
    exact ⟨groupsByDate_iff.mpr dates,
      examinedEntries_perm.trans (groupsByDate_iff.mpr dates).complete⟩

open SeriesWorld

/-- Two episodes, of which the second has no date. -/
def undatedArrival : SeriesObservation :=
  (arrivals [pilot, { sequel with versionGroupDt := none }]).observation

/-- The episode without a date is in no group and is never examined. -/
theorem undatedArrival_is_lost
    : (examinedEntries arrivalSeries undatedArrival).map (·.id) = ["pilot"]
      ∧ ¬(GroupsByDate (entryDate arrivalSeries) (undatedArrival.gapMinutes * (60 * second))
              undatedArrival.episodeEntries
              (groupItemsByDate (entryDate arrivalSeries)
                (undatedArrival.gapMinutes * (60 * second)) undatedArrival.episodeEntries)
            ∧ (examinedEntries arrivalSeries undatedArrival).Perm
                undatedArrival.episodeEntries) := by
  have examined : (examinedEntries arrivalSeries undatedArrival).map (·.id) = ["pilot"] := by
    decide
  refine ⟨examined, ?_⟩
  rintro ⟨-, same⟩
  have ids := (same.map (·.id)).length_eq
  rw [examined] at ids
  revert ids
  decide

end Examined

end OctoHubs.Latest
