import Mathlib.Data.List.Dedup
import Mathlib.Data.List.Sort
import OctoHubs.Library.Decimals
import OctoHubs.Library.Labelled
import OctoHubs.Library.SortedGroups

/-! The compact list of episodes in a message. The printed ranges can be read back: they hold
the episodes of the codes and no others, and nothing is printed twice.
-/

namespace OctoHubs.Latest

open OctoHubs.Library

/-- Consecutive episodes of a season. -/
structure EpisodeRange where
  season : Nat
  first : Nat
  last : Nat
  deriving DecidableEq, Repr

namespace EpisodeRange

/-- How a range is written. -/
def shown (range : EpisodeRange) : List Char :=
  let start := 'S' :: twoDigits range.season ++ ' ' :: 'E' :: twoDigits range.first
  if range.first = range.last then start else start ++ '-' :: twoDigits range.last

def Holds (range : EpisodeRange) (season episode : Nat) : Prop :=
  range.season = season ∧ range.first ≤ episode ∧ episode ≤ range.last

/-- A later season, or the same season after at least one episode that is missing. -/
def Follows (left right : EpisodeRange) : Prop :=
  left.season < right.season ∨ left.season = right.season ∧ left.last + 1 < right.first

end EpisodeRange

variable (digits : DecimalDigits)

/-- The season and the episode that a code begins with. -/
def parseEpisodeCode (code : String) : Option (Nat × Nat) :=
  match code.toList with
  | 'S' :: text =>
      match digits.takeNumber text with
      | some (season, 'E' :: text) =>
          (digits.takeNumber text).map (fun (episode, _) => (season, episode))
      | _ => none
  | _ => none

/-- Episodes sort by season first. -/
def episodeLE (left right : Nat × Nat) : Prop :=
  left.1 < right.1 ∨ left.1 = right.1 ∧ left.2 ≤ right.2

instance : DecidableRel episodeLE := fun left right =>
  inferInstanceAs (Decidable (left.1 < right.1 ∨ left.1 = right.1 ∧ left.2 ≤ right.2))

def seasonRanges (group : List (Nat × Nat)) : List EpisodeRange :=
  match group, ((group.map Prod.snd).dedup.insertionSort (· ≤ ·)) with
  | (season, _) :: _, start :: rest =>
      (stretches start start rest).map (fun (first, last) => ⟨season, first, last⟩)
  | _, _ => []

def episodeRanges (parsed : List (Nat × Nat)) : List EpisodeRange :=
  ((parsed.insertionSort episodeLE).splitBy (fun left right => left.1 == right.1)).flatMap
    seasonRanges

def formatEpisodeRanges (codes : List String) : String :=
  match codes.mapM (parseEpisodeCode digits) with
  | none => ", ".intercalate codes
  | some parsed =>
      " | ".intercalate ((episodeRanges parsed).map (fun range => String.ofList range.shown))

/-- Reads one printed range, and gives back the text after it. -/
def readRange (text : List Char) : Option (EpisodeRange × List Char) :=
  match text with
  | 'S' :: text =>
      match digits.takeNumber text with
      | some (season, ' ' :: 'E' :: text) =>
          match digits.takeNumber text with
          | some (first, '-' :: text) =>
              (digits.takeNumber text).map (fun (last, text) => (⟨season, first, last⟩, text))
          | some (first, text) => some (⟨season, first, first⟩, text)
          | none => none
      | _ => none
  | _ => none

/-- Reads at most so many printed ranges, to the end of the text. -/
def readRanges : Nat → List Char → Option (List EpisodeRange)
  | _, [] => some []
  | 0, _ => none
  | count + 1, text =>
      match readRange digits text with
      | some (range, []) => some [range]
      | some (range, ' ' :: '|' :: ' ' :: text) =>
          (readRanges count text).map (range :: ·)
      | _ => none

def rangesOf (text : String) : Option (List EpisodeRange) :=
  readRanges digits text.toList.length text.toList

section Reading

variable {digits}

theorem blank_or_dash {c : Char} (plain : c = ' ' ∨ c = '-') : digits.value c = none := by
  refine digits.plain c ?_ ?_ <;> obtain rfl | rfl := plain <;> decide

theorem readRange_shown (range : EpisodeRange) {rest : List Char}
    (ends : ∀ c, rest.head? = some c → c = ' ')
    : readRange digits (range.shown ++ rest) = some (range, rest) := by
  obtain ⟨season, first, last⟩ := range
  have stop : ∀ c, rest.head? = some c → digits.value c = none :=
    fun c front => blank_or_dash (.inl (ends c front))
  have readSeason {text : List Char}
      : digits.takeNumber (twoDigits season ++ ' ' :: 'E' :: text)
        = some (season, ' ' :: 'E' :: text) := by
    refine DecimalDigits.takeNumber_twoDigits _ ?_
    intro c front
    exact blank_or_dash (.inl (Option.some.inj front).symm)
  by_cases single : first = last
  · obtain rfl := single
    have shape
        : EpisodeRange.shown ⟨season, first, first⟩ ++ rest
          = 'S' :: (twoDigits season ++ ' ' :: 'E' :: (twoDigits first ++ rest)) := by
      simp [EpisodeRange.shown]
    rw [shape, readRange]
    simp only [readSeason, DecimalDigits.takeNumber_twoDigits _ stop]
    cases rest with
    | nil => rfl
    | cons c rest =>
        obtain rfl := ends c rfl
        rfl
  · have shape
        : EpisodeRange.shown ⟨season, first, last⟩ ++ rest
          = 'S' :: (twoDigits season ++ ' ' :: 'E' ::
              (twoDigits first ++ '-' :: (twoDigits last ++ rest))) := by
      simp [EpisodeRange.shown, single]
    have readFirst
        : digits.takeNumber (twoDigits first ++ '-' :: (twoDigits last ++ rest))
          = some (first, '-' :: (twoDigits last ++ rest)) := by
      refine DecimalDigits.takeNumber_twoDigits _ ?_
      intro c front
      exact blank_or_dash (.inr (Option.some.inj front).symm)
    rw [shape, readRange]
    simp only [readSeason, readFirst, DecimalDigits.takeNumber_twoDigits _ stop,
      Option.map_some]

theorem shown_ne_nil (range : EpisodeRange) : range.shown ≠ [] := by
  unfold EpisodeRange.shown
  split <;> exact List.cons_ne_nil _ _

theorem readRanges_of_readRange {count : Nat} {text : List Char} {range : EpisodeRange}
    (filled : text ≠ []) (read : readRange digits text = some (range, []))
    : readRanges digits (count + 1) text = some [range] := by
  rw [readRanges, read]
  exact filled

theorem readRanges_of_separator {count : Nat} {text rest : List Char} {range : EpisodeRange}
    (filled : text ≠ [])
    (read : readRange digits text = some (range, ' ' :: '|' :: ' ' :: rest))
    : readRanges digits (count + 1) text = (readRanges digits count rest).map (range :: ·) := by
  rw [readRanges, read]
  · rfl
  · exact filled

/-- The printed ranges are read back, by induction on them. -/
theorem readRanges_intercalate (ranges : List EpisodeRange) {count : Nat}
    (enough : ranges.length ≤ count)
    : readRanges digits count
        (" | ".intercalate (ranges.map (fun range => String.ofList range.shown))).toList
      = some ranges := by
  induction ranges generalizing count with
  | nil => cases count <;> rfl
  | cons range rest ih =>
      obtain ⟨count, rfl⟩ : ∃ fewer, count = fewer + 1 :=
        ⟨count - 1, by rw [List.length_cons] at enough; omega⟩
      cases rest with
      | nil =>
          have read : readRange digits range.shown = some (range, []) := by
            have whole : readRange digits (range.shown ++ []) = some (range, []) := by
              refine readRange_shown range ?_
              intro c front
              cases front
            rwa [List.append_nil] at whole
          rw [List.map_singleton, String.intercalate_singleton, String.toList_ofList]
          exact readRanges_of_readRange (shown_ne_nil range) read
      | cons next rest =>
          have more := @ih count (by simpa using enough)
          rw [List.map_cons, String.intercalate_cons_of_ne_nil (by simp), String.toList_append,
            String.toList_append, String.toList_ofList, List.append_assoc]
          generalize (" | ".intercalate _).toList = text at more ⊢
          have read
              : readRange digits (range.shown ++ (" | ".toList ++ text))
                = some (range, ' ' :: '|' :: ' ' :: text) := by
            refine readRange_shown range ?_
            intro c front
            exact (Option.some.inj front).symm
          rw [readRanges_of_separator (List.append_ne_nil_of_left_ne_nil (shown_ne_nil range) _)
            read, more]
          rfl

theorem length_le_intercalate (ranges : List EpisodeRange)
    : ranges.length
      ≤ (" | ".intercalate (ranges.map (fun range => String.ofList range.shown))).toList.length := by
  induction ranges with
  | nil => exact Nat.zero_le _
  | cons range rest ih =>
      have filled : 0 < range.shown.length := List.length_pos_of_ne_nil (shown_ne_nil range)
      cases rest with
      | nil =>
          rw [List.map_singleton, String.intercalate_singleton, String.toList_ofList]
          exact filled
      | cons next rest =>
          rw [List.map_cons, String.intercalate_cons_of_ne_nil (by simp), String.toList_append,
            String.toList_append, String.toList_ofList, List.length_append, List.length_append,
            List.length_cons]
          omega

end Reading

section Seasons

theorem sorted_episodes (group : List (Nat × Nat))
    : ((group.map Prod.snd).dedup.insertionSort (· ≤ ·)).Pairwise (· < ·) := by
  have rising := List.pairwise_insertionSort (· ≤ ·) (group.map Prod.snd).dedup
  have distinct : ((group.map Prod.snd).dedup.insertionSort (· ≤ ·)).Nodup :=
    (List.perm_insertionSort _ _).nodup_iff.mpr (List.nodup_dedup _)
  exact rising.imp₂ (fun _ _ le ne => Nat.lt_of_le_of_ne le ne) distinct

theorem seasonRanges_cons (pair : Nat × Nat) (group : List (Nat × Nat))
    : ∃ start rest,
        ((pair :: group).map Prod.snd).dedup.insertionSort (· ≤ ·) = start :: rest
        ∧ seasonRanges (pair :: group)
          = (stretches start start rest).map (fun (first, last) => ⟨pair.1, first, last⟩) := by
  have member : pair.2 ∈ ((pair :: group).map Prod.snd).dedup.insertionSort (· ≤ ·) := by
    simp
  cases shape : ((pair :: group).map Prod.snd).dedup.insertionSort (· ≤ ·) with
  | nil =>
      rw [shape] at member
      cases member
  | cons start rest =>
      refine ⟨start, rest, rfl, ?_⟩
      unfold seasonRanges
      rw [shape]

variable {group : List (Nat × Nat)} {season episode : Nat}

theorem seasonRanges_valid (same : ∀ pair ∈ group, pair.1 = season) {range : EpisodeRange}
    (member : range ∈ seasonRanges group)
    : range.season = season ∧ range.first ≤ range.last := by
  cases group with
  | nil => cases member
  | cons pair group =>
      obtain ⟨start, rest, shape, ranges⟩ := seasonRanges_cons pair group
      have rising := sorted_episodes (pair :: group)
      rw [shape] at rising
      rw [ranges] at member
      obtain ⟨stretch, inStretches, rfl⟩ := List.mem_map.mp member
      exact ⟨same pair List.mem_cons_self,
        (mem_stretches (Nat.le_refl start) rising inStretches).2⟩

theorem seasonRanges_holds (same : ∀ pair ∈ group, pair.1 = season)
    : (∃ range ∈ seasonRanges group, range.first ≤ episode ∧ episode ≤ range.last)
      ↔ (season, episode) ∈ group := by
  cases group with
  | nil => simp [seasonRanges]
  | cons pair group =>
      obtain ⟨start, rest, shape, ranges⟩ := seasonRanges_cons pair group
      have rising := sorted_episodes (pair :: group)
      rw [shape] at rising
      have listed : episode ∈ start :: rest ↔ (season, episode) ∈ pair :: group := by
        rw [← shape, List.mem_insertionSort, List.mem_dedup, List.mem_map]
        constructor
        · rintro ⟨⟨other, number⟩, member, rfl⟩
          exact same _ member ▸ member
        · exact fun member => ⟨_, member, rfl⟩
      have held
          : (∃ range ∈ seasonRanges (pair :: group), range.first ≤ episode ∧ episode ≤ range.last)
            ↔ ∃ stretch ∈ stretches start start rest,
                stretch.1 ≤ episode ∧ episode ≤ stretch.2 := by
        rw [ranges]
        constructor
        · rintro ⟨range, member, inside⟩
          obtain ⟨stretch, inStretches, rfl⟩ := List.mem_map.mp member
          exact ⟨stretch, inStretches, inside⟩
        · rintro ⟨stretch, inStretches, inside⟩
          exact ⟨_, List.mem_map_of_mem inStretches, inside⟩
      have alone : start ≤ episode ∧ episode ≤ start ↔ episode = start := by omega
      rw [held, exists_mem_stretches_iff (Nat.le_refl start) rising, alone, ← listed,
        List.mem_cons]

theorem seasonRanges_follow (same : ∀ pair ∈ group, pair.1 = season)
    : (seasonRanges group).Pairwise EpisodeRange.Follows := by
  cases group with
  | nil => exact .nil
  | cons pair group =>
      obtain ⟨start, rest, shape, ranges⟩ := seasonRanges_cons pair group
      have rising := sorted_episodes (pair :: group)
      rw [shape] at rising
      rw [ranges, List.pairwise_map]
      exact (pairwise_stretches (Nat.le_refl start) rising).imp (fun apart => .inr ⟨rfl, apart⟩)

end Seasons

section Ranges

variable {parsed : List (Nat × Nat)}

theorem episodeLE_total (left right : Nat × Nat) : episodeLE left right ∨ episodeLE right left := by
  unfold episodeLE
  omega

theorem episodeLE_trans {a b c : Nat × Nat} (first : episodeLE a b) (second : episodeLE b c)
    : episodeLE a c := by
  unfold episodeLE at *
  omega

theorem seasons_rise (parsed : List (Nat × Nat))
    : ((parsed.insertionSort episodeLE).splitBy (fun left right => left.1 == right.1)).Pairwise
        (fun g h => ∀ a ∈ g, ∀ b ∈ h, a.1 < b.1) := by
  have : Std.Total episodeLE := ⟨episodeLE_total⟩
  have : IsTrans (Nat × Nat) episodeLE := ⟨fun _ _ _ => episodeLE_trans⟩
  have sorted := List.pairwise_insertionSort episodeLE parsed
  refine pairwise_apart_splitBy ?_ ?_ ?_ sorted
  · intro a b before differs
    have seasons : a.1 ≠ b.1 := by simpa using differs
    unfold episodeLE at before
    omega
  · intro a b c before apart
    unfold episodeLE at before
    omega
  · intro a b c apart before
    unfold episodeLE at before
    omega

theorem season_of_group {group : List (Nat × Nat)}
    (member
      : group
        ∈ (parsed.insertionSort episodeLE).splitBy (fun left right => left.1 == right.1))
    : ∃ season, ∀ pair ∈ group, pair.1 = season := by
  cases group with
  | nil => exact ⟨0, fun pair inGroup => absurd inGroup List.not_mem_nil⟩
  | cons first rest =>
      exact ⟨first.1, fun pair inGroup => same_of_mem_splitBy member inGroup List.mem_cons_self⟩

theorem episodeRanges_valid {range : EpisodeRange} (member : range ∈ episodeRanges parsed)
    : range.first ≤ range.last := by
  obtain ⟨group, inGroups, inRanges⟩ := List.mem_flatMap.mp member
  obtain ⟨season, same⟩ := season_of_group inGroups
  exact (seasonRanges_valid same inRanges).2

theorem episodeRanges_holds (season episode : Nat)
    : (∃ range ∈ episodeRanges parsed, range.Holds season episode)
      ↔ (season, episode) ∈ parsed := by
  have grouped
      : (season, episode) ∈ parsed
        ↔ ∃ group
            ∈ (parsed.insertionSort episodeLE).splitBy (fun left right => left.1 == right.1),
            (season, episode) ∈ group := by
    rw [← mem_splitBy_iff, List.mem_insertionSort]
  rw [grouped]
  constructor
  · rintro ⟨range, member, rfl, inside⟩
    obtain ⟨group, inGroups, inRanges⟩ := List.mem_flatMap.mp member
    obtain ⟨season, same⟩ := season_of_group inGroups
    obtain rfl := (seasonRanges_valid same inRanges).1
    exact ⟨group, inGroups, (seasonRanges_holds same).mp ⟨range, inRanges, inside⟩⟩
  · rintro ⟨group, inGroups, inGroup⟩
    obtain ⟨other, same⟩ := season_of_group inGroups
    obtain rfl := same _ inGroup
    obtain ⟨range, inRanges, inside⟩ := (seasonRanges_holds same).mpr inGroup
    exact ⟨range, List.mem_flatMap.mpr ⟨group, inGroups, inRanges⟩,
      (seasonRanges_valid same inRanges).1, inside⟩

theorem episodeRanges_follow (parsed : List (Nat × Nat))
    : (episodeRanges parsed).Pairwise EpisodeRange.Follows := by
  unfold episodeRanges
  rw [List.pairwise_flatMap]
  constructor
  · intro group inGroups
    obtain ⟨season, same⟩ := season_of_group inGroups
    exact seasonRanges_follow same
  · refine (seasons_rise parsed).imp_of_mem ?_
    intro left right inLeft inRight rise a inLeftRanges b inRightRanges
    obtain ⟨leftSeason, leftSame⟩ := season_of_group inLeft
    obtain ⟨rightSeason, rightSame⟩ := season_of_group inRight
    obtain ⟨rfl, leftValid⟩ := seasonRanges_valid leftSame inLeftRanges
    obtain ⟨rfl, rightValid⟩ := seasonRanges_valid rightSame inRightRanges
    have inLeftGroup :=
      (seasonRanges_holds leftSame).mp ⟨a, inLeftRanges, Nat.le_refl _, leftValid⟩
    have inRightGroup :=
      (seasonRanges_holds rightSame).mp ⟨b, inRightRanges, Nat.le_refl _, rightValid⟩
    exact .inl (rise _ inLeftGroup _ inRightGroup)

end Ranges

/-- The text of well-formed codes can be read back as ranges. They hold the episodes of the codes
and no others, each range has a first episode up to its last, and every range is followed by a
later season or, in the same season, by one that does not adjoin it.
-/
theorem formatEpisodeRanges_faithful (digits : DecimalDigits) (codes : List String)
    (wellFormed : ∀ code ∈ codes, (parseEpisodeCode digits code).isSome = true)
    : ∃ ranges,
        rangesOf digits (formatEpisodeRanges digits codes) = some ranges
        ∧ (∀ season episode,
            (∃ range ∈ ranges, range.Holds season episode)
            ↔ ∃ code ∈ codes, parseEpisodeCode digits code = some (season, episode))
        ∧ (∀ range ∈ ranges, range.first ≤ range.last)
        ∧ ranges.Pairwise EpisodeRange.Follows := by
  obtain ⟨parsed, answered, listed⟩ := mapM_values wellFormed
  have printed
      : formatEpisodeRanges digits codes
        = " | ".intercalate
            ((episodeRanges parsed).map (fun range => String.ofList range.shown)) := by
    unfold formatEpisodeRanges
    rw [answered]
  refine ⟨episodeRanges parsed, ?_, ?_, fun _ => episodeRanges_valid,
    episodeRanges_follow parsed⟩
  · rw [printed]
    exact readRanges_intercalate _ (length_le_intercalate _)
  · intro season episode
    rw [episodeRanges_holds, listed]

/-- Doubled codes, a gap and two seasons. -/
theorem formatEpisodeRanges_faithful_example
    : ∃ ranges,
        rangesOf .ascii
            (formatEpisodeRanges .ascii ["S02E01", "S01E02", "S01E01", "S01E02", "S01E05"])
          = some ranges
        ∧ (∀ season episode,
            (∃ range ∈ ranges, range.Holds season episode)
            ↔ ∃ code ∈ ["S02E01", "S01E02", "S01E01", "S01E02", "S01E05"],
                parseEpisodeCode .ascii code = some (season, episode))
        ∧ (∀ range ∈ ranges, range.first ≤ range.last)
        ∧ ranges.Pairwise EpisodeRange.Follows :=
  formatEpisodeRanges_faithful .ascii _ (by decide)

/-- A season with a gap is named in each of its ranges. -/
theorem formatEpisodeRanges_names_twice
    : formatEpisodeRanges .ascii ["S01E01", "S01E03"] = "S01 E01 | S01 E03"
      ∧ ∃ ranges,
          rangesOf .ascii (formatEpisodeRanges .ascii ["S01E01", "S01E03"]) = some ranges
          ∧ ¬(ranges.map EpisodeRange.season).Nodup := by
  refine ⟨by decide, [⟨1, 1, 1⟩, ⟨1, 3, 3⟩], by decide, by decide⟩

end OctoHubs.Latest
