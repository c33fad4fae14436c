import OctoHubs.Library.Coercions
import OctoHubs.Library.Decimals

/-! When a seasonal collection is active. Each bound is placed in a year: the start in the last one
that it came in, the end in the last one before this start. So the end never comes after the
start, and the season never ends.
-/

namespace OctoHubs.Collections

open OctoHubs.Library

def isLeapYear (year : Int) : Bool := year % 4 = 0 && (year % 100 ≠ 0 || year % 400 = 0)

def daysInMonth (year month : Int) : Int :=
  if month = 2 then if isLeapYear year then 29 else 28
  else if month = 4 ∨ month = 6 ∨ month = 9 ∨ month = 11 then 30
  else 31

/-- A day of the year, which may be missing in some years. -/
structure MonthDay where
  month : Int
  day : Int
deriving DecidableEq

namespace MonthDay

def Le (left right : MonthDay) : Prop :=
  left.month < right.month ∨ left.month = right.month ∧ left.day ≤ right.day

instance (left right : MonthDay) : Decidable (left.Le right) := by
  unfold Le
  infer_instance

/-- The day exists in the year. -/
def In (monthDay : MonthDay) (year : Int) : Prop :=
  1 ≤ year ∧ year ≤ 9999
  ∧ 1 ≤ monthDay.month ∧ monthDay.month ≤ 12
  ∧ 1 ≤ monthDay.day ∧ monthDay.day ≤ daysInMonth year monthDay.month

instance (monthDay : MonthDay) (year : Int) : Decidable (monthDay.In year) := by
  unfold In
  infer_instance

end MonthDay

structure CalendarDate where
  year : Int
  monthDay : MonthDay
  exists_ : monthDay.In year
deriving DecidableEq

def CalendarDate.Le (left right : CalendarDate) : Prop :=
  left.year < right.year ∨ left.year = right.year ∧ left.monthDay.Le right.monthDay

instance (left right : CalendarDate) : Decidable (left.Le right) := by
  unfold CalendarDate.Le
  infer_instance

def date? (year : Int) (monthDay : MonthDay) : Option CalendarDate :=
  if exists_ : monthDay.In year then some ⟨year, monthDay, exists_⟩ else none

/-- How numbers and dates with a year are read. -/
structure SeasonTexts where
  readInt? : String → Option Int
  readDate? : String → Option CalendarDate

def getAppropriateYear (monthDay : MonthDay) (reference : CalendarDate) : Option Int :=
  (date? reference.year monthDay).map (fun testDate =>
    if testDate.Le reference then reference.year else reference.year - 1)

section Parsing

variable (texts : SeasonTexts)

def readMonthDay? (trimmed : String) : Option MonthDay :=
  match splitAt '-' trimmed with
  | [month, day] =>
      (texts.readInt? month).bind (fun month =>
        (texts.readInt? day).map (fun day => ⟨month, day⟩))
  | _ => none

def parseSeasonValue (value : String) (reference : CalendarDate) : Option CalendarDate :=
  let trimmed := strip value
  if trimmed = "" then none
  else if trimmed.length = 10 then texts.readDate? trimmed
  else if trimmed.length = 5 then
    (readMonthDay? texts trimmed).bind (fun monthDay =>
      (getAppropriateYear monthDay reference).bind (fun year => date? year monthDay))
  else none

def isCollectionActive (seasonStart seasonEnd : String) (today : CalendarDate) : Bool :=
  let start := strip seasonStart
  let end_ := strip seasonEnd
  if start = "" ∨ end_ = "" then true
  else
    match parseSeasonValue texts start today with
    | none => true
    | some startDate =>
        match parseSeasonValue texts end_ startDate with
        | none => true
        | some endDate =>
            if startDate.Le endDate then startDate.Le today && today.Le endDate
            else startDate.Le today || today.Le endDate

structure Spells (text : String) (monthDay : MonthDay) : Prop where
  length : (strip text).length = 5
  read : readMonthDay? texts (strip text) = some monthDay

end Parsing

/-- The day lies between the bounds, over New Year if the start comes later in the year. -/
def InSeason (start end_ day : MonthDay) : Prop :=
  if start.Le end_ then start.Le day ∧ day.Le end_ else start.Le day ∨ day.Le end_

instance (start end_ day : MonthDay) : Decidable (InSeason start end_ day) := by
  unfold InSeason
  infer_instance

/-- The day exists this year, and in the year that it last came in. -/
def LastCame (monthDay : MonthDay) (today : CalendarDate) : Prop :=
  monthDay.In today.year
  ∧ (monthDay.Le today.monthDay ∨ monthDay.In (today.year - 1))

variable {texts : SeasonTexts} {text : String} {monthDay : MonthDay}
  {reference date today : CalendarDate}

theorem date?_eq_some_iff {year : Int}
    : date? year monthDay = some date ↔ date.year = year ∧ date.monthDay = monthDay := by
  unfold date?
  constructor
  · intro made
    split at made
    · cases made
      exact ⟨rfl, rfl⟩
    · cases made
  · rintro ⟨rfl, rfl⟩
    rw [dif_pos date.exists_]

theorem Spells.named (spells : Spells texts text monthDay) : strip text ≠ "" := by
  intro bare
  have length := spells.length
  rw [bare] at length
  cases length

theorem parseSeasonValue_of_spells (spells : Spells texts text monthDay)
    (reference : CalendarDate)
    : parseSeasonValue texts (strip text) reference
      = (getAppropriateYear monthDay reference).bind (fun year => date? year monthDay) := by
  have length := spells.length
  unfold parseSeasonValue
  dsimp only
  rw [strip_strip, if_neg spells.named, if_neg (by omega), if_pos length, spells.read,
    Option.bind_some]

theorem parseSeasonValue_eq_some_iff (spells : Spells texts text monthDay)
    : parseSeasonValue texts (strip text) reference = some date
      ↔ monthDay.In reference.year ∧ date.monthDay = monthDay
        ∧ date.year
          = if monthDay.Le reference.monthDay then reference.year else reference.year - 1 := by
  rw [parseSeasonValue_of_spells spells]
  unfold getAppropriateYear
  by_cases here : monthDay.In reference.year
  · have made : date? reference.year monthDay = some ⟨reference.year, monthDay, here⟩ :=
      dif_pos here
    have before
        : CalendarDate.Le ⟨reference.year, monthDay, here⟩ reference
          ↔ monthDay.Le reference.monthDay := by
      unfold CalendarDate.Le
      simp
    rw [made, Option.map_some, Option.bind_some, date?_eq_some_iff, if_congr before rfl rfl,
      and_iff_right here]
    exact and_comm
  · have missing : date? reference.year monthDay = none := dif_neg here
    rw [missing]
    constructor
    · intro impossible
      cases impossible
    · intro placed
      exact absurd placed.1 here

/-- A bound is placed at all if it came in the year of the reference and in the last year that
it is looked for.
-/
theorem isSome_parseSeasonValue_iff (spells : Spells texts text monthDay)
    : (parseSeasonValue texts (strip text) reference).isSome = true
      ↔ LastCame monthDay reference := by
  rw [Option.isSome_iff_exists]
  simp only [parseSeasonValue_eq_some_iff spells]
  unfold LastCame
  constructor
  · rintro ⟨date, here, rfl, year⟩
    refine ⟨here, ?_⟩
    split at year
    · next before => exact .inl before
    · exact .inr (year ▸ date.exists_)
  · rintro ⟨here, placed⟩
    by_cases before : monthDay.Le reference.monthDay
    · exact ⟨⟨reference.year, monthDay, here⟩, here, rfl, (if_pos before).symm⟩
    · exact
        ⟨⟨reference.year - 1, monthDay, placed.resolve_left before⟩, here, rfl,
          (if_neg before).symm⟩

namespace MonthDay

theorem le_refl (day : MonthDay) : day.Le day := .inr ⟨rfl, Int.le_refl day.day⟩

theorem eq_of_le_of_le {left right : MonthDay} (before : left.Le right) (after : right.Le left)
    : left = right := by
  unfold Le at before after
  have month : left.month = right.month := by omega
  have day : left.day = right.day := by omega
  cases left
  cases right
  cases month
  cases day
  rfl

end MonthDay

theorem CalendarDate.eq_of_le_of_le {left right : CalendarDate} (before : left.Le right)
    (after : right.Le left)
    : left = right := by
  unfold CalendarDate.Le at before after
  have year : left.year = right.year := by omega
  have monthDay : left.monthDay = right.monthDay := by
    refine MonthDay.eq_of_le_of_le ?_ ?_
    · rcases before with earlier | same
      · omega
      · exact same.2
    · rcases after with earlier | same
      · omega
      · exact same.2
  cases left
  cases right
  cases year
  cases monthDay
  rfl

theorem le_of_placed (spells : Spells texts text monthDay)
    (placed : parseSeasonValue texts (strip text) reference = some date)
    : date.Le reference := by
  rcases (parseSeasonValue_eq_some_iff spells).mp placed with ⟨-, rfl, year⟩
  unfold CalendarDate.Le
  split at year
  · next before => exact .inr ⟨year, before⟩
  · exact .inl (by omega)

variable {startText endText : String} {start end_ : MonthDay}

theorem isCollectionActive_eq_false_iff (startSpells : Spells texts startText start)
    (endSpells : Spells texts endText end_)
    : isCollectionActive texts startText endText today = false
      ↔ start = end_ ∧ start ≠ today.monthDay ∧ LastCame start today := by
  unfold isCollectionActive
  dsimp only
  rw [if_neg (not_or.mpr ⟨startSpells.named, endSpells.named⟩)]
  have came := @isSome_parseSeasonValue_iff texts startText start today startSpells
  cases placed : parseSeasonValue texts (strip startText) today with
  | none =>
      rw [placed] at came
      dsimp only
      refine iff_of_false (fun impossible => by cases impossible) ?_
      rintro ⟨-, -, last⟩
      exact absurd (came.mpr last) Bool.noConfusion
  | some startDate =>
      rw [placed] at came
      have last : LastCame start today := came.mp rfl
      have before := le_of_placed startSpells placed
      rcases (parseSeasonValue_eq_some_iff startSpells).mp placed with ⟨-, startDay, startYear⟩
      have again : start.Le startDate.monthDay := by
        rw [startDay]
        exact start.le_refl
      have ends := @isSome_parseSeasonValue_iff texts endText end_ startDate endSpells
      dsimp only
      cases ended : parseSeasonValue texts (strip endText) startDate with
      | none =>
          rw [ended] at ends
          refine iff_of_false (fun impossible => by cases impossible) ?_
          rintro ⟨rfl, -, -⟩
          have here : start.In startDate.year := startDay ▸ startDate.exists_
          exact absurd (ends.mpr ⟨here, .inl again⟩) Bool.noConfusion
      | some endDate =>
          have endBefore := le_of_placed endSpells ended
          rcases (parseSeasonValue_eq_some_iff endSpells).mp ended with ⟨-, endDay, endYear⟩
          dsimp only
          by_cases same : start = end_
          · subst same
            rw [if_pos again] at endYear
            have equal : endDate.Le startDate ∧ startDate.Le endDate := by
              refine ⟨endBefore, .inr ⟨endYear.symm, ?_⟩⟩
              rw [startDay, endDay]
              exact start.le_refl
            have only : endDate = startDate := CalendarDate.eq_of_le_of_le equal.1 equal.2
            rw [if_pos equal.2, only, decide_eq_true before, Bool.true_and, decide_eq_false_iff_not]
            constructor
            · intro later
              refine ⟨rfl, fun today_ => later ?_, last⟩
              have now : start.Le today.monthDay := by
                rw [today_]
                exact today.monthDay.le_refl
              rw [if_pos now] at startYear
              refine .inr ⟨startYear.symm, ?_⟩
              rw [startDay, today_]
              exact today.monthDay.le_refl
            · rintro ⟨-, other, -⟩ after
              have equal := CalendarDate.eq_of_le_of_le before after
              exact other (startDay.symm.trans (congrArg CalendarDate.monthDay equal))
          · have strictly : ¬ startDate.Le endDate := by
              intro after
              have equal := CalendarDate.eq_of_le_of_le after endBefore
              exact same (startDay.symm.trans ((congrArg CalendarDate.monthDay equal).trans endDay))
            rw [if_neg strictly, decide_eq_true before, Bool.true_or]
            refine iff_of_false (fun impossible => by cases impossible) ?_
            exact fun idle => same idle.1

/-- A collection is active exactly in its season if and only if it is in season, or the season is
a single other day, which came this year or, if it is still to come, in the year before.
-/
theorem isCollectionActive_seasonal_iff (startSpells : Spells texts startText start)
    (endSpells : Spells texts endText end_) (today : CalendarDate)
    : (isCollectionActive texts startText endText today = true
        ↔ InSeason start end_ today.monthDay)
      ↔ InSeason start end_ today.monthDay ∨ start = end_ ∧ LastCame start today := by
  have idle := @isCollectionActive_eq_false_iff texts today startText endText start end_
    startSpells endSpells
  by_cases season : InSeason start end_ today.monthDay
  · rw [iff_true_right season, or_iff_left_of_imp (fun _ => season)]
    refine iff_of_true ?_ season
    rw [← Bool.not_eq_false, idle]
    rintro ⟨rfl, other, -⟩
    unfold InSeason at season
    rw [if_pos start.le_refl] at season
    exact other (MonthDay.eq_of_le_of_le season.1 season.2)
  · rw [iff_false_right season, Bool.not_eq_true, idle, or_iff_right season]
    refine and_congr_right (fun same => and_iff_right ?_)
    rintro today_
    subst same
    refine season ?_
    unfold InSeason
    rw [if_pos start.le_refl, ← today_]
    exact ⟨start.le_refl, start.le_refl⟩

def digits : SeasonTexts where
  readInt? text := some (DecimalDigits.ascii.number 0 text.toList)
  readDate? _ := none

theorem spells_december : Spells digits "12-01" ⟨12, 1⟩ := ⟨by decide, by decide⟩

theorem spells_january : Spells digits "01-06" ⟨1, 6⟩ := ⟨by decide, by decide⟩

/-- A Christmas collection in December. -/
theorem christmas_in_season
    : isCollectionActive digits "12-01" "01-06" ⟨2025, ⟨12, 24⟩, by decide⟩ = true
      ↔ InSeason ⟨12, 1⟩ ⟨1, 6⟩ ⟨12, 24⟩ :=
  (isCollectionActive_seasonal_iff spells_december spells_january
    ⟨2025, ⟨12, 24⟩, by decide⟩).mpr (.inl (by decide))

/-- A Christmas collection is active in July. -/
theorem christmas_in_july
    : ¬ (isCollectionActive digits "12-01" "01-06" ⟨2026, ⟨7, 15⟩, by decide⟩ = true
        ↔ InSeason ⟨12, 1⟩ ⟨1, 6⟩ ⟨7, 15⟩) := by
  decide

end OctoHubs.Collections
