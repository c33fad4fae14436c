import OctoHubs.UserItems.PlaystateMerge

/-! The union of playback states does not depend on the order in which they are read exactly when
the earliest dates of each key agree, and so do its furthest positions with their latest dates.
-/

namespace OctoHubs.UserItems

open OctoHubs.Library

section Ordering

variable {calendar : Calendar} {rules : Alphabet} {includeResume : Bool}

theorem lastPlayedIsOlder_iff {candidate current : Option String}
    (readable : Readable calendar candidate) (readable_ : Readable calendar current)
    : lastPlayedIsOlder calendar candidate current = true
      ↔ ∃ time, parseEmbyDatetime calendar candidate = some time
          ∧ ∀ other, parseEmbyDatetime calendar current = some other → time < other := by
  unfold lastPlayedIsOlder
  cases here : dated candidate with
  | false =>
      rw [if_pos rfl]
      refine ⟨fun no => absurd no Bool.false_ne_true, fun ⟨time, parsed, _⟩ => ?_⟩
      rw [dated_of_parse parsed] at here
      cases here
  | true =>
      obtain ⟨time, parsed⟩ := readable here
      rw [if_neg (by decide), parsed]
      cases there : dated current with
      | false =>
          rw [if_pos rfl]
          refine ⟨fun _ => ⟨time, rfl, fun other found => ?_⟩, fun _ => rfl⟩
          rw [dated_of_parse found] at there
          cases there
      | true =>
          obtain ⟨other, found⟩ := readable_ there
          rw [if_neg (by decide), found]
          simp

theorem lastPlayedIsOlder_strict {dates : List (Option String)}
    (readable : ∀ date ∈ dates, Readable calendar date)
    : StrictOn (lastPlayedIsOlder calendar) dates where
  irrefl date member := by
    rw [← Bool.not_eq_true, lastPlayedIsOlder_iff (readable date member) (readable date member)]
    rintro ⟨time, parsed, earlier⟩
    exact lt_irrefl time (earlier time parsed)
  trans first inFirst second inSecond third inThird above under := by
    rw [lastPlayedIsOlder_iff (readable first inFirst) (readable second inSecond)] at above
    rw [lastPlayedIsOlder_iff (readable second inSecond) (readable third inThird)] at under
    rw [lastPlayedIsOlder_iff (readable first inFirst) (readable third inThird)]
    obtain ⟨time, parsed, earlier⟩ := above
    obtain ⟨middle, found, before⟩ := under
    exact ⟨time, parsed, fun other there => (earlier middle found).trans (before other there)⟩

/-- A position with the date at which it was reached. -/
abbrev Place := Int × Option String

def ResumeState.place (state : ResumeState) : Place := (state.position, state.lastPlayed)

variable (calendar) in
/-- A place further on, or the same one at a later date when both dates are there. -/
def furtherPlace (current existing : Place) : Bool :=
  existing.1 < current.1 || (current.1 = existing.1 && laterThan calendar current.2 existing.2)

theorem laterThan_iff {current existing : Option String}
    : laterThan calendar current existing = true
      ↔ ∃ time other, parseEmbyDatetime calendar current = some time
          ∧ parseEmbyDatetime calendar existing = some other ∧ other < time := by
  unfold laterThan
  split
  · next time other here there => simp [here, there]
  · next missing =>
      refine ⟨fun no => absurd no Bool.false_ne_true, fun ⟨time, other, here, there, _⟩ => ?_⟩
      exact (missing time other here there).elim

theorem differs_of_laterThan {current existing : Option String}
    (later : laterThan calendar current existing = true)
    : lastPlayedDiffers calendar current existing = true := by
  obtain ⟨time, other, here, there, after⟩ := laterThan_iff.mp later
  rw [lastPlayedDiffers, dated_of_parse here, dated_of_parse there, if_neg (by decide),
    if_neg (by decide), here, there]
  exact decide_eq_true after.ne'

theorem furtherPlace_strict (places : List Place) : StrictOn (furtherPlace calendar) places where
  irrefl place _ := by
    have same : laterThan calendar place.2 place.2 = false := by
      rw [← Bool.not_eq_true, laterThan_iff]
      rintro ⟨time, other, here, there, after⟩
      exact after.ne' (Option.some.inj (here.symm.trans there))
    simp [furtherPlace, same]
  trans first _ second _ third _ above under := by
    simp only [furtherPlace, Bool.or_eq_true, Bool.and_eq_true, decide_eq_true_eq] at above under ⊢
    rcases above with far | ⟨level, later⟩ <;> rcases under with far_ | ⟨level_, later_⟩
    · exact .inl (far_.trans far)
    · exact .inl (level_ ▸ far)
    · exact .inl (level ▸ far_)
    · obtain ⟨time, middle, here, found, after⟩ := laterThan_iff.mp later
      obtain ⟨middle_, other, found_, there, after_⟩ := laterThan_iff.mp later_
      obtain rfl := Option.some.inj (found.symm.trans found_)
      exact .inr ⟨level.trans level_,
        laterThan_iff.mpr ⟨time, other, here, there, after_.trans after⟩⟩

theorem get?_mergePlayed (played : Dict String (Option String)) (entry : String × Option String)
    (key : String)
    : (mergePlayed calendar played entry).get? key
      = if entry.1 = key then keepBetter (lastPlayedIsOlder calendar) (played.get? key) entry.2
        else played.get? key := by
  unfold mergePlayed
  by_cases same : entry.1 = key
  · subst same
    rw [if_pos rfl]
    split
    · next new => rw [Dict.get?_set_self, new, keepBetter]
    · next current found =>
        rw [found, keepBetter]
        split
        · exact Dict.get?_set_self _ _ _
        · exact found
  · rw [if_neg same]
    split
    · exact Dict.get?_set_ne _ _ (Ne.symm same)
    · split
      · exact Dict.get?_set_ne _ _ (Ne.symm same)
      · rfl

variable (calendar) in
def joinResume (existing : Option ResumeState) (current : ResumeState) : Option ResumeState :=
  some (mergeBootstrapResumeState calendar existing current)

theorem get?_mergeResume (resume : Dict String ResumeState) (entry : String × ResumeState)
    (key : String)
    : (mergeResume calendar resume entry).get? key
      = if entry.1 = key then joinResume calendar (resume.get? key) entry.2
        else resume.get? key := by
  rw [mergeResume, Dict.get?_set]
  by_cases same : entry.1 = key
  · subst same
    rfl
  · rw [if_neg same, if_neg (Ne.symm same)]

theorem place_joinResume (existing : Option ResumeState) (current : ResumeState)
    : (joinResume calendar existing current).map ResumeState.place
      = keepBetter (furtherPlace calendar) (existing.map ResumeState.place) current.place := by
  cases existing with
  | none => rfl
  | some existing =>
      simp only [joinResume, mergeBootstrapResumeState, Option.map_some, keepBetter]
      by_cases far : existing.position < current.position
      · rw [if_pos far, if_pos (by simp [furtherPlace, ResumeState.place, far])]
        rfl
      · rw [if_neg far]
        by_cases later : current.position = existing.position
            ∧ laterThan calendar current.lastPlayed existing.lastPlayed = true
        · rw [if_pos (by simp [later, differs_of_laterThan later.2]),
            if_pos (by simp [furtherPlace, ResumeState.place, later])]
          simp only [ResumeState.place, later.1]
        · have level
              : current.position = existing.position
                → laterThan calendar current.lastPlayed existing.lastPlayed = false := by
            simpa using later
          have stays : ¬furtherPlace calendar current.place existing.place = true := by
            simp only [furtherPlace, Bool.or_eq_true, Bool.and_eq_true, decide_eq_true_eq, not_or]
            exact ⟨far, later⟩
          rw [if_neg (by simpa using fun same _ => level same), if_neg stays]
          rfl

theorem hidden_joinResume (existing : Option ResumeState) (current : ResumeState)
    : (joinResume calendar existing current).bind ResumeState.hideFromResume
      = mergedHidden (existing.bind ResumeState.hideFromResume) current.hideFromResume := by
  cases existing with
  | none =>
      obtain ⟨_, _, hidden⟩ := current
      rcases hidden with _ | _ | _ <;> rfl
  | some existing => rfl

theorem mergedHidden_right_comm (kept first second : Option Bool)
    : mergedHidden (mergedHidden kept first) second
      = mergedHidden (mergedHidden kept second) first := by
  rcases kept with _ | _ | _ <;> rcases first with _ | _ | _
    <;> rcases second with _ | _ | _ <;> rfl

theorem eq_of_parts {left right : Option ResumeState}
    (places : left.map ResumeState.place = right.map ResumeState.place)
    (hiddens : left.bind ResumeState.hideFromResume = right.bind ResumeState.hideFromResume)
    : left = right := by
  cases left with
  | none => exact (Option.map_eq_none_iff.mp places.symm).symm
  | some left =>
      cases right with
      | none => cases places
      | some right =>
          obtain ⟨_, _, _⟩ := left
          obtain ⟨_, _, _⟩ := right
          cases places
          cases hiddens
          rfl

variable (rules) in
def playedDates (sources : List (List LibraryItem)) (key : String) : List (Option String) :=
  valuesAt (sources.flatten.flatMap (playedEntries rules)) key

variable (rules includeResume) in
def resumeStates (sources : List (List LibraryItem)) (key : String) : List ResumeState :=
  valuesAt (sources.flatten.flatMap (resumeEntries rules includeResume)) key

variable (rules includeResume) in
def placeEntries (item : LibraryItem) : List (String × Place) :=
  (resumeEntries rules includeResume item).map (Prod.map id ResumeState.place)

variable (rules includeResume) in
/-- The positions with their dates of the started items of a key. -/
def resumePlaces (sources : List (List LibraryItem)) (key : String) : List Place :=
  valuesAt (sources.flatten.flatMap (placeEntries rules includeResume)) key

theorem resumePlaces_eq (sources : List (List LibraryItem)) (key : String)
    : resumePlaces rules includeResume sources key
      = (resumeStates rules includeResume sources key).map ResumeState.place := by
  rw [resumePlaces, resumeStates, ← valuesAt_map, List.map_flatMap]
  rfl

/-- At each key the unions hold the same date and the same state. -/
def SameMaps (left right : Aggregate) : Prop :=
  ∀ key,
    left.globalPlayedMap.get? key = right.globalPlayedMap.get? key
    ∧ left.globalResumeMap.get? key = right.globalResumeMap.get? key

theorem get?_played (sources : List (List LibraryItem)) (key : String)
    : (aggregateSources calendar rules includeResume sources).globalPlayedMap.get? key
      = keptOf (lastPlayedIsOlder calendar) (playedDates rules sources key) := by
  rw [aggregateSources_played]
  exact get?_foldl_entries get?_mergePlayed _ _ _

theorem get?_resume (sources : List (List LibraryItem)) (key : String)
    : (aggregateSources calendar rules includeResume sources).globalResumeMap.get? key
      = (resumeStates rules includeResume sources key).foldl (joinResume calendar) none := by
  rw [aggregateSources_resume]
  exact get?_foldl_entries get?_mergeResume _ _ _

theorem place_get?_resume (sources : List (List LibraryItem)) (key : String)
    : ((aggregateSources calendar rules includeResume sources).globalResumeMap.get? key).map
          ResumeState.place
      = keptOf (furtherPlace calendar) (resumePlaces rules includeResume sources key) := by
  rw [get?_resume, resumePlaces_eq, keptOf, List.foldl_map]
  exact (List.foldl_hom (Option.map ResumeState.place)
    (fun existing current => (place_joinResume existing current).symm)).symm

theorem hidden_get?_resume (sources : List (List LibraryItem)) (key : String)
    : ((aggregateSources calendar rules includeResume sources).globalResumeMap.get? key).bind
          ResumeState.hideFromResume
      = (resumeStates rules includeResume sources key).foldl
          (fun kept state => mergedHidden kept state.hideFromResume) none := by
  rw [get?_resume]
  exact (List.foldl_hom (fun state => Option.bind state ResumeState.hideFromResume)
    (fun existing current => (hidden_joinResume existing current).symm)).symm

theorem hidden_rearranged {sources others : List (List LibraryItem)}
    (rearranged : Rearranged sources others) (key : String)
    : (resumeStates rules includeResume others key).foldl
          (fun kept state => mergedHidden kept state.hideFromResume) none
      = (resumeStates rules includeResume sources key).foldl
          (fun kept state => mergedHidden kept state.hideFromResume) none :=
  (valuesAt_perm (rearranged.flatten.flatMap_right _) key).symm.foldl_eq'
    (fun first _ second _ kept =>
      mergedHidden_right_comm kept first.hideFromResume second.hideFromResume) none

theorem playedEntries_lead (item : LibraryItem) (key : String) (date : Option String)
    (member : (key, date) ∈ playedEntries rules item)
    : ∃ rest, valuesAt (playedEntries rules item) key = date :: rest := by
  unfold playedEntries at member ⊢
  split at member
  · next played =>
      rw [if_pos played]
      obtain ⟨_, listed, same⟩ := List.mem_map.mp member
      cases same
      exact valuesAt_const listed _
  · cases member

theorem placeEntries_lead (item : LibraryItem) (key : String) (place : Place)
    (member : (key, place) ∈ placeEntries rules includeResume item)
    : ∃ rest, valuesAt (placeEntries rules includeResume item) key = place :: rest := by
  unfold placeEntries resumeEntries at member ⊢
  split at member
  · next resumes =>
      rw [if_pos resumes, valuesAt_map]
      obtain ⟨⟨_, state⟩, listed, same⟩ := List.mem_map.mp member
      cases same
      obtain ⟨_, inKeys, same⟩ := List.mem_map.mp listed
      cases same
      obtain ⟨rest, leads⟩ := valuesAt_const inKeys (resumeStateFromUserData item.userData)
      exact ⟨_, congrArg (List.map ResumeState.place) leads⟩
  · cases member

theorem readable_of_mem {sources : List (List LibraryItem)}
    (readable : ∀ items ∈ sources, ∀ item ∈ items, Readable calendar item.userData.lastPlayedDate)
    {key : String} {date : Option String} (member : date ∈ playedDates rules sources key)
    : Readable calendar date := by
  obtain ⟨item, inFlat, listed⟩ := List.mem_flatMap.mp (mem_valuesAt.mp member)
  obtain ⟨items, inSources, inItems⟩ := List.mem_flatten.mp inFlat
  unfold playedEntries at listed
  split at listed
  · obtain ⟨_, _, same⟩ := List.mem_map.mp listed
    cases same
    exact readable items inSources item inItems
  · cases listed

end Ordering

/-- The union is the same in every order of the users and of the items of each. -/
theorem bootstrap_order_free_iff (calendar : Calendar) (rules : Alphabet) (includeResume : Bool)
    (sources : List (List LibraryItem))
    (readable : ∀ items ∈ sources, ∀ item ∈ items, Readable calendar item.userData.lastPlayedDate)
    : (∀ others,
          Rearranged sources others
          → SameMaps (aggregateSources calendar rules includeResume others)
              (aggregateSources calendar rules includeResume sources))
      ↔ ∀ key,
          Agreed (lastPlayedIsOlder calendar) (playedDates rules sources key)
          ∧ Agreed (furtherPlace calendar) (resumePlaces rules includeResume sources key) := by
  have dates (key : String) :=
    keptOf_rearranged_iff sources (playedEntries rules) key
      (lastPlayedIsOlder_strict (fun date member => readable_of_mem readable member))
      (fun item date => playedEntries_lead item key date)
  have places (key : String) :=
    keptOf_rearranged_iff sources (placeEntries rules includeResume) key
      (furtherPlace_strict _ : StrictOn (furtherPlace calendar) _)
      (fun item place => placeEntries_lead item key place)
  constructor
  · intro same key
    constructor
    · refine (dates key).mp (fun others rearranged => ?_)
      have equal := (same others rearranged key).1
      rwa [get?_played, get?_played] at equal
    · refine (places key).mp (fun others rearranged => ?_)
      have equal := congrArg (Option.map ResumeState.place) (same others rearranged key).2
      rwa [place_get?_resume, place_get?_resume] at equal
  · intro agree others rearranged key
    constructor
    · rw [get?_played, get?_played]
      exact (dates key).mpr (agree key).1 others rearranged
    · refine eq_of_parts ?_ ?_
      · rw [place_get?_resume, place_get?_resume]
        exact (places key).mpr (agree key).2 others rearranged
      · rw [hidden_get?_resume, hidden_get?_resume, hidden_rearranged rearranged]

def startedMovie (date : Option String) : LibraryItem where
  id := "1"
  details :=
    itemOf
      [ ("Type", .text "Movie"),
        ("ProviderIds", .ofDict (itemOf [("tmdb", .text "550")])) ]
  userData := ⟨false, 600, date, none⟩

/-- Two users stopped at one position, and the date of one of them is missing. -/
def tiedSources : List (List LibraryItem) := [[startedMovie none], [startedMovie (some newYear)]]

theorem tiedSources_readable
    : ∀ items ∈ tiedSources, ∀ item ∈ items,
        Readable newYearCalendar item.userData.lastPlayedDate := by
  intro items inSources item inItems
  rcases List.mem_cons.mp inSources with rfl | inSources
  · rw [List.mem_singleton.mp inItems]
    exact fun there => absurd there (by decide)
  · rw [List.mem_singleton.mp inSources, List.mem_singleton] at inItems
    rw [inItems]
    exact fun _ => ⟨1704067200 * second, by decide⟩

theorem bootstrap_order_free_iff_tied
    : (∀ others,
          Rearranged tiedSources others
          → SameMaps (aggregateSources newYearCalendar plainRules true others)
              (aggregateSources newYearCalendar plainRules true tiedSources))
      ↔ ∀ key,
          Agreed (lastPlayedIsOlder newYearCalendar) (playedDates plainRules tiedSources key)
          ∧ Agreed (furtherPlace newYearCalendar) (resumePlaces plainRules true tiedSources key) :=
  bootstrap_order_free_iff newYearCalendar plainRules true tiedSources tiedSources_readable

theorem tied_positions_depend_on_order
    : (∀ items ∈ tiedSources, ∀ item ∈ items,
          Readable newYearCalendar item.userData.lastPlayedDate)
      ∧ Rearranged tiedSources tiedSources.reverse
      ∧ ¬SameMaps (aggregateSources newYearCalendar plainRules true tiedSources.reverse)
          (aggregateSources newYearCalendar plainRules true tiedSources) := by
  refine ⟨tiedSources_readable, ⟨_, (List.reverse_perm _).symm, ?_⟩, fun same => ?_⟩
  · exact List.forall₂_same.mpr (fun _ _ => .refl _)
  · have dates := congrArg (fun state => state.bind ResumeState.lastPlayed) (same "tmdb:550").2
    revert dates
    decide

end OctoHubs.UserItems
