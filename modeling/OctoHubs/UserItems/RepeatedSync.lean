import OctoHubs.UserItems.LibraryReads

/-! A synchronisation that is repeated at once: what the first run stores and what the second one
sends.
-/

namespace OctoHubs.UserItems

open OctoHubs.Library
open OctoHubs.UserSync

/-- The mark as played is sent of an item that is not played or was at another time. -/
abbrev Marks (calendar : Calendar) (state : PlayState) (stored : StoredPlaystate) : Prop :=
  stored.played = false ∨ lastPlayedDiffers calendar state.lastPlayed stored.lastPlayed = true

/-- The position is sent when it is another one, and where the date counts when it differs. -/
abbrev Moves (calendar : Calendar) (state : PlayState) (stored : StoredPlaystate) : Prop :=
  stored.position ≠ state.position
  ∨ (state.played = true → 0 < state.position)
    ∧ lastPlayedDiffers calendar state.lastPlayed stored.lastPlayed = true

section Settling

variable (calendar : Calendar) (format : DateFormat) (rules : Alphabet) (includeResume : Bool)
  (library : UserLibrary)

/-- A date that was sent as digits is shown as the same second. -/
def UserLibrary.ShowsSeconds : Prop :=
  ∀ text time,
    calendar.fromisoformat text = some time
    → parseEmbyDatetime calendar (some (library.shownDate (format.strftime time)))
      = some (time - time % second)

/-- A date sent with a mark as played does not differ when it is read again: it is one of whole
seconds, digits that are read as the server shows them, or it is not sent and did not differ.
-/
def ComesBack (date stored : Option String) : Prop :=
  dated date = true
  → let text := strip (date.getD "")
    if text = "" then lastPlayedDiffers calendar date stored = false
    else if format.isdigit text ∧ text.length = 14 then
      lastPlayedDiffers calendar date (some (library.shownDate text)) = false
    else
      match calendar.fromisoformat (normalizedDate text) with
      | some time => time % second = 0
      | none => lastPlayedDiffers calendar date stored = false

/-- A mark as played that is not followed by a position carries a date that comes back. -/
def DateSettles (state : PlayState) (stored : StoredPlaystate) : Prop :=
  state.played = true
  → Marks calendar state stored
  → ¬(includeResume = true ∧ Moves calendar state stored)
  → ComesBack calendar format library state.lastPlayed stored.lastPlayed

/-- The flag that hides an item is written only where it is read again. -/
def FlagSettles (id : String) (state : PlayState) : Prop :=
  includeResume = true
  → state.hideFromResume ≠ none
  → state.played = false ∨ 0 < state.position
  → library.showsHidden = true ∨ id ∈ library.ids ∧ 0 < state.position

def UserLibrary.wanted (desired : Dict String PlayState) (id : String) : Option PlayState :=
  (itemSyncKeys rules (library.details id)).findSome? desired.get?

/-- The lookups describe an item so that it is matched as in the user's own lists. -/
def UserLibrary.MatchedAlike (desired : Dict String PlayState) : Prop :=
  ∀ id details,
    library.LooksUp rules desired.keys id details
    → (itemSyncKeys rules details).findSome? desired.get? = library.wanted rules desired id
      ∧ (itemSyncKeys rules details = [] ↔ itemSyncKeys rules (library.details id) = [])

/-- A synchronisation reads an item that is listed or looked up. -/
def UserLibrary.Reads (keys : List String) (id : String) (listed : Prop) : Prop :=
  id ∈ library.ids ∧ listed ∨ ∃ details, library.LooksUp rules keys id details

/-- An item that is read again after a synchronisation is left alone then: a matched one when its
date and its flag settle, and one that nothing matches when its flag is shown.
-/
def UserLibrary.Settles (desired : Dict String PlayState) (id : String) (stored : StoredPlaystate)
    : Prop :=
  match library.wanted rules desired id with
  | some state =>
      library.Reads rules desired.keys id
        (state.played = true ∨ includeResume = true ∧ 0 < state.position)
      → DateSettles calendar format includeResume library state stored
        ∧ FlagSettles includeResume library id state
  | none =>
      library.Reads rules desired.keys id
        (stored.played = true ∧ itemSyncKeys rules (library.details id) = [])
      → includeResume = false ∨ library.showsHidden = true

end Settling

section Storing

variable {calendar : Calendar} {format : DateFormat} {rules : Alphabet} {includeResume : Bool}
  {library : UserLibrary}

/-- What is read of an item is what is stored of it; its flag may not be known. -/
structure Reflecting (data : UserData) (stored : StoredPlaystate) : Prop where
  played : data.played = stored.played
  position : data.playbackPositionTicks = stored.position
  lastPlayed : data.lastPlayedDate = stored.lastPlayed
  hidden : ∀ hide, data.hideFromResume = some hide → stored.hidden = hide

theorem seen_reflecting (library : UserLibrary) (includeResume : Bool) (stored : Stored)
    (id : String)
    : Reflecting (library.seen includeResume stored id) (stored id) := by
  unfold UserLibrary.seen UserLibrary.shown
  split
  · exact ⟨rfl, rfl, rfl, fun _ same => Option.some.inj same⟩
  · refine ⟨rfl, rfl, rfl, fun hide same => ?_⟩
    dsimp only at same
    split at same
    · exact Option.some.inj same
    · cases same

variable (calendar format library) in
def storedAfter (writes : List Write) (stored : StoredPlaystate) : StoredPlaystate :=
  writes.foldl (library.apply calendar format) stored

theorem storedAfter_append (writes later : List Write) (stored : StoredPlaystate)
    : storedAfter calendar format library (writes ++ later) stored
      = storedAfter calendar format library later
          (storedAfter calendar format library writes stored) :=
  List.foldl_append

/-- The date that is stored with a mark as played. -/
def UserLibrary.sentDate (library : UserLibrary) (calendar : Calendar) (format : DateFormat)
    (date stored : Option String)
    : Option String :=
  match formatEmbyDatePlayed calendar format date with
  | some sent => some (library.shownDate sent)
  | none => stored

variable {state : PlayState} {data : UserData} {stored : StoredPlaystate}

theorem storedAfter_playedWrites (reflecting : Reflecting data stored)
    : storedAfter calendar format library (playedWrites calendar state data) stored
      = { stored with
          played := state.played
          lastPlayed :=
            if state.played = true ∧ Marks calendar state stored then
              library.sentDate calendar format state.lastPlayed stored.lastPlayed
            else stored.lastPlayed } := by
  unfold playedWrites storedAfter Marks
  rw [reflecting.played, reflecting.lastPlayed]
  cases wanted : state.played with
  | true =>
      rw [if_pos rfl]
      by_cases marks
          : stored.played = false
            ∨ lastPlayedDiffers calendar state.lastPlayed stored.lastPlayed = true
      · rw [if_pos marks, if_pos ⟨rfl, marks⟩]
        rfl
      · rw [if_neg marks, if_neg (fun both => marks both.2)]
        have played : stored.played = true := Bool.of_not_eq_false (fun there => marks (.inl there))
        rw [List.foldl_nil, ← played]
  | false =>
      have unmarked
          : ¬(false = true
            ∧ (stored.played = false
              ∨ lastPlayedDiffers calendar state.lastPlayed stored.lastPlayed = true)) :=
        fun both => Bool.false_ne_true both.1
      rw [if_neg unmarked, if_neg Bool.false_ne_true]
      cases played : stored.played with
      | true => rfl
      | false =>
          rw [if_neg Bool.false_ne_true, List.foldl_nil, ← played]

theorem resumeWrites_eq (reflecting : Reflecting data stored)
    : resumeWrites calendar state data
      = (if Moves calendar state stored then
          [.resume state.position state.lastPlayed state.played]
        else [])
        ++ if state.played = false ∨ 0 < state.position ∨ 0 < stored.position then
          applyHideFromResume state.hideFromResume data.hideFromResume
        else [] := by
  have same
      : (decide (stored.position ≠ state.position)
          || if state.played then
              decide (0 < state.position)
              && lastPlayedDiffers calendar state.lastPlayed stored.lastPlayed
            else lastPlayedDiffers calendar state.lastPlayed stored.lastPlayed) = true
        ↔ Moves calendar state stored := by
    unfold Moves
    cases state.played <;> simp
  unfold resumeWrites
  rw [reflecting.position, reflecting.lastPlayed]
  dsimp only
  rw [if_congr (same) rfl rfl]

theorem storedAfter_hide {desired current : Option Bool}
    (known : ∀ hide, current = some hide → stored.hidden = hide)
    : storedAfter calendar format library (applyHideFromResume desired current) stored
      = { stored with hidden := desired.getD stored.hidden } := by
  unfold applyHideFromResume storedAfter
  cases desired with
  | none => rfl
  | some hide =>
      dsimp only
      split
      · next same => rw [List.foldl_nil, Option.getD_some, ← known hide same]
      · rfl

theorem storedAfter_resumeWrites (reflecting : Reflecting data stored) {marked : StoredPlaystate}
    (played : marked.played = state.played) (position : marked.position = stored.position)
    (hidden : marked.hidden = stored.hidden)
    : storedAfter calendar format library (resumeWrites calendar state data) marked
      = { played := state.played
          position := state.position
          lastPlayed :=
            if Moves calendar state stored ∧ dated state.lastPlayed = true then state.lastPlayed
            else marked.lastPlayed
          hidden :=
            if state.played = false ∨ 0 < state.position ∨ 0 < stored.position then
              state.hideFromResume.getD stored.hidden
            else stored.hidden } := by
  rw [resumeWrites_eq reflecting, storedAfter_append]
  have moved
      : storedAfter calendar format library
            (if Moves calendar state stored then
              [.resume state.position state.lastPlayed state.played]
            else [])
            marked
        = { played := state.played
            position := state.position
            lastPlayed :=
              if Moves calendar state stored ∧ dated state.lastPlayed = true then state.lastPlayed
              else marked.lastPlayed
            hidden := stored.hidden } := by
    unfold storedAfter
    split
    · next moves =>
        rw [List.foldl_cons, List.foldl_nil, UserLibrary.apply, played, Bool.or_self, hidden]
        congr 1
        exact if_congr ⟨fun there => ⟨moves, there⟩, fun both => both.2⟩ rfl rfl
    · next still =>
        have same : stored.position = state.position := not_not.mp (not_or.mp still).1
        rw [List.foldl_nil, if_neg (fun both => still both.1), ← played, ← same, ← position,
          ← hidden]
  rw [moved]
  split
  · exact storedAfter_hide reflecting.hidden
  · rfl

theorem playedWrites_eq_nil_iff (reflecting : Reflecting data stored)
    (played : stored.played = state.played)
    : playedWrites calendar state data = []
      ↔ (state.played = true
        → lastPlayedDiffers calendar state.lastPlayed stored.lastPlayed = false) := by
  unfold playedWrites
  rw [reflecting.played, reflecting.lastPlayed, played]
  cases state.played <;> simp

theorem applyHideFromResume_eq_nil {desired current : Option Bool}
    : applyHideFromResume desired current = []
      ↔ ∀ hide, desired = some hide → current = some hide := by
  cases desired with
  | none => exact iff_of_true rfl (fun _ absent => nomatch absent)
  | some hide =>
      rw [applyHideFromResume_eq_nil_iff]
      exact ⟨fun same other there => there ▸ same, fun all => all hide rfl⟩

theorem resumeWrites_eq_nil_iff (reflecting : Reflecting data stored)
    (position : stored.position = state.position)
    : resumeWrites calendar state data = []
      ↔ ((state.played = true → 0 < state.position)
          → lastPlayedDiffers calendar state.lastPlayed stored.lastPlayed = false)
        ∧ (state.played = false ∨ 0 < state.position
          → ∀ hide, state.hideFromResume = some hide → data.hideFromResume = some hide) := by
  rw [resumeWrites_eq reflecting, List.append_eq_nil_iff]
  refine and_congr ?_ ?_
  · unfold Moves
    rw [ite_eq_right_iff]
    simp [position]
  · rw [position, ite_eq_right_iff, or_self, applyHideFromResume_eq_nil]

theorem matchedWrites_eq_nil_iff (reflecting : Reflecting data stored)
    (played : stored.played = state.played)
    (position : includeResume = true → stored.position = state.position)
    : matchedWrites calendar includeResume state data = []
      ↔ (state.played = true ∨ includeResume = true
          → lastPlayedDiffers calendar state.lastPlayed stored.lastPlayed = false)
        ∧ (includeResume = true
          → state.played = false ∨ 0 < state.position
          → ∀ hide, state.hideFromResume = some hide → data.hideFromResume = some hide) := by
  unfold matchedWrites
  rw [List.append_eq_nil_iff, playedWrites_eq_nil_iff reflecting played]
  cases includeResume with
  | false => simp
  | true =>
      rw [if_pos rfl, resumeWrites_eq_nil_iff reflecting (position rfl)]
      cases state.played with
      | true => simpa using fun same _ _ => same
      | false => simp

theorem lastPlayedDiffers_undated {date other : Option String} (undated : dated date ≠ true)
    : lastPlayedDiffers calendar date other = false := by
  rw [lastPlayedDiffers, if_pos (Bool.eq_false_iff.mpr undated)]

theorem lastPlayedDiffers_self (date : Option String)
    : lastPlayedDiffers calendar date date = false := by
  by_cases there : dated date = true
  · unfold lastPlayedDiffers
    rw [there, if_neg Bool.false_ne_true.symm, if_neg Bool.false_ne_true.symm]
    split <;> simp_all
  · exact lastPlayedDiffers_undated there

theorem lastPlayedDiffers_of_parse {date other : Option String} {time otherTime : Timestamp}
    (read : parseEmbyDatetime calendar date = some time)
    (read_ : parseEmbyDatetime calendar other = some otherTime)
    : lastPlayedDiffers calendar date other = decide (time ≠ otherTime) := by
  unfold lastPlayedDiffers
  rw [dated_of_parse read, dated_of_parse read_, if_neg Bool.false_ne_true.symm,
    if_neg Bool.false_ne_true.symm, read, read_]

theorem comesBack_iff (shows : library.ShowsSeconds calendar format) (date earlier : Option String)
    : lastPlayedDiffers calendar date (library.sentDate calendar format date earlier) = false
      ↔ ComesBack calendar format library date earlier := by
  unfold ComesBack
  by_cases there : dated date = true
  · rw [forall_prop_of_true there]
    unfold UserLibrary.sentDate formatEmbyDatePlayed
    rw [if_pos there]
    dsimp only
    by_cases empty : strip (date.getD "") = ""
    · rw [if_pos empty, if_pos empty]
    · rw [if_neg empty, if_neg empty]
      by_cases digits
          : format.isdigit (strip (date.getD "")) = true ∧ (strip (date.getD "")).length = 14
      · rw [if_pos digits, if_pos digits]
      · rw [if_neg digits, if_neg digits]
        cases read : calendar.fromisoformat (normalizedDate (strip (date.getD ""))) with
        | none => exact Iff.rfl
        | some time =>
            have whole : parseEmbyDatetime calendar date = some time := by
              rw [parseEmbyDatetime, if_pos there]
              dsimp only
              rw [if_neg empty, read]
            rw [Option.map_some]
            dsimp only
            rw [lastPlayedDiffers_of_parse whole (shows _ time read), decide_eq_false_iff_not,
              not_not]
            exact eq_comm.trans sub_eq_self
  · exact iff_of_true (lastPlayedDiffers_undated there) (fun dated => absurd dated there)

variable (calendar format includeResume library) in
def matchedOutcome (state : PlayState) (stored : StoredPlaystate) : StoredPlaystate where
  played := state.played
  position := if includeResume then state.position else stored.position
  lastPlayed :=
    if includeResume = true ∧ Moves calendar state stored ∧ dated state.lastPlayed = true then
      state.lastPlayed
    else if state.played = true ∧ Marks calendar state stored then
      library.sentDate calendar format state.lastPlayed stored.lastPlayed
    else stored.lastPlayed
  hidden :=
    if includeResume = true
        ∧ (state.played = false ∨ 0 < state.position ∨ 0 < stored.position) then
      state.hideFromResume.getD stored.hidden
    else stored.hidden

theorem storedAfter_matchedWrites (reflecting : Reflecting data stored)
    : storedAfter calendar format library (matchedWrites calendar includeResume state data) stored
      = matchedOutcome calendar format includeResume library state stored := by
  unfold matchedWrites matchedOutcome
  rw [storedAfter_append, storedAfter_playedWrites reflecting]
  cases includeResume with
  | false => simp [storedAfter]
  | true =>
      rw [if_pos rfl]
      refine (storedAfter_resumeWrites reflecting ?_ ?_ ?_).trans ?_
      · rfl
      · rfl
      · rfl
      · simp

theorem outcome_date_iff (shows : library.ShowsSeconds calendar format)
    : (state.played = true ∨ includeResume = true
        → lastPlayedDiffers calendar state.lastPlayed
            (matchedOutcome calendar format includeResume library state stored).lastPlayed
          = false)
      ↔ DateSettles calendar format includeResume library state stored := by
  unfold matchedOutcome
  dsimp only
  constructor
  · intro quiet wanted marks still
    have same := quiet (.inl wanted)
    rw [if_neg (fun moved => still ⟨moved.1, moved.2.1⟩), if_pos ⟨wanted, marks⟩] at same
    exact (comesBack_iff shows _ _).mp same
  · intro settles asked
    by_cases there : dated state.lastPlayed = true
    · split
      · exact lastPlayedDiffers_self _
      · next unmoved =>
          have still : ¬(includeResume = true ∧ Moves calendar state stored) :=
            fun moved => unmoved ⟨moved.1, moved.2, there⟩
          split
          · next marked =>
              exact (comesBack_iff shows _ _).mpr (settles marked.1 marked.2 still)
          · next unmarked =>
              refine Bool.eq_false_iff.mpr (fun differs => ?_)
              have unwanted : state.played ≠ true := fun wanted => unmarked ⟨wanted, .inr differs⟩
              exact still ⟨asked.resolve_left unwanted,
                .inr ⟨fun wanted => absurd wanted unwanted, differs⟩⟩
    · exact lastPlayedDiffers_undated there

theorem outcome_flag_iff {id : String} {after : Stored}
    (position : includeResume = true → (after id).position = state.position)
    (hidden
      : includeResume = true
        → state.played = false ∨ 0 < state.position
        → (after id).hidden = state.hideFromResume.getD stored.hidden)
    : (includeResume = true
        → state.played = false ∨ 0 < state.position
        → ∀ hide,
            state.hideFromResume = some hide
            → (library.seen includeResume after id).hideFromResume = some hide)
      ↔ FlagSettles includeResume library id state := by
  unfold UserLibrary.seen UserLibrary.shown
  constructor
  · intro known asked flagged wanted
    obtain ⟨hide, same⟩ := Option.ne_none_iff_exists'.mp flagged
    have read := known asked wanted hide same
    split at read
    · next listed => exact .inr ⟨listed.1, position asked ▸ listed.2.2⟩
    · dsimp only at read
      split at read
      · next shows => exact .inl shows
      · cases read
  · intro settles asked wanted hide same
    have stores : (after id).hidden = hide := by
      rw [hidden asked wanted, same, Option.getD_some]
    split
    · exact congrArg some stores
    · next unlisted =>
        have shows : library.showsHidden = true := by
          refine (settles asked (by rw [same]; exact Option.some_ne_none hide) wanted).resolve_right
            (fun listed => unlisted ⟨listed.1, asked, ?_⟩)
          rw [position asked]
          exact listed.2
        dsimp only
        rw [if_pos shows, stores]

theorem matched_quiet_iff (shows : library.ShowsSeconds calendar format) {id : String}
    {after : Stored}
    (left_ : after id = matchedOutcome calendar format includeResume library state stored)
    : matchedWrites calendar includeResume state (library.seen includeResume after id) = []
      ↔ DateSettles calendar format includeResume library state stored
        ∧ FlagSettles includeResume library id state := by
  have played : (after id).played = state.played := by
    rw [left_]
    rfl
  have position : includeResume = true → (after id).position = state.position := by
    intro asked
    rw [left_, matchedOutcome, if_pos asked]
  have hidden
      : includeResume = true
        → state.played = false ∨ 0 < state.position
        → (after id).hidden = state.hideFromResume.getD stored.hidden := by
    intro asked wanted
    rw [left_, matchedOutcome]
    exact if_pos ⟨asked, wanted.imp_right .inl⟩
  rw [matchedWrites_eq_nil_iff (seen_reflecting library includeResume after id) played position,
    outcome_flag_iff position hidden, ← outcome_date_iff shows, left_]

variable (includeResume) in
/-- What one run stores of an item that nothing matches. -/
def unmatchedOutcome (keyless : Bool) (stored : StoredPlaystate) : StoredPlaystate where
  played := stored.played && keyless
  position := if includeResume then 0 else stored.position
  lastPlayed := stored.lastPlayed
  hidden := includeResume || stored.hidden

theorem storedAfter_cleared (keys : List String)
    : storedAfter calendar format library
          (if stored.played = true ∧ keys ≠ [] then [.unplayed] else []) stored
      = { stored with played := stored.played && keys = [] } := by
  unfold storedAfter
  obtain ⟨played, position, lastPlayed, hidden⟩ := stored
  by_cases keyless : keys = []
  · rw [if_neg (fun both => both.2 keyless), decide_eq_true keyless, Bool.and_true]
    rfl
  · rw [decide_eq_false keyless, Bool.and_false]
    cases played with
    | true =>
        rw [if_pos ⟨rfl, keyless⟩]
        rfl
    | false =>
        rw [if_neg (fun both => Bool.false_ne_true both.1)]
        rfl

theorem storedAfter_reset
    : storedAfter calendar format library
          (if stored.position ≠ 0 then [.resume 0 none false] else []) stored
      = { stored with position := 0 } := by
  unfold storedAfter
  by_cases start : stored.position = 0
  · rw [if_neg (not_not.mpr start), List.foldl_nil, ← start]
  · rw [if_pos start]
    rfl

theorem storedAfter_unmatchedWrites {item : LibraryItem}
    (reflecting : Reflecting item.userData stored)
    : storedAfter calendar format library (unmatchedWrites rules includeResume item) stored
      = unmatchedOutcome includeResume (itemSyncKeys rules item.details = []) stored := by
  unfold unmatchedWrites unmatchedOutcome
  dsimp only
  rw [reflecting.played, reflecting.position, storedAfter_append, storedAfter_cleared]
  cases includeResume with
  | false => rfl
  | true =>
      have reset
          : storedAfter calendar format library
                (if stored.position ≠ 0 then [.resume 0 none false] else [])
                { stored with played := stored.played && itemSyncKeys rules item.details = [] }
              = { stored with
                  played := stored.played && itemSyncKeys rules item.details = []
                  position := 0 } :=
        storedAfter_reset
      rw [if_pos rfl, storedAfter_append, reset]
      exact storedAfter_hide reflecting.hidden

theorem unmatched_quiet_iff {id : String} {details : Item} {after : Stored}
    (left_
      : after id = unmatchedOutcome includeResume (itemSyncKeys rules details = []) stored)
    : unmatchedWrites rules includeResume ⟨id, details, library.seen includeResume after id⟩ = []
      ↔ includeResume = false ∨ library.showsHidden = true := by
  have seen : (library.seen includeResume after id) = library.shown (after id) := by
    unfold UserLibrary.seen
    refine if_neg (fun there => ?_)
    obtain ⟨-, asked, started⟩ := there
    rw [left_, unmatchedOutcome, if_pos asked] at started
    exact absurd started (lt_irrefl 0)
  have uncleared
      : ¬((stored.played && decide (itemSyncKeys rules details = [])) = true
        ∧ itemSyncKeys rules details ≠ []) := by
    rintro ⟨played, keyed⟩
    exact keyed (of_decide_eq_true (Bool.and_eq_true_iff.mp played).2)
  unfold unmatchedWrites
  dsimp only
  rw [seen, left_]
  unfold UserLibrary.shown unmatchedOutcome
  dsimp only
  rw [if_neg uncleared, List.nil_append]
  cases includeResume with
  | false => simp
  | true => cases library.showsHidden <;> simp [applyHideFromResume]

theorem applyWrites_one (before : Stored) (id : String) (writes : List Write)
    : library.applyWrites before calendar format (writes.map (id, ·))
      = Function.update before id (storedAfter calendar format library writes (before id)) := by
  unfold UserLibrary.applyWrites storedAfter
  induction writes generalizing before with
  | nil => exact (Function.update_eq_self id before).symm
  | cons write rest ih =>
      rw [List.map_cons, List.foldl_cons, ih]
      dsimp only
      rw [Function.update_self, Function.update_idem]
      rfl

variable {writesOf : LibraryItem → List Write}

theorem applyWrites_cons (before : Stored) (item : LibraryItem) (rest : List LibraryItem)
    : library.applyWrites before calendar format
          ((item :: rest).flatMap (fun item => (writesOf item).map (item.id, ·)))
      = library.applyWrites
          (Function.update before item.id
            (storedAfter calendar format library (writesOf item) (before item.id)))
          calendar format (rest.flatMap (fun item => (writesOf item).map (item.id, ·))) := by
  rw [List.flatMap_cons, UserLibrary.applyWrites, List.foldl_append]
  exact congrArg (fun stored => library.applyWrites stored calendar format _)
    (applyWrites_one before item.id (writesOf item))

theorem applyWrites_other (before : Stored) {items : List LibraryItem} {id : String}
    (absent : id ∉ items.map (·.id))
    : library.applyWrites before calendar format
          (items.flatMap (fun item => (writesOf item).map (item.id, ·))) id
      = before id := by
  induction items generalizing before with
  | nil => rfl
  | cons item rest ih =>
      obtain ⟨other, later⟩ := not_or.mp (fun there => absent (List.mem_cons.mpr there))
      rw [applyWrites_cons, ih _ later, Function.update_of_ne other]

theorem applyWrites_item (before : Stored) {items : List LibraryItem}
    (apart : (items.map (·.id)).Nodup) {item : LibraryItem} (member : item ∈ items)
    : library.applyWrites before calendar format
          (items.flatMap (fun item => (writesOf item).map (item.id, ·))) item.id
      = storedAfter calendar format library (writesOf item) (before item.id) := by
  induction items generalizing before with
  | nil => cases member
  | cons first rest ih =>
      obtain ⟨alone, apart⟩ := List.nodup_cons.mp apart
      rw [applyWrites_cons]
      rcases List.mem_cons.mp member with rfl | later
      · rw [applyWrites_other _ alone, Function.update_self]
      · have other : item.id ≠ first.id :=
          fun same => alone (List.mem_map.mpr ⟨item, later, same⟩)
        rw [ih _ apart later, Function.update_of_ne other]

theorem values_ids_nodup {byId : ItemsById} (under : UnderIds byId)
    : (byId.values.map (·.id)).Nodup := by
  have same : byId.values.map (·.id) = byId.keys := by
    unfold Dict.values Dict.keys
    rw [List.map_map]
    exact List.map_congr_left (fun (id, item) member =>
      under id item (Dict.mem_items_iff.mp member))
  rw [same]
  exact byId.nodup

end Storing

section Repeating

variable {calendar : Calendar} {format : DateFormat} {rules : Alphabet} {includeResume : Bool}
  {library : UserLibrary} {desired : Dict String PlayState}

variable (calendar format rules includeResume library) in
/-- What is stored after a synchronisation of the library. -/
def afterSync (desired : Dict String PlayState) (stored : Stored) : Stored :=
  (syncUserPlaystateToState calendar rules includeResume desired
    [some (library.server stored rules)]).foldl
    (fun stored pass => library.applyWrites stored calendar format pass.writes) stored

theorem sync_eq {stored : Stored} {byId : ItemsById}
    (read
      : readTargetItems rules includeResume (library.server stored rules) desired.keys = some byId)
    : syncUserPlaystateToState calendar rules includeResume desired
          [some (library.server stored rules)]
      = [passOf calendar rules includeResume desired ∅ byId] := by
  unfold syncUserPlaystateToState
  rw [List.filterMap_cons_some (b := passOf calendar rules includeResume desired ∅ byId)]
  · rfl
  · rw [Option.bind_eq_bind, Option.bind_some, read]
    rfl

theorem MatchedAlike_described (alike : library.MatchedAlike rules desired) {id : String}
    {details : Item} (described : library.Describes rules desired.keys id details)
    : (itemSyncKeys rules details).findSome? desired.get? = library.wanted rules desired id
      ∧ (itemSyncKeys rules details = [] ↔ itemSyncKeys rules (library.details id) = []) := by
  rcases described with rfl | looked
  · exact ⟨rfl, Iff.rfl⟩
  · exact alike id details looked

theorem itemWrites_read (alike : library.MatchedAlike rules desired) {stored : Stored}
    {byId : ItemsById}
    (reflects : Reflects library rules includeResume stored desired.keys byId) {id : String}
    {item : LibraryItem} (found : byId.get? id = some item)
    : itemWrites calendar rules includeResume (matchOf rules desired ∅ item) item
      = match library.wanted rules desired id with
        | some state =>
            matchedWrites calendar includeResume state (library.seen includeResume stored id)
        | none => unmatchedWrites rules includeResume item := by
  obtain ⟨data, described⟩ := reflects.data id item found
  have matched : matchOf rules desired ∅ item = library.wanted rules desired id := by
    rw [matchOf, (MatchedAlike_described alike described).1, Dict.get?_empty, Option.or_none]
  rw [matched, ← data]
  cases library.wanted rules desired id <;> rfl

theorem afterSync_eq (alike : library.MatchedAlike rules desired) {stored : Stored}
    {byId : ItemsById}
    (read
      : readTargetItems rules includeResume (library.server stored rules) desired.keys = some byId)
    (reflects : Reflects library rules includeResume stored desired.keys byId) (id : String)
    : afterSync calendar format rules includeResume library desired stored id
      = if (byId.get? id).isSome then
          match library.wanted rules desired id with
          | some state => matchedOutcome calendar format includeResume library state (stored id)
          | none =>
              unmatchedOutcome includeResume (itemSyncKeys rules (library.details id) = [])
                (stored id)
        else stored id := by
  rw [afterSync, sync_eq read, List.foldl_cons, List.foldl_nil]
  unfold passOf
  dsimp only
  cases found : byId.get? id with
  | none =>
      refine applyWrites_other stored (fun member => ?_)
      obtain ⟨item, inValues, same⟩ := List.mem_map.mp member
      have there := reflects.under.get?_label inValues
      rw [same, found] at there
      cases there
  | some item =>
      have same := reflects.under id item found
      subst same
      obtain ⟨data, described⟩ := reflects.data item.id item found
      have reflecting : Reflecting item.userData (stored item.id) :=
        data ▸ seen_reflecting library includeResume stored item.id
      refine (applyWrites_item stored (values_ids_nodup reflects.under)
        (Dict.mem_values_iff.mpr ⟨item.id, found⟩)).trans ?_
      rw [itemWrites_read alike reflects found, Option.isSome_some, if_pos rfl]
      cases library.wanted rules desired item.id with
      | some state =>
          exact storedAfter_matchedWrites (seen_reflecting library includeResume stored item.id)
      | none =>
          dsimp only
          rw [storedAfter_unmatchedWrites reflecting,
            decide_eq_decide.mpr (MatchedAlike_described alike described).2]

theorem passOf_quiet_iff {byId : ItemsById}
    : (passOf calendar rules includeResume desired ∅ byId).writes = []
      ↔ ∀ id item,
          byId.get? id = some item
          → itemWrites calendar rules includeResume (matchOf rules desired ∅ item) item = [] := by
  unfold passOf
  rw [List.flatMap_eq_nil_iff]
  simp only [List.map_eq_nil_iff, Dict.mem_values_iff]
  constructor
  · intro quiet id item found
    exact quiet item ⟨id, found⟩
  · rintro quiet item ⟨id, found⟩
    exact quiet id item found

theorem listed_matchedOutcome {state : PlayState} {stored : StoredPlaystate}
    : (matchedOutcome calendar format includeResume library state stored).Listed includeResume
      ↔ state.played = true ∨ includeResume = true ∧ 0 < state.position := by
  unfold matchedOutcome StoredPlaystate.Listed
  dsimp only
  refine or_congr_right (and_congr_right (fun asked => ?_))
  rw [if_pos asked]

theorem listed_unmatchedOutcome {keyless : Bool} {stored : StoredPlaystate}
    : (unmatchedOutcome includeResume keyless stored).Listed includeResume
      ↔ stored.played = true ∧ keyless = true := by
  unfold unmatchedOutcome StoredPlaystate.Listed
  dsimp only
  rw [Bool.and_eq_true]
  refine or_iff_left (fun there => ?_)
  rw [if_pos there.1] at there
  exact absurd there.2 (lt_irrefl 0)

theorem read_quiet_iff (shows : library.ShowsSeconds calendar format)
    (alike : library.MatchedAlike rules desired) {stored after : Stored} {byId : ItemsById}
    (reflects : Reflects library rules includeResume after desired.keys byId)
    {id : String}
    (isSome
      : (byId.get? id).isSome = true
        ↔ library.Reads rules desired.keys id ((after id).Listed includeResume))
    (left_
      : after id
        = match library.wanted rules desired id with
          | some state => matchedOutcome calendar format includeResume library state (stored id)
          | none =>
              unmatchedOutcome includeResume (itemSyncKeys rules (library.details id) = [])
                (stored id))
    : (∀ item,
        byId.get? id = some item
        → itemWrites calendar rules includeResume (matchOf rules desired ∅ item) item = [])
      ↔ library.Settles calendar format rules includeResume desired id (stored id) := by
  unfold UserLibrary.Settles
  cases wanted : library.wanted rules desired id with
  | some state =>
      rw [wanted] at left_
      dsimp only at left_ ⊢
      rw [left_, UserLibrary.Reads, listed_matchedOutcome] at isSome
      rw [UserLibrary.Reads, ← isSome, ← matched_quiet_iff shows left_]
      constructor
      · intro quiet there
        obtain ⟨item, found⟩ := Option.isSome_iff_exists.mp there
        have none_ := quiet item found
        rw [itemWrites_read alike reflects found, wanted] at none_
        exact none_
      · intro quiet item found
        rw [itemWrites_read alike reflects found, wanted]
        exact quiet (found ▸ rfl)
  | none =>
      rw [wanted] at left_
      dsimp only at left_ ⊢
      rw [left_, UserLibrary.Reads, listed_unmatchedOutcome, decide_eq_true_iff] at isSome
      rw [UserLibrary.Reads, ← isSome]
      have writes {item : LibraryItem} (found : byId.get? id = some item)
          : itemWrites calendar rules includeResume (matchOf rules desired ∅ item) item = []
            ↔ includeResume = false ∨ library.showsHidden = true := by
        have same := reflects.under id item found
        obtain ⟨data, described⟩ := reflects.data id item found
        rw [itemWrites_read alike reflects found, wanted]
        obtain ⟨_, details, userData⟩ := item
        dsimp only at same data described ⊢
        subst same data
        rw [← decide_eq_decide.mpr (MatchedAlike_described alike described).2] at left_
        exact unmatched_quiet_iff left_
      constructor
      · intro quiet there
        obtain ⟨item, found⟩ := Option.isSome_iff_exists.mp there
        exact (writes found).mp (quiet item found)
      · exact fun settles item found => (writes found).mpr (settles (found ▸ rfl))

end Repeating

def halfSecondCalendar : Calendar where
  fromisoformat text :=
    if text = "2024-01-01T00:00:00+00:00" then some (1704067200 * second)
    else if text = "2024-01-01T00:00:00.500000+00:00" then
      some (1704067200 * second + 500000)
    else none

def secondsFormat : DateFormat := ⟨fun _ => false, fun _ => "20240101000000"⟩

/-- A library of one movie with an id of a provider, which searches do not list. -/
def movieLibrary : UserLibrary where
  ids := ["movie"]
  named := by decide
  details _ :=
    itemOf
      [ ("Type", .text "Movie"),
        ("ProviderIds", .ofDict ((∅ : Document).set "tmdb" (.text "9"))) ]
  items _ := []
  episodes _ _ := []
  showsHidden := false
  shownDate _ := newYear

def watchedAt (date : String) : Dict String PlayState :=
  (∅ : Dict String PlayState).set "tmdb:9" ⟨true, some date, 0, none⟩

/-- The movie is played, at another time. -/
def playedOnce : Stored := fun _ => ⟨true, 0, none, false⟩

theorem movieLibrary_showsSeconds
    : movieLibrary.ShowsSeconds halfSecondCalendar secondsFormat := by
  intro text time read
  have start
      : parseEmbyDatetime halfSecondCalendar (some newYear) = some (1704067200 * second) := by
    decide
  change parseEmbyDatetime halfSecondCalendar (some newYear) = _
  unfold halfSecondCalendar at read
  dsimp only at read
  rw [start]
  split at read
  · cases read
    decide
  · split at read
    · cases read
      decide
    · cases read

theorem movieLibrary_matchedAlike (date : String)
    : movieLibrary.MatchedAlike plainRules (watchedAt date) := by
  rintro id details ⟨-, looked⟩
  have keys : (watchedAt date).keys = ["tmdb:9"] := rfl
  have provided : isProviderKey "tmdb:9" = true := by decide
  rw [keys] at looked
  rcases looked with ⟨found, answer, item, member, -⟩ | ⟨key, member, named, -⟩
  · have empty
        : (providedItems (movieLibrary.server unwatched plainRules)
            (["tmdb:9"].filter isProviderKey)).map List.length = some 0 := by
      decide
    rw [answer, Option.map_some, Option.some.injEq, List.length_eq_zero_iff] at empty
    rw [empty] at member
    cases member
  · rw [List.mem_singleton.mp member, provided] at named
    cases named

end OctoHubs.UserItems
