import OctoHubs.Requests.SeasonStates

/-! Which numbers are read from the entries of a request. The keys of a number are tried in turn
and a value that counts as false is passed over, so a zero is lost unless it stands under the
last key.
-/

namespace OctoHubs.Requests

open OctoHubs.Library

section Numbers

variable (reader : SeasonReader)

/-- Zero, the number that counts as false. -/
def isZero : Json → Bool
  | .int value => value = 0
  | .bool value => value = false
  | _ => false

/-- The first value that counts as true or is zero, or the last one. -/
def firstNamed (payload : Document) : List String → Json
  | [] => .null
  | [key] => Document.field payload key
  | key :: rest =>
      let value := Document.field payload key
      if value.truthy || isZero value then value else firstNamed payload rest

def namedNumber (payload : Document) (keys : List String) : Option Int :=
  tryParseInt reader (firstNamed payload keys)

def readNumber (payload : Document) (keys : List String) : Option Int :=
  tryParseInt reader (anyOf payload keys)

/-- A zero before other keys which do not spell zero as well. -/
def hidesZero (payload : Document) : List String → Bool
  | [] => false
  | [_] => false
  | key :: rest =>
      let value := Document.field payload key
      if value.truthy then false
      else if isZero value then readNumber reader payload rest ≠ some 0
      else hidesZero payload rest

def seasonKeys : List String := ["seasonNumber", "season", "number"]

def episodeKeys : List String := ["episodeNumber", "episode", "number"]

/-- One more entry: a season that is new, and available only when nothing is skipped. -/
def addSeason (skipAvailable : Bool) (numbers : List Int) (entry : Document) : List Int :=
  match seasonNumber reader entry with
  | none => numbers
  | some number =>
      if number ∈ numbers then numbers
      else if skipAvailable && isSeasonEntryAvailable reader entry then numbers
      else numbers ++ [number]

/-- The seasons of a request, without the available ones when they are skipped. -/
def extractSeasons (skipAvailable : Bool) (request : Document) : List Int :=
  (collectRequestSeasonPayloads request false).foldl (addSeason reader skipAvailable) []

/-- How an episode is reported, its number apart. -/
def episodeState (entry : Document) : EpisodeState :=
  let release :=
    reader.parseDateValue (anyOf entry ["airDate", "releaseDate", "availableDate", "firstAired"])
  if isEpisodeEntryAvailable reader entry then .available
  else if release.any (reader.now < ·) then .unreleased
  else .pending

/-- How an episode is reported under the number that it names. -/
def namedStatus (entry : Document) : Option EpisodeStatus :=
  (namedNumber reader entry episodeKeys).map (⟨·, episodeState reader entry⟩)

end Numbers

section Reading

variable {reader : SeasonReader} {payload : Document}

theorem tryParseInt_of_isZero {value : Json} (zero : isZero value = true)
    : tryParseInt reader value = some 0 ∧ value.truthy = false := by
  cases value with
  | int value =>
      obtain rfl : value = 0 := by simpa [isZero] using zero
      exact ⟨rfl, rfl⟩
  | bool value =>
      obtain rfl : value = false := by simpa [isZero] using zero
      exact ⟨rfl, rfl⟩
  | _ => cases zero

theorem namedNumber_cons (key next : String) (rest : List String)
    : namedNumber reader payload (key :: next :: rest)
      = if (Document.field payload key).truthy then tryParseInt reader (Document.field payload key)
        else if isZero (Document.field payload key) then some 0
        else namedNumber reader payload (next :: rest) := by
  unfold namedNumber
  rw [firstNamed]
  · by_cases filled : (Document.field payload key).truthy = true
    · simp only [filled, if_true, Bool.true_or]
    · by_cases zero : isZero (Document.field payload key) = true
      · simp only [filled, zero, if_true, Bool.or_true, Bool.false_eq_true, if_false,
          (tryParseInt_of_isZero zero).1]
      · simp only [filled, zero, Bool.false_eq_true, if_false, Bool.or_self]
  · simp

theorem readNumber_cons (key next : String) (rest : List String)
    : readNumber reader payload (key :: next :: rest)
      = if (Document.field payload key).truthy then tryParseInt reader (Document.field payload key)
        else readNumber reader payload (next :: rest) := by
  unfold readNumber
  rw [anyOf]
  · by_cases filled : (Document.field payload key).truthy = true
    · simp only [filled, if_true]
    · simp only [filled, Bool.false_eq_true, if_false]
  · simp

/-- A number is read as it is named unless it is a hidden zero, by induction on the keys. -/
theorem readNumber_eq_namedNumber {keys : List String}
    (shown : hidesZero reader payload keys = false)
    : readNumber reader payload keys = namedNumber reader payload keys := by
  induction keys with
  | nil => rfl
  | cons key rest ih =>
      cases rest with
      | nil => rfl
      | cons next rest =>
          rw [hidesZero] at shown
          · rw [readNumber_cons, namedNumber_cons]
            by_cases filled : (Document.field payload key).truthy = true
            · simp only [filled, if_true]
            · by_cases zero : isZero (Document.field payload key) = true
              · simp only [filled, zero, if_true, Bool.false_eq_true, if_false] at shown ⊢
                simpa using shown
              · simp only [filled, zero, Bool.false_eq_true, if_false] at shown ⊢
                exact ih shown
          · simp

/-- A hidden zero is named and not read, by induction on the keys. -/
theorem namedNumber_of_hidesZero {keys : List String}
    (hidden : hidesZero reader payload keys = true)
    : namedNumber reader payload keys = some 0 ∧ readNumber reader payload keys ≠ some 0 := by
  induction keys with
  | nil => cases hidden
  | cons key rest ih =>
      cases rest with
      | nil => cases hidden
      | cons next rest =>
          rw [hidesZero] at hidden
          · rw [readNumber_cons, namedNumber_cons]
            by_cases filled : (Document.field payload key).truthy = true
            · simp only [filled, if_true] at hidden
              cases hidden
            · by_cases zero : isZero (Document.field payload key) = true
              · simp only [filled, zero, if_true, Bool.false_eq_true, if_false] at hidden ⊢
                exact ⟨trivial, by simpa using hidden⟩
              · simp only [filled, zero, Bool.false_eq_true, if_false] at hidden ⊢
                exact ih hidden
          · simp

end Reading

section Extraction

variable (reader : SeasonReader)

/-- Whether an entry counts: it is not available, or available entries are not skipped. -/
def Counts (skipAvailable : Bool) (entry : Document) : Prop :=
  (skipAvailable && isSeasonEntryAvailable reader entry) = false

def Counted (skipAvailable : Bool) (request entry : Document) : Prop :=
  entry ∈ collectRequestSeasonPayloads request false ∧ Counts reader skipAvailable entry

/-- The seasons are the numbers that the counted entries name, each of them once. -/
def ExtractsExactly (skipAvailable : Bool) (request : Document) : Prop :=
  (extractSeasons reader skipAvailable request).Nodup
  ∧ ∀ number,
      number ∈ extractSeasons reader skipAvailable request
      ↔ ∃ entry,
          Counted reader skipAvailable request entry
          ∧ namedNumber reader entry seasonKeys = some number

/-- Whenever a counted entry hides a zero, other counted entries that hide none name zero and
what is read instead.
-/
def ZerosElsewhere (skipAvailable : Bool) (request : Document) : Prop :=
  ∀ entry,
    Counted reader skipAvailable request entry
    → hidesZero reader entry seasonKeys = true
    → ∀ number,
        some number ∈ [some 0, readNumber reader entry seasonKeys]
        → ∃ other,
            Counted reader skipAvailable request other
            ∧ hidesZero reader other seasonKeys = false
            ∧ namedNumber reader other seasonKeys = some number

variable {reader} {skipAvailable : Bool} {request : Document}

theorem mem_addSeason_iff (numbers : List Int) (entry : Document) (number : Int)
    : number ∈ addSeason reader skipAvailable numbers entry
      ↔ number ∈ numbers
        ∨ Counts reader skipAvailable entry ∧ seasonNumber reader entry = some number := by
  unfold addSeason
  cases read : seasonNumber reader entry with
  | none => simp
  | some found =>
      dsimp only
      rw [Option.some.injEq]
      split
      · next listed =>
          exact ⟨.inl, fun found => found.elim id (fun ⟨_, same⟩ => same ▸ listed)⟩
      · split
        · next skipped => simp [Counts, skipped]
        · next counted =>
            have counts : Counts reader skipAvailable entry := by simpa [Counts] using counted
            rw [List.mem_append, List.mem_singleton]
            exact or_congr_right ⟨fun same => ⟨counts, same.symm⟩, fun ⟨_, same⟩ => same.symm⟩

theorem nodup_addSeason {numbers : List Int} (unique : numbers.Nodup) (entry : Document)
    : (addSeason reader skipAvailable numbers entry).Nodup := by
  unfold addSeason
  cases seasonNumber reader entry with
  | none => exact unique
  | some number =>
      dsimp only
      split
      · exact unique
      · next fresh =>
          split
          · exact unique
          · simpa only [List.concat_eq_append] using unique.concat fresh

theorem mem_foldl_addSeason_iff (entries : List Document) (start : List Int) (number : Int)
    : number ∈ entries.foldl (addSeason reader skipAvailable) start
      ↔ number ∈ start
        ∨ ∃ entry ∈ entries,
            Counts reader skipAvailable entry ∧ seasonNumber reader entry = some number := by
  induction entries generalizing start with
  | nil => simp
  | cons entry entries ih =>
      rw [List.foldl_cons, ih, mem_addSeason_iff, List.exists_mem_cons_iff, or_assoc]

theorem nodup_extractSeasons : (extractSeasons reader skipAvailable request).Nodup := by
  have kept (entries : List Document) (start : List Int) (unique : start.Nodup)
      : (entries.foldl (addSeason reader skipAvailable) start).Nodup := by
    induction entries generalizing start with
    | nil => exact unique
    | cons entry entries ih => exact ih _ (nodup_addSeason unique entry)
  exact kept _ [] List.nodup_nil

theorem mem_extractSeasons_iff (number : Int)
    : number ∈ extractSeasons reader skipAvailable request
      ↔ ∃ entry,
          Counted reader skipAvailable request entry
          ∧ readNumber reader entry seasonKeys = some number := by
  unfold extractSeasons
  rw [mem_foldl_addSeason_iff]
  simp only [List.not_mem_nil, false_or, Counted, and_assoc]
  rfl

theorem mem_extractRequestSeasons_iff (number : Int)
    : number ∈ extractRequestSeasons reader request
      ↔ number ∈ extractSeasons reader false request := by
  have loop (numbers start : List Int)
      : number
          ∈ numbers.foldl
              (fun numbers number => if number ∈ numbers then numbers else numbers ++ [number])
              start
        ↔ number ∈ start ∨ number ∈ numbers := by
    induction numbers generalizing start with
    | nil => simp
    | cons first rest ih =>
        rw [List.foldl_cons, ih, List.mem_cons, ← or_assoc]
        refine or_congr_left ?_
        split
        · next listed => exact ⟨.inl, fun found => found.elim id (fun same => same ▸ listed)⟩
        · rw [List.mem_append, List.mem_singleton]
  unfold extractRequestSeasons
  rw [loop, mem_extractSeasons_iff]
  simp [Counted, Counts, List.mem_filterMap, readNumber, seasonNumber, seasonKeys]

/-- The extraction is exact unless a zero is lost that no other entry names. -/
theorem extractsExactly_iff
    : ExtractsExactly reader skipAvailable request
      ↔ ZerosElsewhere reader skipAvailable request := by
  constructor
  · rintro ⟨-, exact_⟩ entry counted hidden number among
    obtain ⟨zero, lost⟩ := namedNumber_of_hidesZero hidden
    obtain same | later := List.mem_cons.mp among
    · -- zero is named, so it is read from some entry, and that entry hides none
      obtain rfl := Option.some.inj same
      obtain ⟨other, counts, read⟩ :=
        (mem_extractSeasons_iff 0).mp ((exact_ 0).mpr ⟨entry, counted, zero⟩)
      have shown : hidesZero reader other seasonKeys = false :=
        Bool.eq_false_iff.mpr (fun hides => (namedNumber_of_hidesZero hides).2 read)
      exact ⟨other, counts, shown, (readNumber_eq_namedNumber shown).symm.trans read⟩
    · -- what is read instead is not zero, so the entry that names it hides none
      have read : readNumber reader entry seasonKeys = some number :=
        (List.mem_singleton.mp later).symm
      obtain ⟨other, counts, named⟩ :=
        (exact_ number).mp ((mem_extractSeasons_iff number).mpr ⟨entry, counted, read⟩)
      refine ⟨other, counts, Bool.eq_false_iff.mpr (fun hides => ?_), named⟩
      have same := (namedNumber_of_hidesZero hides).1.symm.trans named
      exact lost (read.trans same.symm)
  · intro elsewhere
    refine ⟨nodup_extractSeasons, fun number => ?_⟩
    rw [mem_extractSeasons_iff]
    constructor
    · rintro ⟨entry, counted, read⟩
      cases hidden : hidesZero reader entry seasonKeys with
      | false => exact ⟨entry, counted, readNumber_eq_namedNumber hidden ▸ read⟩
      | true =>
          obtain ⟨other, counts, -, named⟩ :=
            elsewhere entry counted hidden number (by simp [read])
          exact ⟨other, counts, named⟩
    · rintro ⟨entry, counted, named⟩
      cases hidden : hidesZero reader entry seasonKeys with
      | false => exact ⟨entry, counted, (readNumber_eq_namedNumber hidden).trans named⟩
      | true =>
          obtain rfl := Option.some.inj ((namedNumber_of_hidesZero hidden).1.symm.trans named)
          obtain ⟨other, counts, shown, named⟩ :=
            elsewhere entry counted hidden 0 (by simp)
          exact ⟨other, counts, (readNumber_eq_namedNumber shown).trans named⟩

end Extraction

section Episodes

variable (reader : SeasonReader)

def SeasonReader.withTrakt (trakt : Document → Int → Option (List EpisodeStatus)) : SeasonReader :=
  { reader with traktEpisodes := trakt }

/-- Whatever Trakt lists, every episode entry of the best entry of a season that is named has its
record under the number that it names, unless the entry has no episodes with numbers.
-/
def ReportsEpisodes (request : Document) : Prop :=
  ∀ season,
    (∃ entry,
      Counted reader false request entry ∧ namedNumber reader entry seasonKeys = some season)
    → ∀ best,
        bestEntry reader request season = some best
        → (dictsOf (listAt best "episodes")).filterMap (namedStatus reader) ≠ []
        → ∀ trakt,
            (describeEpisodeStatuses (reader.withTrakt trakt) request season).Perm
              ((dictsOf (listAt best "episodes")).filterMap (namedStatus reader))

/-- No episode entry of the best entry of a season that is named hides a zero. -/
def EpisodesShown (request : Document) : Prop :=
  ∀ season,
    (∃ entry,
      Counted reader false request entry ∧ namedNumber reader entry seasonKeys = some season)
    → ∀ best,
        bestEntry reader request season = some best
        → ∀ episode ∈ dictsOf (listAt best "episodes"),
            hidesZero reader episode episodeKeys = false

variable {reader}

theorem describeEpisode_of_shown {episode : Document}
    (shown : hidesZero reader episode episodeKeys = false)
    : describeEpisode reader episode = namedStatus reader episode := by
  unfold describeEpisode namedStatus
  rw [← readNumber_eq_namedNumber shown]
  rfl

/-- A weaker test that holds as often holds of the same items, by induction on them. -/
theorem of_countP_eq {α : Type*} {strong weak : α → Bool} {items : List α}
    (weaker : ∀ item, strong item = true → weak item = true)
    (same : items.countP weak = items.countP strong)
    : ∀ item ∈ items, weak item = true → strong item = true := by
  induction items with
  | nil =>
      intro item member
      cases member
  | cons first rest ih =>
      have fewer : rest.countP strong ≤ rest.countP weak :=
        List.countP_mono_left (fun item _ => weaker item)
      rw [List.countP_cons, List.countP_cons] at same
      intro item member holds
      obtain rfl | later := List.mem_cons.mp member
      · by_contra fails
        rw [if_pos holds, if_neg fails] at same
        omega
      · refine ih ?_ item later holds
        cases stronger : strong first with
        | true =>
            rw [if_pos (weaker first stronger), if_pos stronger] at same
            omega
        | false =>
            have fails : ¬strong first = true := by simp [stronger]
            rw [if_neg fails] at same
            split at same <;> omega

theorem shown_of_perm {entries : List Document}
    (same
      : (entries.filterMap (describeEpisode reader)).Perm
          (entries.filterMap (namedStatus reader)))
    : ∀ entry ∈ entries, hidesZero reader entry episodeKeys = false := by
  have read (entry : Document)
      : ((describeEpisode reader entry).map (fun status => decide (status.episode = 0))).getD false
        = decide (readNumber reader entry episodeKeys = some 0) := by
    unfold describeEpisode
    change ((Option.map _ (readNumber reader entry episodeKeys)).map _).getD false = _
    cases readNumber reader entry episodeKeys <;> simp
  have named (entry : Document)
      : ((namedStatus reader entry).map (fun status => decide (status.episode = 0))).getD false
        = decide (namedNumber reader entry episodeKeys = some 0) := by
    unfold namedStatus
    cases namedNumber reader entry episodeKeys <;> simp
  have counts := same.countP_eq (fun status => decide (status.episode = 0))
  rw [List.countP_filterMap, List.countP_filterMap] at counts
  simp only [read, named] at counts
  intro entry member
  by_contra hides
  have hidden : hidesZero reader entry episodeKeys = true := by simpa using hides
  obtain ⟨zero, lost⟩ := namedNumber_of_hidesZero hidden
  refine lost (of_decide_eq_true (of_countP_eq ?_ counts.symm entry member
    (decide_eq_true zero)))
  intro other isRead
  have readZero := of_decide_eq_true isRead
  cases shown : hidesZero reader other episodeKeys with
  | false => exact decide_eq_true ((readNumber_eq_namedNumber shown).symm.trans readZero)
  | true => exact absurd readZero (namedNumber_of_hidesZero shown).2

theorem describeEpisodeStatuses_of_best {request best : Document} {season : Int}
    (trakt : Document → Int → Option (List EpisodeStatus))
    (requested : season ∈ extractRequestSeasons reader request)
    (chosen : bestEntry reader request season = some best)
    (listed : listAt best "episodes" ≠ [])
    : describeEpisodeStatuses (reader.withTrakt trakt) request season
      = if (dictsOf (listAt best "episodes")).filterMap (describeEpisode reader) = [] then
          (trakt request season).getD []
        else
          ((dictsOf (listAt best "episodes")).filterMap (describeEpisode reader)).insertionSort
            (fun left right => left.episode ≤ right.episode) := by
  have requested_ : season ∈ extractRequestSeasons (reader.withTrakt trakt) request := requested
  have chosen_ : bestEntry (reader.withTrakt trakt) request season = some best := chosen
  have empty_iff (statuses : List EpisodeStatus)
      : statuses.insertionSort (fun left right => left.episode ≤ right.episode) = []
        ↔ statuses = [] := by
    rw [← List.length_eq_zero_iff, List.length_insertionSort, List.length_eq_zero_iff]
  unfold describeEpisodeStatuses
  simp only [requested_, not_true, if_false, chosen_, Option.map_some, Option.getD_some, listed,
    empty_iff]
  rfl

/-- The entries of a season are reported, whatever Trakt lists, if and only if none of them hides
a zero.
-/
theorem reported_iff_shown {request best : Document} {season : Int}
    (requested : season ∈ extractRequestSeasons reader request)
    (chosen : bestEntry reader request season = some best)
    : ((dictsOf (listAt best "episodes")).filterMap (namedStatus reader) ≠ []
        → ∀ trakt,
            (describeEpisodeStatuses (reader.withTrakt trakt) request season).Perm
              ((dictsOf (listAt best "episodes")).filterMap (namedStatus reader)))
      ↔ ∀ episode ∈ dictsOf (listAt best "episodes"),
          hidesZero reader episode episodeKeys = false := by
  have filled
      : (dictsOf (listAt best "episodes")).filterMap (namedStatus reader) ≠ []
        → listAt best "episodes" ≠ [] := by
    intro numbered bare
    rw [bare] at numbered
    exact numbered rfl
  constructor
  · intro reported episode member
    cases hidden : hidesZero reader episode episodeKeys with
    | false => rfl
    | true =>
        have record : namedStatus reader episode = some ⟨0, episodeState reader episode⟩ := by
          unfold namedStatus
          rw [(namedNumber_of_hidesZero hidden).1]
          rfl
        have numbered
            : (dictsOf (listAt best "episodes")).filterMap (namedStatus reader) ≠ [] :=
          List.ne_nil_of_mem (List.mem_filterMap.mpr ⟨episode, member, record⟩)
        have same := reported numbered (fun _ _ => none)
        rw [describeEpisodeStatuses_of_best _ requested chosen (filled numbered)] at same
        split at same
        · exact absurd same.nil_eq.symm numbered
        · have perm := (List.perm_insertionSort _ _).symm.trans same
          rw [shown_of_perm perm episode member] at hidden
          cases hidden
  · intro shown numbered trakt
    have same
        : (dictsOf (listAt best "episodes")).filterMap (describeEpisode reader)
          = (dictsOf (listAt best "episodes")).filterMap (namedStatus reader) :=
      List.filterMap_congr fun episode member => describeEpisode_of_shown (shown episode member)
    rw [describeEpisodeStatuses_of_best trakt requested chosen (filled numbered), same,
      if_neg numbered]
    exact List.perm_insertionSort _ _

/-- The season numbers that are extracted are exactly those that the entries name, and whatever
Trakt lists every episode entry of the best entry of a season is reported, if and only if every
lost zero is made good by other entries and no episode entry of a best entry loses one.
-/
theorem extraction_exact_iff (reader : SeasonReader) (request : Document)
    : ((∀ skipAvailable, ExtractsExactly reader skipAvailable request)
        ∧ ReportsEpisodes reader request)
      ↔ (∀ skipAvailable, ZerosElsewhere reader skipAvailable request)
        ∧ EpisodesShown reader request := by
  simp only [extractsExactly_iff]
  refine and_congr_right fun elsewhere => ?_
  refine forall_congr' fun season => forall_congr' fun named => ?_
  refine forall_congr' fun best => forall_congr' fun chosen => ?_
  have requested : season ∈ extractRequestSeasons reader request :=
    (mem_extractRequestSeasons_iff season).mpr
      (((extractsExactly_iff.mpr (elsewhere false)).2 season).mpr named)
  exact reported_iff_shown requested chosen

/-- A request for the specials and the first season, as bare numbers. -/
def specialsRequest : Document := (∅ : Document).set "seasons" (.ofList [.int 0, .int 1])

/-- Numbers in the digits of ASCII, and no dates. -/
def plainReader : SeasonReader where
  alphabet := ⟨id, Char.isAlphanum, String.toInt?, fun _ => ""⟩
  digits := String.toInt?
  parseDateValue _ := none
  now := 0
  traktEpisodes _ _ := none

/-- The specials are named and not extracted. -/
theorem specialsRequest_loses_zero
    : extractSeasons plainReader false specialsRequest = [1]
      ∧ ¬((∀ skipAvailable, ExtractsExactly plainReader skipAvailable specialsRequest)
          ∧ ReportsEpisodes plainReader specialsRequest) := by
  have seasons : extractSeasons plainReader false specialsRequest = [1] := by decide
  refine ⟨seasons, ?_⟩
  rintro ⟨exact_, -⟩
  have entries
      : collectRequestSeasonPayloads specialsRequest false
        = [(∅ : Document).set "seasonNumber" (.int 0), (∅ : Document).set "seasonNumber" (.int 1)] :=
    rfl
  have listed : (0 : Int) ∈ extractSeasons plainReader false specialsRequest := by
    refine ((exact_ false).2 0).mpr ⟨(∅ : Document).set "seasonNumber" (.int 0), ⟨?_, rfl⟩, ?_⟩
    · rw [entries]
      exact List.mem_cons_self
    · decide
  rw [seasons] at listed
  revert listed
  decide

end Episodes

end OctoHubs.Requests
