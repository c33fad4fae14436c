import OctoHubs.Library.Rereading
import OctoHubs.Requests.ScanTargets

/-! Targets of a scan are merged like sets and written down without loss. A list of seasons that
names none which can be used counts as all of them.
-/

namespace OctoHubs.Requests

open OctoHubs.Library

variable {alphabet : Alphabet}

-- Joined specifications

/-- A specification asks for all that the others ask for, and for nothing else. -/
structure IsUnion (specs : List TargetSpec) (whole : TargetSpec) : Prop where
  all : whole.seasons = none ↔ ∃ spec ∈ specs, spec.seasons = none
  named
    : ∀ seasons,
        whole.seasons = some seasons →
          ∀ season,
            season ∈ seasons
            ↔ ∃ spec ∈ specs, ∃ asked, spec.seasons = some asked ∧ season ∈ asked
  force : whole.force = true ↔ ∃ spec ∈ specs, spec.force = true

theorem IsUnion.single (spec : TargetSpec) : IsUnion [spec] spec where
  all := by simp
  named := by
    intro seasons here season
    simp [here]
  force := by simp

theorem IsUnion.join {specs : List TargetSpec} {whole : TargetSpec}
    (union : IsUnion specs whole) (spec : TargetSpec)
    : IsUnion (specs ++ [spec]) (TargetSpec.join (some whole) spec) := by
  have all := union.all
  have force := union.force
  refine ⟨?_, ?_, ?_⟩
  · cases first : whole.seasons with
    | none =>
        obtain ⟨other, member, open_⟩ := all.mp first
        simp only [TargetSpec.join, first, Option.bind_none, true_iff]
        exact ⟨other, List.mem_append_left _ member, open_⟩
    | some seasons =>
        have none_ : ¬∃ other ∈ specs, other.seasons = none := by
          rw [← all, first]
          exact Option.some_ne_none seasons
        simp only [not_exists, not_and] at none_
        cases spec.seasons <;> simp_all [TargetSpec.join]
  · intro seasons joined season
    cases first : whole.seasons with
    | none => simp [TargetSpec.join, first] at joined
    | some before =>
        cases second : spec.seasons with
        | none => simp [TargetSpec.join, first, second] at joined
        | some after =>
            have joined : before ∪ after = seasons := by
              simpa [TargetSpec.join, first, second] using joined
            rw [← joined, Finset.mem_union, union.named before first season]
            simp only [List.mem_append, List.mem_singleton, or_and_right, exists_or,
              exists_eq_left, second, Option.some.injEq, exists_eq_left']
  · simp only [TargetSpec.join, Bool.or_eq_true, force, List.mem_append, List.mem_singleton,
      or_and_right, exists_or, exists_eq_left]

theorem exists_joinValues {specs values : List TargetSpec} {current : TargetSpec}
    (union : IsUnion specs current)
    : ∃ whole,
        joinValues TargetSpec.join (some current) values = some whole
        ∧ IsUnion (specs ++ values) whole := by
  induction values generalizing specs current with
  | nil => exact ⟨current, rfl, by rwa [List.append_nil]⟩
  | cons value values ih =>
      obtain ⟨whole, joined, next⟩ := ih (union.join value)
      exact ⟨whole, joined, by simpa using next⟩

theorem joinValues_eq_some {values : List TargetSpec} {whole : TargetSpec}
    (joined : joinValues TargetSpec.join none values = some whole)
    : values ≠ [] ∧ IsUnion values whole := by
  cases values with
  | nil => cases joined
  | cons value values =>
      obtain ⟨other, same, union⟩ := @exists_joinValues [value] values value (.single value)
      have here : some whole = some other := joined.symm.trans same
      cases here
      exact ⟨List.cons_ne_nil _ _, union⟩

theorem joinValues_eq_none_iff {values : List TargetSpec}
    : joinValues TargetSpec.join none values = none ↔ values = [] := by
  cases values with
  | nil => simp [joinValues]
  | cons value values =>
      obtain ⟨other, same, -⟩ := @exists_joinValues [value] values value (.single value)
      have here : joinValues TargetSpec.join none (value :: values) = some other := same
      simp [here]

theorem join_commutes (stored : Option TargetSpec) (left right : TargetSpec)
    : TargetSpec.join (some (TargetSpec.join stored left)) right
      = TargetSpec.join (some (TargetSpec.join stored right)) left := by
  cases stored with
  | none =>
      cases first : left.seasons <;> cases second : right.seasons <;>
        simp [TargetSpec.join, first, second, Finset.union_comm, Bool.or_comm]
  | some stored =>
      obtain ⟨before, force⟩ := stored
      obtain ⟨first, leftForce⟩ := left
      obtain ⟨second, rightForce⟩ := right
      simp only [TargetSpec.join, TargetSpec.mk.injEq]
      refine ⟨?_, Bool.or_right_comm _ _ _⟩
      cases before with
      | none => rfl
      | some before =>
          cases first <;> cases second <;>
            simp [Finset.union_right_comm before, -Finset.union_assoc]

-- What entries ask for

/-- The seasons that a value asks for. A list asks for those that it names, even if it names none
that can be used.
-/
def askedSeasons (alphabet : Alphabet) (value : Json) : Option (Finset Int) :=
  match loopItems? value with
  | some items => readSeasons alphabet ∅ items
  | none => normalizeSeasonSpec alphabet value

/-- The seasons that an entry asks for; a bare request asks for all of them. -/
def askedOf (alphabet : Alphabet) (entry : Json) : Option (Finset Int) :=
  entry.asDict?.bind (fun fields => askedSeasons alphabet (fields.field "seasons"))

def Asks (alphabet : Alphabet) (entry : Json) (requestId : String)
    (seasons : Option (Finset Int))
    : Prop :=
  (∃ spec, readTarget alphabet entry = some (requestId, spec))
  ∧ askedOf alphabet entry = seasons

/-- The entry asks for the request to be scanned by force. -/
def Forces (alphabet : Alphabet) (entry : Json) (requestId : String) : Prop :=
  ∃ spec, readTarget alphabet entry = some (requestId, spec) ∧ spec.force = true

theorem normalizeSeasonSpec_eq (value : Json)
    : normalizeSeasonSpec alphabet value
      = (askedSeasons alphabet value).filter (fun seasons => seasons ≠ ∅) := by
  unfold askedSeasons
  cases value with
  | null => rfl
  | bool value => rfl
  | int number => simp [loopItems?, Json.asList?, Json.asDict?, normalizeSeasonSpec, Option.filter]
  | float number shown =>
      simp [loopItems?, Json.asList?, Json.asDict?, normalizeSeasonSpec, Option.filter]
  | text text =>
      simp only [loopItems?, Json.asList?, Json.asDict?, normalizeSeasonSpec, Option.map_none,
        Option.or_none]
      split
      · rfl
      · cases alphabet.readInt? (strip text) <;> simp [Option.filter]
  | list length values => rfl
  | object keys unique values => rfl

/-- The name of a request is shown, and without whitespace at its ends. -/
def IsRequestId (requestId : String) : Prop := requestId ≠ "" ∧ strip requestId = requestId

theorem targetOf_spec {value : Json} {spec : TargetSpec} {target : String × TargetSpec}
    (read : targetOf alphabet value spec = some target)
    : IsRequestId target.1 ∧ target.2 = spec := by
  dsimp only [targetOf] at read
  split at read
  · cases read
  · next shown =>
      cases read
      exact ⟨⟨shown, strip_strip _⟩, rfl⟩

theorem readFields_spec {fields : Document} {target : String × TargetSpec}
    (read : readFields alphabet fields = some target)
    : IsRequestId target.1
      ∧ target.2.seasons = normalizeSeasonSpec alphabet (fields.field "seasons") := by
  dsimp only [readFields] at read
  split at read
  · cases read
  · obtain ⟨named, same⟩ := targetOf_spec read
    exact ⟨named, congrArg TargetSpec.seasons same⟩

theorem readTarget_spec {entry : Json} {target : String × TargetSpec}
    (read : readTarget alphabet entry = some target)
    : IsRequestId target.1
      ∧ target.2.seasons = (askedOf alphabet entry).filter (fun seasons => seasons ≠ ∅) := by
  have bare (read : targetOf alphabet entry ⟨none, false⟩ = some target)
      (shape : entry.asDict? = none)
      : IsRequestId target.1
        ∧ target.2.seasons = (askedOf alphabet entry).filter (fun seasons => seasons ≠ ∅) := by
    obtain ⟨named, same⟩ := targetOf_spec read
    refine ⟨named, ?_⟩
    rw [same, askedOf, shape]
    rfl
  unfold readTarget at read
  cases entry with
  | int number => exact bare read rfl
  | bool value => exact bare read rfl
  | text text => exact bare read rfl
  | null => cases read
  | float number shown => cases read
  | list length values => cases read
  | object keys unique values =>
      obtain ⟨fields, dict, found⟩ := Option.bind_eq_some_iff.mp read
      rw [askedOf, dict, Option.bind_some, ← normalizeSeasonSpec_eq]
      exact readFields_spec found

-- Merged targets

/-- What is asked of a request. -/
def specOf (targetMap : Option TargetMap) (requestId : String) : Option TargetSpec :=
  targetMap.bind (·.get? requestId)

/-- Merged targets do not show the order of the entries, ask for the seasons that some entry asks
for and no others, force where some entry forces, and come back from their written form.
-/
structure MergesLikeUnion (alphabet : Alphabet) (entries : List Json)
    (targetMap : Option TargetMap)
    : Prop where
  ordered
    : ∀ others,
        others.Perm entries →
          ∃ other,
            normalizeScanTargets alphabet (.ofList others) = .ok other
            ∧ ∀ requestId, specOf other requestId = specOf targetMap requestId
  requested
    : ∀ requestId,
        (specOf targetMap requestId).isSome = true
        ↔ ∃ entry ∈ entries, ∃ seasons, Asks alphabet entry requestId seasons
  all
    : ∀ requestId spec,
        specOf targetMap requestId = some spec →
          (spec.seasons = none ↔ ∃ entry ∈ entries, Asks alphabet entry requestId none)
  named
    : ∀ requestId spec seasons,
        specOf targetMap requestId = some spec → spec.seasons = some seasons →
          ∀ season,
            season ∈ seasons
            ↔ ∃ entry ∈ entries, ∃ asked,
                Asks alphabet entry requestId (some asked) ∧ season ∈ asked
  force
    : ∀ requestId spec,
        specOf targetMap requestId = some spec →
          (spec.force = true ↔ ∃ entry ∈ entries, Forces alphabet entry requestId)
  written : normalizeScanTargets alphabet (serializeTargetMap targetMap) = .ok targetMap

def mergedTargets (alphabet : Alphabet) (entries : List Json) : TargetMap :=
  joinEntries TargetSpec.join ∅ (entries.filterMap (readTarget alphabet))

/-- A dictionary, where an empty one is nothing. -/
def foundTargets (targetMap : TargetMap) : Option TargetMap :=
  if targetMap.items = [] then none else some targetMap

variable {entries : List Json} {requestId : String} {spec : TargetSpec}

theorem normalize_ofList (entries : List Json)
    : normalizeScanTargets alphabet (.ofList entries)
      = .ok (foundTargets (mergedTargets alphabet entries)) := by
  cases entries with
  | nil => rfl
  | cons entry entries =>
      have listed : loopItems? (.ofList (entry :: entries)) = some (entry :: entries) := by
        rw [loopItems?, asList?_ofList]
        rfl
      have given : targetEntries (.ofList (entry :: entries)) = .ok (entry :: entries) := by
        show
          (loopItems? (.ofList (entry :: entries))).elim (Except.error "TypeError") Except.ok = _
        rw [listed]
        rfl
      have some_ : (Json.ofList (entry :: entries)).truthy = true := rfl
      rw [normalizeScanTargets, some_, given]
      rfl

theorem specOf_foundTargets (targetMap : TargetMap)
    : specOf (foundTargets targetMap) requestId = targetMap.get? requestId := by
  unfold foundTargets
  split
  · next none_ =>
      cases stored : targetMap.get? requestId with
      | none => rfl
      | some spec =>
          have member := Dict.mem_items_iff.mpr stored
          rw [none_] at member
          cases member
  · rfl

theorem mem_specs_iff
    : spec ∈ dataOf requestId (entries.filterMap (readTarget alphabet))
      ↔ ∃ entry ∈ entries, readTarget alphabet entry = some (requestId, spec) := by
  rw [mem_dataOf_iff, List.mem_filterMap]

theorem mergedTargets_spec (stored : (mergedTargets alphabet entries).get? requestId = some spec)
    : IsUnion (dataOf requestId (entries.filterMap (readTarget alphabet))) spec := by
  rw [mergedTargets, get?_joinEntries] at stored
  exact (joinValues_eq_some stored).2

theorem mergedTargets_isSome_iff
    : ((mergedTargets alphabet entries).get? requestId).isSome = true
      ↔ ∃ entry ∈ entries, ∃ spec, readTarget alphabet entry = some (requestId, spec) := by
  rw [mergedTargets, get?_joinEntries, Option.isSome_iff_ne_none, Dict.get?_empty, ne_eq,
    joinValues_eq_none_iff, List.eq_nil_iff_forall_not_mem, not_forall]
  simp only [not_not, mem_specs_iff]
  constructor
  · rintro ⟨spec, entry, member, read⟩
    exact ⟨entry, member, spec, read⟩
  · rintro ⟨entry, member, spec, read⟩
    exact ⟨spec, entry, member, read⟩

-- Written targets

theorem readSeasons_ints (seasons : Finset Int) (numbers : List Int)
    : readSeasons alphabet seasons (numbers.map Json.int) = some (seasons ∪ numbers.toFinset) := by
  induction numbers generalizing seasons with
  | nil => simp [readSeasons]
  | cons number numbers ih =>
      have next
          : readSeasons alphabet seasons ((number :: numbers).map Json.int)
            = readSeasons alphabet (insert number seasons) (numbers.map Json.int) :=
        rfl
      rw [next, ih, List.toFinset_cons, Finset.insert_union, Finset.union_insert]

theorem normalizeSeasonSpec_serialize {seasons : Option (Finset Int)} (some_ : seasons ≠ some ∅)
    : normalizeSeasonSpec alphabet (serializeSeasons seasons) = seasons := by
  cases seasons with
  | none => rfl
  | some seasons =>
      have named : seasons ≠ ∅ := fun bare => some_ (congrArg some bare)
      have listed
          : askedSeasons alphabet (serializeSeasons (some seasons)) = some seasons := by
        rw [serializeSeasons, if_neg named, askedSeasons, loopItems?, asList?_ofList,
          Option.some_or]
        dsimp only
        rw [readSeasons_ints, Finset.empty_union, Finset.sort_toFinset]
      rw [normalizeSeasonSpec_eq, listed]
      simp [Option.filter, named]

theorem readTarget_serialize {item : String × TargetSpec} (named : IsRequestId item.1)
    (some_ : item.2.seasons ≠ some ∅)
    : readTarget alphabet (serializeTarget item) = some item := by
  obtain ⟨requestId, seasons, force⟩ := item
  have shown : requestId ≠ "" := named.1
  have settled : strip requestId = requestId := named.2
  have read := @normalizeSeasonSpec_serialize alphabet _ some_
  have byFields (fields : Document)
      : readTarget alphabet (.ofDict fields)
        = (Json.ofDict fields).asDict?.bind (readFields alphabet) :=
    rfl
  rw [serializeTarget, byFields, Json.asDict?_ofDict, Option.bind_some]
  simp [readFields, targetOf, Document.field, Dict.get?, lookupItems, Json.truthy, shown,
    Json.asText, settled, read]

theorem mergedTargets_written (item : String × TargetSpec)
    (member : item ∈ (mergedTargets alphabet entries).items)
    : readTarget alphabet (serializeTarget item) = some item := by
  have stored := Dict.mem_items_iff.mp member
  have union := mergedTargets_spec stored
  obtain ⟨entry, given, spec, read⟩ := mergedTargets_isSome_iff.mp (by rw [stored]; rfl)
  refine readTarget_serialize (readTarget_spec read).1 ?_
  intro bare
  -- some specification is merged, and it asks for all seasons or for one
  have listed := mem_specs_iff.mpr ⟨entry, given, read⟩
  have seasons := (readTarget_spec read).2
  cases asked : spec.seasons with
  | none =>
      have all := union.all.mpr ⟨spec, listed, asked⟩
      rw [all] at bare
      cases bare
  | some numbers =>
      have asked' : (askedOf alphabet entry).filter (fun seasons => seasons ≠ ∅) = some numbers :=
        seasons.symm.trans asked
      have named : numbers ≠ ∅ := by
        have held := (Option.filter_eq_some_iff.mp asked').2
        simpa using held
      obtain ⟨season, inside⟩ := Finset.nonempty_iff_ne_empty.mpr named
      have inWhole := (union.named ∅ bare season).mpr ⟨spec, listed, numbers, asked, inside⟩
      cases inWhole

theorem normalize_serialize (entries : List Json)
    : normalizeScanTargets alphabet
          (serializeTargetMap (foundTargets (mergedTargets alphabet entries)))
      = .ok (foundTargets (mergedTargets alphabet entries)) := by
  by_cases none_ : (mergedTargets alphabet entries).items = []
  · rw [foundTargets, if_pos none_]
    rfl
  · have read
        : ((mergedTargets alphabet entries).items.map serializeTarget).filterMap
            (readTarget alphabet)
          = (mergedTargets alphabet entries).items := by
      rw [List.filterMap_map]
      exact (List.filterMap_congr mergedTargets_written).trans List.filterMap_some
    have again
        : mergedTargets alphabet ((mergedTargets alphabet entries).items.map serializeTarget)
          = mergedTargets alphabet entries := by
      show joinEntries TargetSpec.join ∅ _ = _
      rw [read]
      exact joinEntries_items (fun _ => rfl) _
    rw [foundTargets, if_neg none_, serializeTargetMap]
    rw [if_neg none_, normalize_ofList, again, foundTargets, if_neg none_]

-- The merge

/-- What the entries read as, whatever is asked. -/
theorem mem_specs_asks
    : spec ∈ dataOf requestId (entries.filterMap (readTarget alphabet))
      ↔ ∃ entry ∈ entries,
          readTarget alphabet entry = some (requestId, spec)
          ∧ Asks alphabet entry requestId (askedOf alphabet entry) := by
  rw [mem_specs_iff]
  constructor
  · rintro ⟨entry, member, read⟩
    exact ⟨entry, member, read, ⟨spec, read⟩, rfl⟩
  · rintro ⟨entry, member, read, -⟩
    exact ⟨entry, member, read⟩

theorem merged_all_iff (stored : (mergedTargets alphabet entries).get? requestId = some spec)
    : spec.seasons = none
      ↔ ∃ entry ∈ entries,
          Asks alphabet entry requestId none ∨ Asks alphabet entry requestId (some ∅) := by
  rw [(mergedTargets_spec stored).all]
  constructor
  · rintro ⟨other, listed, whole⟩
    obtain ⟨entry, member, read, asks⟩ := mem_specs_asks.mp listed
    have filtered := (readTarget_spec read).2.symm.trans whole
    refine ⟨entry, member, ?_⟩
    cases asked : askedOf alphabet entry with
    | none => exact .inl (asked ▸ asks)
    | some seasons =>
        rw [asked] at filtered asks
        have bare : seasons = ∅ := by simpa [Option.filter] using filtered
        exact .inr (bare ▸ asks)
  · rintro ⟨entry, member, asks⟩
    have open_ : (askedOf alphabet entry).filter (fun seasons => seasons ≠ ∅) = none := by
      rcases asks with asks | asks <;> simp [asks.2, Option.filter]
    obtain ⟨other, read⟩ : ∃ other, readTarget alphabet entry = some (requestId, other) :=
      asks.elim And.left And.left
    exact ⟨other, mem_specs_iff.mpr ⟨entry, member, read⟩, (readTarget_spec read).2.trans open_⟩

theorem merged_named_iff {seasons : Finset Int} {season : Int}
    (stored : (mergedTargets alphabet entries).get? requestId = some spec)
    (named : spec.seasons = some seasons)
    : season ∈ seasons
      ↔ ∃ entry ∈ entries, ∃ asked,
          Asks alphabet entry requestId (some asked) ∧ season ∈ asked := by
  rw [(mergedTargets_spec stored).named seasons named]
  constructor
  · rintro ⟨other, listed, asked, here, inside⟩
    obtain ⟨entry, member, read, asks⟩ := mem_specs_asks.mp listed
    have filtered := (readTarget_spec read).2.symm.trans here
    have same := (Option.filter_eq_some_iff.mp filtered).1
    exact ⟨entry, member, asked, same ▸ asks, inside⟩
  · rintro ⟨entry, member, asked, ⟨⟨other, read⟩, same⟩, inside⟩
    refine ⟨other, mem_specs_iff.mpr ⟨entry, member, read⟩, asked, ?_, inside⟩
    have some_ : asked ≠ ∅ := Finset.ne_empty_of_mem inside
    exact (readTarget_spec read).2.trans (by simp [same, Option.filter, some_])

theorem merged_force_iff (stored : (mergedTargets alphabet entries).get? requestId = some spec)
    : spec.force = true ↔ ∃ entry ∈ entries, Forces alphabet entry requestId := by
  rw [(mergedTargets_spec stored).force]
  constructor
  · rintro ⟨other, listed, forced⟩
    obtain ⟨entry, member, read⟩ := mem_specs_iff.mp listed
    exact ⟨entry, member, other, read, forced⟩
  · rintro ⟨entry, member, other, read, forced⟩
    exact ⟨other, mem_specs_iff.mpr ⟨entry, member, read⟩, forced⟩

theorem merged_ordered {others : List Json} (perm : others.Perm entries)
    : (mergedTargets alphabet others).get? requestId
      = (mergedTargets alphabet entries).get? requestId :=
  get?_joinEntries_perm join_commutes (perm.filterMap _) ∅

theorem requested_iff
    : (∃ spec, (mergedTargets alphabet entries).get? requestId = some spec)
      ↔ ∃ entry ∈ entries, ∃ seasons, Asks alphabet entry requestId seasons := by
  rw [← Option.isSome_iff_exists, mergedTargets_isSome_iff]
  constructor
  · rintro ⟨entry, member, read⟩
    exact ⟨entry, member, askedOf alphabet entry, read, rfl⟩
  · rintro ⟨entry, member, -, read, -⟩
    exact ⟨entry, member, read⟩

/-- Entries are merged like sets exactly if every request that some entry asks no seasons of is
also asked for as a whole.
-/
theorem targets_merge_iff (alphabet : Alphabet) (entries : List Json)
    : ∃ result,
        normalizeScanTargets alphabet (.ofList entries) = .ok result
        ∧ (MergesLikeUnion alphabet entries result
          ↔ ∀ entry ∈ entries, ∀ requestId,
              Asks alphabet entry requestId (some ∅) →
                ∃ other ∈ entries, Asks alphabet other requestId none) := by
  refine ⟨_, normalize_ofList entries, ?_, ?_⟩
  · intro merged entry member requestId asks
    obtain ⟨spec, stored⟩ := requested_iff.mpr ⟨entry, member, _, asks⟩
    have found := (specOf_foundTargets _).trans stored
    exact
      (merged.all requestId spec found).mp
        ((merged_all_iff stored).mpr ⟨entry, member, .inr asks⟩)
  · intro covered
    refine
      { ordered := ?_, requested := ?_, all := ?_, named := ?_, force := ?_,
        written := normalize_serialize entries }
    · intro others perm
      refine ⟨_, normalize_ofList others, fun requestId => ?_⟩
      rw [specOf_foundTargets, specOf_foundTargets, merged_ordered perm]
    · intro requestId
      rw [specOf_foundTargets, Option.isSome_iff_exists, requested_iff]
    · intro requestId spec found
      have stored := (specOf_foundTargets _).symm.trans found
      rw [merged_all_iff stored]
      constructor
      · rintro ⟨entry, member, whole | bare⟩
        · exact ⟨entry, member, whole⟩
        · exact covered entry member requestId bare
      · rintro ⟨entry, member, whole⟩
        exact ⟨entry, member, .inl whole⟩
    · intro requestId spec seasons found named season
      exact merged_named_iff ((specOf_foundTargets _).symm.trans found) named
    · intro requestId spec found
      exact merged_force_iff ((specOf_foundTargets _).symm.trans found)

/-- The number that digits spell. -/
def digitsAlphabet : Alphabet where
  lower := id
  isAlphanumeric := Char.isAlphanum
  readInt? text :=
    if text ≠ "" ∧ text.toList.all Char.isDigit then
      some (text.toList.foldl (fun number digit => 10 * number + (digit.toNat - 48)) 0)
    else none
  showNested _ := ""

/-- A request of which no season that can be used is asked for. -/
def unusableSeasons : Json :=
  .ofDict ⟨[("request_id", .text "7"), ("seasons", .ofList [.text "S01"])], by decide⟩

/-- The request is scanned whole, though no entry asks for all of it. -/
theorem unusable_seasons_widen
    : ¬∃ result,
        normalizeScanTargets digitsAlphabet (.ofList [unusableSeasons]) = .ok result
        ∧ MergesLikeUnion digitsAlphabet [unusableSeasons] result := by
  rintro ⟨result, merged, union⟩
  have whole
      : (mergedTargets digitsAlphabet [unusableSeasons]).get? "7" = some ⟨none, false⟩ := by
    decide
  have asked : askedOf digitsAlphabet unusableSeasons = some ∅ := by decide
  cases (normalize_ofList [unusableSeasons]).symm.trans merged
  obtain ⟨entry, member, asks⟩ :=
    (union.all "7" _ ((specOf_foundTargets _).trans whole)).mp rfl
  rw [List.mem_singleton.mp member] at asks
  cases asked.symm.trans asks.2

end OctoHubs.Requests
