import OctoHubs.Latest.EventLinks
import OctoHubs.Library.Text

/-! What a merge with the cache keeps: each publication is shown by a linked entry, unless an entry
of its title with its batch took the place.
-/

namespace OctoHubs.Latest

open OctoHubs.Library LatestEntry

/-- The same item or, where signatures count, the same signature on one server. -/
def SameTitle (bySignature : Bool) (left right : LatestEntry) : Prop :=
  left.itemKey = right.itemKey ∨ bySignature = true ∧ left.signatureKey = right.signatureKey

/-- An entry of the same title with the same batch. -/
def Replaces (bySignature : Bool) (fresh entry : LatestEntry) : Prop :=
  fresh.batchId.get = entry.batchId.get ∧ SameTitle bySignature fresh entry

/-- The fresh entry, with details that may come from the cache. -/
def Placed (fresh entry : LatestEntry) : Prop :=
  ∃ details, entry = { fresh with details := details }

section Places

variable {rules : TextRules} {family : String} {bySignature : Bool}
  {fresh entry other : LatestEntry}

theorem Placed.alike (placed : Placed fresh entry) : Alike rules family fresh entry := by
  obtain ⟨details, rfl⟩ := placed
  exact .of_fields rfl rfl rfl rfl

theorem Placed.replaces_iff (placed : Placed fresh entry)
    : Replaces bySignature other entry ↔ Replaces bySignature other fresh := by
  obtain ⟨details, rfl⟩ := placed
  rfl

theorem Replaces.of_sameAs (replaces : Replaces bySignature fresh entry)
    (same : entry.sameAs other = true)
    : Replaces bySignature fresh other := by
  unfold sameAs at same
  rw [Bool.and_eq_true, decide_eq_true_eq] at same
  have fields := same.1
  simp only [LatestEntry.mk.injEq] at fields
  obtain ⟨server, item, signature, batch, -⟩ := fields
  unfold Replaces SameTitle itemKey signatureKey signatureText itemText serverText at replaces ⊢
  rw [← server, ← item, ← signature, ← batch]
  exact replaces

theorem mem_set_or_eq {α : Type*} {items : List α} {item : α} (member : item ∈ items)
    (index : Nat) (value : α)
    : item ∈ items.set index value ∨ items[index]? = some item := by
  obtain ⟨place, inRange, rfl⟩ := List.getElem_of_mem member
  by_cases here : place = index
  · subst here
    exact Or.inr (List.getElem?_eq_getElem inRange)
  · apply Or.inl
    apply List.mem_of_getElem?
    rw [List.getElem?_set_ne (Ne.symm here)]
    exact List.getElem?_eq_getElem inRange

end Places

/-- Matches agree in the batch and the title, and lookups in the title. -/
structure MatchesTitles (bySignature : Bool) (matches_ : LatestEntry → LatestEntry → Bool)
    (lookup : LatestEntry → Option LatestEntry)
    : Prop where
  batch
    : ∀ {fresh entry : LatestEntry},
        matches_ fresh entry = true → Replaces bySignature fresh entry
  title
    : ∀ {fresh entry : LatestEntry}, lookup fresh = some entry → SameTitle bySignature fresh entry

section Fresh

variable {rules : TextRules} {details : DetailRules} {bySignature : Bool}
  {matches_ : LatestEntry → LatestEntry → Bool} {lookup : LatestEntry → Option LatestEntry}
  {merged : MergedEntries} {fresh : LatestEntry}

theorem mergeFresh_spec (rules : TextRules) (details : DetailRules) (merged : MergedEntries)
    (fresh : LatestEntry) (titles : MatchesTitles bySignature matches_ lookup)
    : ∃ entry,
        Placed fresh entry
        ∧ (mergeFresh rules details matches_ lookup merged fresh = merged ++ [(entry, true)]
          ∨ ∃ index,
              mergeFresh rules details matches_ lookup merged fresh
                = merged.set index (entry, true)
              ∧ ∃ replaced,
                  merged[index]? = some replaced ∧ Replaces bySignature fresh replaced.1) := by
  unfold mergeFresh
  dsimp only
  generalize batch
      : (if hasBatch fresh then (merged.find? (fun item => matches_ fresh item.1)).map Prod.fst
        else none)
        = batchMatch
  split
  · exact ⟨fresh, ⟨fresh.details, rfl⟩, Or.inl rfl⟩
  · next cached matched =>
      refine ⟨mergeCachedEntry rules details fresh cached, ⟨_, rfl⟩, ?_⟩
      split
      · next sameBatch =>
          have replaces : Replaces bySignature fresh cached := by
            cases batchMatch with
            | some entry =>
                cases matched
                split at batch
                · obtain ⟨item, found, rfl⟩ := Option.map_eq_some_iff.mp batch
                  have holds := List.find?_some found
                  exact titles.batch holds
                · cases batch
            | none =>
                rw [Option.none_or] at matched
                rw [Option.isSome_none, Bool.false_or, decide_eq_true_eq] at sameBatch
                exact ⟨sameBatch, titles.title matched⟩
          split
          · next index found =>
              obtain ⟨inRange, same, -⟩ := List.findIdx?_eq_some_iff_getElem.mp found
              refine Or.inr ⟨index, rfl, _, List.getElem?_eq_getElem inRange, ?_⟩
              exact replaces.of_sameAs same
          · exact Or.inl rfl
      · exact Or.inl rfl

/-- What is in the list stays, unless the fresh entry replaces it. -/
theorem mem_mergeFresh (titles : MatchesTitles bySignature matches_ lookup)
    {item : LatestEntry × Bool} (member : item ∈ merged)
    : item ∈ mergeFresh rules details matches_ lookup merged fresh
      ∨ Replaces bySignature fresh item.1 := by
  obtain ⟨entry, -, same | ⟨index, same, replaced, there, replaces⟩⟩ :=
    mergeFresh_spec rules details merged fresh titles
  · rw [same]
    exact Or.inl (List.mem_append_left _ member)
  · rw [same]
    obtain kept | here := mem_set_or_eq member index (entry, true)
    · exact Or.inl kept
    · cases there.symm.trans here
      exact Or.inr replaces

theorem placed_mergeFresh (titles : MatchesTitles bySignature matches_ lookup)
    : ∃ item ∈ mergeFresh rules details matches_ lookup merged fresh, Placed fresh item.1 := by
  obtain ⟨entry, placed, same | ⟨index, same, replaced, there, -⟩⟩ :=
    mergeFresh_spec rules details merged fresh titles
  · rw [same]
    exact ⟨(entry, true), List.mem_append_right _ List.mem_cons_self, placed⟩
  · rw [same]
    refine ⟨(entry, true), ?_, placed⟩
    obtain ⟨inRange, -⟩ := List.getElem?_eq_some_iff.mp there
    exact List.mem_set inRange _

theorem mem_of_mergeFresh (titles : MatchesTitles bySignature matches_ lookup)
    {item : LatestEntry × Bool}
    (member : item ∈ mergeFresh rules details matches_ lookup merged fresh)
    : item ∈ merged ∨ Placed fresh item.1 := by
  obtain ⟨entry, placed, same | ⟨index, same, -⟩⟩ :=
    mergeFresh_spec rules details merged fresh titles
  · rw [same] at member
    obtain before | here := List.mem_append.mp member
    · exact Or.inl before
    · cases List.mem_singleton.mp here
      exact Or.inr placed
  · rw [same] at member
    obtain before | here := List.mem_or_eq_of_mem_set member
    · exact Or.inl before
    · cases here
      exact Or.inr placed

end Fresh

section All

variable {rules : TextRules} {details : DetailRules} {bySignature : Bool}
  {matches_ : LatestEntry → LatestEntry → Bool} {lookup : LatestEntry → Option LatestEntry}
  {merged : MergedEntries}

/-- What is in the list stays, unless one of the fresh entries replaces it, by induction on them. -/
theorem mem_mergeAll (titles : MatchesTitles bySignature matches_ lookup)
    (fresh : List LatestEntry) {item : LatestEntry × Bool} (member : item ∈ merged)
    : item ∈ fresh.foldl (mergeFresh rules details matches_ lookup) merged
      ∨ ∃ later ∈ fresh, Replaces bySignature later item.1 := by
  induction fresh generalizing merged with
  | nil => exact Or.inl member
  | cons first rest ih =>
      rw [List.foldl_cons]
      obtain kept | replaced := mem_mergeFresh titles member
      · obtain kept | ⟨later, listed, replaced⟩ := ih kept
        · exact Or.inl kept
        · exact Or.inr ⟨later, List.mem_cons_of_mem _ listed, replaced⟩
      · exact Or.inr ⟨first, List.mem_cons_self, replaced⟩

/-- A fresh entry is placed and stays, unless a later one replaces it. -/
theorem placed_mergeAll (titles : MatchesTitles bySignature matches_ lookup)
    (before after : List LatestEntry) (entry : LatestEntry)
    : (∃ item ∈ (before ++ entry :: after).foldl (mergeFresh rules details matches_ lookup) merged,
          Placed entry item.1)
      ∨ ∃ later ∈ after, Replaces bySignature later entry := by
  rw [List.foldl_append, List.foldl_cons]
  obtain ⟨item, listed, placed⟩ := placed_mergeFresh titles
  obtain kept | ⟨later, member, replaced⟩ := mem_mergeAll titles after listed
  · exact Or.inl ⟨item, kept, placed⟩
  · exact Or.inr ⟨later, member, placed.replaces_iff.mp replaced⟩

theorem mem_of_mergeAll (titles : MatchesTitles bySignature matches_ lookup)
    (fresh : List LatestEntry) {item : LatestEntry × Bool}
    (member : item ∈ fresh.foldl (mergeFresh rules details matches_ lookup) merged)
    : item ∈ merged ∨ ∃ entry ∈ fresh, Placed entry item.1 := by
  induction fresh generalizing merged with
  | nil => exact Or.inl member
  | cons first rest ih =>
      rw [List.foldl_cons] at member
      obtain before | ⟨entry, listed, placed⟩ := ih member
      · obtain there | placed := mem_of_mergeFresh titles before
        · exact Or.inl there
        · exact Or.inr ⟨first, List.mem_cons_self, placed⟩
      · exact Or.inr ⟨entry, List.mem_cons_of_mem _ listed, placed⟩

end All

/-- The cached entries and the fresh ones as the reconciliation leaves them. -/
def mergePool (rules : TextRules) (family : String) (fresh cached : List LatestEntry)
    : List LatestEntry :=
  cached ++ fresh.map (reconcileCandidate rules family cached)

/-- Each publication is shown, or an entry of its title with its batch has taken its place. -/
structure KeepsPublications (rules : TextRules) (family : String) (bySignature : Bool)
    (fresh cached result : List LatestEntry)
    : Prop where
  keepsCached
    : ∀ entry ∈ cached,
        ∃ kept ∈ deduplicatePublicationEvents rules family (cached.map (·, false)) [],
          Linked rules family cached entry kept
          ∧ ((∃ shown ∈ result,
                Linked rules family (mergePool rules family fresh cached) entry shown)
            ∨ ∃ later ∈ reconcilePublicationEvents rules family fresh cached,
                Replaces bySignature later kept)
  reconciled
    : ∀ entry ∈ fresh,
        Alike rules family entry (reconcileCandidate rules family cached entry)
        ∨ TakesVisibleEvent rules family cached entry
            (reconcileCandidate rules family cached entry)
  keepsFresh
    : ∀ entry ∈ fresh,
        ∃ kept before after,
          reconcilePublicationEvents rules family fresh cached = before ++ kept :: after
          ∧ Linked rules family (mergePool rules family fresh cached)
              (reconcileCandidate rules family cached entry) kept
          ∧ ((∃ shown ∈ result,
                Linked rules family (mergePool rules family fresh cached)
                  (reconcileCandidate rules family cached entry) shown)
            ∨ ∃ later ∈ after, Replaces bySignature later kept)
  distinct
    : result.Pairwise (fun left right => eventsAreEquivalent rules left right family = false)

section Family

variable {rules : TextRules} {details : DetailRules} {family : String} {bySignature : Bool}
  {matches_ : LatestEntry → LatestEntry → Bool} {lookup : LatestEntry → Option LatestEntry}
  {fresh cached : List LatestEntry}

theorem subset_mergePool_left : cached ⊆ mergePool rules family fresh cached :=
  List.subset_append_left _ _

theorem subset_mergePool_right
    : fresh.map (reconcileCandidate rules family cached)
      ⊆ mergePool rules family fresh cached :=
  List.subset_append_right _ _

theorem reconcilePublicationEvents_eq
    : reconcilePublicationEvents rules family fresh cached
      = deduplicatePublicationEvents rules family
          ((fresh.map (reconcileCandidate rules family cached)).map (·, false)) [] := by
  rw [reconcilePublicationEvents, List.map_map]
  rfl

theorem known_merged (titles : MatchesTitles bySignature matches_ lookup)
    {merged : MergedEntries}
    (result
      : (reconcilePublicationEvents rules family fresh cached).foldl
          (mergeFresh rules details matches_ lookup)
          ((deduplicatePublicationEvents rules family (cached.map (·, false)) []).map
            (·, false))
        = merged)
    : ∀ node ∈ merged.map Prod.fst ++ cached,
        ∃ entry ∈ mergePool rules family fresh cached, Alike rules family node entry := by
  intro node listed
  obtain inMerged | inCached := List.mem_append.mp listed
  · obtain ⟨item, member, rfl⟩ := List.mem_map.mp inMerged
    rw [← result] at member
    obtain start | ⟨entry, reconciled, placed⟩ := mem_of_mergeAll titles _ member
    · obtain ⟨shown, kept, rfl⟩ := List.mem_map.mp start
      obtain ⟨entry, known, alike⟩ := (deduplicate_plain rules family _).2 shown kept
      exact ⟨entry, subset_mergePool_left known, alike⟩
    · rw [reconcilePublicationEvents_eq] at reconciled
      obtain ⟨known, member, alike⟩ := (deduplicate_plain rules family _).2 entry reconciled
      exact ⟨known, subset_mergePool_right member, placed.alike.symm.trans alike⟩
  · exact ⟨node, subset_mergePool_left inCached, .refl node⟩

theorem mergeFamily_keeps (rules : TextRules) (details : DetailRules) (family : String)
    (fresh cached : List LatestEntry) (titles : MatchesTitles bySignature matches_ lookup)
    : KeepsPublications rules family bySignature fresh cached
        (mergeFamily rules details family matches_ lookup fresh cached) := by
  unfold mergeFamily
  dsimp only
  generalize result
    : (reconcilePublicationEvents rules family fresh cached).foldl
        (mergeFresh rules details matches_ lookup)
        ((deduplicatePublicationEvents rules family (cached.map (·, false)) []).map (·, false))
      = merged
  have known := known_merged titles result
  have shows_ {item : LatestEntry × Bool} (member : item ∈ merged) :=
    deduplicate_shows known (List.mem_map_of_mem member)
  refine ⟨?_, fun entry _ => reconcileCandidate_spec, ?_, deduplicate_distinct merged cached⟩
  · intro entry member
    obtain ⟨kept, listed, linked⟩ := (deduplicate_plain rules family _).1 entry member
    refine ⟨kept, listed, linked, ?_⟩
    obtain stays | replaced :=
      mem_mergeAll titles (reconcilePublicationEvents rules family fresh cached)
        (List.mem_map_of_mem listed)
    · rw [result] at stays
      obtain ⟨shown, inResult, chain⟩ := shows_ stays
      exact Or.inl ⟨shown, inResult, (linked.mono subset_mergePool_left).trans chain⟩
    · exact Or.inr replaced
  · intro entry member
    have candidate
        : reconcileCandidate rules family cached entry
          ∈ fresh.map (reconcileCandidate rules family cached) :=
      List.mem_map_of_mem member
    obtain ⟨kept, listed, linked⟩ := (deduplicate_plain rules family _).1 _ candidate
    have chain := linked.mono subset_mergePool_right
    rw [← reconcilePublicationEvents_eq] at listed
    obtain ⟨before, after, split⟩ := List.append_of_mem listed
    refine ⟨kept, before, after, split, chain, ?_⟩
    obtain ⟨item, stays, placed⟩ | replaced := placed_mergeAll titles before after kept
    · rw [← split, result] at stays
      obtain ⟨shown, inResult, below⟩ := shows_ stays
      exact Or.inl
        ⟨shown, inResult, chain.trans ((Linked.of_alike placed.alike).trans below)⟩
    · exact Or.inr replaced

end Family

section Payloads

variable {fresh entry : LatestEntry}

/-- What an index finds has the key, by induction on the entries. -/
theorem indexEntries_key {named : LatestEntry → Bool} {key : LatestEntry → String}
    {entries : List LatestEntry} {wanted : String}
    (found : (indexEntries named key entries).get? wanted = some entry)
    : key entry = wanted := by
  have all {map : Dict String LatestEntry} (rest : List LatestEntry)
      (keyed : ∀ name shown, map.get? name = some shown → key shown = name)
      : ∀ name shown,
          (rest.foldl
              (fun map entry => if named entry then map.set (key entry) entry else map)
              map).get? name
            = some shown
          → key shown = name := by
    induction rest generalizing map with
    | nil => exact keyed
    | cons first rest ih =>
        refine ih (fun name shown there => ?_)
        dsimp only at there
        split at there
        · rw [Dict.get?_set] at there
          split at there
          · next same =>
              cases there
              exact same.symm
          · exact keyed name shown there
        · exact keyed name shown there
  refine all entries ?_ wanted entry found
  intro name shown nothing
  cases nothing

theorem matchesMovieBatch_replaces (matched : matchesMovieBatch fresh entry = true)
    : Replaces true fresh entry := by
  simp only [matchesMovieBatch, Bool.and_eq_true, Bool.or_eq_true, decide_eq_true_eq] at matched
  obtain ⟨⟨server, batch⟩, ⟨-, signature⟩ | ⟨-, item⟩⟩ := matched
  · refine ⟨batch.symm, Or.inr ⟨rfl, ?_⟩⟩
    rw [signatureKey, signatureKey, server, signature]
  · refine ⟨batch.symm, Or.inl ?_⟩
    rw [itemKey, itemKey, server, item]

theorem matchesSeriesBatch_replaces (matched : matchesSeriesBatch fresh entry = true)
    : Replaces false fresh entry := by
  simp only [matchesSeriesBatch, Bool.and_eq_true, decide_eq_true_eq] at matched
  obtain ⟨⟨server, batch⟩, -, item⟩ := matched
  refine ⟨batch.symm, Or.inl ?_⟩
  rw [itemKey, itemKey, server, item]

theorem movies_matchesTitles (payload : LatestPayload)
    : MatchesTitles true matchesMovieBatch
        (fun fresh =>
          ((buildCacheMaps payload).movieBySignature.get? fresh.signatureKey).or
            ((buildCacheMaps payload).movieByItemId.get? fresh.itemKey)) := by
  refine ⟨matchesMovieBatch_replaces, fun found => ?_⟩
  obtain bySignature | ⟨-, byItem⟩ := Option.or_eq_some_iff.mp found
  · exact Or.inr ⟨rfl, (indexEntries_key bySignature).symm⟩
  · exact Or.inl (indexEntries_key byItem).symm

theorem series_matchesTitles (payload : LatestPayload)
    : MatchesTitles false matchesSeriesBatch
        (fun fresh => (buildCacheMaps payload).seriesByItemId.get? fresh.itemKey) :=
  ⟨matchesSeriesBatch_replaces, fun found => Or.inl (indexEntries_key found).symm⟩

end Payloads

def plainTexts : TextRules where
  strip := strip
  lower := String.map Char.toLower
  casefold := String.map Char.toLower
  parseDateValue _ := none
  isoformat _ := ""

def plainDetails : DetailRules := ⟨id, (· = "")⟩

/-- A film with one changed source: a path, or the time alone. -/
def filmPublication (itemId signature batchId updateType : String) (path addedAt : Option String)
    : LatestEntry where
  serverId := some "server"
  itemId := some itemId
  signature := some signature
  batchId := some (some batchId)
  updateType := some (some updateType)
  updateLabel := none
  changes := some (some [⟨some updateType, path, none, none, addedAt, none, none, none⟩])
  addedAt := none
  details := ∅

def publishedFilm : LatestEntry := filmPublication "1" "tmdb:1" "batch 1" "new" (some "/a") none

/-- The same film seen again, with another source that is no news. -/
def seenFilm : LatestEntry := filmPublication "1" "tmdb:1" "batch 2" "existing" (some "/b") none

/-- One event three times, under aliases that meet in the middle one only. -/
def chainedFilms : List LatestEntry :=
  [filmPublication "1" "tmdb:1" "batch 1" "new" none (some "yesterday"),
    filmPublication "1" "tmdb:2" "batch 1" "new" none (some "yesterday"),
    filmPublication "2" "tmdb:2" "batch 1" "new" none (some "yesterday")]

def moviesOnly (movies : List LatestEntry) : LatestPayload := ⟨movies, [], []⟩

/-- The entry has an event, and no entry of the merged movies is equivalent to it. -/
def Unshown (fresh cached : List LatestEntry) (entry : LatestEntry) : Prop :=
  (entry.publicationEventKey plainTexts "movie").isSome = true
  ∧ ∀ shown
      ∈ (mergeWithDb plainTexts plainDetails (moviesOnly fresh)
          (some (moviesOnly cached))).movies,
      eventsAreEquivalent plainTexts entry shown "movie" = false

instance (fresh cached : List LatestEntry) (entry : LatestEntry)
    : Decidable (Unshown fresh cached entry) := by
  unfold Unshown
  infer_instance

end OctoHubs.Latest
