import OctoHubs.Latest.StateCollection
import OctoHubs.Library.Runs

/-! What a refresh removes from the stored state, and which of it the publication brings back. -/

namespace OctoHubs.Latest.Documents

open OctoHubs.Library

variable {rules : CollectorRules} {settings : CollectorSettings}

section Pruned

variable {now : Timestamp} {maxCount retentionDays : Int} {entries : Document}

theorem get?_of_firstEntries {before : String × Json → String × Json → Prop}
    [DecidableRel before] {count : Nat} {key : String} {value : Json}
    (found : (firstEntries entries before count).get? key = some value)
    : entries.get? key = some value := by
  have chosen : (key, value) ∈ (firstEntries entries before count).items :=
    Dict.mem_items_iff.mpr found
  exact Dict.mem_items_iff.mp ((List.mem_insertionSort _).mp (List.mem_of_mem_take chosen))

theorem dictAt?_of_pruneEntries {key : String} {entry : Document}
    (found
      : Document.dictAt? (pruneEntries rules now maxCount retentionDays entries) key
        = some entry)
    : entries.dictAt? key = some entry := by
  obtain ⟨value, present, shape⟩ := Option.bind_eq_some_iff.mp found
  have kept
      : (entries.filter (fun _ value =>
            value.isDict && !expired rules now retentionDays value)).get? key
        = some value := by
    unfold pruneEntries at present
    dsimp only at present
    split at present
    · exact get?_of_firstEntries present
    · exact present
  rw [Dict.get?_filter] at kept
  obtain ⟨stored, -⟩ := Option.filter_eq_some_iff.mp kept
  rw [Document.dictAt?, stored, Option.bind_some, shape]

theorem length_pruneEntries_le (bound : 0 < maxCount)
    : ((pruneEntries rules now maxCount retentionDays entries).items.length : Int)
      ≤ maxCount := by
  unfold pruneEntries
  dsimp only
  split
  · rw [firstEntries, List.length_take]
    omega
  · next few =>
      rw [not_and] at few
      exact Int.not_lt.mp (few bound)

end Pruned

section Aliases

variable {alphabet : Alphabet} {entries : Document}

theorem mem_listEntries_iff {key : String} {entry : Document}
    : (key, entry) ∈ listEntries entries ↔ entries.dictAt? key = some entry := by
  have shape
      : entries.dictAt? key = some entry
        ↔ ∃ value, (key, value) ∈ entries.items ∧ value.asDict? = some entry := by
    simp only [Dict.mem_items_iff]
    exact Option.bind_eq_some_iff
  rw [shape, listEntries, List.mem_filterMap]
  simp only [Option.map_eq_some_iff, Prod.mk.injEq, Prod.exists]
  constructor
  · rintro ⟨key', value, member, entry', isDict, rfl, rfl⟩
    exact ⟨value, member, isDict⟩
  · rintro ⟨value, member, isDict⟩
    exact ⟨key, value, member, entry, isDict, rfl, rfl⟩

theorem mem_matching_of_share {names : List IdentityToken} {key : String} {entry : Document}
    (found : entries.dictAt? key = some entry)
    (shares : shareToken names (movieIdentityTokens alphabet (key, entry)) = true)
    : key ∈ (matchingMovieIdentityEntries alphabet entries names).map Prod.fst := by
  apply List.mem_map.mpr
  refine ⟨(key, entry), ?_, rfl⟩
  exact mem_absorb_iff.mpr (.seed (mem_listEntries_iff.mpr found) shares)

theorem get?_foldl_erase {canonicalKey key : String} (aliases : List String)
    (entries : Document)
    : (aliases.foldl
          (fun entries aliasKey =>
            if aliasKey ≠ "" ∧ aliasKey ≠ canonicalKey then entries.erase aliasKey else entries)
          entries).get? key
      = if key ∈ aliases ∧ key ≠ "" ∧ key ≠ canonicalKey then none else entries.get? key := by
  have filtered :=
    @List.foldl_filter _ _ (fun aliasKey => aliasKey ≠ "" ∧ aliasKey ≠ canonicalKey)
      Dict.erase aliases entries
  simp only [decide_eq_true_eq] at filtered
  rw [← filtered, Dict.get?_foldl_erase]
  simp

theorem get?_removeObsoleteAliases_canonical {canonicalKey fallbackKey : String}
    {aliases : List String}
    : (removeObsoleteAliases entries canonicalKey aliases fallbackKey).get? canonicalKey
      = entries.get? canonicalKey := by
  rw [removeObsoleteAliases, get?_foldl_erase, if_neg]
  simp

theorem get?_of_removeObsoleteAliases {canonicalKey fallbackKey key : String}
    {aliases : List String} {value : Json}
    (found
      : (removeObsoleteAliases entries canonicalKey aliases fallbackKey).get? key = some value)
    : entries.get? key = some value ∧ (key ∈ aliases → key = "" ∨ key = canonicalKey) := by
  rw [removeObsoleteAliases, get?_foldl_erase] at found
  rw [Option.ite_none_left_eq_some] at found
  obtain ⟨kept, stored⟩ := found
  refine ⟨stored, fun member => ?_⟩
  rw [if_neg (List.ne_nil_of_mem member)] at kept
  by_contra other
  exact kept ⟨member, not_or.mp other⟩

end Aliases

/-- Two different entries share a name; no film is stored under an empty key. -/
def Doubled (alphabet : Alphabet) (entries : Document) (left right : String) : Prop :=
  left ≠ right ∧ left ≠ "" ∧ right ≠ ""
  ∧ ∃ first second,
      entries.dictAt? left = some first
      ∧ entries.dictAt? right = some second
      ∧ shareToken (movieIdentityTokens alphabet (left, first))
          (movieIdentityTokens alphabet (right, second))
        = true

theorem shareToken_comm {left right : List IdentityToken}
    : shareToken left right = shareToken right left := by
  rw [Bool.eq_iff_iff, MovieRecord.shareToken_iff, MovieRecord.shareToken_iff]
  simp only [and_comm]

section Doubled

variable {alphabet : Alphabet} {entries others : Document} {left right : String}

theorem Doubled.of_entries (doubled : Doubled alphabet entries left right)
    (from_
      : ∀ key entry,
          key = left ∨ key = right
          → entries.dictAt? key = some entry
          → ∃ other,
              others.dictAt? key = some other
              ∧ movieIdentityTokens alphabet (key, entry)
                = movieIdentityTokens alphabet (key, other))
    : Doubled alphabet others left right := by
  obtain ⟨apart, leftNamed, rightNamed, first, second, here, there, shares⟩ := doubled
  obtain ⟨first', here', firstSame⟩ := from_ left first (Or.inl rfl) here
  obtain ⟨second', there', secondSame⟩ := from_ right second (Or.inr rfl) there
  refine ⟨apart, leftNamed, rightNamed, first', second', here', there', ?_⟩
  rw [← firstSame, ← secondSame]
  exact shares

theorem Doubled.symm (doubled : Doubled alphabet entries left right)
    : Doubled alphabet entries right left := by
  obtain ⟨apart, leftNamed, rightNamed, first, second, here, there, shares⟩ := doubled
  exact ⟨apart.symm, rightNamed, leftNamed, second, first, there, here,
    shareToken_comm.trans shares⟩

end Doubled

section Visits

variable {visit : MovieVisit} {entries : Document}

theorem tokens_entry
    : movieIdentityTokens rules.alphabet (visit.stateKey rules, visit.entry)
      = visit.names rules := by
  have item : Document.field visit.entry "item_id" = visit.itemId := by
    rw [MovieVisit.entry, Document.field_set, if_neg (by decide), Document.field_set, if_pos rfl]
  have signature : Document.field visit.entry "signature" = .text visit.signature := by
    rw [MovieVisit.entry, Document.field_set, if_pos rfl]
  have shown : (Json.text visit.signature).textOr rules.alphabet "" = visit.signature := by
    simp [Json.textOr, Json.truthy, Json.asText, visit.signature_ne]
  rw [movieIdentityTokens, item, signature, shown]
  rfl

theorem dictAt?_storeMovie_self
    : Document.dictAt? (storeMovie rules visit entries Document.setDict) (visit.stateKey rules)
      = some visit.entry := by
  rw [Document.dictAt?, storeMovie, get?_removeObsoleteAliases_canonical]
  rw [Document.setDict, Dict.get?_set_self, Option.bind_some, Json.asDict?_ofDict]

theorem dictAt?_of_storeMovie {key : String} {entry : Document}
    (found
      : Document.dictAt? (storeMovie rules visit entries Document.setDict) key = some entry)
    (other : key ≠ visit.stateKey rules) (named : key ≠ "")
    : entries.dictAt? key = some entry
      ∧ shareToken (visit.names rules) (movieIdentityTokens rules.alphabet (key, entry))
        = false := by
  obtain ⟨value, present, shape⟩ := Option.bind_eq_some_iff.mp found
  obtain ⟨written, kept⟩ := get?_of_removeObsoleteAliases present
  rw [Document.setDict, Dict.get?_set_ne _ _ other] at written
  have stored : entries.dictAt? key = some entry := by
    rw [Document.dictAt?, written, Option.bind_some, shape]
  refine ⟨stored, Bool.eq_false_iff.mpr (fun shares => ?_)⟩
  exact (kept (mem_matching_of_share stored shares)).elim named other

theorem not_doubled_stored {right : String}
    : ¬ Doubled rules.alphabet (storeMovie rules visit entries Document.setDict)
        (visit.stateKey rules) right := by
  rintro ⟨apart, -, named, first, second, here, there, shares⟩
  rw [dictAt?_storeMovie_self] at here
  cases here
  rw [tokens_entry] at shares
  obtain ⟨-, separate⟩ := dictAt?_of_storeMovie there apart.symm named
  rw [separate] at shares
  cases shares

theorem Doubled.of_storeMovie {left right : String}
    (doubled
      : Doubled rules.alphabet (storeMovie rules visit entries Document.setDict) left right)
    : Doubled rules.alphabet entries left right
      ∧ left ≠ visit.stateKey rules
      ∧ right ≠ visit.stateKey rules := by
  have leftOther : left ≠ visit.stateKey rules := by
    rintro rfl
    exact not_doubled_stored doubled
  have rightOther : right ≠ visit.stateKey rules := by
    rintro rfl
    exact not_doubled_stored doubled.symm
  refine ⟨doubled.of_entries ?_, leftOther, rightOther⟩
  obtain ⟨-, leftNamed, rightNamed, -⟩ := doubled
  intro key entry which found
  obtain rfl | rfl := which
  · exact ⟨entry, (dictAt?_of_storeMovie found leftOther leftNamed).1, rfl⟩
  · exact ⟨entry, (dictAt?_of_storeMovie found rightOther rightNamed).1, rfl⟩

def itemEntries (items : Json) : Document := items.asDict?.getD ∅

theorem Doubled.of_visits {left right : String} {visits : List MovieVisit}
    {start finish : CollectedItems}
    (visited : visits.foldlM (processMovie rules) start = some finish)
    (doubled : Doubled rules.alphabet (itemEntries finish.items) left right)
    : Doubled rules.alphabet (itemEntries start.items) left right
      ∧ ∀ visit ∈ visits, left ≠ visit.stateKey rules ∧ right ≠ visit.stateKey rules := by
  induction visits generalizing start with
  | nil =>
      cases visited
      exact ⟨doubled, fun visit nothing => nomatch nothing⟩
  | cons first rest ih =>
      rw [List.foldlM_cons] at visited
      obtain ⟨next, taken, later⟩ := Option.bind_eq_some_iff.mp visited
      obtain ⟨items, shape, written⟩ := Option.bind_eq_some_iff.mp taken
      cases written
      obtain ⟨before, others⟩ := ih later
      rw [itemEntries, Json.asDict?_ofDict, Option.getD_some] at before
      obtain ⟨there, leftOther, rightOther⟩ := before.of_storeMovie
      rw [itemEntries, shape, Option.getD_some]
      exact ⟨there, List.forall_mem_cons.mpr ⟨⟨leftOther, rightOther⟩, others⟩⟩

end Visits

section Collected

theorem itemEntries_prune {now : Timestamp} {maxCount retentionDays : Int} {items : Json}
    : itemEntries (pruneStateItemsByLastSeen rules now maxCount retentionDays items)
      = items.asDict?.elim ∅ (pruneEntries rules now maxCount retentionDays) := by
  cases shape : items.asDict? with
  | none => rw [pruneStateItemsByLastSeen, shape, Option.elim_none, itemEntries, shape]; rfl
  | some entries =>
      rw [pruneStateItemsByLastSeen, shape, Option.elim_some, itemEntries, Json.asDict?_ofDict]
      rfl

theorem length_prune_le {now : Timestamp} {maxCount retentionDays : Int} {items : Json}
    (bound : 0 < maxCount)
    : ((itemEntries
          (pruneStateItemsByLastSeen rules now maxCount retentionDays items)).items.length : Int)
      ≤ maxCount := by
  rw [itemEntries_prune]
  cases items.asDict? with
  | none => exact bound.le
  | some entries => exact length_pruneEntries_le bound

theorem dictAt?_of_prune {now : Timestamp} {maxCount retentionDays : Int} {items : Json}
    {key : String} {entry : Document}
    (found
      : (itemEntries
          (pruneStateItemsByLastSeen rules now maxCount retentionDays items)).dictAt? key
        = some entry)
    : (itemEntries items).dictAt? key = some entry := by
  rw [itemEntries_prune] at found
  cases shape : items.asDict? with
  | none =>
      rw [shape] at found
      cases found
  | some entries =>
      rw [shape] at found
      rw [itemEntries, shape]
      exact dictAt?_of_pruneEntries found

theorem length_changeEntries {change : Json → Option Json} {entries changed : Document}
    (done : changeEntries change entries = some changed)
    : changed.items.length = entries.items.length := by
  unfold changeEntries at done
  split at done
  · cases done
    exact List.length_map _
  · cases done

theorem asDict?_of_not_truthy {value : Json} (falsy : value.truthy = false)
    : value.asDict?.getD ∅ = ∅ := by
  cases value with
  | object keys unique values =>
      have bare : keys = [] := by simpa [Json.truthy] using falsy
      subst bare
      rfl
  | _ => rfl

theorem itemEntries_field {fields : Document} {key : String}
    : itemEntries ((fields.get? key).getD (.ofDict ∅)) = fields.dictAt key := by
  rw [Document.dictAt, Document.dictAt?]
  cases fields.get? key with
  | none => rw [Option.getD_none, itemEntries, Json.asDict?_ofDict]; rfl
  | some value => rfl

theorem dictAt_of_stateSection {server fields : Document} {name : String}
    (found : stateSection server name = some fields)
    : server.dictAt name = fields := by
  rw [Document.dictAt, Document.dictAt?]
  cases present : server.get? name with
  | none =>
      rw [stateSection, present] at found
      cases found
      rfl
  | some value =>
      rw [stateSection, present, Option.elim_some] at found
      rw [Option.bind_some, found, Option.getD_some]

/-- What the collection of a server leaves in its sections. -/
structure CollectedServer (rules : CollectorRules) (settings : CollectorSettings)
    (stored server : Document) (work : ServerWork)
    : Prop where
  movies_le : ((entriesAt server (.items .movies)).items.length : Int) ≤ settings.maxMovies
  series_le : ((entriesAt server (.items .series)).items.length : Int) ≤ settings.maxSeries
  doubled
    : ∀ {left right : String},
        Doubled rules.alphabet (entriesAt server (.items .movies)) left right
        → Doubled rules.alphabet (entriesAt stored (.items .movies)) left right
          ∧ ∀ visit ∈ work.movies,
              left ≠ visit.stateKey rules ∧ right ≠ visit.stateKey rules

theorem collectServer_spec {stored : Json} {server : Document} {work : ServerWork}
    (collected : collectServer rules settings stored work = some server)
    : CollectedServer rules settings (stored.asDict?.getD ∅) server work := by
  unfold collectServer at collected
  obtain ⟨loaded, load, collected⟩ := Option.bind_eq_some_iff.mp collected
  obtain ⟨movies, movieSection, collected⟩ := Option.bind_eq_some_iff.mp collected
  obtain ⟨series, seriesSection, collected⟩ := Option.bind_eq_some_iff.mp collected
  obtain ⟨seen, visited, collected⟩ := Option.bind_eq_some_iff.mp collected
  obtain ⟨watched, -, collected⟩ := Option.bind_eq_some_iff.mp collected
  obtain ⟨pruned, isDict, collected⟩ := Option.bind_eq_some_iff.mp collected
  obtain ⟨changed, episodes, written⟩ := Option.bind_eq_some_iff.mp collected
  cases written
  have same : stored.asDict?.getD ∅ = loaded := by
    unfold storedServer at load
    split at load
    · rw [load, Option.getD_some]
    · next falsy =>
        cases load
        exact asDict?_of_not_truthy (Bool.eq_false_iff.mpr falsy)
  have newMovies (items : Json) (history : Document)
      : entriesAt
          (((loaded.setDict "movies" (movies.set "items" items)).setDict "series"
              (series.setDict "items" changed)).setDict "history" history)
          (.items .movies)
        = itemEntries items := by
    simp [entriesAt, StateSection.name, Document.dictAt, itemEntries]
  have newSeries (items : Json) (history : Document)
      : entriesAt
          (((loaded.setDict "movies" (movies.set "items" items)).setDict "series"
              (series.setDict "items" changed)).setDict "history" history)
          (.items .series)
        = changed := by
    simp [entriesAt, StateSection.name, Document.dictAt]
  refine ⟨?_, ?_, ?_⟩
  · rw [newMovies]
    exact length_prune_le settings.movies_pos
  · rw [newSeries, length_changeEntries episodes]
    have kept
        : ((itemEntries
            (pruneStateItemsByLastSeen rules work.now settings.maxSeries settings.retentionDays
              watched.items)).items.length : Int)
          ≤ settings.maxSeries :=
      length_prune_le settings.series_pos
    rwa [itemEntries, isDict, Option.getD_some] at kept
  · intro left right doubled
    rw [newMovies] at doubled
    have before : Doubled rules.alphabet (itemEntries seen.items) left right :=
      doubled.of_entries (fun key entry _ found => ⟨entry, dictAt?_of_prune found, rfl⟩)
    obtain ⟨there, others⟩ := before.of_visits visited
    refine ⟨?_, others⟩
    rw [same, entriesAt, StateSection.name, dictAt_of_stateSection movieSection]
    rwa [itemEntries_field] at there

theorem asDict?_field {state : Document} {serverId : String}
    : (state.field serverId).asDict?.getD ∅ = state.dictAt serverId := by
  rw [Document.dictAt, Document.dictAt?, Document.field]
  cases state.get? serverId with
  | none => rfl
  | some value => rfl

/-- A server's state after a collection is its collected one, or the loaded one where the refresh
does not name the server.
-/
theorem dictAt_of_servers {loaded start finish : Document} {servers : List (String × ServerWork)}
    {serverId : String}
    (stored : servers.foldlM (storeServer rules settings loaded) start = some finish)
    : (finish.dictAt serverId = start.dictAt serverId
        ∧ ∀ work, (serverId, work) ∈ servers → serverId = "")
      ∨ ∃ work,
          (serverId, work) ∈ servers
          ∧ serverId ≠ ""
          ∧ collectServer rules settings (loaded.field serverId) work
            = some (finish.dictAt serverId) := by
  induction servers generalizing start with
  | nil =>
      cases stored
      exact Or.inl ⟨rfl, fun work nothing => nomatch nothing⟩
  | cons first rest ih =>
      rw [List.foldlM_cons] at stored
      obtain ⟨next, taken, later⟩ := Option.bind_eq_some_iff.mp stored
      obtain ⟨same, unnamed⟩ | ⟨work, member, named, collected⟩ := ih later
      · obtain ⟨firstId, work⟩ := first
        rw [same]
        unfold storeServer at taken
        split at taken
        · next blank =>
            cases taken
            refine Or.inl ⟨rfl, fun other member => ?_⟩
            obtain here | there := List.mem_cons.mp member
            · cases here
              exact blank
            · exact unnamed other there
        · next named =>
            obtain ⟨server, collected, written⟩ := Option.map_eq_some_iff.mp taken
            cases written
            by_cases which : serverId = firstId
            · subst which
              refine Or.inr ⟨work, List.mem_cons_self, named, ?_⟩
              rw [Document.dictAt, Document.dictAt?_setDict, if_pos rfl]
              exact collected
            · refine Or.inl ⟨?_, fun other member => ?_⟩
              · rw [Document.dictAt, Document.dictAt?_setDict, if_neg which]
                rfl
              · obtain here | there := List.mem_cons.mp member
                · cases here
                  exact (which rfl).elim
                · exact unnamed other there
      · exact Or.inr ⟨work, List.mem_cons_of_mem _ member, named, collected⟩

end Collected

/-- An entry that is stored and that the refresh has dropped. -/
def Dropped (persisted current : Document) (serverId : String) (place : Place) (key : String)
    (entry : Document)
    : Prop :=
  entryAt persisted serverId place key = some entry ∧ entryAt current serverId place key = none

/-- The dropped entries carry no notification metadata. -/
def DropsUnnotified (persisted current : Document) : Prop :=
  ∀ serverId place key entry,
    Dropped persisted current serverId place key entry → hasNotificationMetadata entry = false

section Published

variable {persisted current : Document}

theorem mem_keys_mergeEntries {target source : Document} {key : String}
    (member : key ∈ (mergeEntries target source).keys)
    : key ∈ target.keys
      ∨ target.dictAt? key = none
        ∧ ∃ entry, source.dictAt? key = some entry ∧ hasNotificationMetadata entry = true := by
  cases kept : target.dictAt? key with
  | some fields =>
      obtain ⟨value, present, -⟩ := Option.bind_eq_some_iff.mp kept
      exact Or.inl (Dict.mem_keys_iff.mpr ⟨value, present⟩)
  | none =>
      by_cases worth
          : ∃ entry, source.dictAt? key = some entry ∧ hasNotificationMetadata entry = true
      · exact Or.inr ⟨rfl, worth⟩
      · have unchosen
            : Document.dictAt? (source.filter (fun key value =>
                  (target.dictAt? key).isSome || value.asDict?.any hasNotificationMetadata)) key
              = none := by
          rw [Option.eq_none_iff_forall_not_mem]
          intro entry found
          obtain ⟨value, chosen, shape⟩ := Option.bind_eq_some_iff.mp found
          rw [Dict.get?_filter] at chosen
          obtain ⟨present, passes⟩ := Option.filter_eq_some_iff.mp chosen
          rw [kept, shape, Option.isSome_none, Bool.false_or, Option.any_some] at passes
          refine worth ⟨entry, ?_, passes⟩
          rw [Document.dictAt?, present, Option.bind_some, shape]
        rw [Dict.mem_keys_iff, mergeEntries, get?_joinDicts_of_none unchosen] at member
        exact Or.inl (Dict.mem_keys_iff.mpr member)

theorem entriesAt_publish (serverId : String) (place : Place)
    : entriesAt ((publishLatestRefresh persisted (some current)).dictAt serverId) place
      = mergeEntries (entriesAt (current.dictAt serverId) place)
          (entriesAt (persisted.dictAt serverId) place) := by
  rw [publishLatestRefresh, Option.elim_some, dictAt_mergeNotificationUpdates,
    entriesAt_mergeServer]

theorem entryAt_publish_of_dropped {serverId : String} {place : Place} {key : String}
    {entry : Document} (dropped : Dropped persisted current serverId place key entry)
    : entryAt (publishLatestRefresh persisted (some current)) serverId place key = none
      ↔ hasNotificationMetadata entry = false := by
  rw [publishLatestRefresh, Option.elim_some, entryAt_mergeNotificationUpdates, dropped.1,
    dropped.2]
  cases worth : hasNotificationMetadata entry with
  | true => simp [worth]
  | false => simp [worth]

theorem length_publish_le (unnotified : DropsUnnotified persisted current) (serverId : String)
    (place : Place)
    : (entriesAt ((publishLatestRefresh persisted (some current)).dictAt serverId)
          place).items.length
      ≤ (entriesAt (current.dictAt serverId) place).items.length := by
  rw [entriesAt_publish]
  have subset
      : (mergeEntries (entriesAt (current.dictAt serverId) place)
            (entriesAt (persisted.dictAt serverId) place)).keys
        ⊆ (entriesAt (current.dictAt serverId) place).keys := by
    intro key member
    obtain here | ⟨missing, entry, stored, notified⟩ := mem_keys_mergeEntries member
    · exact here
    · have plain := unnotified serverId place key entry ⟨stored, missing⟩
      rw [plain] at notified
      cases notified
  have fewer := (List.subperm_of_subset (Dict.nodup _) subset).length_le
  simpa only [Dict.keys, List.length_map] using fewer

theorem Doubled.of_publish {alphabet : Alphabet} {serverId left right : String}
    (unnotified : DropsUnnotified persisted current)
    (doubled
      : Doubled alphabet
          (entriesAt ((publishLatestRefresh persisted (some current)).dictAt serverId)
            (.items .movies))
          left right)
    : Doubled alphabet (entriesAt (current.dictAt serverId) (.items .movies)) left right := by
  apply doubled.of_entries
  intro key entry _ found
  rw [entriesAt_publish, dictAt?_mergeEntries] at found
  have same {kept other : Document}
      : movieIdentityTokens alphabet (key, mergeNotificationMetadata kept other)
        = movieIdentityTokens alphabet (key, kept) := by
    have field {name : String} (outside : name ∉ notificationFields)
        : Document.field (mergeNotificationMetadata kept other) name = kept.field name := by
      rw [Document.field, Document.field, mergeNotificationMetadata,
        get?_mergeMetadataTo_of_other outside]
    rw [movieIdentityTokens, movieIdentityTokens, field (by decide), field (by decide)]
  split at found
  · next kept other here there =>
      cases found
      exact ⟨kept, here, same⟩
  · next kept here there => exact ⟨entry, here.trans found, rfl⟩
  · next other here there =>
      split at found
      · next notified =>
          have plain := unnotified serverId (.items .movies) key other ⟨there, here⟩
          rw [plain] at notified
          cases notified
      · cases found
  · cases found

end Published

def movieEntries (state : Document) (serverId : String) : Document :=
  entriesAt (state.dictAt serverId) (.items .movies)

def seriesEntries (state : Document) (serverId : String) : Document :=
  entriesAt (state.dictAt serverId) (.items .series)

/-- What the refresh has dropped is gone, the bounds hold, and a film has two entries only where it
had them before and was not visited.
-/
structure RemovalsEffective (rules : CollectorRules) (refresh : Refresh)
    (persisted current published : Document)
    : Prop where
  absent
    : ∀ serverId place key entry,
        Dropped persisted current serverId place key entry
        → entryAt published serverId place key = none
  bounded
    : ∀ serverId work,
        (serverId, work) ∈ refresh.servers
        → serverId ≠ ""
        → ((movieEntries published serverId).items.length : Int) ≤ refresh.settings.maxMovies
          ∧ ((seriesEntries published serverId).items.length : Int) ≤ refresh.settings.maxSeries
  single
    : ∀ serverId left right,
        Doubled rules.alphabet (movieEntries published serverId) left right
        → Doubled rules.alphabet (movieEntries persisted serverId) left right
          ∧ ((∃ work, (serverId, work) ∈ refresh.servers ∧ serverId ≠ "")
            → ∃ work,
                (serverId, work) ∈ refresh.servers
                ∧ ∀ visit ∈ work.movies,
                    left ≠ visit.stateKey rules ∧ right ≠ visit.stateKey rules)

/-- A refresh that publishes a state has removed what it dropped. -/
def EffectiveRefresh (rules : CollectorRules) (persisted : Document) (refresh : Refresh) : Prop :=
  ∀ current,
    collectEntries rules persisted refresh = some current
    → RemovalsEffective rules refresh persisted current (refreshLatest rules persisted refresh)

/-- A refresh that publishes a state drops no entry with notification metadata. -/
def KeepsNotified (rules : CollectorRules) (persisted : Document) (refresh : Refresh) : Prop :=
  ∀ current,
    collectEntries rules persisted refresh = some current → DropsUnnotified persisted current

section Effective

variable {refresh : Refresh} {persisted current : Document}

theorem collectEntries_server (serverId : String)
    (collected : collectEntries rules persisted refresh = some current)
    : (current.dictAt serverId = persisted.dictAt serverId
        ∧ ∀ work, (serverId, work) ∈ refresh.servers → serverId = "")
      ∨ ∃ work,
          (serverId, work) ∈ refresh.servers
          ∧ CollectedServer rules refresh.settings (persisted.dictAt serverId)
              (current.dictAt serverId) work := by
  unfold collectEntries at collected
  rw [Option.ite_none_left_eq_some] at collected
  obtain kept | ⟨work, member, -, server⟩ := dictAt_of_servers collected.2
  · exact Or.inl kept
  · refine Or.inr ⟨work, member, ?_⟩
    rw [← asDict?_field]
    exact collectServer_spec server

theorem effectiveRefresh_iff
    : EffectiveRefresh rules persisted refresh ↔ KeepsNotified rules persisted refresh := by
  constructor
  · intro effective current collected serverId place key entry dropped
    have absent := (effective current collected).absent serverId place key entry dropped
    rw [refreshLatest, collected] at absent
    exact (entryAt_publish_of_dropped dropped).mp absent
  · intro keeps current collected
    have unnotified := keeps current collected
    rw [refreshLatest, collected]
    refine ⟨?_, ?_, ?_⟩
    · intro serverId place key entry dropped
      exact (entryAt_publish_of_dropped dropped).mpr
        (unnotified serverId place key entry dropped)
    · intro serverId work member named
      obtain ⟨-, blank⟩ | ⟨other, -, server⟩ := collectEntries_server serverId collected
      · exact (named (blank work member)).elim
      · have movies := length_publish_le unnotified serverId (.items .movies)
        have series := length_publish_le unnotified serverId (.items .series)
        exact ⟨(Int.ofNat_le.mpr movies).trans server.movies_le,
          (Int.ofNat_le.mpr series).trans server.series_le⟩
    · intro serverId left right doubled
      have before := Doubled.of_publish unnotified doubled
      obtain ⟨same, blank⟩ | ⟨work, member, server⟩ := collectEntries_server serverId collected
      · rw [same] at before
        exact ⟨before, fun ⟨work, member, named⟩ => (named (blank work member)).elim⟩
      · obtain ⟨there, others⟩ := server.doubled before
        exact ⟨there, fun _ => ⟨work, member, others⟩⟩

end Effective

def refreshStep (rules : CollectorRules) (persisted : Document) (refresh : Refresh)
    : Option Document :=
  some (refreshLatest rules persisted refresh)

/-- No film of the state has two entries. -/
def NoDoubles (rules : CollectorRules) (state : Document) : Prop :=
  ∀ serverId left right, ¬ Doubled rules.alphabet (movieEntries state serverId) left right

theorem NoDoubles.refresh {persisted : Document} {refresh : Refresh}
    (single : NoDoubles rules persisted) (keeps : KeepsNotified rules persisted refresh)
    : NoDoubles rules (refreshLatest rules persisted refresh) := by
  intro serverId left right doubled
  cases collected : collectEntries rules persisted refresh with
  | none =>
      rw [refreshLatest, collected] at doubled
      exact single serverId left right doubled
  | some current =>
      have effective := effectiveRefresh_iff.mpr keeps current collected
      exact single serverId left right (effective.single serverId left right doubled).1

/-- In a run of refreshes the removals are effective exactly when no refresh drops an entry with
notification metadata; then no film gets a second entry.
-/
theorem refreshes_effective_iff (rules : CollectorRules) (start finish : Document)
    (refreshes : List Refresh)
    : (Run (refreshStep rules) (EffectiveRefresh rules) start refreshes finish
        ↔ Run (refreshStep rules) (KeepsNotified rules) start refreshes finish)
      ∧ (Run (refreshStep rules) (KeepsNotified rules) start refreshes finish
        → NoDoubles rules start
        → NoDoubles rules finish) := by
  refine ⟨⟨?_, ?_⟩, ?_⟩
  · intro run
    exact run.mono effectiveRefresh_iff.mp
  · intro run
    exact run.mono effectiveRefresh_iff.mpr
  · intro run
    apply run.preserves (NoDoubles rules)
    intro state next refresh single keeps taken
    cases taken
    exact single.refresh keeps

/-- Plain readings, which know the two dates below. -/
def plainRules : CollectorRules where
  alphabet := ⟨id, Char.isAlphanum, String.toInt?, fun _ => ""⟩
  parseDate value :=
    match value with
    | .text "2026-01-01T00:00:00Z" => some (20454 * day)
    | .text "2026-01-02T00:00:00Z" => some (20455 * day)
    | _ => none
  uniteHistory existing payload := existing.update payload

def oneFilm : CollectorSettings := ⟨1, 1, 90, by decide, by decide⟩

def notifiedFilm (itemId signature seen : String) : Document :=
  ((((∅ : Document).set "item_id" (.text itemId)).set "signature" (.text signature)).set
    "last_seen_at" (.text seen)).set "notified" (.bool true)

/-- One notified film is stored, and the next one was seen. -/
def fullState : Document :=
  Document.setDict ∅ "main"
    (Document.setDict ∅ "movies"
      (Document.setDict ∅ "items"
        (Document.setDict ∅ "tmdb:1" (notifiedFilm "1" "tmdb:1" "2026-01-01T00:00:00Z"))))

def nextFilm : Refresh where
  settings := oneFilm
  servers :=
    [("main",
      { movies :=
          [⟨.text "2", "tmdb:2",
            (∅ : Document).set "last_seen_at" (.text "2026-01-02T00:00:00Z"), by decide⟩]
        series := []
        now := 20456 * day })]
  failed := false

/-- The collector drops the older film, and the publication has both. -/
theorem fullState_keeps_dropped : ¬ EffectiveRefresh plainRules fullState nextFilm := by
  intro effective
  have collects : (collectEntries plainRules fullState nextFilm).isSome = true := by
    decide
  obtain ⟨current, collected⟩ := Option.isSome_iff_exists.mp collects
  have bounded := (effective current collected).bounded "main" _ List.mem_cons_self (by decide)
  revert bounded
  decide

end OctoHubs.Latest.Documents
