import OctoHubs.Latest.Dispatches

/-! Checkpoints of movies and what lookups show after them.
A checkpoint unites the aliases of its movie under one key. What another movie shows stays as it
is, unless the two are known by connected names under different keys.
-/

namespace OctoHubs.Latest

open OctoHubs.Library

namespace CachedItem

variable {item : CachedItem}

theorem movieKey_visible (identified : item.itemId ≠ "") : strip item.movieKey ≠ "" := by
  unfold movieKey
  split
  · next signed => exact item.signatureVisible.resolve_left signed
  · have same : strip item.itemId = item.itemId :=
      strip_of_solid (fun c member => (item.itemIdentified c member).1)
    rw [same]
    exact identified

theorem movieKey_ne_empty (identified : item.itemId ≠ "") : item.movieKey ≠ "" := by
  intro bare
  exact movieKey_visible identified (by rw [bare]; rfl)

theorem key_mem_names (identified : item.itemId ≠ "")
    : IdentityToken.key (strip item.movieKey) ∈ item.names :=
  mem_identityTokens_iff.mpr (.inl ⟨movieKey_visible identified, rfl⟩)

end CachedItem

namespace MovieRecord

variable {entries : Dict String MovieRecord} {names : List IdentityToken}
  {entry : String × MovieRecord} {item : CachedItem}

theorem alias_of_key (identified : item.itemId ≠ "") {record : MovieRecord}
    (found : entries.get? item.movieKey = some record)
    : Alias entries item.names (item.movieKey, record) :=
  .seed (Dict.mem_items_iff.mpr found)
    (shareToken_iff.mpr
      ⟨_, CachedItem.key_mem_names identified,
        mem_identityTokens_iff.mpr (.inl ⟨CachedItem.movieKey_visible identified, rfl⟩)⟩)

theorem Alias.get? (alias_ : Alias entries names entry) : entries.get? entry.1 = some entry.2 :=
  Dict.mem_items_iff.mp alias_.mem

theorem alias_of_token {token : IdentityToken} (found : entries.get? entry.1 = some entry.2)
    (carried : token ∈ tokens entry)
    (named : token ∈ names ∨ ∃ known, Alias entries names known ∧ token ∈ tokens known)
    : Alias entries names entry := by
  have member : entry ∈ entries.items := Dict.mem_items_iff.mpr found
  rcases named with mine | ⟨known, alias_, shared⟩
  · exact .seed member (shareToken_iff.mpr ⟨token, mine, carried⟩)
  · exact .step alias_ member (shareToken_iff.mpr ⟨token, shared, carried⟩)

def movieShows (rules : TextRules) (entries : Dict String MovieRecord) (item : CachedItem)
    (evidence : Evidence)
    : Prop :=
  lookupShows rules entries item.movieKey item.itemId item.signature evidence

variable {rules : TextRules} {evidence : Evidence}

theorem movieShows_iff
    : movieShows rules entries item evidence
      ↔ ∃ entry, Alias entries item.names entry ∧ entry.2.notification.Shows evidence :=
  lookupShows_iff

theorem movieShows_of_key (identified : item.itemId ≠ "") {record : MovieRecord}
    (found : entries.get? item.movieKey = some record)
    (shown : record.notification.Shows evidence)
    : movieShows rules entries item evidence :=
  movieShows_iff.mpr ⟨_, alias_of_key identified found, shown⟩

end MovieRecord

namespace ServerState

open MovieRecord

section Checkpoint

variable {rules : TextRules} {server : ServerState} {item : CachedItem}
  {publicationKey : String} {delivered : Delivered} {required : List String}
  {notifiedAt : String} {evidence : Evidence}

theorem shows_movieEntry (shown : movieShows rules server.movies item evidence)
    : (server.movieEntry rules item).notification.Shows evidence := by
  obtain ⟨found, here, known⟩ := shown
  unfold movieEntry
  rw [Option.mem_def.mp here]
  exact known

theorem shows_movieEntryWithHistory (shown : movieShows rules server.movies item evidence)
    : (server.movieEntryWithHistory rules item).notification.Shows evidence := by
  have known := shows_movieEntry shown
  unfold movieEntryWithHistory
  cases server.movieHistoryEntry rules item with
  | none => exact known
  | some past =>
      refine NotificationState.Shows.update (NotificationState.shows_snapshot_iff.mpr ?_)
      exact ⟨_, List.mem_cons_self, known⟩

theorem movieEntry_texts (rules : TextRules) (server : ServerState) (item : CachedItem)
    : ((server.movieEntry rules item).itemId.getD "" = item.itemId
        ∧ (server.movieEntry rules item).signature.getD "" = item.signature)
      ∨ ∃ known,
          Alias server.movies item.names known
          ∧ ((server.movieEntry rules item).itemId.getD "" = item.itemId
            ∨ (server.movieEntry rules item).itemId = known.2.itemId)
          ∧ ((server.movieEntry rules item).signature.getD "" = item.signature
            ∨ (server.movieEntry rules item).signature = known.2.signature) := by
  have given (text : String) (other : Option String)
      : (if text ≠ "" then some text else other).getD "" = text
        ∨ (if text ≠ "" then some text else other) = other := by
    split
    · exact .inl rfl
    · exact .inr rfl
  unfold movieEntry
  dsimp only
  cases here
      : findMovieIdentityEntry rules server.movies item.movieKey item.itemId item.signature with
  | none =>
      left
      have bare (text : String) : (if text ≠ "" then some text else none).getD "" = text := by
        split
        · rfl
        · next missing => exact (not_not.mp missing).symm
      exact ⟨bare item.itemId, bare item.signature⟩
  | some found =>
      right
      obtain ⟨known, alias_, sameItem, sameSignature⟩ := find_alias here
      refine ⟨known, alias_, ?_, ?_⟩
      · rw [← sameItem]
        exact given ..
      · rw [← sameSignature]
        exact given ..

theorem tokens_movieEntry {token : IdentityToken}
    (carried : token ∈ tokens (item.movieKey, server.movieEntry rules item))
    : token ∈ item.names
      ∨ ∃ known, Alias server.movies item.names known ∧ token ∈ tokens known := by
  have texts := movieEntry_texts rules server item
  unfold CachedItem.names tokens at *
  rcases texts with ⟨sameItem, sameSignature⟩ | ⟨known, alias_, itemText, signatureText⟩
  · rw [sameItem, sameSignature] at carried
    exact .inl carried
  · simp only [mem_identityTokens_iff] at carried ⊢
    rcases carried with own | own | own
    · exact .inl (.inl own)
    · rcases itemText with same | same
      · exact .inl (.inr (.inl (same ▸ own)))
      · exact .inr ⟨known, alias_, .inr (.inl (same ▸ own))⟩
    · rcases signatureText with same | same
      · exact .inl (.inr (.inr (same ▸ own)))
      · exact .inr ⟨known, alias_, .inr (.inr (same ▸ own))⟩

/-- The record that a checkpoint leaves under the key of its movie. -/
def checkpointRecord (rules : TextRules) (server : ServerState) (item : CachedItem)
    (publicationKey : String) (delivered : Delivered) (required : List String)
    (notifiedAt : String)
    : MovieRecord :=
  let known := server.movieEntryWithHistory rules item
  { known with
    notification :=
      known.notification.applyDestinationState publicationKey delivered required notifiedAt }

theorem tokens_checkpointRecord
    : tokens (item.movieKey,
          checkpointRecord rules server item publicationKey delivered required notifiedAt)
      = tokens (item.movieKey, server.movieEntry rules item) := by
  unfold checkpointRecord movieEntryWithHistory
  cases server.movieHistoryEntry rules item with
  | none | some past => rfl

theorem movies_persistMovie (identified : item.itemId ≠ "")
    : (server.persistMovie rules item publicationKey delivered required notifiedAt).movies
      = (dropAliases (server.movies.set item.movieKey (server.movieEntry rules item)) item.names
          item.movieKey).set item.movieKey
          (checkpointRecord rules server item publicationKey delivered required notifiedAt) := by
  unfold persistMovie
  dsimp only
  rw [if_neg (CachedItem.movieKey_ne_empty identified)]
  rfl

theorem get?_persistMovie_self (identified : item.itemId ≠ "")
    : (server.persistMovie rules item publicationKey delivered required
          notifiedAt).movies.get? item.movieKey
      = some (checkpointRecord rules server item publicationKey delivered required
          notifiedAt) := by
  rw [movies_persistMovie identified]
  exact Dict.get?_set_self ..

theorem alias_of_set {entry : String × MovieRecord}
    (alias_
      : Alias (server.movies.set item.movieKey (server.movieEntry rules item)) item.names entry)
    : entry = (item.movieKey, server.movieEntry rules item)
      ∨ Alias server.movies item.names entry := by
  -- an entry under another key was there before
  have before {entry : String × MovieRecord}
      (member : entry ∈ (server.movies.set item.movieKey (server.movieEntry rules item)).items)
      : entry = (item.movieKey, server.movieEntry rules item)
        ∨ server.movies.get? entry.1 = some entry.2 := by
    have found := Dict.mem_items_iff.mp member
    rw [Dict.get?_set] at found
    split at found
    · next same => exact .inl (Prod.ext same (Option.some.inj found).symm)
    · exact .inr found
  induction alias_ with
  | seed member seeded =>
      refine (before member).imp_right (fun found => ?_)
      obtain ⟨token, named, carried⟩ := shareToken_iff.mp seeded
      exact alias_of_token found carried (.inl named)
  | step _ member follows ih =>
      refine (before member).imp_right (fun found => ?_)
      obtain ⟨token, shared, carried⟩ := shareToken_iff.mp follows
      rcases ih with rfl | known
      · exact alias_of_token found carried (tokens_movieEntry shared)
      · exact alias_of_token found carried (.inr ⟨_, known, shared⟩)

/-- A record stays as it is unless it belongs to the movie of the checkpoint. -/
theorem get?_persistMovie_of_not_alias (identified : item.itemId ≠ "")
    {entry : String × MovieRecord} (found : server.movies.get? entry.1 = some entry.2)
    (apart : ¬ Alias server.movies item.names entry)
    : (server.persistMovie rules item publicationKey delivered required
          notifiedAt).movies.get? entry.1
      = some entry.2 := by
  have differs : entry.1 ≠ item.movieKey := by
    intro same
    refine apart ?_
    have here : server.movies.get? item.movieKey = some entry.2 := same ▸ found
    have own := alias_of_key identified here
    rwa [← same] at own
  rw [movies_persistMovie identified, Dict.get?_set_ne _ _ differs]
  unfold dropAliases
  rw [Dict.get?_eraseWhere, if_neg, Dict.get?_set_ne _ _ differs]
  · exact found
  intro dropped
  simp only [Bool.and_eq_true, decide_eq_true_eq, List.mem_map, mem_matching_iff] at dropped
  obtain ⟨-, known, alias_, same⟩ := dropped
  rcases alias_of_set alias_ with rfl | before
  · exact differs same.symm
  · have here := before.get?
    rw [same, found] at here
    exact apart ((Prod.ext same (Option.some.inj here).symm : known = entry) ▸ before)

/-- An alias of any movie is united by the checkpoint or is still an alias of that movie, by
induction on its links.
-/
theorem alias_persistMovie (identified : item.itemId ≠ "") {names : List IdentityToken}
    {entry : String × MovieRecord} (alias_ : Alias server.movies names entry)
    : Alias server.movies item.names entry
      ∨ Alias
          (server.persistMovie rules item publicationKey delivered required notifiedAt).movies
          names entry := by
  by_cases united : Alias server.movies item.names entry
  · exact .inl united
  refine .inr ?_
  have stays {entry : String × MovieRecord} (member : entry ∈ server.movies.items)
      (apart : ¬ Alias server.movies item.names entry)
      : entry
        ∈ (server.persistMovie rules item publicationKey delivered required
            notifiedAt).movies.items :=
    Dict.mem_items_iff.mpr
      (get?_persistMovie_of_not_alias identified (Dict.mem_items_iff.mp member) apart)
  induction alias_ with
  | seed member seeded => exact .seed (stays member united) seeded
  | step _ member follows ih =>
      have before := ih (fun known => united (.step known member follows))
      exact .step before (stays member united) follows

theorem shows_checkpointRecord (shown : movieShows rules server.movies item evidence)
    (other : evidence ≠ .publication publicationKey)
    : (checkpointRecord rules server item publicationKey delivered required
        notifiedAt).notification.Shows evidence :=
  (shows_movieEntryWithHistory shown).applyDestinationState other

end Checkpoint

end ServerState

/-- All of the names are names of one movie, or none of them is. -/
def Uniform (mine : IdentityToken → Prop) (names : List IdentityToken) : Prop :=
  (∀ token ∈ names, mine token) ∨ ∀ token ∈ names, ¬ mine token

/-- No record has both names of the movie and other names. -/
def Separated (mine : IdentityToken → Prop) (entries : Dict String MovieRecord) : Prop :=
  ∀ entry : String × MovieRecord,
    entries.get? entry.1 = some entry.2 → Uniform mine (MovieRecord.tokens entry)

section Separated

open MovieRecord

variable {mine : IdentityToken → Prop} {names : List IdentityToken}
  {entries : Dict String MovieRecord} {entry : String × MovieRecord}

theorem Uniform.not (uniform : Uniform mine names) : Uniform (fun token => ¬ mine token) names :=
  uniform.symm.imp id (fun owned token member other => other (owned token member))

theorem Uniform.all (uniform : Uniform mine names) {token : IdentityToken}
    (member : token ∈ names) (owned : mine token)
    : ∀ token ∈ names, mine token :=
  uniform.resolve_right (fun none_ => none_ token member owned)

theorem Separated.not (separated : Separated mine entries)
    : Separated (fun token => ¬ mine token) entries :=
  fun entry found => (separated entry found).not

theorem Separated.alias (separated : Separated mine entries)
    (owned : ∀ token ∈ names, mine token) (alias_ : Alias entries names entry)
    : ∀ token ∈ tokens entry, mine token := by
  induction alias_ with
  | seed member seeded =>
      obtain ⟨token, named, carried⟩ := shareToken_iff.mp seeded
      exact (separated _ (Dict.mem_items_iff.mp member)).all carried (owned token named)
  | step _ member follows ih =>
      obtain ⟨token, shared, carried⟩ := shareToken_iff.mp follows
      exact (separated _ (Dict.mem_items_iff.mp member)).all carried (ih token shared)

theorem exists_token_of_alias (alias_ : Alias entries names entry)
    : ∃ token, token ∈ tokens entry := by
  cases alias_ with
  | seed member seeded =>
      obtain ⟨token, -, carried⟩ := shareToken_iff.mp seeded
      exact ⟨token, carried⟩
  | step _ member follows =>
      obtain ⟨token, -, carried⟩ := shareToken_iff.mp follows
      exact ⟨token, carried⟩

variable {rules : TextRules} {server : ServerState} {item movie : CachedItem}
  {publicationKey checkpointKey : String} {delivered : Delivered} {required : List String}
  {notifiedAt : String} {evidence : Evidence}

theorem Separated.all_of_alias (separated : Separated mine entries)
    (uniform : Uniform mine item.names) (alias_ : Alias entries item.names entry)
    {token : IdentityToken} (carried : token ∈ tokens entry) (owned : mine token)
    : ∀ token ∈ item.names, mine token :=
  uniform.resolve_right (fun others => separated.not.alias others alias_ token carried owned)

theorem Separated.persistMovie (separated : Separated mine server.movies)
    (uniform : Uniform mine item.names) (identified : item.itemId ≠ "")
    : Separated mine
        (server.persistMovie rules item checkpointKey delivered required
          notifiedAt).movies := by
  have record : Uniform mine (tokens (item.movieKey, server.movieEntry rules item)) := by
    rcases uniform with owned | others
    · refine .inl (fun token carried => ?_)
      rcases ServerState.tokens_movieEntry carried with named | ⟨known, alias_, shared⟩
      · exact owned token named
      · exact separated.alias owned alias_ token shared
    · refine .inr (fun token carried => ?_)
      rcases ServerState.tokens_movieEntry carried with named | ⟨known, alias_, shared⟩
      · exact others token named
      · exact separated.not.alias others alias_ token shared
  intro entry found
  obtain ⟨key, value⟩ := entry
  by_cases same : key = item.movieKey
  · subst same
    rw [ServerState.get?_persistMovie_self identified] at found
    have here
        : ServerState.checkpointRecord rules server item checkpointKey delivered required notifiedAt
          = value :=
      Option.some.inj found
    rw [← here, ServerState.tokens_checkpointRecord]
    exact record
  · rw [ServerState.movies_persistMovie identified, Dict.get?_set_ne _ _ same] at found
    unfold ServerState.dropAliases at found
    rw [Dict.get?_eraseWhere, Option.ite_none_left_eq_some, Dict.get?_set_ne _ _ same] at found
    exact separated (key, value) found.2

theorem Separated.movieShows (separated : Separated mine server.movies)
    (uniform : Uniform mine item.names) (identified : item.itemId ≠ "")
    (owned : ∀ token ∈ movie.names, mine token) (known : movie.itemId ≠ "")
    (sameKey : (∀ token ∈ item.names, mine token) → item.movieKey = movie.movieKey)
    (shown : movieShows rules server.movies movie evidence)
    (other : evidence ≠ .publication checkpointKey)
    : movieShows rules
        (server.persistMovie rules item checkpointKey delivered required notifiedAt).movies movie
        evidence := by
  obtain ⟨entry, alias_, here⟩ := movieShows_iff.mp shown
  rcases ServerState.alias_persistMovie identified alias_ with united | kept
  · obtain ⟨token, carried⟩ := exists_token_of_alias alias_
    have same :=
      sameKey
        (separated.all_of_alias uniform united carried
          (separated.alias owned alias_ token carried))
    have found
        : (server.persistMovie rules item checkpointKey delivered required
              notifiedAt).movies.get? item.movieKey
          = _ :=
      ServerState.get?_persistMovie_self identified
    rw [same] at found
    exact movieShows_of_key known found
      (ServerState.shows_checkpointRecord (movieShows_iff.mpr ⟨entry, united, here⟩) other)
  · exact movieShows_iff.mpr ⟨entry, kept, here⟩

theorem Separated.complete (separated : Separated mine server.movies)
    (uniform : Uniform mine item.names) (identified : item.itemId ≠ "")
    (owned : ∀ token ∈ movie.names, mine token) (known : movie.itemId ≠ "")
    (sameKey : (∀ token ∈ item.names, mine token) → item.movieKey = movie.movieKey)
    {destinations : List String} (some_ : required ≠ [])
    (subset : checkpointKey = publicationKey → required ⊆ destinations)
    (complete
      : ∃ record ∈ server.movies.get? movie.movieKey,
          record.notification.Complete publicationKey destinations)
    : ∃ record
        ∈ (server.persistMovie rules item checkpointKey delivered required
            notifiedAt).movies.get? movie.movieKey,
        record.notification.Complete publicationKey destinations := by
  obtain ⟨record, found, before⟩ := complete
  have own := alias_of_key known (Option.mem_def.mp found)
  by_cases united : Alias server.movies item.names (movie.movieKey, record)
  · obtain ⟨token, carried⟩ := exists_token_of_alias own
    have same :=
      sameKey
        (separated.all_of_alias uniform united carried
          (separated.alias owned own token carried))
    refine
      ⟨ServerState.checkpointRecord rules server item checkpointKey delivered required notifiedAt,
        ?_, ?_⟩
    · rw [← same]
      exact ServerState.get?_persistMovie_self identified
    · refine NotificationState.Complete.applyDestinationState (before.of_shows ?_) some_ subset
      intro evidence shown
      exact ServerState.shows_movieEntryWithHistory
        (movieShows_iff.mpr ⟨_, united, shown⟩)
  · exact ⟨record, ServerState.get?_persistMovie_of_not_alias identified
      (Option.mem_def.mp found) united, before⟩

end Separated

end OctoHubs.Latest
