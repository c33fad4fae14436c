import OctoHubs.Latest.DispatchDeliveries
import OctoHubs.Latest.TitleCheckpoints

/-! From the deliveries of a dispatch to the state that it leaves.
Every checkpoint keeps what the titles of its server show, the one of a publication completes it,
and the merge with the stored state loses neither.
-/

namespace OctoHubs.Latest

open OctoHubs.Library

-- The names of a publication

theorem isSpace_colon : isSpace ':' = false := by
  decide

namespace CachedItem

variable {item other : CachedItem}

theorem named_of_publicationSignature (item : CachedItem)
    (named : publicationSignature item.entry ≠ "")
    : item.serverId ≠ "" ∧ item.itemId ≠ "" := by
  unfold publicationSignature at named
  dsimp only at named
  split at named
  · exact absurd rfl named
  · next titled =>
      unfold itemSignature at titled
      dsimp only at titled
      split at titled
      · next identified => exact identified
      · exact absurd rfl titled

theorem itemSignature_eq (server : item.serverId ≠ "") (identified : item.itemId ≠ "")
    : itemSignature item.entry = item.serverId ++ ":" ++ item.itemId :=
  if_pos ⟨server, identified⟩

theorem colon_ne_empty {left right : String} : left ++ ":" ++ right ≠ "" := by
  intro bare
  rw [String.append_eq_empty_iff, String.append_eq_empty_iff] at bare
  exact absurd bare.1.2 (by decide)

theorem publicationStateKey_ne_empty (server : item.serverId ≠ "")
    (identified : item.itemId ≠ "")
    : publicationStateKey item.entry ≠ "" := by
  unfold publicationStateKey
  dsimp only
  split
  · next batch => exact batch
  split
  · exact colon_ne_empty
  · rw [itemSignature_eq server identified]
    exact colon_ne_empty

theorem publicationSignature_eq (server : item.serverId ≠ "") (identified : item.itemId ≠ "")
    : publicationSignature item.entry
      = item.serverId ++ ":" ++ item.itemId ++ ":" ++ publicationStateKey item.entry := by
  unfold publicationSignature
  dsimp only
  rw [itemSignature_eq server identified, if_neg colon_ne_empty,
    if_pos (publicationStateKey_ne_empty server identified)]
  rfl

theorem publicationSignature_toList (server : item.serverId ≠ "")
    (identified : item.itemId ≠ "")
    : (publicationSignature item.entry).toList
      = item.serverId.toList
        ++ ':' :: (item.itemId.toList ++ ':' :: (publicationStateKey item.entry).toList) := by
  have colon : (":" : String).toList = [':'] := rfl
  rw [publicationSignature_eq server identified]
  simp only [String.toList_append, colon, List.append_assoc, List.cons_append, List.nil_append]

theorem publicationSignature_inj (named : publicationSignature item.entry ≠ "")
    (same : publicationSignature other.entry = publicationSignature item.entry)
    : other.serverId = item.serverId
      ∧ other.itemId = item.itemId
      ∧ publicationStateKey other.entry = publicationStateKey item.entry := by
  obtain ⟨server, identified⟩ := named_of_publicationSignature item named
  obtain ⟨otherServer, otherIdentified⟩ :=
    named_of_publicationSignature other (by rw [same]; exact named)
  have chars := congrArg String.toList same
  rw [publicationSignature_toList server identified,
    publicationSignature_toList otherServer otherIdentified] at chars
  have separate {text : String} (identifier : IsIdentifier text) : ':' ∉ text.toList :=
    fun member => (identifier ':' member).2 rfl
  obtain ⟨servers, rests⟩ :=
    append_separator_inj (separate other.serverIdentified) (separate item.serverIdentified) chars
  obtain ⟨items, keys⟩ :=
    append_separator_inj (separate other.itemIdentified) (separate item.itemIdentified) rests
  exact ⟨String.ext servers, String.ext items, String.ext keys⟩

theorem strip_join (first second third : String)
    : strip (strip first ++ ":" ++ second ++ ":" ++ strip third)
      = strip first ++ ":" ++ second ++ ":" ++ strip third := by
  have colon : (":" : String).toList = [':'] := rfl
  refine strip_of_ends (fun c starts => ?_) (fun c ends => ?_)
  · simp only [String.toList_append, colon, List.append_assoc, List.head?_append,
      List.head?_cons, List.cons_append, Option.or_eq_some_iff] at starts
    rcases starts with own | ⟨-, here⟩
    · exact strip_starts own
    · cases Option.some.inj here
      exact isSpace_colon
  · simp only [String.toList_append, colon, List.getLast?_append,
      Option.or_eq_some_iff] at ends
    rcases ends with own | ⟨-, here⟩
    · exact strip_ends own
    rcases here with last | ⟨nothing, -⟩
    · cases Option.some.inj last
      exact isSpace_colon
    · cases nothing

theorem strip_publicationStateKey
    : strip (publicationStateKey item.entry) = publicationStateKey item.entry := by
  unfold publicationStateKey
  dsimp only
  split
  · exact strip_strip _
  split
  · exact strip_join _ _ _
  · unfold itemSignature
    dsimp only
    split
    · refine strip_of_solid (fun c member => ?_)
      simp only [String.toList_append, List.mem_append] at member
      rcases member with (server | colon) | identifier
      · exact (item.serverIdentified c server).1
      · cases List.mem_singleton.mp colon
        exact isSpace_colon
      · exact (item.itemIdentified c identifier).1
    · rfl

end CachedItem

-- Checkpoints of a run

namespace ServerState

variable {rules : TextRules} {server : ServerState} {kind : MediaKind} {title : CachedItem}
  {mine : IdentityToken → Prop} {destinations : List String} {notifiedAt : String}
  {updates : List DeliveryUpdate} {update : DeliveryUpdate}

/-- The checkpoints of one server, in their order. -/
def persistUpdates (rules : TextRules) (server : ServerState) (updates : List DeliveryUpdate)
    (notifiedAt : String)
    : ServerState :=
  updates.foldl (fun server update => server.persistUpdate rules update notifiedAt) server

/-- An update that fits the title and asks for no more of its publication than is required. -/
structure Fitting (rules : TextRules) (mine : IdentityToken → Prop) (title : CachedItem)
    (destinations : List String) (update : DeliveryUpdate)
    : Prop where
  fits : Fits rules mine title update.item
  some_ : update.required ≠ []
  subset
    : update.checkpointKey = publicationStateKey title.entry → update.required ⊆ destinations

theorem separated_persistUpdates (notifiedAt : String) (separated : Separated mine server.movies)
    (fitting : ∀ update ∈ updates, Fitting rules mine title destinations update)
    : Separated mine (server.persistUpdates rules updates notifiedAt).movies := by
  induction updates generalizing server with
  | nil => exact separated
  | cons update rest ih =>
      exact ih (separated_persistUpdate separated (fitting update List.mem_cons_self).fits)
        (fun known member => fitting known (List.mem_cons_of_mem _ member))

theorem Shows.persistUpdates {publicationKey key : String}
    (shown : server.Shows rules kind title (.destination publicationKey key))
    (notifiedAt : String)
    (separated : Separated mine server.movies) (identified : title.itemId ≠ "")
    (owned : kind = .movie → ∀ token ∈ title.names, mine token)
    (fitting : ∀ update ∈ updates, Fitting rules mine title destinations update)
    : (server.persistUpdates rules updates notifiedAt).Shows rules kind title
          (.destination publicationKey key) := by
  induction updates generalizing server with
  | nil => exact shown
  | cons update rest ih =>
      have fits := (fitting update List.mem_cons_self).fits
      exact ih (shown.persistUpdate separated fits identified owned (fun same => by cases same))
        (separated_persistUpdate separated fits)
        (fun known member => fitting known (List.mem_cons_of_mem _ member))

theorem Completed.persistUpdates
    (completed : server.Completed kind title (publicationStateKey title.entry) destinations)
    (separated : Separated mine server.movies) (identified : title.itemId ≠ "")
    (owned : kind = .movie → ∀ token ∈ title.names, mine token)
    (fitting : ∀ update ∈ updates, Fitting rules mine title destinations update)
    : (server.persistUpdates rules updates notifiedAt).Completed kind title
          (publicationStateKey title.entry) destinations := by
  induction updates generalizing server with
  | nil => exact completed
  | cons update rest ih =>
      have here := fitting update List.mem_cons_self
      exact ih
        (completed.persistUpdate separated here.fits identified owned here.some_ here.subset)
        (separated_persistUpdate separated here.fits)
        (fun known member => fitting known (List.mem_cons_of_mem _ member))

/-- A run of checkpoints completes the publication that one of them is for: those before it
hide nothing, and those after it take nothing back.
-/
theorem completed_persistUpdates (notifiedAt : String)
    (separated : Separated mine server.movies)
    (owned : kind = .movie → ∀ token ∈ title.names, mine token)
    (fitting : ∀ update ∈ updates, Fitting rules mine title destinations update)
    (member : update ∈ updates) (kind_ : update.item.mediaKind rules = some kind)
    (sameItem : update.item.itemId = title.itemId)
    (sameSignature : update.item.signature = title.signature)
    (sameKey : update.checkpointKey = publicationStateKey title.entry)
    (reached
      : ∀ key ∈ destinations,
          server.Shows rules kind title (.destination (publicationStateKey title.entry) key)
          ∨ key ∈ update.delivered.keys)
    : (server.persistUpdates rules updates notifiedAt).Completed kind title
          (publicationStateKey title.entry) destinations := by
  have here := fitting update member
  have identified : title.itemId ≠ "" := by
    rw [← sameItem]
    exact here.fits.identified
  obtain ⟨before, after, rfl⟩ := List.append_of_mem member
  have front (known : DeliveryUpdate) (earlier : known ∈ before) :=
    fitting known (List.mem_append_left _ earlier)
  have back (known : DeliveryUpdate) (later : known ∈ after) :=
    fitting known (List.mem_append_right _ (List.mem_cons_of_mem _ later))
  have split
      : server.persistUpdates rules (before ++ update :: after) notifiedAt
        = ((server.persistUpdates rules before notifiedAt).persistUpdate rules update
            notifiedAt).persistUpdates rules after notifiedAt := by
    unfold persistUpdates
    rw [List.foldl_append, List.foldl_cons]
  rw [split]
  have separatedFront := separated_persistUpdates notifiedAt separated front
  have shown
      : ∀ key ∈ destinations,
          (server.persistUpdates rules before notifiedAt).Shows rules kind title
            (.destination update.checkpointKey key)
          ∨ key ∈ update.delivered.keys := by
    intro key required
    rw [sameKey]
    exact (reached key required).imp_left (fun recorded =>
      Shows.persistUpdates recorded notifiedAt separated identified owned front)
  have completed :=
    completed_persistUpdate notifiedAt kind_ sameItem sameSignature identified
      shown here.some_ (here.subset sameKey)
  rw [sameKey] at completed
  exact completed.persistUpdates (separated_persistUpdate separatedFront here.fits) identified
    owned back

end ServerState

namespace LatestState

variable {rules : TextRules} {state : LatestState} {serverId notifiedAt : String}
  {item : CachedItem} {evidence : Evidence}

/-- What is remembered of a server, which may be nothing. -/
def server (state : LatestState) (serverId : String) : ServerState :=
  (state.get? serverId).getD .empty

def Shows (rules : TextRules) (state : LatestState) (item : CachedItem) (evidence : Evidence)
    : Prop :=
  ∃ entry ∈ itemStateEntry rules state item, entry.Shows evidence

theorem shows_iff
    : Shows rules state item evidence
      ↔ item.serverId ≠ ""
        ∧ ∃ server ∈ state.get? item.serverId,
            ∃ kind,
              item.mediaKind rules = some kind
              ∧ (kind = .series → item.seriesKey ≠ "")
              ∧ server.Shows rules kind item evidence := by
  unfold Shows itemStateEntry
  by_cases bare : item.serverId = ""
  · simp [bare]
  rw [if_neg bare, and_iff_right bare]
  cases state.get? item.serverId with
  | none => simp
  | some server =>
      cases item.mediaKind rules with
      | none => simp
      | some kind =>
          cases kind with
          | movie =>
              simp [ServerState.Shows, MovieRecord.movieShows, MovieRecord.lookupShows,
                itemStateEntry.findMovieIdentityEntry]
          | series =>
              by_cases unnamed : item.seriesKey = ""
              · simp [unnamed]
              · simp [unnamed, ServerState.Shows]

theorem server_foldl (named : serverId ≠ "") (updates : List DeliveryUpdate)
    : server (updates.foldl (persistOneUpdate rules notifiedAt) state) serverId
      = (server state serverId).persistUpdates rules
          (updates.filter (fun update => update.item.serverId = serverId)) notifiedAt := by
  induction updates generalizing state with
  | nil => rfl
  | cons update rest ih =>
      rw [List.foldl_cons, ih]
      by_cases same : update.item.serverId = serverId
      · rw [List.filter_cons_of_pos (by simp [same])]
        unfold persistOneUpdate server
        dsimp only
        rw [same, if_neg named, Dict.get?_set_self]
        rfl
      · rw [List.filter_cons_of_neg (by simp [same])]
        unfold persistOneUpdate server
        dsimp only
        split
        · rfl
        · rw [Dict.get?_set_ne _ _ (Ne.symm same)]

theorem get?_mergeNotificationUpdates {current updated : LatestState}
    : (current.mergeNotificationUpdates updated).get? serverId
      = ((updated.get? serverId).map (server current serverId).mergeNotificationUpdates).or
          (current.get? serverId) :=
  Dict.get?_joinWith ..

theorem Shows.persistDeliveryUpdates (shown : Shows rules state item evidence)
    (updates : Dict String DeliveryUpdate)
    : Shows rules (persistDeliveryUpdates rules notifiedAt state updates) item evidence := by
  unfold LatestState.persistDeliveryUpdates
  dsimp only
  split
  · exact shown
  rw [shows_iff] at shown ⊢
  obtain ⟨named, stored, found, kind, kind_, keyed, here⟩ := shown
  refine ⟨named, ?_⟩
  rw [get?_mergeNotificationUpdates, Option.mem_def.mp found]
  unfold server
  rw [Option.mem_def.mp found]
  generalize Dict.get? (List.foldl _ state _) item.serverId = updated
  cases updated with
  | none => exact ⟨stored, rfl, kind, kind_, keyed, here⟩
  | some source => exact ⟨_, rfl, kind, kind_, keyed, here.mergeNotificationUpdates⟩

theorem mem_writtenUpdates_iff {updates : Dict String DeliveryUpdate} {update : DeliveryUpdate}
    : update ∈ writtenUpdates updates
      ↔ (∃ signature, updates.get? signature = some update) ∧ update.delivered.keys ≠ [] := by
  unfold writtenUpdates
  rw [List.mem_filter, Dict.mem_values_iff, decide_eq_true_eq]

theorem completed_persistDeliveryUpdates {kind : MediaKind} {title : CachedItem}
    {publicationKey : String} {destinations : List String} (named : serverId ≠ "")
    {updates : Dict String DeliveryUpdate} {update : DeliveryUpdate}
    (written : update ∈ writtenUpdates updates)
    (completed
      : ((server state serverId).persistUpdates rules
            ((writtenUpdates updates).filter (fun update => update.item.serverId = serverId))
            notifiedAt).Completed
          kind title publicationKey destinations)
    : (server (persistDeliveryUpdates rules notifiedAt state updates) serverId).Completed kind title
        publicationKey destinations := by
  rw [← server_foldl named] at completed
  unfold LatestState.persistDeliveryUpdates
  dsimp only
  rw [if_neg (List.ne_nil_of_mem written)]
  unfold server at completed ⊢
  rw [get?_mergeNotificationUpdates]
  cases found
      : Dict.get? ((writtenUpdates updates).foldl (persistOneUpdate rules notifiedAt) state)
        serverId with
  | none =>
      rw [found] at completed
      exact (ServerState.not_completed_empty completed).elim
  | some source =>
      rw [found] at completed
      exact ServerState.Completed.mergeNotificationUpdates _ completed

end LatestState

-- Connected names

namespace DispatchInputs

variable (inputs : DispatchInputs) (item : CachedItem)

/-- The names of the movies of a server, as they are stored and as they are cached. -/
def movieNames : List (List IdentityToken) :=
  (inputs.state.server item.serverId).movies.items.map MovieRecord.tokens
  ++ (inputs.items.filter (fun other =>
      other.serverId = item.serverId
      && other.mediaKind inputs.rules = some .movie)).map (·.names)

/-- Those that lead from the names of a movie to others of its names. -/
def connectedNames : List (List IdentityToken) :=
  absorb (shareToken item.names) shareToken (inputs.movieNames item)

/-- All cached movies that are connected to the movie have its key. -/
def UnderOneKey : Prop :=
  ∀ other ∈ inputs.items,
    other.serverId = item.serverId
    → other.mediaKind inputs.rules = some .movie
    → other.names ∈ inputs.connectedNames item
    → other.movieKey = item.movieKey

instance : Decidable (inputs.UnderOneKey item) := by
  unfold UnderOneKey
  infer_instance

/-- A name of the movie, be it connected. -/
def Mine (token : IdentityToken) : Prop :=
  token ∈ item.names ∨ ∃ names ∈ inputs.connectedNames item, token ∈ names

variable {inputs item}

theorem mem_connectedNames {names : List IdentityToken} (member : names ∈ inputs.movieNames item)
    {token : IdentityToken} (carried : token ∈ names) (mine : inputs.Mine item token)
    : names ∈ inputs.connectedNames item := by
  refine mem_absorb_iff.mpr ?_
  rcases mine with own | ⟨known, connected, shared⟩
  · exact .seed member (MovieRecord.shareToken_iff.mpr ⟨token, own, carried⟩)
  · exact .step (mem_absorb_iff.mp connected) member
      (MovieRecord.shareToken_iff.mpr ⟨token, shared, carried⟩)

theorem uniform_of_mem {names : List IdentityToken} (member : names ∈ inputs.movieNames item)
    : Uniform (inputs.Mine item) names := by
  by_cases shared : ∃ token ∈ names, inputs.Mine item token
  · obtain ⟨token, carried, mine⟩ := shared
    have connected := mem_connectedNames member carried mine
    exact .inl (fun other here => .inr ⟨names, connected, here⟩)
  · exact .inr (fun token carried mine => shared ⟨token, carried, mine⟩)

theorem separated_mine
    : Separated (inputs.Mine item) (inputs.state.server item.serverId).movies :=
  fun _ found =>
    uniform_of_mem (List.mem_append_left _
      (List.mem_map_of_mem (Dict.mem_items_iff.mpr found)))

theorem fits_mine (oneKey : inputs.UnderOneKey item) {other : CachedItem}
    (cached : other ∈ inputs.items) (same : other.serverId = item.serverId)
    (identified : other.itemId ≠ "")
    : ServerState.Fits inputs.rules (inputs.Mine item) item other where
  identified
  uniform kind_ := by
    refine uniform_of_mem (List.mem_append_right _ (List.mem_map_of_mem ?_))
    exact List.mem_filter.mpr ⟨cached, by simp [same, kind_]⟩
  sameKey kind_ owned := by
    have key := CachedItem.key_mem_names identified
    have member : other.names ∈ inputs.movieNames item := by
      refine List.mem_append_right _ (List.mem_map_of_mem ?_)
      exact List.mem_filter.mpr ⟨cached, by simp [same, kind_]⟩
    exact oneKey other cached same kind_ (mem_connectedNames member key (owned _ key))

end DispatchInputs

end OctoHubs.Latest
