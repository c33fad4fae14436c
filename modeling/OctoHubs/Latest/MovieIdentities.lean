import OctoHubs.Latest.NotificationEvidence
import OctoHubs.Library.Absorption
import OctoHubs.Library.Grouping

/-! Records of movies and the identities that connect them.
A movie is stored under its provider signature or its item; when either changes, the old records
stay as aliases, and a lookup unites all records that are connected through a shared name.
-/

namespace OctoHubs.Latest

open OctoHubs.Library

structure MovieRecord where
  itemId : Option String
  signature : Option String
  title : String
  year : Option String
  lastSeenAt : String
  mediaSourceKeys : List String
  mediainfoSourceKeys : List String
  mediainfoComplete : Bool
  notification : NotificationState
deriving DecidableEq

/-- A name of a movie: its key in the store, its item or its provider signature. -/
inductive IdentityToken
  | key (text : String)
  | item (text : String)
  | signature (text : String)
deriving DecidableEq

def identityTokens (stateKey itemId signature : String) : List IdentityToken :=
  [(IdentityToken.key, stateKey), (.item, itemId), (.signature, signature)].filterMap
    (fun (token, value) =>
      let text := strip value
      if text = "" then none else some (token text))

def shareToken (left right : List IdentityToken) : Bool := left.any (· ∈ right)

theorem mem_identityTokens_iff {token : IdentityToken} {stateKey itemId signature : String}
    : token ∈ identityTokens stateKey itemId signature
      ↔ strip stateKey ≠ "" ∧ token = .key (strip stateKey)
        ∨ strip itemId ≠ "" ∧ token = .item (strip itemId)
        ∨ strip signature ≠ "" ∧ token = .signature (strip signature) := by
  have taken (make : String → IdentityToken) (value : String)
      : (if strip value = "" then none else some (make (strip value))) = some token
        ↔ strip value ≠ "" ∧ token = make (strip value) := by
    rw [Option.ite_none_left_eq_some, Option.some.injEq, @eq_comm _ token]
  unfold identityTokens
  simp [List.mem_filterMap, taken]

namespace MovieRecord

def tokens (entry : String × MovieRecord) : List IdentityToken :=
  identityTokens entry.1 (entry.2.itemId.getD "") (entry.2.signature.getD "")

/-- Every record that belongs to the movie with these names. -/
def matchingMovieIdentityEntries (entries : Dict String MovieRecord)
    (names : List IdentityToken)
    : List (String × MovieRecord) :=
  absorb (fun entry => shareToken names (tokens entry))
    (fun left right => shareToken (tokens left) (tokens right)) entries.items

def sortedTexts (texts : List String) : List String := texts.dedup.insertionSort (· ≤ ·)

/-- The record with the media information that all the records cover together. -/
def withMediainfoSnapshot (record : MovieRecord) (records : List MovieRecord) : MovieRecord :=
  let sourceKeys :=
    sortedTexts (records.flatMap (fun known =>
      (known.mediaSourceKeys.map strip).filter (· ≠ "")))
  let mediainfoKeys :=
    sortedTexts (records.flatMap (fun known =>
      (known.mediainfoSourceKeys.map strip).filter (· ≠ "")))
  { record with
    mediaSourceKeys := sourceKeys
    mediainfoSourceKeys := mediainfoKeys
    mediainfoComplete := !sourceKeys.isEmpty && sourceKeys.all (· ∈ mediainfoKeys) }

section Lookup

variable (rules : TextRules)

def withNotificationSnapshot (record : MovieRecord) (records : List MovieRecord)
    : MovieRecord :=
  { record with
    notification :=
      record.notification.update
        (.notificationSnapshot rules (records.map (fun known => some known.notification))) }

def preference (stateKey : String) (entry : String × MovieRecord) : Nat ×ₗ Nat ×ₗ Nat :=
  let state := entry.2.notification
  toLex (state.notified.toNat,
    toLex ((state.notifiedPublications.isSome || state.notifiedDestinations.isSome).toNat,
      (decide (entry.1 = strip stateKey)).toNat))

def findMovieIdentityEntry (entries : Dict String MovieRecord)
    (stateKey itemId signature : String)
    : Option (String × MovieRecord) :=
  match matchingMovieIdentityEntries entries (identityTokens stateKey itemId signature) with
  | [] => none
  | first :: rest =>
      let (key, preferred) :=
        rest.foldl (fun best entry =>
          if preference stateKey entry > preference stateKey best then entry else best) first
      let records := (first :: rest).map Prod.snd
      some
        (key, (preferred.withMediainfoSnapshot records).withNotificationSnapshot rules records)

end Lookup

/-- The record belongs to the movie with these names. -/
abbrev Alias (entries : Dict String MovieRecord) (names : List IdentityToken)
    (entry : String × MovieRecord)
    : Prop :=
  Reached (fun entry => shareToken names (tokens entry))
    (fun left right => shareToken (tokens left) (tokens right)) entries.items entry

theorem shareToken_iff {left right : List IdentityToken}
    : shareToken left right = true ↔ ∃ token ∈ left, token ∈ right := by
  simp only [shareToken, List.any_eq_true, decide_eq_true_eq]

variable {rules : TextRules} {entries : Dict String MovieRecord} {names : List IdentityToken}

theorem mem_matching_iff {entry : String × MovieRecord}
    : entry ∈ matchingMovieIdentityEntries entries names ↔ Alias entries names entry :=
  mem_absorb_iff

theorem preferred_mem {stateKey : String} (first : String × MovieRecord)
    (rest : List (String × MovieRecord))
    : rest.foldl
        (fun best entry =>
          if preference stateKey entry > preference stateKey best then entry else best) first
      ∈ first :: rest :=
  foldl_choose_mem _ (fun _ _ => (ite_eq_or_eq _ _ _).symm) first rest

theorem find_alias {stateKey itemId signature : String} {found : String × MovieRecord}
    (here : findMovieIdentityEntry rules entries stateKey itemId signature = some found)
    : ∃ entry,
        Alias entries (identityTokens stateKey itemId signature) entry
        ∧ found.2.itemId = entry.2.itemId
        ∧ found.2.signature = entry.2.signature := by
  simp only [← mem_matching_iff]
  unfold findMovieIdentityEntry at here
  cases matching
      : matchingMovieIdentityEntries entries (identityTokens stateKey itemId signature) with
  | nil =>
      rw [matching] at here
      cases here
  | cons first rest =>
      rw [matching] at here
      cases Option.some.inj here
      exact ⟨_, preferred_mem first rest, rfl, rfl⟩

/-- The notifications that a lookup finds, if it finds anything. -/
def lookupShows (rules : TextRules) (entries : Dict String MovieRecord)
    (stateKey itemId signature : String) (evidence : Evidence)
    : Prop :=
  ∃ found ∈ findMovieIdentityEntry rules entries stateKey itemId signature,
    found.2.notification.Shows evidence

theorem lookupShows_iff {stateKey itemId signature : String} {evidence : Evidence}
    : lookupShows rules entries stateKey itemId signature evidence
      ↔ ∃ entry,
          Alias entries (identityTokens stateKey itemId signature) entry
          ∧ entry.2.notification.Shows evidence := by
  simp only [← mem_matching_iff]
  unfold lookupShows findMovieIdentityEntry
  cases matchingMovieIdentityEntries entries (identityTokens stateKey itemId signature) with
  | nil => simp
  | cons first rest =>
      simp only [Option.mem_def, Option.some.injEq, exists_eq_left']
      constructor
      · intro shown
        rcases NotificationState.shows_of_update shown with united | own
        · obtain ⟨state, member, known⟩ := NotificationState.shows_snapshot_iff.mp united
          simp only [List.map_map, List.mem_map, Function.comp_apply, Option.some.injEq] at member
          obtain ⟨entry, member, rfl⟩ := member
          exact ⟨entry, member, known⟩
        · exact ⟨_, preferred_mem first rest, own⟩
      · intro shown
        obtain ⟨entry, member, known⟩ := shown
        refine NotificationState.Shows.update (NotificationState.shows_snapshot_iff.mpr ?_)
        exact ⟨_, List.mem_map_of_mem (List.mem_map_of_mem member), known⟩

end MovieRecord

end OctoHubs.Latest
