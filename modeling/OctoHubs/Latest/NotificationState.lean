import OctoHubs.Latest.Entries
import OctoHubs.Library.Merging
import OctoHubs.Library.Text

/-! What a title remembers about its notifications.
Each publication of the title has its destinations; a snapshot unites what several records
of the title remember, and a checkpoint adds what was delivered.
-/

namespace OctoHubs.Latest

open OctoHubs.Library

def itemSignature (item : LatestEntry) : String :=
  let serverId := item.serverId.getD ""
  let itemId := item.itemId.getD ""
  if serverId ≠ "" ∧ itemId ≠ "" then s!"{serverId}:{itemId}" else ""

/-- The name of a publication among those of its title. -/
def publicationStateKey (item : LatestEntry) : String :=
  let batchId := strip (item.batchId.get.getD "")
  if batchId ≠ "" then batchId
  else
    let addedAt := strip (item.addedAt.get.getD "")
    let updateType := strip (item.updateType.get.getD "")
    let updateLabel := strip (item.updateLabel.get.getD "")
    if addedAt ≠ "" ∨ updateType ≠ "" ∨ updateLabel ≠ "" then
      s!"{updateType}:{updateLabel}:{addedAt}"
    else itemSignature item

def publicationSignature (item : LatestEntry) : String :=
  let signature := itemSignature item
  let publicationKey := publicationStateKey item
  if signature = "" then ""
  else if publicationKey ≠ "" then s!"{signature}:{publicationKey}"
  else signature

structure Destination where
  botId : String
  chatId : String
  notifiedAt : String
deriving DecidableEq

/-- One publication; an older record may have no destinations but only the flag. -/
structure PublicationState where
  notified : Bool
  notifiedAt : String
  notifiedDestinations : Option (Dict String Destination)
deriving DecidableEq

structure NotificationState where
  notified : Bool
  notifiedAt : String
  notifiedDestinations : Option (Dict String Destination)
  notifiedPublications : Option (Dict String PublicationState)
deriving DecidableEq

def PublicationState.empty : PublicationState := ⟨false, "", none⟩

def NotificationState.empty : NotificationState := ⟨false, "", none, none⟩

/-- An empty dictionary is not written. -/
def nonempty {ν : Type} (dict : Dict String ν) : Option (Dict String ν) :=
  if dict.keys = [] then none else some dict

def PublicationState.destinations (publication : PublicationState) : Dict String Destination :=
  publication.notifiedDestinations.getD ∅

namespace NotificationState

variable (state : NotificationState)

def destinations : Dict String Destination := state.notifiedDestinations.getD ∅

def publications : Dict String PublicationState := state.notifiedPublications.getD ∅

def destinationNotified (publicationKey key : String) : Bool :=
  match state.publications.get? publicationKey with
  | none => false
  | some publication =>
      match publication.notifiedDestinations with
      | some destinations => (destinations.get? key).isSome
      | none => publication.notified

end NotificationState

section Snapshots

variable (rules : TextRules)

def laterTimestamp (current candidate : String) : String :=
  let candidateText := strip candidate
  if candidateText = "" then current
  else
    match rules.parseDateValue current, rules.parseDateValue candidateText with
    | none, _ => candidateText
    | some currentAt, some candidateAt =>
        if candidateAt > currentAt then candidateText else current
    | some _, none => current

/-- The publication in a snapshot and in one more record. -/
def mergePublicationNotifications (current publication : PublicationState)
    : PublicationState where
  notified := current.notified || publication.notified
  notifiedAt := laterTimestamp rules current.notifiedAt publication.notifiedAt
  notifiedDestinations :=
    (nonempty (current.destinations.update publication.destinations)).or
      (publication.notifiedDestinations.or current.notifiedDestinations)

namespace NotificationState

/-- One more record in a snapshot. -/
def absorb (snapshot entry : NotificationState) : NotificationState where
  notified := snapshot.notified || entry.notified
  notifiedAt := laterTimestamp rules snapshot.notifiedAt entry.notifiedAt
  notifiedDestinations := nonempty (snapshot.destinations.update entry.destinations)
  notifiedPublications :=
    nonempty (snapshot.publications.joinWith
      (fun current => mergePublicationNotifications rules (current.getD .empty))
      entry.publications)

/-- The evidence of all records that there are. -/
def notificationSnapshot (entries : List (Option NotificationState)) : NotificationState :=
  (entries.filterMap id).foldl (absorb rules) empty

end NotificationState

end Snapshots

/-- A record takes what a snapshot writes and keeps the rest. -/
def NotificationState.update (entry snapshot : NotificationState) : NotificationState where
  notified := snapshot.notified
  notifiedAt := snapshot.notifiedAt
  notifiedDestinations := snapshot.notifiedDestinations.or entry.notifiedDestinations
  notifiedPublications := snapshot.notifiedPublications.or entry.notifiedPublications

/-- The bots and chats that were reached, by destination. -/
abbrev Delivered := Dict String (String × String)

/-- A publication after a delivery; it is complete when every required destination has it. -/
def PublicationState.deliver (publication : PublicationState) (delivered : Delivered)
    (required : List String) (notifiedAt : String)
    : PublicationState :=
  let destinations :=
    publication.destinations.update
      (delivered.map (fun _ (botId, chatId) => ⟨botId, chatId, notifiedAt⟩))
  let notified := !required.isEmpty && required.all (· ∈ destinations.keys)
  { notified
    notifiedAt := if notified then notifiedAt else publication.notifiedAt
    notifiedDestinations := some destinations }

def NotificationState.applyDestinationState (entry : NotificationState)
    (publicationKey : String) (delivered : Delivered) (required : List String)
    (notifiedAt : String)
    : NotificationState :=
  let publication :=
    ((entry.publications.get? publicationKey).getD .empty).deliver delivered required notifiedAt
  { notified := entry.notified || publication.notified
    notifiedAt := if publication.notified then notifiedAt else entry.notifiedAt
    notifiedDestinations := some (entry.destinations.update publication.destinations)
    notifiedPublications := some (entry.publications.set publicationKey publication) }

/-- The time of a source wins where it is notified or the target has none. -/
def mergeNotifiedAt (target source : String) (sourceNotified : Bool) : String :=
  if source ≠ "" ∧ (sourceNotified ∨ target = "") then source else target

/-- The values of a source over those of a target, if the source has a dictionary. -/
def mergeDestinations (target source : Option (Dict String Destination))
    : Option (Dict String Destination) :=
  source.elim target (fun values => some ((target.getD ∅).update values))

def PublicationState.mergeNotificationMetadata (target source : PublicationState)
    : PublicationState where
  notified := target.notified || source.notified
  notifiedAt := mergeNotifiedAt target.notifiedAt source.notifiedAt source.notified
  notifiedDestinations :=
    mergeDestinations target.notifiedDestinations source.notifiedDestinations

namespace NotificationState

/-- The notifications that another writer knows of, in a state that keeps all else. -/
def mergeNotificationMetadata (target source : NotificationState) : NotificationState where
  notified := target.notified || source.notified
  notifiedAt := mergeNotifiedAt target.notifiedAt source.notifiedAt source.notified
  notifiedDestinations :=
    mergeDestinations target.notifiedDestinations source.notifiedDestinations
  notifiedPublications :=
    source.notifiedPublications.elim target.notifiedPublications (fun publications =>
      some (target.publications.joinWith
        (fun current => (current.getD .empty).mergeNotificationMetadata) publications))

def hasNotificationMetadata (state : NotificationState) : Bool :=
  state.notified || state.notifiedAt ≠ "" || state.notifiedDestinations.isSome
  || state.notifiedPublications.isSome

end NotificationState

section Records

variable {ν : Type} (notification : ν → NotificationState) (write : ν → NotificationState → ν)

/-- The notifications of a stored record in the record that replaces it. -/
def mergeRecord (target source : Option ν) : Option ν :=
  match source, target with
  | none, _ => target
  | some record, none =>
      if (notification record).hasNotificationMetadata then some record else none
  | some record, some kept =>
      some (write kept ((notification kept).mergeNotificationMetadata (notification record)))

def mergeRecords (target source : Dict String ν) : Dict String ν :=
  target.joinWith
    (fun current record =>
      current.elim record (fun kept =>
        write kept ((notification kept).mergeNotificationMetadata (notification record))))
    (source.filter (fun key record =>
      (target.get? key).isSome || (notification record).hasNotificationMetadata))

end Records

namespace NotificationState

variable {rules : TextRules} {state : NotificationState}

/-- The title remembers something about the publication. -/
def Knows (state : NotificationState) (publicationKey : String) : Prop :=
  publicationKey ∈ state.publications.keys

theorem getD_nonempty {ν : Type} (dict : Dict String ν) : (nonempty dict).getD ∅ = dict := by
  unfold nonempty
  split
  · next missing =>
      obtain ⟨items, unique⟩ := dict
      have bare : items = [] := List.map_eq_nil_iff.mp missing
      subst bare
      rfl
  · rfl

@[simp] theorem publications_absorb (snapshot entry : NotificationState)
    : (snapshot.absorb rules entry).publications
      = snapshot.publications.joinWith
          (fun current => mergePublicationNotifications rules (current.getD .empty))
          entry.publications :=
  getD_nonempty _

theorem destinationNotified_of_not_knows {publicationKey : String}
    (unknown : ¬ state.Knows publicationKey) (key : String)
    : state.destinationNotified publicationKey key = false := by
  unfold destinationNotified
  cases found : state.publications.get? publicationKey with
  | none => rfl
  | some publication => exact absurd (Dict.mem_keys_iff.mpr ⟨publication, found⟩) unknown

theorem Knows.of_absorb {snapshot entry : NotificationState} {publicationKey : String}
    (known : (snapshot.absorb rules entry).Knows publicationKey)
    : snapshot.Knows publicationKey ∨ entry.Knows publicationKey := by
  unfold Knows at known ⊢
  rw [publications_absorb, Dict.mem_keys_iff_isSome, Dict.get?_joinWith] at known
  simp only [Dict.mem_keys_iff_isSome]
  rw [Option.isSome_or, Bool.or_eq_true, Option.isSome_map] at known
  exact known.symm

theorem Knows.of_foldl_absorb {entries : List NotificationState} {snapshot : NotificationState}
    {publicationKey : String}
    (known : (entries.foldl (absorb rules) snapshot).Knows publicationKey)
    : snapshot.Knows publicationKey ∨ ∃ entry ∈ entries, entry.Knows publicationKey := by
  induction entries generalizing snapshot with
  | nil => exact .inl known
  | cons first rest ih =>
      rcases ih known with absorbed | ⟨entry, member, found⟩
      · rcases absorbed.of_absorb with before | here
        · exact .inl before
        · exact .inr ⟨first, List.mem_cons_self, here⟩
      · exact .inr ⟨entry, List.mem_cons_of_mem first member, found⟩

theorem Knows.of_snapshot {entries : List (Option NotificationState)} {publicationKey : String}
    (known : (notificationSnapshot rules entries).Knows publicationKey)
    : ∃ entry, some entry ∈ entries ∧ entry.Knows publicationKey := by
  rcases Knows.of_foldl_absorb known with nothing | ⟨entry, member, found⟩
  · cases nothing
  · exact ⟨entry, by simpa using member, found⟩

theorem Knows.of_update {entry snapshot : NotificationState} {publicationKey : String}
    (known : (entry.update snapshot).Knows publicationKey)
    : entry.Knows publicationKey ∨ snapshot.Knows publicationKey := by
  unfold Knows publications update at known
  dsimp only at known
  cases written : snapshot.notifiedPublications with
  | none =>
      rw [written, Option.none_or] at known
      exact .inl known
  | some publications =>
      rw [written] at known
      refine .inr ?_
      unfold Knows NotificationState.publications
      rw [written]
      exact known

theorem Knows.of_merge {target source : NotificationState} {publicationKey : String}
    (known : (target.mergeNotificationMetadata source).Knows publicationKey)
    : target.Knows publicationKey ∨ source.Knows publicationKey := by
  unfold Knows publications mergeNotificationMetadata at known
  dsimp only at known
  cases written : source.notifiedPublications with
  | none =>
      rw [written] at known
      exact .inl known
  | some publications =>
      rw [written, Option.elim_some, Option.getD_some, Dict.mem_keys_iff_isSome,
        Dict.get?_joinWith, Option.isSome_or, Bool.or_eq_true, Option.isSome_map] at known
      unfold Knows NotificationState.publications
      rw [written]
      simp only [Dict.mem_keys_iff_isSome]
      exact known.symm

theorem Knows.of_applyDestinationState {entry : NotificationState}
    {publicationKey other : String} {delivered : Delivered} {required : List String}
    {notifiedAt : String}
    (known
      : (entry.applyDestinationState other delivered required notifiedAt).Knows publicationKey)
    : publicationKey = other ∨ entry.Knows publicationKey := by
  unfold Knows at known ⊢
  rw [Dict.mem_keys_iff] at known ⊢
  obtain ⟨publication, found⟩ := known
  by_cases same : publicationKey = other
  · exact .inl same
  · have kept
        : (entry.publications.set other _).get? publicationKey = some publication := found
    rw [Dict.get?_set_ne _ _ same] at kept
    exact .inr ⟨publication, kept⟩

end NotificationState

end OctoHubs.Latest
