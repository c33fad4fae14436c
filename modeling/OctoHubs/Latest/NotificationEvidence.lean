import OctoHubs.Latest.NotificationState

/-! What a notification state shows, and which operations keep it.
A snapshot shows what one of its records shows, a merge what either side shows, and a checkpoint
whatever it is not about to decide anew.
-/

namespace OctoHubs.Latest

open OctoHubs.Library

theorem mem_keys_update {ν : Type} {left right : Dict String ν} {key : String}
    : key ∈ (left.update right).keys ↔ key ∈ left.keys ∨ key ∈ right.keys := by
  simp only [Dict.mem_keys_iff_isSome, Dict.get?_update, Option.isSome_or, Bool.or_eq_true]
  exact or_comm

theorem mem_keys_getD_nonempty {ν : Type} {dict : Dict String ν} {other : Option (Dict String ν)}
    {key : String} (bare : dict.keys = [] → (other.getD ∅).keys = [])
    : key ∈ (((nonempty dict).or other).getD ∅).keys ↔ key ∈ dict.keys := by
  unfold nonempty
  split
  · next missing => rw [Option.none_or, bare missing, missing]
  · exact Iff.rfl

/-- A destination was reached, a publication is complete, or the title was notified at all. -/
inductive Evidence
  | destination (publicationKey key : String)
  | publication (publicationKey : String)
  | title
deriving DecidableEq

namespace PublicationState

variable {rules : TextRules} {current publication : PublicationState} {key : String}

@[simp] theorem mem_destinations_merge
    : key ∈ (mergePublicationNotifications rules current publication).destinations.keys
      ↔ key ∈ current.destinations.keys ∨ key ∈ publication.destinations.keys := by
  rw [← mem_keys_update]
  refine mem_keys_getD_nonempty (fun missing => ?_)
  -- both dictionaries are empty, whichever of them is written
  have nowhere (other : String)
      : other ∉ current.destinations.keys ∧ other ∉ publication.destinations.keys := by
    rw [← not_or, ← mem_keys_update, missing]
    exact List.not_mem_nil
  rw [List.eq_nil_iff_forall_not_mem]
  intro other
  cases written : publication.notifiedDestinations with
  | none =>
      rw [Option.none_or]
      exact (nowhere other).1
  | some values =>
      have absent := (nowhere other).2
      unfold PublicationState.destinations at absent
      rw [written] at absent
      exact absent

@[simp] theorem mem_destinations_mergeMetadata {target source : PublicationState}
    : key ∈ (target.mergeNotificationMetadata source).destinations.keys
      ↔ key ∈ target.destinations.keys ∨ key ∈ source.destinations.keys := by
  unfold mergeNotificationMetadata mergeDestinations PublicationState.destinations
  dsimp only
  cases source.notifiedDestinations with
  | none => exact (or_iff_left (fun nothing => by cases nothing)).symm
  | some values => exact mem_keys_update

end PublicationState

namespace NotificationState

def Shows (state : NotificationState) : Evidence → Prop
  | .destination publicationKey key =>
      ∃ publication ∈ state.publications.get? publicationKey,
        key ∈ publication.destinations.keys
  | .publication publicationKey =>
      ∃ publication ∈ state.publications.get? publicationKey, publication.notified = true
  | .title => state.notified = true

variable {rules : TextRules} {state snapshot entry target source : NotificationState}
  {evidence : Evidence}

theorem not_shows_empty : ¬ empty.Shows evidence := by
  cases evidence with
  | destination publicationKey key | publication publicationKey =>
      intro shown
      obtain ⟨publication, nothing, -⟩ := shown
      cases nothing
  | title => exact Bool.noConfusion

theorem Shows.destinationNotified {publicationKey key : String}
    (shown : state.Shows (.destination publicationKey key))
    : state.destinationNotified publicationKey key = true := by
  obtain ⟨publication, found, reached⟩ := shown
  unfold NotificationState.destinationNotified
  rw [Option.mem_def.mp found]
  dsimp only
  unfold PublicationState.destinations at reached
  cases written : publication.notifiedDestinations with
  | none =>
      rw [written] at reached
      cases reached
  | some destinations =>
      rw [written] at reached
      exact Dict.mem_keys_iff_isSome.mp reached

theorem exists_joinWith_iff {left right : Dict String PublicationState} {publicationKey : String}
    {join : PublicationState → PublicationState → PublicationState}
    {property : PublicationState → Prop} (bare : ¬ property .empty)
    (joined
      : ∀ current publication,
          property (join current publication) ↔ property current ∨ property publication)
    : (∃ publication
          ∈ (left.joinWith (fun current => join (current.getD .empty)) right).get?
            publicationKey, property publication)
      ↔ (∃ publication ∈ left.get? publicationKey, property publication)
        ∨ ∃ publication ∈ right.get? publicationKey, property publication := by
  simp only [Option.mem_def, Dict.get?_joinWith]
  cases right.get? publicationKey with
  | none => simp
  | some publication =>
      cases left.get? publicationKey with
      | none => simp [joined, bare]
      | some current => simp [joined]

theorem empty_destinations : PublicationState.empty.destinations.keys = [] := rfl

@[simp] theorem shows_absorb_iff
    : (snapshot.absorb rules entry).Shows evidence
      ↔ snapshot.Shows evidence ∨ entry.Shows evidence := by
  cases evidence with
  | destination publicationKey key =>
      unfold Shows
      rw [publications_absorb]
      exact exists_joinWith_iff (by rw [empty_destinations]; exact List.not_mem_nil)
        (fun _ _ => PublicationState.mem_destinations_merge)
  | publication publicationKey =>
      unfold Shows
      rw [publications_absorb]
      exact exists_joinWith_iff Bool.noConfusion (fun _ _ => Bool.or_eq_true_iff)
  | title => exact Bool.or_eq_true_iff

theorem shows_foldl_absorb_iff {entries : List NotificationState}
    : (entries.foldl (absorb rules) snapshot).Shows evidence
      ↔ snapshot.Shows evidence ∨ ∃ entry ∈ entries, entry.Shows evidence := by
  induction entries generalizing snapshot with
  | nil => simp
  | cons first rest ih =>
      rw [List.foldl_cons, ih, shows_absorb_iff, or_assoc]
      simp only [List.mem_cons, exists_eq_or_imp]

theorem shows_snapshot_iff {entries : List (Option NotificationState)}
    : (notificationSnapshot rules entries).Shows evidence
      ↔ ∃ entry, some entry ∈ entries ∧ entry.Shows evidence := by
  unfold notificationSnapshot
  rw [shows_foldl_absorb_iff, or_iff_right not_shows_empty]
  simp only [List.mem_filterMap, id_eq, exists_eq_right]

theorem Shows.update (shown : snapshot.Shows evidence)
    : (entry.update snapshot).Shows evidence := by
  cases evidence with
  | title => exact shown
  | destination publicationKey key | publication publicationKey =>
      obtain ⟨publication, found, holds⟩ := shown
      refine ⟨publication, ?_, holds⟩
      unfold publications NotificationState.update at *
      dsimp only at *
      cases written : snapshot.notifiedPublications with
      | none =>
          rw [written] at found
          cases found
      | some publications =>
          rw [written] at found
          exact found

theorem shows_of_update (shown : (entry.update snapshot).Shows evidence)
    : snapshot.Shows evidence ∨ entry.Shows evidence := by
  cases evidence with
  | title => exact .inl shown
  | destination publicationKey key | publication publicationKey =>
      obtain ⟨publication, found, holds⟩ := shown
      unfold publications NotificationState.update at found
      dsimp only at found
      cases written : snapshot.notifiedPublications with
      | none =>
          rw [written] at found
          exact .inr ⟨publication, found, holds⟩
      | some publications =>
          rw [written] at found
          refine .inl ⟨publication, ?_, holds⟩
          unfold NotificationState.publications
          rw [written]
          exact found

@[simp] theorem shows_merge_iff
    : (target.mergeNotificationMetadata source).Shows evidence
      ↔ target.Shows evidence ∨ source.Shows evidence := by
  -- without publications in the source the target keeps its own
  have publications_merge
      : (target.mergeNotificationMetadata source).publications
        = target.publications.joinWith
            (fun current => (current.getD .empty).mergeNotificationMetadata)
            source.publications := by
    unfold publications NotificationState.mergeNotificationMetadata
    dsimp only
    cases source.notifiedPublications with
    | none => rfl
    | some publications => rfl
  cases evidence with
  | destination publicationKey key =>
      unfold Shows
      rw [publications_merge]
      exact exists_joinWith_iff (by rw [empty_destinations]; exact List.not_mem_nil)
        (fun _ _ => PublicationState.mem_destinations_mergeMetadata)
  | publication publicationKey =>
      unfold Shows
      rw [publications_merge]
      exact exists_joinWith_iff Bool.noConfusion (fun _ _ => Bool.or_eq_true_iff)
  | title => exact Bool.or_eq_true_iff

section Checkpoint

variable {publicationKey : String} {delivered : Delivered} {required : List String}
  {notifiedAt : String}

theorem get?_applyDestinationState
    : (entry.applyDestinationState publicationKey delivered required
          notifiedAt).publications.get? publicationKey
      = some
          (((entry.publications.get? publicationKey).getD .empty).deliver delivered required
            notifiedAt) :=
  Dict.get?_set_self ..

theorem mem_destinations_deliver {publication : PublicationState} {key : String}
    : key ∈ (publication.deliver delivered required notifiedAt).destinations.keys
      ↔ key ∈ publication.destinations.keys ∨ key ∈ delivered.keys := by
  have kept
      : key ∈ (delivered.map (fun _ chat => Destination.mk chat.1 chat.2 notifiedAt)).keys
        ↔ key ∈ delivered.keys := by
    simp only [Dict.mem_keys_iff_isSome, Dict.get?_map, Option.isSome_map]
  rw [← kept]
  exact mem_keys_update

theorem Shows.applyDestinationState (shown : entry.Shows evidence)
    (other : evidence ≠ .publication publicationKey)
    : (entry.applyDestinationState publicationKey delivered required
        notifiedAt).Shows evidence := by
  cases evidence with
  | title =>
      have before : entry.notified = true := shown
      exact Bool.or_eq_true_iff.mpr (.inl before)
  | publication shownKey =>
      obtain ⟨publication, found, holds⟩ := shown
      have apart : shownKey ≠ publicationKey := fun same => other (by rw [same])
      exact ⟨publication, (Dict.get?_set_ne _ _ apart).trans found, holds⟩
  | destination shownKey key =>
      obtain ⟨publication, found, holds⟩ := shown
      by_cases same : shownKey = publicationKey
      · subst same
        refine ⟨_, get?_applyDestinationState, mem_destinations_deliver.mpr (.inl ?_)⟩
        rw [Option.mem_def.mp found]
        exact holds
      · exact ⟨publication, (Dict.get?_set_ne _ _ same).trans found, holds⟩

theorem shows_delivered {key : String} (reached : key ∈ delivered.keys)
    : (entry.applyDestinationState publicationKey delivered required
        notifiedAt).Shows (.destination publicationKey key) :=
  ⟨_, get?_applyDestinationState, mem_destinations_deliver.mpr (.inr reached)⟩

theorem shows_complete (some_ : required ≠ [])
    (complete
      : ∀ key ∈ required,
          (entry.applyDestinationState publicationKey delivered required
            notifiedAt).Shows (.destination publicationKey key))
    : (entry.applyDestinationState publicationKey delivered required
          notifiedAt).Shows (.publication publicationKey)
      ∧ (entry.applyDestinationState publicationKey delivered required
          notifiedAt).Shows .title := by
  have notified
      : (((entry.publications.get? publicationKey).getD .empty).deliver delivered required
          notifiedAt).notified = true := by
    unfold PublicationState.deliver
    dsimp only
    rw [Bool.and_eq_true, Bool.not_eq_true', List.isEmpty_eq_false_iff, List.all_eq_true]
    refine ⟨some_, fun key member => ?_⟩
    obtain ⟨publication, found, reached⟩ := complete key member
    rw [get?_applyDestinationState] at found
    cases found
    exact decide_eq_true reached
  exact ⟨⟨_, get?_applyDestinationState, notified⟩, Bool.or_eq_true_iff.mpr (.inr notified)⟩

end Checkpoint

/-- Every destination has the publication, and the publication and its title say so. -/
structure Complete (state : NotificationState) (publicationKey : String)
    (destinations : List String)
    : Prop where
  reached : ∀ key ∈ destinations, state.Shows (.destination publicationKey key)
  publication : state.Shows (.publication publicationKey)
  title : state.Shows .title

section Complete

variable {publicationKey checkpointKey : String} {destinations required : List String}
  {delivered : Delivered} {notifiedAt : String}

theorem Complete.of_shows {other : NotificationState}
    (complete : state.Complete publicationKey destinations)
    (shows_ : ∀ evidence, state.Shows evidence → other.Shows evidence)
    : other.Complete publicationKey destinations :=
  ⟨fun key member => shows_ _ (complete.reached key member), shows_ _ complete.publication,
    shows_ _ complete.title⟩

theorem complete_applyDestinationState
    (reached
      : ∀ key ∈ destinations,
          state.Shows (.destination publicationKey key) ∨ key ∈ delivered.keys)
    (some_ : required ≠ []) (subset : required ⊆ destinations)
    : (state.applyDestinationState publicationKey delivered required notifiedAt).Complete
        publicationKey destinations := by
  have after
      : ∀ key ∈ destinations,
          (state.applyDestinationState publicationKey delivered required notifiedAt).Shows
            (.destination publicationKey key) := by
    intro key member
    rcases reached key member with shown | sent
    · exact shown.applyDestinationState (fun same => by cases same)
    · exact shows_delivered sent
  obtain ⟨publication, title⟩ :=
    shows_complete some_ (fun key member => after key (subset member))
  exact ⟨after, publication, title⟩

theorem Complete.applyDestinationState (complete : state.Complete publicationKey destinations)
    (some_ : required ≠ []) (subset : checkpointKey = publicationKey → required ⊆ destinations)
    : (state.applyDestinationState checkpointKey delivered required notifiedAt).Complete
        publicationKey destinations := by
  by_cases same : checkpointKey = publicationKey
  · subst same
    exact complete_applyDestinationState (fun key member => .inl (complete.reached key member))
      some_ (subset rfl)
  · exact {
      reached := fun key member =>
        (complete.reached key member).applyDestinationState (fun equal => by cases equal)
      publication :=
        complete.publication.applyDestinationState (fun equal => by cases equal; exact same rfl)
      title := complete.title.applyDestinationState (fun equal => by cases equal)
    }

end Complete

theorem Shows.hasNotificationMetadata (shown : state.Shows evidence)
    : state.hasNotificationMetadata = true := by
  have written (publicationKey : String) {publication : PublicationState}
      (found : state.publications.get? publicationKey = some publication)
      : state.notifiedPublications.isSome = true := by
    unfold publications at found
    cases stored : state.notifiedPublications with
    | none =>
        rw [stored] at found
        cases found
    | some publications => rfl
  unfold NotificationState.hasNotificationMetadata
  simp only [Bool.or_eq_true]
  cases evidence with
  | title => exact .inl (.inl (.inl shown))
  | destination publicationKey key | publication publicationKey =>
      obtain ⟨publication, found, -⟩ := shown
      exact .inr (written publicationKey found)

end NotificationState

end OctoHubs.Latest
