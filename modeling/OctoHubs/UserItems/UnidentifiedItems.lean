import OctoHubs.Library.Labelled
import OctoHubs.UserItems.PlaystateWrites

/-! Items without a key that no signature matches: what a synchronisation sends for them. -/

namespace OctoHubs.UserItems

open OctoHubs.Library
open OctoHubs.UserSync

section Unidentified

variable {calendar : Calendar} {rules : Alphabet} {includeResume : Bool}

abbrev UnderIds (byId : ItemsById) : Prop := Labelled LibraryItem.id byId

theorem indexById_underIds (items : List LibraryItem) : UnderIds (indexById items) :=
  foldl_preserves UnderIds labelled_empty (fun _ _ kept => kept.set rfl)

theorem UnderIds.upsert {byId : ItemsById} (kept : UnderIds byId) (item : LibraryItem)
    : UnderIds (upsertPreservingUserData byId item) := by
  unfold upsertPreservingUserData
  split
  · exact kept
  · split <;> exact kept.set rfl

theorem UnderIds.addNewItem {byId : ItemsById} (kept : UnderIds byId) (item : LibraryItem)
    : UnderIds (addNewItem byId item) := by
  unfold UserItems.addNewItem
  split
  · exact kept
  · exact kept.set rfl

theorem UnderIds.addItemsMatchingFallbackKeys {api : Api} {byId result : ItemsById}
    {keys : List String} (kept : UnderIds byId)
    (added : addItemsMatchingFallbackKeys rules api byId keys = some result)
    : UnderIds result := by
  refine foldlM_preserves UnderIds kept (fun byId key next kept found => ?_) added
  obtain ⟨items, -, rfl⟩ := Option.map_eq_some_iff.mp found
  exact foldl_preserves UnderIds kept (fun _ item kept => kept.addNewItem item)

theorem readTargetItems_underIds {server : TargetServer} {keys : List String} {byId : ItemsById}
    (read : readTargetItems rules includeResume server keys = some byId)
    : UnderIds byId := by
  obtain ⟨current, -, read⟩ := Option.bind_eq_some_iff.mp read
  obtain ⟨provided, -, read⟩ := Option.bind_eq_some_iff.mp read
  refine UnderIds.addItemsMatchingFallbackKeys ?_ read
  exact foldl_preserves UnderIds (indexById_underIds current) (fun _ item kept => kept.upsert item)

theorem UnderIds.addSafeFallbacks {server : TargetServer} {byId : ItemsById}
    {keyless : List (LibraryItem × PlayState)} {result : ItemsById × Dict String PlayState}
    (kept : UnderIds byId) (added : addSafeFallbacks server byId keyless = some result)
    : UnderIds result.1 := by
  let holds (state : ItemsById × Dict String PlayState) : Prop := UnderIds state.1
  refine foldlM_preserves holds kept (fun state item next kept found => ?_) added
  obtain ⟨items, -, rfl⟩ := Option.map_eq_some_iff.mp found
  exact foldl_preserves holds kept (fun _ _ kept => Labelled.set kept rfl)

theorem mem_writes_iff {states fallbackStates : Dict String PlayState} {byId : ItemsById}
    (kept : UnderIds byId) {id : String} {item : LibraryItem} (found : byId.get? id = some item)
    (write : Write)
    : (id, write) ∈ (passOf calendar rules includeResume states fallbackStates byId).writes
      ↔ write ∈ itemWrites calendar rules includeResume (matchOf rules states fallbackStates item)
          item := by
  change (id, write) ∈ byId.values.flatMap _ ↔ _
  rw [List.mem_flatMap]
  constructor
  · rintro ⟨other, member, listed⟩
    obtain ⟨sent, inWrites, same⟩ := List.mem_map.mp listed
    cases same
    have there := kept.get?_label member
    rw [found] at there
    cases there
    exact inWrites
  · intro inWrites
    refine ⟨item, Dict.mem_values_iff.mpr ⟨id, found⟩, List.mem_map.mpr ⟨write, inWrites, ?_⟩⟩
    rw [kept id item found]

/-- An item at rest is at its start and known to be hidden from those to resume. -/
def UserData.AtRest (userData : UserData) : Prop :=
  userData.playbackPositionTicks = 0 ∧ userData.hideFromResume = some true

theorem applyHideFromResume_eq_nil_iff {hide : Bool} {current : Option Bool}
    : applyHideFromResume (some hide) current = [] ↔ current = some hide := by
  unfold applyHideFromResume
  by_cases same : current = some hide <;> simp [same]

theorem unmatchedWrites_eq_nil_iff {item : LibraryItem}
    (keyless : itemSyncKeys rules item.details = [])
    : unmatchedWrites rules includeResume item = []
      ↔ includeResume = false ∨ item.userData.AtRest := by
  unfold unmatchedWrites UserData.AtRest
  dsimp only
  rw [keyless, if_neg (fun both => both.2 rfl), List.nil_append]
  cases includeResume with
  | false => exact ⟨fun _ => .inl rfl, fun _ => rfl⟩
  | true =>
      rw [if_pos rfl, List.append_eq_nil_iff, applyHideFromResume_eq_nil_iff]
      by_cases start : item.userData.playbackPositionTicks = 0 <;> simp [start]

theorem matchOf_eq_none {states fallbackStates : Dict String PlayState} {item : LibraryItem}
    (keyless : itemSyncKeys rules item.details = [])
    (unsigned : fallbackStates.get? item.id = none)
    : matchOf rules states fallbackStates item = none := by
  rw [matchOf, keyless, unsigned]
  rfl

theorem passOf_untouched_iff {states fallbackStates : Dict String PlayState} {byId : ItemsById}
    (kept : UnderIds byId) {id : String} {item : LibraryItem} (found : byId.get? id = some item)
    (keyless : itemSyncKeys rules item.details = [])
    (unsigned : fallbackStates.get? id = none)
    : (∀ write,
          (id, write) ∉ (passOf calendar rules includeResume states fallbackStates byId).writes)
      ↔ includeResume = false ∨ item.userData.AtRest := by
  rw [← kept id item found] at unsigned
  rw [← unmatchedWrites_eq_nil_iff keyless, List.eq_nil_iff_forall_not_mem]
  refine forall_congr' (fun write => not_congr ?_)
  rw [mem_writes_iff kept found, matchOf_eq_none keyless unsigned]
  rfl

theorem exists_passOf {desiredState : Dict String PlayState} {source : Option (List LibraryItem)}
    {targets : List (Option TargetServer)} {pass : Pass}
    (made
      : pass ∈ syncUserPlaystateToState calendar rules includeResume desiredState targets
        ∨ pass ∈ syncUserPlaystateExact calendar rules includeResume source targets)
    : ∃ states fallbackStates byId,
        UnderIds byId
        ∧ pass = passOf calendar rules includeResume states fallbackStates byId := by
  rcases made with made | made
  · obtain ⟨target, -, made⟩ := List.mem_filterMap.mp made
    obtain ⟨server, -, made⟩ := Option.bind_eq_some_iff.mp made
    obtain ⟨byId, read, made⟩ := Option.bind_eq_some_iff.mp made
    cases made
    exact ⟨_, _, byId, readTargetItems_underIds read, rfl⟩
  · unfold syncUserPlaystateExact at made
    split at made
    · cases made
    · obtain ⟨target, -, made⟩ := List.mem_filterMap.mp made
      obtain ⟨server, -, made⟩ := Option.bind_eq_some_iff.mp made
      obtain ⟨byId, read, made⟩ := Option.bind_eq_some_iff.mp made
      obtain ⟨result, added, made⟩ := Option.bind_eq_some_iff.mp made
      cases made
      exact ⟨_, _, _, (readTargetItems_underIds read).addSafeFallbacks added, rfl⟩

end Unidentified

/-- Whether an item that cannot be identified is left alone, in every pass of every run. -/
theorem unidentified_untouched_iff (calendar : Calendar) (rules : Alphabet) (includeResume : Bool)
    (desiredState : Dict String PlayState) (source : Option (List LibraryItem))
    (targets : List (Option TargetServer))
    : ∀ pass,
        pass ∈ syncUserPlaystateToState calendar rules includeResume desiredState targets
          ∨ pass ∈ syncUserPlaystateExact calendar rules includeResume source targets
        → ∀ id item,
            pass.itemsById.get? id = some item
            → itemSyncKeys rules item.details = []
            → pass.fallbackStateById.get? id = none
            → ((∀ write, (id, write) ∉ pass.writes)
              ↔ includeResume = false ∨ item.userData.AtRest) := by
  intro pass made id item found keyless unsigned
  obtain ⟨states, fallbackStates, byId, kept, rfl⟩ := exists_passOf made
  exact passOf_untouched_iff kept found keyless unsigned

/-- A film of a user's own that was stopped midway. -/
def startedClip : LibraryItem where
  id := "7"
  details := itemOf [("Type", .text "Movie"), ("Name", .text "Clip")]
  userData := ⟨false, 600, some newYear, some false⟩

def clipServer : TargetServer where
  fetchUserItemsForSync _ := some [startedClip]
  fetchItemsByProviderIds _ _ := some []
  fetchItemsBySafeFallback _ := some []
  api := ⟨fun _ => some [], fun _ _ => some []⟩

def clipPass : Pass := passOf newYearCalendar plainRules true ∅ ∅ (indexById [startedClip])

theorem clipPass_mem
    : clipPass
      ∈ syncUserPlaystateToState newYearCalendar plainRules true ∅ [some clipServer] :=
  List.mem_singleton_self _

theorem unidentified_untouched_iff_clip
    : (∀ write, ("7", write) ∉ clipPass.writes)
      ↔ true = false ∨ startedClip.userData.AtRest :=
  unidentified_untouched_iff newYearCalendar plainRules true ∅ none [some clipServer] clipPass
    (.inl clipPass_mem) "7" startedClip rfl (by decide) rfl

theorem unidentified_position_is_cleared
    : ∃ pass ∈ syncUserPlaystateToState newYearCalendar plainRules true ∅ [some clipServer],
        pass.itemsById.get? "7" = some startedClip
        ∧ itemSyncKeys plainRules startedClip.details = []
        ∧ pass.fallbackStateById.get? "7" = none
        ∧ ("7", Write.resume 0 none false) ∈ pass.writes :=
  ⟨clipPass, clipPass_mem, rfl, by decide, rfl, by decide⟩

end OctoHubs.UserItems
