import OctoHubs.Collections.ServerSync
import OctoHubs.Library.Rereading

/-! Which items of a collection a synchronization keeps when calls fail. The collection is emptied
before it is filled again, so an item is lost with the lookup that should find it, with its batch
or with the answer to the removal.
-/

namespace OctoHubs.Collections

open OctoHubs.Library

/-- A call with this fate does what it asks for the item. -/
def Fate.Reaches : Fate → String → Prop
  | .answered, _ => True
  | .refused, _ => False
  | .broken reached, item => reached item = true

/-- What a server does with the calls. Only the calls that are about the content of a collection
change one; creating a collection changes no other.
-/
structure Emby.Lawful {State : Type*} (emby : Emby State) : Prop where
  finds : ∀ state query item, item ∈ foundIds (emby.read state (.items query)) → emby.library item
  lists
    : ∀ state collection,
        ∃ items,
          contentIds? (emby.read state (.collectionItems collection)) = some items
          ∧ ∀ item, item ∈ items ↔ emby.holds state collection item
  adds
    : ∀ state collection items other item,
        emby.holds (emby.write state (.addItems collection items)).1 other item
        ↔ emby.holds state other item
          ∨ other = collection ∧ item ∈ items ∧ emby.library item
  removes
    : ∀ state collection items other item,
        emby.holds (emby.write state (.removeItems collection items)).1 other item
        ↔ emby.holds state other item ∧ ¬(other = collection ∧ item ∈ items)
  creates
    : ∀ state name sortName items other item,
        emby.holds state other item
        → emby.holds (emby.write state (.createCollection name sortName items)).1 other item
  sets_image
    : ∀ state collection kind other item,
        emby.holds (emby.write state (.setImage collection kind)).1 other item
        ↔ emby.holds state other item
  updates
    : ∀ state collection other item,
        emby.holds (emby.write state (.updateProperties collection)).1 other item
        ↔ emby.holds state other item
  refreshes
    : ∀ state refreshed other item,
        emby.holds (emby.write state (.refreshMetadata refreshed)).1 other item
        ↔ emby.holds state other item

section Statements

variable {State : Type*} (rules : CollectionRules) (emby : Emby State)

/-- The collection that the plan is about, in the list of a server. -/
def Named (state : State) (plan : CollectionPlan) (collection : String) : Prop :=
  existingCollection rules (emby.read state .collections) plan.name plan.sortName
    = .ok (some collection)
  ∧ collection ≠ ""

/-- An entry of the source finds the item when no call fails. -/
def Matched (state : State) (entries : List Document) (item : String) : Prop :=
  ∃ entry ∈ entries, item ∈ findEmbyItemIds rules emby state (fun _ => .answered) entry

/-- The batches of what the lookups that are answered find. -/
def foundBatches (state : State) (fates : Call → Fate) (entries : List Document)
    : List (List String) :=
  (lookups rules emby state fates entries).flatten.eraseDups.toChunks collectionBatchSize

/-- The item is in a batch that reaches the server, and the batches before it are answered. -/
def AddedIn (fates : Call → Fate) (batches : List (List String)) (first : Nat) (item : String)
    : Prop :=
  ∃ index batch,
    batches[index]? = some batch
    ∧ item ∈ batch
    ∧ (fates (.addItems (first + index))).Reaches item
    ∧ ∀ earlier < index, fates (.addItems (first + earlier)) = .answered

/-- The failing calls do not cost the collection the item: it is never emptied, or the removal does
not reach the item, or it is found and added again.
-/
inductive Spared (state : State) (fates : Call → Fate) (entries : List Document) (item : String)
    : Prop
  | nothingFound (nothing : ∀ found ∈ lookups rules emby state fates entries, found = [])
  | notListed (failed : fates .listCollections ≠ .answered)
  | notRead (failed : fates .readItems ≠ .answered)
  | notRemoved (spared : ¬(fates .removeItems).Reaches item)
  | addedAgain (removed : fates .removeItems = .answered)
    (added : AddedIn fates (foundBatches rules emby state fates entries) 0 item)

end Statements

section Answers

theorem ne_empty_of_itemId? {entry : Document} {id : String} (read : itemId? entry = some id)
    : id ≠ "" := by
  unfold itemId? at read
  split at read
  · split at read
    · cases read
    · next given =>
        cases read
        exact given
  · cases read

theorem ne_empty_of_mem_foundIds {payload : Json} {id : String} (found : id ∈ foundIds payload)
    : id ≠ "" := by
  rcases List.mem_filterMap.mp found with ⟨entry, -, read⟩
  exact ne_empty_of_itemId? read

variable {State : Type*} {rules : CollectionRules} {emby : Emby State} {state : State}
  {fates : Nat → Fate} {entry : Document} {item : String}

/-- An item that is found is one that a lookup answers, by induction on the candidates. -/
theorem query_of_mem_firstFound {index : Nat} {candidates : List (String × String)}
    (found : item ∈ firstFound emby state fates entry index candidates)
    : ∃ query, item ∈ foundIds (emby.read state (.items query)) := by
  induction candidates generalizing index with
  | nil => cases found
  | cons candidate rest ih =>
      unfold firstFound at found
      split at found
      · exact ih found
      · next payload answered =>
          split at found
          · exact ih found
          · refine ⟨itemQuery entry candidate, ?_⟩
            unfold Emby.get at answered
            split at answered
            · cases answered
              exact found
            · cases answered

theorem query_of_mem_lookups {fates : Call → Fate} {entries : List Document}
    (found : item ∈ (lookups rules emby state fates entries).flatten)
    : ∃ query, item ∈ foundIds (emby.read state (.items query)) := by
  rcases List.mem_flatten.mp found with ⟨items, listed, member⟩
  rcases List.mem_mapIdx.mp listed with ⟨index, inRange, same⟩
  rw [← same] at member
  exact query_of_mem_firstFound member

theorem library_of_matched (lawful : emby.Lawful) {entries : List Document}
    (matched : Matched rules emby state entries item)
    : emby.library item := by
  rcases matched with ⟨entry, -, found⟩
  rcases query_of_mem_firstFound found with ⟨query, answered⟩
  exact lawful.finds state query item answered

/-- What is found has an id, so that nothing is left out when it is added. -/
theorem filter_found (fates : Call → Fate) (entries : List Document)
    : ((lookups rules emby state fates entries).flatten.eraseDups).filter (· ≠ "")
      = (lookups rules emby state fates entries).flatten.eraseDups := by
  refine List.filter_eq_self.mpr (fun id member => decide_eq_true ?_)
  rcases query_of_mem_lookups (List.mem_eraseDups.mp member) with ⟨query, answered⟩
  exact ne_empty_of_mem_foundIds answered

end Answers

section Writes

variable {State : Type*} {rules : CollectionRules} {emby : Emby State} {state : State}
  {collection other item : String}

theorem get_of_failed {fate : Fate} (failed : fate ≠ .answered) (read : EmbyRead)
    : emby.get state fate read = none := by
  cases fate with
  | answered => exact absurd rfl failed
  | refused => rfl
  | broken reached => rfl

theorem answered_of_send {fate : Fate} {write : EmbyWrite} {payload : Json} {next : State}
    (sent : emby.send state fate write = (some payload, next))
    : fate = .answered := by
  cases fate with
  | answered => rfl
  | refused => cases sent
  | broken reached => cases sent

theorem failed_of_send {fate : Fate} {write : EmbyWrite} {next : State}
    (sent : emby.send state fate write = (none, next))
    : fate ≠ .answered := by
  rintro rfl
  cases sent

theorem holds_send_add (lawful : emby.Lawful) (fate : Fate) (items : List String)
    : emby.holds (emby.send state fate (.addItems collection items)).2 other item
      ↔ emby.holds state other item
        ∨ other = collection ∧ item ∈ items ∧ fate.Reaches item ∧ emby.library item := by
  cases fate with
  | answered => simp [Emby.send, lawful.adds, Fate.Reaches]
  | refused => simp [Emby.send, Fate.Reaches]
  | broken reached =>
      simp [Emby.send, EmbyWrite.limited, lawful.adds, Fate.Reaches, and_assoc]

theorem holds_send_remove (lawful : emby.Lawful) (fate : Fate) (items : List String)
    : emby.holds (emby.send state fate (.removeItems collection items)).2 other item
      ↔ emby.holds state other item
        ∧ ¬(other = collection ∧ item ∈ items ∧ fate.Reaches item) := by
  cases fate with
  | answered => simp [Emby.send, lawful.removes, Fate.Reaches]
  | refused => simp [Emby.send, Fate.Reaches]
  | broken reached => simp [Emby.send, EmbyWrite.limited, lawful.removes, Fate.Reaches]

theorem holds_send_of_keeps {write : EmbyWrite} (fate : Fate)
    (keeps : ∀ reached,
      emby.holds (emby.write state (write.limited reached)).1 other item
      ↔ emby.holds state other item)
    (whole : write.limited (fun _ => true) = write)
    : emby.holds (emby.send state fate write).2 other item ↔ emby.holds state other item := by
  cases fate with
  | answered =>
      have kept := keeps (fun _ => true)
      rw [whole] at kept
      exact kept
  | refused => rfl
  | broken reached => exact keeps reached

theorem addedIn_cons {fates : Call → Fate} {batch : List String} {rest : List (List String)}
    {first : Nat}
    : AddedIn fates (batch :: rest) first item
      ↔ item ∈ batch ∧ (fates (.addItems first)).Reaches item
        ∨ fates (.addItems first) = .answered ∧ AddedIn fates rest (first + 1) item := by
  constructor
  · rintro ⟨index, found, at_, member, reached, before⟩
    cases index with
    | zero =>
        cases at_
        exact .inl ⟨member, reached⟩
    | succ index =>
        refine .inr ⟨before 0 index.succ_pos, index, found, at_, member, ?_, ?_⟩
        · rw [show first + 1 + index = first + (index + 1) by omega]
          exact reached
        · intro earlier less
          rw [show first + 1 + earlier = first + (earlier + 1) by omega]
          exact before (earlier + 1) (Nat.succ_lt_succ less)
  · rintro (⟨member, reached⟩ | ⟨answered, index, found, at_, member, reached, before⟩)
    · exact ⟨0, batch, rfl, member, reached, fun earlier less => absurd less earlier.not_lt_zero⟩
    · refine ⟨index + 1, found, at_, member, ?_, ?_⟩
      · rw [show first + (index + 1) = first + 1 + index by omega]
        exact reached
      · intro earlier less
        cases earlier with
        | zero => exact answered
        | succ earlier =>
            rw [show first + (earlier + 1) = first + 1 + earlier by omega]
            exact before earlier (Nat.lt_of_succ_lt_succ less)

/-- What the collection holds after the batches, by induction on them. -/
theorem holds_addBatches (lawful : emby.Lawful) {fates : Call → Fate} {first : Nat}
    {batches : List (List String)}
    : emby.holds (addBatches emby fates collection first batches state).2 other item
      ↔ emby.holds state other item
        ∨ other = collection ∧ emby.library item ∧ AddedIn fates batches first item := by
  induction batches generalizing first state with
  | nil => simp [addBatches, AddedIn]
  | cons batch rest ih =>
      have sentHolds :=
        @holds_send_add _ emby state collection other item lawful (fates (.addItems first)) batch
      unfold addBatches
      rw [addedIn_cons]
      split
      · next next_ sent =>
          have failed := failed_of_send sent
          rw [sent] at sentHolds
          rw [sentHolds]
          constructor
          · rintro (before | ⟨same, member, reached, inLibrary⟩)
            · exact .inl before
            · exact .inr ⟨same, inLibrary, .inl ⟨member, reached⟩⟩
          · rintro (before | ⟨same, inLibrary, ⟨member, reached⟩ | ⟨answered, -⟩⟩)
            · exact .inl before
            · exact .inr ⟨same, member, reached, inLibrary⟩
            · exact absurd answered failed
      · next payload next_ sent =>
          have answered := answered_of_send sent
          rw [sent] at sentHolds
          rw [ih, sentHolds]
          constructor
          · rintro ((before | ⟨same, member, reached, inLibrary⟩) | ⟨same, inLibrary, later⟩)
            · exact .inl before
            · exact .inr ⟨same, inLibrary, .inl ⟨member, reached⟩⟩
            · exact .inr ⟨same, inLibrary, .inr ⟨answered, later⟩⟩
          · rintro (before | ⟨same, inLibrary, ⟨member, reached⟩ | ⟨-, later⟩⟩)
            · exact .inl (.inl before)
            · exact .inl (.inr ⟨same, member, reached, inLibrary⟩)
            · exact .inr ⟨same, inLibrary, later⟩

end Writes

section Afterwards

variable {State : Type*} {rules : CollectionRules} {emby : Emby State} {state : State}
  {fates : Call → Fate} {collection other item : String}

theorem holds_setCollectionImage (lawful : emby.Lawful) {kind : ImageKind} {given : Bool}
    : emby.holds (setCollectionImage emby state fates collection kind given) other item
      ↔ emby.holds state other item := by
  unfold setCollectionImage
  split
  · exact holds_send_of_keeps _ (fun _ => lawful.sets_image ..) rfl
  · rfl

theorem holds_applyCollectionProperties (lawful : emby.Lawful)
    : emby.holds (applyCollectionProperties rules emby state fates collection) other item
      ↔ emby.holds state other item := by
  unfold applyCollectionProperties
  split
  · rfl
  · dsimp only
    split
    · exact holds_send_of_keeps _ (fun _ => lawful.updates ..) rfl
    · rfl

theorem holds_refreshItemsMetadata (lawful : emby.Lawful) {first : Nat} {items : List String}
    : emby.holds (refreshItemsMetadata emby fates first items state) other item
      ↔ emby.holds state other item := by
  induction items generalizing first state with
  | nil => rfl
  | cons refreshed rest ih =>
      unfold refreshItemsMetadata
      exact ih.trans (holds_send_of_keeps _ (fun _ => lawful.refreshes ..) rfl)

end Afterwards

section Emptying

variable {State : Type*} {rules : CollectionRules} {emby : Emby State} {start : State}
  {fates : Call → Fate} {collection item : String}

theorem clear_spec (lawful : emby.Lawful) (identified : collection ≠ "")
    (held : emby.holds start collection item)
    : (fates .readItems ≠ .answered
        ∧ clearCollectionItems emby start fates collection = (none, start))
      ∨ (fates .readItems = .answered
        ∧ fates .removeItems = .answered
        ∧ ∃ next,
            clearCollectionItems emby start fates collection = (none, next)
            ∧ ¬emby.holds next collection item)
      ∨ (fates .readItems = .answered
        ∧ fates .removeItems ≠ .answered
        ∧ ∃ next,
            clearCollectionItems emby start fates collection = (some .notRemoved, next)
            ∧ (emby.holds next collection item ↔ ¬(fates .removeItems).Reaches item)) := by
  unfold clearCollectionItems
  rw [if_neg identified]
  by_cases read : fates .readItems = .answered
  · right
    rcases lawful.lists start collection with ⟨items, answered, content⟩
    have member := (content item).mpr held
    have removal :=
      @holds_send_remove _ emby start collection collection item lawful (fates .removeItems) items
    have payload
        : emby.get start (fates .readItems) (.collectionItems collection)
          = some (emby.read start (.collectionItems collection)) := by
      rw [read]
      rfl
    rw [payload]
    dsimp only
    rw [answered]
    cases items with
    | nil => cases member
    | cons firstItem rest =>
        dsimp only
        split
        · next next sent =>
            rw [sent] at removal
            exact .inr ⟨read, failed_of_send sent, next, rfl, by simp [removal, held, member]⟩
        · next answer next sent =>
            rw [sent] at removal
            have removed := answered_of_send sent
            exact .inl ⟨read, removed, next, rfl, by simp [removal, member, removed, Fate.Reaches]⟩
  · left
    rw [get_of_failed read]
    exact ⟨read, rfl⟩

end Emptying

section Synchronization

variable {State : Type*} {rules : CollectionRules} {emby : Emby State} {start : State}
  {fates : Call → Fate} {plan : CollectionPlan} {entries : List Document}
  {collection item : String}

theorem holds_fillCollection (lawful : emby.Lawful) {state : State} {target : String}
    {uniqueIds remainingIds : List String}
    : emby.holds
        (fillCollection rules emby state fates plan target uniqueIds remainingIds).2
        collection item
      ↔ emby.holds (updateCollectionItems emby state fates target remainingIds).2
          collection item := by
  unfold fillCollection
  split
  · next failure next filled =>
      rw [filled]
  · next next filled =>
      rw [filled]
      dsimp only
      have described
          : emby.holds
              (applyCollectionProperties rules emby
                (setCollectionImage emby
                  (setCollectionImage emby next fates target .poster plan.hasPoster)
                  fates target .background plan.hasBackground)
                fates target)
              collection item
            ↔ emby.holds next collection item :=
        (holds_applyCollectionProperties lawful).trans
          ((holds_setCollectionImage lawful).trans (holds_setCollectionImage lawful))
      split
      · exact (holds_refreshItemsMetadata lawful).trans described
      · exact described

theorem held_of_fill (lawful : emby.Lawful) {state : State} {target : String}
    {uniqueIds remainingIds : List String} (held : emby.holds state collection item)
    : emby.holds
        (fillCollection rules emby state fates plan target uniqueIds remainingIds).2
        collection item :=
  (holds_fillCollection lawful).mpr ((holds_addBatches lawful).mpr (.inl held))

theorem eraseDups_flatten_eq_nil {lists : List (List String)} (nothing : ∀ list ∈ lists, list = [])
    : lists.flatten.eraseDups = [] := by
  rw [List.flatten_eq_nil_iff.mpr nothing, List.eraseDups_nil]

theorem sync_after {target : String} {wasCreated : Bool} {state : State}
    (found : (lookups rules emby start fates entries).flatten.eraseDups ≠ [])
    (ensured
      : ensureEmbyCollection rules emby start fates plan.name plan.sortName
          ((lookups rules emby start fates entries).flatten.eraseDups.take 1)
        = (.ok (target, wasCreated), state))
    : (syncCollectionToServer rules emby start fates plan entries).2
      = (replaceItems rules emby state fates plan target wasCreated
          (lookups rules emby start fates entries).flatten.eraseDups).2 := by
  unfold syncCollectionToServer
  dsimp only
  rw [if_neg found, ensured]
  dsimp only
  split
  · next replaced => rw [replaced]
  · next replaced => rw [replaced]

theorem held_send_create (lawful : emby.Lawful) {state : State} {name sortName : String}
    {ids : List String} (fate : Fate) (held : emby.holds state collection item)
    : emby.holds (emby.send state fate (.createCollection name sortName ids)).2 collection item := by
  cases fate with
  | answered => exact lawful.creates _ _ _ _ _ _ held
  | refused => exact held
  | broken reached => exact lawful.creates _ _ _ _ _ _ held

theorem ensure_of_not_listed (lawful : emby.Lawful) {name sortName : String} {ids : List String}
    (failed : fates .listCollections ≠ .answered) (held : emby.holds start collection item)
    : ∃ state,
        emby.holds state collection item
        ∧ ((∃ failure,
              ensureEmbyCollection rules emby start fates name sortName ids
              = (.error failure, state))
          ∨ ∃ target,
              ensureEmbyCollection rules emby start fates name sortName ids
              = (.ok (target, true), state)) := by
  unfold ensureEmbyCollection
  rw [get_of_failed failed]
  dsimp only
  have kept := @held_send_create _ emby collection item lawful start name
    (if sortName = "" then name else sortName) (ids.filter (· ≠ "")) (fates .createCollection) held
  split
  · next next sent =>
      rw [sent] at kept
      exact ⟨next, kept, .inl ⟨_, rfl⟩⟩
  · next response next sent =>
      rw [sent] at kept
      refine ⟨next, kept, ?_⟩
      split
      · exact .inl ⟨_, rfl⟩
      · split
        · exact .inr ⟨_, rfl⟩
        · exact .inl ⟨_, rfl⟩

theorem held_of_not_listed (lawful : emby.Lawful) (held : emby.holds start collection item)
    (failed : fates .listCollections ≠ .answered)
    (found : (lookups rules emby start fates entries).flatten.eraseDups ≠ [])
    : emby.holds (syncCollectionToServer rules emby start fates plan entries).2 collection
        item := by
  rcases @ensure_of_not_listed _ rules emby start fates collection item lawful plan.name
    plan.sortName ((lookups rules emby start fates entries).flatten.eraseDups.take 1) failed held
    with ⟨state, kept, ⟨failure, ensured⟩ | ⟨target, ensured⟩⟩
  · unfold syncCollectionToServer
    dsimp only
    rw [if_neg found, ensured]
    exact kept
  · rw [sync_after found ensured]
    exact held_of_fill lawful kept

theorem ensure_of_named (named : Named rules emby start plan collection)
    (listed : fates .listCollections = .answered) (ids : List String)
    : ensureEmbyCollection rules emby start fates plan.name plan.sortName ids
      = (.ok (collection, false), start) := by
  unfold ensureEmbyCollection
  have answer
      : emby.get start (fates .listCollections) .collections
        = some (emby.read start .collections) := by
    rw [listed]
    rfl
  rw [answer]
  dsimp only
  rw [named.1]

theorem holds_sync_iff (lawful : emby.Lawful) (named : Named rules emby start plan collection)
    (held : emby.holds start collection item) (inLibrary : emby.library item)
    : emby.holds (syncCollectionToServer rules emby start fates plan entries).2 collection item
      ↔ Spared rules emby start fates entries item := by
  by_cases found : (lookups rules emby start fates entries).flatten.eraseDups = []
  · have nothing : ∀ items ∈ lookups rules emby start fates entries, items = [] := by
      intro items listed
      refine List.eq_nil_iff_forall_not_mem.mpr (fun id member => ?_)
      have unique := List.mem_eraseDups.mpr (List.mem_flatten.mpr ⟨items, listed, member⟩)
      rw [found] at unique
      cases unique
    have after : (syncCollectionToServer rules emby start fates plan entries).2 = start := by
      unfold syncCollectionToServer
      dsimp only
      rw [if_pos found]
    rw [after]
    exact ⟨fun _ => .nothingFound nothing, fun _ => held⟩
  · by_cases listed : fates .listCollections = .answered
    · rw [sync_after found (ensure_of_named named listed _)]
      unfold replaceItems
      rw [if_neg Bool.false_ne_true]
      rcases @clear_spec _ emby start fates collection item lawful named.2 held with
        ⟨unread, cleared⟩ | ⟨read, removed, next, cleared, gone⟩
        | ⟨read, unanswered, next, cleared, kept⟩
      · rw [cleared]
        exact ⟨fun _ => .notRead unread, fun _ => held_of_fill lawful held⟩
      · rw [cleared]
        dsimp only
        rw [holds_fillCollection lawful, updateCollectionItems, holds_addBatches lawful,
          filter_found]
        constructor
        · rintro (left | ⟨-, -, added⟩)
          · exact absurd left gone
          · exact .addedAgain removed added
        · rintro (nothing | unlisted | unread | spared | ⟨-, added⟩)
          · exact absurd (eraseDups_flatten_eq_nil nothing) found
          · exact absurd listed unlisted
          · exact absurd read unread
          · rw [removed] at spared
            exact absurd trivial spared
          · exact .inr ⟨rfl, inLibrary, added⟩
      · rw [cleared]
        dsimp only
        rw [kept]
        constructor
        · exact .notRemoved
        · rintro (nothing | unlisted | unread | spared | ⟨removed, -⟩)
          · exact absurd (eraseDups_flatten_eq_nil nothing) found
          · exact absurd listed unlisted
          · exact absurd read unread
          · exact spared
          · exact absurd removed unanswered
    · exact ⟨fun _ => .notListed listed, fun _ => held_of_not_listed lawful held listed found⟩

/-- The items that were in the collection and that the source still names all stay, exactly if each
of them is spared.
-/
theorem wantedItems_stay_iff (rules : CollectionRules) {emby : Emby State} (lawful : emby.Lawful)
    (start : State) (fates : Call → Fate) (plan : CollectionPlan) (entries : List Document)
    : (∀ collection item,
        Named rules emby start plan collection
        → emby.holds start collection item
        → Matched rules emby start entries item
        → emby.holds (syncCollectionToServer rules emby start fates plan entries).2 collection
            item)
      ↔ ∀ collection item,
          Named rules emby start plan collection
          → emby.holds start collection item
          → Matched rules emby start entries item
          → Spared rules emby start fates entries item := by
  constructor
  · intro stays collection item named held matched
    exact (holds_sync_iff lawful named held (library_of_matched lawful matched)).mp
      (stays collection item named held matched)
  · intro spared collection item named held matched
    exact (holds_sync_iff lawful named held (library_of_matched lawful matched)).mpr
      (spared collection item named held matched)

end Synchronization

section Shelf

/-- Items as a server answers them. -/
def idEntries (ids : List String) : Json :=
  .ofList (ids.map (fun id => .ofDict ⟨[("Id", .text id)], List.nodup_singleton _⟩))

theorem itemIds_idEntries (ids : List String)
    : (dicts ((idEntries ids).asList?.getD [])).filterMap itemId? = ids.filter (· ≠ "") := by
  unfold idEntries dicts
  rw [asList?_ofList, Option.getD_some]
  induction ids with
  | nil => rfl
  | cons id rest ih =>
      rw [List.map_cons, List.filterMap_cons, Json.asDict?_ofDict]
      dsimp only
      rw [List.filterMap_cons, List.filter_cons, ih]
      by_cases empty : id = ""
      · subst empty
        rfl
      · have read : itemId? ⟨[("Id", .text id)], List.nodup_singleton _⟩ = some id := if_neg empty
        rw [read, if_pos (decide_eq_true empty)]

/-- A server with two films and one collection. -/
def shelf : Emby (String → List String) where
  read contents
    | .items query =>
        idEntries (if query.anyProviderIdEquals = "Imdb.tt1" then ["a"]
          else if query.anyProviderIdEquals = "Imdb.tt2" then ["b"]
          else [])
    | .collections =>
        .ofList [.ofDict ⟨[("Id", .text "7"), ("Name", .text "Heist")], by decide⟩]
    | .collectionItems collection => idEntries (contents collection)
    | _ => .null
  write contents
    | .addItems collection ids =>
        (Function.update contents collection
          (contents collection ++ ids.filter (· ∈ ["a", "b"])), .null)
    | .removeItems collection ids =>
        (Function.update contents collection ((contents collection).filter (· ∉ ids)), .null)
    | _ => (contents, .null)
  library item := item ∈ ["a", "b"]
  holds contents collection item := item ≠ "" ∧ item ∈ contents collection

theorem shelf_lawful : shelf.Lawful where
  finds state query item found := by
    have listed : item ∈ (dicts ((shelf.read state (.items query)).asList?.getD [])).filterMap
        itemId? := found
    unfold shelf at listed ⊢
    dsimp only at listed ⊢
    rw [itemIds_idEntries] at listed
    have member := List.mem_of_mem_filter listed
    split at member
    · exact List.mem_cons.mpr (.inl (List.mem_singleton.mp member))
    · split at member
      · exact List.mem_cons_of_mem _ member
      · cases member
  lists state collection := by
    refine ⟨(state collection).filter (· ≠ ""), ?_, fun item => ?_⟩
    · exact congrArg some (itemIds_idEntries (state collection))
    · simp [shelf, and_comm]
  adds state collection items other item := by
    by_cases same : other = collection
    · subst same
      have nonempty : item ∈ ["a", "b"] → item ≠ "" := by
        rintro listed rfl
        exact absurd listed (by decide)
      simp only [shelf, Function.update_self, List.mem_append, List.mem_filter,
        decide_eq_true_eq, true_and]
      tauto
    · simp [shelf, same]
  removes state collection items other item := by
    by_cases same : other = collection
    · subst same
      simp only [shelf, Function.update_self, List.mem_filter, decide_eq_true_eq, true_and]
      tauto
    · simp [shelf, same]
  creates _ _ _ _ _ _ held := held
  sets_image _ _ _ _ _ := .rfl
  updates _ _ _ _ := .rfl
  refreshes _ _ _ _ := .rfl

def plainNames : CollectionRules := ⟨⟨id, Char.isAlphanum, fun _ => none, fun _ => ""⟩, id⟩

def heist : CollectionPlan := ⟨"Heist", "Heist", false, false, false⟩

def film (id : String) : Document :=
  ⟨[("provider_key", .text "imdb"), ("provider_id", .text id)], by simp⟩

def bothFilms (collection : String) : List String :=
  if collection = "7" then ["a", "b"] else []

theorem heist_named : Named plainNames shelf bothFilms heist "7" := ⟨rfl, by decide⟩

theorem film_matched
    : Matched plainNames shelf bothFilms [film "tt1", film "tt2"] "b" :=
  ⟨film "tt2", by simp, by decide⟩

def removalRefused : Call → Fate
  | .removeItems => .refused
  | _ => .answered

theorem refused_removal_keeps_film
    : shelf.holds
        (syncCollectionToServer plainNames shelf bothFilms removalRefused heist
          [film "tt1", film "tt2"]).2
        "7" "b" := by
  have law :=
    (wantedItems_stay_iff plainNames shelf_lawful bothFilms removalRefused heist
      [film "tt1", film "tt2"]).mpr
  exact law (fun _ _ _ _ _ => .notRemoved (fun reached => reached)) "7" "b" heist_named
    ⟨by decide, by decide⟩ film_matched

/-- The lookup of the second film fails. -/
def lookupRefused : Call → Fate
  | .findItems 1 _ => .refused
  | _ => .answered

/-- One failing lookup removes a film that the source still names. -/
theorem failed_lookup_removes_film
    : ¬∀ collection item,
        Named plainNames shelf bothFilms heist collection
        → shelf.holds bothFilms collection item
        → Matched plainNames shelf bothFilms [film "tt1", film "tt2"] item
        → shelf.holds
            (syncCollectionToServer plainNames shelf bothFilms lookupRefused heist
              [film "tt1", film "tt2"]).2
            collection item := by
  intro stays
  have kept := stays "7" "b" heist_named ⟨by decide, by decide⟩ film_matched
  have gone
      : "b" ∉ (syncCollectionToServer plainNames shelf bothFilms lookupRefused heist
          [film "tt1", film "tt2"]).2 "7" := by
    decide
  exact gone kept.2

end Shelf

end OctoHubs.Collections
