import OctoHubs.UserSync.FavoritesDelta

/-! The playlists delta: one set of desired playlists for all participants of a group.
The baselines are overlaid, then whole playlists are created and deleted, then the items of
kept playlists are added and removed, and last the changed orders are applied.
-/

namespace OctoHubs.UserSync

open OctoHubs.Library

abbrev PlaylistsState := Observation PlaylistsSnapshot

inductive ItemOp
  | add
  | remove
deriving DecidableEq, Repr

structure PlaylistsTally where
  desiredPlaylists : PlaylistsSnapshot
  playlistOps : Dict PlaylistName (Change Playlist)
  itemOps : Dict (PlaylistName × ItemKey) ItemOp
  latestOrders : Dict PlaylistName (List ItemKey)

/-- The playlists a participant created and deleted, all of them new without a baseline. -/
def recordedPlaylistOps (state : PlaylistsState) : List (PlaylistName × Change Playlist) :=
  match state.previousSnapshot with
  | none => state.snapshot.items.map (fun item => (item.1, .set item.2))
  | some previous =>
      let diff := diffPlaylists previous state.snapshot
      diff.added.filterMap
          (fun name => (state.snapshot.get? name).map (fun playlist => (name, .set playlist)))
        ++ diff.removed.map (fun name => (name, .remove))

def changedPlaylists (state : PlaylistsState) : List (PlaylistName × PlaylistItemsDiff) :=
  match state.previousSnapshot with
  | none => []
  | some previous => (diffPlaylists previous state.snapshot).changed

def recordedItemOps (changed : PlaylistName × PlaylistItemsDiff)
    : List ((PlaylistName × ItemKey) × ItemOp) :=
  changed.2.added.map (fun key => ((changed.1, key), .add))
    ++ changed.2.removed.map (fun key => ((changed.1, key), .remove))

def recordedOrders (current : PlaylistsSnapshot) (changed : PlaylistName × PlaylistItemsDiff)
    : List (PlaylistName × List ItemKey) :=
  if changed.2.orderChanged then [(changed.1, itemsOf current changed.1)] else []

namespace PlaylistsTally

def empty : PlaylistsTally := ⟨∅, ∅, ∅, ∅⟩

/-- Record the item operations and the new order of one changed playlist. -/
def addChanged (current : PlaylistsSnapshot) (tally : PlaylistsTally)
    (changed : PlaylistName × PlaylistItemsDiff)
    : Except SyncError PlaylistsTally :=
  match recordAll tally.itemOps (recordedItemOps changed) with
  | .error (name, _) => .error (.playlistItem name)
  | .ok itemOps =>
      match recordAll tally.latestOrders (recordedOrders current changed) with
      | .error name => .error (.playlistOrder name)
      | .ok latestOrders =>
          let named := (current.get? changed.1).any (fun playlist => playlist.name ≠ "")
          let desiredPlaylists :=
            if changed.2.orderChanged && named then
              tally.desiredPlaylists.setDefault changed.1
                ⟨((current.get? changed.1).map Playlist.name).getD "", []⟩
            else tally.desiredPlaylists
          .ok { tally with desiredPlaylists, itemOps, latestOrders }

/-- Put a participant's baseline over the earlier ones and record its playlists. -/
def addPlaylists (tally : PlaylistsTally) (state : PlaylistsState)
    : Except SyncError PlaylistsTally :=
  match recordAll tally.playlistOps (recordedPlaylistOps state) with
  | .error name => .error (.playlist name)
  | .ok playlistOps =>
      .ok {
        tally with
        desiredPlaylists := tally.desiredPlaylists.update state.baseline
        playlistOps
      }

/-- Count one participant in: its playlists and then its changed playlists. -/
def add (tally : PlaylistsTally) (state : PlaylistsState)
    : Except SyncError PlaylistsTally :=
  (tally.addPlaylists state).bind (fun tally =>
    (changedPlaylists state).foldlM (addChanged state.snapshot) tally)

end PlaylistsTally

/-- The items of a playlist after one operation; an added item goes to the place its order
gives it, or to the end.
-/
def editItems (order items : List ItemKey) (key : ItemKey) : ItemOp → List ItemKey
  | .remove => items.filter (· ≠ key)
  | .add =>
      if key ∈ items then items
      else if key ∈ order then items.insertIdx (min (order.idxOf key) items.length) key
      else items ++ [key]

/-- Apply one item operation, to an empty playlist when there is none. -/
def applyItemOp (latestOrders : Dict PlaylistName (List ItemKey))
    (desired : PlaylistsSnapshot) (entry : (PlaylistName × ItemKey) × ItemOp)
    : PlaylistsSnapshot :=
  let name := entry.1.1
  let playlist := (desired.get? name).getD ⟨name, []⟩
  let order := (latestOrders.get? name).getD []
  desired.set name
    { playlist with items := editItems order playlist.items entry.1.2 entry.2 }

/-- The ordered keys that are present, and then the other present keys. -/
def orderItems (order current : List ItemKey) : List ItemKey :=
  current.foldl (fun ordered key => if key ∈ ordered then ordered else ordered ++ [key])
    (order.filter (· ∈ current))

def applyOrder (desired : PlaylistsSnapshot) (entry : PlaylistName × List ItemKey)
    : PlaylistsSnapshot :=
  match desired.get? entry.1 with
  | none => desired
  | some playlist =>
      desired.set entry.1 { playlist with items := orderItems entry.2 playlist.items }

namespace PlaylistsTally

/-- The playlists after the creations and deletions. -/
def wholePlaylists (tally : PlaylistsTally) : PlaylistsSnapshot :=
  Change.applyAll tally.desiredPlaylists tally.playlistOps

def editedPlaylists (tally : PlaylistsTally) : PlaylistsSnapshot :=
  tally.itemOps.items.foldl (applyItemOp tally.latestOrders) tally.wholePlaylists

def orderedPlaylists (tally : PlaylistsTally) : PlaylistsSnapshot :=
  tally.latestOrders.items.foldl applyOrder tally.editedPlaylists

/-- The deleted playlists that no item operation brought back. -/
def deletedPlaylistNames (tally : PlaylistsTally) : List PlaylistName :=
  tally.playlistOps.items.filterMap (fun entry =>
    if entry.2 = .remove ∧ entry.1 ∉ tally.orderedPlaylists.keys then some entry.1 else none)

end PlaylistsTally

structure PlaylistsCounts where
  playlists : Nat
  deletedPlaylists : Nat
  playlistOps : Nat
  itemOps : Nat
  orderChanges : Nat
deriving DecidableEq, Repr

/-- What a playlists run hands to the writes. -/
structure PlaylistsPlan where
  desiredPlaylists : PlaylistsSnapshot
  deletedPlaylistNames : List PlaylistName
  delta : PlaylistsCounts
deriving DecidableEq

/-- The run up to its writes; without participants it is skipped. -/
def runPlaylistsDeltaSync (states : List PlaylistsState)
    : Except SyncError (Option PlaylistsPlan) :=
  if states.isEmpty then .ok none
  else
    match states.foldlM PlaylistsTally.add .empty with
    | .error error => .error error
    | .ok tally =>
        .ok (some {
          desiredPlaylists := tally.orderedPlaylists
          deletedPlaylistNames := tally.deletedPlaylistNames
          delta := {
            playlists := tally.orderedPlaylists.items.length
            deletedPlaylists := tally.deletedPlaylistNames.length
            playlistOps := tally.playlistOps.items.length
            itemOps := tally.itemOps.items.length
            orderChanges := tally.latestOrders.items.length
          }
        })

/-- A step records these operations, or one of them conflicts. -/
def Records (tally : PlaylistsTally) (playlists : List (PlaylistName × Change Playlist))
    (items : List ((PlaylistName × ItemKey) × ItemOp))
    (orders : List (PlaylistName × List ItemKey))
    : Except SyncError PlaylistsTally → Prop
  | .ok next =>
      recordAll tally.playlistOps playlists = .ok next.playlistOps
      ∧ recordAll tally.itemOps items = .ok next.itemOps
      ∧ recordAll tally.latestOrders orders = .ok next.latestOrders
  | .error _ =>
      (∃ conflict, recordAll tally.playlistOps playlists = .error conflict)
      ∨ (∃ conflict, recordAll tally.itemOps items = .error conflict)
      ∨ ∃ conflict, recordAll tally.latestOrders orders = .error conflict

theorem recordAll_append_error {κ ω : Type} [DecidableEq κ] [DecidableEq ω] {ops : Dict κ ω}
    {first second : List (κ × ω)} (failed : ∃ conflict, recordAll ops first = .error conflict)
    : ∃ conflict, recordAll ops (first ++ second) = .error conflict := by
  obtain ⟨conflict, failed⟩ := failed
  exact ⟨conflict, by rw [recordAll_append, failed]; rfl⟩

theorem Records.bind {tally : PlaylistsTally}
    {playlists morePlaylists : List (PlaylistName × Change Playlist)}
    {items moreItems : List ((PlaylistName × ItemKey) × ItemOp)}
    {orders moreOrders : List (PlaylistName × List ItemKey)}
    {result : Except SyncError PlaylistsTally}
    {step : PlaylistsTally → Except SyncError PlaylistsTally}
    (first : Records tally playlists items orders result)
    (second
      : ∀ next,
          result = .ok next → Records next morePlaylists moreItems moreOrders (step next))
    : Records tally (playlists ++ morePlaylists) (items ++ moreItems) (orders ++ moreOrders)
        (result.bind step) := by
  cases result with
  | error error =>
      exact first.imp recordAll_append_error
        (Or.imp recordAll_append_error recordAll_append_error)
  | ok next =>
      obtain ⟨playlistsOk, itemsOk, ordersOk⟩ := first
      have later := second next rfl
      simp only [Except.bind]
      unfold Records at later ⊢
      simp only [recordAll_append, playlistsOk, itemsOk, ordersOk]
      exact later

theorem addChanged_records (current : PlaylistsSnapshot) (tally : PlaylistsTally)
    (changed : PlaylistName × PlaylistItemsDiff)
    : Records tally [] (recordedItemOps changed) (recordedOrders current changed)
        (tally.addChanged current changed) := by
  unfold PlaylistsTally.addChanged
  cases items : recordAll tally.itemOps (recordedItemOps changed) with
  | error conflict => exact .inr (.inl ⟨conflict, items⟩)
  | ok itemOps =>
      cases orders : recordAll tally.latestOrders (recordedOrders current changed) with
      | error conflict => exact .inr (.inr ⟨conflict, orders⟩)
      | ok latestOrders => exact ⟨rfl, items, orders⟩

theorem foldlM_addChanged_records (current : PlaylistsSnapshot)
    (changes : List (PlaylistName × PlaylistItemsDiff)) (tally : PlaylistsTally)
    : Records tally [] (changes.flatMap recordedItemOps)
        (changes.flatMap (recordedOrders current))
        (changes.foldlM (PlaylistsTally.addChanged current) tally) := by
  induction changes generalizing tally with
  | nil => exact ⟨rfl, rfl, rfl⟩
  | cons changed rest ih =>
      exact (addChanged_records current tally changed).bind (fun next _ => ih next)

/-- All item operations and orders of one participant. -/
def stateItemOps (state : PlaylistsState) : List ((PlaylistName × ItemKey) × ItemOp) :=
  (changedPlaylists state).flatMap recordedItemOps

def stateOrders (state : PlaylistsState) : List (PlaylistName × List ItemKey) :=
  (changedPlaylists state).flatMap (recordedOrders state.snapshot)

theorem add_records (tally : PlaylistsTally) (state : PlaylistsState)
    : Records tally (recordedPlaylistOps state) (stateItemOps state) (stateOrders state)
        (tally.add state) := by
  have playlists
      : Records tally (recordedPlaylistOps state) [] [] (tally.addPlaylists state) := by
    unfold PlaylistsTally.addPlaylists
    cases recorded : recordAll tally.playlistOps (recordedPlaylistOps state) with
    | error conflict => exact .inl ⟨conflict, recorded⟩
    | ok playlistOps => exact ⟨recorded, rfl, rfl⟩
  have both := playlists.bind (fun next _ =>
    foldlM_addChanged_records state.snapshot (changedPlaylists state) next)
  rw [List.append_nil, List.nil_append, List.nil_append] at both
  exact both

theorem foldlM_add_records (states : List PlaylistsState) (tally : PlaylistsTally)
    : Records tally (states.flatMap recordedPlaylistOps) (states.flatMap stateItemOps)
        (states.flatMap stateOrders) (states.foldlM PlaylistsTally.add tally) := by
  induction states generalizing tally with
  | nil => exact ⟨rfl, rfl, rfl⟩
  | cons state rest ih => exact (add_records tally state).bind (fun next _ => ih next)

/-- Two participants disagree on a whole playlist, on an item or on a new order. -/
def PlaylistsConflict (states : List PlaylistsState) : Prop :=
  ¬ (Agree (states.flatMap recordedPlaylistOps)
    ∧ Agree (states.flatMap stateItemOps)
    ∧ Agree (states.flatMap stateOrders))

theorem addChanged_desired {current : PlaylistsSnapshot} {tally next : PlaylistsTally}
    {changed : PlaylistName × PlaylistItemsDiff}
    (added : tally.addChanged current changed = .ok next)
    (known : (tally.desiredPlaylists.get? changed.1).isSome = true)
    : next.desiredPlaylists = tally.desiredPlaylists := by
  unfold PlaylistsTally.addChanged at added
  split at added
  · cases added
  split at added
  · cases added
  · cases added
    simp only [Dict.setDefault, known, if_true, ite_self]

theorem foldlM_addChanged_desired {current : PlaylistsSnapshot}
    {changes : List (PlaylistName × PlaylistItemsDiff)} {tally next : PlaylistsTally}
    (added : changes.foldlM (PlaylistsTally.addChanged current) tally = .ok next)
    (known
      : ∀ changed ∈ changes, (tally.desiredPlaylists.get? changed.1).isSome = true)
    : next.desiredPlaylists = tally.desiredPlaylists := by
  induction changes generalizing tally with
  | nil =>
      cases added
      rfl
  | cons changed rest ih =>
      cases step : tally.addChanged current changed with
      | error error =>
          simp [List.foldlM_cons, step, bind, Except.bind] at added
      | ok middle =>
          simp only [List.foldlM_cons, step, bind, Except.bind] at added
          have same := addChanged_desired step (known changed List.mem_cons_self)
          rw [ih added, same]
          intro later member
          rw [same]
          exact known later (List.mem_cons_of_mem _ member)

theorem mem_changedPlaylists {state : PlaylistsState} {name : PlaylistName}
    {itemsDiff : PlaylistItemsDiff}
    : (name, itemsDiff) ∈ changedPlaylists state
      ↔ (state.baseline.get? name).isSome = true
        ∧ (state.snapshot.get? name).isSome = true
        ∧ itemsDiff = diffPlaylistItems (itemsOf state.baseline name) (itemsOf state.snapshot name)
        ∧ (itemsDiff.added ≠ [] ∨ itemsDiff.removed ≠ [] ∨ itemsDiff.orderChanged = true) := by
  unfold changedPlaylists Observation.baseline
  cases state.previousSnapshot with
  | none => simp
  | some previous =>
      simp only [diffPlaylists, List.mem_filterMap, mem_sorted, List.mem_filter,
        Dict.mem_keys_iff_isSome, decide_eq_true_eq, Option.getD_some]
      constructor
      · rintro ⟨other, ⟨had, has⟩, found⟩
        split at found
        · next differs =>
            cases found
            exact ⟨had, has, rfl, differs⟩
        · cases found
      · rintro ⟨had, has, rfl, differs⟩
        exact ⟨name, ⟨had, has⟩, by rw [if_pos differs]⟩

theorem add_desired {tally next : PlaylistsTally} {state : PlaylistsState}
    (added : tally.add state = .ok next)
    : next.desiredPlaylists = tally.desiredPlaylists.update state.baseline := by
  unfold PlaylistsTally.add at added
  cases first : tally.addPlaylists state with
  | error error =>
      rw [first] at added
      cases added
  | ok middle =>
      rw [first] at added
      have overlaid
          : middle.desiredPlaylists = tally.desiredPlaylists.update state.baseline := by
        unfold PlaylistsTally.addPlaylists at first
        split at first
        · cases first
        · cases first
          rfl
      rw [foldlM_addChanged_desired added, overlaid]
      intro changed member
      obtain ⟨had, -⟩ := mem_changedPlaylists.mp member
      rw [overlaid, Dict.get?_update, Option.isSome_or, had, Bool.true_or]

theorem foldlM_add_desired {states : List PlaylistsState} {tally next : PlaylistsTally}
    (added : states.foldlM PlaylistsTally.add tally = .ok next)
    : next.desiredPlaylists
      = overlay tally.desiredPlaylists (states.map Observation.baseline) := by
  induction states generalizing tally with
  | nil =>
      cases added
      rfl
  | cons state rest ih =>
      cases step : tally.add state with
      | error error => simp [List.foldlM_cons, step, bind, Except.bind] at added
      | ok middle =>
          simp only [List.foldlM_cons, step, bind, Except.bind] at added
          rw [ih added, add_desired step]
          rfl

theorem itemsOf_set (playlists : PlaylistsSnapshot) (name other : PlaylistName)
    (playlist : Playlist)
    : itemsOf (playlists.set name playlist) other
      = if other = name then playlist.items else itemsOf playlists other := by
  unfold itemsOf
  rw [Dict.get?_set]
  split <;> rfl

theorem mem_editItems {order items : List ItemKey} {key other : ItemKey} {op : ItemOp}
    : other ∈ editItems order items key op
      ↔ if other = key then op = .add else other ∈ items := by
  cases op with
  | remove => by_cases same : other = key <;> simp [editItems, same]
  | add =>
      have place : min (order.idxOf key) items.length ≤ items.length := Nat.min_le_right _ _
      simp only [editItems]
      by_cases same : other = key
      · subst same
        rw [if_pos rfl, iff_true]
        split
        · assumption
        split
        · exact (List.mem_insertIdx place).mpr (.inl rfl)
        · exact List.mem_append_right _ List.mem_cons_self
      · rw [if_neg same]
        split
        · rfl
        split
        · rw [List.mem_insertIdx place, or_iff_right same]
        · simp [same]

theorem mem_itemsOf_applyItemOp {orders : Dict PlaylistName (List ItemKey)}
    {desired : PlaylistsSnapshot} {entry : (PlaylistName × ItemKey) × ItemOp}
    {name : PlaylistName} {key : ItemKey}
    : key ∈ itemsOf (applyItemOp orders desired entry) name
      ↔ if (name, key) = entry.1 then entry.2 = .add else key ∈ itemsOf desired name := by
  obtain ⟨⟨edited, item⟩, op⟩ := entry
  unfold applyItemOp
  simp only [itemsOf_set, Prod.mk.injEq]
  by_cases same : name = edited
  · subst same
    have held : ((desired.get? name).getD ⟨name, []⟩).items = itemsOf desired name := by
      unfold itemsOf
      cases desired.get? name <;> rfl
    simp only [if_true, mem_editItems, true_and, held]
  · simp [same]

theorem isSome_applyItemOp {orders : Dict PlaylistName (List ItemKey)}
    {desired : PlaylistsSnapshot} {entry : (PlaylistName × ItemKey) × ItemOp}
    {name : PlaylistName}
    : ((applyItemOp orders desired entry).get? name).isSome = true
      ↔ name = entry.1.1 ∨ (desired.get? name).isSome = true := by
  unfold applyItemOp
  simp only [Dict.get?_set]
  by_cases same : name = entry.1.1 <;> simp [same]

/-- The last word on an item is its operation, or else the playlist before the operations.
By induction on the operations.
-/
theorem mem_itemsOf_foldl_applyItemOp {orders : Dict PlaylistName (List ItemKey)}
    {entries : List ((PlaylistName × ItemKey) × ItemOp)}
    (unique : (entries.map Prod.fst).Nodup) {desired : PlaylistsSnapshot}
    {name : PlaylistName} {key : ItemKey}
    : key ∈ itemsOf (entries.foldl (applyItemOp orders) desired) name
      ↔ lookupItems (name, key) entries = some .add
        ∨ (lookupItems (name, key) entries = none ∧ key ∈ itemsOf desired name) := by
  induction entries generalizing desired with
  | nil => simp [lookupItems]
  | cons entry rest ih =>
      obtain ⟨edited, op⟩ := entry
      simp only [List.map_cons, List.nodup_cons] at unique
      rw [List.foldl_cons, ih unique.2, mem_itemsOf_applyItemOp, lookupItems]
      by_cases same : edited = (name, key)
      · subst same
        simp [lookupItems_eq_none unique.1]
      · simp [same, Ne.symm same]

theorem isSome_foldl_applyItemOp {orders : Dict PlaylistName (List ItemKey)}
    {entries : List ((PlaylistName × ItemKey) × ItemOp)} {desired : PlaylistsSnapshot}
    {name : PlaylistName}
    : ((entries.foldl (applyItemOp orders) desired).get? name).isSome = true
      ↔ (∃ entry ∈ entries, entry.1.1 = name) ∨ (desired.get? name).isSome = true := by
  induction entries generalizing desired with
  | nil => simp
  | cons entry rest ih =>
      rw [List.foldl_cons, ih, isSome_applyItemOp]
      simp only [List.mem_cons, exists_eq_or_imp]
      rw [or_left_comm, eq_comm, or_assoc]

theorem mem_orderItems {order current : List ItemKey} {key : ItemKey}
    : key ∈ orderItems order current ↔ key ∈ current := by
  have collected (keys ordered : List ItemKey)
      : key ∈ keys.foldl
            (fun ordered key => if key ∈ ordered then ordered else ordered ++ [key]) ordered
        ↔ key ∈ ordered ∨ key ∈ keys := by
    induction keys generalizing ordered with
    | nil => simp
    | cons head rest ih =>
        rw [List.foldl_cons, ih]
        by_cases present : head ∈ ordered
        · simp only [present, if_true, List.mem_cons]
          constructor
          · exact Or.imp_right .inr
          · rintro (before | rfl | later)
            · exact .inl before
            · exact .inl present
            · exact .inr later
        · simp only [present, if_false, List.mem_append, List.mem_cons, List.not_mem_nil,
            false_or, or_assoc]
  unfold orderItems
  rw [collected]
  simp only [List.mem_filter, decide_eq_true_eq, or_iff_right_iff_imp, and_imp]
  exact fun _ present => present

theorem get?_applyOrder_isSome {desired : PlaylistsSnapshot}
    {entry : PlaylistName × List ItemKey} {name : PlaylistName}
    : ((applyOrder desired entry).get? name).isSome = (desired.get? name).isSome := by
  unfold applyOrder
  split
  · rfl
  · next playlist found =>
      rw [Dict.get?_set]
      split
      · next same => simp [same, found]
      · rfl

theorem mem_itemsOf_applyOrder {desired : PlaylistsSnapshot}
    {entry : PlaylistName × List ItemKey} {name : PlaylistName} {key : ItemKey}
    : key ∈ itemsOf (applyOrder desired entry) name ↔ key ∈ itemsOf desired name := by
  unfold applyOrder
  split
  · rfl
  · next playlist found =>
      rw [itemsOf_set]
      split
      · next same =>
          rw [mem_orderItems, same]
          unfold itemsOf
          rw [found]
          rfl
      · rfl

theorem foldl_applyOrder {entries : List (PlaylistName × List ItemKey)}
    {desired : PlaylistsSnapshot} {name : PlaylistName}
    : ((entries.foldl applyOrder desired).get? name).isSome = (desired.get? name).isSome
      ∧ ∀ key,
          key ∈ itemsOf (entries.foldl applyOrder desired) name ↔ key ∈ itemsOf desired name := by
  induction entries generalizing desired with
  | nil => exact ⟨rfl, fun _ => Iff.rfl⟩
  | cons entry rest ih =>
      rw [List.foldl_cons]
      obtain ⟨present, items⟩ := @ih (applyOrder desired entry)
      refine ⟨present.trans get?_applyOrder_isSome, fun key => ?_⟩
      rw [items, mem_itemsOf_applyOrder]

end OctoHubs.UserSync
