import OctoHubs.UserItems.PlaylistRemovals
import OctoHubs.UserSync.PlaylistsDelta

/-! The order of applied playlists: entries are added and removed but never moved. -/

namespace OctoHubs.UserItems

open OctoHubs.Library
open OctoHubs.UserSync

-- Keeping and appending

theorem nodup_eraseDups {α : Type*} [DecidableEq α] (values : List α)
    : values.eraseDups.Nodup := by
  match values with
  | [] => exact List.nodup_nil
  | first :: rest =>
      rw [List.eraseDups_cons]
      refine List.nodup_cons.mpr ⟨fun again => ?_, nodup_eraseDups _⟩
      have differs := (List.mem_filter.mp (List.mem_eraseDups.mp again)).2
      simp at differs
termination_by values.length
decreasing_by exact Nat.lt_succ_of_le (List.length_filter_le _ _)

theorem append_missing_eq_iff {α : Type*} [DecidableEq α] {kept existing ordered : List α}
    (unique : ordered.Nodup) (same : ∀ value ∈ ordered, value ∈ kept ↔ value ∈ existing)
    : kept ++ ordered.filter (· ∉ existing) = ordered ↔ kept <+: ordered := by
  constructor
  · exact fun equal => ⟨_, equal⟩
  · rintro ⟨rest, rfl⟩
    have apart := (List.nodup_append.mp unique).2.2
    have none_ : kept.filter (· ∉ existing) = [] := by
      refine List.filter_eq_nil_iff.mpr (fun value member => ?_)
      have there := (same value (List.mem_append_left _ member)).mp member
      exact fun absent => of_decide_eq_true absent there
    have all : rest.filter (· ∉ existing) = rest := by
      refine List.filter_eq_self.mpr (fun value member => decide_eq_true (fun there => ?_))
      have inKept := (same value (List.mem_append_right _ member)).mpr there
      exact apart value inKept value member rfl
    rw [List.filter_append, none_, all, List.nil_append]

-- What servers do

abbrev PlaylistPlace := String × String

section Order

variable {σ : Type} (contents : σ → PlaylistPlace → Option (List PlaylistEntry))

/-- Other playlists stay as they are. -/
def Framed (state next : σ) (place : PlaylistPlace) : Prop :=
  ∀ other, other ≠ place → contents next other = contents state other

/-- What requests that succeed do to the contents of playlists. -/
structure PlaylistLaws (service : PlaylistService σ) : Prop where
  unique
    : ∀ {state place entries},
        contents state place = some entries
        → ((entries.filter (·.removalId ≠ "")).map PlaylistEntry.removalId).Nodup
  fetch
    : ∀ {state id entries},
        service.fetchPlaylistItems state id = some entries
        → contents state (service.serverId, id) = some entries
  add
    : ∀ {state next id ids entries},
        service.addPlaylistItems state id ids = (next, true)
        → contents state (service.serverId, id) = some entries
        → (∃ new,
            contents next (service.serverId, id) = some (entries ++ new)
            ∧ new.map (·.item.id) = ids)
          ∧ Framed contents state next (service.serverId, id)
  remove
    : ∀ {state next id removalIds entries},
        service.removePlaylistEntries state id removalIds = (next, true)
        → contents state (service.serverId, id) = some entries
        → (∃ left,
            contents next (service.serverId, id) = some left
            ∧ left.map (·.item.id)
              = (entries.filter (·.removalId ∉ removalIds)).map (·.item.id))
          ∧ Framed contents state next (service.serverId, id)
  create
    : ∀ {state next name ids id},
        service.createPlaylist state name ids = (next, some id)
        → id ≠ ""
          ∧ (∃ entries,
              contents next (service.serverId, id) = some entries
              ∧ entries.map (·.item.id) = ids)
          ∧ Framed contents state next (service.serverId, id)
  delete
    : ∀ {state next id},
        service.deletePlaylist state id = (next, true)
        → Framed contents state next (service.serverId, id)

-- What is known after a run

def PayloadEvent.place : PayloadEvent → PlaylistPlace
  | .applied application => (application.serverId, application.playlistId)
  | .created application => (application.serverId, application.playlistId)
  | .deleted serverId playlistId => (serverId, playlistId)

variable (rules : Alphabet)

/-- The items of the entries that are not removed. -/
def Application.keptIds (application : Application) : List String :=
  (application.existingItems.filter (fun entry =>
      !(entry.item.id ≠ "" && entry.item.id ∉ application.orderedIds rules))).map
    (·.item.id)

/-- A playlist holds the kept items and then the added ones. -/
def Outcome (state : σ) : PayloadEvent → Prop
  | .applied application | .created application =>
      ∃ entries,
        contents state (application.serverId, application.playlistId) = some entries
        ∧ entries.map (·.item.id) = application.keptIds rules ++ application.idsToAdd rules
  | .deleted _ _ => True

def lastAt (events : List PayloadEvent) (place : PlaylistPlace) : Option PayloadEvent :=
  (events.filter (·.place = place)).getLast?

/-- The playlists are as their last events left them. -/
def Settled (state : σ) (events : List PayloadEvent) : Prop :=
  ∀ place event, lastAt events place = some event → Outcome contents rules state event

variable {contents rules}

theorem lastAt_concat (events : List PayloadEvent) (event : PayloadEvent)
    (place : PlaylistPlace)
    : lastAt (events ++ [event]) place
      = if event.place = place then some event else lastAt events place := by
  unfold lastAt
  rw [List.filter_append, List.filter_singleton]
  by_cases same : event.place = place
  · rw [if_pos same, decide_eq_true same]
    exact List.getLast?_concat
  · rw [if_neg same, decide_eq_false same]
    exact congrArg List.getLast? (List.append_nil _)

theorem place_of_lastAt {events : List PayloadEvent} {place : PlaylistPlace}
    {event : PayloadEvent} (last : lastAt events place = some event)
    : event.place = place :=
  of_decide_eq_true (List.mem_filter.mp (List.mem_of_getLast? last)).2

theorem Outcome.framed {state next : σ} {event : PayloadEvent} {place : PlaylistPlace}
    (outcome : Outcome contents rules state event) (framed : Framed contents state next place)
    (other : event.place ≠ place)
    : Outcome contents rules next event := by
  cases event with
  | applied application | created application =>
      obtain ⟨entries, held, listed⟩ := outcome
      exact ⟨entries, (framed _ other).trans held, listed⟩
  | deleted => trivial

theorem Settled.concat {state next : σ} {events : List PayloadEvent} {event : PayloadEvent}
    (settled : Settled contents rules state events)
    (framed : Framed contents state next event.place)
    (outcome : Outcome contents rules next event)
    : Settled contents rules next (events ++ [event]) := by
  intro place last found
  rw [lastAt_concat] at found
  split at found
  · cases found
    exact outcome
  · next other =>
      have apart : last.place ≠ event.place := fun same =>
        other (same.symm.trans (place_of_lastAt found))
      exact (settled place last found).framed framed apart

-- Steps that succeed

variable {service : PlaylistService σ}

theorem PlaylistLaws.sendAdd (laws : PlaylistLaws contents service) {state next : σ} {id : String}
    {ids : List String} {entries : List PlaylistEntry}
    (sent : sendIfAny (fun state => service.addPlaylistItems state id) state ids = (next, true))
    (held : contents state (service.serverId, id) = some entries)
    : (∃ new,
        contents next (service.serverId, id) = some (entries ++ new)
        ∧ new.map (·.item.id) = ids)
      ∧ Framed contents state next (service.serverId, id) := by
  unfold sendIfAny at sent
  split at sent
  · next none_ =>
      cases sent
      exact ⟨⟨[], by rw [held, List.append_nil], none_.symm⟩, fun _ _ => rfl⟩
  · exact laws.add sent held

theorem PlaylistLaws.sendRemove (laws : PlaylistLaws contents service) {state next : σ}
    {id : String} {removalIds : List String} {entries : List PlaylistEntry}
    (sent
      : sendIfAny (fun state => service.removePlaylistEntries state id) state removalIds
        = (next, true))
    (held : contents state (service.serverId, id) = some entries)
    : (∃ left,
        contents next (service.serverId, id) = some left
        ∧ left.map (·.item.id)
          = (entries.filter (·.removalId ∉ removalIds)).map (·.item.id))
      ∧ Framed contents state next (service.serverId, id) := by
  unfold sendIfAny at sent
  split at sent
  · next none_ =>
      cases sent
      subst none_
      refine ⟨⟨entries, held, ?_⟩, fun _ _ => rfl⟩
      rw [List.filter_eq_self.mpr (fun _ _ => by simp)]
  · exact laws.remove sent held

theorem eq_of_removalId {entries : List PlaylistEntry}
    (unique : ((entries.filter (·.removalId ≠ "")).map PlaylistEntry.removalId).Nodup)
    {first second : PlaylistEntry} (inFirst : first ∈ entries) (inSecond : second ∈ entries)
    (named : second.removalId ≠ "") (same : first.removalId = second.removalId)
    : first = second := by
  refine List.inj_on_of_nodup_map unique (List.mem_filter.mpr ⟨inFirst, ?_⟩)
    (List.mem_filter.mpr ⟨inSecond, decide_eq_true named⟩) same
  rw [same]
  exact decide_eq_true named

theorem filter_removed {application : Application} {new : List PlaylistEntry}
    (unique
      : (((application.existingItems ++ new).filter (·.removalId ≠ "")).map
          PlaylistEntry.removalId).Nodup)
    (removable : application.removedEntries rules = application.extraEntries rules)
    : ((application.existingItems ++ new).filter (fun entry =>
          entry.removalId ∉ (application.removedEntries rules).map PlaylistEntry.removalId)).map
        (·.item.id)
      = application.keptIds rules ++ new.map (·.item.id) := by
  have removed {entry : PlaylistEntry} (inAll : entry ∈ application.existingItems ++ new)
      : entry.removalId ∈ (application.removedEntries rules).map PlaylistEntry.removalId
        ↔ entry ∈ application.removedEntries rules := by
    refine ⟨fun listed => ?_, List.mem_map_of_mem⟩
    obtain ⟨other, inRemoved, same⟩ := List.mem_map.mp listed
    have existing : other ∈ application.existingItems :=
      (List.mem_filter.mp (List.mem_filter.mp inRemoved).1).1
    have named : other.removalId ≠ "" := of_decide_eq_true (List.mem_filter.mp inRemoved).2
    rwa [eq_of_removalId unique inAll (List.mem_append_left _ existing) named same.symm]
  rw [List.filter_append, List.map_append]
  congr 1
  · refine congrArg (List.map _) (List.filter_congr (fun entry existing => ?_))
    rw [Bool.eq_iff_iff, decide_eq_true_eq, removed (List.mem_append_left _ existing), removable,
      Application.extraEntries, List.mem_filter, and_iff_right existing, Bool.not_eq_true,
      Bool.not_eq_true']
  · refine congrArg (List.map _) (List.filter_eq_self.mpr (fun entry isNew => ?_))
    refine decide_eq_true (fun listed => ?_)
    have inRemoved := (removed (List.mem_append_right _ isNew)).mp listed
    have named := (List.mem_filter.mp inRemoved).2
    have existing := (List.mem_filter.mp (List.mem_filter.mp inRemoved).1).1
    rw [List.filter_append, List.map_append] at unique
    exact (List.nodup_append.mp unique).2.2 _
      (List.mem_map_of_mem (List.mem_filter.mpr ⟨existing, named⟩)) _
      (List.mem_map_of_mem (List.mem_filter.mpr ⟨isNew, named⟩)) rfl

theorem removable_of_success {application : Application} {removeOk : Bool}
    (none_
      : (if removeOk then
          (application.extraEntries rules).length - (application.removedEntries rules).length
        else (application.extraEntries rules).length)
        = 0)
    : application.removedEntries rules = application.extraEntries rules := by
  have sublist : (application.removedEntries rules).Sublist (application.extraEntries rules) :=
    List.filter_sublist
  refine sublist.eq_of_length_le ?_
  split at none_
  · exact Nat.sub_eq_zero_iff_le.mp none_
  · rw [none_]
    exact Nat.zero_le _

theorem PlaylistLaws.updateExisting (laws : PlaylistLaws contents service)
    {run : PayloadRun σ} {playlistName : String} {application : Application}
    (own : application.serverId = service.serverId)
    (held
      : contents run.state (application.serverId, application.playlistId)
        = some application.existingItems)
    (success : (updateExisting rules service run playlistName application).failed = [])
    : run.failed = []
      ∧ Framed contents run.state
          (updateExisting rules service run playlistName application).state
          (application.serverId, application.playlistId)
      ∧ Outcome contents rules
          (updateExisting rules service run playlistName application).state
          (.applied application) := by
  unfold UserItems.updateExisting at success ⊢
  rw [own] at held ⊢
  generalize sending
    : sendIfAny (fun state => service.addPlaylistItems state application.playlistId) run.state
        (application.idsToAdd rules)
      = added at success ⊢
  obtain ⟨middle, addOk⟩ := added
  dsimp only at success ⊢
  generalize removing
    : sendIfAny (fun state => service.removePlaylistEntries state application.playlistId) middle
        ((application.removedEntries rules).map PlaylistEntry.removalId)
      = removed at success ⊢
  obtain ⟨next, removeOk⟩ := removed
  obtain ⟨both, last⟩ := List.append_eq_nil_iff.mp success
  obtain ⟨early, addNone⟩ := List.append_eq_nil_iff.mp both
  have addedOk : addOk = true := by
    by_contra failed
    rw [if_neg failed] at addNone
    cases addNone
  subst addedOk
  have none_ := by_contra (fun left => by rw [if_neg left] at last; cases last)
  have removable := removable_of_success none_
  have removedOk : removeOk = true := by
    by_contra failed
    rw [if_neg failed, ← removable, List.length_eq_zero_iff] at none_
    rw [none_] at removing
    cases removing
    exact failed rfl
  subst removedOk
  obtain ⟨⟨new, grown, listed⟩, framed⟩ := laws.sendAdd sending held
  obtain ⟨⟨left, shrunk, kept⟩, framed_⟩ := laws.sendRemove removing grown
  refine ⟨early, fun place other => (framed_ place other).trans (framed place other), left,
    own ▸ shrunk, ?_⟩
  rw [kept, filter_removed (laws.unique grown) removable, listed]

variable (contents rules) in
/-- What steps without a failure do, after what was done to earlier targets. -/
structure Progress (earlier : List PayloadEvent) (run next : PayloadRun σ) : Prop where
  early : run.failed = []
  settled
    : Settled contents rules run.state (earlier ++ run.events)
      → Settled contents rules next.state (earlier ++ next.events)
  kept : run.events ⊆ next.events

theorem Progress.trans {earlier : List PayloadEvent} {run middle next : PayloadRun σ}
    (first : Progress contents rules earlier run middle)
    (second : Progress contents rules earlier middle next)
    : Progress contents rules earlier run next :=
  ⟨first.early, fun settled => second.settled (first.settled settled),
    fun _ member => second.kept (first.kept member)⟩

/-- A step with one event. -/
theorem Progress.of_event {earlier : List PayloadEvent} {run next : PayloadRun σ}
    {event : PayloadEvent} (early : run.failed = []) (added : next.events = run.events ++ [event])
    (framed : Framed contents run.state next.state event.place)
    (outcome : Outcome contents rules next.state event)
    : Progress contents rules earlier run next where
  early := early
  settled := fun settled => by
    rw [added, ← List.append_assoc]
    exact settled.concat framed outcome
  kept := by
    rw [added]
    exact List.subset_append_left _ _

/-- The target has its playlist of that name: an existing one or a new one. -/
def HasPlaylist (service : PlaylistService σ) (events : List PayloadEvent)
    (entry : PlaylistName × Playlist)
    : Prop :=
  ∃ application,
    (.applied application ∈ events ∨ .created application ∈ events)
    ∧ application.name = entry.1
    ∧ application.items = entry.2.items
    ∧ application.serverId = service.serverId

theorem HasPlaylist.subset {events more : List PayloadEvent} {entry : PlaylistName × Playlist}
    (has : HasPlaylist service events entry) (subset : events ⊆ more)
    : HasPlaylist service more entry := by
  obtain ⟨application, listed, fits⟩ := has
  exact ⟨application, listed.imp (@subset _) (@subset _), fits⟩

theorem createMissing_progress (laws : PlaylistLaws contents service)
    (earlier : List PayloadEvent) {library : List LibraryItem} {run : PayloadRun σ}
    {playlistName : String} {entry : PlaylistName × Playlist}
    (success : (createMissing rules service library run playlistName entry).failed = [])
    : Progress contents rules earlier run
          (createMissing rules service library run playlistName entry)
      ∧ HasPlaylist service (createMissing rules service library run playlistName entry).events
          entry := by
  unfold createMissing at success ⊢
  generalize created
    : service.createPlaylist run.state playlistName (orderedIdsOf rules library entry.2.items)
      = reply at success ⊢
  obtain ⟨next, id⟩ := reply
  cases id with
  | none => exact absurd (List.append_eq_nil_iff.mp success).2 (List.cons_ne_nil _ _)
  | some id =>
      obtain ⟨-, ⟨entries, held, listed⟩, framed⟩ := laws.create created
      refine ⟨.of_event success rfl framed ⟨entries, held, ?_⟩, _,
        .inr (List.mem_append_right _ (List.mem_singleton_self _)), rfl, rfl, rfl⟩
      rw [listed]
      exact (List.filter_eq_self.mpr (fun _ _ => decide_eq_true List.not_mem_nil)).symm

theorem applyPlaylist_progress (laws : PlaylistLaws contents service)
    (earlier : List PayloadEvent) {library : List LibraryItem} {run : PayloadRun σ}
    {entry : PlaylistName × Playlist}
    (success : (applyPlaylist rules service library run entry).failed = [])
    : Progress contents rules earlier run (applyPlaylist rules service library run entry)
      ∧ HasPlaylist service (applyPlaylist rules service library run entry).events entry := by
  unfold applyPlaylist at success ⊢
  dsimp only at success ⊢
  split at success
  · next missing =>
      rw [if_pos missing]
      exact createMissing_progress laws earlier success
  · next there =>
      rw [if_neg there]
      split at success
      · exact absurd (List.append_eq_nil_iff.mp success).2 (List.cons_ne_nil _ _)
      · next existingItems fetched =>
          obtain ⟨early, framed, outcome⟩ :=
            laws.updateExisting rfl (laws.fetch fetched) success
          exact ⟨.of_event early rfl framed outcome, _,
            .inl (List.mem_append_right _ (List.mem_singleton_self _)), rfl, rfl, rfl⟩

theorem deleteNamed_progress (laws : PlaylistLaws contents service)
    (earlier : List PayloadEvent) {run : PayloadRun σ} {deletedName : String}
    (success : (deleteNamed service run deletedName).failed = [])
    : Progress contents rules earlier run (deleteNamed service run deletedName) := by
  unfold deleteNamed at success ⊢
  dsimp only at success ⊢
  split at success
  · next missing =>
      rw [if_pos missing]
      exact ⟨success, id, List.Subset.refl _⟩
  · next there =>
      rw [if_neg there]
      generalize deleted
        : service.deletePlaylist run.state ((run.targetByName.get? deletedName).getD "")
          = reply at success ⊢
      obtain ⟨next, _ | _⟩ := reply
      · exact absurd (List.append_eq_nil_iff.mp success).2 (List.cons_ne_nil _ _)
      · exact .of_event success rfl (laws.delete deleted) trivial

theorem foldl_progress {α : Type} {step : PayloadRun σ → α → PayloadRun σ}
    (earlier : List PayloadEvent)
    (steps : ∀ run item, (step run item).failed = []
      → Progress contents rules earlier run (step run item))
    (items : List α) {run : PayloadRun σ} (success : (items.foldl step run).failed = [])
    : Progress contents rules earlier run (items.foldl step run) := by
  induction items generalizing run with
  | nil => exact ⟨success, id, List.Subset.refl _⟩
  | cons item rest ih =>
      have later := ih success
      exact (steps run item later.early).trans later

theorem foldl_hasPlaylist (laws : PlaylistLaws contents service) {library : List LibraryItem}
    {items : List (PlaylistName × Playlist)} {run : PayloadRun σ}
    (success : (items.foldl (applyPlaylist rules service library) run).failed = [])
    : ∀ entry ∈ items,
        HasPlaylist service (items.foldl (applyPlaylist rules service library) run).events
          entry := by
  induction items generalizing run with
  | nil => exact fun _ member => absurd member List.not_mem_nil
  | cons first rest ih =>
      have later : Progress contents rules [] (applyPlaylist rules service library run first) _ :=
        foldl_progress [] (fun _ _ success => (applyPlaylist_progress laws [] success).1) rest
          success
      intro entry member
      rcases List.mem_cons.mp member with rfl | member
      · exact (applyPlaylist_progress laws [] later.early).2.subset later.kept
      · exact ih success entry member

theorem applyToTarget_progress (laws : PlaylistLaws contents service)
    {desired : PlaylistsSnapshot} {deletedNames : List String} {state : σ}
    (earlier : List PayloadEvent)
    (success : (applyToTarget rules service desired deletedNames state).failed = [])
    : (Settled contents rules state earlier
        → Settled contents rules (applyToTarget rules service desired deletedNames state).state
            (earlier ++ (applyToTarget rules service desired deletedNames state).events))
      ∧ ∀ entry ∈ desired.items,
          HasPlaylist service (applyToTarget rules service desired deletedNames state).events
            entry := by
  unfold applyToTarget at success ⊢
  split at success
  · cases success
  · next library lookup =>
      split at success
      · cases success
      · next playlists fetched =>
          have applied :=
            foldl_progress earlier
              (fun _ _ success => (applyPlaylist_progress laws earlier success).1) _ success
          have deleted : Progress contents rules earlier _ _ :=
            foldl_progress earlier (fun _ _ success => deleteNamed_progress laws earlier success)
              _ applied.early
          refine ⟨fun settled => (deleted.trans applied).settled ?_,
            foldl_hasPlaylist laws success⟩
          rwa [List.append_nil]

/-- All targets of a run without a failure have their playlists and are settled, by induction on
the targets.
-/
theorem foldl_applyTarget_progress {desired : PlaylistsSnapshot} {deletedNames : List String}
    {targets : List (Except String (PlaylistService σ))}
    (laws : ∀ service, .ok service ∈ targets → PlaylistLaws contents service)
    {result : PayloadResult σ}
    (success : (targets.foldl (applyTarget rules desired deletedNames) result).failed = [])
    : result.failed = []
      ∧ result.events ⊆ (targets.foldl (applyTarget rules desired deletedNames) result).events
      ∧ (Settled contents rules result.state result.events
        → Settled contents rules
            (targets.foldl (applyTarget rules desired deletedNames) result).state
            (targets.foldl (applyTarget rules desired deletedNames) result).events)
      ∧ ∀ service,
          .ok service ∈ targets
          → ∀ entry ∈ desired.items,
              HasPlaylist service
                (targets.foldl (applyTarget rules desired deletedNames) result).events entry := by
  induction targets generalizing result with
  | nil =>
      exact ⟨success, List.Subset.refl _, id, fun _ member => absurd member List.not_mem_nil⟩
  | cons target rest ih =>
      obtain ⟨failed, kept, settled, have_⟩ :=
        ih (fun service member => laws service (List.mem_cons_of_mem _ member)) success
      rw [List.foldl_cons]
      cases target with
      | error serverId =>
          exact absurd (List.append_eq_nil_iff.mp failed).2 (List.cons_ne_nil _ _)
      | ok service =>
          obtain ⟨early, here⟩ := List.append_eq_nil_iff.mp failed
          obtain ⟨progress, has⟩ :=
            applyToTarget_progress (laws service List.mem_cons_self) result.events here
          have added := List.Subset.trans (List.subset_append_right result.events _) kept
          refine ⟨early, List.Subset.trans (List.subset_append_left _ _) kept,
            fun before => settled (progress before), fun other member entry wanted => ?_⟩
          rcases List.mem_cons.mp member with same | member
          · cases same
            exact (has entry wanted).subset added
          · exact have_ other member entry wanted

theorem Outcome.lists_iff {state : σ} {event : PayloadEvent} {application : Application}
    (outcome : Outcome contents rules state event)
    (of : event = .applied application ∨ event = .created application)
    : (∃ entries,
        contents state (application.serverId, application.playlistId) = some entries
        ∧ entries.map (·.item.id) = application.orderedIds rules)
      ↔ application.keptIds rules <+: application.orderedIds rules := by
  have held
      : ∃ entries,
          contents state (application.serverId, application.playlistId) = some entries
          ∧ entries.map (·.item.id)
            = application.keptIds rules ++ application.idsToAdd rules := by
    rcases of with rfl | rfl <;> exact outcome
  obtain ⟨entries, found, listed⟩ := held
  have order
      : application.keptIds rules ++ application.idsToAdd rules = application.orderedIds rules
        ↔ application.keptIds rules <+: application.orderedIds rules := by
    refine append_missing_eq_iff (nodup_eraseDups _) (fun id wanted => ?_)
    rw [Application.keptIds, List.mem_map, List.mem_map]
    refine exists_congr (fun entry => ?_)
    rw [List.mem_filter]
    refine ⟨fun both => ⟨both.1.1, both.2⟩, fun both => ⟨⟨both.1, ?_⟩, both.2⟩⟩
    rw [both.2]
    simp [wanted]
  rw [← order, ← listed]
  exact ⟨fun ⟨other, there, same⟩ => by rw [found] at there; cases there; exact same,
    fun same => ⟨entries, found, same⟩⟩

end Order

/-- A playlists run with its writes; without participants it is skipped. -/
def runPlaylistsDelta (rules : Alphabet) {σ : Type} (states : List PlaylistsState)
    (targets : List (Except String (PlaylistService σ))) (state : σ)
    : Except SyncError (Option (PlaylistsPlan × PayloadResult σ)) :=
  match runPlaylistsDeltaSync states with
  | .error error => .error error
  | .ok none => .ok none
  | .ok (some plan) =>
      .ok
        (some
          (plan,
            syncUserPlaylistsToPayload rules plan.desiredPlaylists targets
              plan.deletedPlaylistNames state))

/-- After a run that reports no failure every participant has its playlist of each name, and the
playlists are in the desired order exactly when what they kept begins it.
-/
theorem order_propagates_iff (rules : Alphabet) {σ : Type}
    (contents : σ → PlaylistPlace → Option (List PlaylistEntry))
    (targets : List (Except String (PlaylistService σ)))
    (laws : ∀ service, .ok service ∈ targets → PlaylistLaws contents service)
    (states : List PlaylistsState) (state : σ) (plan : PlaylistsPlan) (result : PayloadResult σ)
    (ran : runPlaylistsDelta rules states targets state = .ok (some (plan, result)))
    (success : result.failed = [])
    : ∀ name playlist,
        plan.desiredPlaylists.get? name = some playlist
        → (∀ service,
            .ok service ∈ targets → HasPlaylist service result.events (name, playlist))
          ∧ ∀ place event application,
              lastAt result.events place = some event
              → event = .applied application ∨ event = .created application
              → application.name = name
              → ((∃ entries,
                  contents result.state (application.serverId, application.playlistId)
                    = some entries
                  ∧ entries.map (·.item.id) = application.orderedIds rules)
                ↔ application.keptIds rules <+: application.orderedIds rules) := by
  unfold runPlaylistsDelta at ran
  split at ran
  · cases ran
  · cases ran
  · cases ran
    obtain ⟨-, -, settled, has⟩ := foldl_applyTarget_progress laws success
    have ends := settled (fun place event found => by cases found)
    intro name playlist wanted
    refine ⟨fun service member => has service member _ (Dict.mem_items_iff.mpr wanted), ?_⟩
    exact fun place event application last of _ => (ends place event last).lists_iff of

-- Two films in another order

def numberedItem (number : String) : LibraryItem where
  id := number
  details :=
    itemOf
      [ ("Type", .text "Movie"),
        ("ProviderIds", .ofDict (itemOf [("tmdb", .text number)])) ]
  userData := ⟨false, 0, none, none⟩

def numberedEntry (number : String) : PlaylistEntry := ⟨numberedItem number, number, [], ""⟩

/-- A user of a server that refuses all changes, with one playlist of numbered films. -/
def orderedService (serverId : String) (numbers : List String) : PlaylistService Unit where
  serverId := serverId
  label := serverId
  fetchPlaylists _ := some [⟨"p1", "mix", ""⟩]
  fetchPlaylistItems _ id := if id = "p1" then some (numbers.map numberedEntry) else none
  fetchItemsByProviderIds _ _ _ := some [numberedItem "1", numberedItem "2"]
  createPlaylist state _ _ := (state, none)
  addPlaylistItems state _ _ := (state, false)
  removePlaylistEntries state _ _ := (state, false)
  deletePlaylist state _ := (state, false)

def mixOf (keys : List ItemKey) : PlaylistsSnapshot :=
  (∅ : PlaylistsSnapshot).set "mix" ⟨"mix", keys⟩

/-- The first user has exchanged the two films. -/
def exchangedStates : List PlaylistsState :=
  [ ⟨mixOf ["tmdb:2", "tmdb:1"], some (mixOf ["tmdb:1", "tmdb:2"])⟩,
    ⟨mixOf ["tmdb:1", "tmdb:2"], some (mixOf ["tmdb:1", "tmdb:2"])⟩ ]

def exchangedTargets : List (Except String (PlaylistService Unit)) :=
  [.ok (orderedService "a" ["2", "1"]), .ok (orderedService "b" ["1", "2"])]

def exchangedContents (_ : Unit) (place : PlaylistPlace) : Option (List PlaylistEntry) :=
  if place = ("a", "p1") then some (["2", "1"].map numberedEntry)
  else if place = ("b", "p1") then some (["1", "2"].map numberedEntry)
  else none

def exchangedPlan : PlaylistsPlan := ⟨mixOf ["tmdb:2", "tmdb:1"], [], ⟨1, 0, 0, 0, 1⟩⟩

def exchangedResult : PayloadResult Unit :=
  syncUserPlaylistsToPayload plainRules exchangedPlan.desiredPlaylists exchangedTargets [] ()

theorem exchanged_ran
    : runPlaylistsDelta plainRules exchangedStates exchangedTargets ()
      = .ok (some (exchangedPlan, exchangedResult)) := by
  have planned : runPlaylistsDeltaSync exchangedStates = .ok (some exchangedPlan) := by
    decide
  rw [runPlaylistsDelta, planned]
  rfl

theorem exchanged_success : exchangedResult.failed = [] := by decide

theorem orderedService_laws {serverId : String} {numbers : List String}
    (held : exchangedContents () (serverId, "p1") = some (numbers.map numberedEntry))
    : PlaylistLaws exchangedContents (orderedService serverId numbers) where
  unique {_ place entries} there := by
    unfold exchangedContents at there
    split at there
    · cases there
      decide
    · split at there
      · cases there
        decide
      · cases there
  fetch {_ id entries} fetched := by
    change (if id = "p1" then some (numbers.map numberedEntry) else none) = some entries at fetched
    split at fetched
    · next same =>
        subst same
        exact held.trans fetched
    · cases fetched
  add sent := nomatch sent
  remove sent := nomatch sent
  create sent := nomatch sent
  delete sent := nomatch sent

theorem exchangedTargets_laws (service : PlaylistService Unit)
    (member : .ok service ∈ exchangedTargets)
    : PlaylistLaws exchangedContents service := by
  rcases List.mem_cons.mp member with same | member
  · cases same
    exact orderedService_laws rfl
  · cases List.mem_singleton.mp member
    exact orderedService_laws rfl

theorem order_propagates_iff_exchanged
    : (∀ service,
        .ok service ∈ exchangedTargets
        → HasPlaylist service exchangedResult.events ("mix", ⟨"mix", ["tmdb:2", "tmdb:1"]⟩))
      ∧ ∀ place event application,
          lastAt exchangedResult.events place = some event
          → event = .applied application ∨ event = .created application
          → application.name = "mix"
          → ((∃ entries,
              exchangedContents exchangedResult.state
                  (application.serverId, application.playlistId)
                = some entries
              ∧ entries.map (·.item.id) = application.orderedIds plainRules)
            ↔ application.keptIds plainRules <+: application.orderedIds plainRules) :=
  order_propagates_iff plainRules exchangedContents exchangedTargets exchangedTargets_laws
    exchangedStates () exchangedPlan exchangedResult exchanged_ran exchanged_success
    "mix" ⟨"mix", ["tmdb:2", "tmdb:1"]⟩ rfl

/-- The run succeeds, and the second user still has the films in the old order. -/
theorem exchanged_order_is_lost
    : runPlaylistsDelta plainRules exchangedStates exchangedTargets ()
        = .ok (some (exchangedPlan, exchangedResult))
      ∧ exchangedResult.failed = []
      ∧ exchangedPlan.delta.orderChanges = 1
      ∧ orderedIdsOf plainRules [numberedItem "1", numberedItem "2"] ["tmdb:2", "tmdb:1"]
        = ["2", "1"]
      ∧ ((orderedService "b" ["1", "2"]).fetchPlaylistItems exchangedResult.state "p1").map
            (fun entries => entries.map (·.item.id))
        = some ["1", "2"] :=
  ⟨exchanged_ran, exchanged_success, rfl, by decide, rfl⟩

end OctoHubs.UserItems
