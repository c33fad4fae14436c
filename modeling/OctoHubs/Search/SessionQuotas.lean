import OctoHubs.Search.SearchSessions

/-! Quotas of the searches: the registry counts every running search that was claimed less than
the active lifetime ago, so its limits bound them.
-/

namespace OctoHubs.Search

open OctoHubs.Library

-- Counting sessions

namespace SearchSessions

variable (sessions : SearchSessions) (limits : SearchLimits)

theorem countWhere_filter_le (keeps : SessionId → SearchSession → Bool)
    (counts : SearchSession → Bool)
    : SearchSessions.countWhere (sessions.filter keeps) counts ≤ sessions.countWhere counts :=
  List.filter_sublist.countP_le

theorem countWhere_erase_le (sessionId : SessionId) (counts : SearchSession → Bool)
    : SearchSessions.countWhere (sessions.erase sessionId) counts
      ≤ sessions.countWhere counts :=
  List.filter_sublist.countP_le

theorem countWhere_set_le (sessionId : SessionId) (session : SearchSession)
    (counts : SearchSession → Bool)
    : SearchSessions.countWhere (sessions.set sessionId session) counts
      ≤ sessions.countWhere counts + if counts session then 1 else 0 :=
  countP_writeItems_le (fun item => counts item.2) sessionId session sessions.items

theorem length_eq_countWhere : sessions.items.length = sessions.countWhere (fun _ => true) := by
  rw [countWhere, List.countP_true]

theorem countWhere_set_le_of_room {limit : Nat} {counts : SearchSession → Bool}
    {session : SearchSession} (sessionId : SessionId)
    (within : sessions.countWhere counts ≤ limit)
    (room : counts session = true → sessions.countWhere counts < limit)
    : SearchSessions.countWhere (sessions.set sessionId session) counts ≤ limit := by
  have grown := sessions.countWhere_set_le sessionId session counts
  split at grown
  · next counted =>
      have free := room counted
      omega
  · omega

/-- The sessions are within all limits. -/
structure Within : Prop where
  pendingPerUser
    : ∀ ownerId,
        sessions.countWhere (fun session => session.owned ownerId && session.isPending)
        ≤ limits.maxPendingPerUser
  activePerUser
    : ∀ ownerId,
        sessions.countWhere (fun session => session.owned ownerId && session.isActive)
        ≤ limits.maxActivePerUser
  active : sessions.countWhere SearchSession.isActive ≤ limits.maxActive
  total : sessions.items.length ≤ limits.maxSessions

namespace Within

variable {sessions : SearchSessions} {limits : SearchLimits}

theorem of_counts_le {fewer : SearchSessions} (within : sessions.Within limits)
    (counts_le : ∀ counts, fewer.countWhere counts ≤ sessions.countWhere counts)
    : fewer.Within limits where
  pendingPerUser := fun ownerId => Nat.le_trans (counts_le _) (within.pendingPerUser ownerId)
  activePerUser := fun ownerId => Nat.le_trans (counts_le _) (within.activePerUser ownerId)
  active := Nat.le_trans (counts_le _) within.active
  total := by
    have fewer_le := counts_le (fun _ => true)
    have total := within.total
    rw [length_eq_countWhere] at total ⊢
    exact Nat.le_trans fewer_le total

theorem pruneExpired (within : sessions.Within limits) (now : Timestamp)
    : (sessions.pruneExpired limits now).Within limits :=
  within.of_counts_le (countWhere_filter_le sessions _)

theorem set_pending {session : SearchSession} (within : sessions.Within limits)
    (sessionId : SessionId) (pending : session.status = .pending)
    (roomForOwner
      : sessions.countWhere (fun other => other.owned session.ownerId && other.isPending)
        < limits.maxPendingPerUser)
    (room : sessions.items.length < limits.maxSessions)
    : SearchSessions.Within (sessions.set sessionId session) limits where
  pendingPerUser := by
    intro ownerId
    apply sessions.countWhere_set_le_of_room sessionId (within.pendingPerUser ownerId)
    intro counted
    have own : session.ownerId = ownerId := by
      simpa [SearchSession.owned] using (Bool.and_eq_true_iff.mp counted).1
    exact own ▸ roomForOwner
  activePerUser := by
    intro ownerId
    apply sessions.countWhere_set_le_of_room sessionId (within.activePerUser ownerId)
    intro counted
    simp [SearchSession.isActive, pending] at counted
  active := by
    apply sessions.countWhere_set_le_of_room sessionId within.active
    intro counted
    simp [SearchSession.isActive, pending] at counted
  total := by
    have grown := sessions.countWhere_set_le sessionId session (fun _ => true)
    rw [length_eq_countWhere] at room ⊢
    exact Nat.le_trans grown room

theorem set_active {old session : SearchSession} {sessionId : SessionId}
    (within : sessions.Within limits) (present : sessions.get? sessionId = some old)
    (active : session.status = .active)
    (roomForOwner
      : sessions.countWhere (fun other => other.owned session.ownerId && other.isActive)
        < limits.maxActivePerUser)
    (room : sessions.countWhere SearchSession.isActive < limits.maxActive)
    : SearchSessions.Within (sessions.set sessionId session) limits where
  pendingPerUser := by
    intro ownerId
    apply sessions.countWhere_set_le_of_room sessionId (within.pendingPerUser ownerId)
    intro counted
    simp [SearchSession.isPending, active] at counted
  activePerUser := by
    intro ownerId
    apply sessions.countWhere_set_le_of_room sessionId (within.activePerUser ownerId)
    intro counted
    have own : session.ownerId = ownerId := by
      simpa [SearchSession.owned] using (Bool.and_eq_true_iff.mp counted).1
    exact own ▸ roomForOwner
  active := by
    apply sessions.countWhere_set_le_of_room sessionId within.active
    intro _
    exact room
  total := by
    have same := countP_writeItems_of_lookup (fun _ => true) session present
    have total := within.total
    simp only [List.countP_true, if_true] at same
    change (writeItems sessionId session sessions.items).length ≤ limits.maxSessions
    omega

end Within

-- Calls

variable {sessions next : SearchSessions} {limits : SearchLimits} {now : Timestamp}
  {sessionId uuid : SessionId} {ownerId : Int}

theorem normalizeOwnerId_ok {normalized : Int}
    (accepted : normalizeOwnerId ownerId = .ok normalized)
    : normalized = ownerId := by
  unfold normalizeOwnerId at accepted
  split at accepted
  · cases accepted
  · cases accepted
    rfl

theorem create_cases {outcome : Except SearchSessionError SessionId}
    (called : sessions.create limits now uuid ownerId = (next, outcome))
    : (∃ error, outcome = .error error)
        ∧ (next = sessions ∨ next = sessions.pruneExpired limits now)
      ∨ outcome = .ok uuid
        ∧ (sessions.pruneExpired limits now).countWhere
            (fun session => session.owned ownerId && session.isPending)
          < limits.maxPendingPerUser
        ∧ (sessions.pruneExpired limits now).items.length < limits.maxSessions
        ∧ next
          = (sessions.pruneExpired limits now).set uuid ⟨ownerId, now, .pending, none⟩ := by
  unfold create at called
  split at called
  · cases called
    exact Or.inl ⟨⟨_, rfl⟩, Or.inl rfl⟩
  · next normalized accepted =>
      rw [normalizeOwnerId_ok accepted] at called
      dsimp only at called
      split at called
      · cases called
        exact Or.inl ⟨⟨_, rfl⟩, Or.inr rfl⟩
      · next free =>
          split at called
          · cases called
            exact Or.inl ⟨⟨_, rfl⟩, Or.inr rfl⟩
          · next room =>
              cases called
              exact Or.inr ⟨rfl, Nat.lt_of_not_le free, Nat.lt_of_not_le room, rfl⟩

theorem claim_cases {outcome : Except SearchSessionError Unit}
    (called : sessions.claim limits now sessionId ownerId = (next, outcome))
    : (∃ error, outcome = .error error)
        ∧ (next = sessions ∨ next = sessions.pruneExpired limits now)
      ∨ outcome = .ok ()
        ∧ ∃ session,
            (sessions.pruneExpired limits now).get? sessionId = some session
            ∧ session.ownerId = ownerId
            ∧ session.status = .pending
            ∧ (sessions.pruneExpired limits now).countWhere
                (fun other => other.owned ownerId && other.isActive)
              < limits.maxActivePerUser
            ∧ (sessions.pruneExpired limits now).countWhere SearchSession.isActive
              < limits.maxActive
            ∧ next
              = (sessions.pruneExpired limits now).set sessionId
                  { session with status := .active, claimedAt := some now } := by
  unfold claim at called
  split at called
  · cases called
    exact Or.inl ⟨⟨_, rfl⟩, Or.inl rfl⟩
  · next normalized accepted =>
      rw [normalizeOwnerId_ok accepted] at called
      dsimp only at called
      split at called
      · cases called
        exact Or.inl ⟨⟨_, rfl⟩, Or.inr rfl⟩
      · next session available =>
          obtain ⟨present, fits⟩ := Option.filter_eq_some_iff.mp available
          have own : session.ownerId = ownerId ∧ session.status = .pending := by
            simpa [SearchSession.owned, SearchSession.isPending] using fits
          split at called
          · cases called
            exact Or.inl ⟨⟨_, rfl⟩, Or.inr rfl⟩
          · next free =>
              split at called
              · cases called
                exact Or.inl ⟨⟨_, rfl⟩, Or.inr rfl⟩
              · next room =>
                  cases called
                  exact Or.inr
                    ⟨rfl, session, present, own.1, own.2, Nat.lt_of_not_le free,
                      Nat.lt_of_not_le room, rfl⟩

theorem finish_cases (sessions : SearchSessions) (sessionId : SessionId) (ownerId : Int)
    : sessions.finish sessionId ownerId = sessions
      ∨ sessions.finish sessionId ownerId = sessions.erase sessionId := by
  unfold finish
  split
  · exact Or.inl rfl
  · split
    · exact Or.inr rfl
    · exact Or.inl rfl

end SearchSessions

-- Runs

/-- Ids are claimed once, and every recent search is an active session of the registry. -/
structure Tracked (limits : SearchLimits) (world : SearchWorld) : Prop where
  within : world.sessions.Within limits
  issued
    : ∀ {sessionId : SessionId} {session : SearchSession},
        world.sessions.get? sessionId = some session → sessionId ∈ world.issued
  claimsIssued : ∀ sessionId ∈ world.claims, sessionId ∈ world.issued
  claimedOnce : world.claims.Nodup
  claimsActive
    : ∀ sessionId ∈ world.claims, ∀ {session : SearchSession},
        world.sessions.get? sessionId = some session → session.status = .active
  runningClaimed : (world.running.map RunningSearch.sessionId).Sublist world.claims
  counted
    : ∀ search ∈ world.running,
        world.clock - search.claimedAt < limits.activeTtl
        → ∃ createdAt,
            world.sessions.get? search.sessionId
            = some ⟨search.ownerId, createdAt, .active, some search.claimedAt⟩

namespace Tracked

variable {limits : SearchLimits} {world next : SearchWorld}

theorem opening (clock : Timestamp) : Tracked limits (.opening clock) where
  within :=
    ⟨fun _ => Nat.zero_le _, fun _ => Nat.zero_le _, Nat.zero_le _, Nat.zero_le _⟩
  issued := by
    intro sessionId session stored
    cases stored
  claimsIssued := by simp [SearchWorld.opening]
  claimedOnce := List.nodup_nil
  claimsActive := by simp [SearchWorld.opening]
  runningClaimed := List.Sublist.refl []
  counted := by simp [SearchWorld.opening]

theorem advance {now : Timestamp} (tracked : Tracked limits world)
    (taken : world.advance now = some next)
    : Tracked limits next ∧ next.clock = now ∧ next.issued = world.issued := by
  unfold SearchWorld.advance at taken
  split at taken
  · next later =>
      cases taken
      refine ⟨{ tracked with counted := ?_ }, rfl, rfl⟩
      intro search member young
      apply tracked.counted search member
      exact Int.lt_of_le_of_lt (Int.sub_le_sub_right later search.claimedAt) young
  · cases taken

theorem fewer (tracked : Tracked limits world) {sessions : SearchSessions}
    (within : sessions.Within limits)
    (subset
      : ∀ {sessionId : SessionId} {session : SearchSession},
          sessions.get? sessionId = some session
          → world.sessions.get? sessionId = some session)
    (kept
      : ∀ {sessionId : SessionId} {session : SearchSession},
          world.sessions.get? sessionId = some session
          → session.expired limits world.clock = false
          → sessions.get? sessionId = some session)
    : Tracked limits { world with sessions } where
  within := within
  issued := fun stored => tracked.issued (subset stored)
  claimsIssued := tracked.claimsIssued
  claimedOnce := tracked.claimedOnce
  claimsActive := fun sessionId member _ stored =>
    tracked.claimsActive sessionId member (subset stored)
  runningClaimed := tracked.runningClaimed
  counted := by
    intro search member young
    obtain ⟨createdAt, stored⟩ := tracked.counted search member young
    refine ⟨createdAt, kept stored ?_⟩
    simp only [SearchSession.expired, Option.getD_some, decide_eq_false_iff_not]
    exact Int.not_le.mpr young

theorem pruneExpired (tracked : Tracked limits world)
    : Tracked limits
        { world with sessions := world.sessions.pruneExpired limits world.clock } := by
  apply tracked.fewer (tracked.within.pruneExpired world.clock)
  · intro sessionId session stored
    rw [SearchSessions.pruneExpired, Dict.get?_filter] at stored
    exact (Option.filter_eq_some_iff.mp stored).1
  · intro sessionId session stored fresh
    rw [SearchSessions.pruneExpired, Dict.get?_filter, stored]
    exact Option.filter_eq_some_iff.mpr ⟨rfl, by rw [fresh]; rfl⟩

theorem create {now : Timestamp} {uuid : SessionId} {ownerId : Int}
    (tracked : Tracked limits world)
    (taken : world.create limits now uuid ownerId = some next)
    : Tracked limits next := by
  unfold SearchWorld.create at taken
  split at taken
  · cases taken
  · next new =>
      obtain ⟨current, advanced, moved⟩ := Option.map_eq_some_iff.mp taken
      obtain ⟨tracked, rfl, issued⟩ := tracked.advance advanced
      rw [← issued] at new
      have pruned := tracked.pruneExpired
      rcases called : current.sessions.create limits current.clock uuid ownerId
        with ⟨sessions, outcome⟩
      rw [called] at moved
      obtain ⟨⟨error, rfl⟩, rfl | rfl⟩ | ⟨rfl, roomForOwner, room, rfl⟩ :=
        SearchSessions.create_cases called
      · cases moved
        exact tracked
      · cases moved
        exact pruned
      · cases moved
        constructor
        · exact pruned.within.set_pending uuid rfl roomForOwner room
        · intro sessionId session stored
          dsimp only at stored
          rw [Dict.get?_set] at stored
          split at stored
          · next same => exact same ▸ List.mem_cons_self
          · exact List.mem_cons_of_mem uuid (pruned.issued stored)
        · intro sessionId member
          exact List.mem_cons_of_mem uuid (tracked.claimsIssued sessionId member)
        · exact tracked.claimedOnce
        · intro sessionId member session stored
          have different : sessionId ≠ uuid := by
            intro same
            exact new (same ▸ tracked.claimsIssued sessionId member)
          dsimp only at stored
          rw [Dict.get?_set_ne _ _ different] at stored
          exact pruned.claimsActive sessionId member stored
        · exact tracked.runningClaimed
        · intro search member young
          have claimed := tracked.runningClaimed.subset (List.mem_map_of_mem member)
          have different : search.sessionId ≠ uuid := by
            intro same
            exact new (same ▸ tracked.claimsIssued _ claimed)
          obtain ⟨createdAt, stored⟩ := pruned.counted search member young
          exact ⟨createdAt, by rwa [Dict.get?_set_ne _ _ different]⟩

theorem claim {now : Timestamp} {sessionId : SessionId} {ownerId : Int}
    (tracked : Tracked limits world)
    (taken : world.claim limits now sessionId ownerId = some next)
    : Tracked limits next := by
  obtain ⟨current, advanced, moved⟩ := Option.map_eq_some_iff.mp taken
  obtain ⟨tracked, rfl, -⟩ := tracked.advance advanced
  have pruned := tracked.pruneExpired
  rcases called : current.sessions.claim limits current.clock sessionId ownerId
    with ⟨sessions, outcome⟩
  rw [called] at moved
  obtain ⟨⟨error, rfl⟩, rfl | rfl⟩
      | ⟨rfl, session, present, own, pending, roomForOwner, room, rfl⟩ :=
    SearchSessions.claim_cases called
  · cases moved
    exact tracked
  · cases moved
    exact pruned
  · cases moved
    -- a claimed session is active, so a pending one is claimed for the first time
    have unclaimed : sessionId ∉ current.claims := by
      intro claimed
      have active := pruned.claimsActive sessionId claimed present
      rw [pending] at active
      cases active
    constructor
    · exact pruned.within.set_active present rfl (own ▸ roomForOwner) room
    · intro other stored found
      dsimp only at found
      rw [Dict.get?_set] at found
      split at found
      · next same =>
          rw [same]
          exact pruned.issued present
      · exact pruned.issued found
    · intro other member
      obtain rfl | member := List.mem_cons.mp member
      · exact pruned.issued present
      · exact tracked.claimsIssued other member
    · exact List.nodup_cons.mpr ⟨unclaimed, tracked.claimedOnce⟩
    · intro other member stored found
      dsimp only at found
      rw [Dict.get?_set] at found
      split at found
      · cases found
        rfl
      · next different =>
          obtain same | member := List.mem_cons.mp member
          · exact absurd same different
          · exact pruned.claimsActive other member found
    · exact tracked.runningClaimed.cons_cons sessionId
    · intro search member young
      obtain rfl | member := List.mem_cons.mp member
      · exact ⟨session.createdAt, by rw [Dict.get?_set_self, own]⟩
      · have claimed := tracked.runningClaimed.subset (List.mem_map_of_mem member)
        have different : search.sessionId ≠ sessionId := by
          intro same
          exact unclaimed (same ▸ claimed)
        obtain ⟨createdAt, stored⟩ := pruned.counted search member young
        exact ⟨createdAt, by rwa [Dict.get?_set_ne _ _ different]⟩

theorem endSearch {sessionId : SessionId} (tracked : Tracked limits world)
    (taken : world.endSearch sessionId = some next)
    : Tracked limits next := by
  obtain ⟨search, -, rfl⟩ := Option.map_eq_some_iff.mp taken
  have subset
      : ∀ {other : SessionId} {session : SearchSession},
          (world.sessions.finish sessionId search.ownerId).get? other = some session
          → world.sessions.get? other = some session := by
    intro other session stored
    obtain same | removed := SearchSessions.finish_cases world.sessions sessionId search.ownerId
    · rwa [same] at stored
    · rw [removed, Dict.get?_erase] at stored
      split at stored
      · cases stored
      · exact stored
  constructor
  · apply tracked.within.of_counts_le
    intro counts
    obtain same | removed := SearchSessions.finish_cases world.sessions sessionId search.ownerId
    · exact Nat.le_of_eq (by dsimp only; rw [same])
    · dsimp only
      rw [removed]
      exact SearchSessions.countWhere_erase_le world.sessions sessionId counts
  · exact fun stored => tracked.issued (subset stored)
  · exact tracked.claimsIssued
  · exact tracked.claimedOnce
  · exact fun other member _ stored => tracked.claimsActive other member (subset stored)
  · exact ((List.filter_sublist).map _).trans tracked.runningClaimed
  · intro other member young
    obtain ⟨running, different⟩ := List.mem_filter.mp member
    have different : other.sessionId ≠ sessionId := by simpa using different
    obtain ⟨createdAt, stored⟩ := tracked.counted other running young
    refine ⟨createdAt, ?_⟩
    dsimp only
    obtain same | removed := SearchSessions.finish_cases world.sessions sessionId search.ownerId
    · rwa [same]
    · rwa [removed, Dict.get?_erase_ne _ different]

theorem step {event : SearchEvent} (tracked : Tracked limits world)
    (taken : world.step limits event = some next)
    : Tracked limits next := by
  cases event with
  | create now uuid ownerId => exact tracked.create taken
  | claim now sessionId ownerId => exact tracked.claim taken
  | finish sessionId => exact tracked.endSearch taken
  | disconnect sessionId => exact tracked.endSearch taken
  | snapshot now =>
      obtain ⟨current, advanced, rfl⟩ := Option.map_eq_some_iff.mp taken
      obtain ⟨tracked, rfl, -⟩ := tracked.advance advanced
      exact tracked.pruneExpired
  | tick now => exact (tracked.advance taken).1

theorem recent_le (tracked : Tracked limits world) (searches : RunningSearch → Bool)
    (counts : SearchSession → Bool)
    (agree
      : ∀ (search : RunningSearch) (createdAt : Timestamp),
          searches search = true
          → counts ⟨search.ownerId, createdAt, .active, some search.claimedAt⟩ = true)
    : (world.recent limits).countP searches ≤ world.sessions.countWhere counts := by
  have distinct : (((world.recent limits).filter searches).map RunningSearch.sessionId).Nodup :=
    tracked.claimedOnce.sublist
      (((List.filter_sublist.trans List.filter_sublist).map _).trans tracked.runningClaimed)
  have listed
      : ((world.recent limits).filter searches).map RunningSearch.sessionId
        ⊆ (world.sessions.items.filter (fun item => counts item.2)).map Prod.fst := by
    intro sessionId member
    obtain ⟨search, chosen, rfl⟩ := List.mem_map.mp member
    obtain ⟨recent, searched⟩ := List.mem_filter.mp chosen
    obtain ⟨running, young⟩ := List.mem_filter.mp recent
    obtain ⟨createdAt, stored⟩ := tracked.counted search running (of_decide_eq_true young)
    exact List.mem_map.mpr
      ⟨_, List.mem_filter.mpr ⟨Dict.mem_items_iff.mpr stored, agree search createdAt searched⟩,
        rfl⟩
  have shorter := (List.subperm_of_subset distinct listed).length_le
  rw [List.length_map, List.length_map] at shorter
  rwa [SearchSessions.countWhere, List.countP_eq_length_filter, List.countP_eq_length_filter]

end Tracked

/-- Ids are claimed once, and the recent searches and the stored sessions are within the
limits.
-/
structure SearchWorld.Bounded (limits : SearchLimits) (world : SearchWorld) : Prop where
  claimedOnce : world.claims.Nodup
  running : (world.recent limits).length ≤ limits.maxActive
  runningPerUser
    : ∀ ownerId,
        (world.recent limits).countP (fun search => search.ownerId = ownerId)
        ≤ limits.maxActivePerUser
  pendingPerUser
    : ∀ ownerId,
        world.sessions.countWhere (fun session => session.owned ownerId && session.isPending)
        ≤ limits.maxPendingPerUser
  sessions : world.sessions.items.length ≤ limits.maxSessions

/-- In every run the quotas bound the searches that were claimed less than the active lifetime
ago.
-/
theorem searches_bounded (limits : SearchLimits) {clock : Timestamp} {events : List SearchEvent}
    {finish : SearchWorld}
    (run
      : Run (fun world event => world.step limits event) (fun _ _ => True)
          (.opening clock) events finish)
    : finish.Bounded limits := by
  have tracked : Tracked limits finish := by
    apply run.preserves (Tracked limits) _ (Tracked.opening clock)
    intro world next event tracked _ taken
    exact tracked.step taken
  constructor
  · exact tracked.claimedOnce
  · have counted := tracked.recent_le (fun _ => true) SearchSession.isActive (fun _ _ _ => rfl)
    rw [List.countP_true] at counted
    exact Nat.le_trans counted tracked.within.active
  · intro ownerId
    have counted :=
      tracked.recent_le (fun search => search.ownerId = ownerId)
        (fun session => session.owned ownerId && session.isActive)
        (by
          intro search createdAt own
          simpa [SearchSession.owned, SearchSession.isActive] using own)
    exact Nat.le_trans counted (tracked.within.activePerUser ownerId)
  · exact tracked.within.pendingPerUser
  · exact tracked.within.total

/-- One user searches twice, and again after five minutes, while the first searches still run. -/
def longSearches : List SearchEvent :=
  [.create 0 "first" 1, .create 0 "second" 1, .claim 0 "first" 1, .claim 0 "second" 1,
    .create (5 * 60 * second) "third" 1, .claim (5 * 60 * second) "third" 1]

theorem searches_bounded_longSearches
    : ∃ finish,
        SearchWorld.Bounded {} finish
        ∧ (finish.recent {}).map RunningSearch.sessionId = ["third"]
        ∧ finish.claims.length = 3 := by
  have reached
      : ∃ finish,
          Run (fun world event => SearchWorld.step world {} event) (fun _ _ => True)
            (.opening 0) longSearches finish
          ∧ (finish.recent {}).map RunningSearch.sessionId = ["third"]
          ∧ finish.claims.length = 3 :=
    Run.exists_of_execute (by decide)
  obtain ⟨finish, run, results⟩ := reached
  exact ⟨finish, searches_bounded {} run, results⟩

theorem longSearches_exceed_quota
    : ∃ finish,
        Run (fun world event => SearchWorld.step world {} event) (fun _ _ => True)
          (.opening 0) longSearches finish
        ∧ ({} : SearchLimits).maxActivePerUser
          < finish.running.countP (fun search => search.ownerId = 1) :=
  Run.exists_of_execute (by decide)

end OctoHubs.Search
