import OctoHubs.Library.Runs
import OctoHubs.UserLinks.Leadership
import OctoHubs.UserLinks.Store

/-! Linked groups through every sequence of mutations, user cleanups and server removals.
Each transaction repairs the groups that it takes members from, and forgets the records of
those that end with it.
-/

namespace OctoHubs.UserLinks

open OctoHubs.Library

/-- Every group with members has one leader, and every group has a name. -/
structure WellLed (table : UserLinksTable) : Prop where
  led : OneLeaderEach table
  named : Dissolved table ""

/-- The links stay well led, and every group that ended is among the dissolved ones. -/
structure Keeps (before after : UserLinksTable) (dissolved : List GroupId) : Prop where
  wellLed : WellLed after
  ended : ∀ group, ¬ Dissolved before group → Dissolved after group → group ∈ dissolved

theorem OneLeader.not_dissolved {table : UserLinksTable} {group : GroupId}
    (one : OneLeader table group)
    : ¬ Dissolved table group := by
  obtain ⟨leader, ⟨link, found, here, -⟩, -⟩ := one
  exact fun dissolved => dissolved leader ⟨link, found, here⟩

theorem Normalized.keeps {before rows links : UserLinksTable}
    {groups dissolve : List GroupId} {state : Normalization}
    (normalized : Normalized rows dissolve groups state links)
    (same : ∀ group, group ∉ groups → SameIn group before rows)
    (led : OneLeaderEach before) (named : Dissolved rows "")
    : Keeps before links state.dissolvedGroups := by
  refine ⟨⟨fun group occupied => ?_, ?_⟩, fun group existed gone => ?_⟩
  · by_cases touched : group ∈ groups
    · obtain ⟨dissolved, kept⟩ := normalized.repaired group touched
      exact (kept (fun dissolves => occupied (dissolved dissolves).2)).1
    · have after := normalized.sameIn touched
      have rowsLed := (same group touched).oneLeader_iff
      rw [after.oneLeader_iff, rowsLed]
      rw [after.dissolved_iff, (same group touched).dissolved_iff] at occupied
      exact led group occupied
  · by_cases touched : "" ∈ groups
    · exact ((normalized.repaired "" touched).dissolved (.inl named)).2
    · exact (normalized.sameIn touched).dissolved_iff.mpr named
  · by_cases touched : group ∈ groups
    · obtain ⟨dissolved, kept⟩ := normalized.repaired group touched
      by_cases dissolves : Dissolves rows dissolve group
      · exact (dissolved dissolves).1
      · exact absurd gone (kept dissolves).1.not_dissolved
    · rw [(normalized.sameIn touched).dissolved_iff, (same group touched).dissolved_iff] at gone
      exact absurd gone existed

section Mutations

variable {table : UserLinksTable} {request : LinkMutation}

theorem memberRows_sameIn {group : GroupId} (unaffected : group ∉ request.affectedGroups table)
    : SameIn group table (memberRows request table) := by
  unfold LinkMutation.affectedGroups at unaffected
  simp only [List.mem_insertionSort, List.mem_dedup, List.mem_append, not_or] at unaffected
  obtain ⟨⟨unwritten, -⟩, unleft⟩ := unaffected
  intro identity link here
  rw [get?_memberRows]
  -- a user of the request has its old link in another group
  have elsewhere (named : identity ∈ request.identities) : table.get? identity ≠ some link := by
    intro found
    exact unleft (List.mem_filterMap.mpr ⟨identity, named, by rw [found, ← here]; rfl⟩)
  unfold LinkMutation.linkAfter
  by_cases removed : identity ∈ request.removals
  · rw [if_pos removed]
    exact iff_of_false (fun absurdity => by cases absurdity)
      (elsewhere (List.mem_append_right _ removed))
  · rw [if_neg removed]
    cases upsert : request.upserts.find? (fun item => item.identity = identity) with
    | none => rfl
    | some item =>
        have member := List.mem_of_find?_eq_some upsert
        have same := List.find?_some upsert
        rw [decide_eq_true_eq] at same
        refine iff_of_false ?_ (elsewhere ?_)
        · intro written
          apply unwritten
          rw [← here, ← Option.some.inj written, upsertedLink_groupId]
          exact List.mem_map_of_mem member
        · rw [← same]
          exact List.mem_append_left _ (List.mem_map_of_mem member)

theorem memberRows_named (bounded : LinkStore.bounded request = true)
    (named : Dissolved table "")
    : Dissolved (memberRows request table) "" := by
  rintro identity ⟨link, found, unnamed⟩
  rw [get?_memberRows] at found
  unfold LinkMutation.linkAfter at found
  split at found
  · cases found
  · split at found
    · next item upsert =>
        have texts := List.all_eq_true.mp bounded item (List.mem_of_find?_eq_some upsert)
        rw [← Option.some.inj found, upsertedLink_groupId] at unnamed
        simp [unnamed] at texts
    · exact named identity ⟨link, found, unnamed⟩

theorem mutateUserLinks_keeps {result : LinkMutationResult} (wellLed : WellLed table)
    (bounded : LinkStore.bounded request = true)
    (committed : UserLinks.mutateUserLinks table request = .ok result)
    : Keeps table result.links result.dissolvedGroups := by
  have apart : ¬ request.LeadersMeet table := by
    intro meet
    rw [mutateUserLinks_refused meet] at committed
    cases committed
  obtain ⟨state, links, same, normalized⟩ := mutateUserLinks_normalized apart
  cases committed.symm.trans same
  exact normalized.keeps (fun group unaffected => memberRows_sameIn unaffected) wellLed.led
    (memberRows_named bounded wellLed.named)

end Mutations

section Cleanup

variable {rows : UserLinksTable} {group : GroupId}

theorem flush_members (rows : UserLinksTable) (group : GroupId)
    : ∃ next,
        flush rows { deletes := (groupMembers rows group).map Prod.fst } = some next
        ∧ Dissolved next group
        ∧ SameOutside group rows next := by
  refine ⟨_, rfl, ?_, fun identity link outside => ?_⟩
  · rintro identity ⟨link, found, here⟩
    rw [Dict.get?_foldl_erase] at found
    split at found
    · cases found
    · next stays => exact stays (inGroup_iff_mem.mp ⟨link, found, here⟩)
  · rw [Dict.get?_foldl_erase]
    split
    · next deleted =>
        obtain ⟨other, found, here⟩ := inGroup_iff_mem.mpr deleted
        rw [found]
        refine iff_of_false (Option.some_ne_none link).symm (fun same => outside ?_)
        rw [← Option.some.inj same, here]
    · rfl

theorem oneLeader_set {identity : Identity} {link : UserLink}
    (leaderless : ∀ other, ¬ Leads rows link.groupId other)
    : OneLeader (rows.set identity { link with isLeader := true }) link.groupId := by
  refine ⟨identity, ⟨_, Dict.get?_set_self _ _ _, rfl, rfl⟩, ?_⟩
  rintro other ⟨found, stored, here, leads⟩
  by_contra differs
  rw [Dict.get?_set_ne _ _ differs] at stored
  exact leaderless other ⟨found, stored, here, leads⟩

theorem leaveGroup_spec
    (few : ∀ left right, Leads rows group left → Leads rows group right → left = right)
    : ∃ next dissolved,
        LinkStore.leaveGroup rows group = some (next, dissolved)
        ∧ SameOutside group rows next
        ∧ (dissolved = true ∧ Dissolved next group
          ∨ dissolved = false ∧ OneLeader next group) := by
  obtain ⟨emptied, deletes, gone, others⟩ := flush_members rows group
  cases members : groupMembers rows group with
  | nil =>
      rw [members] at deletes
      refine ⟨emptied, true, ?_, others, .inl ⟨rfl, gone⟩⟩
      unfold LinkStore.leaveGroup
      simp only [members, deletes, Option.map_some]
  | cons first rest =>
      cases rest with
      | nil =>
          rw [members] at deletes
          refine ⟨emptied, true, ?_, others, .inl ⟨rfl, gone⟩⟩
          unfold LinkStore.leaveGroup
          simp only [members, deletes, Option.map_some]
      | cons second rest =>
          obtain ⟨stored, here⟩ := mem_groupMembers.mp (members ▸ List.mem_cons_self)
          by_cases led : (first :: second :: rest).any (fun member => member.2.isLeader) = true
          · obtain ⟨leader, member, leads⟩ := List.any_eq_true.mp led
            obtain ⟨found, inside⟩ := mem_groupMembers.mp (members ▸ member)
            refine ⟨rows, false, ?_, fun _ _ _ => Iff.rfl, .inr ⟨rfl, leader.1, ?_, ?_⟩⟩
            · unfold LinkStore.leaveGroup
              simp only [members, led, if_true]
            · exact ⟨leader.2, found, inside, leads⟩
            · exact fun other otherLeads => few other _ otherLeads ⟨leader.2, found, inside, leads⟩
          · have leaderless : ∀ other, ¬ Leads rows first.2.groupId other := by
              rintro other ⟨link, found, inside, leads⟩
              apply led
              rw [← members, List.any_eq_true]
              exact ⟨(other, link), mem_groupMembers.mpr ⟨found, inside.trans here⟩, leads⟩
            refine ⟨rows.set first.1 { first.2 with isLeader := true }, false, ?_, ?_,
              .inr ⟨rfl, here ▸ oneLeader_set leaderless⟩⟩
            · unfold LinkStore.leaveGroup
              simp only [members, if_neg led, flush_leader leaderless, Option.map_some]
            · intro identity link outside
              rw [Dict.get?_set]
              split
              · next same =>
                  rw [same, stored]
                  constructor
                  · intro written
                    exact absurd (by rw [← Option.some.inj written]; exact here) outside
                  · intro written
                    exact absurd (by rw [← Option.some.inj written]; exact here) outside
              · rfl

theorem erase_sameIn {table : UserLinksTable} {identity : Identity} {group : GroupId}
    (elsewhere : ∀ link, table.get? identity = some link → link.groupId ≠ group)
    : SameIn group table (table.erase identity) := by
  intro other link here
  rw [Dict.get?_erase]
  split
  · next same =>
      rw [same]
      exact iff_of_false (Option.some_ne_none link).symm (fun found => elsewhere link found here)
  · rfl

/-- A user's cleanup keeps the links well led, with its group among the dissolved ones when
that ends.
-/
theorem leaveGroup_keeps {table : UserLinksTable} (wellLed : WellLed table)
    {identity : Identity} {link : UserLink} (found : table.get? identity = some link)
    : ∃ next dissolved,
        LinkStore.leaveGroup (table.erase identity) link.groupId = some (next, dissolved)
        ∧ Keeps table next (if dissolved then [link.groupId] else []) := by
  have few
      : ∀ left right,
          Leads (table.erase identity) link.groupId left
          → Leads (table.erase identity) link.groupId right
          → left = right := by
    have erased {other : Identity}
        (leads : Leads (table.erase identity) link.groupId other)
        : Leads table link.groupId other := by
      obtain ⟨otherLink, stored, here, flag⟩ := leads
      rw [Dict.get?_erase] at stored
      split at stored
      · cases stored
      · exact ⟨otherLink, stored, here, flag⟩
    have occupied : ¬ Dissolved table link.groupId :=
      fun dissolved => dissolved identity ⟨link, found, rfl⟩
    obtain ⟨leader, -, only⟩ := wellLed.led link.groupId occupied
    intro left right leftLeads rightLeads
    rw [only left (erased leftLeads), only right (erased rightLeads)]
  obtain ⟨next, dissolved, left, others, outcome⟩ := leaveGroup_spec few
  have same {group : GroupId} (differs : group ≠ link.groupId) : SameIn group table next := by
    have kept : SameIn group table (table.erase identity) := by
      apply erase_sameIn
      intro other stored
      rw [← Option.some.inj (found.symm.trans stored)]
      exact differs.symm
    intro user row here
    rw [(others.sameIn differs) user row here, kept user row here]
  refine ⟨next, dissolved, left, ⟨fun group occupied => ?_, ?_⟩, fun group existed gone => ?_⟩
  · by_cases own : group = link.groupId
    · subst own
      rcases outcome with ⟨-, gone⟩ | ⟨-, one⟩
      · exact absurd gone occupied
      · exact one
    · rw [(same own).oneLeader_iff]
      rw [(same own).dissolved_iff] at occupied
      exact wellLed.led group occupied
  · have named : "" ≠ link.groupId :=
      fun unnamed => wellLed.named identity ⟨link, found, unnamed.symm⟩
    exact (same named).dissolved_iff.mpr wellLed.named
  · by_cases own : group = link.groupId
    · subst own
      rcases outcome with ⟨flag, -⟩ | ⟨-, one⟩
      · simp [flag]
      · exact absurd gone one.not_dissolved
    · exact absurd ((same own).dissolved_iff.mp gone) existed

end Cleanup

theorem eraseServer_sameIn {store : LinkStore} {serverId : String} {group : GroupId}
    (unaffected : group ∉ store.serverGroups serverId)
    : SameIn group store.links
        (store.links.eraseWhere (fun identity => identity.1 = serverId)) := by
  unfold LinkStore.serverGroups at unaffected
  simp only [List.mem_insertionSort, List.mem_dedup, List.mem_map, List.mem_filter,
    decide_eq_true_eq, not_exists, not_and] at unaffected
  intro identity link here
  rw [Dict.get?_eraseWhere]
  split
  · next removed =>
      refine iff_of_false (Option.some_ne_none link).symm (fun found => ?_)
      exact unaffected (identity, link)
        ⟨Dict.mem_items_iff.mpr found, of_decide_eq_true removed⟩ here
  · rfl

theorem removeServer_keeps {store : LinkStore} (wellLed : WellLed store.links)
    (serverId : String)
    : ∃ state links,
        (store.serverGroups serverId).foldlM
            (normalizeGroup ∅ (store.serverGroups serverId))
            ⟨store.links.eraseWhere (fun identity => identity.1 = serverId), {}, [], ∅⟩
          = some state
        ∧ flush state.rows state.pending = some links
        ∧ Keeps store.links links state.dissolvedGroups := by
  have start
      : Normalized (store.links.eraseWhere (fun identity => identity.1 = serverId))
          (store.serverGroups serverId) []
          ⟨store.links.eraseWhere (fun identity => identity.1 = serverId), {}, [], ∅⟩
          (store.links.eraseWhere (fun identity => identity.1 = serverId)) :=
    ⟨flush_empty _, fun _ _ _ => Iff.rfl, fun _ none => absurd none List.not_mem_nil⟩
  have unique : (store.serverGroups serverId).Nodup :=
    (List.perm_insertionSort _ _).nodup_iff.mpr (List.nodup_dedup _)
  obtain ⟨state, links, repaired, normalized⟩ :=
    @Normalized.foldlM ∅ _ _ _ _ (store.serverGroups serverId) _ start unique
  have named
      : Dissolved (store.links.eraseWhere (fun identity => identity.1 = serverId)) "" := by
    rintro identity ⟨link, found, unnamed⟩
    rw [Dict.get?_eraseWhere, Option.ite_none_left_eq_some] at found
    exact wellLed.named identity ⟨link, found.2, unnamed⟩
  refine ⟨state, links, repaired, normalized.flushes, ?_⟩
  exact normalized.keeps (fun group unaffected => eraseServer_sameIn unaffected) wellLed.led
    named

/-- Erasing the records of a group forgets it, whatever else is erased. -/
theorem forgotten_of_erased {store : LinkStore} {group : GroupId} {links : UserLinksTable}
    {passwords : Dict GroupId String} {erasesPassword : GroupId → Bool}
    {erasesIcon : String × String → Bool} {erasesEntry : String → Bool}
    (password : erasesPassword group = true) (icon : erasesIcon ("group", group) = true)
    (entries : ∀ key ∈ groupMetadataKeys group, erasesEntry key = true)
    : (LinkStore.mk links (passwords.eraseWhere erasesPassword)
        (store.iconBindings.eraseWhere erasesIcon)
        (store.keyValues.eraseWhere erasesEntry)).Forgotten group := by
  refine ⟨?_, ?_, fun key member => ?_⟩
  · rw [Dict.get?_eraseWhere, if_pos password]
  · rw [Dict.get?_eraseWhere, if_pos icon]
  · rw [Dict.get?_eraseWhere, if_pos (entries key member)]

/-- What every committed transaction does to the groups: they stay well led, and a group that
ends is forgotten.
-/
structure Committed (store next : LinkStore) : Prop where
  wellLed : WellLed next.links
  forgotten
    : ∀ group, ¬ Dissolved store.links group → Dissolved next.links group → next.Forgotten group

theorem commit_mutateUserLinks {store next : LinkStore} (wellLed : WellLed store.links)
    {request : LinkMutation} {groupPasswords : Dict GroupId String}
    (committed : store.mutateUserLinks request groupPasswords = some next)
    : Committed store next := by
  unfold LinkStore.mutateUserLinks at committed
  split at committed
  · next valid =>
      rw [Bool.and_eq_true] at valid
      split at committed
      · cases committed
      · next result mutated =>
          cases committed
          have keeps := mutateUserLinks_keeps wellLed valid.1 mutated
          refine ⟨keeps.wellLed, fun group existed gone => ?_⟩
          have dissolved := keeps.ended group existed gone
          apply forgotten_of_erased
          · simp [dissolved]
          · simp [dissolved]
          · intro key member
            exact decide_eq_true (List.mem_flatMap.mpr ⟨group, dissolved, member⟩)
  · cases committed

theorem commit_cleanupDeletedEmbyUser {store next : LinkStore}
    (wellLed : WellLed store.links) {serverId userId : String}
    (committed : store.cleanupDeletedEmbyUser serverId userId = some next)
    : Committed store next := by
  unfold LinkStore.cleanupDeletedEmbyUser at committed
  cases found : store.links.get? (serverId, userId) with
  | none =>
      simp only [found, Option.toList_none, List.map_nil, flush_empty, Option.bind_some,
        Option.map_none, Option.getD_none, if_true, Option.map_some, Option.some.injEq]
        at committed
      cases committed
      exact ⟨wellLed, fun group existed gone => absurd gone existed⟩
  | some link =>
      have named : link.groupId ≠ "" :=
        fun unnamed => wellLed.named (serverId, userId) ⟨link, found, unnamed⟩
      obtain ⟨links, dissolved, left, keeps⟩ := leaveGroup_keeps wellLed found
      simp only [found, Option.toList_some, List.map_cons, List.map_nil, flush_deletes,
        Option.bind_some, Option.map_some, Option.getD_some, if_neg named, left,
        Option.some.injEq] at committed
      cases committed
      refine ⟨keeps.wellLed, fun group existed gone => ?_⟩
      have ended := keeps.ended group existed gone
      apply forgotten_of_erased
      · simp [ended]
      · simp [ended]
      · intro key member
        exact decide_eq_true (.inr (List.mem_flatMap.mpr ⟨group, ended, member⟩))

theorem commit_removeEmbyServerData {store next : LinkStore} (wellLed : WellLed store.links)
    {matching : TextMatching} {serverId : String}
    (committed : store.removeEmbyServerData matching serverId = some next)
    : Committed store next := by
  obtain ⟨state, links, repaired, flushed, keeps⟩ := removeServer_keeps wellLed serverId
  unfold LinkStore.removeEmbyServerData at committed
  simp only [repaired, Option.bind_some, flushed, Option.map_some, Option.some.injEq]
    at committed
  cases committed
  refine ⟨keeps.wellLed, fun group existed gone => ?_⟩
  have dissolved := keeps.ended group existed gone
  apply forgotten_of_erased
  · simp [dissolved]
  · simp [dissolved]
  · intro key member
    have listed := List.mem_flatMap.mpr ⟨group, dissolved, member⟩
    simp only [LinkStore.isServerKey, decide_eq_true listed, Bool.or_true]

theorem commit_keeps {matching : TextMatching} {store next : LinkStore}
    (wellLed : WellLed store.links) {operation : LinkOperation}
    (committed : store.commit matching operation = some next)
    : Committed store next := by
  cases operation with
  | mutateUserLinks request groupPasswords => exact commit_mutateUserLinks wellLed committed
  | cleanupDeletedEmbyUser serverId userId =>
      exact commit_cleanupDeletedEmbyUser wellLed committed
  | removeEmbyServerData serverId => exact commit_removeEmbyServerData wellLed committed

/-- After any sequence of committed transactions every group with members has one leader, and
a group that ends with the next transaction leaves none of its records.
-/
theorem deletions_keepLeadership {matching : TextMatching} {start store : LinkStore}
    {operations : List LinkOperation} (wellLed : WellLed start.links)
    (run : Run (LinkStore.commit matching) (fun _ _ => True) start operations store)
    : OneLeaderEach store.links
      ∧ ∀ operation next,
          store.commit matching operation = some next
          → ∀ group,
              ¬ Dissolved store.links group
              → Dissolved next.links group
              → next.Forgotten group := by
  have reached : WellLed store.links :=
    run.preserves (fun store => WellLed store.links)
      (fun wellLed _ committed => (commit_keeps wellLed committed).wellLed) wellLed
  exact ⟨reached.led, fun operation next committed => (commit_keeps reached committed).forgotten⟩

def wildcardAtEnd : TextMatching where
  like pattern text := pattern.toList.dropLast.isPrefixOf text.toList
  startsWith start text := start.toList.isPrefixOf text.toList

/-- Two groups of two users each, and the records of the first one. -/
def recordedGroups : LinkStore where
  links := twoGroups
  groupPasswords := (∅ : Dict GroupId String).set "first" "v1:encrypted"
  iconBindings := (∅ : Dict (String × String) String).set ("group", "first") "profile"
  keyValues := (∅ : Dict String String).set "group_name:first" "Anna"

def joinFirst : LinkMutation where
  upserts := [⟨"jelly", "anna", "first", "Anna"⟩]
  removals := []
  preferredLeaders := ∅
  dissolveSingletons := []
  distinct := by decide
  separate := by simp

theorem deletions_keepLeadership_recordedGroups
    : ∃ store : LinkStore,
        store.links.get? ("jelly", "anna") = some ⟨"first", "Anna", true⟩
        ∧ OneLeaderEach store.links
        ∧ ∀ operation next,
            store.commit wildcardAtEnd operation = some next
            → ∀ group,
                ¬ Dissolved store.links group
                → Dissolved next.links group
                → next.Forgotten group := by
  have wellLed : WellLed recordedGroups.links := by
    refine ⟨oneLeaderEach_twoGroups, ?_⟩
    rw [dissolved_iff_members]
    decide
  have reached
      : ∃ store,
          Run (LinkStore.commit wildcardAtEnd) (fun _ _ => True) recordedGroups
            [.mutateUserLinks joinFirst ∅, .cleanupDeletedEmbyUser "emby" "anna"] store
          ∧ store.links.get? ("jelly", "anna") = some ⟨"first", "Anna", true⟩ :=
    Run.exists_of_execute (by decide)
  obtain ⟨store, run, leads⟩ := reached
  exact ⟨store, leads, deletions_keepLeadership wellLed run⟩

end OctoHubs.UserLinks
