import Mathlib.Data.List.Dedup
import OctoHubs.UserLinks.Normalization

/-! The leaders of linked groups through a mutation.
The membership flush moves leaders with their flags, so that it meets the leader index when
a leader enters a group that has one; past that flush every affected group is repaired.
-/

namespace OctoHubs.UserLinks

open OctoHubs.Library

-- The membership flush

theorem mem_before_iff {rows before after : List (Identity × UserLink)}
    {write row : Identity × UserLink} (unique : (rows.map Prod.fst).Nodup)
    (split : sortByIdentity rows = before ++ write :: after)
    : row ∈ before ↔ row ∈ rows ∧ identityLe row.1 write.1 ∧ row.1 ≠ write.1 := by
  have sorted : (sortByIdentity rows).Pairwise (fun left right => identityLe left.1 right.1) :=
    List.pairwise_insertionSort _ rows
  have different := sortByIdentity_nodup unique
  rw [split] at sorted different
  rw [List.map_append, List.map_cons, List.nodup_append] at different
  rw [List.pairwise_append, List.pairwise_cons] at sorted
  have known : row ∈ rows ↔ row ∈ before ∨ row = write ∨ row ∈ after := by
    rw [← mem_sortByIdentity, split, List.mem_append, List.mem_cons]
  rw [known]
  constructor
  · intro earlier
    refine ⟨.inl earlier, sorted.2.2 row earlier write List.mem_cons_self, ?_⟩
    exact different.2.2 row.1 (List.mem_map_of_mem earlier) write.1 List.mem_cons_self
  · rintro ⟨earlier | rfl | later, le, differs⟩
    · exact earlier
    · exact absurd rfl differs
    · exact absurd (identityLe_antisymm le (sorted.2.1.1 row later)) differs

namespace LinkMutation

variable (request : LinkMutation) (table : UserLinksTable)

def movedBefore (moved other : Identity) : Option LinkUpsert :=
  request.upserts.find? (fun item => item.identity = other ∧ identityLe other moved)

def groupWhen (moved other : Identity) (entry : UserLink) : GroupId :=
  ((request.movedBefore moved other).map LinkUpsert.groupId).getD entry.groupId

/-- A leader is moved into a group in which another leader is at that time. -/
def LeadersMeet : Prop :=
  ∃ item ∈ request.upserts,
    ∃ entry,
      table.get? item.identity = some entry
      ∧ entry.isLeader = true
      ∧ ∃ other otherEntry,
          table.get? other = some otherEntry
          ∧ otherEntry.isLeader = true
          ∧ other ≠ item.identity
          ∧ request.groupWhen item.identity other otherEntry = item.groupId

/-- The link of a user after the membership changes. -/
def linkAfter (identity : Identity) : Option UserLink :=
  if identity ∈ request.removals then none
  else
    match request.upserts.find? (fun item => item.identity = identity) with
    | some item => some (upsertedLink table item)
    | none => table.get? identity

def groupAfter (identity : Identity) : Option GroupId :=
  (request.linkAfter table identity).map UserLink.groupId

end LinkMutation

open LinkMutation

section Memberships

variable {request : LinkMutation} {table : UserLinksTable}

theorem upsertedLink_groupId (item : LinkUpsert)
    : (upsertedLink table item).groupId = item.groupId := by
  unfold upsertedLink
  split <;> rfl

theorem upsertedLink_isLeader {item : LinkUpsert} {entry : UserLink}
    (found : table.get? item.identity = some entry)
    : (upsertedLink table item).isLeader = entry.isLeader := by
  unfold upsertedLink
  rw [found]

theorem mem_updates {identity : Identity} {link : UserLink}
    : (identity, link) ∈ (request.memberships table).updates
      ↔ ∃ item ∈ request.upserts,
          item.identity = identity
          ∧ (table.get? identity).isSome = true
          ∧ upsertedLink table item = link := by
  unfold memberships
  simp only [List.mem_map, List.mem_filter]
  constructor
  · rintro ⟨item, ⟨member, known⟩, same⟩
    cases same
    exact ⟨item, member, rfl, known, rfl⟩
  · rintro ⟨item, member, rfl, known, rfl⟩
    exact ⟨item, ⟨member, known⟩, rfl⟩

theorem updates_nodup
    : ((request.memberships table).updates.map Prod.fst).Nodup := by
  unfold memberships
  rw [List.map_map]
  exact (List.filter_sublist.map _).nodup request.distinct

def linkWhen (request : LinkMutation) (table : UserLinksTable) (moved other : Identity)
    (entry : UserLink)
    : UserLink :=
  ((request.movedBefore moved other).map (upsertedLink table)).getD entry

theorem linkWhen_groupId (moved other : Identity) (entry : UserLink)
    : (linkWhen request table moved other entry).groupId
      = request.groupWhen moved other entry := by
  unfold linkWhen groupWhen
  cases request.movedBefore moved other with
  | none => rfl
  | some item => exact upsertedLink_groupId item

theorem linkWhen_isLeader {moved other : Identity} {entry : UserLink}
    (found : table.get? other = some entry)
    : (linkWhen request table moved other entry).isLeader = entry.isLeader := by
  unfold linkWhen
  cases earlier : request.movedBefore moved other with
  | none => rfl
  | some item =>
      have same := List.find?_some earlier
      rw [decide_eq_true_eq] at same
      exact upsertedLink_isLeader (same.1 ▸ found)

theorem get?_during
    {before after : List (Identity × UserLink)} {write : Identity × UserLink}
    (split : sortByIdentity (request.memberships table).updates = before ++ write :: after)
    {other : Identity} (differs : other ≠ write.1)
    : (overwrite table before).get? other
      = (table.get? other).map (linkWhen request table write.1 other) := by
  have unique : (before.map Prod.fst).Nodup := by
    have all := sortByIdentity_nodup (@updates_nodup request table)
    rw [split, List.map_append] at all
    exact (List.nodup_append.mp all).1
  rw [get?_overwrite unique]
  have entry (link : UserLink)
      : lookupItems other before = some link
        ↔ ∃ item ∈ request.upserts,
            item.identity = other
            ∧ identityLe other write.1
            ∧ (table.get? other).isSome = true
            ∧ upsertedLink table item = link := by
    rw [lookupItems_eq_some_iff unique, mem_before_iff updates_nodup split,
      mem_updates]
    constructor
    · rintro ⟨⟨item, member, same, known, link⟩, le, -⟩
      exact ⟨item, member, same, le, known, link⟩
    · rintro ⟨item, member, same, le, known, link⟩
      exact ⟨⟨item, member, same, known, link⟩, le, differs⟩
  cases earlier : request.movedBefore write.1 other with
  | none =>
      have missing : lookupItems other before = none := by
        rw [Option.eq_none_iff_forall_ne_some]
        intro link found
        obtain ⟨item, member, same, le, -⟩ := (entry link).mp found
        have refused := List.find?_eq_none.mp earlier item member
        exact refused (decide_eq_true ⟨same, le⟩)
      rw [missing]
      unfold linkWhen
      rw [earlier]
      cases table.get? other <;> rfl
  | some item =>
      have moved := List.find?_some earlier
      rw [decide_eq_true_eq] at moved
      have member := List.mem_of_find?_eq_some earlier
      unfold linkWhen
      rw [earlier]
      cases known : table.get? other with
      | none =>
          have missing : lookupItems other before = none := by
            rw [Option.eq_none_iff_forall_ne_some]
            intro link found
            obtain ⟨-, -, -, -, present, -⟩ := (entry link).mp found
            rw [known] at present
            cases present
          rw [missing]
          rfl
      | some link =>
          rw [(entry (upsertedLink table item)).mpr
            ⟨item, member, moved.1, moved.2, by rw [known]; rfl, rfl⟩]
          rfl

theorem updates_refused_iff
    : (∃ before write after,
        sortByIdentity (request.memberships table).updates = before ++ write :: after
        ∧ Collides leaderIndex (overwrite table before) write)
      ↔ request.LeadersMeet table := by
  constructor
  · rintro ⟨before, ⟨identity, link⟩, after, split, other, found, stored, differs, same, leads⟩
    have written : (identity, link) ∈ (request.memberships table).updates := by
      rw [← mem_sortByIdentity, split]
      exact List.mem_append_right _ List.mem_cons_self
    obtain ⟨item, member, rfl, known, rfl⟩ := mem_updates.mp written
    obtain ⟨entry, isEntry⟩ := Option.isSome_iff_exists.mp known
    rw [get?_during split differs, Option.map_eq_some_iff] at stored
    obtain ⟨otherEntry, isOther, rfl⟩ := stored
    simp only [leaderIndex, upsertedLink_isLeader isEntry, upsertedLink_groupId,
      linkWhen_isLeader isOther, linkWhen_groupId] at same leads
    split at leads
    · next entryLeads =>
        rw [if_pos entryLeads] at same
        split at same
        · next otherLeads =>
            exact ⟨item, member, entry, isEntry, entryLeads, other, otherEntry, isOther,
              otherLeads, differs, Option.some.inj same⟩
        · cases same
    · cases leads
  · rintro ⟨item, member, entry, isEntry, entryLeads, other, otherEntry, isOther, otherLeads,
      differs, same⟩
    have written
        : (item.identity, upsertedLink table item)
          ∈ sortByIdentity (request.memberships table).updates := by
      rw [mem_sortByIdentity, mem_updates]
      exact ⟨item, member, rfl, by rw [isEntry]; rfl, rfl⟩
    obtain ⟨before, after, split⟩ := List.append_of_mem written
    refine ⟨before, _, after, split, other, linkWhen request table item.identity other otherEntry,
      ?_, differs, ?_, ?_⟩
    · rw [get?_during split differs, isOther]
      rfl
    · simp only [leaderIndex, upsertedLink_isLeader isEntry, upsertedLink_groupId,
        linkWhen_isLeader isOther, linkWhen_groupId, entryLeads, otherLeads, if_true, same]
    · simp [leaderIndex, upsertedLink_isLeader isEntry, entryLeads]

theorem mem_inserts {identity : Identity} {link : UserLink}
    : (identity, link) ∈ (request.memberships table).inserts
      ↔ ∃ item ∈ request.upserts,
          item.identity = identity
          ∧ table.get? identity = none
          ∧ upsertedLink table item = link := by
  unfold memberships
  simp only [List.mem_map, List.mem_filter, Option.isNone_iff_eq_none]
  constructor
  · rintro ⟨item, ⟨member, new⟩, same⟩
    cases same
    exact ⟨item, member, rfl, new, rfl⟩
  · rintro ⟨item, member, rfl, new, rfl⟩
    exact ⟨item, ⟨member, new⟩, rfl⟩

theorem inserts_nodup
    : ((request.memberships table).inserts.map Prod.fst).Nodup := by
  unfold memberships
  rw [List.map_map]
  exact (List.filter_sublist.map _).nodup request.distinct

theorem inserts_unindexed
    : ∀ insert ∈ (request.memberships table).inserts, leaderIndex insert.2 = none := by
  rintro ⟨identity, link⟩ member
  obtain ⟨item, -, rfl, new, rfl⟩ := mem_inserts.mp member
  unfold leaderIndex upsertedLink
  rw [new]
  rfl

/-- The rows after the membership changes, as they are without the leader index. -/
def memberRows (request : LinkMutation) (table : UserLinksTable) : UserLinksTable :=
  (request.memberships table).deletes.foldl Dict.erase
    (overwrite (overwrite table (sortByIdentity (request.memberships table).updates))
      (request.memberships table).inserts)

theorem get?_upserted (identity : Identity)
    : (overwrite (overwrite table (sortByIdentity (request.memberships table).updates))
        (request.memberships table).inserts).get? identity
      = match request.upserts.find? (fun item => item.identity = identity) with
        | some item => some (upsertedLink table item)
        | none => table.get? identity := by
  have updatesUnique := sortByIdentity_nodup (@updates_nodup request table)
  have insertsUnique := @inserts_nodup request table
  rw [get?_overwrite insertsUnique, get?_overwrite updatesUnique]
  have updated (link : UserLink)
      : lookupItems identity (sortByIdentity (request.memberships table).updates) = some link
        ↔ ∃ item ∈ request.upserts,
            item.identity = identity
            ∧ (table.get? identity).isSome = true
            ∧ upsertedLink table item = link := by
    rw [lookupItems_eq_some_iff updatesUnique, mem_sortByIdentity, mem_updates]
  have inserted (link : UserLink)
      : lookupItems identity (request.memberships table).inserts = some link
        ↔ ∃ item ∈ request.upserts,
            item.identity = identity
            ∧ table.get? identity = none
            ∧ upsertedLink table item = link := by
    rw [lookupItems_eq_some_iff insertsUnique, mem_inserts]
  cases upsert : request.upserts.find? (fun item => item.identity = identity) with
  | none =>
      have absent : ∀ item ∈ request.upserts, item.identity ≠ identity := by
        intro item member same
        exact List.find?_eq_none.mp upsert item member (decide_eq_true same)
      have noUpdate
          : lookupItems identity (sortByIdentity (request.memberships table).updates) = none := by
        rw [Option.eq_none_iff_forall_ne_some]
        intro link found
        obtain ⟨item, member, same, -⟩ := (updated link).mp found
        exact absent item member same
      have noInsert : lookupItems identity (request.memberships table).inserts = none := by
        rw [Option.eq_none_iff_forall_ne_some]
        intro link found
        obtain ⟨item, member, same, -⟩ := (inserted link).mp found
        exact absent item member same
      rw [noUpdate, noInsert]
      rfl
  | some item =>
      have same := List.find?_some upsert
      rw [decide_eq_true_eq] at same
      have member := List.mem_of_find?_eq_some upsert
      cases known : table.get? identity with
      | none =>
          rw [(inserted _).mpr ⟨item, member, same, known, rfl⟩]
          rfl
      | some entry =>
          have noInsert : lookupItems identity (request.memberships table).inserts = none := by
            rw [Option.eq_none_iff_forall_ne_some]
            intro link found
            obtain ⟨-, -, -, new, -⟩ := (inserted link).mp found
            rw [known] at new
            cases new
          rw [noInsert, (updated _).mpr ⟨item, member, same, by rw [known]; rfl, rfl⟩]
          rfl

theorem get?_memberRows (identity : Identity)
    : (memberRows request table).get? identity = request.linkAfter table identity := by
  unfold memberRows linkAfter
  rw [Dict.get?_foldl_erase, get?_upserted]
  by_cases removed : identity ∈ request.removals
  · have unwritten : request.upserts.find? (fun item => item.identity = identity) = none := by
      rw [List.find?_eq_none]
      intro item member same
      exact request.separate item member ((of_decide_eq_true same).symm ▸ removed)
    rw [if_pos removed, unwritten]
    split
    · rfl
    · next kept =>
        -- a removal of a user without a link deletes nothing
        have absent : ¬ (table.get? identity).isSome = true := by
          intro known
          exact kept (List.mem_filter.mpr ⟨removed, known⟩)
        simpa using absent
  · have kept : identity ∉ (request.memberships table).deletes :=
      fun deleted => removed (List.mem_filter.mp deleted).1
    rw [if_neg removed, if_neg kept]

theorem flush_memberships
    : (request.LeadersMeet table ∧ flush table (request.memberships table) = none)
      ∨ (¬ request.LeadersMeet table
        ∧ flush table (request.memberships table) = some (memberRows request table)) := by
  unfold flush
  by_cases meet : request.LeadersMeet table
  · refine .inl ⟨meet, ?_⟩
    have refused
        : writeAll leaderIndex table (sortByIdentity (request.memberships table).updates)
          = none := by
      rw [Option.eq_none_iff_forall_ne_some]
      intro next wrote
      obtain ⟨fits, -⟩ := writeAll_eq_some_iff.mp wrote
      obtain ⟨before, write, after, split, collides⟩ := updates_refused_iff.mpr meet
      exact fits before write after split collides
    rw [refused]
    rfl
  · refine .inr ⟨meet, ?_⟩
    have wrote := writeAll_eq_some_iff.mpr
      ⟨fun before write after split collides =>
        meet ((@updates_refused_iff _ table).mp
          ⟨before, write, after, split, collides⟩), rfl⟩
    rw [wrote, Option.bind_some, writeAll_of_unindexed inserts_unindexed]
    rfl

end Memberships

-- The whole mutation

/-- No flush meets the leader index, and every affected group ends with one leader and two
members or more, or it is dissolved.
-/
def LeadershipKept (table : UserLinksTable) (request : LinkMutation) : Prop :=
  ∃ result,
    mutateUserLinks table request = .ok result
    ∧ ∀ group ∈ request.affectedGroups table,
        (OneLeader result.links group ∧ TwoMembers result.links group)
        ∨ (group ∈ result.dissolvedGroups ∧ Dissolved result.links group)

/-- Every group with members has one leader. -/
def OneLeaderEach (table : UserLinksTable) : Prop :=
  ∀ group, ¬ Dissolved table group → OneLeader table group

/-- Every affected group that has a member after the membership changes has another one, or
it is a group to dissolve.
-/
def CompanionsLeft (table : UserLinksTable) (request : LinkMutation) : Prop :=
  ∀ group ∈ request.affectedGroups table,
    ∀ member,
      request.groupAfter table member = some group
      → (∃ companion,
          companion ≠ member ∧ request.groupAfter table companion = some group)
        ∨ group ∈ request.dissolve table

theorem inGroup_memberRows {table : UserLinksTable} {request : LinkMutation}
    {group : GroupId} {identity : Identity}
    : InGroup (memberRows request table) group identity
      ↔ request.groupAfter table identity = some group := by
  unfold InGroup groupAfter
  rw [get?_memberRows, Option.map_eq_some_iff]

theorem affectedGroups_nodup (table : UserLinksTable) (request : LinkMutation)
    : (request.affectedGroups table).Nodup :=
  (List.perm_insertionSort _ _).nodup_iff.mpr (List.nodup_dedup _)

theorem mutateUserLinks_normalized {table : UserLinksTable} {request : LinkMutation}
    (apart : ¬ request.LeadersMeet table)
    : ∃ state links,
        mutateUserLinks table request = .ok ⟨links, state.dissolvedGroups, state.leaders⟩
        ∧ Normalized (memberRows request table) (request.dissolve table)
            (request.affectedGroups table) state links := by
  have flushed := (flush_memberships.resolve_left (fun met => apart met.1)).2
  have start
      : Normalized (memberRows request table) (request.dissolve table) []
          ⟨memberRows request table, {}, [], ∅⟩ (memberRows request table) :=
    ⟨flush_empty _, fun _ _ _ => Iff.rfl, fun _ none => absurd none List.not_mem_nil⟩
  obtain ⟨state, links, repaired, normalized⟩ :=
    @Normalized.foldlM request.preferredLeaders _ _ _ _ (request.affectedGroups table) _ start
      (affectedGroups_nodup table request)
  refine ⟨state, links, ?_, normalized⟩
  unfold mutateUserLinks
  simp only [flushed, Option.bind_some, repaired, normalized.flushes, Option.map_some]

theorem mutateUserLinks_refused {table : UserLinksTable} {request : LinkMutation}
    (meet : request.LeadersMeet table)
    : mutateUserLinks table request = .error .mutationFailed := by
  have flushed := (flush_memberships.resolve_right (fun apart => apart.1 meet)).2
  unfold mutateUserLinks
  simp only [flushed, Option.bind_none]

/-- A mutation keeps the leadership exactly when no two leaders meet in its membership flush
and it leaves nobody alone in a group that is not to be dissolved.
-/
theorem leadershipKept_iff (table : UserLinksTable) (request : LinkMutation)
    : LeadershipKept table request
      ↔ ¬ request.LeadersMeet table ∧ CompanionsLeft table request := by
  by_cases meet : request.LeadersMeet table
  · refine iff_of_false ?_ (fun kept => kept.1 meet)
    rintro ⟨result, committed, -⟩
    rw [mutateUserLinks_refused meet] at committed
    cases committed
  obtain ⟨state, links, committed, normalized⟩ := mutateUserLinks_normalized meet
  have repaired := normalized.repaired
  simp only [meet, not_false_eq_true, true_and]
  constructor
  · rintro ⟨_, same, kept⟩ group affected member here
    cases committed.symm.trans same
    have occupied : InGroup (memberRows request table) group member :=
      inGroup_memberRows.mpr here
    by_cases dissolves : Dissolves (memberRows request table) (request.dissolve table) group
    · rcases dissolves with empty | ⟨-, listed⟩
      · exact absurd occupied (empty member)
      · exact .inr listed
    · obtain ⟨-, members⟩ := (repaired group affected).led dissolves
      rcases kept group affected with ⟨-, left, right, differ, leftIn, rightIn⟩ | ⟨-, empty⟩
      · -- one of the two members is another user than this one
        rw [members, inGroup_memberRows] at leftIn rightIn
        by_cases same : left = member
        · exact .inl ⟨right, fun also => differ (same.trans also.symm), rightIn⟩
        · exact .inl ⟨left, same, leftIn⟩
      · exact absurd ((members member).mpr occupied) (empty member)
  · intro companions
    refine ⟨_, committed, fun group affected => ?_⟩
    by_cases dissolves : Dissolves (memberRows request table) (request.dissolve table) group
    · exact .inr ((repaired group affected).dissolved dissolves)
    · obtain ⟨one, members⟩ := (repaired group affected).led dissolves
      refine .inl ⟨one, ?_⟩
      unfold Dissolves Dissolved at dissolves
      simp only [not_or, not_forall, not_not, not_and_or] at dissolves
      obtain ⟨⟨member, occupied⟩, two | unlisted⟩ := dissolves
      · obtain ⟨left, right, differ, leftIn, rightIn⟩ := two
        exact ⟨left, right, differ, (members left).mpr leftIn, (members right).mpr rightIn⟩
      · rcases companions group affected member (inGroup_memberRows.mp occupied) with
          ⟨companion, differs, here⟩ | listed
        · exact ⟨companion, member, differs, (members companion).mpr (inGroup_memberRows.mpr here),
            (members member).mpr occupied⟩
        · exact absurd listed unlisted

theorem oneLeaderEach_of_items {table : UserLinksTable}
    (led
      : ∀ item ∈ table.items,
          ∃ leader ∈ table.items,
            leader.2.groupId = item.2.groupId
            ∧ leader.2.isLeader = true
            ∧ ∀ other ∈ table.items,
                other.2.groupId = item.2.groupId
                → other.2.isLeader = true
                → other.1 = leader.1)
    : OneLeaderEach table := by
  intro group occupied
  simp only [Dissolved, InGroup, not_forall, not_not] at occupied
  obtain ⟨member, link, found, rfl⟩ := occupied
  obtain ⟨⟨leader, leaderLink⟩, listed, here, leads, only⟩ :=
    led (member, link) (Dict.mem_items_iff.mpr found)
  refine ⟨leader, ⟨leaderLink, Dict.mem_items_iff.mp listed, here, leads⟩, ?_⟩
  rintro other ⟨otherLink, otherFound, otherHere, otherLeads⟩
  exact only (other, otherLink) (Dict.mem_items_iff.mpr otherFound) otherHere otherLeads

def twoGroups : UserLinksTable :=
  ((((∅ : UserLinksTable).set ("emby", "anna") ⟨"first", "Anna", true⟩).set
    ("plex", "anna") ⟨"first", "Anna", false⟩).set
    ("emby", "bruno") ⟨"second", "Bruno", true⟩).set
    ("plex", "bruno") ⟨"second", "Bruno", false⟩

def mergeGroups : LinkMutation where
  upserts := [⟨"emby", "anna", "merged", "Anna"⟩, ⟨"plex", "anna", "merged", "Anna"⟩,
    ⟨"emby", "bruno", "merged", "Bruno"⟩, ⟨"plex", "bruno", "merged", "Bruno"⟩]
  removals := []
  preferredLeaders := (∅ : Dict GroupId Identity).set "merged" ("emby", "anna")
  dissolveSingletons := ["first", "second"]
  distinct := by decide
  separate := by simp

theorem oneLeaderEach_twoGroups : OneLeaderEach twoGroups := by
  refine oneLeaderEach_of_items ?_
  decide

/-- The second leader enters the new group with its flag, before any flag is cleared. -/
theorem leadersMeet_mergeGroups
    : OneLeaderEach twoGroups ∧ ¬ LeadershipKept twoGroups mergeGroups := by
  refine ⟨oneLeaderEach_twoGroups, ?_⟩
  rintro ⟨result, committed, -⟩
  have meet : mergeGroups.LeadersMeet twoGroups :=
    ⟨⟨"emby", "bruno", "merged", "Bruno"⟩, by decide, ⟨"second", "Bruno", true⟩, by decide, rfl,
      ("emby", "anna"), ⟨"first", "Anna", true⟩, by decide, rfl, by decide, by decide⟩
  rw [mutateUserLinks_refused meet] at committed
  cases committed

end OctoHubs.UserLinks
