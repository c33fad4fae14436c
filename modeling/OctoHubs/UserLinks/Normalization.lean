import OctoHubs.UserLinks.Mutation

/-! Repairing the leaders of the affected groups.
Clearing all leaders of a group before the chosen one is set never meets the leader index,
and it leaves each group with one leader or dissolved.
-/

namespace OctoHubs.UserLinks

open OctoHubs.Library

-- Groups in a table

def InGroup (rows : UserLinksTable) (group : GroupId) (identity : Identity) : Prop :=
  ∃ link, rows.get? identity = some link ∧ link.groupId = group

def Leads (rows : UserLinksTable) (group : GroupId) (identity : Identity) : Prop :=
  ∃ link, rows.get? identity = some link ∧ link.groupId = group ∧ link.isLeader = true

def OneLeader (rows : UserLinksTable) (group : GroupId) : Prop :=
  ∃ leader, Leads rows group leader ∧ ∀ other, Leads rows group other → other = leader

def TwoMembers (rows : UserLinksTable) (group : GroupId) : Prop :=
  ∃ left right, left ≠ right ∧ InGroup rows group left ∧ InGroup rows group right

/-- No link is left in the group. -/
def Dissolved (rows : UserLinksTable) (group : GroupId) : Prop :=
  ∀ identity, ¬ InGroup rows group identity

/-- The same links in one group. -/
def SameIn (group : GroupId) (rows next : UserLinksTable) : Prop :=
  ∀ identity link,
    link.groupId = group
    → (next.get? identity = some link ↔ rows.get? identity = some link)

def SameOutside (group : GroupId) (rows next : UserLinksTable) : Prop :=
  ∀ identity link,
    link.groupId ≠ group
    → (next.get? identity = some link ↔ rows.get? identity = some link)

section Outside

variable {group other : GroupId} {rows next : UserLinksTable}

theorem SameIn.inGroup_iff (same : SameIn group rows next) (identity : Identity)
    : InGroup next group identity ↔ InGroup rows group identity := by
  unfold InGroup
  constructor
  · rintro ⟨link, found, here⟩
    exact ⟨link, (same identity link here).mp found, here⟩
  · rintro ⟨link, found, here⟩
    exact ⟨link, (same identity link here).mpr found, here⟩

theorem SameIn.leads_iff (same : SameIn group rows next) (identity : Identity)
    : Leads next group identity ↔ Leads rows group identity := by
  unfold Leads
  constructor
  · rintro ⟨link, found, here, leads⟩
    exact ⟨link, (same identity link here).mp found, here, leads⟩
  · rintro ⟨link, found, here, leads⟩
    exact ⟨link, (same identity link here).mpr found, here, leads⟩

theorem SameIn.oneLeader_iff (same : SameIn group rows next)
    : OneLeader next group ↔ OneLeader rows group := by
  unfold OneLeader
  simp only [same.leads_iff]

theorem SameIn.dissolved_iff (same : SameIn group rows next)
    : Dissolved next group ↔ Dissolved rows group := by
  unfold Dissolved
  simp only [same.inGroup_iff]

theorem SameOutside.sameIn (same : SameOutside group rows next) (differs : other ≠ group)
    : SameIn other rows next :=
  fun identity link here => same identity link (here ▸ differs)

end Outside

-- The members of a group

instance : Std.Total (fun left right : Identity × UserLink => identityLe left.1 right.1) where
  total left right := by
    unfold identityLe
    rcases lt_trichotomy left.1.1 right.1.1 with before | same | after
    · exact .inl (.inl before)
    · rcases le_total left.1.2 right.1.2 with le | ge
      · exact .inl (.inr ⟨same, le⟩)
      · exact .inr (.inr ⟨same.symm, ge⟩)
    · exact .inr (.inl after)

instance
    : IsTrans (Identity × UserLink) (fun left right => identityLe left.1 right.1) where
  trans left middle right := by
    rintro (first | ⟨first, firstLe⟩) (second | ⟨second, secondLe⟩)
    · exact .inl (first.trans second)
    · exact .inl (second ▸ first)
    · exact .inl (first ▸ second)
    · exact .inr ⟨first.trans second, firstLe.trans secondLe⟩

theorem identityLe_antisymm {left right : Identity} (le : identityLe left right)
    (ge : identityLe right left)
    : left = right := by
  rcases le with before | ⟨same, le⟩
  · rcases ge with after | ⟨same, -⟩
    · exact absurd after before.asymm
    · exact absurd same before.ne'
  · rcases ge with after | ⟨-, ge⟩
    · exact absurd same.symm after.ne
    · exact Prod.ext same (le_antisymm le ge)

theorem mem_sortByIdentity {rows : List (Identity × UserLink)} {row : Identity × UserLink}
    : row ∈ sortByIdentity rows ↔ row ∈ rows :=
  List.mem_insertionSort _

theorem sortByIdentity_nodup {rows : List (Identity × UserLink)}
    (unique : (rows.map Prod.fst).Nodup)
    : ((sortByIdentity rows).map Prod.fst).Nodup :=
  ((List.perm_insertionSort _ rows).map Prod.fst).nodup_iff.mpr unique

theorem mem_groupMembers {rows : UserLinksTable} {group : GroupId}
    {member : Identity × UserLink}
    : member ∈ groupMembers rows group
      ↔ rows.get? member.1 = some member.2 ∧ member.2.groupId = group := by
  unfold groupMembers
  rw [mem_sortByIdentity, List.mem_filter, Dict.mem_items_iff, decide_eq_true_eq]

theorem groupMembers_nodup (rows : UserLinksTable) (group : GroupId)
    : ((groupMembers rows group).map Prod.fst).Nodup :=
  sortByIdentity_nodup ((List.filter_sublist.map Prod.fst).nodup rows.nodup)

theorem inGroup_iff_mem {rows : UserLinksTable} {group : GroupId} {identity : Identity}
    : InGroup rows group identity ↔ identity ∈ (groupMembers rows group).map Prod.fst := by
  simp only [InGroup, List.mem_map, mem_groupMembers]
  constructor
  · rintro ⟨link, found, same⟩
    exact ⟨(identity, link), ⟨found, same⟩, rfl⟩
  · rintro ⟨⟨_, link⟩, ⟨found, same⟩, rfl⟩
    exact ⟨link, found, same⟩

theorem dissolved_iff_members {rows : UserLinksTable} {group : GroupId}
    : Dissolved rows group ↔ groupMembers rows group = [] := by
  simp only [Dissolved, inGroup_iff_mem, ← List.eq_nil_iff_forall_not_mem, List.map_eq_nil_iff]

theorem twoMembers_iff_members {rows : UserLinksTable} {group : GroupId}
    {first : Identity × UserLink} {rest : List (Identity × UserLink)}
    (members : groupMembers rows group = first :: rest)
    : TwoMembers rows group ↔ rest ≠ [] := by
  have unique := groupMembers_nodup rows group
  simp only [TwoMembers, inGroup_iff_mem]
  rw [members] at unique ⊢
  constructor
  · rintro ⟨left, right, differ, leftMember, rightMember⟩ rfl
    simp only [List.map_cons, List.map_nil, List.mem_singleton] at leftMember rightMember
    exact differ (leftMember.trans rightMember.symm)
  · intro more
    obtain ⟨second, others, rfl⟩ := List.exists_cons_of_ne_nil more
    simp only [List.map_cons, List.nodup_cons, List.mem_cons, not_or] at unique
    exact ⟨first.1, second.1, unique.1.1, by simp, by simp⟩

theorem chooseLeader_mem (preferred : Option Identity) (first : Identity × UserLink)
    (rest : List (Identity × UserLink))
    : chooseLeader preferred first rest ∈ first :: rest := by
  unfold chooseLeader
  split
  · next member found => exact List.mem_of_find?_eq_some found
  split
  · next current only =>
      have member : current ∈ (first :: rest).filter (fun member => member.2.isLeader) := by
        rw [only]
        exact List.mem_cons_self
      exact (List.mem_filter.mp member).1
  · exact List.mem_cons_self

-- One repaired group

theorem flush_empty (rows : UserLinksTable) : flush rows {} = some rows := rfl

theorem flush_deletes (rows : UserLinksTable) (identity : Identity)
    : flush rows { deletes := [identity] } = some (rows.erase identity) := rfl

theorem flush_updates_of_unled {rows : UserLinksTable} {updates : List (Identity × UserLink)}
    (unled : ∀ update ∈ updates, update.2.isLeader = false)
    : flush rows { updates } = some (overwrite rows (sortByIdentity updates)) := by
  have outside : ∀ update ∈ sortByIdentity updates, leaderIndex update.2 = none := by
    intro update member
    simp [leaderIndex, unled update (mem_sortByIdentity.mp member)]
  unfold flush
  rw [writeAll_of_unindexed outside]
  rfl

theorem flush_leader {rows : UserLinksTable} {identity : Identity} {link : UserLink}
    (leaderless : ∀ other, ¬ Leads rows link.groupId other)
    : flush rows { updates := [(identity, { link with isLeader := true })] }
      = some (rows.set identity { link with isLeader := true }) := by
  have fits
      : ¬ Collides leaderIndex rows (identity, { link with isLeader := true }) := by
    rintro ⟨other, found, stored, -, same, -⟩
    unfold leaderIndex at same
    split at same
    · next leads =>
        simp only [if_true, Option.some.injEq] at same
        exact leaderless other ⟨found, stored, same, leads⟩
    · cases same
  have written := writeRow_eq_some_iff.mpr ⟨fits, rfl⟩
  unfold flush
  change ((writeRow leaderIndex rows (identity, { link with isLeader := true })).bind
    some).bind _ = _
  rw [written]
  rfl

def cleared (link : UserLink) : UserLink := { link with isLeader := false }

/-- The updates that clear all leaders of a group. -/
def clearings (rows : UserLinksTable) (group : GroupId) : List (Identity × UserLink) :=
  (groupMembers rows group).map (fun member => (member.1, cleared member.2))

theorem get?_clearings (rows : UserLinksTable) (group : GroupId) (identity : Identity)
    : (overwrite rows (sortByIdentity (clearings rows group))).get? identity
      = (rows.get? identity).map (fun link =>
          if link.groupId = group then cleared link else link) := by
  have unique : ((sortByIdentity (clearings rows group)).map Prod.fst).Nodup := by
    refine sortByIdentity_nodup ?_
    unfold clearings
    rw [List.map_map]
    exact groupMembers_nodup rows group
  have entry (link : UserLink)
      : lookupItems identity (sortByIdentity (clearings rows group)) = some link
        ↔ ∃ before,
            rows.get? identity = some before ∧ before.groupId = group ∧ cleared before = link := by
    rw [lookupItems_eq_some_iff unique, mem_sortByIdentity, clearings, List.mem_map]
    constructor
    · rintro ⟨⟨_, before⟩, member, same⟩
      obtain ⟨found, inside⟩ := mem_groupMembers.mp member
      cases same
      exact ⟨before, found, inside, rfl⟩
    · rintro ⟨before, found, inside, rfl⟩
      exact ⟨(identity, before), mem_groupMembers.mpr ⟨found, inside⟩, rfl⟩
  rw [get?_overwrite unique]
  cases found : rows.get? identity with
  | none =>
      have missing : lookupItems identity (sortByIdentity (clearings rows group)) = none := by
        rw [Option.eq_none_iff_forall_ne_some]
        intro link present
        obtain ⟨before, stored, -⟩ := (entry link).mp present
        rw [found] at stored
        cases stored
      rw [missing]
      rfl
  | some link =>
      by_cases inside : link.groupId = group
      · rw [(entry (cleared link)).mpr ⟨link, found, inside, rfl⟩]
        simp [inside]
      · have missing
            : lookupItems identity (sortByIdentity (clearings rows group)) = none := by
          rw [Option.eq_none_iff_forall_ne_some]
          intro new present
          obtain ⟨before, stored, here, -⟩ := (entry new).mp present
          rw [found] at stored
          cases stored
          exact inside here
        rw [missing]
        simp [inside]

/-- The rows after a repair: a member of the group leads exactly when it was chosen. -/
def repairedLink (group : GroupId) (chosen : Identity) (identity : Identity) (link : UserLink)
    : UserLink :=
  if link.groupId = group then { link with isLeader := decide (identity = chosen) } else link

section Repair

variable {group : GroupId} {chosen : Identity} {rows settled : UserLinksTable}
  (links
    : ∀ identity,
        settled.get? identity = (rows.get? identity).map (repairedLink group chosen identity))

include links

theorem get?_repaired_iff {identity : Identity} {link : UserLink}
    : settled.get? identity = some link
      ↔ ∃ before,
          rows.get? identity = some before ∧ repairedLink group chosen identity before = link := by
  rw [links, Option.map_eq_some_iff]

theorem repaired_sameOutside : SameOutside group rows settled := by
  intro identity link outside
  rw [get?_repaired_iff links]
  unfold repairedLink
  constructor
  · rintro ⟨before, found, same⟩
    split at same
    · next inside =>
        cases same
        exact absurd inside outside
    · cases same
      exact found
  · intro found
    exact ⟨link, found, if_neg outside⟩

theorem repaired_inGroup_iff (identity : Identity)
    : InGroup settled group identity ↔ InGroup rows group identity := by
  unfold InGroup
  simp only [get?_repaired_iff links, repairedLink]
  constructor
  · rintro ⟨link, ⟨before, found, same⟩, inside⟩
    refine ⟨before, found, ?_⟩
    split at same
    · assumption
    · rw [same]
      exact inside
  · rintro ⟨before, found, inside⟩
    exact ⟨_, ⟨before, found, rfl⟩, by rw [if_pos inside]; exact inside⟩

theorem repaired_oneLeader (chosenInside : InGroup rows group chosen)
    : OneLeader settled group := by
  refine ⟨chosen, ?_, ?_⟩
  · obtain ⟨before, found, inside⟩ := chosenInside
    refine ⟨repairedLink group chosen chosen before, ?_, ?_, ?_⟩
    · exact (get?_repaired_iff links).mpr ⟨before, found, rfl⟩
    · simp [repairedLink, inside]
    · simp [repairedLink, inside]
  · rintro other ⟨link, found, inside, leads⟩
    obtain ⟨before, -, rfl⟩ := (get?_repaired_iff links).mp found
    unfold repairedLink at inside leads
    split at leads
    · exact of_decide_eq_true leads
    · next outside =>
        rw [if_neg outside] at inside
        exact absurd inside outside

end Repair

theorem normalizeGroup_repairs {preferred : Dict GroupId Identity} {dissolve : List GroupId}
    {state : Normalization} {rows : UserLinksTable} {group : GroupId}
    {first : Identity × UserLink} {rest : List (Identity × UserLink)}
    (flushed : flush state.rows state.pending = some rows)
    (members : groupMembers rows group = first :: rest)
    (stays : ¬ (rest = [] ∧ group ∈ dissolve))
    : let chosen := chooseLeader (preferred.get? group) first rest
      ∃ next settled,
        normalizeGroup preferred dissolve state group = some next
        ∧ flush next.rows next.pending = some settled
        ∧ next.dissolvedGroups = state.dissolvedGroups
        ∧ InGroup rows group chosen.1
        ∧ ∀ identity,
            settled.get? identity
            = (rows.get? identity).map (repairedLink group chosen.1 identity) := by
  intro chosen
  have member : chosen ∈ groupMembers rows group := by
    rw [members]
    exact chooseLeader_mem _ first rest
  obtain ⟨stored, inside⟩ := mem_groupMembers.mp member
  have unled : ∀ update ∈ clearings rows group, update.2.isLeader = false := by
    intro update known
    obtain ⟨before, -, rfl⟩ := List.mem_map.mp known
    rfl
  have leaderless
      : ∀ other,
          ¬ Leads (overwrite rows (sortByIdentity (clearings rows group))) chosen.2.groupId
            other := by
    rintro other ⟨link, found, here, leads⟩
    rw [get?_clearings, Option.map_eq_some_iff] at found
    obtain ⟨before, -, rfl⟩ := found
    split at leads
    · cases leads
    · next outside =>
        rw [if_neg outside] at here
        exact outside (here.trans inside)
  have listed
      : clearings rows group
        = (first :: rest).map (fun member => (member.1, cleared member.2)) := by
    unfold clearings
    rw [members]
  have clearing
      : flush rows { updates := clearings rows group }
        = some (overwrite rows (sortByIdentity (clearings rows group))) :=
    flush_updates_of_unled unled
  refine ⟨⟨overwrite rows (sortByIdentity (clearings rows group)), _, state.dissolvedGroups,
      state.leaders.set group chosen.1⟩,
    (overwrite rows (sortByIdentity (clearings rows group))).set chosen.1
      { chosen.2 with isLeader := true },
    ?_, flush_leader leaderless, rfl, ⟨chosen.2, stored, inside⟩, ?_⟩
  · unfold normalizeGroup
    rw [flushed, Option.bind_some]
    simp only [members]
    rw [if_neg stays]
    change (flush rows { updates := (first :: rest).map (fun member =>
      (member.1, cleared member.2)) }).map _ = _
    rw [← listed, clearing]
    rfl
  · intro identity
    rw [Dict.get?_set, get?_clearings]
    split
    · next same =>
        rw [same, stored]
        simp [repairedLink, inside]
    · next other =>
        congr 1
        funext link
        unfold repairedLink cleared
        simp [other]

-- All affected groups

/-- The group has no member, or too few of them to go on. -/
def Dissolves (rows : UserLinksTable) (dissolve : List GroupId) (group : GroupId) : Prop :=
  Dissolved rows group ∨ (¬ TwoMembers rows group ∧ group ∈ dissolve)

/-- A group that was dissolved when it had to be, and otherwise has its old members and one
leader.
-/
structure Repaired (before : UserLinksTable) (dissolve dissolvedGroups : List GroupId)
    (rows : UserLinksTable) (group : GroupId)
    : Prop where
  dissolved
    : Dissolves before dissolve group → group ∈ dissolvedGroups ∧ Dissolved rows group
  led
    : ¬ Dissolves before dissolve group
      → OneLeader rows group
        ∧ ∀ identity, InGroup rows group identity ↔ InGroup before group identity

theorem normalizeGroup_spec {preferred : Dict GroupId Identity} {dissolve : List GroupId}
    {state : Normalization} {rows : UserLinksTable} (group : GroupId)
    (flushed : flush state.rows state.pending = some rows)
    : ∃ next settled,
        normalizeGroup preferred dissolve state group = some next
        ∧ flush next.rows next.pending = some settled
        ∧ state.dissolvedGroups ⊆ next.dissolvedGroups
        ∧ SameOutside group rows settled
        ∧ Repaired rows dissolve next.dissolvedGroups settled group := by
  cases members : groupMembers rows group with
  | nil =>
      have empty : Dissolved rows group := dissolved_iff_members.mpr members
      refine ⟨⟨rows, {}, state.dissolvedGroups ++ [group], state.leaders⟩, rows, ?_,
        flush_empty rows, List.subset_append_left _ _, fun _ _ _ => Iff.rfl, ?_⟩
      · unfold normalizeGroup
        rw [flushed, Option.bind_some]
        simp only [members]
      · exact ⟨fun _ => ⟨by simp, empty⟩, fun stays => absurd (.inl empty) stays⟩
  | cons first rest =>
      have two := twoMembers_iff_members members
      have occupied : ¬ Dissolved rows group := by
        rw [dissolved_iff_members, members]
        exact List.cons_ne_nil _ _
      obtain ⟨stored, inside⟩ := mem_groupMembers.mp (members ▸ List.mem_cons_self)
      by_cases dissolves : rest = [] ∧ group ∈ dissolve
      · refine ⟨⟨rows, { deletes := [first.1] }, state.dissolvedGroups ++ [group],
          state.leaders⟩, rows.erase first.1, ?_, flush_deletes rows first.1,
          List.subset_append_left _ _, ?_, ?_⟩
        · unfold normalizeGroup
          rw [flushed, Option.bind_some]
          simp only [members]
          rw [if_pos dissolves]
        · intro identity link outside
          rw [Dict.get?_erase]
          split
          · next same =>
              rw [same, stored]
              simp only [reduceCtorEq, Option.some.injEq, false_iff]
              rintro rfl
              exact outside inside
          · rfl
        · refine ⟨fun _ => ⟨by simp, ?_⟩, fun stays => absurd ?_ stays⟩
          · rintro identity ⟨link, found, here⟩
            rw [Dict.get?_erase] at found
            split at found
            · cases found
            · next differs =>
                -- only the first member is in the group, and it was erased
                have member : (identity, link) ∈ groupMembers rows group :=
                  mem_groupMembers.mpr ⟨found, here⟩
                rw [members, dissolves.1, List.mem_singleton] at member
                cases member
                exact differs rfl
          · exact .inr ⟨fun more => two.mp more dissolves.1, dissolves.2⟩
      · obtain ⟨next, settled, normalized, settles, dissolvedGroups, chosenInside, links⟩ :=
          @normalizeGroup_repairs preferred _ _ _ _ _ _ flushed members dissolves
        refine ⟨next, settled, normalized, settles, dissolvedGroups ▸ List.Subset.refl _,
          repaired_sameOutside links, ?_, ?_⟩
        · rintro (empty | ⟨few, listed⟩)
          · exact absurd empty occupied
          · exact absurd ⟨not_not.mp (mt two.mpr few), listed⟩ dissolves
        · intro _
          exact ⟨repaired_oneLeader links chosenInside, repaired_inGroup_iff links⟩

/-- The transaction after repairing the groups done so far: all other links are as before. -/
structure Normalized (before : UserLinksTable) (dissolve done : List GroupId)
    (state : Normalization) (rows : UserLinksTable)
    : Prop where
  flushes : flush state.rows state.pending = some rows
  untouched
    : ∀ identity link,
        link.groupId ∉ done
        → (rows.get? identity = some link ↔ before.get? identity = some link)
  repaired : ∀ group ∈ done, Repaired before dissolve state.dissolvedGroups rows group

theorem Normalized.sameIn {before rows : UserLinksTable} {dissolve done : List GroupId}
    {state : Normalization} (normalized : Normalized before dissolve done state rows)
    {group : GroupId} (fresh : group ∉ done)
    : SameIn group before rows :=
  fun identity link here => normalized.untouched identity link (here ▸ fresh)

theorem dissolves_congr {left right : UserLinksTable} {dissolve : List GroupId}
    {group : GroupId}
    (same : ∀ identity, InGroup left group identity ↔ InGroup right group identity)
    : Dissolves left dissolve group ↔ Dissolves right dissolve group := by
  unfold Dissolves Dissolved TwoMembers
  simp only [same]

theorem Normalized.step {preferred : Dict GroupId Identity} {before rows : UserLinksTable}
    {dissolve done : List GroupId} {state : Normalization}
    (normalized : Normalized before dissolve done state rows) {group : GroupId}
    (fresh : group ∉ done)
    : ∃ next settled,
        normalizeGroup preferred dissolve state group = some next
        ∧ Normalized before dissolve (done ++ [group]) next settled := by
  obtain ⟨next, settled, taken, flushes, kept, outside, repaired⟩ :=
    @normalizeGroup_spec preferred dissolve _ _ group normalized.flushes
  refine ⟨next, settled, taken, flushes, fun identity link elsewhere => ?_, fun other member => ?_⟩
  · rw [List.mem_append, List.mem_singleton, not_or] at elsewhere
    rw [outside identity link elsewhere.2, normalized.untouched identity link elsewhere.1]
  · rcases List.mem_append.mp member with earlier | last
    · have differs : other ≠ group := fun same => fresh (same ▸ earlier)
      obtain ⟨dissolved, led⟩ := normalized.repaired other earlier
      constructor
      · intro dissolves
        obtain ⟨listed, empty⟩ := dissolved dissolves
        refine ⟨kept listed, fun identity => ?_⟩
        rw [(outside.sameIn differs).inGroup_iff]
        exact empty identity
      · intro stays
        obtain ⟨one, members⟩ := led stays
        refine ⟨(outside.sameIn differs).oneLeader_iff.mpr one, fun identity => ?_⟩
        rw [(outside.sameIn differs).inGroup_iff, members]
    · rw [List.mem_singleton.mp last]
      have same := (normalized.sameIn fresh).inGroup_iff
      constructor
      · intro dissolves
        exact repaired.dissolved ((dissolves_congr same).mpr dissolves)
      · intro stays
        obtain ⟨one, members⟩ := repaired.led (mt (dissolves_congr same).mp stays)
        exact ⟨one, fun identity => (members identity).trans (same identity)⟩

/-- One group after the other is repaired, by induction on the groups. -/
theorem Normalized.foldlM {preferred : Dict GroupId Identity} {before rows : UserLinksTable}
    {dissolve done groups : List GroupId} {state : Normalization}
    (normalized : Normalized before dissolve done state rows)
    (fresh : (done ++ groups).Nodup)
    : ∃ next settled,
        groups.foldlM (normalizeGroup preferred dissolve) state = some next
        ∧ Normalized before dissolve (done ++ groups) next settled := by
  induction groups generalizing done state rows with
  | nil => exact ⟨state, rows, rfl, by rwa [List.append_nil]⟩
  | cons group rest ih =>
      have new : group ∉ done := by
        intro earlier
        exact (List.nodup_append.mp fresh).2.2 group earlier group List.mem_cons_self rfl
      obtain ⟨middle, middleRows, taken, normalized⟩ :=
        @Normalized.step preferred _ _ _ _ _ normalized _ new
      rw [List.append_cons] at fresh ⊢
      obtain ⟨next, settled, others, normalized⟩ := ih normalized fresh
      refine ⟨next, settled, ?_, normalized⟩
      rw [List.foldlM_cons, taken]
      exact others

end OctoHubs.UserLinks
