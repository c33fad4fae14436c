import OctoHubs.Latest.CacheMerge

/-! Entries that stand for one another: alike in their event and their title, or linked by
equivalent entries between them. A deduplication and a reconciliation keep what is linked.
-/

namespace OctoHubs.Latest

open OctoHubs.Library LatestEntry

section Links

variable (rules : TextRules) (family : String)

/-- The same event under the same aliases. -/
def Alike (left right : LatestEntry) : Prop :=
  left.publicationEventKey rules family = right.publicationEventKey rules family
  ∧ left.publicationLogicalAliases rules family = right.publicationLogicalAliases rules family

/-- A chain of steps between alike entries and between equivalent ones of the pool. -/
def Linked (pool : List LatestEntry) : LatestEntry → LatestEntry → Prop :=
  Relation.EqvGen (fun left right =>
    Alike rules family left right
    ∨ left ∈ pool ∧ right ∈ pool ∧ eventsAreEquivalent rules left right family = true)

variable {rules family} {pool more : List LatestEntry} {left middle right : LatestEntry}

theorem Alike.refl (entry : LatestEntry) : Alike rules family entry entry := ⟨rfl, rfl⟩

theorem Alike.symm (alike : Alike rules family left right) : Alike rules family right left :=
  ⟨alike.1.symm, alike.2.symm⟩

theorem Alike.trans (first : Alike rules family left middle)
    (second : Alike rules family middle right)
    : Alike rules family left right :=
  ⟨first.1.trans second.1, first.2.trans second.2⟩

theorem Alike.of_fields (server : left.serverId = right.serverId)
    (item : left.itemId = right.itemId) (signature : left.signature = right.signature)
    (changes : left.changes = right.changes)
    : Alike rules family left right := by
  constructor
  · unfold publicationEventKey changeIdentities changeList
    rw [server, changes]
  · unfold publicationLogicalAliases
    rw [server, item, signature]

theorem Linked.of_alike (alike : Alike rules family left right)
    : Linked rules family pool left right :=
  .rel _ _ (Or.inl alike)

theorem Linked.symm (linked : Linked rules family pool left right)
    : Linked rules family pool right left :=
  Relation.EqvGen.symm _ _ linked

theorem Linked.trans (first : Linked rules family pool left middle)
    (second : Linked rules family pool middle right)
    : Linked rules family pool left right :=
  Relation.EqvGen.trans _ _ _ first second

theorem Linked.mono (linked : Linked rules family pool left right) (subset : pool ⊆ more)
    : Linked rules family more left right := by
  refine Relation.EqvGen.mono ?_ _ _ linked
  intro first second step
  exact step.imp_right (fun ⟨here, there, equivalent⟩ =>
    ⟨subset here, subset there, equivalent⟩)

theorem Linked.sameKey (linked : Linked rules family pool left right)
    : left.publicationEventKey rules family = right.publicationEventKey rules family := by
  induction linked with
  | rel left right step =>
      obtain alike | ⟨-, -, equivalent⟩ := step
      · exact alike.1
      · obtain ⟨key, leftKey, rightKey, -⟩ := eventsAreEquivalent_iff.mp equivalent
        exact leftKey.trans rightKey.symm
  | refl entry => rfl
  | symm _ _ _ ih => exact ih.symm
  | trans _ _ _ _ _ first second => exact first.trans second

theorem Linked.equivalent (linked : Linked rules family pool left right) {key : EventKey}
    (found : left.publicationEventKey rules family = some key)
    (durable : ∀ identity ∈ key.2.2, identity.head? ≠ some "fallback")
    : eventsAreEquivalent rules left right family = true := by
  rw [eventsAreEquivalent_iff]
  refine ⟨key, found, linked.sameKey.symm.trans found, fun fallback => ?_⟩
  obtain ⟨identity, member, named⟩ := fallback
  exact absurd named (durable identity member)

end Links

section Deduplicated

variable {rules : TextRules} {family : String} {candidates : List (LatestEntry × Bool)}
  {bridges pool : List LatestEntry}

theorem linked_of_connected {nodes : List LatestEntry}
    (known : ∀ node ∈ nodes, ∃ entry ∈ pool, Alike rules family node entry)
    {left right : Fin nodes.length} (connected : Connected rules family nodes left right)
    : Linked rules family pool (nodes.get left) (nodes.get right) := by
  induction connected with
  | rel left right equivalent =>
      obtain ⟨first, firstMember, firstAlike⟩ := known _ (List.get_mem nodes left)
      obtain ⟨second, secondMember, secondAlike⟩ := known _ (List.get_mem nodes right)
      have between : eventsAreEquivalent rules first second family = true :=
        eventsAreEquivalent_of_same equivalent firstAlike.1.symm firstAlike.2.symm
          secondAlike.1.symm secondAlike.2.symm
      refine (Linked.of_alike firstAlike).trans (.trans ?_ (.of_alike secondAlike.symm))
      exact .rel _ _ (Or.inr ⟨firstMember, secondMember, between⟩)
  | refl node => exact .refl _
  | symm _ _ _ ih => exact ih.symm
  | trans _ _ _ _ _ first second => exact first.trans second

theorem deduplicate_shows
    (known
      : ∀ node ∈ candidates.map Prod.fst ++ bridges,
          ∃ entry ∈ pool, Alike rules family node entry)
    {candidate : LatestEntry} (member : candidate ∈ candidates.map Prod.fst)
    : ∃ shown ∈ deduplicatePublicationEvents rules family candidates bridges,
        Linked rules family pool candidate shown := by
  obtain ⟨representatives, -, firsts, entries⟩ :=
    deduplicate_classes rules family candidates bridges
  obtain ⟨position, inRange, rfl⟩ := List.getElem_of_mem member
  have inCandidates : position < candidates.length := by simpa using inRange
  have inNodes : position < (candidates.map Prod.fst ++ bridges).length := by
    rw [List.length_append]
    exact Nat.lt_add_right _ inRange
  have here
      : (candidates.map Prod.fst ++ bridges)[position] = (candidates.map Prod.fst)[position] :=
    List.getElem_append_left inRange
  obtain ⟨first, -, -, -, connected, isFirst, -⟩ :=
    @componentEntry_spec rules family _ _ (fun index => candidates[index.val]?.any Prod.snd)
      ⟨position, inNodes⟩ inCandidates
  obtain ⟨shown, listed, isEntry⟩ :=
    exists_of_mem_right entries.flip ((firsts first).mpr isFirst)
  obtain ⟨node, joined, sameKey, sameAliases⟩ := IsClassEntry.member isEntry
  refine ⟨shown, listed, ?_⟩
  rw [← here]
  have chain := connected.symm.trans _ _ _ joined
  exact (linked_of_connected known chain).trans (.of_alike ⟨sameKey, sameAliases⟩)

theorem deduplicate_alike {shown : LatestEntry}
    (listed : shown ∈ deduplicatePublicationEvents rules family candidates bridges)
    : ∃ node ∈ candidates.map Prod.fst ++ bridges, Alike rules family shown node := by
  obtain ⟨representatives, -, -, entries⟩ :=
    deduplicate_classes rules family candidates bridges
  obtain ⟨first, -, isEntry⟩ := exists_of_mem_right entries listed
  obtain ⟨node, -, sameKey, sameAliases⟩ := IsClassEntry.member isEntry
  exact ⟨_, List.get_mem _ node, sameKey.symm, sameAliases.symm⟩

theorem deduplicate_plain (rules : TextRules) (family : String) (entries : List LatestEntry)
    : (∀ entry ∈ entries,
          ∃ shown ∈ deduplicatePublicationEvents rules family (entries.map (·, false)) [],
            Linked rules family entries entry shown)
      ∧ ∀ shown ∈ deduplicatePublicationEvents rules family (entries.map (·, false)) [],
          ∃ entry ∈ entries, Alike rules family shown entry := by
  have plain : (entries.map (fun entry => (entry, false))).map Prod.fst = entries := by
    rw [List.map_map]
    exact List.map_id _
  constructor
  · intro entry member
    apply deduplicate_shows
    · intro node listed
      rw [plain, List.append_nil] at listed
      exact ⟨node, listed, .refl node⟩
    · rw [plain]
      exact member
  · intro shown listed
    obtain ⟨node, member, alike⟩ := deduplicate_alike listed
    rw [plain, List.append_nil] at member
    exact ⟨node, member, alike⟩

end Deduplicated

section Reconciled

variable {rules : TextRules} {family : String} {cached : List LatestEntry}
  {candidate : LatestEntry}

theorem preferredAmong_mem {entries : List LatestEntry} {event : LatestEntry}
    (found : preferredAmong rules entries = some event)
    : event ∈ entries := by
  cases entries with
  | nil => cases found
  | cons first rest =>
      cases found
      exact foldl_choose_mem _ (fun _ _ => ite_eq_or_eq _ _ _) first rest

theorem matchingEvent_key {entry : LatestEntry}
    (matching : entry ∈ matchingEventComponent rules family candidate cached)
    : ∃ key,
        entry.publicationEventKey rules family = some key
        ∧ candidate.publicationEventKey rules family = some key := by
  induction mem_absorb_iff.mp matching with
  | seed _ equivalent =>
      obtain ⟨key, entryKey, candidateKey, -⟩ := eventsAreEquivalent_iff.mp equivalent
      exact ⟨key, entryKey, candidateKey⟩
  | step before _ equivalent ih =>
      obtain ⟨key, knownKey, candidateKey⟩ := ih (mem_absorb_iff.mpr before)
      obtain ⟨other, entryKey, sameKey, -⟩ := eventsAreEquivalent_iff.mp equivalent
      cases sameKey.symm.trans knownKey
      exact ⟨_, entryKey, candidateKey⟩

/-- What an alias shows comes from the entries, under that alias, and is no snapshot. -/
def ShowsVisible (rules : TextRules) (family : String) (entries : List LatestEntry)
    (visible : Dict TitleAlias LatestEntry)
    : Prop :=
  ∀ alias_ entry,
    visible.get? alias_ = some entry
    → entry ∈ entries
      ∧ entry.isExistingSnapshot rules = false
      ∧ alias_ ∈ entry.publicationLogicalAliases rules family

theorem ShowsVisible.showAlias {entries : List LatestEntry} {visible : Dict TitleAlias LatestEntry}
    {entry : LatestEntry} {alias_ : TitleAlias} (shows_ : ShowsVisible rules family entries visible)
    (member : entry ∈ entries) (visible_ : entry.isExistingSnapshot rules = false)
    (named : alias_ ∈ entry.publicationLogicalAliases rules family)
    : ShowsVisible rules family entries (showAlias rules visible entry alias_) := by
  have written {shown : LatestEntry}
      (fits
        : shown ∈ entries
          ∧ shown.isExistingSnapshot rules = false
          ∧ alias_ ∈ shown.publicationLogicalAliases rules family)
      : ShowsVisible rules family entries (visible.set alias_ shown) := by
    intro other found there
    rw [Dict.get?_set] at there
    split at there
    · next same =>
        cases there
        exact same ▸ fits
    · exact shows_ other found there
  unfold Latest.showAlias
  split
  · exact written ⟨member, visible_, named⟩
  · next current here =>
      split
      · exact written ⟨member, visible_, named⟩
      · apply written
        unfold preferredEvent
        split
        · exact shows_ alias_ current here
        · exact ⟨member, visible_, named⟩
      · exact shows_

theorem showsVisible_visibleEventsByAlias (entries : List LatestEntry)
    : ShowsVisible rules family entries (visibleEventsByAlias rules family entries) := by
  have aliases {visible : Dict TitleAlias LatestEntry} {entry : LatestEntry}
      (names : List TitleAlias) (shows_ : ShowsVisible rules family entries visible) (member : entry ∈ entries)
      (visible_ : entry.isExistingSnapshot rules = false)
      (named : ∀ alias_ ∈ names, alias_ ∈ entry.publicationLogicalAliases rules family)
      : ShowsVisible rules family entries
          (names.foldl (fun visible alias_ => showAlias rules visible entry alias_) visible) := by
    induction names generalizing visible with
    | nil => exact shows_
    | cons first rest ih =>
        obtain ⟨firstNamed, restNamed⟩ := List.forall_mem_cons.mp named
        exact ih (shows_.showAlias member visible_ firstNamed) restNamed
  have all {visible : Dict TitleAlias LatestEntry} (rest : List LatestEntry)
      (shows_ : ShowsVisible rules family entries visible) (members : rest ⊆ entries)
      : ShowsVisible rules family entries
          (rest.foldl
            (fun visible entry =>
              if entry.isExistingSnapshot rules then visible
              else
                (entry.publicationLogicalAliases rules family).foldl
                  (fun visible alias_ => showAlias rules visible entry alias_) visible)
            visible) := by
    induction rest generalizing visible with
    | nil => exact shows_
    | cons first rest ih =>
        obtain ⟨member, others⟩ := List.cons_subset.mp members
        rw [List.foldl_cons]
        refine ih ?_ others
        split
        · exact shows_
        · next fresh =>
            exact aliases _ shows_ member (Bool.eq_false_iff.mpr fresh) (fun _ named => named)
  refine all entries ?_ (List.Subset.refl _)
  intro alias_ entry nothing
  cases nothing

theorem lastEvent_mem {entries : List LatestEntry} {event : LatestEntry}
    (found : lastEvent rules entries = some event)
    : event ∈ entries := by
  cases entries with
  | nil => cases found
  | cons first rest =>
      cases found
      exact foldl_choose_mem _ (fun _ _ => (ite_eq_or_eq _ _ _).symm) first rest

/-- The entry describes no publication of its own, so it shows the last event of its title. -/
def TakesVisibleEvent (rules : TextRules) (family : String) (cached : List LatestEntry)
    (candidate reconciled : LatestEntry)
    : Prop :=
  candidate.isExistingSnapshot rules = true
  ∧ (∀ known ∈ cached, eventsAreEquivalent rules known candidate family = false)
  ∧ ∃ event ∈ deduplicatePublicationEvents rules family (cached.map (·, false)) [],
      event.isExistingSnapshot rules = false
      ∧ (∃ alias_ ∈ candidate.publicationLogicalAliases rules family,
          alias_ ∈ event.publicationLogicalAliases rules family)
      ∧ reconciled = candidate.withEventEnvelope event

/-- A reconciled entry is like the fresh one, or the fresh one takes the event of its title. -/
theorem reconcileCandidate_spec
    : Alike rules family candidate (reconcileCandidate rules family cached candidate)
      ∨ TakesVisibleEvent rules family cached candidate
          (reconcileCandidate rules family cached candidate) := by
  unfold reconcileCandidate eventSourceForCandidate
  dsimp only
  cases preferred
      : preferredAmong rules (matchingEventComponent rules family candidate cached) with
  | some event =>
      obtain ⟨key, eventKey, candidateKey⟩ := matchingEvent_key (preferredAmong_mem preferred)
      refine Or.inl ⟨?_, rfl⟩
      exact candidateKey.trans (withEventEnvelope_key candidateKey eventKey).symm
  | none =>
      have unmatched
          : ∀ known ∈ cached, eventsAreEquivalent rules known candidate family = false := by
        intro known member
        rw [← Bool.not_eq_true]
        intro equivalent
        have matching : known ∈ matchingEventComponent rules family candidate cached :=
          mem_absorb_iff.mpr (.seed member equivalent)
        cases shape : matchingEventComponent rules family candidate cached with
        | nil =>
            rw [shape] at matching
            cases matching
        | cons first rest =>
            rw [shape] at preferred
            cases preferred
      dsimp only
      split
      · next snapshot =>
          cases last
              : lastEvent rules
                  ((candidate.publicationLogicalAliases rules family).filterMap
                    (visibleEventsByAlias rules family
                      (deduplicatePublicationEvents rules family (cached.map (·, false))
                        [])).get?) with
          | none => exact Or.inl (.refl candidate)
          | some event =>
              obtain ⟨alias_, named, shown⟩ := List.mem_filterMap.mp (lastEvent_mem last)
              obtain ⟨listed, visible, alsoNamed⟩ :=
                showsVisible_visibleEventsByAlias _ alias_ event shown
              exact Or.inr ⟨snapshot, unmatched, event, listed, visible,
                ⟨alias_, named, alsoNamed⟩, rfl⟩
      · exact Or.inl (.refl candidate)

end Reconciled

end OctoHubs.Latest
