import Mathlib.Data.List.FinRange
import Mathlib.Data.List.NodupEquivFin
import OctoHubs.Latest.Entries
import OctoHubs.Library.Grouping
import OctoHubs.Library.UnionFind

/-! Deduplication of publication events.
Equivalence of events is not transitive where a source has no durable name, so the classes are
those of a union-find over the entries and the hidden entries that bridge them.
-/

namespace OctoHubs.Latest

open OctoHubs.Library LatestEntry

variable (rules : TextRules) (family : String)

-- The code

/-- The pairs of equivalent nodes, as two nested loops meet them. -/
def equivalentPairs (nodes : List LatestEntry)
    : List (Fin nodes.length × Fin nodes.length) :=
  ((List.finRange nodes.length).flatMap (fun left =>
      ((List.finRange nodes.length).filter (left < ·)).map (left, ·))).filter (fun pair =>
    eventsAreEquivalent rules nodes[pair.1] nodes[pair.2] family)

def equivalenceForest (nodes : List LatestEntry) : Forest (Fin nodes.length) :=
  .unionAll (equivalentPairs rules family nodes)

/-- The preferred event among the nodes under a root. -/
def componentEvent (nodes : List LatestEntry) (forest : Forest (Fin nodes.length))
    (componentRoot : Fin nodes.length)
    : Option LatestEntry :=
  match (List.finRange nodes.length).filter (forest.root · = componentRoot) with
  | [] => none
  | first :: rest =>
      some ((rest.map (fun index => nodes[index])).foldl (preferredEvent rules) nodes[first])

/-- Candidates come with a mark that prefers them as the source of the title. -/
def componentEntry (nodes : List LatestEntry) (forest : Forest (Fin nodes.length))
    (preferred : Fin nodes.length → Bool) (indices : List (Fin nodes.length))
    : Option LatestEntry :=
  match indices with
  | [] => none
  | first :: _ =>
      let metadata := nodes[(indices.find? preferred).getD first]
      (componentEvent rules nodes forest (forest.root first)).map (fun event =>
        metadata.withEventEnvelope event)

def firstIndex {n : Nat} (indices : List (Fin n)) : Nat :=
  indices.head?.elim 0 (·.val)

/-- One entry for each class of candidates under the equivalence with the bridges. -/
def deduplicatePublicationEvents (candidates : List (LatestEntry × Bool))
    (bridges : List LatestEntry)
    : List LatestEntry :=
  let nodes := candidates.map Prod.fst ++ bridges
  let forest := equivalenceForest rules family nodes
  let preferred (index : Fin nodes.length) : Bool := candidates[index.val]?.any Prod.snd
  let components :=
    groupBy forest.root
      ((List.finRange nodes.length).filter (·.val < candidates.length))
  let ordered :=
    components.values.insertionSort (fun left right => firstIndex left ≤ firstIndex right)
  ordered.filterMap (componentEntry rules nodes forest preferred)

-- Classes

section Classes

variable (nodes : List LatestEntry)

/-- The transitive closure of the equivalence of events. -/
def Connected : Fin nodes.length → Fin nodes.length → Prop :=
  Relation.EqvGen (fun left right =>
    eventsAreEquivalent rules nodes[left] nodes[right] family = true)

/-- The title of a class comes from its first preferred candidate, or from its first one. -/
def IsMetadata (candidateCount : Nat) (preferred : Fin nodes.length → Bool)
    (first metadata : Fin nodes.length)
    : Prop :=
  let Prefers (index : Fin nodes.length) : Prop :=
    index.val < candidateCount ∧ Connected rules family nodes first index
    ∧ preferred index = true
  (Prefers metadata ∧ ∀ index, Prefers index → metadata ≤ index)
  ∨ (metadata = first ∧ ∀ index, ¬ Prefers index)

/-- The event of a class is that of its best-ranked member, the first one among equals. -/
def IsBestEvent (first event : Fin nodes.length) : Prop :=
  Connected rules family nodes first event
  ∧ ∀ member,
      Connected rules family nodes first member
      → nodes[event].preference rules ≤ nodes[member].preference rules
        ∧ (nodes[member].preference rules = nodes[event].preference rules → event ≤ member)

def IsFirst (candidateCount : Nat) (first : Fin nodes.length) : Prop :=
  first.val < candidateCount ∧ ∀ index < first, ¬ Connected rules family nodes index first

def IsClassEntry (candidateCount : Nat) (preferred : Fin nodes.length → Bool)
    (first : Fin nodes.length) (entry : LatestEntry)
    : Prop :=
  ∃ metadata event,
    IsMetadata rules family nodes candidateCount preferred first metadata
    ∧ IsBestEvent rules family nodes first event
    ∧ entry = nodes[metadata].withEventEnvelope nodes[event]

variable {rules family nodes}

theorem mem_equivalentPairs {left right : Fin nodes.length}
    : (left, right) ∈ equivalentPairs rules family nodes
      ↔ left < right ∧ eventsAreEquivalent rules nodes[left] nodes[right] family = true := by
  unfold equivalentPairs
  simp only [List.mem_filter, List.mem_flatMap, List.mem_map, List.mem_finRange, true_and,
    decide_eq_true_eq, Prod.mk.injEq, exists_eq_right_right]
  refine and_congr_left (fun _ => ?_)
  constructor
  · rintro ⟨first, below, rfl⟩
    exact below
  · exact fun below => ⟨left, below, rfl⟩

theorem root_eq_iff_connected {left right : Fin nodes.length}
    : (equivalenceForest rules family nodes).root left
        = (equivalenceForest rules family nodes).root right
      ↔ Connected rules family nodes left right := by
  unfold equivalenceForest Connected
  rw [Forest.root_unionAll_eq_iff]
  constructor
  · refine Relation.EqvGen.mono ?_ _ _
    exact fun _ _ member => (mem_equivalentPairs.mp member).2
  · intro connected
    induction connected with
    | rel left right equivalent =>
        rcases lt_trichotomy left right with below | same | above
        · exact .rel _ _ (mem_equivalentPairs.mpr ⟨below, equivalent⟩)
        · exact same ▸ .refl left
        · refine .symm _ _ (.rel _ _ (mem_equivalentPairs.mpr ⟨above, ?_⟩))
          exact eventsAreEquivalent_symm equivalent
    | refl node => exact .refl node
    | symm _ _ _ ih => exact ih.symm
    | trans _ _ _ _ _ ih later => exact ih.trans _ _ _ later

/-- Two nodes of a class have one event key. -/
theorem Connected.sameKey {left right : Fin nodes.length}
    (connected : Connected rules family nodes left right)
    : left = right
      ∨ ∃ key,
          nodes[left].publicationEventKey rules family = some key
          ∧ nodes[right].publicationEventKey rules family = some key := by
  induction connected with
  | rel left right equivalent =>
      obtain ⟨key, leftKey, rightKey, -⟩ := eventsAreEquivalent_iff.mp equivalent
      exact .inr ⟨key, leftKey, rightKey⟩
  | refl node => exact .inl rfl
  | symm _ _ _ ih =>
      rcases ih with same | ⟨key, leftKey, rightKey⟩
      · exact .inl same.symm
      · exact .inr ⟨key, rightKey, leftKey⟩
  | trans _ _ _ _ _ ih later =>
      rcases ih with rfl | ⟨key, leftKey, middleKey⟩
      · exact later
      · rcases later with rfl | ⟨other, otherKey, rightKey⟩
        · exact .inr ⟨key, leftKey, middleKey⟩
        · cases middleKey.symm.trans otherKey
          exact .inr ⟨key, leftKey, rightKey⟩

/-- Folding keeps the first entry of the least preference, by induction on the rest. -/
theorem foldl_preferredEvent (first : Fin nodes.length) (rest : List (Fin nodes.length))
    (sorted : (first :: rest).Pairwise (· < ·))
    : ∃ best ∈ first :: rest,
        (rest.map (fun index => nodes[index])).foldl (preferredEvent rules) nodes[first]
          = nodes[best]
        ∧ ∀ member ∈ first :: rest,
            nodes[best].preference rules ≤ nodes[member].preference rules
            ∧ (nodes[member].preference rules = nodes[best].preference rules
              → best ≤ member) := by
  induction rest generalizing first with
  | nil =>
      refine ⟨first, List.mem_cons_self, rfl, fun member listed => ?_⟩
      cases List.mem_singleton.mp listed
      exact ⟨le_rfl, fun _ => le_rfl⟩
  | cons next rest ih =>
      obtain ⟨below, later⟩ := List.pairwise_cons.mp sorted
      obtain ⟨nextBelow, restSorted⟩ := List.pairwise_cons.mp later
      rw [List.map_cons, List.foldl_cons]
      unfold preferredEvent
      split
      · next prefers =>
          -- the first entry stays ahead of the next one
          have skipped : (first :: rest).Pairwise (· < ·) :=
            List.pairwise_cons.mpr
              ⟨fun member listed => below member (List.mem_cons_of_mem _ listed), restSorted⟩
          obtain ⟨best, listed, folded, least⟩ := ih first skipped
          obtain ⟨leastFirst, tieFirst⟩ := least first List.mem_cons_self
          refine ⟨best, ?_, folded, fun member present => ?_⟩
          · rcases List.mem_cons.mp listed with same | inRest
            · exact same ▸ List.mem_cons_self
            · exact List.mem_cons_of_mem _ (List.mem_cons_of_mem _ inRest)
          · rcases List.mem_cons.mp present with same | present
            · exact same ▸ least first List.mem_cons_self
            · rcases List.mem_cons.mp present with same | inRest
              · subst same
                refine ⟨leastFirst.trans prefers, fun tie => ?_⟩
                have equal := le_antisymm leastFirst (tie ▸ prefers)
                exact (tieFirst equal.symm).trans (below member List.mem_cons_self).le
              · exact least member (List.mem_cons_of_mem _ inRest)
      · next prefers =>
          obtain ⟨best, listed, folded, least⟩ := ih next later
          refine ⟨best, List.mem_cons_of_mem _ listed, folded, fun member present => ?_⟩
          rcases List.mem_cons.mp present with same | present
          · subst same
            have ahead :=
              (least next List.mem_cons_self).1.trans_lt (lt_of_not_ge prefers)
            exact ⟨ahead.le, fun tie => absurd tie ahead.ne'⟩
          · exact least member present

/-- The members under the root of a node are its class, and the fold picks the best event. -/
theorem componentEvent_spec (first : Fin nodes.length)
    : ∃ event,
        componentEvent rules nodes (equivalenceForest rules family nodes)
            ((equivalenceForest rules family nodes).root first)
          = some nodes[event]
        ∧ IsBestEvent rules family nodes first event := by
  let forest := equivalenceForest rules family nodes
  have members (index : Fin nodes.length)
      : index ∈ (List.finRange nodes.length).filter (forest.root · = forest.root first)
        ↔ Connected rules family nodes first index := by
    rw [List.mem_filter, decide_eq_true_eq, eq_comm, root_eq_iff_connected]
    exact and_iff_right (List.mem_finRange index)
  have sorted
      : ((List.finRange nodes.length).filter
          (forest.root · = forest.root first)).Pairwise (· < ·) :=
    (List.pairwise_lt_finRange _).filter _
  unfold componentEvent
  cases listed
      : (List.finRange nodes.length).filter (forest.root · = forest.root first) with
  | nil =>
      have self := (members first).mpr (.refl first)
      rw [listed] at self
      cases self
  | cons head rest =>
      rw [listed] at sorted
      obtain ⟨best, member, folded, least⟩ := foldl_preferredEvent head rest sorted
      rw [← listed] at member least
      refine ⟨best, congrArg some folded, (members best).mp member, fun other connected => ?_⟩
      exact least other ((members other).mpr connected)

theorem componentEntry_spec {candidateCount : Nat} {preferred : Fin nodes.length → Bool}
    {candidate : Fin nodes.length} (inRange : candidate.val < candidateCount)
    : ∃ first entry,
        (((List.finRange nodes.length).filter (·.val < candidateCount)).filter
            ((equivalenceForest rules family nodes).root ·
              = (equivalenceForest rules family nodes).root candidate)).head?
          = some first
        ∧ componentEntry rules nodes (equivalenceForest rules family nodes) preferred
            (((List.finRange nodes.length).filter (·.val < candidateCount)).filter
              ((equivalenceForest rules family nodes).root ·
                = (equivalenceForest rules family nodes).root candidate))
          = some entry
        ∧ Connected rules family nodes first candidate
        ∧ IsFirst rules family nodes candidateCount first
        ∧ IsClassEntry rules family nodes candidateCount preferred first entry := by
  let forest := equivalenceForest rules family nodes
  have members (index : Fin nodes.length)
      : index
          ∈ ((List.finRange nodes.length).filter (·.val < candidateCount)).filter
              (forest.root · = forest.root candidate)
        ↔ index.val < candidateCount ∧ Connected rules family nodes index candidate := by
    rw [List.mem_filter, List.mem_filter, decide_eq_true_eq, decide_eq_true_eq,
      root_eq_iff_connected]
    exact and_congr_left (fun _ => and_iff_right (List.mem_finRange index))
  have sorted
      : (((List.finRange nodes.length).filter (·.val < candidateCount)).filter
          (forest.root · = forest.root candidate)).Pairwise (· < ·) :=
    ((List.pairwise_lt_finRange _).filter _).filter _
  cases listed
      : ((List.finRange nodes.length).filter (·.val < candidateCount)).filter
          (forest.root · = forest.root candidate) with
  | nil =>
      have self := (members candidate).mpr ⟨inRange, .refl candidate⟩
      rw [listed] at self
      cases self
  | cons first rest =>
      have head : first ∈ first :: rest := List.mem_cons_self
      rw [← listed, members] at head
      obtain ⟨firstInRange, connected⟩ := head
      rw [listed] at sorted
      have firstBelow (index : Fin nodes.length) (indexInRange : index.val < candidateCount)
          (indexConnected : Connected rules family nodes index candidate)
          : first ≤ index := by
        have member := (members index).mpr ⟨indexInRange, indexConnected⟩
        rw [listed] at member
        rcases List.mem_cons.mp member with same | inRest
        · exact same.ge
        · exact ((List.pairwise_cons.mp sorted).1 index inRest).le
      have isFirst : IsFirst rules family nodes candidateCount first := by
        refine ⟨firstInRange, fun index below indexConnected => ?_⟩
        have indexInRange : index.val < candidateCount :=
          (Fin.lt_def.mp below).trans firstInRange
        exact absurd (firstBelow index indexInRange (indexConnected.trans _ _ _ connected))
          (not_le_of_gt below)
      obtain ⟨event, found, best⟩ :=
        (componentEvent_spec first
          : ∃ event,
              componentEvent rules nodes forest (forest.root first) = some nodes[event]
              ∧ IsBestEvent rules family nodes first event)
      refine ⟨first, nodes[((first :: rest).find? preferred).getD first].withEventEnvelope
        nodes[event], rfl, ?_, connected, isFirst, _, event, ?_, best, rfl⟩
      · unfold componentEntry
        dsimp only
        rw [found]
        rfl
      · have listedPreferred {index : Fin nodes.length}
            (prefers
              : index.val < candidateCount ∧ Connected rules family nodes first index
                ∧ preferred index = true)
            : index ∈ first :: rest := by
          rw [← listed, members]
          exact ⟨prefers.1, (prefers.2.1.symm).trans _ _ _ connected⟩
        cases marked : (first :: rest).find? preferred with
        | none =>
            refine .inr ⟨rfl, fun index prefers => ?_⟩
            have unmarked := List.find?_eq_none.mp marked index (listedPreferred prefers)
            exact unmarked prefers.2.2
        | some metadata =>
            have member := List.mem_of_find?_eq_some marked
            rw [← listed, members] at member
            refine .inl ⟨⟨member.1, connected.trans _ _ _ member.2.symm, List.find?_some marked⟩,
              fun index prefers => ?_⟩
            obtain ⟨-, before, after, split, unmarked⟩ :=
              List.find?_eq_some_iff_append.mp marked
            have present := listedPreferred prefers
            rw [split] at present sorted
            rcases List.mem_append.mp present with early | late
            · exact absurd prefers.2.2 (by simpa using unmarked index early)
            · rcases List.mem_cons.mp late with same | later
              · exact same.ge
              · have tail := (List.pairwise_append.mp sorted).2.1
                exact ((List.pairwise_cons.mp tail).1 index later).le

end Classes

-- The list of classes

section Output

/-- The output has one entry for each class of candidates, in the order of their first
members.
-/
theorem deduplicate_classes (candidates : List (LatestEntry × Bool))
    (bridges : List LatestEntry)
    : ∃ representatives : List (Fin (candidates.map Prod.fst ++ bridges).length),
        representatives.Pairwise (· < ·)
        ∧ (∀ index,
            index ∈ representatives
            ↔ IsFirst rules family (candidates.map Prod.fst ++ bridges) candidates.length
                index)
        ∧ List.Forall₂
            (IsClassEntry rules family (candidates.map Prod.fst ++ bridges)
              candidates.length (fun index => candidates[index.val]?.any Prod.snd))
            representatives
            (deduplicatePublicationEvents rules family candidates bridges) := by
  let nodes := candidates.map Prod.fst ++ bridges
  let forest := equivalenceForest rules family nodes
  let indices := (List.finRange nodes.length).filter (·.val < candidates.length)
  let before (left right : List (Fin nodes.length)) : Prop := firstIndex left ≤ firstIndex right
  let groups := (groupBy forest.root indices).values.insertionSort before
  have spec {group : List (Fin nodes.length)} (listed : group ∈ groups)
      : ∃ candidate : Fin nodes.length,
          candidate.val < candidates.length
          ∧ group = indices.filter (forest.root · = forest.root candidate) := by
    obtain ⟨candidate, member, same⟩ :=
      mem_values_groupBy.mp ((List.mem_insertionSort _).mp listed)
    rw [List.mem_filter, decide_eq_true_eq] at member
    exact ⟨candidate, member.2, same⟩
  have listed {candidate : Fin nodes.length} (inRange : candidate.val < candidates.length)
      : indices.filter (forest.root · = forest.root candidate) ∈ groups := by
    refine (List.mem_insertionSort _).mpr (mem_values_groupBy.mpr ⟨candidate, ?_, rfl⟩)
    rw [List.mem_filter, decide_eq_true_eq]
    exact ⟨List.mem_finRange candidate, inRange⟩
  have entries (candidate : Fin nodes.length) (inRange : candidate.val < candidates.length) :=
    (componentEntry_spec inRange
      : ∃ first entry,
          (indices.filter (forest.root · = forest.root candidate)).head? = some first
          ∧ componentEntry rules nodes forest (fun index => candidates[index.val]?.any Prod.snd)
              (indices.filter (forest.root · = forest.root candidate))
            = some entry
          ∧ Connected rules family nodes first candidate
          ∧ IsFirst rules family nodes candidates.length first
          ∧ IsClassEntry rules family nodes candidates.length
              (fun index => candidates[index.val]?.any Prod.snd) first entry)
  have total : Std.Total before := ⟨fun left right => le_total _ _⟩
  have transitive : IsTrans (List (Fin nodes.length)) before :=
    ⟨fun _ _ _ first second => le_trans first second⟩
  have sorted : groups.Pairwise before := List.pairwise_insertionSort before _
  have distinct : groups.Pairwise (· ≠ ·) :=
    (List.perm_insertionSort before _).nodup_iff.mpr (groupBy_values_nodup forest.root indices)
  refine ⟨groups.filterMap List.head?, ?_, fun index => ?_, ?_⟩
  · rw [List.pairwise_filterMap]
    refine List.Pairwise.imp_of_mem ?_ (sorted.and distinct)
    rintro left right leftListed rightListed ⟨ordered, differ⟩ first firstHead second secondHead
    have below : first ≤ second := by
      have values : firstIndex left ≤ firstIndex right := ordered
      unfold firstIndex at values
      rw [firstHead, secondHead] at values
      exact values
    refine lt_of_le_of_ne below (fun same => differ ?_)
    -- groups with one first member are one group
    subst same
    have rooted {group : List (Fin nodes.length)} (listed : group ∈ groups)
        (head : group.head? = some first)
        : group = indices.filter (forest.root · = forest.root first) := by
      obtain ⟨candidate, inRange, rfl⟩ := spec listed
      obtain ⟨found, -, foundHead, -, connected, -⟩ := entries candidate inRange
      cases foundHead.symm.trans head
      rw [root_eq_iff_connected.mpr connected]
    rw [rooted leftListed firstHead, rooted rightListed secondHead]
  · rw [List.mem_filterMap]
    constructor
    · rintro ⟨group, listed, head⟩
      obtain ⟨candidate, inRange, rfl⟩ := spec listed
      obtain ⟨found, -, foundHead, -, -, isFirst, -⟩ := entries candidate inRange
      cases foundHead.symm.trans head
      exact isFirst
    · intro isFirst
      obtain ⟨found, -, foundHead, -, connected, foundFirst, -⟩ := entries index isFirst.1
      refine ⟨_, listed isFirst.1, foundHead.trans ?_⟩
      -- both are the first member of one class
      rcases lt_trichotomy found index with below | same | above
      · exact absurd connected (isFirst.2 found below)
      · exact congrArg some same
      · exact absurd connected.symm (foundFirst.2 index above)
  · apply forall₂_filterMap
    intro group listed
    obtain ⟨candidate, inRange, rfl⟩ := spec listed
    obtain ⟨first, entry, head, found, -, -, isEntry⟩ := entries candidate inRange
    exact ⟨first, entry, head, found, isEntry⟩

variable {rules family}

section ClassEntry

variable {nodes : List LatestEntry} {candidateCount : Nat}
  {preferred : Fin nodes.length → Bool} {first other : Fin nodes.length}
  {entry otherEntry : LatestEntry}

/-- The entry of a class has the event key and the aliases of a member. -/
theorem IsClassEntry.member
    (isEntry : IsClassEntry rules family nodes candidateCount preferred first entry)
    : ∃ member,
        Connected rules family nodes first member
        ∧ nodes[member].publicationEventKey rules family
          = entry.publicationEventKey rules family
        ∧ nodes[member].publicationLogicalAliases rules family
          = entry.publicationLogicalAliases rules family := by
  obtain ⟨metadata, event, isMetadata, ⟨eventConnected, -⟩, rfl⟩ := isEntry
  have connected : Connected rules family nodes first metadata := by
    rcases isMetadata with ⟨⟨-, connected, -⟩, -⟩ | ⟨rfl, -⟩
    · exact connected
    · exact .refl metadata
  refine ⟨metadata, connected, ?_, rfl⟩
  have joined : Connected rules family nodes metadata event :=
    connected.symm.trans _ _ _ eventConnected
  rcases joined.sameKey with rfl | ⟨key, metadataKey, eventKey⟩
  · rw [withEventEnvelope_self]
  · rw [metadataKey, withEventEnvelope_key metadataKey eventKey]

theorem IsClassEntry.not_equivalent
    (isEntry : IsClassEntry rules family nodes candidateCount preferred first entry)
    (isOther : IsClassEntry rules family nodes candidateCount preferred other otherEntry)
    (isFirst : IsFirst rules family nodes candidateCount other) (below : first < other)
    : eventsAreEquivalent rules entry otherEntry family = false := by
  rw [← Bool.not_eq_true]
  intro equivalent
  obtain ⟨member, connected, key, aliases⟩ := isEntry.member
  obtain ⟨otherMember, otherConnected, otherKey, otherAliases⟩ := isOther.member
  have joined : Connected rules family nodes member otherMember :=
    .rel _ _ (eventsAreEquivalent_of_same equivalent key aliases otherKey otherAliases)
  exact isFirst.2 first below
    (connected.trans _ _ _ (joined.trans _ _ _ otherConnected.symm))

end ClassEntry

theorem deduplicate_distinct (candidates : List (LatestEntry × Bool))
    (bridges : List LatestEntry)
    : (deduplicatePublicationEvents rules family candidates bridges).Pairwise
        (fun left right => eventsAreEquivalent rules left right family = false) := by
  obtain ⟨representatives, sorted, firsts, entries⟩ :=
    deduplicate_classes rules family candidates bridges
  have isFirst := fun index member => (firsts index).mp member
  clear firsts
  generalize deduplicatePublicationEvents rules family candidates bridges = output at entries ⊢
  -- both lists are taken apart together
  induction entries with
  | nil => exact .nil
  | @cons first entry rest output isEntry others ih =>
      obtain ⟨below, restSorted⟩ := List.pairwise_cons.mp sorted
      refine List.pairwise_cons.mpr ⟨fun other member => ?_, ?_⟩
      · obtain ⟨index, inRest, isOther⟩ := exists_of_mem_right others member
        exact isEntry.not_equivalent isOther
          (isFirst index (List.mem_cons_of_mem _ inRest)) (below index inRest)
      · exact ih restSorted (fun index inRest => isFirst index (List.mem_cons_of_mem _ inRest))

theorem connected_iff_of_distinct {nodes : List LatestEntry}
    (distinct
      : nodes.Pairwise (fun left right =>
          eventsAreEquivalent rules left right family = false))
    {left right : Fin nodes.length}
    : Connected rules family nodes left right ↔ left = right := by
  have apart {first second : Fin nodes.length} (below : first < second)
      : eventsAreEquivalent rules nodes[first] nodes[second] family = false :=
    List.pairwise_iff_getElem.mp distinct first second first.isLt second.isLt below
  constructor
  · intro connected
    induction connected with
    | rel first second equivalent =>
        rcases lt_trichotomy first second with below | same | above
        · cases (apart below).symm.trans equivalent
        · exact same
        · cases (apart above).symm.trans (eventsAreEquivalent_symm equivalent)
    | refl => rfl
    | symm _ _ _ ih => exact ih.symm
    | trans _ _ _ _ _ ih later => exact ih.trans later
  · rintro rfl
    exact .refl left

theorem IsClassEntry.eq_of_distinct {nodes : List LatestEntry} {candidateCount : Nat}
    {preferred : Fin nodes.length → Bool} {first : Fin nodes.length} {entry : LatestEntry}
    (distinct
      : nodes.Pairwise (fun left right =>
          eventsAreEquivalent rules left right family = false))
    (isEntry : IsClassEntry rules family nodes candidateCount preferred first entry)
    : nodes.get first = entry := by
  obtain ⟨metadata, event, isMetadata, ⟨eventConnected, -⟩, rfl⟩ := isEntry
  cases (connected_iff_of_distinct distinct).mp eventConnected
  rcases isMetadata with ⟨⟨-, connected, -⟩, -⟩ | ⟨rfl, -⟩
  · cases (connected_iff_of_distinct distinct).mp connected
    exact (withEventEnvelope_self _).symm
  · exact (withEventEnvelope_self _).symm

theorem deduplicate_of_distinct {candidates : List (LatestEntry × Bool)}
    (distinct
      : (candidates.map Prod.fst).Pairwise (fun left right =>
          eventsAreEquivalent rules left right family = false))
    : deduplicatePublicationEvents rules family candidates [] = candidates.map Prod.fst := by
  obtain ⟨representatives, sorted, firsts, entries⟩ :=
    deduplicate_classes rules family candidates []
  have noBridges : candidates.map Prod.fst ++ [] = candidates.map Prod.fst :=
    List.append_nil _
  rw [← noBridges] at distinct
  have all : representatives = List.finRange (candidates.map Prod.fst ++ []).length := by
    apply List.Perm.eq_of_pairwise (fun _ _ _ _ first second => absurd second first.asymm)
      sorted (List.pairwise_lt_finRange _)
    rw [List.perm_ext_iff_of_nodup (sorted.imp ne_of_lt) (List.nodup_finRange _)]
    intro index
    refine ⟨fun _ => List.mem_finRange index, fun _ => (firsts index).mpr ⟨?_, ?_⟩⟩
    · have bound := index.isLt
      simpa using bound
    · intro other below connected
      exact absurd ((connected_iff_of_distinct distinct).mp connected) below.ne
  subst all
  have same
      : List.Forall₂ (fun index entry => (candidates.map Prod.fst ++ []).get index = entry)
          (List.finRange (candidates.map Prod.fst ++ []).length)
          (deduplicatePublicationEvents rules family candidates []) :=
    entries.imp (fun _ _ isEntry => isEntry.eq_of_distinct distinct)
  rw [← List.forall₂_map_left_iff, List.forall₂_eq_eq_eq, List.map_get_finRange] at same
  exact same.symm.trans noBridges

/-- Deduplication gives one entry for each class of candidates under the transitive closure
of equivalence over candidates and bridges, in the order of first occurrence. No two of its
entries are equivalent, and it leaves its own output as it is.
-/
theorem deduplicate_transitiveClosure (rules : TextRules) (family : String)
    (candidates : List (LatestEntry × Bool)) (bridges : List LatestEntry)
    : (∃ representatives : List (Fin (candidates.map Prod.fst ++ bridges).length),
        representatives.Pairwise (· < ·)
        ∧ (∀ index,
            index ∈ representatives
            ↔ IsFirst rules family (candidates.map Prod.fst ++ bridges) candidates.length
                index)
        ∧ List.Forall₂
            (IsClassEntry rules family (candidates.map Prod.fst ++ bridges)
              candidates.length (fun index => candidates[index.val]?.any Prod.snd))
            representatives
            (deduplicatePublicationEvents rules family candidates bridges))
      ∧ (deduplicatePublicationEvents rules family candidates bridges).Pairwise
          (fun left right => eventsAreEquivalent rules left right family = false)
      ∧ ∀ marks : Nat → Bool,
          deduplicatePublicationEvents rules family
              ((deduplicatePublicationEvents rules family candidates bridges).mapIdx
                (fun index entry => (entry, marks index)))
              []
            = deduplicatePublicationEvents rules family candidates bridges := by
  have distinct
      : (deduplicatePublicationEvents rules family candidates bridges).Pairwise
          (fun left right => eventsAreEquivalent rules left right family = false) :=
    deduplicate_distinct candidates bridges
  refine ⟨deduplicate_classes rules family candidates bridges, distinct, fun marks => ?_⟩
  generalize deduplicatePublicationEvents rules family candidates bridges = output at distinct ⊢
  have entries
      : (output.mapIdx (fun index entry => (entry, marks index))).map Prod.fst = output := by
    rw [List.mapIdx_eq_zipIdx_map, List.map_map]
    exact List.zipIdx_map_fst 0 output
  rw [← entries] at distinct
  exact (deduplicate_of_distinct distinct).trans entries

end Output

end OctoHubs.Latest
