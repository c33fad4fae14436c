import Mathlib.Data.Fintype.Card
import Mathlib.Data.Finset.Filter
import Mathlib.Logic.Relation

/-! Union-find with path halving over a finite type of nodes.
A forest is acyclic by construction, so the search for a root ends within one step for each
node. The roots of a forest built by unions are the classes of the equivalence that the
united pairs generate.
-/

namespace OctoHubs.Library

variable {α : Type*}

/-- Parent pointers along which some rank goes down until a root points to itself. -/
structure Forest (α : Type*) where
  parents : α → α
  ranked : ∃ rank : α → Nat, ∀ node, parents node ≠ node → rank (parents node) < rank node

namespace Forest

/-- The node at the end of the pointers from a node. -/
inductive RootOf (parents : α → α) : α → α → Prop
  | root {node : α} (fixed : parents node = node) : RootOf parents node node
  | step {node root : α} (rest : RootOf parents (parents node) root) : RootOf parents node root

section RootOf

variable {parents : α → α} {node root other : α}

theorem RootOf.fixed (known : RootOf parents node root) : parents root = root := by
  induction known with
  | root fixed => exact fixed
  | step _ ih => exact ih

theorem RootOf.parent (known : RootOf parents node root)
    : RootOf parents (parents node) root := by
  cases known with
  | root fixed =>
      rw [fixed]
      exact .root fixed
  | step rest => exact rest

theorem RootOf.eq_of_fixed (known : RootOf parents node root) (fixed : parents node = node)
    : root = node := by
  induction known with
  | root => rfl
  | step _ ih =>
      rw [fixed] at ih
      exact ih fixed

theorem RootOf.unique (first : RootOf parents node root) (second : RootOf parents node other)
    : root = other := by
  induction first with
  | root fixed => exact (second.eq_of_fixed fixed).symm
  | step _ ih => exact ih second.parent

end RootOf

variable (forest : Forest α)

/-- Every node is its own root. -/
def discrete : Forest α := ⟨id, fun _ => 0, fun _ moved => absurd rfl moved⟩

variable [DecidableEq α]

theorem descends_grandparent {rank : α → Nat}
    (descends
      : ∀ node, forest.parents node ≠ node → rank (forest.parents node) < rank node)
    {node : α} (moved : forest.parents node ≠ node)
    : rank (forest.parents (forest.parents node)) < rank node := by
  have parent := descends node moved
  by_cases fixed : forest.parents (forest.parents node) = forest.parents node
  · rw [fixed]
    exact parent
  · exact (descends _ fixed).trans parent

/-- Point a node to its grandparent. -/
def halve (node : α) : Forest α where
  parents := Function.update forest.parents node (forest.parents (forest.parents node))
  ranked := by
    obtain ⟨rank, descends⟩ := forest.ranked
    refine ⟨rank, fun other moved => ?_⟩
    rw [Function.update_apply] at moved ⊢
    split
    · next same =>
        subst same
        rw [if_pos rfl] at moved
        by_cases fixed : forest.parents other = other
        · exact absurd ((congrArg forest.parents fixed).trans fixed) moved
        · exact forest.descends_grandparent descends fixed
    · next differs =>
        rw [if_neg differs] at moved
        exact descends other moved

theorem halve_parents (node : α)
    : (forest.halve node).parents node = forest.parents (forest.parents node) :=
  Function.update_self ..

/-- Halving keeps every root, by induction on the pointers on either side. -/
theorem rootOf_halve (halved : α) {node root : α}
    : RootOf (forest.halve halved).parents node root ↔ RootOf forest.parents node root := by
  have kept {other : α} (differs : other ≠ halved)
      : (forest.halve halved).parents other = forest.parents other :=
    Function.update_of_ne differs _ _
  constructor
  · intro known
    induction known with
    | @root node fixed =>
        by_cases same : node = halved
        · subst same
          rw [halve_parents] at fixed
          -- a node that is its own grandparent cannot descend, so it is a root
          by_cases moved : forest.parents node = node
          · exact .root moved
          · obtain ⟨rank, descends⟩ := forest.ranked
            have below := forest.descends_grandparent descends moved
            rw [fixed] at below
            exact absurd below (lt_irrefl _)
        · exact .root ((kept same).symm.trans fixed)
    | @step node root _ ih =>
        by_cases same : node = halved
        · subst same
          rw [halve_parents] at ih
          exact .step (.step ih)
        · rw [kept same] at ih
          exact .step ih
  · intro known
    induction known with
    | @root node fixed =>
        refine .root ?_
        by_cases same : node = halved
        · subst same
          rw [halve_parents, fixed, fixed]
        · exact (kept same).trans fixed
    | @step node root _ ih =>
        refine .step ?_
        by_cases same : node = halved
        · subst same
          rw [halve_parents]
          by_cases moved : forest.parents node = node
          · rw [moved] at ih ⊢
            rw [moved]
            exact ih
          · rw [← kept moved]
            exact ih.parent
        · rw [kept same]
          exact ih

/-- Climb from a node to its root, halving the path. -/
def climb (forest : Forest α) : Nat → α → Forest α × α
  | 0, node => (forest, node)
  | fuel + 1, node =>
      if forest.parents node = node then (forest, node)
      else climb (forest.halve node) fuel ((forest.halve node).parents node)

variable [Fintype α]

/-- Enough fuel for the nodes of smaller rank reaches the root and keeps all others, by
induction on the fuel.
-/
theorem climb_spec (forest : Forest α) (fuel : Nat) (node : α) (rank : α → Nat)
    (descends
      : ∀ node, forest.parents node ≠ node → rank (forest.parents node) < rank node)
    (enough : (Finset.univ.filter (fun other => rank other < rank node)).card ≤ fuel)
    : RootOf forest.parents node (climb forest fuel node).2
      ∧ ∀ other root,
          RootOf (climb forest fuel node).1.parents other root
          ↔ RootOf forest.parents other root := by
  induction fuel generalizing forest node with
  | zero =>
      -- nothing ranks below the node, so it is a root
      refine ⟨.root ?_, fun _ _ => Iff.rfl⟩
      by_contra moved
      have none := Finset.card_eq_zero.mp (Nat.le_zero.mp enough)
      have below
          : forest.parents node
            ∈ Finset.univ.filter (fun other => rank other < rank node) :=
        Finset.mem_filter.mpr ⟨Finset.mem_univ _, descends node moved⟩
      rw [none] at below
      exact absurd below (Finset.notMem_empty _)
  | succ fuel ih =>
      unfold climb
      split
      · next fixed => exact ⟨.root fixed, fun _ _ => Iff.rfl⟩
      · next moved =>
          have lower := forest.descends_grandparent descends moved
          have halvedDescends (other : α)
              (changes : (forest.halve node).parents other ≠ other)
              : rank ((forest.halve node).parents other) < rank other := by
            by_cases same : other = node
            · subst same
              rw [halve_parents]
              exact lower
            · have kept : (forest.halve node).parents other = forest.parents other :=
                Function.update_of_ne same _ _
              rw [kept] at changes ⊢
              exact descends other changes
          have fewer
              : (Finset.univ.filter (fun other =>
                  rank other < rank ((forest.halve node).parents node))).card
                < (Finset.univ.filter (fun other => rank other < rank node)).card := by
            apply Finset.card_lt_card
            rw [halve_parents, Finset.ssubset_iff_of_subset]
            · refine ⟨forest.parents (forest.parents node), ?_, ?_⟩
              · exact Finset.mem_filter.mpr ⟨Finset.mem_univ _, lower⟩
              · exact fun member => lt_irrefl _ (Finset.mem_filter.mp member).2
            · intro other member
              have below := (Finset.mem_filter.mp member).2
              exact Finset.mem_filter.mpr ⟨Finset.mem_univ _, below.trans lower⟩
          obtain ⟨found, roots⟩ :=
            ih (forest.halve node) ((forest.halve node).parents node) halvedDescends (by omega)
          refine ⟨?_, fun other root => (roots other root).trans (forest.rootOf_halve node)⟩
          exact (forest.rootOf_halve node).mp (.step found)

/-- The root of a node, with the path to it halved. -/
def find (forest : Forest α) (node : α) : Forest α × α :=
  climb forest (Fintype.card α) node

theorem find_spec (node : α)
    : RootOf forest.parents node (forest.find node).2
      ∧ ∀ other root,
          RootOf (forest.find node).1.parents other root
          ↔ RootOf forest.parents other root := by
  obtain ⟨rank, descends⟩ := forest.ranked
  exact climb_spec forest _ node rank descends (Finset.card_le_univ _)

def root (node : α) : α := (forest.find node).2

theorem root_find (searched node : α)
    : (forest.find searched).1.root node = forest.root node := by
  have known := ((forest.find searched).1.find_spec node).1
  rw [(forest.find_spec searched).2] at known
  exact known.unique (forest.find_spec node).1

/-- Point one root to another one. -/
def link (forest : Forest α) {above below : α} (aboveRoot : forest.parents above = above)
    (belowRoot : forest.parents below = below) (differ : above ≠ below)
    : Forest α where
  parents := Function.update forest.parents below above
  ranked := by
    classical
    obtain ⟨rank, descends⟩ := forest.ranked
    -- everything under the linked root moves up by the rank of the other one
    refine ⟨fun node =>
      if RootOf forest.parents node below then rank node + rank above + 1 else rank node,
      fun node moved => ?_⟩
    have aboveApart : ¬ RootOf forest.parents above below :=
      fun known => differ (known.eq_of_fixed aboveRoot).symm
    rw [Function.update_apply] at moved ⊢
    dsimp only
    split at moved
    · next same =>
        subst same
        rw [if_pos rfl, if_neg aboveApart, if_pos (.root belowRoot)]
        omega
    · next differs =>
        have lower := descends node moved
        rw [if_neg differs]
        by_cases under : RootOf forest.parents node below
        · rw [if_pos under, if_pos under.parent]
          omega
        · rw [if_neg under, if_neg (fun known => under (.step known))]
          exact lower

omit [Fintype α] in
/-- Linking moves the nodes under one root to the other one, by induction on the pointers. -/
theorem rootOf_link {above below : α} (aboveRoot : forest.parents above = above)
    (belowRoot : forest.parents below = below) (differ : above ≠ below) {node root : α}
    (known : RootOf forest.parents node root)
    : (root = below → RootOf (forest.link aboveRoot belowRoot differ).parents node above)
      ∧ (root ≠ below
        → RootOf (forest.link aboveRoot belowRoot differ).parents node root) := by
  have linked : (forest.link aboveRoot belowRoot differ).parents below = above :=
    Function.update_self ..
  have kept {other : α} (differs : other ≠ below)
      : (forest.link aboveRoot belowRoot differ).parents other = forest.parents other :=
    Function.update_of_ne differs _ _
  induction known with
  | @root node fixed =>
      constructor
      · intro same
        subst same
        refine .step ?_
        rw [linked]
        exact .root ((kept differ).trans aboveRoot)
      · intro differs
        exact .root ((kept differs).trans fixed)
  | @step node root rest ih =>
      by_cases same : node = below
      · -- the linked root has itself as its root
        subst same
        rw [belowRoot] at ih
        exact ih
      · constructor
        · intro under
          refine .step ?_
          rw [kept same]
          exact ih.1 under
        · intro apart
          refine .step ?_
          rw [kept same]
          exact ih.2 apart

/-- Unite the sets of two nodes under the root of the first one. -/
def union (left right : α) : Forest α :=
  let first := forest.find left
  let second := first.1.find right
  if same : first.2 = second.2 then second.1
  else
    have aboveRoot : second.1.parents first.2 = first.2 := by
      refine RootOf.fixed (?_ : RootOf second.1.parents left first.2)
      rw [(first.1.find_spec right).2, (forest.find_spec left).2]
      exact (forest.find_spec left).1
    have belowRoot : second.1.parents second.2 = second.2 := by
      refine RootOf.fixed (?_ : RootOf second.1.parents right second.2)
      rw [(first.1.find_spec right).2]
      exact (first.1.find_spec right).1
    second.1.link aboveRoot belowRoot same

theorem rootOf_union (left right : α) {node root : α}
    (known : RootOf forest.parents node root)
    : RootOf (forest.union left right).parents node
        (if root = forest.root right then forest.root left else root) := by
  have rightRoot : ((forest.find left).1.find right).2 = forest.root right :=
    forest.root_find left right
  have searched : RootOf ((forest.find left).1.find right).1.parents node root := by
    rw [((forest.find left).1.find_spec right).2, (forest.find_spec left).2]
    exact known
  unfold union
  dsimp only
  split
  · next same =>
      have one : forest.root left = forest.root right := same.trans rightRoot
      split
      · next under =>
          rw [one, ← under]
          exact searched
      · exact searched
  · split
    · next under => exact (rootOf_link _ _ _ _ searched).1 (under.trans rightRoot.symm)
    · next apart =>
        exact (rootOf_link _ _ _ _ searched).2 (fun under => apart (under.trans rightRoot))

theorem root_union (left right node : α)
    : (forest.union left right).root node
      = if forest.root node = forest.root right then forest.root left else forest.root node :=
  RootOf.unique ((forest.union left right).find_spec node).1
    (forest.rootOf_union left right (forest.find_spec node).1)

theorem root_discrete (node : α) : (discrete : Forest α).root node = node :=
  ((discrete : Forest α).find_spec node).1.eq_of_fixed rfl

/-- Unite the pairs in order. -/
def unionAll (pairs : List (α × α)) : Forest α :=
  pairs.foldl (fun forest pair => forest.union pair.1 pair.2) discrete

/-- Two nodes have one root exactly when the united pairs connect them, by induction on the
pairs.
-/
theorem root_unionAll_eq_iff (pairs : List (α × α)) {left right : α}
    : (unionAll pairs).root left = (unionAll pairs).root right
      ↔ Relation.EqvGen (fun left right => (left, right) ∈ pairs) left right := by
  induction pairs using List.reverseRecOn generalizing left right with
  | nil =>
      change (discrete : Forest α).root left = (discrete : Forest α).root right ↔ _
      rw [root_discrete, root_discrete]
      constructor
      · rintro rfl
        exact .refl left
      · intro connected
        induction connected with
        | rel _ _ member => cases member
        | refl => rfl
        | symm _ _ _ ih => exact ih.symm
        | trans _ _ _ _ _ ih later => exact ih.trans later
  | append_singleton pairs last ih =>
      have united
          : unionAll (pairs ++ [last]) = (unionAll pairs).union last.1 last.2 := by
        unfold unionAll
        rw [List.foldl_append]
        rfl
      have earlier {left right : α}
          (same : (unionAll pairs).root left = (unionAll pairs).root right)
          : Relation.EqvGen (fun left right => (left, right) ∈ pairs ++ [last]) left right := by
        refine Relation.EqvGen.mono ?_ _ _ (ih.mp same)
        intro _ _ member
        exact List.mem_append_left _ member
      have joined
          : Relation.EqvGen (fun left right => (left, right) ∈ pairs ++ [last])
              last.1 last.2 :=
        .rel _ _ (List.mem_append_right _ List.mem_cons_self)
      rw [united, root_union, root_union]
      constructor
      · intro same
        split at same
        · next leftUnder =>
            split at same
            · next rightUnder => exact earlier (leftUnder.trans rightUnder.symm)
            · exact .trans _ _ _ (earlier leftUnder)
                (.trans _ _ _ joined.symm (earlier same))
        · split at same
          · next rightUnder =>
              exact .trans _ _ _ (earlier same) (.trans _ _ _ joined (earlier rightUnder.symm))
          · exact earlier same
      · intro connected
        induction connected with
        | rel left right member =>
            rcases List.mem_append.mp member with old | new
            · rw [ih.mpr (.rel _ _ old)]
            · cases List.mem_singleton.mp new
              rw [if_pos rfl]
              split
              · rfl
              · rfl
        | refl => rfl
        | symm _ _ _ ih => exact ih.symm
        | trans _ _ _ _ _ ih later => exact ih.trans later

end Forest

end OctoHubs.Library
