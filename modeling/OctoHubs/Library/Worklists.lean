import Mathlib.Algebra.GroupWithZero.Nat
import Mathlib.Algebra.Order.BigOperators.Group.List
import Mathlib.Algebra.Order.Group.Nat
import Mathlib.Data.List.Perm.Basic

/-! Visiting all nodes of a tree from a list of pending ones, in any order.
A budget limits the visits, and a check of each visited node with its depth may end them early.
-/

namespace OctoHubs.Library

variable {α : Type*}

section Visits

variable (children : α → List α) (check : α → Nat → Prop)

/-- The nodes under a node, with the levels between them. -/
inductive Below : α → Nat → α → Prop
  | self (node : α) : Below node 0 node
  | child {node child target : α} {levels : Nat} (member : child ∈ children node)
    (below : Below child levels target)
    : Below node (levels + 1) target

/-- Visits in some order; they are accepted if nothing is left before the budget is. -/
inductive Visits : (visitsLeft : Nat) → (pending : List (α × Nat)) → (accepted : Bool) → Prop
  | done (visitsLeft : Nat) : Visits visitsLeft [] true
  | exhausted {pending : List (α × Nat)} (some_ : pending ≠ []) : Visits 0 pending false
  | refused {visitsLeft depth : Nat} {pending rest : List (α × Nat)} {node : α}
    (taken : pending.Perm ((node, depth) :: rest)) (fails : ¬ check node depth)
    : Visits (visitsLeft + 1) pending false
  | visit {visitsLeft depth : Nat} {pending rest : List (α × Nat)} {node : α} {accepted : Bool}
    (taken : pending.Perm ((node, depth) :: rest)) (passes : check node depth)
    (later : Visits visitsLeft ((children node).map (·, depth + 1) ++ rest) accepted)
    : Visits (visitsLeft + 1) pending accepted

/-- All nodes under the pending ones pass the check at their depth. -/
def AllPass (pending : List (α × Nat)) : Prop :=
  ∀ entry ∈ pending,
    ∀ levels target,
      Below children entry.1 levels target → check target (entry.2 + levels)

end Visits

variable {children : α → List α} {check : α → Nat → Prop} {node : α} {depth : Nat}
  {pending rest : List (α × Nat)}

theorem allPass_cons_iff
    : AllPass children check ((node, depth) :: rest)
      ↔ check node depth
        ∧ AllPass children check ((children node).map (·, depth + 1) ++ rest) := by
  unfold AllPass
  constructor
  · intro passes
    refine ⟨passes _ List.mem_cons_self 0 node (.self node), fun entry member => ?_⟩
    rcases List.mem_append.mp member with inner | later
    · rcases List.mem_map.mp inner with ⟨child, listed, rfl⟩
      intro levels target below
      have deep := passes _ List.mem_cons_self (levels + 1) target (.child listed below)
      have same : depth + 1 + levels = depth + (levels + 1) := by omega
      rwa [same]
    · exact passes entry (List.mem_cons_of_mem _ later)
  · rintro ⟨own, passes⟩ entry member levels target below
    rcases List.mem_cons.mp member with rfl | later
    · cases below with
      | self => exact own
      | @child _ child _ levels listed below =>
          have deep :=
            passes (child, depth + 1)
              (List.mem_append_left _ (List.mem_map_of_mem listed)) levels target below
          have same : depth + 1 + levels = depth + (levels + 1) := by omega
          rwa [← same]
    · exact passes entry (List.mem_append_right _ later) levels target below

theorem forall_below_iff {holds : Nat → α → Prop}
    : (∀ levels target, Below children node levels target → holds levels target)
      ↔ holds 0 node
        ∧ ∀ child ∈ children node,
            ∀ levels target, Below children child levels target → holds (levels + 1) target := by
  constructor
  · intro all
    exact
      ⟨all 0 node (.self node),
        fun child member levels target below => all (levels + 1) target (.child member below)⟩
  · rintro ⟨own, under⟩ levels target below
    cases below with
    | self => exact own
    | child member below => exact under _ member _ target below

theorem Visits.perm {other : List (α × Nat)} {visitsLeft : Nat} {accepted : Bool}
    (visits : Visits children check visitsLeft pending accepted) (same : pending.Perm other)
    : Visits children check visitsLeft other accepted := by
  cases visits with
  | done =>
      rw [same.nil_eq.symm]
      exact .done visitsLeft
  | exhausted some_ =>
      refine .exhausted (fun none_ => some_ ?_)
      rw [none_] at same
      exact same.eq_nil
  | refused taken fails => exact .refused (same.symm.trans taken) fails
  | visit taken passes later => exact .visit (same.symm.trans taken) passes later

theorem AllPass.perm {other : List (α × Nat)} (same : pending.Perm other)
    : AllPass children check pending ↔ AllPass children check other := by
  unfold AllPass
  simp only [same.mem_iff]

section Sizes

variable {size : α → Nat}

theorem Below.size_le
    (size_eq : ∀ node, size node = 1 + ((children node).map size).sum) {levels : Nat}
    {target : α} (below : Below children node levels target)
    : size target ≤ size node := by
  induction below with
  | self => exact Nat.le_refl _
  | @child node child target levels member below ih =>
      have part : size child ≤ ((children node).map size).sum :=
        List.le_sum_of_mem (List.mem_map_of_mem member)
      have whole := size_eq node
      omega

/-- Whatever the order, the visits are accepted if and only if all nodes pass and the budget
covers them, by induction on the visits.
-/
theorem Visits.accepted_iff
    (size_eq : ∀ node, size node = 1 + ((children node).map size).sum) {visitsLeft : Nat}
    {accepted : Bool} (visits : Visits children check visitsLeft pending accepted)
    : accepted = true
      ↔ AllPass children check pending
        ∧ (pending.map (fun entry => size entry.1)).sum ≤ visitsLeft := by
  induction visits with
  | done visitsLeft => simp [AllPass]
  | @exhausted pending some_ =>
      rcases List.exists_cons_of_ne_nil some_ with ⟨entry, rest, rfl⟩
      have whole := size_eq entry.1
      constructor
      · intro impossible
        cases impossible
      · rintro ⟨-, small⟩
        rw [List.map_cons, List.sum_cons] at small
        omega
  | refused taken fails =>
      constructor
      · intro impossible
        cases impossible
      · rintro ⟨passes, -⟩
        exact absurd (allPass_cons_iff.mp ((AllPass.perm taken).mp passes)).1 fails
  | @visit visitsLeft depth pending rest node accepted taken passes later ih =>
      have whole := size_eq node
      have sizes
          : (pending.map (fun entry => size entry.1)).sum
            = size node + (rest.map (fun entry => size entry.1)).sum :=
        (taken.map _).sum_eq
      have inner
          : (((children node).map (·, depth + 1) ++ rest).map (fun entry => size entry.1)).sum
            = ((children node).map size).sum + (rest.map (fun entry => size entry.1)).sum := by
        rw [List.map_append, List.sum_append, List.map_map]
        rfl
      rw [ih, AllPass.perm taken, allPass_cons_iff, sizes, inner]
      constructor
      · rintro ⟨below, small⟩
        exact ⟨⟨passes, below⟩, by omega⟩
      · rintro ⟨⟨-, below⟩, small⟩
        exact ⟨below, by omega⟩

end Sizes

end OctoHubs.Library
