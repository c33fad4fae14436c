import Mathlib.Data.List.SplitBy
import Mathlib.Order.Basic

/-! A sorted list cut into groups where neighbours do not belong together, and a row of
increasing numbers cut into stretches without gaps.
-/

namespace OctoHubs.Library

section Groups

variable {α : Type*} {together : α → α → Bool} {before apart : α → α → Prop}

/-- Two groups that follow each other are apart at their border, so in a sorted list every two
groups are apart, by induction on the groups.
-/
theorem pairwise_apart_of_borders
    (border : ∀ a b, before a b → together a b = false → apart a b)
    (earlier : ∀ a b c, before a b → apart b c → apart a c)
    (later : ∀ a b c, apart a b → before b c → apart a c) {groups : List (List α)}
    (sorted : groups.flatten.Pairwise before)
    (borders
      : groups.IsChain (fun g h =>
          ∃ hg hh, together (g.getLast hg) (h.head hh) = false))
    : groups.Pairwise (fun g h => ∀ a ∈ g, ∀ b ∈ h, apart a b) := by
  induction groups with
  | nil => exact .nil
  | cons group rest ih =>
      rw [List.flatten_cons, List.pairwise_append] at sorted
      obtain ⟨inside, outside, across⟩ := sorted
      refine .cons ?_ (ih outside borders.tail)
      cases rest with
      | nil =>
          intro other member
          cases member
      | cons next rest =>
          obtain ⟨filled, nextFilled, cut⟩ := (List.isChain_cons_cons.mp borders).1
          intro other member a inGroup b inOther
          have inRest : b ∈ (next :: rest).flatten :=
            List.mem_flatten.mpr ⟨other, member, inOther⟩
          have headInRest : next.head nextFilled ∈ (next :: rest).flatten :=
            List.mem_flatten.mpr ⟨next, List.mem_cons_self, List.head_mem nextFilled⟩
          have last : apart (group.getLast filled) (next.head nextFilled) :=
            border _ _ (across _ (List.getLast_mem filled) _ headInRest) cut
          have toHead : apart a (next.head nextFilled) := by
            have ends : group.dropLast ++ [group.getLast filled] = group :=
              List.dropLast_append_getLast filled
            rw [← ends, List.mem_append, List.mem_singleton] at inGroup
            obtain inFront | rfl := inGroup
            · rw [← ends, List.pairwise_append] at inside
              exact earlier _ _ _ (inside.2.2 a inFront _ (List.mem_singleton_self _)) last
            · exact last
          have starts : next = next.head nextFilled :: next.tail :=
            (List.cons_head_tail nextFilled).symm
          rw [List.flatten_cons, starts, List.cons_append] at inRest outside
          obtain rfl | inTail := List.mem_cons.mp inRest
          · exact toHead
          · exact later _ _ _ toHead ((List.pairwise_cons.mp outside).1 b inTail)

theorem pairwise_apart_splitBy
    (border : ∀ a b, before a b → together a b = false → apart a b)
    (earlier : ∀ a b c, before a b → apart b c → apart a c)
    (later : ∀ a b c, apart a b → before b c → apart a c) {items : List α}
    (sorted : items.Pairwise before)
    : (items.splitBy together).Pairwise (fun g h => ∀ a ∈ g, ∀ b ∈ h, apart a b) :=
  pairwise_apart_of_borders border earlier later
    (by rw [List.flatten_splitBy]; exact sorted)
    (List.isChain_getLast_head_splitBy together items)

theorem mem_splitBy_iff {items : List α} {item : α}
    : item ∈ items ↔ ∃ group ∈ items.splitBy together, item ∈ group := by
  rw [← List.mem_flatten, List.flatten_splitBy]

theorem same_of_mem_splitBy {κ : Type*} [DecidableEq κ] {key : α → κ} {items group : List α}
    (member : group ∈ items.splitBy (fun a b => key a == key b)) {a b : α} (inLeft : a ∈ group)
    (inRight : b ∈ group)
    : key a = key b := by
  have chain := List.isChain_of_mem_splitBy member
  have equal : group.IsChain (fun a b => key a = key b) :=
    chain.imp (fun _ _ same => beq_iff_eq.mp same)
  have : IsTrans α (fun a b => key a = key b) := ⟨fun _ _ _ => Eq.trans⟩
  have pairs := List.isChain_iff_pairwise.mp equal
  have : Std.Symm (fun a b => key a = key b) := ⟨fun _ _ => Eq.symm⟩
  exact List.Pairwise.forall_of_forall (R := fun a b => key a = key b) (fun _ _ => rfl) pairs
    inLeft inRight

end Groups

/-- The stretches of an increasing row of numbers, where one from `start` to `last` is open. -/
def stretches (start last : Nat) : List Nat → List (Nat × Nat)
  | [] => [(start, last)]
  | next :: rest =>
      if next = last + 1 then stretches start next rest
      else (start, last) :: stretches next next rest

attribute [local simp] stretches

section Stretches

variable {start last number : Nat} {rest : List Nat}

theorem mem_stretches (opened : start ≤ last) (rising : (last :: rest).Pairwise (· < ·))
    {stretch : Nat × Nat} (member : stretch ∈ stretches start last rest)
    : start ≤ stretch.1 ∧ stretch.1 ≤ stretch.2 := by
  induction rest generalizing start last with
  | nil =>
      obtain rfl := List.mem_singleton.mp member
      exact ⟨Nat.le_refl _, opened⟩
  | cons next rest ih =>
      obtain ⟨above, rising⟩ := List.pairwise_cons.mp rising
      have after : last < next := above next List.mem_cons_self
      rw [stretches] at member
      split at member
      · exact ih (by omega) rising member
      · obtain rfl | later := List.mem_cons.mp member
        · exact ⟨Nat.le_refl _, opened⟩
        · obtain ⟨low, valid⟩ := ih (Nat.le_refl next) rising later
          exact ⟨by omega, valid⟩

theorem exists_mem_stretches_iff (opened : start ≤ last)
    (rising : (last :: rest).Pairwise (· < ·))
    : (∃ stretch ∈ stretches start last rest, stretch.1 ≤ number ∧ number ≤ stretch.2)
      ↔ (start ≤ number ∧ number ≤ last) ∨ number ∈ rest := by
  induction rest generalizing start last with
  | nil => simp [stretches]
  | cons next rest ih =>
      obtain ⟨above, rising⟩ := List.pairwise_cons.mp rising
      have after : last < next := above next List.mem_cons_self
      rw [stretches]
      split
      · next adjoining =>
          rw [ih (by omega) rising, List.mem_cons]
          constructor
          · rintro (inside | later)
            · by_cases new : number = next
              · exact .inr (.inl new)
              · exact .inl ⟨inside.1, by omega⟩
            · exact .inr (.inr later)
          · rintro (inside | rfl | later)
            · exact .inl ⟨inside.1, by omega⟩
            · exact .inl ⟨by omega, Nat.le_refl _⟩
            · exact .inr later
      · rw [List.exists_mem_cons_iff, ih (Nat.le_refl next) rising, List.mem_cons]
        have alone : next ≤ number ∧ number ≤ next ↔ number = next := by omega
        rw [alone]

theorem pairwise_stretches (opened : start ≤ last) (rising : (last :: rest).Pairwise (· < ·))
    : (stretches start last rest).Pairwise (fun left right => left.2 + 1 < right.1) := by
  induction rest generalizing start last with
  | nil => exact List.pairwise_singleton _ _
  | cons next rest ih =>
      obtain ⟨above, rising⟩ := List.pairwise_cons.mp rising
      have after : last < next := above next List.mem_cons_self
      rw [stretches]
      split
      · exact ih (by omega) rising
      · refine .cons ?_ (ih (Nat.le_refl next) rising)
        intro stretch member
        have low := (mem_stretches (Nat.le_refl next) rising member).1
        show last + 1 < stretch.1
        omega

end Stretches

end OctoHubs.Library
