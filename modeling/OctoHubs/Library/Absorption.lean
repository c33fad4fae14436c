import Mathlib.Data.List.Basic

/-! Collecting everything that is linked to a seed, pass by pass.
A pass goes through the remaining items in their order and takes those that are linked to what
is taken so far; the passes end when one of them takes nothing.
-/

namespace OctoHubs.Library

variable {α : Type*}

section Absorption

variable (seed : α → Bool) (related : α → α → Bool)

def linked (taken : List α) (item : α) : Bool :=
  seed item || taken.any (fun other => related other item)

/-- One pass: what is taken after it, and what remains. -/
def absorbPass : List α → List α → List α × List α
  | taken, [] => (taken, [])
  | taken, item :: items =>
      if linked seed related taken item then absorbPass (taken ++ [item]) items
      else
        let (after, pending) := absorbPass taken items
        (after, item :: pending)

/-- Passes until one takes nothing; there is fuel for one pass for each item. -/
def absorbPasses : Nat → List α → List α → List α
  | 0, taken, _ => taken
  | fuel + 1, taken, items =>
      let (after, pending) := absorbPass seed related taken items
      if pending.length = items.length then after else absorbPasses fuel after pending

attribute [local simp] absorbPass absorbPasses

def absorb (items : List α) : List α :=
  absorbPasses seed related (items.length + 1) [] items

/-- An item that is linked to the seed through items of the list. -/
inductive Reached (items : List α) : α → Prop
  | seed {item : α} (member : item ∈ items) (seeded : seed item = true) : Reached items item
  | step {item other : α} (reached : Reached items other) (member : item ∈ items)
    (follows : related other item = true)
    : Reached items item

end Absorption

variable {seed : α → Bool} {related : α → α → Bool} {items : List α}

theorem Reached.mem {item : α} (reached : Reached seed related items item) : item ∈ items := by
  cases reached with
  | seed member | step _ member => exact member

theorem mem_linked_iff {taken : List α} {item : α}
    : linked seed related taken item = true
      ↔ seed item = true ∨ ∃ other ∈ taken, related other item = true := by
  unfold linked
  rw [Bool.or_eq_true, List.any_eq_true]

theorem mem_absorbPass_iff {taken rest : List α} {item : α}
    : item ∈ (absorbPass seed related taken rest).1
        ∨ item ∈ (absorbPass seed related taken rest).2
      ↔ item ∈ taken ∨ item ∈ rest := by
  induction rest generalizing taken with
  | nil => rfl
  | cons first rest ih =>
      unfold absorbPass
      split
      · rw [ih, List.mem_append, List.mem_singleton, List.mem_cons, or_assoc]
      · dsimp only
        rw [List.mem_cons, List.mem_cons, or_left_comm, ih, or_left_comm]

theorem subset_absorbPass {taken rest : List α}
    : taken ⊆ (absorbPass seed related taken rest).1 := by
  induction rest generalizing taken with
  | nil => exact List.Subset.refl _
  | cons first rest ih =>
      unfold absorbPass
      split
      · exact fun item member => ih (List.mem_append_left _ member)
      · exact ih

/-- A pass takes linked items only, by induction on the remaining ones. -/
theorem absorbPass_sound {taken rest : List α} {sound : α → Prop}
    (start : ∀ item ∈ taken, sound item)
    (seeded : ∀ item ∈ rest, seed item = true → sound item)
    (follows
      : ∀ other, sound other → ∀ item ∈ rest, related other item = true → sound item)
    : ∀ item ∈ (absorbPass seed related taken rest).1, sound item := by
  induction rest generalizing taken with
  | nil => exact start
  | cons first rest ih =>
      have seededRest : ∀ item ∈ rest, seed item = true → sound item :=
        fun item member => seeded item (List.mem_cons_of_mem _ member)
      have followsRest
          : ∀ other, sound other → ∀ item ∈ rest, related other item = true → sound item :=
        fun other here item member => follows other here item (List.mem_cons_of_mem _ member)
      unfold absorbPass
      split
      · next link =>
          refine ih (fun item member => ?_) seededRest followsRest
          rcases List.mem_append.mp member with before | here
          · exact start item before
          · cases List.mem_singleton.mp here
            rcases mem_linked_iff.mp link with seeds | ⟨other, known, relation⟩
            · exact seeded first List.mem_cons_self seeds
            · exact follows other (start other known) first List.mem_cons_self relation
      · exact ih start seededRest followsRest

theorem absorbPass_length (seed : α → Bool) (related : α → α → Bool) (taken rest : List α)
    : (absorbPass seed related taken rest).2.length ≤ rest.length
      ∧ ((absorbPass seed related taken rest).2.length = rest.length
        → absorbPass seed related taken rest = (taken, rest)
          ∧ ∀ item ∈ rest, linked seed related taken item = false) := by
  induction rest generalizing taken with
  | nil => exact ⟨Nat.le_refl _, fun _ => ⟨rfl, fun item nothing => nomatch nothing⟩⟩
  | cons first rest ih =>
      unfold absorbPass
      split
      · have shorter := (ih (taken ++ [first])).1
        refine ⟨Nat.le_succ_of_le shorter, fun same => ?_⟩
        simp only [List.length_cons] at same
        omega
      · next apart =>
          obtain ⟨shorter, stable⟩ := ih taken
          dsimp only [List.length_cons]
          refine ⟨by omega, fun same => ?_⟩
          obtain ⟨unchanged, unlinked⟩ := stable (by omega)
          rw [unchanged]
          refine ⟨rfl, fun item member => ?_⟩
          rcases List.mem_cons.mp member with rfl | later
          · exact Bool.not_eq_true _ ▸ apart
          · exact unlinked item later

theorem absorbPasses_sound {fuel : Nat} {taken rest : List α} {sound : α → Prop}
    (start : ∀ item ∈ taken, sound item)
    (seeded : ∀ item ∈ rest, seed item = true → sound item)
    (follows
      : ∀ other, sound other → ∀ item ∈ rest, related other item = true → sound item)
    : ∀ item ∈ absorbPasses seed related fuel taken rest, sound item := by
  induction fuel generalizing taken rest with
  | zero => exact start
  | succ fuel ih =>
      have pass := absorbPass_sound start seeded follows
      have remaining
          : ∀ item ∈ (absorbPass seed related taken rest).2, item ∈ taken ∨ item ∈ rest :=
        fun item member => mem_absorbPass_iff.mp (.inr member)
      unfold absorbPasses
      dsimp only
      split
      · exact pass
      · refine ih pass (fun item member seeds => ?_) (fun other here item member relation => ?_)
        · exact (remaining item member).elim (start item) (fun held => seeded item held seeds)
        · exact (remaining item member).elim (start item)
            (fun held => follows other here item held relation)

/-- With enough fuel every linked item is taken, by induction on the fuel. -/
theorem absorbPasses_complete {fuel : Nat} {taken rest : List α} (enough : rest.length < fuel)
    {item : α}
    (link
      : item ∈ taken
        ∨ item ∈ rest
          ∧ linked seed related (absorbPasses seed related fuel taken rest) item = true)
    : item ∈ absorbPasses seed related fuel taken rest := by
  induction fuel generalizing taken rest with
  | zero => omega
  | succ fuel ih =>
      unfold absorbPasses at link ⊢
      dsimp only at link ⊢
      obtain ⟨shorter, stable⟩ :=
        absorbPass_length seed related taken rest
      split
      · next same =>
          obtain ⟨unchanged, unlinked⟩ := stable same
          rw [if_pos same, unchanged] at link
          rw [unchanged]
          rcases link with before | ⟨member, found⟩
          · exact before
          · exact Bool.noConfusion ((unlinked item member).symm.trans found)
      · next differs =>
          rw [if_neg differs] at link
          refine ih (by omega) ?_
          rcases link with before | ⟨member, found⟩
          · exact .inl (subset_absorbPass before)
          · rcases mem_absorbPass_iff.mpr (.inr member) with took | left
            · exact .inl took
            · exact .inr ⟨left, found⟩

theorem mem_absorb_iff {item : α}
    : item ∈ absorb seed related items ↔ Reached seed related items item := by
  unfold absorb
  constructor
  · intro member
    refine absorbPasses_sound (fun other nothing => nomatch nothing)
      (fun other held seeds => .seed held seeds)
      (fun other reached next held relation => .step reached held relation) item member
  · intro reached
    induction reached with
    | seed member seeded =>
        exact absorbPasses_complete (Nat.lt_succ_self _)
          (.inr ⟨member, mem_linked_iff.mpr (.inl seeded)⟩)
    | step before member follows ih =>
        exact absorbPasses_complete (Nat.lt_succ_self _)
          (.inr ⟨member, mem_linked_iff.mpr (.inr ⟨_, ih, follows⟩)⟩)

end OctoHubs.Library
