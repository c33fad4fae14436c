import OctoHubs.Library.Dict

/-! Keeping the first value of a list until a better one comes, where values need not be comparable,
and keeping one value for each key.
-/

namespace OctoHubs.Library

section Keeping

variable {α : Type*} (better : α → α → Bool)

def keepBetter (kept : Option α) (value : α) : Option α :=
  match kept with
  | none => some value
  | some old => if better value old then some value else some old

def keptOf (values : List α) : Option α := values.foldl (keepBetter better) none

/-- No listed value is better. -/
def Unbettered (values : List α) (value : α) : Prop :=
  ∀ other ∈ values, better other value = false

/-- Being better is a strict order of the listed values. -/
structure StrictOn (values : List α) : Prop where
  irrefl : ∀ value ∈ values, better value value = false
  trans
    : ∀ first ∈ values, ∀ second ∈ values, ∀ third ∈ values,
        better first second = true → better second third = true → better first third = true

variable {better}

theorem StrictOn.subset {values some_ : List α} (strict : StrictOn better values)
    (subset : some_ ⊆ values)
    : StrictOn better some_ where
  irrefl value member := strict.irrefl value (subset member)
  trans first inFirst second inSecond third inThird :=
    strict.trans first (subset inFirst) second (subset inSecond) third (subset inThird)

theorem foldl_keepBetter {start : α} {values : List α} (strict : StrictOn better (start :: values))
    : ∃ kept ∈ start :: values,
        values.foldl (keepBetter better) (some start) = some kept
        ∧ (kept = start ∨ better kept start = true)
        ∧ Unbettered better (start :: values) kept := by
  induction values generalizing start with
  | nil =>
      refine ⟨start, List.mem_cons_self, rfl, .inl rfl, fun other member => ?_⟩
      rw [List.mem_singleton.mp member]
      exact strict.irrefl start List.mem_cons_self
  | cons value rest ih =>
      have inStart : start ∈ start :: value :: rest := List.mem_cons_self
      have inValue : value ∈ start :: value :: rest := List.mem_cons_of_mem _ List.mem_cons_self
      cases gives : better value start with
      | true =>
          have smaller : value :: rest ⊆ start :: value :: rest := List.subset_cons_self _ _
          obtain ⟨kept, member, ends, above, none_⟩ := ih (strict.subset smaller)
          have inKept := smaller member
          have overStart : better kept start = true := by
            rcases above with rfl | above
            · exact gives
            · exact strict.trans _ inKept _ inValue _ inStart above gives
          refine ⟨kept, inKept, ?_, .inr overStart, fun other listed => ?_⟩
          · rw [List.foldl_cons, keepBetter, gives, if_pos rfl]
            exact ends
          · rcases List.mem_cons.mp listed with rfl | listed
            · by_contra exceeds
              rw [Bool.not_eq_false] at exceeds
              have loop := strict.trans _ inKept _ inStart _ inKept overStart exceeds
              exact absurd loop (by rw [strict.irrefl kept inKept]; decide)
            · exact none_ other listed
      | false =>
          have smaller : start :: rest ⊆ start :: value :: rest :=
            List.cons_subset_cons _ (List.subset_cons_self _ _)
          obtain ⟨kept, member, ends, above, none_⟩ := ih (strict.subset smaller)
          have inKept := smaller member
          refine ⟨kept, inKept, ?_, above, fun other listed => ?_⟩
          · rw [List.foldl_cons, keepBetter, gives, if_neg Bool.false_ne_true]
            exact ends
          · rcases List.mem_cons.mp listed with rfl | listed
            · exact none_ _ List.mem_cons_self
            · rcases List.mem_cons.mp listed with rfl | listed
              · rcases above with rfl | above
                · exact gives
                · by_contra exceeds
                  rw [Bool.not_eq_false] at exceeds
                  have loop := strict.trans _ inValue _ inKept _ inStart exceeds above
                  exact absurd loop (by rw [gives]; decide)
              · exact none_ other (List.mem_cons_of_mem _ listed)

theorem exists_keptOf {values : List α} (strict : StrictOn better values) (nonempty : values ≠ [])
    : ∃ kept ∈ values, keptOf better values = some kept ∧ Unbettered better values kept := by
  cases values with
  | nil => exact absurd rfl nonempty
  | cons first rest =>
      obtain ⟨kept, member, ends, -, none_⟩ := foldl_keepBetter strict
      exact ⟨kept, member, ends, none_⟩

theorem keptOf_cons {first : α} {rest : List α} (unbettered : Unbettered better rest first)
    : keptOf better (first :: rest) = some first := by
  change rest.foldl (keepBetter better) (some first) = some first
  induction rest with
  | nil => rfl
  | cons value rest ih =>
      rw [List.foldl_cons, keepBetter, unbettered value List.mem_cons_self,
        if_neg Bool.false_ne_true]
      exact ih (fun other member => unbettered other (List.mem_cons_of_mem _ member))

variable (better) in
/-- There is one value at most that no other betters. -/
def Agreed (values : List α) : Prop :=
  ∀ first ∈ values, ∀ second ∈ values,
    Unbettered better values first → Unbettered better values second → first = second

theorem keptOf_perm {values others : List α} (strict : StrictOn better values)
    (agree : Agreed better values) (perm : values.Perm others)
    : keptOf better others = keptOf better values := by
  cases values with
  | nil => rw [List.nil_perm.mp perm]
  | cons first rest =>
      obtain ⟨kept, member, keeps, best⟩ := exists_keptOf strict (List.cons_ne_nil _ _)
      have nonempty : others ≠ [] := fun none_ => by
        rw [none_] at perm
        exact List.cons_ne_nil _ _ (List.perm_nil.mp perm)
      obtain ⟨other, otherMember, otherKept, otherBest⟩ :=
        exists_keptOf (strict.subset perm.symm.subset) nonempty
      rw [keeps, otherKept]
      congr 1
      exact agree other (perm.symm.subset otherMember) kept member
        (fun value listed => otherBest value (perm.subset listed)) best

end Keeping

section Keys

variable {α κ ν : Type*} [DecidableEq κ]

def valuesAt (entries : List (κ × α)) (key : κ) : List α :=
  (entries.filter (·.1 = key)).map Prod.snd

theorem mem_valuesAt {entries : List (κ × α)} {key : κ} {value : α}
    : value ∈ valuesAt entries key ↔ (key, value) ∈ entries := by
  simp [valuesAt]

theorem valuesAt_perm {entries others : List (κ × α)} (perm : entries.Perm others) (key : κ)
    : (valuesAt entries key).Perm (valuesAt others key) :=
  (perm.filter _).map _

theorem valuesAt_cons (entry : κ × α) (rest : List (κ × α)) (key : κ)
    : valuesAt (entry :: rest) key
      = if entry.1 = key then entry.2 :: valuesAt rest key else valuesAt rest key := by
  rw [valuesAt, List.filter_cons]
  by_cases same : entry.1 = key
  · rw [if_pos same, if_pos (decide_eq_true same)]
    rfl
  · rw [if_neg same, if_neg (by rw [decide_eq_true_eq]; exact same)]
    rfl

theorem get?_foldl_entries {store : Dict κ ν → κ × α → Dict κ ν} {join : Option ν → α → Option ν}
    (stores : ∀ dict entry key,
      (store dict entry).get? key
        = if entry.1 = key then join (dict.get? key) entry.2 else dict.get? key)
    (entries : List (κ × α)) (dict : Dict κ ν) (key : κ)
    : (entries.foldl store dict).get? key = (valuesAt entries key).foldl join (dict.get? key) := by
  induction entries generalizing dict with
  | nil => rfl
  | cons entry rest ih =>
      rw [List.foldl_cons, ih, stores, valuesAt_cons]
      by_cases same : entry.1 = key
      · rw [if_pos same, if_pos same]
        rfl
      · rw [if_neg same, if_neg same]

theorem valuesAt_append (entries others : List (κ × α)) (key : κ)
    : valuesAt (entries ++ others) key = valuesAt entries key ++ valuesAt others key := by
  rw [valuesAt, List.filter_append, List.map_append]
  rfl

theorem valuesAt_map (change : α → ν) (entries : List (κ × α)) (key : κ)
    : valuesAt (entries.map (Prod.map id change)) key = (valuesAt entries key).map change := by
  rw [valuesAt, valuesAt, List.filter_map, List.map_map, List.map_map]
  rfl

theorem valuesAt_const {keys : List κ} {key : κ} (member : key ∈ keys) (value : α)
    : ∃ rest, valuesAt (keys.map (·, value)) key = value :: rest := by
  induction keys with
  | nil => cases member
  | cons first keys ih =>
      rw [List.map_cons, valuesAt_cons]
      by_cases same : first = key
      · rw [if_pos same]
        exact ⟨_, rfl⟩
      · rw [if_neg same]
        exact ih ((List.mem_cons.mp member).resolve_left (fun here => same here.symm))

end Keys

section Blocks

variable {α : Type*}

/-- The blocks in another order, each with its values in another order. -/
def Rearranged (blocks others : List (List α)) : Prop :=
  ∃ middle, blocks.Perm middle ∧ List.Forall₂ List.Perm middle others

theorem Rearranged.flatten {blocks others : List (List α)} (rearranged : Rearranged blocks others)
    : blocks.flatten.Perm others.flatten := by
  obtain ⟨middle, perm, each⟩ := rearranged
  exact perm.flatten.trans (List.Perm.flatten_congr each)

theorem exists_rearranged {blocks : List (List α)} {block : List α} {value : α}
    (inBlocks : block ∈ blocks) (inBlock : value ∈ block)
    : ∃ others rest, Rearranged blocks others ∧ others.flatten = value :: rest := by
  obtain ⟨before, after, rfl⟩ := List.append_of_mem inBlocks
  obtain ⟨lead, tail, rfl⟩ := List.append_of_mem inBlock
  refine ⟨(value :: (lead ++ tail)) :: (before ++ after), _, ⟨_, List.perm_middle, ?_⟩, rfl⟩
  exact .cons List.perm_middle (List.forall₂_same.mpr (fun _ _ => .refl _))

variable {β κ : Type*} [DecidableEq κ] {better : α → α → Bool}

/-- What is kept at a key does not depend on the arrangement of the blocks exactly when the values
that no other betters agree, where each listed value can come first.
-/
theorem keptOf_rearranged_iff (blocks : List (List β)) (entriesOf : β → List (κ × α)) (key : κ)
    (strict : StrictOn better (valuesAt (blocks.flatten.flatMap entriesOf) key))
    (leads : ∀ item value,
      (key, value) ∈ entriesOf item → ∃ rest, valuesAt (entriesOf item) key = value :: rest)
    : (∀ others,
          Rearranged blocks others
          → keptOf better (valuesAt (others.flatten.flatMap entriesOf) key)
            = keptOf better (valuesAt (blocks.flatten.flatMap entriesOf) key))
      ↔ Agreed better (valuesAt (blocks.flatten.flatMap entriesOf) key) := by
  have permuted {others : List (List β)} (rearranged : Rearranged blocks others) :=
    valuesAt_perm (rearranged.flatten.flatMap_right entriesOf) key
  constructor
  · intro same
    have kept {value : α} (member : value ∈ valuesAt (blocks.flatten.flatMap entriesOf) key)
        (best : Unbettered better (valuesAt (blocks.flatten.flatMap entriesOf) key) value)
        : keptOf better (valuesAt (blocks.flatten.flatMap entriesOf) key) = some value := by
      obtain ⟨item, inFlat, listed⟩ := List.mem_flatMap.mp (mem_valuesAt.mp member)
      obtain ⟨block, inBlocks, inBlock⟩ := List.mem_flatten.mp inFlat
      obtain ⟨others, rest, rearranged, flat⟩ := exists_rearranged inBlocks inBlock
      obtain ⟨tail, leading⟩ := leads item value listed
      rw [← same others rearranged]
      have perm := permuted rearranged
      rw [flat, List.flatMap_cons, valuesAt_append, leading, List.cons_append] at perm ⊢
      exact keptOf_cons (fun other listed_ =>
        best other (perm.symm.subset (List.mem_cons_of_mem _ listed_)))
    intro first inFirst second inSecond bestFirst bestSecond
    exact Option.some.inj ((kept inFirst bestFirst).symm.trans (kept inSecond bestSecond))
  · intro agree others rearranged
    exact keptOf_perm strict agree (permuted rearranged)

end Blocks

end OctoHubs.Library
