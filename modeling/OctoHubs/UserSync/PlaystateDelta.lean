import OctoHubs.UserSync.FavoritesDelta

/-! The playback state delta: one desired state for all participants of a group.
Changes since the baselines are recorded per key and must agree; keys that nobody changed
take the value of the last baseline.
-/

namespace OctoHubs.UserSync

open OctoHubs.Library

abbrev PlaystateState := Observation PlaystateSnapshot

/-- The operations one participant records, in order. -/
def playstateOps (state : PlaystateState) : List (ItemKey × Change PlayState) :=
  let set (key : ItemKey) : Option (ItemKey × Change PlayState) :=
    (state.snapshot.get? key).map (fun value => (key, .set value))
  match state.previousSnapshot with
  | none => state.snapshot.items.map (fun item => (item.1, .set item.2))
  | some previous =>
      let diff := diffMapping previous state.snapshot
      diff.added.filterMap set ++ diff.changed.filterMap set
        ++ diff.removed.map (fun key => (key, .remove))

structure PlaystateTally where
  desiredState : PlaystateSnapshot
  latestOps : Dict ItemKey (Change PlayState)
  initialCount : Nat

namespace PlaystateTally

def empty : PlaystateTally := ⟨∅, ∅, 0⟩

/-- Count one participant in: its baseline over the earlier ones, and its operations. -/
def add (tally : PlaystateTally) (state : PlaystateState)
    : Except SyncError PlaystateTally :=
  let desiredState := tally.desiredState.update state.baseline
  let initialCount :=
    match state.previousSnapshot with
    | none => tally.initialCount + state.snapshot.items.length
    | some _ => tally.initialCount
  match recordAll tally.latestOps (playstateOps state) with
  | .error key => .error (.playstate key)
  | .ok latestOps => .ok { desiredState, latestOps, initialCount }

end PlaystateTally

structure PlaystateCounts where
  set : Nat
  removed : Nat
  initial : Nat
  desired : Nat
deriving DecidableEq, Repr

/-- What a playback state run hands to the writes. -/
structure PlaystatePlan where
  desiredState : PlaystateSnapshot
  delta : PlaystateCounts
deriving DecidableEq

/-- The run up to its writes; without participants it is skipped. -/
def runPlaystateDeltaSync (states : List PlaystateState)
    : Except SyncError (Option PlaystatePlan) :=
  if states.isEmpty then .ok none
  else
    match states.foldlM PlaystateTally.add .empty with
    | .error error => .error error
    | .ok tally =>
        let desiredState := Change.applyAll tally.desiredState tally.latestOps
        let removeCount := (tally.latestOps.values.filter (· == .remove)).length
        .ok (some {
          desiredState
          delta := {
            set := tally.latestOps.values.length - removeCount
            removed := removeCount
            initial := tally.initialCount
            desired := desiredState.items.length
          }
        })

/-- A participant records exactly the changes since its baseline. -/
theorem mem_playstateOps {state : PlaystateState} {key : ItemKey} {op : Change PlayState}
    : (key, op) ∈ playstateOps state ↔ state.change key = some op := by
  unfold playstateOps Observation.change Observation.baseline
  cases state.previousSnapshot with
  | none =>
      cases op with
      | remove => simp [Change.between_eq_remove_iff]
      | set value => simp [Change.between_eq_set_iff, ← Dict.mem_items_iff]
  | some previous =>
      cases op with
      | remove =>
          simp only [diffMapping, List.mem_append, List.mem_filterMap, Option.map_eq_some_iff,
            Prod.mk.injEq, reduceCtorEq, and_false, exists_false, List.mem_map, mem_sorted,
            List.mem_filter, Dict.mem_keys_iff_isSome, decide_eq_true_eq,
            Change.between_eq_remove_iff, false_or, exists_eq_right, and_true]
          simp
      | set value =>
          simp only [diffMapping, List.mem_append, List.mem_filterMap, Option.map_eq_some_iff,
            Prod.mk.injEq, Change.set.injEq, List.mem_map, mem_sorted, reduceCtorEq, and_false,
            exists_false, List.mem_filter, Dict.mem_keys_iff_isSome, decide_eq_true_eq,
            Change.between_eq_set_iff, or_false]
          change _ ↔ previous.get? key ≠ some value ∧ _
          constructor
          · rintro (⟨_, ⟨_, absent⟩, _, found, rfl, rfl⟩ | ⟨_, ⟨_, _, differs⟩, _, found, rfl, rfl⟩)
            · exact ⟨fun same => absent (by rw [same]; rfl), found⟩
            · exact ⟨fun same => differs (same.trans found.symm), found⟩
          · rintro ⟨differs, found⟩
            have present : (state.snapshot.get? key).isSome = true := by rw [found]; rfl
            by_cases had : (previous.get? key).isSome = true
            · refine .inr ⟨key, ⟨had, present, ?_⟩, value, found, rfl, rfl⟩
              exact fun same => differs (same.trans found)
            · exact .inl ⟨key, ⟨present, had⟩, value, found, rfl, rfl⟩

theorem PlaystateTally.add_cases (tally : PlaystateTally) (state : PlaystateState)
    : (∃ next,
        tally.add state = .ok next
        ∧ next.desiredState = tally.desiredState.update state.baseline
        ∧ recordAll tally.latestOps (playstateOps state) = .ok next.latestOps)
      ∨ ∃ key,
        tally.add state = .error (.playstate key)
        ∧ recordAll tally.latestOps (playstateOps state) = .error key := by
  unfold PlaystateTally.add
  cases recordAll tally.latestOps (playstateOps state) with
  | error key => exact .inr ⟨key, rfl, rfl⟩
  | ok latestOps => exact .inl ⟨_, rfl, rfl, rfl⟩

/-- The tally of all participants: the overlaid baselines and the recorded operations, or
the first conflict. By induction on the participants.
-/
theorem playstateTally_cases (states : List PlaystateState)
    : (∃ tally,
        states.foldlM PlaystateTally.add .empty = .ok tally
        ∧ tally.desiredState = overlay ∅ (states.map Observation.baseline)
        ∧ recordAll ∅ (states.flatMap playstateOps) = .ok tally.latestOps)
      ∨ ∃ key,
        states.foldlM PlaystateTally.add .empty = .error (.playstate key)
        ∧ recordAll ∅ (states.flatMap playstateOps) = .error key := by
  induction states using List.reverseRecOn with
  | nil => exact .inl ⟨.empty, rfl, rfl, rfl⟩
  | append_singleton states last ih =>
      rw [List.foldlM_append, List.flatMap_append, recordAll_append, List.map_append]
      rcases ih with ⟨tally, folded, desired, recorded⟩ | ⟨key, folded, recorded⟩
      · rw [folded, recorded, List.flatMap_singleton]
        simp only [overlay, List.foldl_append]
        rcases tally.add_cases last with ⟨next, added, merged, more⟩ | ⟨key, added, more⟩
        · refine .inl ⟨next, ?_, ?_, more⟩
          · simp [bind, Except.bind, added, pure, Except.pure]
          · rw [merged, desired]
            rfl
        · refine .inr ⟨key, ?_, more⟩
          simp [bind, Except.bind, added]
      · right
        rw [folded, recorded]
        exact ⟨key, rfl, rfl⟩

/-- The state all participants shall end with; a skipped run wants none. -/
def plannedState (plan : Option PlaystatePlan) : PlaystateSnapshot :=
  (plan.map PlaystatePlan.desiredState).getD ∅

/-- Two participants change a key differently. -/
def PlaystateConflict (states : List PlaystateState) : Prop :=
  ∃ key, ∃ left ∈ states, ∃ right ∈ states, ∃ leftOp rightOp,
    left.change key = some leftOp ∧ right.change key = some rightOp ∧ leftOp ≠ rightOp

theorem agree_iff_not_conflict {states : List PlaystateState}
    : Agree (states.flatMap playstateOps) ↔ ¬ PlaystateConflict states := by
  constructor
  · rintro agree ⟨key, left, leftIn, right, rightIn, leftOp, rightOp, leftDid, rightDid, differ⟩
    refine differ (agree key leftOp rightOp ?_ ?_)
    · exact List.mem_flatMap.mpr ⟨left, leftIn, mem_playstateOps.mpr leftDid⟩
    · exact List.mem_flatMap.mpr ⟨right, rightIn, mem_playstateOps.mpr rightDid⟩
  · intro quiet key leftOp rightOp leftEntry rightEntry
    obtain ⟨left, leftIn, leftDid⟩ := List.mem_flatMap.mp leftEntry
    obtain ⟨right, rightIn, rightDid⟩ := List.mem_flatMap.mp rightEntry
    by_contra differ
    exact quiet ⟨key, left, leftIn, right, rightIn, leftOp, rightOp,
      mem_playstateOps.mp leftDid, mem_playstateOps.mp rightDid, differ⟩

/-- A run plans the result of the change of each key over the last baseline that has the
key, or aborts on the first conflict.
-/
theorem runPlaystateDeltaSync_cases (states : List PlaystateState)
    : (∃ plan ops,
        runPlaystateDeltaSync states = .ok plan
        ∧ recordAll ∅ (states.flatMap playstateOps) = .ok ops
        ∧ ∀ key,
            (plannedState plan).get? key
            = Change.result (ops.get? key)
                (lastValue (states.map Observation.baseline) key))
      ∨ ∃ key,
        runPlaystateDeltaSync states = .error (.playstate key)
        ∧ recordAll ∅ (states.flatMap playstateOps) = .error key := by
  unfold runPlaystateDeltaSync
  split
  · next empty =>
      rw [List.isEmpty_iff.mp empty]
      exact .inl ⟨none, ∅, rfl, rfl, fun _ => rfl⟩
  · rcases playstateTally_cases states with ⟨tally, folded, desired, recorded⟩
      | ⟨key, folded, recorded⟩
    · rw [folded]
      refine .inl ⟨_, tally.latestOps, rfl, recorded, fun key => ?_⟩
      change (Change.applyAll tally.desiredState tally.latestOps).get? key = _
      rw [Change.get?_applyAll, desired, get?_overlay, Dict.get?_empty, Option.or_none]
    · rw [folded]
      exact .inr ⟨key, rfl, recorded⟩

theorem runPlaystateDeltaSync_error_iff {states : List PlaystateState}
    : (∃ error, runPlaystateDeltaSync states = .error error) ↔ PlaystateConflict states := by
  rcases runPlaystateDeltaSync_cases states with ⟨plan, ops, planned, recorded, -⟩
    | ⟨key, failed, recorded⟩
  · have quiet := agree_iff_not_conflict.mp (recordAll_ok_iff.mp ⟨ops, recorded⟩)
    simp [planned, quiet]
  · have conflict : ¬ Agree (states.flatMap playstateOps) := by
      rw [← recordAll_ok_iff, recorded]
      simp
    rw [agree_iff_not_conflict, not_not] at conflict
    simp [failed, conflict]

/-- Every order of the participants aborts, or every order plans the same state. -/
def PlaystateOrderIndependent (states : List PlaystateState) : Prop :=
  ∀ order,
    order.Perm states
    → ((∃ error, runPlaystateDeltaSync states = .error error)
        ∧ ∃ error, runPlaystateDeltaSync order = .error error)
      ∨ ∃ plan other,
        runPlaystateDeltaSync states = .ok plan
        ∧ runPlaystateDeltaSync order = .ok other
        ∧ ∀ key, (plannedState plan).get? key = (plannedState other).get? key

/-- Wherever nobody changed a key, the baselines that have it agree on its value. -/
def UnchangedBaselinesAgree (states : List PlaystateState) : Prop :=
  ∀ key,
    (∀ state ∈ states, state.change key = none)
    → ∀ left ∈ states,
      ∀ right ∈ states,
        ∀ value other,
          left.baseline.get? key = some value
          → right.baseline.get? key = some other
          → value = other

theorem PlaystateConflict.perm {states order : List PlaystateState}
    (perm : order.Perm states)
    : PlaystateConflict order ↔ PlaystateConflict states := by
  simp only [PlaystateConflict, perm.mem_iff]

theorem exists_perm_last {states : List PlaystateState} {state : PlaystateState}
    (member : state ∈ states)
    : ∃ front : List PlaystateState, (front ++ [state]).Perm states := by
  obtain ⟨before, after, rfl⟩ := List.append_of_mem member
  refine ⟨before ++ after, ?_⟩
  have swapped : (after ++ [state]).Perm ([state] ++ after) := List.perm_append_comm
  rw [List.append_assoc]
  exact swapped.append_left before

theorem plannedState_of_last {front : List PlaystateState} {last : PlaystateState}
    {plan : Option PlaystatePlan}
    (planned : runPlaystateDeltaSync (front ++ [last]) = .ok plan) {key : ItemKey}
    (unchanged : ∀ state ∈ front ++ [last], state.change key = none) {value : PlayState}
    (baseline : last.baseline.get? key = some value)
    : (plannedState plan).get? key = some value := by
  rcases runPlaystateDeltaSync_cases (front ++ [last]) with
    ⟨same, ops, ran, recorded, desired⟩ | ⟨conflict, failed, -⟩
  · obtain rfl : plan = same := Except.ok.inj (planned.symm.trans ran)
    have untouched : ops.get? key = none := by
      by_contra touched
      obtain ⟨op, found⟩ := Option.ne_none_iff_exists'.mp touched
      have entry := (recordAll_get? recorded).mp found
      simp only [Dict.get?_empty, reduceCtorEq, false_or, List.mem_flatMap] at entry
      obtain ⟨state, member, did⟩ := entry
      rw [mem_playstateOps, unchanged state member] at did
      cases did
    rw [desired key, untouched, List.map_append, List.map_singleton, lastValue_concat, baseline]
    rfl
  · rw [planned] at failed
    cases failed

theorem ops_get?_perm {states order : List PlaystateState} (perm : order.Perm states)
    {ops other : Dict ItemKey (Change PlayState)}
    (recorded : recordAll ∅ (states.flatMap playstateOps) = .ok ops)
    (recordedOther : recordAll ∅ (order.flatMap playstateOps) = .ok other) (key : ItemKey)
    : other.get? key = ops.get? key := by
  ext op
  have entries := (perm.flatMap_right playstateOps).mem_iff (a := (key, op))
  rw [recordAll_get? recorded, recordAll_get? recordedOther, Dict.get?_empty, entries]

theorem lastValue_perm {states order : List PlaystateState} (perm : order.Perm states)
    {key : ItemKey}
    (agree
      : ∀ left ∈ states,
          ∀ right ∈ states,
            ∀ value other,
              left.baseline.get? key = some value
              → right.baseline.get? key = some other
              → value = other)
    : lastValue (order.map Observation.baseline) key
      = lastValue (states.map Observation.baseline) key := by
  have layers (layer : PlaystateSnapshot)
      : layer ∈ order.map Observation.baseline ↔ layer ∈ states.map Observation.baseline :=
    (perm.map Observation.baseline).mem_iff
  cases found : lastValue (states.map Observation.baseline) key with
  | none =>
      rw [lastValue_eq_none_iff] at found ⊢
      intro layer member
      exact found layer ((layers layer).mp member)
  | some value =>
      obtain ⟨_, member, shown⟩ := exists_of_lastValue found
      obtain ⟨left, leftIn, rfl⟩ := List.mem_map.mp member
      cases other : lastValue (order.map Observation.baseline) key with
      | none =>
          rw [lastValue_eq_none_iff] at other
          have missing := other _ ((layers _).mpr member)
          rw [shown] at missing
          cases missing
      | some second =>
          obtain ⟨_, otherMember, otherShown⟩ := exists_of_lastValue other
          obtain ⟨right, rightIn, rfl⟩ := List.mem_map.mp ((layers _).mp otherMember)
          rw [agree left leftIn right rightIn value second shown otherShown]

/-- The plan is independent of the order exactly when the run aborts anyway, or the
baselines agree on every key that nobody changed.
-/
theorem playstateOrderIndependent_iff (states : List PlaystateState)
    : PlaystateOrderIndependent states
      ↔ PlaystateConflict states ∨ UnchangedBaselinesAgree states := by
  constructor
  · intro independent
    by_cases conflict : PlaystateConflict states
    · exact .inl conflict
    right
    intro key unchanged left leftIn right rightIn value other leftHas rightHas
    -- Whoever comes last decides the key, so two orders show both values.
    have shown {last : PlaystateState} (member : last ∈ states) {shownValue : PlayState}
        (has : last.baseline.get? key = some shownValue)
        {plan : Option PlaystatePlan} (planned : runPlaystateDeltaSync states = .ok plan)
        : (plannedState plan).get? key = some shownValue := by
      obtain ⟨front, perm⟩ := exists_perm_last member
      rcases independent (front ++ [last]) perm with
        ⟨failed, -⟩ | ⟨same, moved, ran, ranMoved, equal⟩
      · exact absurd (runPlaystateDeltaSync_error_iff.mp failed) conflict
      · obtain rfl : plan = same := Except.ok.inj (planned.symm.trans ran)
        rw [equal key]
        exact plannedState_of_last ranMoved
          (fun state present => unchanged state (perm.mem_iff.mp present)) has
    cases planned : runPlaystateDeltaSync states with
    | error error =>
        exact absurd (runPlaystateDeltaSync_error_iff.mp ⟨error, planned⟩) conflict
    | ok plan =>
        exact Option.some.inj
          ((shown leftIn leftHas planned).symm.trans (shown rightIn rightHas planned))
  · intro holds order perm
    rcases runPlaystateDeltaSync_cases states with ⟨plan, ops, planned, recorded, desired⟩
      | ⟨key, failed, -⟩
    · have quiet : ¬ PlaystateConflict states := by
        rw [← runPlaystateDeltaSync_error_iff, planned]
        simp
      have agree := holds.resolve_left quiet
      rcases runPlaystateDeltaSync_cases order with
        ⟨other, otherOps, otherPlanned, otherRecorded, otherDesired⟩ | ⟨key, failed, -⟩
      · refine .inr ⟨plan, other, planned, otherPlanned, fun key => ?_⟩
        rw [desired key, otherDesired key, ops_get?_perm perm recorded otherRecorded key]
        cases touched : ops.get? key with
        | some op => cases op <;> rfl
        | none =>
            have unchanged : ∀ state ∈ states, state.change key = none := by
              intro state member
              by_contra changed
              obtain ⟨op, did⟩ := Option.ne_none_iff_exists'.mp changed
              have entry : (key, op) ∈ states.flatMap playstateOps :=
                List.mem_flatMap.mpr ⟨state, member, mem_playstateOps.mpr did⟩
              have found := (recordAll_get? recorded).mpr (.inr entry)
              rw [touched] at found
              cases found
            rw [lastValue_perm perm (agree key unchanged)]
      · have conflict := runPlaystateDeltaSync_error_iff.mp ⟨_, failed⟩
        exact absurd ((PlaystateConflict.perm perm).mp conflict) quiet
    · have conflict := runPlaystateDeltaSync_error_iff.mp ⟨_, failed⟩
      exact .inl ⟨⟨_, failed⟩,
        runPlaystateDeltaSync_error_iff.mpr ((PlaystateConflict.perm perm).mpr conflict)⟩

/-- Two participants whose baselines differ and who changed nothing. -/
def differingBaselines : List PlaystateState :=
  let watched : PlaystateSnapshot := (∅ : PlaystateSnapshot).set "imdb:a" ⟨true, none, 0, none⟩
  let started : PlaystateSnapshot := (∅ : PlaystateSnapshot).set "imdb:a" ⟨false, none, 7, none⟩
  [⟨watched, some watched⟩, ⟨started, some started⟩]

theorem playstateOrderDependent_differingBaselines
    : ¬ PlaystateOrderIndependent differingBaselines := by
  intro independent
  rcases independent differingBaselines.reverse (List.reverse_perm _) with
    ⟨⟨error, failed⟩, -⟩ | ⟨plan, other, planned, otherPlanned, equal⟩
  · cases failed
  · cases planned
    cases otherPlanned
    exact absurd (equal "imdb:a") (by decide)

end OctoHubs.UserSync
