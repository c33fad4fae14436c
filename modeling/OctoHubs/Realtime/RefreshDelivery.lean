import OctoHubs.Realtime.SessionRefresh

/-! What the dispatcher of session refreshes guarantees over whole runs: one callback for a server
at a time, in the order of the submissions, and none of the last data of a server left behind.
-/

namespace OctoHubs.Realtime

open OctoHubs.Library

section Workers

variable {κ ν : Type*} {workers : List (RefreshWorker κ ν)} {worker : RefreshWorker κ ν}

theorem exists_between {index : Nat} (found : workers[index]? = some worker)
    : ∃ before after,
        workers = before ++ worker :: after
        ∧ ∀ next, workers.set index next = before ++ next :: after := by
  rcases List.getElem?_eq_some_iff.mp found with ⟨bound, here⟩
  have setting (next : RefreshWorker κ ν)
      : workers.set index next = workers.take index ++ next :: workers.drop (index + 1) := by
    rw [List.set_eq_take_append_cons_drop, if_pos bound]
  refine ⟨workers.take index, workers.drop (index + 1), ?_, setting⟩
  rw [← setting worker, ← here, List.set_getElem_self]

theorem filterMap_between {β : Type*} (part : RefreshWorker κ ν → Option β)
    (before after : List (RefreshWorker κ ν)) (worker : RefreshWorker κ ν)
    : (before ++ worker :: after).filterMap part
      = before.filterMap part ++ ((part worker).toList ++ after.filterMap part) := by
  rw [List.filterMap_append, List.filterMap_cons]
  cases part worker <;> rfl

theorem filterMap_set_of_eq {β : Type*} (part : RefreshWorker κ ν → Option β) {index : Nat}
    (found : workers[index]? = some worker) {next : RefreshWorker κ ν}
    (same : part next = part worker)
    : (workers.set index next).filterMap part = workers.filterMap part := by
  rcases exists_between found with ⟨before, after, whole, set⟩
  rw [set, whole, filterMap_between, filterMap_between, same]

theorem filterMap_serverId?_wake
    : (workers.map RefreshWorker.wake).filterMap RefreshWorker.serverId?
      = workers.filterMap RefreshWorker.serverId? := by
  rw [List.filterMap_map]
  refine List.filterMap_congr (fun worker _ => ?_)
  cases worker <;> rfl

theorem filterMap_held?_wake
    : (workers.map RefreshWorker.wake).filterMap RefreshWorker.held?
      = workers.filterMap RefreshWorker.held? := by
  rw [List.filterMap_map]
  refine List.filterMap_congr (fun worker _ => ?_)
  cases worker <;> rfl

namespace RefreshWorld

variable {world next : RefreshWorld κ ν}

theorem notify_spec {woken : Option Nat} (notified : world.notify woken = some next)
    (staffed : world.workers ≠ [])
    : ∃ workers,
        next = { world with workers }
        ∧ workers.filterMap RefreshWorker.serverId? = world.drained
        ∧ workers.filterMap RefreshWorker.held? = world.held
        ∧ workers ≠ []
        ∧ ∃ worker ∈ workers, worker.isWaiting = false := by
  cases woken with
  | none =>
      dsimp only [notify] at notified
      split at notified
      · cases notified
      · next busy =>
          cases notified
          refine ⟨world.workers, rfl, rfl, rfl, staffed, ?_⟩
          rw [Bool.not_eq_true, List.any_eq_false] at busy
          rcases List.exists_mem_of_ne_nil _ staffed with ⟨worker, member⟩
          exact ⟨worker, member, Bool.eq_false_iff.mpr (busy worker member)⟩
  | some index =>
      dsimp only [notify] at notified
      split at notified
      · next found =>
          cases notified
          rcases exists_between found with ⟨before, after, -, set⟩
          refine ⟨_, rfl, filterMap_set_of_eq RefreshWorker.serverId? found rfl,
            filterMap_set_of_eq RefreshWorker.held? found rfl, ?_, .looks, ?_, rfl⟩
          · rw [set]
            exact List.append_ne_nil_of_right_ne_nil _ (List.cons_ne_nil _ _)
          · rw [set]
            exact List.mem_append_right _ List.mem_cons_self
      · cases notified

/-- Since a shutdown, data only passes from the workers that held it to the callback. -/
structure Closing (world next : RefreshWorld κ ν) : Prop where
  closed : next.dispatcher.closed = true
  late
    : ∃ late, next.handed = world.handed ++ late ∧ (late ++ next.held).Perm world.held

theorem Closing.of_held {before : RefreshWorld κ ν} (closing : Closing before world)
    (closed : next.dispatcher.closed = world.dispatcher.closed)
    (handed : next.handed = world.handed) (held : next.held = world.held)
    : Closing before next := by
  rcases closing.late with ⟨late, shown, left⟩
  exact ⟨closed.trans closing.closed, late, handed.trans shown, held.symm ▸ left⟩

/-- A shutdown that has returned true has seen every worker end. -/
structure Drained (world : RefreshWorld κ ν) : Prop where
  begun : world.shutdowns ≠ 0 ∨ world.outcomes ≠ [] → world.dispatcher.closed = true
  ended : true ∈ world.outcomes → ∀ worker ∈ world.workers, worker.isEnded = true

theorem Drained.set (drained : world.Drained) {index : Nat} {worker : RefreshWorker κ ν}
    (found : world.workers[index]? = some worker) (active : worker.isEnded = false)
    (outcomes : next.outcomes = world.outcomes) (shutdowns : next.shutdowns = world.shutdowns)
    (closed : next.dispatcher.closed = world.dispatcher.closed)
    : next.Drained := by
  refine ⟨?_, fun finished => ?_⟩
  · rw [shutdowns, outcomes, closed]
    exact drained.begun
  · rw [outcomes] at finished
    have ended := drained.ended finished worker (List.mem_of_getElem? found)
    rw [active] at ended
    cases ended

end RefreshWorld

end Workers

variable {κ ν : Type*} [DecidableEq κ]

section Calls

variable {workers : List (RefreshWorker κ ν)} {serverId : κ}

theorem dataOf_held_eq_nil (absent : serverId ∉ workers.filterMap RefreshWorker.serverId?)
    : dataOf serverId (workers.filterMap RefreshWorker.held?) = [] := by
  induction workers with
  | nil => rfl
  | cons worker rest ih =>
      rw [List.filterMap_cons] at absent ⊢
      cases worker with
      | holds other data =>
          rw [RefreshWorker.serverId?, List.mem_cons, not_or] at absent
          rw [RefreshWorker.held?, dataOf_cons_ne (Ne.symm absent.1)]
          exact ih absent.2
      | drains other =>
          rw [RefreshWorker.serverId?, List.mem_cons, not_or] at absent
          exact ih absent.2
      | calls other data =>
          rw [RefreshWorker.serverId?, List.mem_cons, not_or] at absent
          exact ih absent.2
      | _ => exact ih absent

theorem dataOf_held_of_ne {worker : RefreshWorker κ ν} {other : κ}
    (here : worker.serverId? = some serverId) (ne : other ≠ serverId)
    : dataOf other worker.held?.toList = [] := by
  cases worker with
  | holds held data =>
      cases here
      rw [RefreshWorker.held?, Option.toList_some, dataOf_cons_ne (Ne.symm ne), dataOf_nil]
  | _ => rfl

theorem dataOf_held_set {index : Nat} {worker after : RefreshWorker κ ν}
    (found : workers[index]? = some worker)
    (distinct : (workers.filterMap RefreshWorker.serverId?).Nodup)
    (here : worker.serverId? = some serverId) (same : after.serverId? = some serverId) (other : κ)
    : dataOf other ((workers.set index after).filterMap RefreshWorker.held?)
      = if other = serverId then dataOf serverId after.held?.toList
        else dataOf other (workers.filterMap RefreshWorker.held?) := by
  rcases exists_between found with ⟨left, right, whole, set⟩
  rw [whole, filterMap_between, here, Option.toList_some, List.singleton_append,
    List.nodup_middle, List.nodup_cons, List.mem_append, not_or] at distinct
  rw [set, whole, filterMap_between, filterMap_between]
  simp only [dataOf_append]
  by_cases atServer : other = serverId
  · subst atServer
    rw [if_pos rfl, dataOf_held_eq_nil distinct.1.1, dataOf_held_eq_nil distinct.1.2,
      List.nil_append, List.append_nil]
  · rw [if_neg atServer, dataOf_held_of_ne same atServer, dataOf_held_of_ne here atServer]

theorem dataOf_held_self {index : Nat} {worker : RefreshWorker κ ν}
    (found : workers[index]? = some worker)
    (distinct : (workers.filterMap RefreshWorker.serverId?).Nodup)
    (here : worker.serverId? = some serverId)
    : dataOf serverId (workers.filterMap RefreshWorker.held?)
      = dataOf serverId worker.held?.toList := by
  have whole := dataOf_held_set found distinct here here serverId
  rw [if_pos rfl] at whole
  rcases List.getElem?_eq_some_iff.mp found with ⟨bound, same⟩
  rw [← same, List.set_getElem_self] at whole
  rw [whole, same]

theorem length_calling_le
    : (workers.filter (RefreshWorker.isCalling serverId)).length
      ≤ (workers.filterMap RefreshWorker.serverId?).count serverId := by
  induction workers with
  | nil => exact Nat.le_refl _
  | cons worker rest ih =>
      rw [List.filter_cons, List.filterMap_cons]
      cases worker with
      | calls other data =>
          rw [RefreshWorker.serverId?, List.count_cons]
          by_cases same : other = serverId
          · simpa [RefreshWorker.isCalling, same] using ih
          · simpa [RefreshWorker.isCalling, same] using ih
      | drains other => exact Nat.le_trans ih List.count_le_count_cons
      | holds other data => exact Nat.le_trans ih List.count_le_count_cons
      | _ => exact ih

end Calls

namespace RefreshWorld

/-- What holds of every state that a run reaches. -/
structure Sound (world : RefreshWorld κ ν) : Prop where
  staffed : world.workers ≠ []
  distinct : (world.dispatcher.ready ++ world.drained).Nodup
  running
    : world.dispatcher.closed = false
      → ∀ serverId,
          serverId ∈ world.dispatcher.running
          ↔ serverId ∈ world.dispatcher.ready ++ world.drained
  pending
    : ∀ serverId data,
        world.dispatcher.pending.get? serverId = some data
        → serverId ∈ world.dispatcher.ready ++ world.drained
  coalesced
    : world.dispatcher.closed = false
      → ∀ serverId,
          Coalesces (fun _ _ => True) (dataOf serverId world.submitted)
            (dataOf serverId (world.handed ++ world.held)
              ++ (world.dispatcher.pending.get? serverId).toList)
  awake : (∀ worker ∈ world.workers, worker.isWaiting = true) → world.dispatcher.ready = []

theorem sound_initial (maxWorkers : Int) : (initial maxWorkers : RefreshWorld κ ν).Sound := by
  have drained : (initial maxWorkers : RefreshWorld κ ν).drained = [] :=
    List.filterMap_replicate_of_none rfl
  have held : (initial maxWorkers : RefreshWorld κ ν).held = [] :=
    List.filterMap_replicate_of_none rfl
  have some_ : 0 < (max 1 maxWorkers).toNat := by omega
  refine ⟨?_, ?_, fun _ serverId => ?_, fun serverId data found => ?_, fun _ serverId => ?_,
    fun _ => rfl⟩
  · exact List.ne_nil_of_length_pos ((List.length_replicate).symm ▸ some_)
  · rw [drained]
    exact List.nodup_nil
  · rw [drained]
    exact Iff.rfl
  · cases found
  · rw [held]
    exact .nil

variable {world next : RefreshWorld κ ν}

theorem Sound.coalesced_submit (sound : world.Sound) (open_ : world.dispatcher.closed = false)
    (serverId : κ) (data : ν) (other : κ)
    : Coalesces (fun _ _ => True) (dataOf other (world.submitted ++ [(serverId, data)]))
        (dataOf other (world.handed ++ world.held)
          ++ ((world.dispatcher.pending.set serverId data).get? other).toList) := by
  have before := sound.coalesced open_ other
  rw [dataOf_append, Dict.get?_set]
  by_cases same : other = serverId
  · subst same
    rw [if_pos rfl, dataOf_cons_self, dataOf_nil]
    cases waits : world.dispatcher.pending.get? other with
    | none =>
        rw [waits, Option.toList_none, List.append_nil] at before
        exact before.concat data
    | some old =>
        rw [waits] at before
        exact before.replace trivial
  · rw [if_neg same, dataOf_cons_ne (Ne.symm same), dataOf_nil, List.append_nil]
    exact before

theorem Sound.submit (sound : world.Sound) {serverId : κ} {data : ν} {woken : Option Nat}
    (taken : refreshStep world (.submit serverId data woken) = some next)
    : next.Sound := by
  dsimp only [refreshStep] at taken
  cases closed : world.dispatcher.closed with
  | true =>
      simp only [SessionRefreshDispatcher.submit, SessionRefreshDispatcher.notifies, closed,
        if_true, Bool.not_true, Bool.false_and, Bool.false_eq_true, if_false] at taken
      cases taken
      exact sound
  | false =>
      by_cases runs : serverId ∈ world.dispatcher.running
      · simp only [SessionRefreshDispatcher.submit, SessionRefreshDispatcher.notifies, closed, runs,
          Bool.false_eq_true, if_false, if_true, not_true_eq_false, decide_false,
          Bool.and_false] at taken
        cases taken
        refine ⟨sound.staffed, sound.distinct, fun _ => sound.running closed,
          fun other later found => ?_,
          fun _ => sound.coalesced_submit closed serverId data, sound.awake⟩
        rw [Dict.get?_set] at found
        split at found
        · next same =>
            rw [same]
            exact (sound.running closed serverId).mp runs
        · exact sound.pending other later found
      · simp only [SessionRefreshDispatcher.submit, SessionRefreshDispatcher.notifies, closed, runs,
          Bool.false_eq_true, if_false, if_true, not_false_eq_true, decide_true,
          Bool.not_false, Bool.and_true] at taken
        rcases notify_spec taken sound.staffed with
          ⟨workers, rfl, drained, held, staffed, worker, member, active⟩
        have absent : serverId ∉ world.dispatcher.ready ++ world.drained :=
          (sound.running closed serverId).not.mp runs
        have moved
            : ((world.dispatcher.ready ++ [serverId])
                ++ workers.filterMap RefreshWorker.serverId?).Perm
              (serverId :: (world.dispatcher.ready ++ world.drained)) := by
          rw [drained, List.append_assoc]
          exact List.perm_middle
        refine ⟨staffed, ?_, fun _ other => ?_, fun other later found => moved.mem_iff.mpr ?_,
          fun _ other => ?_, fun idle => ?_⟩
        · exact moved.nodup_iff.mpr (List.nodup_cons.mpr ⟨absent, sound.distinct⟩)
        · rw [List.mem_append, List.mem_singleton, sound.running closed other, or_comm,
            ← List.mem_cons]
          exact moved.mem_iff.symm
        · rw [Dict.get?_set] at found
          split at found
          · next same =>
              rw [same]
              exact List.mem_cons_self
          · exact List.mem_cons_of_mem _ (sound.pending other later found)
        · have coalesced := sound.coalesced_submit closed serverId data other
          have same : workers.filterMap RefreshWorker.held? = world.held := held
          rw [← same] at coalesced
          exact coalesced
        · have waits := idle worker member
          rw [active] at waits
          cases waits

theorem Sound.move (sound : world.Sound) {index : Nat} {worker : RefreshWorker κ ν}
    (found : world.workers[index]? = some worker) (after : RefreshWorker κ ν)
    (same : after.serverId? = worker.serverId?)
    (awake : after.isWaiting = false ∨ world.dispatcher.ready = []) {pending : Dict κ ν}
    (fewer
      : ∀ serverId data,
          pending.get? serverId = some data
          → world.dispatcher.pending.get? serverId = some data)
    {handed : List (κ × ν)}
    (coalesced
      : world.dispatcher.closed = false
        → ∀ serverId,
            Coalesces (fun _ _ => True) (dataOf serverId world.submitted)
              (dataOf serverId
                  (handed ++ (world.workers.set index after).filterMap RefreshWorker.held?)
                ++ (pending.get? serverId).toList))
    : ({ world with
          dispatcher := { world.dispatcher with pending }
          workers := world.workers.set index after
          handed } : RefreshWorld κ ν).Sound := by
  have drained
      : (world.workers.set index after).filterMap RefreshWorker.serverId? = world.drained :=
    filterMap_set_of_eq RefreshWorker.serverId? found same
  rcases exists_between found with ⟨before, rest, whole, set⟩
  refine ⟨?_, ?_, fun open_ serverId => ?_, fun serverId data kept => ?_, coalesced,
    fun idle => ?_⟩
  · dsimp only
    rw [set]
    exact List.append_ne_nil_of_right_ne_nil _ (List.cons_ne_nil _ _)
  · unfold RefreshWorld.drained
    rw [drained]
    exact sound.distinct
  · unfold RefreshWorld.drained
    rw [drained]
    exact sound.running open_ serverId
  · unfold RefreshWorld.drained
    rw [drained]
    exact sound.pending serverId data (fewer serverId data kept)
  · rcases awake with active | empty
    · have waits := idle after (set after ▸ List.mem_append_right _ List.mem_cons_self)
      rw [active] at waits
      cases waits
    · exact empty

theorem Sound.look (sound : world.Sound) {index : Nat}
    (taken : refreshStep world (.look index) = some next)
    : next.Sound := by
  dsimp only [refreshStep] at taken
  split at taken
  · next found =>
      rcases exists_between found with ⟨before, after, whole, set⟩
      have held (worker : RefreshWorker κ ν) (free : worker.held? = none)
          : (world.workers.set index worker).filterMap RefreshWorker.held? = world.held :=
        filterMap_set_of_eq RefreshWorker.held? found free
      split at taken
      · next serverId ready first =>
          cases taken
          have moved
              : (ready
                  ++ (world.workers.set index (.drains serverId)).filterMap
                      RefreshWorker.serverId?).Perm
                (world.dispatcher.ready ++ world.drained) := by
            unfold drained
            rw [first, set, whole, filterMap_between, filterMap_between]
            simp only [RefreshWorker.serverId?, Option.toList_some, Option.toList_none,
              List.nil_append, List.singleton_append, ← List.append_assoc]
            exact List.perm_middle
          refine ⟨?_, moved.nodup_iff.mpr sound.distinct, fun open_ other => ?_,
            fun other data waits => moved.mem_iff.mpr (sound.pending other data waits),
            fun open_ other => ?_, fun idle => ?_⟩
          · dsimp only
            rw [set]
            exact List.append_ne_nil_of_right_ne_nil _ (List.cons_ne_nil _ _)
          · exact (sound.running open_ other).trans moved.mem_iff.symm
          · have coalesced := sound.coalesced open_ other
            rw [← held (.drains serverId) rfl] at coalesced
            exact coalesced
          · have waits :=
              idle (.drains serverId) (set _ ▸ List.mem_append_right _ List.mem_cons_self)
            cases waits
      · next none =>
          cases taken
          refine sound.move found _ ?_ (.inr none) (fun _ _ waits => waits) (fun open_ other => ?_)
          · split <;> rfl
          · rw [held _ (by split <;> rfl)]
            exact sound.coalesced open_ other
  · cases taken

theorem Sound.shutdown (sound : world.Sound)
    (taken : refreshStep world .shutdown = some next)
    : next.Sound := by
  cases taken
  have drained
      : (world.workers.map RefreshWorker.wake).filterMap RefreshWorker.serverId? = world.drained :=
    filterMap_serverId?_wake
  refine ⟨?_, ?_, fun open_ => ?_, fun serverId data found => ?_, fun open_ => ?_, fun _ => rfl⟩
  · exact fun none => sound.staffed (List.map_eq_nil_iff.mp none)
  · unfold RefreshWorld.drained
    rw [drained]
    exact (List.nodup_append.mp sound.distinct).2.1
  · cases open_
  · cases found
  · cases open_

theorem Sound.distinct_drained (sound : world.Sound) : world.drained.Nodup :=
  (List.nodup_append.mp sound.distinct).2.1

theorem Sound.take (sound : world.Sound) {index : Nat}
    (taken : refreshStep world (.take index) = some next)
    : next.Sound := by
  dsimp only [refreshStep] at taken
  split at taken
  · next serverId found =>
      have kept (other : κ) (data : ν)
          (waits : (world.dispatcher.pending.erase serverId).get? other = some data)
          : other ≠ serverId ∧ world.dispatcher.pending.get? other = some data := by
        rw [Dict.get?_erase, Option.ite_none_left_eq_some] at waits
        exact waits
      split at taken
      · next data here =>
          cases taken
          refine sound.move found (.holds serverId data) rfl (.inl rfl)
            (fun other later waits => (kept other later waits).2) (fun open_ other => ?_)
          have coalesced := sound.coalesced open_ other
          have waits : world.dispatcher.pending.get? serverId = some data := by
            simpa only [SessionRefreshDispatcher.nextData, open_, Bool.false_eq_true, if_false]
              using here
          rw [dataOf_append, dataOf_held_set found sound.distinct_drained rfl rfl, Dict.get?_erase]
          rw [dataOf_append] at coalesced
          split
          · next same =>
              subst same
              have none : dataOf other world.held = [] :=
                dataOf_held_self found sound.distinct_drained rfl
              rw [none, waits, List.append_nil] at coalesced
              simpa [RefreshWorker.held?, dataOf_cons_self, dataOf_nil] using coalesced
          · exact coalesced
      · next none =>
          cases taken
          rcases exists_between found with ⟨before, after, whole, set⟩
          have moved
              : (world.dispatcher.ready ++ world.drained).Perm
                (serverId
                  :: (world.dispatcher.ready
                      ++ (world.workers.set index .looks).filterMap
                          RefreshWorker.serverId?)) := by
            unfold drained
            rw [set, whole, filterMap_between, filterMap_between]
            simp only [RefreshWorker.serverId?, Option.toList_some, Option.toList_none,
              List.nil_append, List.singleton_append, ← List.append_assoc]
            exact List.perm_middle
          have distinct := List.nodup_cons.mp (moved.nodup_iff.mp sound.distinct)
          have left (other : κ)
              : other ∈ world.dispatcher.ready
                    ++ (world.workers.set index .looks).filterMap RefreshWorker.serverId?
                ↔ other ∈ world.dispatcher.ready ++ world.drained ∧ other ≠ serverId := by
            rw [moved.mem_iff, List.mem_cons]
            constructor
            · intro member
              exact ⟨.inr member, fun same => distinct.1 (same ▸ member)⟩
            · rintro ⟨here | there, ne⟩
              · exact absurd here ne
              · exact there
          refine ⟨?_, distinct.2, fun open_ other => ?_, fun other data waits => ?_,
            fun open_ other => ?_, fun idle => ?_⟩
          · dsimp only
            rw [set]
            exact List.append_ne_nil_of_right_ne_nil _ (List.cons_ne_nil _ _)
          · rw [List.mem_filter, sound.running open_ other, decide_eq_true_eq]
            exact (left other).symm
          · rcases kept other data waits with ⟨ne, before⟩
            exact (left other).mpr ⟨sound.pending other data before, ne⟩
          · have coalesced := sound.coalesced open_ other
            have isOpen : world.dispatcher.closed = false := open_
            have free : world.dispatcher.pending.get? serverId = Option.none := by
              simpa only [SessionRefreshDispatcher.nextData, isOpen, Bool.false_eq_true, if_false]
                using none
            have held : (world.workers.set index .looks).filterMap RefreshWorker.held?
                = world.held :=
              filterMap_set_of_eq RefreshWorker.held? found rfl
            rw [← held] at coalesced
            rw [Dict.get?_erase]
            split
            · next same =>
                rw [same, free] at coalesced
                rw [same]
                exact coalesced
            · exact coalesced
          · have waits := idle .looks (set _ ▸ List.mem_append_right _ List.mem_cons_self)
            cases waits
  · cases taken

theorem Sound.callbackStarts (sound : world.Sound) {index : Nat}
    (taken : refreshStep world (.callbackStarts index) = some next)
    : next.Sound := by
  dsimp only [refreshStep] at taken
  split at taken
  · next serverId data found =>
      cases taken
      refine sound.move found (.calls serverId data) rfl (.inl rfl) (fun _ _ waits => waits)
        (fun open_ other => ?_)
      have coalesced := sound.coalesced open_ other
      rw [dataOf_append, dataOf_append, dataOf_held_set found sound.distinct_drained rfl rfl]
      rw [dataOf_append] at coalesced
      split
      · next same =>
          subst same
          have held : dataOf other world.held = [data] := by
            refine (dataOf_held_self found sound.distinct_drained rfl).trans ?_
            rw [RefreshWorker.held?, Option.toList_some, dataOf_cons_self, dataOf_nil]
          rw [held] at coalesced
          simpa [RefreshWorker.held?, dataOf_cons_self, dataOf_nil] using coalesced
      · next ne =>
          rw [dataOf_cons_ne (Ne.symm ne), dataOf_nil, List.append_nil]
          exact coalesced
  · cases taken

theorem Sound.callbackEnds (sound : world.Sound) {index : Nat} {failed : Bool}
    (taken : refreshStep world (.callbackEnds index failed) = some next)
    : next.Sound := by
  dsimp only [refreshStep] at taken
  split at taken
  · next serverId data found =>
      cases taken
      refine sound.move found (.drains serverId) rfl (.inl rfl) (fun _ _ waits => waits)
        (fun open_ other => ?_)
      have held
          : (world.workers.set index (.drains serverId)).filterMap RefreshWorker.held?
            = world.held :=
        filterMap_set_of_eq RefreshWorker.held? found rfl
      rw [held]
      exact sound.coalesced open_ other
  · cases taken

theorem Sound.step (sound : world.Sound) {event : RefreshEvent κ ν}
    (taken : refreshStep world event = some next)
    : next.Sound := by
  cases event with
  | submit serverId data woken => exact sound.submit taken
  | look index => exact sound.look taken
  | take index => exact sound.take taken
  | callbackStarts index => exact sound.callbackStarts taken
  | callbackEnds index failed => exact sound.callbackEnds taken
  | shutdown => exact sound.shutdown taken
  | shutdownReturns =>
      dsimp only [refreshStep] at taken
      split at taken
      · cases taken
      · cases taken
        exact ⟨sound.staffed, sound.distinct, sound.running, sound.pending, sound.coalesced,
          sound.awake⟩

section Shutdowns

theorem submit_closed (closed : world.dispatcher.closed = true) {serverId : κ} {data : ν}
    {woken : Option Nat}
    (taken : refreshStep world (.submit serverId data woken) = some next)
    : next = world := by
  simp only [refreshStep, SessionRefreshDispatcher.submit, SessionRefreshDispatcher.notifies,
    closed, if_true, Bool.not_true, Bool.false_and, Bool.false_eq_true, if_false] at taken
  cases taken
  rfl

theorem Closing.step {before : RefreshWorld κ ν} (closing : Closing before world)
    {event : RefreshEvent κ ν} (taken : refreshStep world event = some next)
    : Closing before next := by
  cases event with
  | submit serverId data woken =>
      rw [submit_closed closing.closed taken]
      exact closing
  | look index =>
      dsimp only [refreshStep] at taken
      split at taken
      · next found =>
          split at taken
          · cases taken
            exact closing.of_held rfl rfl (filterMap_set_of_eq RefreshWorker.held? found rfl)
          · cases taken
            refine closing.of_held rfl rfl (filterMap_set_of_eq RefreshWorker.held? found ?_)
            split <;> rfl
      · cases taken
  | take index =>
      dsimp only [refreshStep] at taken
      split at taken
      · next serverId found =>
          rw [SessionRefreshDispatcher.nextData, if_pos closing.closed] at taken
          cases taken
          exact closing.of_held rfl rfl (filterMap_set_of_eq RefreshWorker.held? found rfl)
      · cases taken
  | callbackStarts index =>
      dsimp only [refreshStep] at taken
      split at taken
      · next serverId data found =>
          cases taken
          rcases closing.late with ⟨late, handed, left⟩
          refine ⟨closing.closed, late ++ [(serverId, data)], ?_, ?_⟩
          · rw [← List.append_assoc, ← handed]
          · rcases exists_between found with ⟨front, rest, whole, set⟩
            unfold held at left ⊢
            rw [whole, filterMap_between] at left
            rw [set, filterMap_between]
            refine List.Perm.trans ?_ left
            rw [List.append_assoc]
            exact (@List.perm_middle _ (serverId, data) (front.filterMap RefreshWorker.held?)
              (rest.filterMap RefreshWorker.held?)).symm.append_left late
      · cases taken
  | callbackEnds index failed =>
      dsimp only [refreshStep] at taken
      split at taken
      · next found =>
          cases taken
          exact closing.of_held rfl rfl (filterMap_set_of_eq RefreshWorker.held? found rfl)
      · cases taken
  | shutdown =>
      cases taken
      exact closing.of_held closing.closed.symm rfl filterMap_held?_wake
  | shutdownReturns =>
      dsimp only [refreshStep] at taken
      split at taken
      · cases taken
      · cases taken
        exact closing.of_held rfl rfl rfl

theorem Drained.step (drained : world.Drained) {event : RefreshEvent κ ν}
    (taken : refreshStep world event = some next)
    : next.Drained := by
  cases event with
  | submit serverId data woken =>
      cases closed : world.dispatcher.closed with
      | true =>
          rw [submit_closed closed taken]
          exact drained
      | false =>
          have unbegun : ¬ (world.shutdowns ≠ 0 ∨ world.outcomes ≠ []) := by
            intro begun
            rw [drained.begun begun] at closed
            cases closed
          have same : next.shutdowns = world.shutdowns ∧ next.outcomes = world.outcomes := by
            dsimp only [refreshStep] at taken
            split at taken
            · unfold notify at taken
              grind
            · cases taken
              exact ⟨rfl, rfl⟩
          refine ⟨fun begun => absurd ?_ unbegun, fun finished => absurd ?_ unbegun⟩
          · rw [← same.1, ← same.2]
            exact begun
          · rw [same.2] at finished
            exact .inr (List.ne_nil_of_mem finished)
  | look index =>
      dsimp only [refreshStep] at taken
      split at taken
      · next found => split at taken <;> cases taken <;> exact drained.set found rfl rfl rfl rfl
      · cases taken
  | take index =>
      dsimp only [refreshStep] at taken
      split at taken
      · next found => split at taken <;> cases taken <;> exact drained.set found rfl rfl rfl rfl
      · cases taken
  | callbackStarts index =>
      dsimp only [refreshStep] at taken
      split at taken
      · next found =>
          cases taken
          exact drained.set found rfl rfl rfl rfl
      · cases taken
  | callbackEnds index failed =>
      dsimp only [refreshStep] at taken
      split at taken
      · next found =>
          cases taken
          exact drained.set found rfl rfl rfl rfl
      · cases taken
  | shutdown =>
      cases taken
      refine ⟨fun _ => rfl, fun finished worker member => ?_⟩
      rcases List.mem_map.mp member with ⟨before, listed, rfl⟩
      have ended := drained.ended finished before listed
      cases before <;> exact ended
  | shutdownReturns =>
      dsimp only [refreshStep] at taken
      split at taken
      · cases taken
      · next begun =>
          cases taken
          refine ⟨fun _ => drained.begun (.inl begun), fun finished => ?_⟩
          rcases List.mem_append.mp finished with earlier | now
          · exact drained.ended earlier
          · exact List.all_eq_true.mp (List.mem_singleton.mp now).symm

end Shutdowns

end RefreshWorld

section Runs

variable {admits : RefreshWorld κ ν → RefreshEvent κ ν → Prop} {maxWorkers : Int}
  {events : List (RefreshEvent κ ν)} {world : RefreshWorld κ ν}

open RefreshWorld

/-- Work is neither lost nor doubled while the dispatcher is open. Once it is closed, the callback
gets at most what the workers held then, and nothing when a shutdown has seen them all end.
-/
theorem session_refreshes_delivered
    (run : Run refreshStep admits (.initial maxWorkers) events world)
    : (∀ serverId, (world.workers.filter (RefreshWorker.isCalling serverId)).length ≤ 1)
      ∧ (∀ serverId data,
          world.dispatcher.pending.get? serverId = some data
          → (world.dispatcher.ready ++ world.drained).count serverId = 1)
      ∧ (world.dispatcher.closed = false
        → ∀ serverId,
            Coalesces (fun _ _ => True) (dataOf serverId world.submitted)
              (dataOf serverId (world.handed ++ world.held)
                ++ (world.dispatcher.pending.get? serverId).toList))
      ∧ (world.dispatcher.closed = false
        → (∀ worker ∈ world.workers, worker.isWaiting = true)
        → ∀ serverId,
            Coalesces (fun _ _ => True) (dataOf serverId world.submitted)
              (dataOf serverId world.handed)
            ∧ (dataOf serverId world.submitted).getLast?
              = (dataOf serverId world.handed).getLast?)
      ∧ (world.dispatcher.closed = true
        → ∀ later finish,
            Run refreshStep admits world later finish
            → ∃ late,
                finish.handed = world.handed ++ late
                ∧ late.Subperm world.held
                ∧ (true ∈ world.outcomes → late = [])) := by
  have sound : world.Sound :=
    run.preserves Sound (fun sound _ taken => sound.step taken) (sound_initial maxWorkers)
  have drained : world.Drained :=
    run.preserves Drained (fun drained _ taken => drained.step taken)
      ⟨fun begun => by simp [RefreshWorld.initial] at begun, fun finished => by cases finished⟩
  refine ⟨fun serverId => ?_, fun serverId data waits => ?_, sound.coalesced,
    fun open_ idle serverId => ?_, fun closed later finish rest => ?_⟩
  · exact Nat.le_trans length_calling_le
      (List.nodup_iff_count_le_one.mp sound.distinct_drained serverId)
  · exact List.count_eq_one_of_mem sound.distinct (sound.pending serverId data waits)
  · have free {worker : RefreshWorker κ ν} (member : worker ∈ world.workers)
        : worker = .waits := by
      have waits := idle worker member
      cases worker <;> first | rfl | cases waits
    have nowhere : world.drained = [] :=
      List.filterMap_eq_nil_iff.mpr (fun worker member => free member ▸ rfl)
    have nothing : world.held = [] :=
      List.filterMap_eq_nil_iff.mpr (fun worker member => free member ▸ rfl)
    have coalesced := sound.coalesced open_ serverId
    cases waits : world.dispatcher.pending.get? serverId with
    | some data =>
        have member := sound.pending serverId data waits
        rw [sound.awake idle, nowhere] at member
        cases member
    | none =>
        rw [nothing, waits, Option.toList_none, List.append_nil, List.append_nil] at coalesced
        exact ⟨coalesced, coalesced.getLast?_eq⟩
  · have closing : Closing world finish :=
      rest.preserves (Closing world) (fun closing _ taken => closing.step taken)
        ⟨closed, [], (List.append_nil _).symm, .refl _⟩
    rcases closing.late with ⟨late, handed, left⟩
    refine ⟨late, handed, (List.sublist_append_left late _).subperm.trans left.subperm,
      fun finished => ?_⟩
    have nothing : world.held = [] := by
      refine List.filterMap_eq_nil_iff.mpr (fun worker member => ?_)
      have ended := drained.ended finished worker member
      cases worker <;> first | rfl | cases ended
    rw [nothing] at left
    exact (List.append_eq_nil_iff.mp left.eq_nil).1

/-- The second submission comes during the first callback and the third replaces it. -/
def threeSubmissions : List (RefreshEvent String Nat) :=
  [.submit "green" 1 none, .look 0, .take 0, .callbackStarts 0, .submit "green" 2 none,
    .submit "green" 3 none, .callbackEnds 0 true, .take 0, .callbackStarts 0,
    .callbackEnds 0 false, .take 0, .look 0, .look 1]

theorem second_submission_superseded
    : ∃ world : RefreshWorld String Nat,
        world.handed = [("green", 1), ("green", 3)]
        ∧ Coalesces (fun _ _ => True) (dataOf "green" world.submitted)
            (dataOf "green" world.handed) := by
  have reached
      : ∃ world : RefreshWorld String Nat,
          Run refreshStep (fun _ _ => True) (.initial 2) threeSubmissions world
          ∧ world.handed = [("green", 1), ("green", 3)]
          ∧ world.dispatcher.closed = false
          ∧ ∀ worker ∈ world.workers, worker.isWaiting = true :=
    Run.exists_of_execute (by decide)
  rcases reached with ⟨world, run, handed, open_, idle⟩
  exact ⟨world, handed, ((session_refreshes_delivered run).2.2.2.1 open_ idle "green").1⟩

def shutdownTimesOut : List (RefreshEvent String Nat) :=
  [.submit "green" 1 none, .look 0, .take 0, .shutdown, .shutdownReturns]

/-- A worker has taken its data when the shutdown comes, which waits no longer than its timeout. -/
theorem callback_starts_after_shutdown
    : ∃ world finish : RefreshWorld String Nat,
        Run refreshStep (fun _ _ => True) (.initial 1) shutdownTimesOut world
        ∧ world.outcomes = [false]
        ∧ Run refreshStep (fun _ _ => True) world [.callbackStarts 0] finish
        ∧ world.handed = []
        ∧ finish.handed = [("green", 1)] := by
  refine ⟨_, _, .cons trivial rfl (.cons trivial rfl (.cons trivial rfl (.cons trivial rfl
    (.cons trivial rfl (.nil _))))), rfl, .cons trivial rfl (.nil _), rfl, rfl⟩

end Runs

end OctoHubs.Realtime
