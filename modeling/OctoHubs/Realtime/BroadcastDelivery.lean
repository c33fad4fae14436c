import OctoHubs.Realtime.ScanBroadcasts

/-! The last word of a scan job is sent: what is queued for it is broadcast or replaced by what is,
as long as nothing is scheduled for a job whose drain has found nothing and has not ended.
-/

namespace OctoHubs.Realtime

open OctoHubs.Library

section Lists

theorem perm_eraseIdx {α : Type*} {entries : List α} {index : Nat} {entry : α}
    (found : entries[index]? = some entry)
    : entries.Perm (entry :: entries.eraseIdx index) := by
  rcases List.getElem?_eq_some_iff.mp found with ⟨bound, rfl⟩
  exact (List.getElem_cons_eraseIdx_perm bound).symm

theorem map_jobId_set {κ : Type*} {drains : List (BroadcastDrain κ)} {index : Nat} {drain : BroadcastDrain κ}
    (found : drains[index]? = some drain) (phase : DrainPhase)
    : (drains.set index ⟨drain.jobId, phase⟩).map BroadcastDrain.jobId
      = drains.map BroadcastDrain.jobId := by
  rcases List.getElem?_eq_some_iff.mp found with ⟨bound, same⟩
  have bound' : index < (drains.map BroadcastDrain.jobId).length := by
    rw [List.length_map]
    exact bound
  have whole := List.set_getElem_self bound'
  rw [List.getElem_map, same] at whole
  rw [List.map_set]
  exact whole

end Lists

variable {κ ν : Type*} [DecidableEq κ]

namespace BroadcastWorld

/-- What holds of every state that a run between the drains reaches. -/
structure Sound (world : BroadcastWorld κ ν) : Prop where
  distinct : world.tasks.Nodup
  scheduled : ∀ jobId, jobId ∈ world.schedule.scheduledJobs ↔ jobId ∈ world.tasks
  finishing
    : ∀ jobId, world.finishing = some jobId → jobId ∉ world.schedule.scheduledJobs
  waiting
    : ∀ jobId message,
        world.schedule.scheduledBroadcasts.get? jobId = some message
        → jobId ∈ world.schedule.scheduledJobs
  coalesced
    : ∀ jobId,
        Coalesces Supersedes (dataOf jobId world.queued)
          (dataOf jobId world.handed
            ++ (world.schedule.scheduledBroadcasts.get? jobId).toList)
  givenUp
    : ∀ jobId message current,
        (jobId, message, current) ∈ world.givenUp
        → message.terminal = false
          ∧ current.terminal = true
          ∧ current ∈ dataOf jobId world.queued

theorem sound_initial : (initial : BroadcastWorld κ ν).Sound := by
  refine ⟨List.nodup_nil, fun _ => Iff.rfl, fun _ finishing => ?_, fun _ _ found => ?_,
    fun _ => .nil, fun _ _ _ member => ?_⟩
  · cases finishing
  · cases found
  · cases member

variable {world next : BroadcastWorld κ ν}

theorem Sound.move (sound : world.Sound) (tasks : next.tasks.Perm world.tasks)
    (schedule : next.schedule = world.schedule) (finishing : next.finishing = world.finishing)
    (queued : next.queued = world.queued) (givenUp : next.givenUp = world.givenUp)
    (handed : next.handed = world.handed)
    : next.Sound := by
  refine ⟨tasks.nodup_iff.mpr sound.distinct, fun jobId => ?_, ?_, ?_, ?_, ?_⟩
  · rw [schedule, sound.scheduled]
    exact tasks.mem_iff.symm
  · rw [schedule, finishing]
    exact sound.finishing
  · rw [schedule]
    exact sound.waiting
  · rw [schedule, queued, handed]
    exact sound.coalesced
  · rw [givenUp, queued]
    exact sound.givenUp

theorem keeps?_eq_some_iff {schedule : BroadcastSchedule κ ν} {jobId : κ}
    {message current : ScanMessage ν}
    : schedule.keeps? jobId message = some current
      ↔ schedule.scheduledBroadcasts.get? jobId = some current
        ∧ current.terminal = true
        ∧ message.terminal = false := by
  unfold BroadcastSchedule.keeps?
  rw [Option.filter_eq_some_iff, Bool.and_eq_true, Bool.not_eq_true']

theorem Sound.scheduledJobs_schedule (sound : world.Sound) (jobId : κ) (message : ScanMessage ν)
    (free : world.finishing ≠ some jobId)
    : let result := world.schedule.scheduleBroadcast jobId message
      let tasks :=
        (if result.2 then world.calls ++ [jobId] else world.calls) ++ world.starts
          ++ world.drains.map BroadcastDrain.jobId
      tasks.Nodup
      ∧ jobId ∈ result.1.scheduledJobs
      ∧ (∀ other, other ∈ result.1.scheduledJobs ↔ other ∈ tasks)
      ∧ (∀ other, world.finishing = some other → other ∉ result.1.scheduledJobs) := by
  by_cases runs : jobId ∈ world.schedule.scheduledJobs
  · simp only [BroadcastSchedule.scheduleBroadcast, runs, if_true, Bool.false_eq_true, if_false]
    exact ⟨sound.distinct, trivial, sound.scheduled, sound.finishing⟩
  · simp only [BroadcastSchedule.scheduleBroadcast, runs, if_false, if_true]
    have moved
        : ((world.calls ++ [jobId]) ++ world.starts
            ++ world.drains.map BroadcastDrain.jobId).Perm (jobId :: world.tasks) := by
      unfold tasks
      rw [List.append_assoc, List.append_assoc, List.append_assoc]
      exact List.perm_middle
    have absent : jobId ∉ world.tasks := (sound.scheduled jobId).not.mp runs
    refine ⟨moved.nodup_iff.mpr (List.nodup_cons.mpr ⟨absent, sound.distinct⟩), ?_,
      fun other => ?_, fun other finishing member => ?_⟩
    · exact List.mem_append_right _ (List.mem_singleton_self _)
    · rw [moved.mem_iff, List.mem_append, List.mem_singleton, List.mem_cons,
        sound.scheduled other, or_comm]
    · rcases List.mem_append.mp member with before | same
      · exact sound.finishing other finishing before
      · rw [List.mem_singleton.mp same] at finishing
        exact free finishing

theorem scheduledBroadcasts_schedule (schedule : BroadcastSchedule κ ν) (jobId : κ)
    (message : ScanMessage ν)
    : (schedule.scheduleBroadcast jobId message).1.scheduledBroadcasts
      = match schedule.keeps? jobId message with
        | some _ => schedule.scheduledBroadcasts
        | none => schedule.scheduledBroadcasts.set jobId message := by
  unfold BroadcastSchedule.scheduleBroadcast
  dsimp only
  split <;> rfl

theorem mem_scheduledJobs_schedule {schedule : BroadcastSchedule κ ν} {jobId other : κ}
    {message : ScanMessage ν} (before : other ∈ schedule.scheduledJobs)
    : other ∈ (schedule.scheduleBroadcast jobId message).1.scheduledJobs := by
  unfold BroadcastSchedule.scheduleBroadcast
  dsimp only
  split
  · exact before
  · exact List.mem_append_left _ before

theorem Sound.coalesced_schedule (sound : world.Sound) {jobId : κ} {message : ScanMessage ν}
    (queues : world.schedule.keeps? jobId message = none) (other : κ)
    : Coalesces Supersedes (dataOf other (world.queued ++ [(jobId, message)]))
        (dataOf other world.handed
          ++ ((world.schedule.scheduledBroadcasts.set jobId message).get? other).toList) := by
  have before := sound.coalesced other
  rw [Dict.get?_set]
  by_cases same : other = jobId
  · subst same
    rw [if_pos rfl, dataOf_concat_self, Option.toList_some]
    cases waits : world.schedule.scheduledBroadcasts.get? other with
    | none =>
        rw [waits, Option.toList_none, List.append_nil] at before
        exact before.concat message
    | some current =>
        rw [waits] at before
        refine before.replace (fun terminal => ?_)
        by_contra progress
        have kept := keeps?_eq_some_iff.mpr ⟨waits, terminal, Bool.eq_false_iff.mpr progress⟩
        rw [queues] at kept
        cases kept
  · rw [if_neg same, dataOf_concat_ne (Ne.symm same)]
    exact before

theorem Sound.mem_queued (sound : world.Sound) {jobId : κ} {current : ScanMessage ν}
    (waits : world.schedule.scheduledBroadcasts.get? jobId = some current)
    : current ∈ dataOf jobId world.queued := by
  refine (sound.coalesced jobId).sublist.mem ?_
  rw [waits]
  exact List.mem_append_right _ (List.mem_singleton_self _)

theorem Sound.schedule (sound : world.Sound) {jobId : κ} {message : ScanMessage ν}
    (free : world.finishing ≠ some jobId)
    (taken : broadcastStep world (.schedule jobId message) = some next)
    : next.Sound := by
  rcases sound.scheduledJobs_schedule jobId message free with
    ⟨distinct, here, scheduled, finishing⟩
  have slot := scheduledBroadcasts_schedule world.schedule jobId message
  dsimp only [broadcastStep] at taken
  cases keeps : world.schedule.keeps? jobId message with
  | some current =>
      rw [keeps] at taken slot
      cases taken
      rcases keeps?_eq_some_iff.mp keeps with ⟨waits, terminal, progress⟩
      refine ⟨distinct, scheduled, finishing, fun other later found => ?_, fun other => ?_,
        fun other given kept member => ?_⟩
      · dsimp only at found slot
        rw [slot] at found
        exact mem_scheduledJobs_schedule (sound.waiting other later found)
      · dsimp only at slot ⊢
        rw [slot]
        exact sound.coalesced other
      · rcases List.mem_append.mp member with before | added
        · exact sound.givenUp other given kept before
        · cases List.mem_singleton.mp added
          exact ⟨progress, terminal, sound.mem_queued waits⟩
  | none =>
      rw [keeps] at taken slot
      cases taken
      refine ⟨distinct, scheduled, finishing, fun other later found => ?_, fun other => ?_,
        fun other given kept member => ?_⟩
      · dsimp only at found slot
        rw [slot, Dict.get?_set] at found
        split at found
        · next same =>
            rw [same]
            exact here
        · exact mem_scheduledJobs_schedule (sound.waiting other later found)
      · dsimp only at slot ⊢
        rw [slot]
        exact sound.coalesced_schedule keeps other
      · rcases sound.givenUp other given kept member with ⟨progress, terminal, listed⟩
        refine ⟨progress, terminal, ?_⟩
        rw [dataOf_append]
        exact List.mem_append_left _ listed

theorem Sound.drain (sound : world.Sound) {index : Nat}
    (taken : broadcastStep world (.drain index) = some next)
    : next.Sound := by
  dsimp only [broadcastStep] at taken
  split at taken
  · next jobId idle found =>
      have names := map_jobId_set found
      split at taken
      · next message waits =>
          cases taken
          have tasks
              : world.calls ++ world.starts
                  ++ (world.drains.set index ⟨jobId, .broadcasts⟩).map BroadcastDrain.jobId
                = world.tasks := by
            rw [names .broadcasts]
            rfl
          refine ⟨?_, fun other => ?_, sound.finishing, fun other later found => ?_,
            fun other => ?_, sound.givenUp⟩
          · have distinct := sound.distinct
            rw [← tasks] at distinct
            exact distinct
          · have scheduled := sound.scheduled other
            rw [← tasks] at scheduled
            exact scheduled
          · rw [BroadcastSchedule.popBroadcast, Dict.get?_erase,
              Option.ite_none_left_eq_some] at found
            exact sound.waiting other later found.2
          · have before := sound.coalesced other
            rw [BroadcastSchedule.popBroadcast, Dict.get?_erase]
            split
            · next same =>
                subst same
                rw [waits] at before
                rw [dataOf_concat_self, Option.toList_none, List.append_nil]
                exact before
            · next other_ =>
                rw [dataOf_concat_ne (Ne.symm other_)]
                exact before
      · next nothing =>
          cases taken
          have moved
              : world.tasks.Perm
                (jobId
                  :: (world.calls ++ world.starts
                      ++ (world.drains.eraseIdx index).map BroadcastDrain.jobId)) := by
            have split := (perm_eraseIdx found).map BroadcastDrain.jobId
            exact (split.append_left _).trans List.perm_middle
          have distinct := List.nodup_cons.mp (moved.nodup_iff.mp sound.distinct)
          refine ⟨distinct.2, fun other => ?_, fun other ends member => ?_,
            fun other later waits => ?_, sound.coalesced, sound.givenUp⟩
          · rw [BroadcastSchedule.discardJob, List.mem_filter, sound.scheduled, moved.mem_iff,
              List.mem_cons, decide_eq_true_eq]
            constructor
            · rintro ⟨same | left, ne⟩
              · exact absurd same ne
              · exact left
            · intro left
              exact ⟨.inr left, fun same => distinct.1 (same ▸ left)⟩
          · cases ends
            rw [BroadcastSchedule.discardJob, List.mem_filter] at member
            exact of_decide_eq_true member.2 rfl
          · refine List.mem_filter.mpr ⟨sound.waiting other later waits, decide_eq_true ?_⟩
            intro same
            have found : world.schedule.scheduledBroadcasts.get? other = some later := waits
            rw [same, nothing] at found
            cases found
  · cases taken

theorem Sound.drainEnds (sound : world.Sound)
    (taken : broadcastStep world .drainEnds = some next)
    : next.Sound := by
  dsimp only [broadcastStep] at taken
  rcases Option.map_eq_some_iff.mp taken with ⟨jobId, finishing, same⟩
  subst same
  have absent := sound.finishing jobId finishing
  have jobs : world.schedule.scheduledJobs.filter (· ≠ jobId) = world.schedule.scheduledJobs :=
    List.filter_eq_self.mpr (fun other member =>
      decide_eq_true (fun same => absent (same ▸ member)))
  have slot (other : κ)
      : (world.schedule.scheduledBroadcasts.erase jobId).get? other
        = world.schedule.scheduledBroadcasts.get? other := by
    rw [Dict.get?_erase]
    split
    · next same =>
        cases waits : world.schedule.scheduledBroadcasts.get? other with
        | none => rfl
        | some message => exact absurd (same ▸ sound.waiting other message waits) absent
    · rfl
  refine ⟨sound.distinct, fun other => ?_, fun other ends => ?_, fun other message waits => ?_,
    fun other => ?_, sound.givenUp⟩
  · unfold BroadcastSchedule.popBroadcast BroadcastSchedule.discardJob
    dsimp only
    rw [jobs]
    exact sound.scheduled other
  · cases ends
  · unfold BroadcastSchedule.popBroadcast BroadcastSchedule.discardJob at waits ⊢
    dsimp only at waits ⊢
    rw [slot] at waits
    rw [jobs]
    exact sound.waiting other message waits
  · unfold BroadcastSchedule.popBroadcast BroadcastSchedule.discardJob
    dsimp only
    rw [slot]
    exact sound.coalesced other

theorem Sound.startDrain (sound : world.Sound) {index : Nat}
    (taken : broadcastStep world (.startDrain index) = some next)
    : next.Sound := by
  dsimp only [broadcastStep] at taken
  split at taken
  · next jobId idle found =>
      have listed : jobId ∈ world.tasks :=
        List.mem_append_left _ (List.mem_append_right _ (List.mem_of_getElem? found))
      rw [if_pos ((sound.scheduled jobId).mpr listed)] at taken
      cases taken
      refine sound.move ?_ rfl rfl rfl rfl rfl
      unfold tasks
      rw [List.map_append, ← List.append_assoc]
      have split := (perm_eraseIdx found).append_left world.calls
      have moved
          : (world.calls ++ world.starts.eraseIdx index ++ world.drains.map BroadcastDrain.jobId
              ++ [jobId]).Perm
            (world.calls ++ (jobId :: world.starts.eraseIdx index)
              ++ world.drains.map BroadcastDrain.jobId) := by
        refine List.perm_append_comm.trans ?_
        exact (List.perm_middle.append_right _).symm
      exact moved.trans (split.symm.append_right _)
  · cases taken

theorem Sound.step (sound : world.Sound) {event : BroadcastEvent κ ν}
    (admitted : BetweenDrains world event) (taken : broadcastStep world event = some next)
    : next.Sound := by
  cases event with
  | schedule jobId message => exact sound.schedule admitted taken
  | callSoon index =>
      dsimp only [broadcastStep] at taken
      rcases Option.map_eq_some_iff.mp taken with ⟨jobId, found, same⟩
      subst same
      refine sound.move ?_ rfl rfl rfl rfl rfl
      unfold tasks
      have moved
          : (world.calls.eraseIdx index ++ (world.starts ++ [jobId])).Perm
            (world.calls ++ world.starts) := by
        rw [← List.append_assoc]
        refine List.perm_append_comm.trans ?_
        exact (perm_eraseIdx found).symm.append_right world.starts
      exact moved.append_right _
  | startDrain index => exact sound.startDrain taken
  | drain index => exact sound.drain taken
  | broadcastEnds index =>
      dsimp only [broadcastStep] at taken
      split at taken
      · next jobId idle found =>
          cases taken
          refine sound.move ?_ rfl rfl rfl rfl rfl
          unfold tasks
          rw [map_jobId_set found .looks]
      · cases taken
  | drainEnds => exact sound.drainEnds taken

end BroadcastWorld

section Runs

variable {events : List (BroadcastEvent κ ν)} {world : BroadcastWorld κ ν}

open BroadcastWorld

/-- While nothing is scheduled for a job between the last section of its drain and the end of that
drain, each job has one drain at most, and when it has none its messages are all broadcast, but
for those that a later one replaces and the progress given up for a queued terminal message.
-/
theorem broadcasts_keep_last_word
    (run : Run broadcastStep BetweenDrains .initial events world)
    : (∀ jobId, (world.drains.filter (·.jobId = jobId)).length ≤ 1)
      ∧ (∀ jobId,
          world.Quiet jobId
          → Coalesces Supersedes (dataOf jobId world.queued) (dataOf jobId world.handed))
      ∧ (∀ jobId message current,
          (jobId, message, current) ∈ world.givenUp
          → message.terminal = false
            ∧ current.terminal = true
            ∧ current ∈ dataOf jobId world.queued) := by
  have sound : world.Sound :=
    run.preserves Sound (fun sound admitted taken => sound.step admitted taken) sound_initial
  refine ⟨fun jobId => ?_, fun jobId quiet => ?_, sound.givenUp⟩
  · have once := List.nodup_iff_count_le_one.mp (List.nodup_append.mp sound.distinct).2.1 jobId
    rw [List.count_eq_countP, List.countP_map, List.countP_eq_length_filter] at once
    exact once
  · have coalesced := sound.coalesced jobId
    cases waits : world.schedule.scheduledBroadcasts.get? jobId with
    | none =>
        rw [waits, Option.toList_none, List.append_nil] at coalesced
        exact coalesced
    | some message =>
        exact absurd ((sound.scheduled jobId).mp (sound.waiting jobId message waits)) quiet.1

def progressOf (percent : Nat) : ScanMessage Nat := ⟨some "progress", percent⟩

def scanCompleted : ScanMessage Nat := ⟨some "completed", 100⟩

/-- The scan completes before its drain starts, and a late progress message is given up. -/
def completesEarly : List (BroadcastEvent String Nat) :=
  [.schedule "scan" (progressOf 10), .callSoon 0, .schedule "scan" scanCompleted,
    .schedule "scan" (progressOf 90), .startDrain 0, .drain 0, .broadcastEnds 0, .drain 0,
    .drainEnds]

theorem completion_sent_for_progress
    : ∃ world : BroadcastWorld String Nat,
        world.handed = [("scan", scanCompleted)]
        ∧ Coalesces Supersedes (dataOf "scan" world.queued) (dataOf "scan" world.handed) := by
  have reached
      : ∃ world : BroadcastWorld String Nat,
          Run broadcastStep BetweenDrains .initial completesEarly world
          ∧ world.handed = [("scan", scanCompleted)]
          ∧ "scan" ∉ world.tasks
          ∧ world.finishing ≠ some "scan" :=
    Run.exists_of_execute (by decide)
  rcases reached with ⟨world, run, handed, quiet⟩
  exact ⟨world, handed, (broadcasts_keep_last_word run).2.1 "scan" quiet⟩

/-- The scan completes when its drain has found nothing more and has not ended. -/
def completesBetween : List (BroadcastEvent String Nat) :=
  [.schedule "scan" (progressOf 90), .callSoon 0, .startDrain 0, .drain 0, .broadcastEnds 0,
    .drain 0, .schedule "scan" scanCompleted, .callSoon 0, .drainEnds, .startDrain 0]

theorem completion_lost_between_drains
    : ∃ world : BroadcastWorld String Nat,
        Run broadcastStep (fun _ _ => True) .initial completesBetween world
        ∧ world.Quiet "scan"
        ∧ dataOf "scan" world.queued = [progressOf 90, scanCompleted]
        ∧ dataOf "scan" world.handed = [progressOf 90]
        ∧ world.schedule.scheduledBroadcasts.get? "scan" = none
        ∧ ¬ Coalesces Supersedes (dataOf "scan" world.queued) (dataOf "scan" world.handed) := by
  have reached
      : ∃ world : BroadcastWorld String Nat,
          Run broadcastStep (fun _ _ => True) .initial completesBetween world
          ∧ ("scan" ∉ world.tasks ∧ world.finishing ≠ some "scan")
          ∧ dataOf "scan" world.queued = [progressOf 90, scanCompleted]
          ∧ dataOf "scan" world.handed = [progressOf 90]
          ∧ world.schedule.scheduledBroadcasts.get? "scan" = none :=
    Run.exists_of_execute (by decide)
  rcases reached with ⟨world, run, quiet, queued, handed, nothing⟩
  refine ⟨world, run, quiet, queued, handed, nothing, fun coalesces => ?_⟩
  have last := coalesces.getLast?_eq
  rw [queued, handed] at last
  revert last
  decide

end Runs

end OctoHubs.Realtime
