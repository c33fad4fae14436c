import OctoHubs.TranscodeGuard.Enforcement

/-! Warn, then stop: a state knows its warnings, so no session is stopped before its correction
window and no state gets more or faster warnings than its rule allows.
-/

namespace OctoHubs.TranscodeGuard

open OctoHubs.Library

/-- Whoever is stopped by a rule that warns first was warned under the same violation state
before the correction window; a state whose warnings have one policy gets no more of them than
the policy allows, and none within its cooldown.
-/
structure Honoured (warnings : List SentWarning) (stops : List StopCall) : Prop where
  stopped
    : ∀ stop ∈ stops,
        stop.policy.mode = .warnThenStop
        → ∃ warning ∈ warnings,
            warning.state = stop.state
            ∧ stop.policy.correctionWindow ≤ stop.calledAt - warning.sentAt
  bounded
    : ∀ (state : Nat) (policy : Policy),
        (∀ warning ∈ warnings, warning.state = state → warning.policy = policy)
        → warnings.countP (fun warning => warning.state = state) ≤ policy.maxWarnings
  apart
    : ∀ state : Nat,
        (warnings.filter (fun warning => warning.state = state)).Pairwise
          (fun earlier later => later.policy.messageCooldown ≤ later.sentAt - earlier.sentAt)

/-- What a state tells about the warnings under its number. -/
structure ViolationState.Records (state : ViolationState) (warnings : List SentWarning) : Prop where
  counted
    : state.warningCount = warnings.countP (fun warning => warning.state = state.number)
  last
    : ∀ warning ∈ warnings,
        warning.state = state.number
        → ∃ warned, state.warned = some warned ∧ warning.sentAt ≤ warned ∧ 0 < warned
  sent
    : ∀ {time : Timestamp},
        state.warned = some time ∨ state.firstWarned = some time
        → ∃ warning ∈ warnings, warning.state = state.number ∧ warning.sentAt = time

/-- The states have numbers of their own and record their warnings, which lie in the past. -/
structure GuardRuntime.Kept (guard : GuardRuntime) : Prop where
  started : 0 < guard.clock
  numbered
    : ∀ {key : String} {state : ViolationState},
        guard.violations.get? key = some state → state.number < guard.created
  distinct
    : ∀ {left right : String} {first second : ViolationState},
        guard.violations.get? left = some first
        → guard.violations.get? right = some second
        → first.number = second.number
        → left = right
  records
    : ∀ {key : String} {state : ViolationState},
        guard.violations.get? key = some state → state.Records guard.warnings
  warned : ∀ warning ∈ guard.warnings, warning.state < guard.created ∧ warning.sentAt ≤ guard.clock
  honoured : Honoured guard.warnings guard.stops

/-- The two states record the same warnings. -/
def ViolationState.SameRecord (before after : ViolationState) : Prop :=
  after.number = before.number ∧ after.warned = before.warned
  ∧ after.firstWarned = before.firstWarned ∧ after.warningCount = before.warningCount

theorem ViolationState.Records.of_same {before after : ViolationState}
    {warnings : List SentWarning} (records : before.Records warnings)
    (same : before.SameRecord after)
    : after.Records warnings := by
  obtain ⟨number, warned, firstWarned, count⟩ := same
  constructor
  · rw [count, number]
    exact records.counted
  · rw [number, warned]
    exact records.last
  · rw [number, warned, firstWarned]
    exact records.sent

theorem ViolationState.Records.concat_of_ne {state : ViolationState}
    {warnings : List SentWarning} {sent : SentWarning} (records : state.Records warnings)
    (different : sent.state ≠ state.number)
    : state.Records (warnings ++ [sent]) where
  counted := by
    rw [List.countP_append, ← records.counted]
    simp [different]
  last := by
    intro warning member same
    obtain old | new := List.mem_append.mp member
    · exact records.last warning old same
    · rw [List.mem_singleton] at new
      exact absurd (new ▸ same) different
  sent := by
    intro time set
    obtain ⟨warning, member, known⟩ := records.sent set
    exact ⟨warning, List.mem_append_left _ member, known⟩

theorem ViolationState.Records.cooldown_le {state : ViolationState}
    {warnings : List SentWarning} {policy : Policy} {now : Timestamp}
    (records : state.Records warnings) (past : ∀ warning ∈ warnings, warning.sentAt ≤ now)
    (allowed : state.canSendWarning policy now = true)
    : ∀ warning ∈ warnings,
        warning.state = state.number
        → policy.messageCooldown ≤ now - warning.sentAt := by
  intro warning member same
  obtain ⟨warned, set, before, positive⟩ := records.last warning member same
  have elapsed := Int.sub_nonneg_of_le (past warning member)
  simp only [canSendWarning, set, isSet, Option.any_some, Bool.and_eq_true, Bool.or_eq_true,
    Bool.not_eq_true', decide_eq_false_iff_not, decide_eq_true_eq, not_not] at allowed
  obtain ⟨-, (unset | free) | cooled⟩ := allowed
  · exact absurd unset (Int.ne_of_gt positive)
  · exact Int.le_trans free elapsed
  · exact Int.le_trans cooled (Int.sub_le_sub_left before now)

theorem Honoured.warn {state : ViolationState} {warnings : List SentWarning}
    {stops : List StopCall} {policy : Policy} {now : Timestamp}
    (honoured : Honoured warnings stops) (records : state.Records warnings)
    (past : ∀ warning ∈ warnings, warning.sentAt ≤ now)
    (allowed : state.canSendWarning policy now = true)
    : Honoured (warnings ++ [⟨state.number, policy, now⟩]) stops where
  stopped := by
    intro stop member mode
    obtain ⟨warning, sent, known⟩ := honoured.stopped stop member mode
    exact ⟨warning, List.mem_append_left _ sent, known⟩
  bounded := by
    intro number fixed uniform
    rw [List.countP_append]
    by_cases own : state.number = number
    · have room : state.warningCount < policy.maxWarnings := by
        simp only [ViolationState.canSendWarning, Bool.and_eq_true, decide_eq_true_eq] at allowed
        exact allowed.1
      have same : policy = fixed :=
        uniform ⟨state.number, policy, now⟩ (List.mem_append_right _ (List.mem_singleton_self _))
          own
      rw [records.counted, own, same] at room
      simpa [own] using Nat.succ_le_of_lt room
    · have before :=
        honoured.bounded number fixed (fun warning member =>
          uniform warning (List.mem_append_left _ member))
      simpa [own] using before
  apart := by
    intro number
    rw [List.filter_append, List.pairwise_append]
    refine ⟨honoured.apart number, ?_, ?_⟩
    · by_cases own : state.number = number <;> simp [own]
    · intro earlier old later new
      obtain ⟨member, same⟩ := List.mem_filter.mp old
      obtain ⟨sent, own⟩ := List.mem_filter.mp new
      rw [List.mem_singleton] at sent
      subst sent
      have number_eq : earlier.state = state.number :=
        (of_decide_eq_true same).trans (of_decide_eq_true own).symm
      exact records.cooldown_le past allowed earlier member number_eq

theorem Honoured.stop {state : ViolationState} {warnings : List SentWarning}
    {stops : List StopCall} {policy : Policy} {now : Timestamp}
    (honoured : Honoured warnings stops) (records : state.Records warnings)
    (expired : policy.mode = .warnThenStop → state.warningExpired policy now = true)
    : Honoured warnings (stops ++ [⟨state.number, policy, now⟩]) where
  stopped := by
    intro stop member mode
    obtain old | new := List.mem_append.mp member
    · exact honoured.stopped stop old mode
    · rw [List.mem_singleton] at new
      subst new
      have due := expired mode
      rw [ViolationState.warningExpired, Bool.and_eq_true] at due
      obtain ⟨first, known, window⟩ := Option.any_eq_true _ _ |>.mp due.2
      have set : state.warned = some first ∨ state.firstWarned = some first := by
        unfold ViolationState.firstWarnedAt at known
        split at known
        · exact Or.inr known
        · exact Or.inl known
      obtain ⟨warning, sent, own, time⟩ := records.sent set
      exact ⟨warning, sent, own, by rw [time]; exact of_decide_eq_true window⟩
  bounded := honoured.bounded
  apart := honoured.apart

namespace GuardRuntime.Kept

variable {guard : GuardRuntime} {key : String} {state stored : ViolationState}

theorem opening {clock : Timestamp} (started : 0 < clock) : (opening clock).Kept where
  started := started
  numbered := by
    intro key state found
    cases found
  distinct := by
    intro left right first second found
    cases found
  records := by
    intro key state found
    cases found
  warned := by simp [GuardRuntime.opening]
  honoured := by
    constructor <;> simp [GuardRuntime.opening]

theorem advance (kept : guard.Kept) (elapsed : Nat) : (guard.advance elapsed).Kept where
  started := Int.add_pos_of_pos_of_nonneg kept.started (Int.natCast_nonneg elapsed)
  numbered := kept.numbered
  distinct := kept.distinct
  records := kept.records
  warned := by
    intro warning member
    obtain ⟨number, past⟩ := kept.warned warning member
    exact ⟨number, Int.le_trans past (Int.le_add_of_nonneg_right (Int.natCast_nonneg elapsed))⟩
  honoured := kept.honoured

theorem pop (kept : guard.Kept) (key : String) : (guard.pop key).Kept := by
  have subset
      : ∀ {other : String} {state : ViolationState},
          (guard.pop key).violations.get? other = some state
          → guard.violations.get? other = some state := by
    intro other state found
    rw [GuardRuntime.pop, Dict.get?_erase] at found
    split at found
    · cases found
    · exact found
  exact
    { started := kept.started
      numbered := fun found => kept.numbered (subset found)
      distinct := fun first second => kept.distinct (subset first) (subset second)
      records := fun found => kept.records (subset found)
      warned := kept.warned
      honoured := kept.honoured }

theorem get?_set_cases {other : String} {found : ViolationState}
    (lookup : (guard.violations.set key state).get? other = some found)
    : other = key ∧ found = state ∨ other ≠ key ∧ guard.violations.get? other = some found := by
  rw [Dict.get?_set] at lookup
  split at lookup
  · next same =>
      cases lookup
      exact Or.inl ⟨same, rfl⟩
  · next different => exact Or.inr ⟨different, lookup⟩

theorem distinct_set (kept : guard.Kept) (found : guard.violations.get? key = some stored)
    (same : state.number = stored.number) {left right : String} {first second : ViolationState}
    (leftRead : (guard.violations.set key state).get? left = some first)
    (rightRead : (guard.violations.set key state).get? right = some second)
    (number : first.number = second.number)
    : left = right := by
  obtain ⟨rfl, rfl⟩ | ⟨-, leftOld⟩ := get?_set_cases leftRead
  · obtain ⟨rfl, -⟩ | ⟨-, rightOld⟩ := get?_set_cases rightRead
    · rfl
    · exact kept.distinct found rightOld (same.symm.trans number)
  · obtain ⟨rfl, rfl⟩ | ⟨-, rightOld⟩ := get?_set_cases rightRead
    · exact kept.distinct leftOld found (number.trans same)
    · exact kept.distinct leftOld rightOld number

theorem numbered_set (kept : guard.Kept) (found : guard.violations.get? key = some stored)
    (same : state.number = stored.number) {other : String} {read : ViolationState}
    (lookup : (guard.violations.set key state).get? other = some read)
    : read.number < guard.created := by
  obtain ⟨-, rfl⟩ | ⟨-, old⟩ := get?_set_cases lookup
  · rw [same]
    exact kept.numbered found
  · exact kept.numbered old

theorem put (kept : guard.Kept) (found : guard.violations.get? key = some stored)
    (same : stored.SameRecord state)
    : (guard.put key state).Kept where
  started := kept.started
  numbered := kept.numbered_set found same.1
  distinct := kept.distinct_set found same.1
  records := by
    intro other read lookup
    obtain ⟨-, rfl⟩ | ⟨-, old⟩ := get?_set_cases lookup
    · exact (kept.records found).of_same same
    · exact kept.records old
  warned := kept.warned
  honoured := kept.honoured

theorem takePending (kept : guard.Kept) (playbackKey : String) (stream : Stream)
    (sameResolution : Bool)
    : (guard.takePending playbackKey stream sameResolution).Kept := by
  unfold GuardRuntime.takePending
  split
  · exact kept
  · split
    · exact kept.pop _
    · exact kept

theorem detect (kept : guard.Kept) (key sessionKey playbackKey serverId : String)
    (decision : Decision)
    : (guard.detect key sessionKey playbackKey serverId decision).Kept where
  started := kept.started
  numbered := by
    intro other read lookup
    obtain ⟨-, rfl⟩ | ⟨-, old⟩ := get?_set_cases lookup
    · exact Nat.lt_succ_self guard.created
    · exact Nat.lt_succ_of_lt (kept.numbered old)
  distinct := by
    intro left right first second leftRead rightRead number
    obtain ⟨rfl, rfl⟩ | ⟨-, leftOld⟩ := get?_set_cases leftRead
    · obtain ⟨rfl, -⟩ | ⟨-, rightOld⟩ := get?_set_cases rightRead
      · rfl
      · exact absurd number.symm (kept.numbered rightOld).ne
    · obtain ⟨rfl, rfl⟩ | ⟨-, rightOld⟩ := get?_set_cases rightRead
      · exact absurd number (kept.numbered leftOld).ne
      · exact kept.distinct leftOld rightOld number
  records := by
    intro other read lookup
    obtain ⟨-, rfl⟩ | ⟨-, old⟩ := get?_set_cases lookup
    · -- the number is new, so no warning carries it
      have unknown : ∀ warning ∈ guard.warnings, warning.state ≠ guard.created :=
        fun warning member => (kept.warned warning member).1.ne
      constructor
      · symm
        rw [List.countP_eq_zero]
        intro warning member
        simpa using unknown warning member
      · intro warning member same
        exact absurd same (unknown warning member)
      · intro time set
        obtain unset | unset := set <;> cases unset
    · exact kept.records old
  warned := by
    intro warning member
    obtain ⟨number, past⟩ := kept.warned warning member
    exact ⟨Nat.lt_succ_of_lt number, past⟩
  honoured := kept.honoured

theorem sendWarning (kept : guard.Kept) (found : guard.violations.get? key = some stored)
    (same : stored.SameRecord state) {policy : Policy}
    (allowed : state.canSendWarning policy guard.clock = true) (arrives first : Bool)
    : (guard.sendWarning key state policy arrives first).Kept := by
  cases arrives with
  | false => exact kept.put found same
  | true =>
      have records := (kept.records found).of_same same
      have own := kept.numbered found
      rw [← same.1] at own
      have past : ∀ warning ∈ guard.warnings, warning.sentAt ≤ guard.clock :=
        fun warning member => (kept.warned warning member).2
      constructor
      · exact kept.started
      · intro other read lookup
        refine kept.numbered_set found ?_ lookup
        exact same.1
      · intro left right one two leftRead rightRead
        refine kept.distinct_set found ?_ leftRead rightRead
        exact same.1
      · intro other read lookup
        obtain ⟨-, rfl⟩ | ⟨different, old⟩ := get?_set_cases lookup
        · constructor
          · change state.warningCount + 1 = (guard.warnings ++ [_]).countP _
            simp [List.countP_append, records.counted]
          · intro warning member _
            refine ⟨guard.clock, rfl, ?_, kept.started⟩
            obtain sent | new := List.mem_append.mp member
            · exact past warning sent
            · rw [List.mem_singleton] at new
              rw [new]
          · intro time set
            have cases_
                : time = guard.clock
                  ∨ state.warned = some time ∨ state.firstWarned = some time := by
              obtain now | before := set
              · exact Or.inl (Option.some.inj now).symm
              · dsimp only at before
                split at before
                · exact Or.inl (Option.some.inj before).symm
                · exact Or.inr (Or.inr before)
            obtain rfl | before := cases_
            · exact
                ⟨_, List.mem_append_right _ (List.mem_singleton_self _), rfl, rfl⟩
            · obtain ⟨warning, member, known⟩ := records.sent before
              exact ⟨warning, List.mem_append_left _ member, known⟩
        · apply (kept.records old).concat_of_ne
          intro number
          exact different (kept.distinct old found (number.symm.trans same.1))
      · intro warning member
        obtain sent | new := List.mem_append.mp member
        · exact kept.warned warning sent
        · rw [List.mem_singleton] at new
          rw [new]
          exact ⟨own, Int.le_refl _⟩
      · exact kept.honoured.warn records past allowed

theorem stopStream (kept : guard.Kept) (found : guard.violations.get? key = some stored)
    (same : stored.SameRecord state) {policy : Policy}
    (expired
      : policy.mode = .warnThenStop → state.warningExpired policy guard.clock = true)
    (arrives : Bool)
    : (guard.stopStream key state policy arrives).Kept := by
  have records := (kept.records found).of_same same
  have written
      : (guard.put key
          { state with
            stopped := if arrives then some guard.clock else none
            phase := if arrives then .stopped else .error }).Kept :=
    kept.put found same
  exact { written with honoured := kept.honoured.stop records expired }

theorem enforce (kept : guard.Kept) (found : guard.violations.get? key = some stored)
    (same : stored.SameRecord state) (seen : SeenStream)
    : (guard.enforce key state seen).Kept := by
  unfold GuardRuntime.enforce
  dsimp only
  split
  · exact kept.put found same
  · split
    · exact kept.put found same
    · split
      · next allowed => exact kept.sendWarning found same allowed _ _
      · exact kept.put found same
    · next mode =>
        apply kept.stopStream found same
        intro other
        rw [mode] at other
        cases other
    · split
      · next expired => exact kept.stopStream found same (fun _ => expired) _
      · split
        · next allowed => exact kept.sendWarning found same allowed _ _
        · exact kept.put found same

theorem handleViolation (kept : guard.Kept) (key serverId : String) (seen : SeenStream)
    : (guard.handleViolation key serverId seen).Kept := by
  have later := kept.advance seen.elapsed
  have same (state : ViolationState) (playbackKey : String)
      : state.SameRecord (seeAgain state playbackKey seen.decision) :=
    ⟨rfl, rfl, rfl, rfl⟩
  unfold GuardRuntime.handleViolation
  dsimp only
  generalize seen.stream.makePlaybackKey serverId = playbackKey
  split
  · next state found => exact later.enforce found (same state playbackKey) seen
  · have dropped :=
      (later.takePending playbackKey seen.stream false).takePending playbackKey seen.stream true
    have detected :=
      dropped.detect key (sessionKey serverId seen.stream.sessionId) playbackKey serverId
        seen.decision
    split
    · next state found => exact detected.enforce found (same state playbackKey) seen
    · exact detected

theorem visit {progress : ScanProgress} (kept : progress.guard.Kept) (serverId : String)
    (seen : SeenStream)
    : (progress.visit serverId seen).guard.Kept := by
  unfold ScanProgress.visit
  dsimp only
  split
  · exact kept
  · split
    · split
      · exact kept
      · exact kept
    · exact kept.handleViolation _ serverId _

theorem visitServer {progress : ScanProgress} (kept : progress.guard.Kept)
    (server : ServerScan)
    : (progress.visitServer server).guard.Kept := by
  unfold ScanProgress.visitServer
  induction server.streams generalizing progress with
  | nil => exact kept
  | cons seen rest ih => exact ih (kept.visit server.serverId seen)

theorem visited (kept : guard.Kept) (scan : GuardScan)
    : (scan.visited guard).guard.Kept := by
  have all
      : ∀ (servers : List ServerScan) (progress : ScanProgress),
          progress.guard.Kept
          → (servers.foldl ScanProgress.visitServer progress).guard.Kept := by
    intro servers
    induction servers with
    | nil => exact fun _ kept => kept
    | cons server rest ih => exact fun progress kept => ih _ (kept.visitServer server)
  exact all scan.servers _ kept

theorem settle (kept : guard.Kept) (progress : ScanProgress) (key : String)
    : (progress.settle guard key).Kept := by
  unfold ScanProgress.settle
  split
  · exact kept
  · next stale found =>
      dsimp only
      repeat' split
      all_goals first | exact kept.pop key | exact kept | exact kept.put found ⟨rfl, rfl, rfl, rfl⟩

theorem checkOnce (kept : guard.Kept) (scan : GuardScan) : (guard.checkOnce scan).Kept := by
  unfold GuardRuntime.checkOnce
  dsimp only
  have later := (kept.visited scan).advance scan.elapsed
  revert later
  generalize (scan.visited guard).guard.advance scan.elapsed = current
  intro later
  induction scan.staleKeys (scan.visited guard) generalizing current with
  | nil => exact later
  | cons key rest ih => exact ih _ (later.settle _ key)

end GuardRuntime.Kept

/-- A film of one session that a rule enforces, half a minute after the last reading. -/
def transcodedFilm (stopArrives : Bool) : SeenStream where
  stream :=
    { serverId := ""
      serverName := ""
      sessionId := "session"
      sessionKey := ""
      playbackKey := ""
      contentKey := ""
      user := "anna"
      client := "Emby Web"
      device := "tv"
      deviceId := "tv"
      itemId := "7"
      title := "Film"
      mediaType := "movie"
      seriesName := ""
      seasonNumber := none
      episodeNumber := none
      year := "2020"
      mediaSourceId := "source"
      audioStreamIndex := none
      subtitleStreamIndex := none
      videoHeight := some 2160
      sourceHeight := none
      labelHeight := none }
  decision := ⟨"video_transcode", true, some 2160, "rule", "Regola", []⟩
  policy := ⟨.warnThenStop, 60 * second, 30 * second, 3, by decide⟩
  elapsed := 30000000
  warningArrives := true
  stopArrives

/-- Four scans: two warnings, a stop that fails and one that arrives. -/
def filmScans : List GuardScan :=
  [⟨[⟨"server", [transcodedFilm false]⟩], 0⟩, ⟨[⟨"server", [transcodedFilm false]⟩], 0⟩,
    ⟨[⟨"server", [transcodedFilm false]⟩], 0⟩, ⟨[⟨"server", [transcodedFilm true]⟩], 0⟩]

end OctoHubs.TranscodeGuard
