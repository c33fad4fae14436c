import Mathlib.Data.Finset.Erase
import Mathlib.Data.Finset.Insert
import OctoHubs.Library.Runs
import OctoHubs.TranscodeGuard.Warnings

/-! Scans of the transcode guard beside the calls that forget and allow servers. A scan lets go of
the lock while it asks a server for its sessions; the generation of the server tells whether the
answer is still of use.
-/

namespace OctoHubs.TranscodeGuard

open OctoHubs.Library

structure ServerRecord where
  id : String
  enabled : Bool

/-- A scan between two of its locked sections, with the server that it asks and the generation
that the server had; a forgotten server has none.
-/
structure ScanThread where
  pending : List ServerRecord
  fetching : Option (String × Option Nat)
  scannedServerIds : List String
  seenKeys : List String
  presentSessionKeys : List String
  direct : Dict String Stream
  violating : Dict String (List ViolatingStream)

/-- What a scan did to a server while it held the lock. -/
structure ServerVisit where
  scan : Nat
  serverId : String
  generation : Option Nat
  warnings : List SentWarning
  stops : List StopCall

/-- What the lock guards, the scans under way, and the visits that were not refused. -/
structure FencedGuard where
  guard : GuardRuntime
  generations : Dict String Nat
  forgotten : Finset String
  scans : Dict Nat ScanThread
  visits : List ServerVisit

/-- Whoever takes the lock. -/
inductive GuardEvent
  | allow (serverId : String)
  | forget (serverId : String)
  | playbackStopped (sessionKey : String)
  | start (scan : Nat) (servers : List ServerRecord)
  | capture (scan : Nat)
  | fetchFailed (scan : Nat)
  | visit (scan : Nat) (streams : List SeenStream)
  | settle (scan : Nat) (elapsed : Nat)

namespace ScanThread

variable (thread : ScanThread)

def opening (servers : List ServerRecord) : ScanThread := ⟨servers, none, [], [], [], ∅, ∅⟩

def nextServer : Option (String × List ServerRecord) :=
  match thread.pending.dropWhile (fun server => server.id = "" || !server.enabled) with
  | [] => none
  | server :: rest => some (server.id, rest)

def progress (guard : GuardRuntime) : ScanProgress :=
  ⟨guard, thread.seenKeys, thread.presentSessionKeys, thread.direct, thread.violating⟩

/-- The scan after a server whose streams were seen. -/
def after (serverId : String) (progress : ScanProgress) : ScanThread where
  pending := thread.pending
  fetching := none
  scannedServerIds := serverId :: thread.scannedServerIds
  seenKeys := progress.seenKeys
  presentSessionKeys := progress.presentSessionKeys
  direct := progress.direct
  violating := progress.violating

def staleKeys (guard : GuardRuntime) : List String :=
  (guard.violations.items.filter (fun (key, state) =>
    state.serverId ∈ thread.scannedServerIds && key ∉ thread.seenKeys)).map Prod.fst

end ScanThread

namespace FencedGuard

variable (world : FencedGuard)

def opening (clock : Timestamp) : FencedGuard := ⟨.opening clock, ∅, ∅, ∅, []⟩

def generation (serverId : String) : Nat := (world.generations.get? serverId).getD 0

def renew (serverKey : String) : FencedGuard :=
  { world with
    generations := world.generations.set serverKey (world.generation serverKey + 1) }

def allowServer (serverId : String) : FencedGuard :=
  let serverKey := strip serverId
  if serverKey = "" then world
  else { world.renew serverKey with forgotten := world.forgotten.erase serverKey }

def forgetServer (serverId : String) : FencedGuard :=
  let serverKey := strip serverId
  if serverKey = "" then world
  else
    { world.renew serverKey with
      forgotten := insert serverKey world.forgotten
      guard :=
        { world.guard with
          violations :=
            world.guard.violations.filter (fun _ state => state.serverId ≠ serverKey) } }

def captureServerGeneration (serverId : String) : Option Nat × FencedGuard :=
  if serverId ∈ world.forgotten then (none, world)
  else
    (some (world.generation serverId),
      { world with generations := world.generations.setDefault serverId 0 })

def serverGenerationIsCurrent (serverId : String) (generation : Option Nat) : Bool :=
  serverId ∉ world.forgotten && some (world.generation serverId) = generation

/-- A player reported the end of a session. -/
def recordPlaybackStopped (sessionKey : String) : FencedGuard :=
  { world with
    guard :=
      { world.guard with
        violations :=
          world.guard.violations.filter (fun _ state => state.sessionKey ≠ sessionKey) } }

def setScan (scan : Nat) (thread : ScanThread) : FencedGuard :=
  { world with scans := world.scans.set scan thread }

def capture (scan : Nat) (thread : ScanThread) : Option FencedGuard :=
  match thread.fetching, thread.nextServer with
  | none, some (serverId, pending) =>
      let (generation, world) := world.captureServerGeneration serverId
      some (world.setScan scan { thread with pending, fetching := some (serverId, generation) })
  | _, _ => none

/-- The streams of the server are handled, unless it was forgotten or renewed in between. -/
def visit (scan : Nat) (thread : ScanThread) (serverId : String) (generation : Option Nat)
    (streams : List SeenStream)
    : FencedGuard :=
  if world.serverGenerationIsCurrent serverId generation then
    let progress := (thread.progress world.guard).visitServer ⟨serverId, streams⟩
    { world.setScan scan (thread.after serverId progress) with
      guard := progress.guard
      visits :=
        world.visits ++
          [{ scan
             serverId
             generation
             warnings := progress.guard.warnings.drop world.guard.warnings.length
             stops := progress.guard.stops.drop world.guard.stops.length }] }
  else world.setScan scan { thread with fetching := none }

def settle (scan : Nat) (thread : ScanThread) (elapsed : Nat) : Option FencedGuard :=
  match thread.fetching, thread.nextServer with
  | none, none =>
      some
        { world with
          guard :=
            (thread.staleKeys world.guard).foldl (thread.progress world.guard).settle
              (world.guard.advance elapsed)
          scans := world.scans.erase scan }
  | _, _ => none

def step : GuardEvent → Option FencedGuard
  | .allow serverId => some (world.allowServer serverId)
  | .forget serverId => some (world.forgetServer serverId)
  | .playbackStopped sessionKey => some (world.recordPlaybackStopped sessionKey)
  | .start scan servers =>
      if (world.scans.get? scan).isSome then none
      else some (world.setScan scan (.opening servers))
  | .capture scan => (world.scans.get? scan).bind (world.capture scan)
  | .fetchFailed scan =>
      (world.scans.get? scan).map (fun thread =>
        world.setScan scan { thread with fetching := none })
  | .visit scan streams =>
      (world.scans.get? scan).bind (fun thread =>
        thread.fetching.map (fun (serverId, generation) =>
          world.visit scan thread serverId generation streams))
  | .settle scan elapsed => (world.scans.get? scan).bind (world.settle scan · elapsed)

end FencedGuard

/-- Every interleaving of the locked sections. -/
abbrev GuardRun : FencedGuard → List GuardEvent → FencedGuard → Prop :=
  Run FencedGuard.step (fun _ _ => True)

def FencedGuard.Reachable (world : FencedGuard) : Prop :=
  ∃ (clock : Timestamp) (events : List GuardEvent), GuardRun (.opening clock) events world

/-- The warnings and the stop calls so far come first among the later ones. -/
def GuardRuntime.Extends (before after : GuardRuntime) : Prop :=
  before.warnings <+: after.warnings ∧ before.stops <+: after.stops

namespace GuardRuntime.Extends

variable {before guard after : GuardRuntime}

theorem refl (guard : GuardRuntime) : guard.Extends guard :=
  ⟨List.prefix_rfl, List.prefix_rfl⟩

theorem trans (first : before.Extends guard) (second : guard.Extends after)
    : before.Extends after :=
  ⟨first.1.trans second.1, first.2.trans second.2⟩

theorem of_same (extends_ : before.Extends guard) (warnings : after.warnings = guard.warnings)
    (stops : after.stops = guard.stops)
    : before.Extends after := by
  rw [GuardRuntime.Extends, warnings, stops]
  exact extends_

end GuardRuntime.Extends

theorem GuardRuntime.enforce_cases (guard : GuardRuntime) (key : String)
    (state : ViolationState) (seen : SeenStream)
    : guard.Extends (guard.enforce key state seen)
      ∧ ∃ stored : ViolationState,
          (guard.enforce key state seen).violations = guard.violations.set key stored
          ∧ stored.serverId = state.serverId := by
  have stopped
      : guard.Extends (guard.stopStream key state seen.policy seen.stopArrives)
        ∧ ∃ stored : ViolationState,
            (guard.stopStream key state seen.policy seen.stopArrives).violations
              = guard.violations.set key stored
            ∧ stored.serverId = state.serverId :=
    ⟨⟨List.prefix_rfl, List.prefix_append _ _⟩, _, rfl, rfl⟩
  have warned (first : Bool)
      : guard.Extends (guard.sendWarning key state seen.policy seen.warningArrives first)
        ∧ ∃ stored : ViolationState,
            (guard.sendWarning key state seen.policy seen.warningArrives first).violations
              = guard.violations.set key stored
            ∧ stored.serverId = state.serverId := by
    unfold GuardRuntime.sendWarning
    split
    · exact ⟨⟨List.prefix_append _ _, List.prefix_rfl⟩, _, rfl, rfl⟩
    · exact ⟨.refl guard, _, rfl, rfl⟩
  unfold GuardRuntime.enforce
  dsimp only
  split
  · exact ⟨.refl guard, _, rfl, rfl⟩
  · split
    · exact ⟨.refl guard, _, rfl, rfl⟩
    · split
      · exact warned false
      · exact ⟨.refl guard, _, rfl, rfl⟩
    · exact stopped
    · split
      · exact stopped
      · split
        · exact warned true
        · exact ⟨.refl guard, _, rfl, rfl⟩

namespace GuardRuntime.Extends

variable {before guard : GuardRuntime}

theorem takePending (extends_ : before.Extends guard) (playbackKey : String) (stream : Stream)
    (sameResolution : Bool)
    : before.Extends (guard.takePending playbackKey stream sameResolution) := by
  unfold GuardRuntime.takePending
  split
  · exact extends_
  · split <;> exact extends_

theorem handleViolation (guard : GuardRuntime) (key serverId : String) (seen : SeenStream)
    : guard.Extends (guard.handleViolation key serverId seen) := by
  have later : guard.Extends (guard.advance seen.elapsed) := .refl guard
  unfold GuardRuntime.handleViolation
  dsimp only
  split
  · exact later.trans (GuardRuntime.enforce_cases _ key _ seen).1
  · have opened
        : guard.Extends
            ((((guard.advance seen.elapsed).closePendingDifferentResolutionEvent
                (seen.stream.makePlaybackKey serverId) seen.stream).takePendingExitEventId
                  (seen.stream.makePlaybackKey serverId) seen.stream).detect key
              (sessionKey serverId seen.stream.sessionId)
              (seen.stream.makePlaybackKey serverId) serverId seen.decision) :=
      ((later.takePending _ _ false).takePending _ _ true).of_same rfl rfl
    split
    · exact opened.trans (GuardRuntime.enforce_cases _ key _ seen).1
    · exact opened

theorem visit (progress : ScanProgress) (serverId : String) (seen : SeenStream)
    : progress.guard.Extends (progress.visit serverId seen).guard := by
  unfold ScanProgress.visit
  dsimp only
  split
  · exact .refl _
  · split
    · split <;> exact .refl _
    · exact .handleViolation _ _ _ _

theorem visitServer (progress : ScanProgress) (server : ServerScan)
    : progress.guard.Extends (progress.visitServer server).guard := by
  unfold ScanProgress.visitServer
  induction server.streams generalizing progress with
  | nil => exact .refl _
  | cons seen rest ih => exact (visit progress server.serverId seen).trans (ih _)

/-- Settling the states that are not seen calls nobody, by induction on the keys. -/
theorem settleAll (guard : GuardRuntime) (progress : ScanProgress) (keys : List String)
    : (keys.foldl progress.settle guard).warnings = guard.warnings
      ∧ (keys.foldl progress.settle guard).stops = guard.stops := by
  induction keys generalizing guard with
  | nil => exact ⟨rfl, rfl⟩
  | cons key rest ih =>
      rcases ih (progress.settle guard key) with ⟨warnings, stops⟩
      have one
          : (progress.settle guard key).warnings = guard.warnings
            ∧ (progress.settle guard key).stops = guard.stops := by
        unfold ScanProgress.settle
        split
        · exact ⟨rfl, rfl⟩
        · dsimp only
          repeat' split
          all_goals exact ⟨rfl, rfl⟩
      exact ⟨warnings.trans one.1, stops.trans one.2⟩

end GuardRuntime.Extends

def GuardRuntime.ServersMeet (guard : GuardRuntime) (condition : String → Prop) : Prop :=
  ∀ (key : String) (state : ViolationState),
    guard.violations.get? key = some state → condition state.serverId

namespace GuardRuntime.ServersMeet

variable {guard : GuardRuntime} {condition : String → Prop} {key : String}
  {state : ViolationState}

theorem set {clock : Timestamp} {created : Nat} {warnings : List SentWarning}
    {stops : List StopCall} (meet : guard.ServersMeet condition)
    (met : condition state.serverId)
    : (GuardRuntime.mk (guard.violations.set key state) clock created warnings
        stops).ServersMeet condition := by
  intro other found lookup
  rw [Dict.get?_set] at lookup
  split at lookup
  · cases lookup
    exact met
  · exact meet other found lookup

theorem filter (meet : guard.ServersMeet condition)
    (keeps : String → ViolationState → Bool)
    : { guard with violations := guard.violations.filter keeps }.ServersMeet condition := by
  intro other found lookup
  rw [Dict.get?_filter] at lookup
  exact meet other found (Option.filter_eq_some_iff.mp lookup).1

theorem pop (meet : guard.ServersMeet condition) (key : String)
    : (guard.pop key).ServersMeet condition := by
  intro other found lookup
  rw [GuardRuntime.pop, Dict.get?_erase] at lookup
  split at lookup
  · cases lookup
  · exact meet other found lookup

theorem takePending (meet : guard.ServersMeet condition) (playbackKey : String)
    (stream : Stream) (sameResolution : Bool)
    : (guard.takePending playbackKey stream sameResolution).ServersMeet condition := by
  unfold GuardRuntime.takePending
  split
  · exact meet
  · split
    · exact meet.pop _
    · exact meet

theorem enforce (meet : guard.ServersMeet condition) (met : condition state.serverId)
    (key : String) (seen : SeenStream)
    : (guard.enforce key state seen).ServersMeet condition := by
  rcases (guard.enforce_cases key state seen).2 with ⟨stored, written, same⟩
  intro other found lookup
  rw [written, Dict.get?_set] at lookup
  split at lookup
  · cases lookup
    rw [same]
    exact met
  · exact meet other found lookup

theorem detect (meet : guard.ServersMeet condition) {serverId : String}
    (met : condition serverId) (key sessionKey playbackKey : String) (decision : Decision)
    : (guard.detect key sessionKey playbackKey serverId decision).ServersMeet condition :=
  meet.set (by exact met)

theorem handleViolation (meet : guard.ServersMeet condition) {serverId : String}
    (met : condition serverId) (key : String) (seen : SeenStream)
    : (guard.handleViolation key serverId seen).ServersMeet condition := by
  have later : (guard.advance seen.elapsed).ServersMeet condition := meet
  unfold GuardRuntime.handleViolation
  dsimp only
  split
  · next state found => exact later.enforce (by exact meet key state found) key seen
  · have opened :=
      ((later.takePending (seen.stream.makePlaybackKey serverId) seen.stream false).takePending
          (seen.stream.makePlaybackKey serverId) seen.stream true).detect met key
        (sessionKey serverId seen.stream.sessionId) (seen.stream.makePlaybackKey serverId)
        seen.decision
    split
    · next state found => exact opened.enforce (by exact opened key state found) key seen
    · exact opened

theorem visit {progress : ScanProgress} (meet : progress.guard.ServersMeet condition)
    {serverId : String} (met : condition serverId) (seen : SeenStream)
    : (progress.visit serverId seen).guard.ServersMeet condition := by
  unfold ScanProgress.visit
  dsimp only
  split
  · exact meet
  · split
    · split <;> exact meet
    · exact meet.handleViolation met _ _

theorem visitServer (progress : ScanProgress) (meet : progress.guard.ServersMeet condition)
    {server : ServerScan} (met : condition server.serverId)
    : (progress.visitServer server).guard.ServersMeet condition := by
  unfold ScanProgress.visitServer
  induction server.streams generalizing progress with
  | nil => exact meet
  | cons seen rest ih => exact ih _ (meet.visit met seen)

theorem settle (meet : guard.ServersMeet condition) (progress : ScanProgress) (key : String)
    : (progress.settle guard key).ServersMeet condition := by
  unfold ScanProgress.settle
  split
  · exact meet
  · next stale found =>
      have met := meet key stale found
      dsimp only
      repeat' split
      all_goals first | exact meet.pop key | exact meet | exact meet.set (by exact met)

theorem settleAll (meet : guard.ServersMeet condition) (progress : ScanProgress)
    (keys : List String)
    : (keys.foldl progress.settle guard).ServersMeet condition := by
  induction keys generalizing guard with
  | nil => exact meet
  | cons key rest ih => exact ih (meet.settle progress key)

end GuardRuntime.ServersMeet

namespace FencedGuard

variable {world next : FencedGuard} {serverId : String}

theorem generation_set {serverKey : String} {generation : Nat} {guard : GuardRuntime}
    {forgotten : Finset String} {scans : Dict Nat ScanThread} {visits : List ServerVisit}
    : (FencedGuard.mk guard (world.generations.set serverKey generation) forgotten scans
        visits).generation serverId
      = if serverId = serverKey then generation else world.generation serverId := by
  unfold FencedGuard.generation
  rw [Dict.get?_set]
  split <;> rfl

theorem generation_setDefault {serverKey : String} {scans : Dict Nat ScanThread}
    : (FencedGuard.mk world.guard (world.generations.setDefault serverKey 0) world.forgotten
        scans world.visits).generation serverId
      = world.generation serverId := by
  unfold FencedGuard.generation Dict.setDefault
  dsimp only
  split
  · rfl
  · next missing =>
      rw [Dict.get?_set]
      split
      · next same =>
          rw [same]
          simp at missing
          simp [missing]
      · rfl

theorem capture_cases {scan : Nat} {thread : ScanThread}
    (taken : world.capture scan thread = some next)
    : ∃ (server : String) (pending : List ServerRecord) (generation : Option Nat),
        server ≠ ""
        ∧ (generation = none ∨ generation = some (world.generation server))
        ∧ next.scans
            = world.scans.set scan { thread with pending, fetching := some (server, generation) }
        ∧ next.guard = world.guard
        ∧ next.forgotten = world.forgotten
        ∧ next.visits = world.visits
        ∧ ∀ other, next.generation other = world.generation other := by
  unfold FencedGuard.capture at taken
  split at taken
  · next server pending _ listed =>
      have named : server ≠ "" := by
        unfold ScanThread.nextServer at listed
        split at listed
        · cases listed
        · next record rest shape =>
            have kept := List.head?_dropWhile_not
              (fun server : ServerRecord => server.id = "" || !server.enabled) thread.pending
            rw [shape] at kept
            cases listed
            simp at kept
            exact kept.1
      by_cases gone : server ∈ world.forgotten
      · rw [captureServerGeneration, if_pos gone] at taken
        cases taken
        exact ⟨server, pending, none, named, .inl rfl, rfl, rfl, rfl, rfl, fun _ => rfl⟩
      · rw [captureServerGeneration, if_neg gone] at taken
        cases taken
        exact ⟨server, pending, _, named, .inr rfl, rfl, rfl, rfl, rfl,
          fun _ => generation_setDefault⟩
  · cases taken

/-- No streams are handled. -/
structure Quiet (world next : FencedGuard) : Prop where
  visits : next.visits = world.visits
  warnings : next.guard.warnings = world.guard.warnings
  stops : next.guard.stops = world.guard.stops
  servers
    : ∀ condition, world.guard.ServersMeet condition → next.guard.ServersMeet condition

/-- The streams of a server are handled that was not forgotten or renewed since it was asked. -/
structure Handles (world next : FencedGuard) (visit : ServerVisit) : Prop where
  visits : next.visits = world.visits ++ [visit]
  warnings : next.guard.warnings = world.guard.warnings ++ visit.warnings
  stops : next.guard.stops = world.guard.stops ++ visit.stops
  asked
    : ∃ thread,
        world.scans.get? visit.scan = some thread
        ∧ thread.fetching = some (visit.serverId, visit.generation)
  current : world.serverGenerationIsCurrent visit.serverId visit.generation = true
  servers
    : ∀ condition : String → Prop,
        world.guard.ServersMeet condition
        → condition visit.serverId
        → next.guard.ServersMeet condition

theorem Quiet.of_guard (visits : next.visits = world.visits) (guard : next.guard = world.guard)
    : Quiet world next :=
  ⟨visits, by rw [guard], by rw [guard], fun _ meet => guard ▸ meet⟩

theorem step_cases {event : GuardEvent} (taken : world.step event = some next)
    : Quiet world next ∨ ∃ visit, Handles world next visit := by
  cases event with
  | allow server =>
      cases taken
      refine .inl ?_
      unfold allowServer
      dsimp only
      split <;> exact .of_guard rfl rfl
  | forget server =>
      cases taken
      refine .inl ?_
      unfold forgetServer
      dsimp only
      split
      · exact .of_guard rfl rfl
      · exact ⟨rfl, rfl, rfl, fun _ meet => meet.filter _⟩
  | playbackStopped sessionKey =>
      cases taken
      exact .inl ⟨rfl, rfl, rfl, fun _ meet => meet.filter _⟩
  | start scan servers =>
      simp only [step] at taken
      split at taken
      · cases taken
      · cases taken
        exact .inl (.of_guard rfl rfl)
  | capture scan =>
      rcases Option.bind_eq_some_iff.mp taken with ⟨thread, -, asked⟩
      rcases capture_cases asked with ⟨_, _, _, -, -, -, guard, -, visits, -⟩
      exact .inl (.of_guard visits guard)
  | fetchFailed scan =>
      rcases Option.map_eq_some_iff.mp taken with ⟨thread, -, rfl⟩
      exact .inl (.of_guard rfl rfl)
  | visit scan streams =>
      rcases Option.bind_eq_some_iff.mp taken with ⟨thread, running, asked⟩
      rcases Option.map_eq_some_iff.mp asked with ⟨⟨server, generation⟩, fetching, rfl⟩
      dsimp only
      unfold FencedGuard.visit
      split
      · next current =>
          rcases GuardRuntime.Extends.visitServer (thread.progress world.guard)
            ⟨server, streams⟩ with ⟨warnings, stops⟩
          exact
            .inr
              ⟨_,
                { visits := rfl
                  warnings := List.prefix_append_drop warnings
                  stops := List.prefix_append_drop stops
                  asked := ⟨thread, running, fetching⟩
                  current
                  servers := fun condition meet met =>
                    GuardRuntime.ServersMeet.visitServer (thread.progress world.guard) meet met }⟩
      · exact .inl (.of_guard rfl rfl)
  | settle scan elapsed =>
      rcases Option.bind_eq_some_iff.mp taken with ⟨thread, -, settled⟩
      unfold FencedGuard.settle at settled
      split at settled
      · cases settled
        rcases GuardRuntime.Extends.settleAll (world.guard.advance elapsed)
          (thread.progress world.guard) (thread.staleKeys world.guard) with ⟨warnings, stops⟩
        exact .inl ⟨rfl, warnings, stops, fun _ meet => .settleAll (by exact meet) _ _⟩
      · cases settled

/-- Where every step but the allowing of a server and the asking of a scan leads: generations grow,
servers stay forgotten, and a scan asks whom it asked before.
-/
structure Advances (world next : FencedGuard) (event : GuardEvent) : Prop where
  generations : ∀ serverId, world.generation serverId ≤ next.generation serverId
  forgotten
    : ∀ serverId ∈ world.forgotten,
        (∀ allowed, event = .allow allowed → strip allowed ≠ serverId)
        → serverId ∈ next.forgotten
  scans
    : ∀ (scan : Nat) (thread : ScanThread),
        event ≠ .capture scan
        → next.scans.get? scan = some thread
        → thread.fetching = none
          ∨ ∃ before,
              world.scans.get? scan = some before ∧ before.fetching = thread.fetching

theorem generation_le_renew (serverKey : String) {guard : GuardRuntime}
    {forgotten : Finset String}
    : world.generation serverId
      ≤ (FencedGuard.mk guard
          (world.generations.set serverKey (world.generation serverKey + 1)) forgotten
          world.scans world.visits).generation serverId := by
  rw [generation_set]
  split
  · next same =>
      rw [same]
      exact Nat.le_succ _
  · exact Nat.le_refl _

theorem Advances.same {event : GuardEvent} (generations : next.generations = world.generations)
    (forgotten : next.forgotten = world.forgotten) (scans : next.scans = world.scans)
    : Advances world next event where
  generations serverId := by
    unfold FencedGuard.generation
    rw [generations]
  forgotten serverId member _ := forgotten ▸ member
  scans scan thread _ running := .inr ⟨thread, scans ▸ running, rfl⟩

theorem Advances.of_set {event : GuardEvent} {scan : Nat} (thread : ScanThread)
    (idle : thread.fetching = none) (generations : next.generations = world.generations)
    (forgotten : next.forgotten = world.forgotten)
    (scans : next.scans = world.scans.set scan thread)
    : Advances world next event where
  generations serverId := by
    unfold FencedGuard.generation
    rw [generations]
  forgotten serverId member _ := forgotten ▸ member
  scans other found _ running := by
    rw [scans, Dict.get?_set] at running
    split at running
    · cases running
      exact .inl idle
    · exact .inr ⟨found, running, rfl⟩

theorem advances_of_step {event : GuardEvent} (taken : world.step event = some next)
    : Advances world next event := by
  cases event with
  | allow server =>
      cases taken
      unfold allowServer
      dsimp only
      split
      · exact .same rfl rfl rfl
      · exact
          { generations := fun _ => generation_le_renew _
            forgotten := fun other member kept =>
              Finset.mem_erase.mpr ⟨(kept server rfl).symm, member⟩
            scans := fun scan thread _ running => .inr ⟨thread, running, rfl⟩ }
  | forget server =>
      cases taken
      unfold forgetServer
      dsimp only
      split
      · exact .same rfl rfl rfl
      · exact
          { generations := fun _ => generation_le_renew _
            forgotten := fun other member _ => Finset.mem_insert_of_mem member
            scans := fun scan thread _ running => .inr ⟨thread, running, rfl⟩ }
  | playbackStopped sessionKey =>
      cases taken
      exact .same rfl rfl rfl
  | start scan servers =>
      simp only [step] at taken
      split at taken
      · cases taken
      · cases taken
        exact .of_set (.opening servers) rfl rfl rfl rfl
  | capture scan =>
      rcases Option.bind_eq_some_iff.mp taken with ⟨thread, -, asked⟩
      rcases capture_cases asked with ⟨_, _, _, -, -, scans, -, forgotten, -, same⟩
      exact
        { generations := fun serverId => (same serverId).ge
          forgotten := fun _ member _ => forgotten ▸ member
          scans := fun other found different running => by
            rw [scans, Dict.get?_set_ne _ _ (fun same => different (by rw [same]))] at running
            exact .inr ⟨found, running, rfl⟩ }
  | fetchFailed scan =>
      rcases Option.map_eq_some_iff.mp taken with ⟨thread, -, rfl⟩
      exact .of_set { thread with fetching := none } rfl rfl rfl rfl
  | visit scan streams =>
      rcases Option.bind_eq_some_iff.mp taken with ⟨thread, running, asked⟩
      rcases Option.map_eq_some_iff.mp asked with ⟨⟨server, generation⟩, fetching, rfl⟩
      dsimp only
      unfold FencedGuard.visit
      split
      · exact .of_set (thread.after server _) rfl rfl rfl rfl
      · exact .of_set { thread with fetching := none } rfl rfl rfl rfl
  | settle scan elapsed =>
      rcases Option.bind_eq_some_iff.mp taken with ⟨thread, -, settled⟩
      unfold FencedGuard.settle at settled
      split at settled
      · cases settled
        exact
          { generations := fun _ => Nat.le_refl _
            forgotten := fun _ member _ => member
            scans := fun other found _ running => by
              rw [Dict.get?_erase] at running
              split at running
              · cases running
              · exact .inr ⟨found, running, rfl⟩ }
      · cases settled

end FencedGuard

end OctoHubs.TranscodeGuard
