import OctoHubs.TranscodeGuard.History

/-! Enforcement of the transcode guard: the violation states that live across scans, and the
warnings and stops that they lead to. Each scan reports its streams with the decision of the
rules.
-/

namespace OctoHubs.TranscodeGuard

open OctoHubs.Library

inductive GuardMode
  | monitor
  | warn
  | stop
  | warnThenStop
deriving DecidableEq, Repr

/-- What a decision takes over from its rule; a rule allows at least one warning. -/
structure Policy where
  mode : GuardMode
  correctionWindow : Timestamp
  messageCooldown : Timestamp
  maxWarnings : Nat
  warns : 0 < maxWarnings
deriving DecidableEq

inductive ViolationPhase
  | detected
  | monitor
  | warned
  | stopped
  | pendingExit
  | error
deriving DecidableEq, Repr

/-- A violation state; `number` tells it from every other one, also under the same key. -/
structure ViolationState where
  number : Nat
  sessionKey : String
  playbackKey : String
  serverId : String
  sourceHeight : Option Int
  ruleId : String
  phase : ViolationPhase
  warned : Option Timestamp
  firstWarned : Option Timestamp
  warningCount : Nat
  stopped : Option Timestamp
  paused : Option Timestamp
  missingSince : Option Timestamp
deriving DecidableEq

/-- A time is set where it is neither missing nor zero. -/
def isSet (time : Option Timestamp) : Bool := time.any (· ≠ 0)

namespace ViolationState

variable (state : ViolationState)

/-- The session was stopped or paused already. -/
def handled : Bool := isSet state.stopped || isSet state.paused

def sameResolution (stream : Stream) : Bool :=
  sameSourceResolution (state.sourceHeight.filter (0 < ·)) stream.extractVideoHeight

/-- The stream of the state went missing and may come back. -/
def pendingExitOf (playbackKey : String) : Bool :=
  state.playbackKey = playbackKey && state.phase = .pendingExit && !state.handled

def canSendWarning (policy : Policy) (now : Timestamp) : Bool :=
  state.warningCount < policy.maxWarnings
  && (!isSet state.warned || policy.messageCooldown ≤ 0
    || state.warned.any (fun warned => policy.messageCooldown ≤ now - warned))

def firstWarnedAt : Option Timestamp :=
  if isSet state.firstWarned then state.firstWarned else state.warned

def warningExpired (policy : Policy) (now : Timestamp) : Bool :=
  isSet state.firstWarnedAt
  && state.firstWarnedAt.any (fun first => policy.correctionWindow ≤ now - first)

end ViolationState

structure SentWarning where
  state : Nat
  policy : Policy
  sentAt : Timestamp

/-- A call that stops a session, whether it arrives or not. -/
structure StopCall where
  state : Nat
  policy : Policy
  calledAt : Timestamp

/-- The violations by key, with the warnings and the stop calls so far. -/
structure GuardRuntime where
  violations : Dict String ViolationState
  clock : Timestamp
  created : Nat
  warnings : List SentWarning
  stops : List StopCall

/-- A stream of a scan with its decision. `elapsed` is the time since the clock was read last;
the calls to the server arrive or fail.
-/
structure SeenStream where
  stream : Stream
  decision : Decision
  policy : Policy
  elapsed : Nat
  warningArrives : Bool
  stopArrives : Bool

namespace GuardRuntime

variable (guard : GuardRuntime)

def put (key : String) (state : ViolationState) : GuardRuntime :=
  { guard with violations := guard.violations.set key state }

def pop (key : String) : GuardRuntime :=
  { guard with violations := guard.violations.erase key }

def advance (elapsed : Nat) : GuardRuntime := { guard with clock := guard.clock + elapsed }

/-- Drop the first violation that waits for the stream with the other resolution, or with the
same one.
-/
def takePending (playbackKey : String) (stream : Stream) (sameResolution : Bool) : GuardRuntime :=
  if playbackKey = "" then guard
  else
    match guard.violations.items.find? (fun (_, state) =>
        state.pendingExitOf playbackKey && state.sameResolution stream = sameResolution) with
    | some (key, _) => guard.pop key
    | none => guard

def closePendingDifferentResolutionEvent (playbackKey : String) (stream : Stream) : GuardRuntime :=
  guard.takePending playbackKey stream false

def takePendingExitEventId (playbackKey : String) (stream : Stream) : GuardRuntime :=
  guard.takePending playbackKey stream true

/-- Open a violation state under the key. -/
def detect (key sessionKey playbackKey serverId : String) (decision : Decision) : GuardRuntime :=
  { guard with
    violations :=
      guard.violations.set key
        { number := guard.created
          sessionKey
          playbackKey
          serverId
          sourceHeight := decision.sourceHeight
          ruleId := decision.ruleId
          phase := .detected
          warned := none
          firstWarned := none
          warningCount := 0
          stopped := none
          paused := none
          missingSince := none }
    created := guard.created + 1 }

def sendWarning (key : String) (state : ViolationState) (policy : Policy) (arrives first : Bool)
    : GuardRuntime :=
  if arrives then
    { guard with
      violations :=
        guard.violations.set key
          { state with
            warned := some guard.clock
            firstWarned :=
              if first && !isSet state.firstWarned then some guard.clock else state.firstWarned
            warningCount := state.warningCount + 1
            phase := .warned }
      warnings := guard.warnings ++ [⟨state.number, policy, guard.clock⟩] }
  else guard.put key { state with phase := .error }

def stopStream (key : String) (state : ViolationState) (policy : Policy) (arrives : Bool)
    : GuardRuntime :=
  { guard with
    violations :=
      guard.violations.set key
        { state with
          stopped := if arrives then some guard.clock else none
          phase := if arrives then .stopped else .error }
    stops := guard.stops ++ [⟨state.number, policy, guard.clock⟩] }

/-- What the mode of the rule asks for. -/
def enforce (key : String) (state : ViolationState) (seen : SeenStream) : GuardRuntime :=
  let policy := seen.policy
  if state.handled then guard.put key state
  else
    match policy.mode with
    | .monitor => guard.put key { state with phase := .monitor }
    | .warn =>
        if state.canSendWarning policy guard.clock then
          guard.sendWarning key state policy seen.warningArrives false
        else guard.put key state
    | .stop => guard.stopStream key state policy seen.stopArrives
    | .warnThenStop =>
        if state.warningExpired policy guard.clock then
          guard.stopStream key state policy seen.stopArrives
        else if state.canSendWarning policy guard.clock then
          guard.sendWarning key state policy seen.warningArrives true
        else guard.put key state

def sessionKey (serverId sessionId : String) : String := serverId ++ ":" ++ sessionId

def violationKey (serverId sessionId ruleId : String) : String :=
  serverId ++ ":" ++ sessionId ++ ":" ++ firstNonempty [ruleId, "default"]

def seeAgain (state : ViolationState) (playbackKey : String) (decision : Decision)
    : ViolationState :=
  { state with
    playbackKey := firstNonempty [playbackKey, state.playbackKey]
    missingSince := none
    sourceHeight := decision.sourceHeight
    ruleId := firstNonempty [decision.ruleId, state.ruleId] }

def handleViolation (key serverId : String) (seen : SeenStream) : GuardRuntime :=
  let guard := guard.advance seen.elapsed
  let playbackKey := seen.stream.makePlaybackKey serverId
  match guard.violations.get? key with
  | some state => guard.enforce key (seeAgain state playbackKey seen.decision) seen
  | none =>
      let guard :=
        ((guard.closePendingDifferentResolutionEvent playbackKey
            seen.stream).takePendingExitEventId playbackKey seen.stream).detect key
          (sessionKey serverId seen.stream.sessionId) playbackKey serverId seen.decision
      match guard.violations.get? key with
      | some state => guard.enforce key (seeAgain state playbackKey seen.decision) seen
      | none => guard

end GuardRuntime

/-- The streams of a server that answered. -/
structure ServerScan where
  serverId : String
  streams : List SeenStream

/-- A scan of the servers; `elapsed` is the time until the states without stream are settled. -/
structure GuardScan where
  servers : List ServerScan
  elapsed : Nat

/-- A stream that violates a rule, with the key of its state. -/
structure ViolatingStream where
  key : String
  stream : Stream
  decision : Decision

/-- What a scan has seen so far. -/
structure ScanProgress where
  guard : GuardRuntime
  seenKeys : List String
  presentSessionKeys : List String
  direct : Dict String Stream
  violating : Dict String (List ViolatingStream)

def isCorrectedPlayback (decision : Decision) : Bool :=
  !decision.shouldEnforce
  && decision.category ∈ ["direct", "container_remux", "remux", "audio_transcode"]

namespace ScanProgress

variable (progress : ScanProgress)

def visit (serverId : String) (seen : SeenStream) : ScanProgress :=
  let stream := { seen.stream with serverId }
  let sessionId := stream.sessionId
  if sessionId = "" then progress
  else
    let playbackKey := stream.makePlaybackKey serverId
    let key := GuardRuntime.violationKey serverId sessionId seen.decision.ruleId
    let present :=
      { progress with
        presentSessionKeys :=
          GuardRuntime.sessionKey serverId sessionId :: progress.presentSessionKeys }
    if seen.decision.shouldEnforce = false then
      if isCorrectedPlayback seen.decision && playbackKey ≠ "" then
        { present with direct := progress.direct.setDefault playbackKey stream }
      else present
    else
      let streams := (progress.violating.get? playbackKey).getD []
      { present with
        guard := progress.guard.handleViolation key serverId { seen with stream }
        seenKeys := key :: progress.seenKeys
        violating :=
          if playbackKey = "" then progress.violating
          else
            progress.violating.set playbackKey
              (streams ++ [⟨key, stream, seen.decision⟩]) }

/-- A state of a scanned server whose stream was not seen is settled: it is dropped once it was
stopped, its stream plays directly or under another violation, or it was missing for long enough.
-/
def settle (guard : GuardRuntime) (key : String) : GuardRuntime :=
  match guard.violations.get? key with
  | none => guard
  | some stale =>
      if stale.handled then guard.pop key
      else
        let direct :=
          if stale.playbackKey = "" then none else progress.direct.get? stale.playbackKey
        let other :=
          ((progress.violating.get? stale.playbackKey).getD []).find? (·.key ≠ key)
        if direct.isSome then guard.pop key
        else if other.any (fun other => !stale.sameResolution other.stream) then guard.pop key
        else if other.any (fun other => other.decision.ruleId ≠ stale.ruleId) then guard.pop key
        else if stale.sessionKey ∈ progress.presentSessionKeys then guard
        else
          match stale.missingSince with
          | none =>
              guard.put key
                { stale with missingSince := some guard.clock, phase := .pendingExit }
          | some missingSince =>
              if guard.clock - missingSince < 4 * second then guard else guard.pop key

end ScanProgress

/-- The streams of a server, in turn. -/
def ScanProgress.visitServer (progress : ScanProgress) (server : ServerScan) : ScanProgress :=
  server.streams.foldl (fun progress seen => progress.visit server.serverId seen) progress

def GuardScan.visited (scan : GuardScan) (guard : GuardRuntime) : ScanProgress :=
  scan.servers.foldl ScanProgress.visitServer ⟨guard, [], [], ∅, ∅⟩

/-- The keys of the states of scanned servers that were not seen. -/
def GuardScan.staleKeys (scan : GuardScan) (progress : ScanProgress) : List String :=
  let scanned := scan.servers.map ServerScan.serverId
  (progress.guard.violations.items.filter (fun (key, state) =>
    state.serverId ∈ scanned && key ∉ progress.seenKeys)).map Prod.fst

/-- One scan: handle the violations that are seen, then settle the states that are not. -/
def GuardRuntime.checkOnce (guard : GuardRuntime) (scan : GuardScan) : GuardRuntime :=
  let progress := scan.visited guard
  (scan.staleKeys progress).foldl progress.settle (progress.guard.advance scan.elapsed)

/-- Nothing has been seen yet. -/
def GuardRuntime.opening (clock : Timestamp) : GuardRuntime := ⟨∅, clock, 0, [], []⟩

end OctoHubs.TranscodeGuard
