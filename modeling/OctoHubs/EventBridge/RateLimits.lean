import OctoHubs.Library.Text
import OctoHubs.Library.TokenBuckets

/-! The rates at which a server may send to the event bridge: messages and the events in them by
one limiter, bytes by another.
-/

namespace OctoHubs.EventBridge

open OctoHubs.Library

/-- A call of a limiter that reads the clock while it has the lock. -/
structure LimiterCall where
  serverId : String
  cost : Int
  now : ℚ

/-- A limiter: what a call costs of each kind, and the kind of which a single call may not cost
more than the burst.
-/
structure RateLimiter (ι : Type) where
  limits : TokenLimits ι
  cost : LimiterCall → ι → ℚ
  cost_nonneg : ∀ call kind, 0 ≤ cost call kind
  checked : ι

namespace RateLimiter

variable {ι : Type} (limiter : RateLimiter ι)

/-- What is asked of the buckets; nothing without a server, or when it could never be granted. -/
def request? (call : LimiterCall) : Option (TokenRequest String ι) :=
  let cleanServerId := strip call.serverId
  if cleanServerId = "" ∨ limiter.limits.burst limiter.checked < limiter.cost call limiter.checked
  then none
  else some ⟨cleanServerId, limiter.cost call, call.now, limiter.cost_nonneg call⟩

def consume [Fintype ι] (buckets : Dict String (TokenBucket ι)) (call : LimiterCall)
    : Bool × Dict String (TokenBucket ι) :=
  match limiter.request? call with
  | none => (false, buckets)
  | some request => limiter.limits.consume buckets request

/-- Whether a call is a server's and in a window of time. -/
def inWindow (serverId : String) (start length : ℚ) (call : LimiterCall) : Bool :=
  strip call.serverId = serverId ∧ start ≤ call.now ∧ call.now ≤ start + length

/-- How much of a kind is accepted of a server in a window of time. -/
def acceptedIn [Fintype ι] (kind : ι) (serverId : String) (start length : ℚ)
    : Dict String (TokenBucket ι) → List LimiterCall → ℚ
  | _, [] => 0
  | buckets, call :: calls =>
      let step := limiter.consume buckets call
      (if step.1 && inWindow serverId start length call then limiter.cost call kind else 0)
      + acceptedIn kind serverId start length step.2 calls

/-- The different servers that calls are made for. -/
def serverIds (calls : List LimiterCall) : List String :=
  ((calls.map (fun call => strip call.serverId)).filter (· ≠ "")).dedup

section Windows

variable {limiter : RateLimiter ι} {kind : ι} {serverId : String} {start length : ℚ}
  {calls : List LimiterCall}

theorem request?_eq_some {call : LimiterCall} {request : TokenRequest String ι}
    (asked : limiter.request? call = some request)
    : request.key = strip call.serverId
      ∧ request.cost = limiter.cost call
      ∧ request.now = call.now
      ∧ request.key ≠ "" := by
  unfold request? at asked
  dsimp only at asked
  split at asked
  · cases asked
  · next accepted =>
      cases asked
      exact ⟨rfl, rfl, rfl, fun nameless => accepted (.inl nameless)⟩

/-- What is accepted of the calls is what the buckets grant to the requests, by induction on the
calls.
-/
theorem acceptedIn_eq_granted [Fintype ι] (buckets : Dict String (TokenBucket ι))
    : limiter.acceptedIn kind serverId start length buckets calls
      = limiter.limits.granted kind
          (fun request =>
            request.key = serverId ∧ start ≤ request.now ∧ request.now ≤ start + length)
          buckets (calls.filterMap limiter.request?) := by
  induction calls generalizing buckets with
  | nil => rfl
  | cons call calls ih =>
      rw [acceptedIn, ih]
      unfold consume
      cases asked : limiter.request? call with
      | none => simp [asked]
      | some request =>
          rcases request?_eq_some asked with ⟨key, cost, now, -⟩
          have window
              : inWindow serverId start length call
                = decide
                    (request.key = serverId ∧ start ≤ request.now
                      ∧ request.now ≤ start + length) := by
            rw [inWindow, decide_eq_decide, key, now]
          rw [List.filterMap_cons_some asked, TokenLimits.granted, window, ← cost]

theorem mem_serverIds {call : LimiterCall} {request : TokenRequest String ι}
    (member : call ∈ calls) (asked : limiter.request? call = some request)
    : request.key ∈ serverIds calls := by
  rcases request?_eq_some asked with ⟨key, -, -, named⟩
  unfold serverIds
  rw [List.mem_dedup, List.mem_filter, key]
  exact ⟨List.mem_map_of_mem member, by simpa [key] using named⟩

/-- A limiter with room for all servers accepts, in every window of time, the burst and what
flows in during the window, at most.
-/
theorem acceptedIn_le [Fintype ι] (refills : limiter.limits.Refills kind)
    (few : (serverIds calls).length ≤ limiter.limits.maxStates)
    (monotone : (calls.map (·.now)).Pairwise (· ≤ ·)) (order : 0 ≤ length)
    : limiter.acceptedIn kind serverId start length ∅ calls
      ≤ limiter.limits.burst kind + limiter.limits.rate kind * length := by
  rw [acceptedIn_eq_granted]
  refine TokenLimits.granted_window_le serverId start refills few order ?_ ?_ ?_ ?_ ?_
  · intro request counts
    exact of_decide_eq_true counts
  · intro key bucket stored
    cases stored
  · intro key listed
    cases listed
  · intro request listed
    rcases List.mem_filterMap.mp listed with ⟨call, member, asked⟩
    exact mem_serverIds member asked
  · rw [List.pairwise_filterMap]
    refine (List.pairwise_map.mp monotone).imp ?_
    intro earlier later order request asked other alsoAsked
    rw [(request?_eq_some asked).2.2.1, (request?_eq_some alsoAsked).2.2.1]
    exact order

end Windows

end RateLimiter

inductive IngressKind
  | messages
  | events
deriving DecidableEq

instance : Fintype IngressKind := ⟨{.messages, .events}, by intro kind; cases kind <;> simp⟩

def ingressLimiter (messagesPerSecond messageBurst eventsPerSecond eventBurst : ℚ)
    (maxStates : Int) (stateTtlSeconds : ℚ)
    : RateLimiter IngressKind where
  limits :=
    { rate := fun
        | .messages => max 0 messagesPerSecond
        | .events => max 0 eventsPerSecond
      burst := fun
        | .messages => max 1 messageBurst
        | .events => max 1 eventBurst
      maxStates := (max 1 maxStates).toNat
      ttl := max 0 stateTtlSeconds
      rate_nonneg := by intro kind; cases kind <;> exact le_max_left _ _
      burst_pos := by
        intro kind
        cases kind <;> exact lt_of_lt_of_le one_pos (le_max_left _ _) }
  cost call := fun
    | .messages => 1
    | .events => (max 0 call.cost : Int)
  cost_nonneg := by
    intro call kind
    cases kind with
    | messages => exact zero_le_one
    | events =>
        change (0 : ℚ) ≤ (max 0 call.cost : Int)
        exact_mod_cast le_max_left 0 call.cost
  checked := .events

def byteLimiter (bytesPerSecond byteBurst : ℚ) (maxStates : Int) (stateTtlSeconds : ℚ)
    : RateLimiter Unit where
  limits :=
    { rate := fun _ => max 0 bytesPerSecond
      burst := fun _ => max 1 byteBurst
      maxStates := (max 1 maxStates).toNat
      ttl := max 0 stateTtlSeconds
      rate_nonneg := fun _ => le_max_left _ _
      burst_pos := fun _ => lt_of_lt_of_le one_pos (le_max_left _ _) }
  cost call _ := (max 0 call.cost : Int)
  cost_nonneg := by
    intro call _
    exact_mod_cast le_max_left 0 call.cost
  checked := ()

/-- Over any calls on a clock that does not go back, for no more servers than there is room for,
each server sends in every window of time no more messages, events and bytes than the burst and
what the rate gives in that time. A bucket that is dropped must have had the time to fill.
-/
theorem eventBridge_rates_hold (messagesPerSecond messageBurst eventsPerSecond eventBurst : ℚ)
    (bytesPerSecond byteBurst : ℚ) (maxStates maxByteStates : Int)
    (stateTtlSeconds byteTtlSeconds : ℚ) (calls byteCalls : List LimiterCall)
    (monotone : (calls.map (·.now)).Pairwise (· ≤ ·))
    (byteMonotone : (byteCalls.map (·.now)).Pairwise (· ≤ ·))
    (few : ((RateLimiter.serverIds calls).length : Int) ≤ max 1 maxStates)
    (byteFew : ((RateLimiter.serverIds byteCalls).length : Int) ≤ max 1 maxByteStates)
    (serverId : String) (start length : ℚ) (order : 0 ≤ length)
    : let ingress :=
        ingressLimiter messagesPerSecond messageBurst eventsPerSecond eventBurst maxStates
          stateTtlSeconds
      let bytes := byteLimiter bytesPerSecond byteBurst maxByteStates byteTtlSeconds
      (ingress.limits.Refills .messages
          → ingress.acceptedIn .messages serverId start length ∅ calls
            ≤ max 1 messageBurst + max 0 messagesPerSecond * length)
        ∧ (ingress.limits.Refills .events
          → ingress.acceptedIn .events serverId start length ∅ calls
            ≤ max 1 eventBurst + max 0 eventsPerSecond * length)
        ∧ (bytes.limits.Refills ()
          → bytes.acceptedIn () serverId start length ∅ byteCalls
            ≤ max 1 byteBurst + max 0 bytesPerSecond * length) := by
  have room : (RateLimiter.serverIds calls).length ≤ (max 1 maxStates).toNat := by omega
  have byteRoom : (RateLimiter.serverIds byteCalls).length ≤ (max 1 maxByteStates).toNat := by
    omega
  refine ⟨?_, ?_, ?_⟩
  · exact fun refills => RateLimiter.acceptedIn_le refills room monotone order
  · exact fun refills => RateLimiter.acceptedIn_le refills room monotone order
  · exact fun refills => RateLimiter.acceptedIn_le refills byteRoom byteMonotone order

/-- A server that sends two messages in the first second, and another one. -/
def twoServers : List LimiterCall :=
  [⟨"east", 3, 0⟩, ⟨" east ", 500, 1⟩, ⟨"west", 1, 2⟩]

theorem eventBridge_rates_hold_twoServers
    : let ingress := ingressLimiter 20 40 200 500 10000 3600
      let bytes := byteLimiter 2097152 4194304 10000 3600
      ingress.acceptedIn .messages "east" 0 1 ∅ twoServers ≤ max 1 40 + max 0 20 * 1
      ∧ ingress.acceptedIn .events "east" 0 1 ∅ twoServers ≤ max 1 500 + max 0 200 * 1
      ∧ bytes.acceptedIn () "east" 0 1 ∅ twoServers ≤ max 1 4194304 + max 0 2097152 * 1 := by
  have ordered : (twoServers.map (·.now)).Pairwise (· ≤ ·) := by
    simp [twoServers]
  have few : ((RateLimiter.serverIds twoServers).length : Int) ≤ max 1 10000 := by
    decide
  have bounds :=
    eventBridge_rates_hold 20 40 200 500 2097152 4194304 10000 10000 3600 3600 twoServers
      twoServers ordered ordered few few "east" 0 1 zero_le_one
  refine ⟨bounds.1 ?_, bounds.2.1 ?_, bounds.2.2 ?_⟩
  · intro _
    simp only [ingressLimiter]
    norm_num
  · intro _
    simp only [ingressLimiter]
    norm_num
  · intro _
    simp only [byteLimiter]
    norm_num

end OctoHubs.EventBridge
