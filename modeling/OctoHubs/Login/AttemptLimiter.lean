import OctoHubs.Library.SlidingWindows
import OctoHubs.Library.Text

/-! The throttle of login attempts. Every attempt counts for its address and for its address with
its user name; a rejected attempt is not charged, but its buckets are kept all the same, and may
take the room of others.
-/

namespace OctoHubs.Login

open OctoHubs.Library

/-- The buckets of an address, and of an address with the digest of a user name. -/
inductive LimiterKey
  | ip (address : String)
  | identity (address digest : String)
deriving DecidableEq

/-- How user names are compared. -/
structure NameDigests where
  casefold : String → String
  sha256 : String → String

def normalizedName (names : NameDigests) (username : String) : String :=
  String.ofList ((names.casefold (strip username)).toList.take 80)

def identityKey (names : NameDigests) (address username : String) : LimiterKey :=
  .identity address (names.sha256 (normalizedName names username))

/-- The numbers that a limiter is made with. -/
structure LoginAttemptLimiter where
  windowSeconds : Int
  perIpAttempts : Int
  perIdentityAttempts : Int
  maxBuckets : Int

structure LoginCall where
  address : String
  username : String
  now : ℚ

structure LoginRateLimitDecision where
  allowed : Bool
  retryAfterSeconds : Int
deriving DecidableEq

namespace LoginAttemptLimiter

variable (limiter : LoginAttemptLimiter) (names : NameDigests)

def limits : WindowLimits LimiterKey where
  window := max 1 limiter.windowSeconds
  limit
    | .ip _ => (max 1 limiter.perIpAttempts).toNat
    | .identity _ _ => (max 1 limiter.perIdentityAttempts).toNat
  maxBuckets := (max 2 limiter.maxBuckets).toNat

def attempt (call : LoginCall) : Attempt LimiterKey where
  keys := [.ip call.address, identityKey names call.address call.username]
  now := call.now
  unique := by simp [identityKey]

/-- When the full buckets of a call have room again. -/
def blockedUntil (buckets : Buckets LimiterKey) (call : LoginCall) : List ℚ :=
  let touched := limiter.limits.touched buckets (attempt names call)
  (attempt names call).keys.filterMap (fun key =>
    let events := eventsOf touched key
    if limiter.limits.limit key ≤ events.length then
      events.head?.map (· + limiter.limits.window)
    else none)

def consume (buckets : Buckets LimiterKey) (call : LoginCall)
    : LoginRateLimitDecision × Buckets LimiterKey :=
  let (allowed, after) := limiter.limits.consume buckets (attempt names call)
  if allowed then (⟨true, 0⟩, after)
  else
    let until_ := (limiter.blockedUntil names buckets call).max?.getD call.now
    (⟨false, max 1 (until_ - call.now).ceil⟩, after)

def bucketsAfter (calls : List LoginCall) : Buckets LimiterKey :=
  calls.foldl (fun buckets call => (limiter.consume names buckets call).2) ∅

def accepted (counts : LoginCall → Bool) : Buckets LimiterKey → List LoginCall → Nat
  | _, [] => 0
  | buckets, call :: calls =>
      let step := limiter.consume names buckets call
      (if step.1.allowed && counts call then 1 else 0) + accepted counts step.2 calls

def chargedKeys : Buckets LimiterKey → List LoginCall → List LimiterKey
  | _, [] => []
  | buckets, call :: calls =>
      let step := limiter.consume names buckets call
      (if step.1.allowed then (attempt names call).keys else []) ++ chargedKeys step.2 calls

def inWindow (start : ℚ) (call : LoginCall) : Bool :=
  start ≤ call.now && call.now < start + limiter.limits.window

/-- The attempts that a key has left at a time. -/
def allowance (buckets : Buckets LimiterKey) (key : LimiterKey) (time : ℚ) : Nat :=
  limiter.limits.limit key - (limiter.limits.live (eventsOf buckets key) time).length

/-- Every call finds room for its buckets without dropping one with an attempt in the window. -/
def SparesLive (calls : List LoginCall) : Prop :=
  limiter.limits.SparesAll ∅ (calls.map (attempt names))

instance (calls : List LoginCall) : Decidable (limiter.SparesLive names calls) :=
  inferInstanceAs (Decidable (WindowLimits.SparesAll _ _ _))

variable {limiter names}

theorem consume_allowed (buckets : Buckets LimiterKey) (call : LoginCall)
    : (limiter.consume names buckets call).1.allowed
      = limiter.limits.admits buckets (attempt names call) := by
  unfold consume
  dsimp only [WindowLimits.consume]
  cases limiter.limits.admits buckets (attempt names call) with
  | true => rfl
  | false => rfl

theorem consume_buckets (buckets : Buckets LimiterKey) (call : LoginCall)
    : (limiter.consume names buckets call).2
      = (limiter.limits.consume buckets (attempt names call)).2 := by
  unfold consume
  dsimp only
  split
  · rfl
  · rfl

theorem accepted_eq (counts : LoginCall → Bool) (buckets : Buckets LimiterKey)
    (calls : List LoginCall)
    : limiter.accepted names counts buckets calls
      = limiter.limits.accepted (attempt names) counts buckets calls := by
  induction calls generalizing buckets with
  | nil => rfl
  | cons call rest ih =>
      simp only [accepted, WindowLimits.accepted, consume_allowed, consume_buckets, ih]
      rfl

theorem bucketsAfter_eq (calls : List LoginCall)
    : limiter.bucketsAfter names calls
      = limiter.limits.bucketsAfter ∅ (calls.map (attempt names)) := by
  unfold bucketsAfter WindowLimits.bucketsAfter
  rw [List.foldl_map]
  simp only [consume_buckets]

/-- The calls come in order of a clock that does not go back. -/
def Clocked (calls : List LoginCall) : Prop := (calls.map (·.now)).IsChain (· ≤ ·)

instance (calls : List LoginCall) : Decidable (Clocked calls) :=
  inferInstanceAs (Decidable (List.IsChain _ _))

theorem Clocked.ordered {calls : List LoginCall} (clocked : Clocked calls)
    : ∃ now, WindowLimits.Ordered now (calls.map (attempt names)) := by
  cases calls with
  | nil => exact ⟨0, List.IsChain.singleton _⟩
  | cons call rest =>
      refine ⟨call.now, ?_⟩
      unfold WindowLimits.Ordered
      rw [List.map_map]
      exact List.isChain_cons_cons.mpr ⟨le_rfl, clocked⟩

theorem accepted_le_limit {calls : List LoginCall} (clocked : Clocked calls)
    (spares : limiter.SparesLive names calls) {key : LimiterKey} {counts : LoginCall → Bool}
    {start : ℚ}
    (counted
      : ∀ call,
          counts call = true
          → key ∈ (attempt names call).keys ∧ limiter.inWindow start call = true)
    : limiter.accepted names counts ∅ calls ≤ limiter.limits.limit key := by
  rcases clocked.ordered with ⟨now, ordered⟩
  have bound :=
    (WindowLimits.remembers_empty limiter.limits key now).accepted_le ordered spares
      (fun call here => by
        rcases counted call here with ⟨member, inside⟩
        have window : start ≤ call.now ∧ call.now < start + limiter.limits.window := by
          simpa [inWindow] using inside
        exact ⟨member, window⟩)
  rw [accepted_eq]
  rwa [List.countP_nil, Nat.add_zero] at bound

/-- While no call drops a bucket with an attempt in the window, an address and a user name of an
address are let in as often as they may be in every window, and a rejected call leaves every
other key what it had.
-/
theorem loginThrottle_bounded (limiter : LoginAttemptLimiter) (names : NameDigests)
    {calls : List LoginCall} (clocked : Clocked calls) (spares : limiter.SparesLive names calls)
    : (∀ address start,
          limiter.accepted names
            (fun call => call.address = address && limiter.inWindow start call) ∅ calls
          ≤ (max 1 limiter.perIpAttempts).toNat)
      ∧ (∀ address username start,
          limiter.accepted names
            (fun call =>
              call.address = address
              && normalizedName names call.username = normalizedName names username
              && limiter.inWindow start call)
            ∅ calls
          ≤ (max 1 limiter.perIdentityAttempts).toNat)
      ∧ ∀ before call after,
          calls = before ++ call :: after
          → (limiter.consume names (limiter.bucketsAfter names before) call).1.allowed = false
          → ∀ key ∉ (attempt names call).keys,
              ∀ later ≥ call.now,
                limiter.allowance
                  (limiter.consume names (limiter.bucketsAfter names before) call).2 key later
                ≤ limiter.allowance (limiter.bucketsAfter names before) key later := by
  refine ⟨fun address start => ?_, fun address username start => ?_, ?_⟩
  · refine @accepted_le_limit _ _ _ clocked spares (.ip address) _ start (fun call here => ?_)
    simp only [Bool.and_eq_true, decide_eq_true_eq] at here
    rcases here with ⟨same, inside⟩
    subst same
    exact ⟨by simp [attempt], inside⟩
  · refine
      @accepted_le_limit _ _ _ clocked spares (identityKey names address username) _ start
        (fun call here => ?_)
    simp only [Bool.and_eq_true, decide_eq_true_eq] at here
    rcases here with ⟨⟨same, name⟩, inside⟩
    subst same
    exact ⟨by simp [attempt, identityKey, name], inside⟩
  · intro before call after parts rejected key other later since
    subst parts
    rcases @Clocked.ordered names _ clocked with ⟨now, ordered⟩
    unfold SparesLive at spares
    rw [List.map_append, List.map_cons] at ordered spares
    rcases WindowLimits.sparesAll_append.mp spares with ⟨sparesBefore, spare, -⟩
    rcases ordered.before with ⟨orderedBefore, last⟩
    rcases (WindowLimits.remembers_empty limiter.limits key now).bucketsAfter orderedBefore
      sparesBefore with ⟨done, remembers⟩
    rw [consume_buckets, bucketsAfter_eq]
    unfold allowance
    rw [remembers.live_other last spare other since]

/-- The digests of some names that are folded already. -/
def shownNames : NameDigests where
  casefold name := name
  sha256 name :=
    if name = "x" then "2d711642b726b04401627ca9fbac32f5c8530fb1903cc4db02258717921a4881"
    else if name = "u" then "0bfe935e70c321c7ca3afc75ce0d0ca2f98b5422e008bb31c00c6d7f1f1c0ad6"
    else if name = "v" then "4c94485e0c21ae6c41ce1dfe7b6bfaceea5ab68e40a2476f50208e526f506080"
    else if name = "w" then "50e721e49c013f00c62cf59f2163542a9d8df02464efeb615d31051b0fddc326"
    else "a1fce4363854ff888cff4b8e7875d600c2682390412a8cf79b37d0b11148b0fa"

/-- One attempt for an address and one for a user name in ten seconds, and room for five buckets. -/
def oneEach : LoginAttemptLimiter := ⟨10, 1, 1, 5⟩

theorem oneEach_bounded
    : oneEach.accepted shownNames
        (fun call => call.address = "192.0.2.1" && oneEach.inWindow 0 call) ∅
        [⟨"192.0.2.1", "x", 0⟩, ⟨"192.0.2.1", "y", 1⟩]
      ≤ 1 :=
  (loginThrottle_bounded oneEach shownNames (by decide)
    (by decide +kernel)).1 "192.0.2.1" 0

/-- Rejected calls of one address drop the bucket of another one, which is let in once more,
though no more keys than there is room for were ever charged.
-/
def crowdedCalls : List LoginCall :=
  [⟨"192.0.2.1", "x", 0⟩, ⟨"192.0.2.2", "u", 1⟩, ⟨"192.0.2.2", "v", 2⟩, ⟨"192.0.2.2", "w", 3⟩,
    ⟨"192.0.2.1", "y", 4⟩]

theorem crowded_lets_in
    : Clocked crowdedCalls
      ∧ (oneEach.chargedKeys shownNames ∅ crowdedCalls).dedup.length ≤ oneEach.limits.maxBuckets
      ∧ ¬(oneEach.accepted shownNames
            (fun call => call.address = "192.0.2.1" && oneEach.inWindow 0 call) ∅ crowdedCalls
          ≤ (max 1 oneEach.perIpAttempts).toNat) := by
  refine ⟨?_, ?_, ?_⟩
  · decide
  · decide +kernel
  · decide +kernel

end LoginAttemptLimiter

end OctoHubs.Login
