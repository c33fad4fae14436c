import Mathlib.Algebra.Order.Ring.Rat
import Mathlib.Data.Fintype.Basic
import Mathlib.Data.List.MinMax
import Mathlib.Tactic.Linarith
import OctoHubs.Library.Dict

/-! Buckets of tokens, one for each key, that fill at a rate up to a burst and from which every
request that is accepted takes its cost. What a bucket would show if it were looked at is its
level; a bucket that is dropped when it would be full is never missed.
-/

namespace OctoHubs.Library

variable {κ ι : Type*} [DecidableEq κ]

/-- Rates and bursts of the tokens of each kind, how many keys have buckets at once, and after
how long a bucket is dropped that nobody used; never, when that is zero.
-/
structure TokenLimits (ι : Type*) where
  rate : ι → ℚ
  burst : ι → ℚ
  maxStates : Nat
  ttl : ℚ
  rate_nonneg : ∀ kind, 0 ≤ rate kind
  burst_pos : ∀ kind, 0 < burst kind

structure TokenBucket (ι : Type*) where
  tokens : ι → ℚ
  updatedAt : ℚ

structure TokenRequest (κ ι : Type*) where
  key : κ
  cost : ι → ℚ
  now : ℚ
  cost_nonneg : ∀ kind, 0 ≤ cost kind

namespace TokenLimits

variable (limits : TokenLimits ι)

/-- The tokens of a bucket with what has flowed in since it was used. -/
def refilled (bucket : TokenBucket ι) (now : ℚ) (kind : ι) : ℚ :=
  min (limits.burst kind)
    (bucket.tokens kind + max 0 (now - bucket.updatedAt) * limits.rate kind)

/-- Drop the buckets that were not used for too long. -/
def evictStale (buckets : Dict κ (TokenBucket ι)) (now : ℚ) : Dict κ (TokenBucket ι) :=
  if limits.ttl ≤ 0 then buckets
  else buckets.filter (fun _ bucket => ¬limits.ttl ≤ now - bucket.updatedAt)

/-- Drop the bucket that was used the longest ago, when there is no room for one more. -/
def makeRoom (buckets : Dict κ (TokenBucket ι)) : Dict κ (TokenBucket ι) :=
  if limits.maxStates ≤ buckets.items.length then
    match buckets.items.argmin (·.2.updatedAt) with
    | some oldest => buckets.erase oldest.1
    | none => buckets
  else buckets

/-- Accept a request if there are tokens of every kind for it, and take them. -/
def consume [Fintype ι] (buckets : Dict κ (TokenBucket ι)) (request : TokenRequest κ ι)
    : Bool × Dict κ (TokenBucket ι) :=
  let fresh := limits.evictStale buckets request.now
  let (kept, tokens) :=
    match fresh.get? request.key with
    | none => (limits.makeRoom fresh, limits.burst)
    | some bucket => (fresh, limits.refilled bucket request.now)
  if ∀ kind, request.cost kind ≤ tokens kind then
    (true, kept.set request.key ⟨fun kind => tokens kind - request.cost kind, request.now⟩)
  else (false, kept.set request.key ⟨tokens, request.now⟩)

/-- How much a list of requests is granted of a kind, as far as they count. -/
def granted [Fintype ι] (kind : ι) (counts : TokenRequest κ ι → Bool)
    : Dict κ (TokenBucket ι) → List (TokenRequest κ ι) → ℚ
  | _, [] => 0
  | buckets, request :: requests =>
      let step := limits.consume buckets request
      (if step.1 && counts request then request.cost kind else 0)
      + granted kind counts step.2 requests

/-- What the bucket of a key would show; one that is missing would be full. -/
def level (bucket : Option (TokenBucket ι)) (now : ℚ) (kind : ι) : ℚ :=
  bucket.elim (limits.burst kind) (fun bucket => limits.refilled bucket now kind)

/-- A bucket that is dropped has been filled again. -/
def Refills (kind : ι) : Prop :=
  0 < limits.ttl → limits.burst kind ≤ limits.rate kind * limits.ttl

variable {limits}

theorem level_le_burst (limits : TokenLimits ι) (bucket : Option (TokenBucket ι)) (now : ℚ)
    (kind : ι)
    : limits.level bucket now kind ≤ limits.burst kind := by
  cases bucket with
  | none => exact le_refl _
  | some bucket => exact min_le_left _ _

theorem level_nonneg {bucket : Option (TokenBucket ι)} {kind : ι}
    (filled : ∀ found, bucket = some found → 0 ≤ found.tokens kind) (now : ℚ)
    : 0 ≤ limits.level bucket now kind := by
  cases bucket with
  | none => exact (limits.burst_pos kind).le
  | some bucket =>
      have tokens := filled bucket rfl
      have inflow : 0 ≤ max 0 (now - bucket.updatedAt) * limits.rate kind :=
        mul_nonneg (le_max_left _ _) (limits.rate_nonneg kind)
      exact le_min (limits.burst_pos kind).le (by linarith)

theorem level_le_add (limits : TokenLimits ι) (bucket : Option (TokenBucket ι))
    {before after : ℚ} (later : before ≤ after) (kind : ι)
    : limits.level bucket after kind
      ≤ limits.level bucket before kind + limits.rate kind * (after - before) := by
  have inflow : 0 ≤ limits.rate kind * (after - before) :=
    mul_nonneg (limits.rate_nonneg kind) (by linarith)
  cases bucket with
  | none =>
      change limits.burst kind ≤ limits.burst kind + _
      linarith
  | some bucket =>
      change min _ _ ≤ min _ _ + _
      have elapsed
          : max 0 (after - bucket.updatedAt)
            ≤ max 0 (before - bucket.updatedAt) + (after - before) := by
        refine max_le ?_ ?_
        · have old := le_max_left 0 (before - bucket.updatedAt)
          linarith
        · have old := le_max_right 0 (before - bucket.updatedAt)
          linarith
      have scaled := mul_le_mul_of_nonneg_right elapsed (limits.rate_nonneg kind)
      rw [← min_add_add_right]
      refine min_le_min ?_ ?_ <;> linarith

theorem level_evictStale {buckets : Dict κ (TokenBucket ι)} {key : κ} {kind : ι}
    (refills : limits.Refills kind)
    (filled : ∀ found, buckets.get? key = some found → 0 ≤ found.tokens kind) (now : ℚ)
    : limits.level ((limits.evictStale buckets now).get? key) now kind
      = limits.level (buckets.get? key) now kind := by
  unfold evictStale
  split
  · rfl
  · next positive =>
      rw [Dict.get?_filter]
      cases stored : buckets.get? key with
      | none => rfl
      | some bucket =>
          by_cases stale : limits.ttl ≤ now - bucket.updatedAt
          · have tokens := filled bucket stored
            have full := refills (not_le.mp positive)
            have elapsed : limits.ttl ≤ max 0 (now - bucket.updatedAt) :=
              le_trans stale (le_max_right _ _)
            have inflow := mul_le_mul_of_nonneg_right elapsed (limits.rate_nonneg kind)
            have whole : limits.refilled bucket now kind = limits.burst kind :=
              min_eq_left (by linarith [mul_comm limits.ttl (limits.rate kind)])
            have dropped : ¬now - bucket.updatedAt < limits.ttl := not_lt.mpr stale
            simp [level, Option.filter, dropped, whole]
          · have kept : now - bucket.updatedAt < limits.ttl := not_le.mp stale
            simp [level, Option.filter, kept]

/-- No bucket has a negative number of tokens. -/
def Filled (buckets : Dict κ (TokenBucket ι)) : Prop :=
  ∀ key bucket, buckets.get? key = some bucket → ∀ kind, 0 ≤ bucket.tokens kind

theorem get?_evictStale_of_some {buckets : Dict κ (TokenBucket ι)} {now : ℚ} {key : κ}
    {bucket : TokenBucket ι} (kept : (limits.evictStale buckets now).get? key = some bucket)
    : buckets.get? key = some bucket := by
  unfold evictStale at kept
  split at kept
  · exact kept
  · rw [Dict.get?_filter] at kept
    exact (Option.filter_eq_some_iff.mp kept).1

theorem makeRoom_eq_self {buckets : Dict κ (TokenBucket ι)} {names : List κ} {key : κ}
    (absent : buckets.get? key = none) (known : ∀ other ∈ buckets.keys, other ∈ names)
    (member : key ∈ names) (few : names.length ≤ limits.maxStates)
    : limits.makeRoom buckets = buckets := by
  have unlisted : key ∉ buckets.keys := by
    rw [Dict.mem_keys_iff, absent]
    simp
  have distinct : (key :: buckets.keys).Nodup := List.nodup_cons.mpr ⟨unlisted, buckets.nodup⟩
  have contained : key :: buckets.keys ⊆ names := by
    intro other listed
    rcases List.mem_cons.mp listed with rfl | stored
    · exact member
    · exact known other stored
  have length := (List.subperm_of_subset distinct contained).length_le
  have stored : buckets.keys.length = buckets.items.length := List.length_map _
  unfold makeRoom
  rw [List.length_cons, stored] at length
  exact if_neg (by omega)

theorem level_of_now {tokens : ι → ℚ} {now : ℚ} {kind : ι}
    (bound : tokens kind ≤ limits.burst kind)
    : limits.level (some ⟨tokens, now⟩) now kind = tokens kind := by
  change min _ _ = _
  simp [bound]

theorem get?_evictStale_of_now {buckets : Dict κ (TokenBucket ι)} {key : κ}
    {tokens : ι → ℚ} {now : ℚ}
    (used : buckets.get? key = some ⟨tokens, now⟩)
    : (limits.evictStale buckets now).get? key = some ⟨tokens, now⟩ := by
  unfold evictStale
  split
  · exact used
  · next positive =>
      rw [Dict.get?_filter, used]
      have young : ¬limits.ttl ≤ 0 := positive
      simp [Option.filter, young]

section Granting

variable [Fintype ι] {buckets : Dict κ (TokenBucket ι)} {request : TokenRequest κ ι}

theorem exists_consume_eq (limits : TokenLimits ι) (buckets : Dict κ (TokenBucket ι))
    (request : TokenRequest κ ι)
    : ∃ kept : Dict κ (TokenBucket ι),
        limits.consume buckets request
        = let tokens :=
            limits.level ((limits.evictStale buckets request.now).get? request.key) request.now
          if ∀ kind, request.cost kind ≤ tokens kind then
            (true, kept.set request.key ⟨fun kind => tokens kind - request.cost kind, request.now⟩)
          else (false, kept.set request.key ⟨tokens, request.now⟩) := by
  unfold consume
  dsimp only
  cases (limits.evictStale buckets request.now).get? request.key with
  | none => exact ⟨limits.makeRoom (limits.evictStale buckets request.now), rfl⟩
  | some bucket => exact ⟨limits.evictStale buckets request.now, rfl⟩

theorem consume_fst_iff
    : (limits.consume buckets request).1 = true
      ↔ ∀ kind,
          request.cost kind
          ≤ limits.level ((limits.evictStale buckets request.now).get? request.key) request.now
              kind := by
  obtain ⟨kept, step⟩ := exists_consume_eq limits buckets request
  rw [step]
  dsimp only
  split
  · next enough => simpa using enough
  · next short => simpa using short

theorem level_consume (granted : (limits.consume buckets request).1 = true) (kind : ι)
    : limits.level
        ((limits.evictStale (limits.consume buckets request).2 request.now).get? request.key)
        request.now kind
      = limits.level ((limits.evictStale buckets request.now).get? request.key) request.now kind
        - request.cost kind := by
  have enough := consume_fst_iff.mp granted
  have next
      : (limits.consume buckets request).2.get? request.key
        = some
            ⟨fun kind =>
                limits.level ((limits.evictStale buckets request.now).get? request.key)
                  request.now kind
                - request.cost kind,
              request.now⟩ := by
    obtain ⟨kept, step⟩ := exists_consume_eq limits buckets request
    rw [step]
    dsimp only
    rw [if_pos enough, Dict.get?_set_self]
  rw [get?_evictStale_of_now next, level_of_now]
  have top := level_le_burst limits
    ((limits.evictStale buckets request.now).get? request.key) request.now kind
  have cost := request.cost_nonneg kind
  linarith

end Granting

section Consuming

variable [Fintype ι] {buckets : Dict κ (TokenBucket ι)} {names : List κ}
  {request : TokenRequest κ ι}

theorem consume_eq (known : ∀ other ∈ buckets.keys, other ∈ names) (member : request.key ∈ names)
    (few : names.length ≤ limits.maxStates)
    : limits.consume buckets request
      = let fresh := limits.evictStale buckets request.now
        let tokens := limits.level (fresh.get? request.key) request.now
        if ∀ kind, request.cost kind ≤ tokens kind then
          (true, fresh.set request.key ⟨fun kind => tokens kind - request.cost kind, request.now⟩)
        else (false, fresh.set request.key ⟨tokens, request.now⟩) := by
  unfold consume
  dsimp only
  cases stored : (limits.evictStale buckets request.now).get? request.key with
  | some bucket => rfl
  | none =>
      have fresh_known
          : ∀ other ∈ (limits.evictStale buckets request.now).keys, other ∈ names := by
        intro other listed
        rcases Dict.mem_keys_iff.mp listed with ⟨bucket, found⟩
        exact known other (Dict.mem_keys_iff.mpr ⟨bucket, get?_evictStale_of_some found⟩)
      rw [makeRoom_eq_self stored fresh_known member few]
      rfl

/-- What one request does to the buckets: they stay filled and known, and the level of a key
falls by what it is granted.
-/
structure Consumed (limits : TokenLimits ι) (names : List κ) (buckets : Dict κ (TokenBucket ι))
    (request : TokenRequest κ ι)
    : Prop where
  filled : Filled (limits.consume buckets request).2
  known : ∀ other ∈ (limits.consume buckets request).2.keys, other ∈ names
  own
    : ∀ kind,
        limits.Refills kind
        → limits.level ((limits.consume buckets request).2.get? request.key) request.now kind
          = limits.level (buckets.get? request.key) request.now kind
            - if (limits.consume buckets request).1 then request.cost kind else 0
  others
    : ∀ key,
        key ≠ request.key
        → ∀ kind,
            limits.Refills kind
            → limits.level ((limits.consume buckets request).2.get? key) request.now kind
              = limits.level (buckets.get? key) request.now kind

theorem exists_tokens (filled : Filled buckets) (known : ∀ other ∈ buckets.keys, other ∈ names)
    (member : request.key ∈ names) (few : names.length ≤ limits.maxStates)
    : ∃ tokens,
        (limits.consume buckets request).2
          = (limits.evictStale buckets request.now).set request.key ⟨tokens, request.now⟩
        ∧ ∀ kind,
            tokens kind
              = limits.level ((limits.evictStale buckets request.now).get? request.key)
                  request.now kind
                - (if (limits.consume buckets request).1 then request.cost kind else 0)
            ∧ 0 ≤ tokens kind := by
  rw [consume_eq known member few]
  dsimp only
  have levels (kind : ι)
      : 0 ≤ limits.level ((limits.evictStale buckets request.now).get? request.key)
          request.now kind :=
    level_nonneg (fun found kept => filled _ found (get?_evictStale_of_some kept) kind) _
  split
  · next enough =>
      refine ⟨_, rfl, fun kind => ⟨by simp, ?_⟩⟩
      have covered := enough kind
      linarith
  · exact ⟨_, rfl, fun kind => ⟨by simp, levels kind⟩⟩

theorem consumed (filled : Filled buckets) (known : ∀ other ∈ buckets.keys, other ∈ names)
    (member : request.key ∈ names) (few : names.length ≤ limits.maxStates)
    : Consumed limits names buckets request := by
  rcases exists_tokens filled known member few with ⟨tokens, next, shape⟩
  refine ⟨?_, ?_, ?_, ?_⟩
  · intro key bucket stored kind
    rw [next, Dict.get?_set] at stored
    split at stored
    · rw [← Option.some.inj stored]
      exact (shape kind).2
    · exact filled key bucket (get?_evictStale_of_some stored) kind
  · intro other listed
    rcases Dict.mem_keys_iff.mp listed with ⟨bucket, stored⟩
    rw [next, Dict.get?_set] at stored
    split at stored
    · next same => exact same ▸ member
    · exact known other (Dict.mem_keys_iff.mpr ⟨bucket, get?_evictStale_of_some stored⟩)
  · intro kind refills
    have before := level_evictStale refills
      (fun found stored => filled request.key found stored kind) request.now
    have bound : tokens kind ≤ limits.burst kind := by
      have top := level_le_burst limits
        ((limits.evictStale buckets request.now).get? request.key) request.now kind
      rw [(shape kind).1]
      split
      · have cost := request.cost_nonneg kind
        linarith
      · linarith
    rw [next, Dict.get?_set_self, level_of_now bound, (shape kind).1, before]
  · intro key differs kind refills
    rw [next, Dict.get?_set_ne _ _ differs]
    exact level_evictStale refills (fun found stored => filled key found stored kind) request.now

variable {counts : TokenRequest κ ι → Bool} {kind : ι} {key : κ}
  {requests : List (TokenRequest κ ι)}

theorem granted_eq_zero (none_ : ∀ request ∈ requests, counts request = false)
    : limits.granted kind counts buckets requests = 0 := by
  induction requests generalizing buckets with
  | nil => rfl
  | cons request requests ih =>
      rw [granted, none_ request List.mem_cons_self,
        ih (fun other member => none_ other (List.mem_cons_of_mem _ member))]
      simp

/-- From a point in time on, no more is granted than the level then and the inflow until the end,
by induction on the requests.
-/
theorem granted_le_level (refills : limits.Refills kind)
    (few : names.length ≤ limits.maxStates) (start finish : ℚ) (order : start ≤ finish)
    (counted : ∀ request, counts request = true → request.key = key ∧ request.now ≤ finish)
    (filled : Filled buckets) (known : ∀ other ∈ buckets.keys, other ∈ names)
    (members : ∀ request ∈ requests, request.key ∈ names)
    (since : ∀ request ∈ requests, start ≤ request.now)
    (sorted : requests.Pairwise (fun earlier later => earlier.now ≤ later.now))
    : limits.granted kind counts buckets requests
      ≤ limits.level (buckets.get? key) start kind + limits.rate kind * (finish - start) := by
  induction requests generalizing buckets start with
  | nil =>
      have tokens : 0 ≤ limits.level (buckets.get? key) start kind :=
        level_nonneg (fun found stored => filled key found stored kind) _
      have inflow := mul_nonneg (limits.rate_nonneg kind) (sub_nonneg.mpr order)
      change 0 ≤ _
      linarith
  | cons request requests ih =>
      rcases List.pairwise_cons.mp sorted with ⟨first, sorted⟩
      by_cases inside : request.now ≤ finish
      · have risen := level_le_add limits (buckets.get? key)
          (since request List.mem_cons_self) kind
        have step := consumed filled known (members request List.mem_cons_self) few
        have rest := ih request.now inside step.filled step.known
          (fun other member => members other (List.mem_cons_of_mem _ member)) first sorted
        have taken
            : (if (limits.consume buckets request).1 && counts request then request.cost kind
                else 0)
              + limits.level ((limits.consume buckets request).2.get? key) request.now kind
              ≤ limits.level (buckets.get? key) request.now kind := by
          by_cases same : request.key = key
          · have own := step.own kind refills
            have cost := request.cost_nonneg kind
            rw [same] at own
            rw [own]
            cases (limits.consume buckets request).1 <;> cases counts request <;> simp [cost]
          · have others := step.others key (Ne.symm same) kind refills
            have uncounted : counts request = false :=
              Bool.eq_false_iff.mpr (fun holds => same (counted request holds).1)
            rw [others, uncounted]
            simp
        rw [granted]
        linarith
      · have late
            : ∀ other ∈ request :: requests, counts other = false := by
          intro other member
          refine Bool.eq_false_iff.mpr (fun holds => ?_)
          have bound := (counted other holds).2
          rcases List.mem_cons.mp member with rfl | later
          · exact inside bound
          · exact inside (le_trans (first other later) bound)
        rw [granted_eq_zero late]
        have tokens : 0 ≤ limits.level (buckets.get? key) start kind :=
          level_nonneg (fun found stored => filled key found stored kind) _
        have inflow := mul_nonneg (limits.rate_nonneg kind) (sub_nonneg.mpr order)
        linarith

/-- In every window of time a key is granted the burst and what flows in during the window, at
most; by induction on the requests before the window.
-/
theorem granted_window_le (key : κ) (start : ℚ) {length : ℚ} (refills : limits.Refills kind)
    (few : names.length ≤ limits.maxStates) (order : 0 ≤ length)
    (counted
      : ∀ request,
          counts request = true
          → request.key = key ∧ start ≤ request.now ∧ request.now ≤ start + length)
    (filled : Filled buckets) (known : ∀ other ∈ buckets.keys, other ∈ names)
    (members : ∀ request ∈ requests, request.key ∈ names)
    (sorted : requests.Pairwise (fun earlier later => earlier.now ≤ later.now))
    : limits.granted kind counts buckets requests
      ≤ limits.burst kind + limits.rate kind * length := by
  have inflow := mul_nonneg (limits.rate_nonneg kind) order
  induction requests generalizing buckets with
  | nil =>
      have burst := limits.burst_pos kind
      change 0 ≤ _
      linarith
  | cons request requests ih =>
      rcases List.pairwise_cons.mp sorted with ⟨first, later⟩
      by_cases early : request.now < start
      · have uncounted : counts request = false :=
          Bool.eq_false_iff.mpr (fun holds => not_le.mpr early (counted request holds).2.1)
        have step := consumed filled known (members request List.mem_cons_self) few
        have rest := ih step.filled step.known
          (fun other member => members other (List.mem_cons_of_mem _ member)) later
        rw [granted, uncounted]
        simpa using rest
      · have since : ∀ other ∈ request :: requests, start ≤ other.now := by
          intro other member
          rcases List.mem_cons.mp member with rfl | inRest
          · exact not_lt.mp early
          · exact le_trans (not_lt.mp early) (first other inRest)
        have bound := granted_le_level refills few start (start + length) (by linarith)
          (fun other holds => ⟨(counted other holds).1, (counted other holds).2.2⟩)
          filled known members since sorted
        have top := level_le_burst limits (buckets.get? key) start kind
        rw [add_sub_cancel_left] at bound
        linarith

end Consuming

end TokenLimits

end OctoHubs.Library
