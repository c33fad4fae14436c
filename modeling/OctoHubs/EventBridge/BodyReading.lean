import OctoHubs.EventBridge.RateLimits
import OctoHubs.Library.Quotas

/-! Bodies of requests to the event bridge, read chunk by chunk: what is charged for them, how much
of them is held, and that the outcome is that of the whole body.
-/

namespace OctoHubs.EventBridge

open OctoHubs.Library

inductive BodyError
  | eventBridgePayloadTooLarge (message : String)
  | eventBridgeInvalidJson (message : String)
  | eventBridgeIngressRateExceeded (message : String)
deriving DecidableEq

def payloadTooLarge (maxBytes : Nat) : BodyError :=
  .eventBridgePayloadTooLarge s!"Il payload Event Bridge supera {maxBytes} byte"

def rateExceeded : BodyError :=
  .eventBridgeIngressRateExceeded "Quota byte Event Bridge temporaneamente superata"

inductive StreamChunk
  | bytes (data : List UInt8)
  | other

/-- How far a body is read, with the quota that is left and what was taken from it. -/
structure BodyReading (σ : Type*) where
  quota : σ
  charged : Nat := 0
  total : Nat := 0
  body : List UInt8 := []

def declaredContentLength (readInt? : String → Option Int) (headers : Dict String String)
    : Option Nat :=
  let rawValue :=
    match headers.get? "content-length" with
    | some value => if value = "" then headers.get? "Content-Length" else some value
    | none => headers.get? "Content-Length"
  (rawValue.bind (fun value => readInt? (strip value))).bind
    (fun value => if 0 ≤ value then some value.toNat else none)

section Reading

variable {σ Payload : Type*} (maxBytes : Nat) (byteConsumer : Option (Nat → σ → Bool × σ))

def BodyReading.consume (reading : BodyReading σ) (cost : Nat) : Bool × BodyReading σ :=
  let step := charge byteConsumer cost reading.quota
  (step.1,
    { reading with
      quota := step.2
      charged := reading.charged + if step.1 then cost else 0 })

def readChunks (reservedBytes : Nat)
    : List StreamChunk → BodyReading σ → Option BodyError × BodyReading σ
  | [], reading => (none, reading)
  | .other :: _, reading =>
      (some (.eventBridgeInvalidJson "Corpo richiesta Event Bridge non valido"), reading)
  | .bytes data :: chunks, reading =>
      let total := reading.total + data.length
      if maxBytes < total then (some (payloadTooLarge maxBytes), { reading with total })
      else
        let unreservedBytes := total - max reading.total reservedBytes
        let step := reading.consume byteConsumer unreservedBytes
        if step.1 then
          readChunks reservedBytes chunks { step.2 with total, body := reading.body ++ data }
        else (some rateExceeded, { step.2 with total })

/-- Read the body of a request and decode it. -/
def readEventBridgeHttpJson (readInt? : String → Option Int)
    (decode : List UInt8 → Option Payload) (headers : Dict String String)
    (stream : Option (List StreamChunk)) (quota : σ)
    : Except BodyError Payload × BodyReading σ :=
  let declaredLength := declaredContentLength readInt? headers
  let start : BodyReading σ := { quota }
  if declaredLength.any (maxBytes < ·) then (.error (payloadTooLarge maxBytes), start)
  else
    let reservedBytes := declaredLength.getD 0
    let step := start.consume byteConsumer reservedBytes
    if step.1 then
      match stream with
      | none =>
          (.error (.eventBridgeInvalidJson "Corpo richiesta Event Bridge non disponibile"),
            step.2)
      | some chunks =>
          match readChunks maxBytes byteConsumer reservedBytes chunks step.2 with
          | (some error, reading) => (.error error, reading)
          | (none, reading) =>
              ((decode reading.body).elim
                (.error (.eventBridgeInvalidJson "JSON Event Bridge non valido")) Except.ok,
                reading)
    else (.error rateExceeded, step.2)

end Reading

section Chunks

variable {σ Payload : Type*} {quota : Quota σ} {maxBytes reservedBytes : Nat}
  {reading : BodyReading σ} {available : ℚ}

/-- A reading that holds the bytes it has read, and was charged for them and for the bytes that
were declared.
-/
structure BodyReading.Charged (quota : Quota σ) (maxBytes reservedBytes : Nat) (available : ℚ)
    (reading : BodyReading σ)
    : Prop where
  held : reading.body.length = reading.total
  bounded : reading.total ≤ maxBytes
  charged : reading.charged = max reservedBytes reading.total
  covered : (max reservedBytes reading.total : Nat) ≤ available
  left
    : quota.available reading.quota = available - (max reservedBytes reading.total : Nat)

theorem consume_granted_iff (cost : Nat)
    : (reading.consume (some quota.consume) cost).1 = true
      ↔ (cost : ℚ) ≤ quota.available reading.quota :=
  charge_granted_iff quota cost reading.quota

theorem consume_of_granted {cost : Nat}
    (granted : (reading.consume (some quota.consume) cost).1 = true)
    : (reading.consume (some quota.consume) cost).2.charged = reading.charged + cost
      ∧ quota.available (reading.consume (some quota.consume) cost).2.quota
        = quota.available reading.quota - cost := by
  refine ⟨?_, available_charge quota granted⟩
  exact congrArg (reading.charged + ·) (if_pos granted)

theorem consume_of_refused {cost : Nat}
    (refused : (reading.consume (some quota.consume) cost).1 = false)
    : (reading.consume (some quota.consume) cost).2.charged = reading.charged := by
  have free : (if (reading.consume (some quota.consume) cost).1 then cost else 0) = 0 := by
    simp [refused]
  exact congrArg (reading.charged + ·) free

theorem charged_chunk {data : List UInt8}
    (state : reading.Charged quota maxBytes reservedBytes available)
    (fits : reading.total + data.length ≤ maxBytes)
    (granted
      : (reading.consume (some quota.consume)
          (reading.total + data.length - max reading.total reservedBytes)).1 = true)
    : BodyReading.Charged quota maxBytes reservedBytes available
        { (reading.consume (some quota.consume)
            (reading.total + data.length - max reading.total reservedBytes)).2 with
          total := reading.total + data.length
          body := reading.body ++ data } := by
  obtain ⟨charged, left⟩ := consume_of_granted granted
  have covered := (consume_granted_iff _).mp granted
  have whole
      : max reservedBytes reading.total
          + (reading.total + data.length - max reading.total reservedBytes)
        = max reservedBytes (reading.total + data.length) := by
    omega
  have cost
      : ((max reservedBytes (reading.total + data.length) : Nat) : ℚ)
        = (max reservedBytes reading.total : Nat)
          + (reading.total + data.length - max reading.total reservedBytes : Nat) := by
    rw [← whole]
    push_cast
    rfl
  rw [state.left] at covered left
  refine ⟨?_, fits, ?_, ?_, ?_⟩
  · rw [List.length_append, state.held]
  · rw [charged, state.charged, whole]
  · rw [cost]
    linarith
  · rw [left, cost]
    linarith

/-- How the reading of chunks may end: with the whole body, with one that is too large, or where
the quota does not cover what was read.
-/
def EndsWell (quota : Quota σ) (maxBytes reservedBytes : Nat) (available : ℚ)
    (whole : List UInt8) (result : Option BodyError × BodyReading σ)
    : Prop :=
  (result.1 = none ∧ result.2.body = whole
      ∧ result.2.Charged quota maxBytes reservedBytes available)
  ∨ (result.2.body.length ≤ maxBytes
      ∧ result.2.charged ≤ max reservedBytes result.2.total
      ∧ (result.1 = some (payloadTooLarge maxBytes) ∧ maxBytes < whole.length
        ∨ result.1 = some rateExceeded
          ∧ ∃ read : Nat,
              read ≤ maxBytes ∧ read ≤ whole.length
              ∧ available < (max reservedBytes read : Nat)))

/-- Reading chunks, by induction on them: the reading stays charged for what it holds. -/
theorem readChunks_endsWell {chunks : List (List UInt8)}
    (state : reading.Charged quota maxBytes reservedBytes available)
    : EndsWell quota maxBytes reservedBytes available (reading.body ++ chunks.flatten)
        (readChunks maxBytes (some quota.consume) reservedBytes
          (chunks.map StreamChunk.bytes) reading) := by
  induction chunks generalizing reading with
  | nil => exact .inl ⟨rfl, by simp [readChunks], state⟩
  | cons data chunks ih =>
      have length
          : (reading.body ++ (data :: chunks).flatten).length
            = reading.total + data.length + chunks.flatten.length := by
        simp only [List.flatten_cons, List.length_append, state.held]
        omega
      have held := state.held
      have bounded := state.bounded
      simp only [List.map_cons, readChunks]
      split
      · next large =>
          refine .inr ⟨?_, ?_, .inl ⟨rfl, ?_⟩⟩
          · exact held ▸ bounded
          · rw [state.charged]
            exact max_le_max (le_refl _) (Nat.le_add_right _ _)
          · omega
      · next fits =>
          split
          · next granted =>
              have next := charged_chunk state (by omega) granted
              simpa only [List.flatten_cons, List.append_assoc] using ih next
          · next refused =>
              have short := mt (consume_granted_iff _).mpr refused
              rw [state.left, not_le, sub_lt_iff_lt_add'] at short
              refine .inr ⟨?_, ?_, .inr ⟨rfl, reading.total + data.length, ?_, ?_, ?_⟩⟩
              · exact held ▸ bounded
              · have same := consume_of_refused (Bool.of_not_eq_true refused)
                dsimp only
                rw [same, state.charged]
                exact max_le_max (le_refl _) (Nat.le_add_right _ _)
              · omega
              · omega
              · refine lt_of_lt_of_eq short ?_
                norm_cast
                omega

theorem charged_start {state : σ}
    (granted
      : (({ quota := state } : BodyReading σ).consume (some quota.consume) reservedBytes).1 = true)
    : BodyReading.Charged quota maxBytes reservedBytes (quota.available state)
        (({ quota := state } : BodyReading σ).consume (some quota.consume) reservedBytes).2 := by
  obtain ⟨charged, left⟩ := consume_of_granted granted
  have covered := (consume_granted_iff _).mp granted
  refine ⟨rfl, Nat.zero_le _, ?_, ?_, ?_⟩
  · rw [charged]
    show 0 + reservedBytes = max reservedBytes 0
    omega
  · show ((max reservedBytes 0 : Nat) : ℚ) ≤ _
    rwa [Nat.max_zero]
  · show _ = _ - ((max reservedBytes 0 : Nat) : ℚ)
    rw [left, Nat.max_zero]

end Chunks

section Limiter

/-- What a limiter would grant a server at a moment. -/
def RateLimiter.levelOf (limiter : RateLimiter Unit) (serverId : String) (now : ℚ)
    (buckets : Dict String (TokenBucket Unit))
    : ℚ :=
  limiter.limits.level ((limiter.limits.evictStale buckets now).get? (strip serverId)) now ()

variable {bytesPerSecond byteBurst stateTtlSeconds now : ℚ} {maxStates : Int} {cost : Nat}
  {serverId : String} {buckets : Dict String (TokenBucket Unit)}

theorem consume_byteLimiter
    : let limiter := byteLimiter bytesPerSecond byteBurst maxStates stateTtlSeconds
      let step := limiter.consume buckets ⟨serverId, cost, now⟩
      (step.1 = true ↔ strip serverId ≠ "" ∧ (cost : ℚ) ≤ limiter.levelOf serverId now buckets)
      ∧ (step.1 = true →
          limiter.levelOf serverId now step.2 = limiter.levelOf serverId now buckets - cost) := by
  intro limiter step
  have costs : limiter.cost ⟨serverId, cost, now⟩ () = cost := by
    show ((max 0 (cost : Int) : Int) : ℚ) = cost
    rw [max_eq_right (Int.natCast_nonneg cost), Int.cast_natCast]
  cases asked : limiter.request? ⟨serverId, cost, now⟩ with
  | none =>
      have taken : step = (false, buckets) := by
        show RateLimiter.consume limiter buckets _ = _
        rw [RateLimiter.consume, asked]
      rw [taken]
      refine ⟨Iff.intro (fun granted => Bool.noConfusion granted) ?_,
        fun granted => Bool.noConfusion granted⟩
      rintro ⟨named, covered⟩
      have refused
          : strip serverId = ""
            ∨ limiter.limits.burst () < limiter.cost ⟨serverId, cost, now⟩ () := by
        by_contra accepted
        rw [RateLimiter.request?, if_neg accepted] at asked
        cases asked
      have large := refused.resolve_left named
      rw [costs] at large
      have top : limiter.levelOf serverId now buckets ≤ limiter.limits.burst () :=
        TokenLimits.level_le_burst limiter.limits _ now ()
      exact absurd covered (not_le.mpr (top.trans_lt large))
  | some request =>
      have taken : step = limiter.limits.consume buckets request := by
        show RateLimiter.consume limiter buckets _ = _
        rw [RateLimiter.consume, asked]
      obtain ⟨key, cost_, at_, named⟩ := RateLimiter.request?_eq_some asked
      have level
          : limiter.levelOf serverId now
            = fun buckets =>
                limiter.limits.level
                  ((limiter.limits.evictStale buckets request.now).get? request.key) request.now
                  () := by
        rw [key, at_]
        rfl
      rw [taken, level, ← costs, ← cost_]
      refine ⟨?_, fun granted => TokenLimits.level_consume granted ()⟩
      rw [TokenLimits.consume_fst_iff, ← key]
      exact ⟨fun enough => ⟨named, enough ()⟩, fun enough _ => enough.2⟩

/-- The limiter of bytes, asked for one server at one moment. -/
def byteLimiterQuota (bytesPerSecond byteBurst : ℚ) (maxStates : Int) (stateTtlSeconds : ℚ)
    (serverId : String) (now : ℚ)
    : Quota (Dict String (TokenBucket Unit)) :=
  let limiter := byteLimiter bytesPerSecond byteBurst maxStates stateTtlSeconds
  { consume cost buckets := limiter.consume buckets ⟨serverId, cost, now⟩
    available buckets :=
      if strip serverId = "" then 0 else max 0 (limiter.levelOf serverId now buckets)
    available_nonneg buckets := by
      split
      · exact le_refl _
      · exact le_max_left _ _
    granted_iff cost buckets paid := by
      have some_ : ¬(cost : ℚ) ≤ 0 := not_le.mpr (by exact_mod_cast paid)
      rw [consume_byteLimiter.1]
      split
      · next nameless => simp [nameless, some_]
      · next named => simp [named, some_, limiter]
    available_granted cost buckets paid granted := by
      have some_ : (0 : ℚ) < cost := by exact_mod_cast paid
      obtain ⟨named, covered⟩ := consume_byteLimiter.1.mp granted
      rw [if_neg named, if_neg named, consume_byteLimiter.2 granted,
        max_eq_right (by linarith), max_eq_right (by linarith)] }

end Limiter

/-- What becomes of a body, where that does not depend on its chunks. -/
def bodyOutcome {Payload : Type*} (maxBytes : Nat) (decode : List UInt8 → Option Payload)
    (declaredLength : Option Nat) (body : List UInt8) (available : ℚ)
    : Option (Except BodyError Payload) :=
  let reservedBytes := declaredLength.getD 0
  if maxBytes < reservedBytes then some (.error (payloadTooLarge maxBytes))
  else if available < reservedBytes then some (.error rateExceeded)
  else if body.length ≤ maxBytes then
    some
      (if (max reservedBytes body.length : Nat) ≤ available then
        (decode body).elim
          (.error (.eventBridgeInvalidJson "JSON Event Bridge non valido")) Except.ok
      else .error rateExceeded)
  else if maxBytes ≤ available then some (.error (payloadTooLarge maxBytes))
  else none

end OctoHubs.EventBridge
