import Mathlib.Algebra.Order.Ring.Rat
import Mathlib.Data.List.DropRight
import Mathlib.Tactic.Linarith
import OctoHubs.Library.Dict

/-! Sliding windows: every key has a bucket with the times of the attempts that it was charged
for, and an attempt is accepted while none of its keys has reached its limit. Only so many
buckets are kept; the ones that were used the longest ago are dropped first.
-/

namespace OctoHubs.Library

variable {κ ν : Type*} [DecidableEq κ]

namespace Dict

/-- Store a value at the end of the order. -/
def setLast (dict : Dict κ ν) (key : κ) (value : ν) : Dict κ ν := (dict.erase key).set key value

/-- The dictionary without its first items. -/
def dropFirst (dict : Dict κ ν) (count : Nat) : Dict κ ν :=
  ⟨dict.items.drop count, dict.nodup.sublist ((List.drop_sublist _ _).map Prod.fst)⟩

def dropFirstWhile (dict : Dict κ ν) (drops : κ × ν → Bool) : Dict κ ν :=
  ⟨dict.items.dropWhile drops, dict.nodup.sublist ((List.dropWhile_sublist _).map Prod.fst)⟩

theorem get?_setLast (dict : Dict κ ν) (key other : κ) (value : ν)
    : (dict.setLast key value).get? other = if other = key then some value else dict.get? other := by
  unfold setLast
  rw [get?_set, get?_erase]
  split
  · rfl
  · rfl

theorem get?_of_suffix {dict rest : Dict κ ν} {front : List (κ × ν)}
    (parts : dict.items = front ++ rest.items) (key : κ)
    : rest.get? key = dict.get? key
      ∨ rest.get? key = none ∧ ∀ value, dict.get? key = some value → (key, value) ∈ front := by
  cases found : dict.get? key with
  | none =>
      left
      cases here : rest.get? key with
      | none => rfl
      | some value =>
          have member : (key, value) ∈ dict.items := by
            rw [parts]
            exact List.mem_append_right _ (mem_items_iff.mpr here)
          cases found.symm.trans (mem_items_iff.mp member)
  | some value =>
      have member := mem_items_iff.mpr found
      rw [parts] at member
      rcases List.mem_append.mp member with before | after
      · right
        refine ⟨?_, fun other same => ?_⟩
        · cases here : rest.get? key with
          | none => rfl
          | some other =>
              have unique := dict.nodup
              rw [parts, List.map_append, List.nodup_append] at unique
              have apart :=
                unique.2.2 key (List.mem_map_of_mem before) key
                  (List.mem_map_of_mem (mem_items_iff.mpr here))
              exact absurd rfl apart
        · rw [← Option.some.inj same]
          exact before
      · exact .inl (mem_items_iff.mp after)

end Dict

/-- The length of the window, the attempts that each key has in it, and the number of buckets. -/
structure WindowLimits (κ : Type*) where
  window : ℚ
  limit : κ → Nat
  maxBuckets : Nat

/-- An attempt that charges some keys. -/
structure Attempt (κ : Type*) where
  keys : List κ
  now : ℚ
  unique : keys.Nodup

/-- The times of the attempts that a key is charged for, by key. -/
abbrev Buckets (κ : Type*) := Dict κ (List ℚ)

def eventsOf (buckets : Buckets κ) (key : κ) : List ℚ := (buckets.get? key).getD []

namespace WindowLimits

variable (limits : WindowLimits κ)

def cutoff (now : ℚ) : ℚ := now - limits.window

/-- Drop the buckets from the front that have no attempt in the window. -/
def evictExpired (buckets : Buckets κ) (now : ℚ) : Buckets κ :=
  buckets.dropFirstWhile (fun item => !item.2.getLast?.any (limits.cutoff now < ·))

/-- The bucket of a key, without what has expired, moves to the end. -/
def activeEvents (now : ℚ) (buckets : Buckets κ) (key : κ) : Buckets κ :=
  buckets.setLast key ((eventsOf buckets key).dropWhile (· ≤ limits.cutoff now))

def touched (buckets : Buckets κ) (attempt : Attempt κ) : Buckets κ :=
  attempt.keys.foldl (limits.activeEvents attempt.now) (limits.evictExpired buckets attempt.now)

/-- No key of the attempt has reached its limit. -/
def admits (buckets : Buckets κ) (attempt : Attempt κ) : Bool :=
  attempt.keys.all (fun key =>
    (eventsOf (limits.touched buckets attempt) key).length < limits.limit key)

def charge (now : ℚ) (buckets : Buckets κ) (key : κ) : Buckets κ :=
  buckets.set key (eventsOf buckets key ++ [now])

/-- The buckets after an attempt, before the surplus is dropped. -/
def charged (buckets : Buckets κ) (attempt : Attempt κ) : Buckets κ :=
  let touched := limits.touched buckets attempt
  if limits.admits buckets attempt then attempt.keys.foldl (charge attempt.now) touched
  else touched

/-- One attempt: whether it is accepted, and the buckets after it. -/
def consume (buckets : Buckets κ) (attempt : Attempt κ) : Bool × Buckets κ :=
  let charged := limits.charged buckets attempt
  (limits.admits buckets attempt,
    charged.dropFirst (charged.items.length - limits.maxBuckets))

def bucketsAfter (buckets : Buckets κ) (attempts : List (Attempt κ)) : Buckets κ :=
  attempts.foldl (fun buckets attempt => (limits.consume buckets attempt).2) buckets

def accepted {α : Type*} (attempt : α → Attempt κ) (counts : α → Bool) : Buckets κ → List α → Nat
  | _, [] => 0
  | buckets, call :: calls =>
      let step := limits.consume buckets (attempt call)
      (if step.1 && counts call then 1 else 0) + accepted attempt counts step.2 calls

/-- The surplus that an attempt drops has no attempt in the window. -/
def Spares (buckets : Buckets κ) (attempt : Attempt κ) : Prop :=
  let charged := limits.charged buckets attempt
  ∀ item ∈ charged.items.take (charged.items.length - limits.maxBuckets),
    ∀ time ∈ item.2, time ≤ limits.cutoff attempt.now

/-- No attempt drops a bucket with an attempt in the window. -/
def SparesAll : Buckets κ → List (Attempt κ) → Prop
  | _, [] => True
  | buckets, attempt :: attempts =>
      limits.Spares buckets attempt ∧ SparesAll (limits.consume buckets attempt).2 attempts

instance (buckets : Buckets κ) (attempt : Attempt κ) : Decidable (limits.Spares buckets attempt) :=
  inferInstanceAs
    (Decidable
      (∀ item ∈ (limits.charged buckets attempt).items.take
          ((limits.charged buckets attempt).items.length - limits.maxBuckets),
        ∀ time ∈ item.2, time ≤ limits.cutoff attempt.now))

instance decidableSparesAll
    : (buckets : Buckets κ) → (attempts : List (Attempt κ)) →
      Decidable (limits.SparesAll buckets attempts)
  | _, [] => instDecidableTrue
  | buckets, attempt :: attempts =>
      haveI := decidableSparesAll (limits.consume buckets attempt).2 attempts
      inferInstanceAs
        (Decidable (limits.Spares buckets attempt ∧ limits.SparesAll _ attempts))

/-- The attempts of a key in the window. -/
def live (events : List ℚ) (now : ℚ) : List ℚ := events.filter (limits.cutoff now < ·)

section Live

variable {ι : Type*} {limits : WindowLimits ι}

theorem live_append (events more : List ℚ) (now : ℚ)
    : limits.live (events ++ more) now = limits.live events now ++ limits.live more now :=
  List.filter_append ..

theorem live_eq_nil {events : List ℚ} {now : ℚ}
    (expired : ∀ time ∈ events, time ≤ limits.cutoff now)
    : limits.live events now = [] := by
  rw [live, List.filter_eq_nil_iff]
  intro time member
  simpa using expired time member

theorem live_live (events : List ℚ) {now later : ℚ} (after : now ≤ later)
    : limits.live (limits.live events now) later = limits.live events later := by
  unfold live
  rw [List.filter_filter]
  refine List.filter_congr (fun time _ => ?_)
  have cutoffs : limits.cutoff now ≤ limits.cutoff later := sub_le_sub_right after _
  by_cases here : limits.cutoff later < time
  · simp [here, lt_of_le_of_lt cutoffs here]
  · simp [here]

theorem live_dropWhile (events : List ℚ) (now : ℚ)
    : limits.live (events.dropWhile (· ≤ limits.cutoff now)) now = limits.live events now := by
  induction events with
  | nil => rfl
  | cons time rest ih =>
      rw [List.dropWhile_cons]
      split
      · next old =>
          rw [ih, live, live, List.filter_cons_of_neg]
          simpa using old
      · rfl

theorem bounded_append {key : ι} {done : List ℚ} {now : ℚ}
    (bounded
      : ∀ start,
          done.countP (fun time => start ≤ time ∧ time < start + limits.window)
          ≤ limits.limit key)
    (few : (limits.live done now).length < limits.limit key) (start : ℚ)
    : (done ++ [now]).countP (fun time => start ≤ time ∧ time < start + limits.window)
      ≤ limits.limit key := by
  rw [List.countP_append, List.countP_singleton]
  split
  · next inside =>
      have window : start ≤ now ∧ now < start + limits.window := by simpa using inside
      have recent
          : done.countP (fun time => start ≤ time ∧ time < start + limits.window)
            ≤ (limits.live done now).length := by
        unfold live
        rw [← List.countP_eq_length_filter]
        refine List.countP_mono_left (fun time _ here => ?_)
        have timeIn : start ≤ time ∧ time < start + limits.window := by simpa using here
        have after : limits.cutoff now < time := by
          unfold cutoff
          linarith
        simpa using after
      omega
  · exact bounded start

end Live

variable {limits} {buckets : Buckets κ} {key : κ} {attempt : Attempt κ}

theorem eventsOf_of_suffix {before after : Buckets κ} {front : List (κ × List ℚ)}
    (parts : before.items = front ++ after.items) (key : κ)
    : eventsOf after key = eventsOf before key
      ∨ eventsOf after key = [] ∧ (eventsOf before key ≠ [] → (key, eventsOf before key) ∈ front) := by
  unfold eventsOf
  rcases Dict.get?_of_suffix parts key with same | ⟨missing, dropped⟩
  · rw [same]
    exact .inl rfl
  · rw [missing]
    refine .inr ⟨rfl, fun some_ => ?_⟩
    cases found : before.get? key with
    | none =>
        rw [found] at some_
        exact absurd rfl some_
    | some events => exact dropped events found

theorem eventsOf_evictExpired (sorted : (eventsOf buckets key).Pairwise (· ≤ ·)) (now : ℚ)
    : eventsOf (limits.evictExpired buckets now) key = eventsOf buckets key
      ∨ eventsOf (limits.evictExpired buckets now) key = []
        ∧ ∀ time ∈ eventsOf buckets key, time ≤ limits.cutoff now := by
  have parts
      : buckets.items
        = buckets.items.takeWhile (fun item => !item.2.getLast?.any (limits.cutoff now < ·))
          ++ (limits.evictExpired buckets now).items :=
    (List.takeWhile_append_dropWhile).symm
  refine (eventsOf_of_suffix parts key).imp_right (fun dropped => ⟨dropped.1, ?_⟩)
  intro time member
  have old := List.mem_takeWhile_imp (dropped.2 (List.ne_nil_of_mem member))
  rcases List.eq_nil_or_concat' (eventsOf buckets key) with bare | ⟨front, last, shape⟩
  · rw [bare] at member
    cases member
  · rw [shape] at member old sorted
    have lastOld : last ≤ limits.cutoff now := by simpa using old
    rcases List.mem_append.mp member with earlier | here
    · exact ((List.pairwise_append.mp sorted).2.2 time earlier last (by simp)).trans lastOld
    · rw [List.mem_singleton.mp here]
      exact lastOld

theorem eventsOf_activeEvents (now : ℚ) (buckets : Buckets κ) (key other : κ)
    : eventsOf (limits.activeEvents now buckets key) other
      = if other = key then (eventsOf buckets key).dropWhile (· ≤ limits.cutoff now)
        else eventsOf buckets other := by
  unfold activeEvents
  rw [eventsOf, Dict.get?_setLast]
  split
  · rfl
  · rfl

theorem eventsOf_foldl_activeEvents (now : ℚ) (keys : List κ) (buckets : Buckets κ) (key : κ)
    : eventsOf (keys.foldl (limits.activeEvents now) buckets) key
      = if key ∈ keys then (eventsOf buckets key).dropWhile (· ≤ limits.cutoff now)
        else eventsOf buckets key := by
  induction keys generalizing buckets with
  | nil => simp
  | cons first rest ih =>
      rw [List.foldl_cons, ih, eventsOf_activeEvents]
      by_cases same : key = first
      · subst same
        simp only [if_true, List.mem_cons, true_or]
        split
        · exact List.dropWhile_idempotent ..
        · rfl
      · simp [same]

theorem eventsOf_foldl_charge (now : ℚ) {keys : List κ} (unique : keys.Nodup)
    (buckets : Buckets κ) (key : κ)
    : eventsOf (keys.foldl (charge now) buckets) key
      = if key ∈ keys then eventsOf buckets key ++ [now] else eventsOf buckets key := by
  induction keys generalizing buckets with
  | nil => simp
  | cons first rest ih =>
      rcases List.nodup_cons.mp unique with ⟨apart, restUnique⟩
      have one
          : eventsOf (charge now buckets first) key
            = if key = first then eventsOf buckets first ++ [now] else eventsOf buckets key := by
        unfold charge
        rw [eventsOf, Dict.get?_set]
        split
        · rfl
        · rfl
      rw [List.foldl_cons, ih restUnique, one]
      by_cases same : key = first
      · subst same
        simp [apart]
      · simp [same]

theorem eventsOf_charged (buckets : Buckets κ) (attempt : Attempt κ) (key : κ)
    : eventsOf (limits.charged buckets attempt) key
      = eventsOf (limits.touched buckets attempt) key
        ++ if limits.admits buckets attempt ∧ key ∈ attempt.keys then [attempt.now] else [] := by
  unfold charged
  dsimp only
  by_cases admitted : limits.admits buckets attempt = true
  · rw [if_pos admitted, eventsOf_foldl_charge _ attempt.unique]
    by_cases member : key ∈ attempt.keys
    · rw [if_pos member, if_pos ⟨admitted, member⟩]
    · rw [if_neg member, if_neg (fun both => member both.2), List.append_nil]
  · rw [if_neg admitted, if_neg (fun both => admitted both.1), List.append_nil]

theorem eventsOf_consume (spares : limits.Spares buckets attempt) (key : κ)
    : eventsOf (limits.consume buckets attempt).2 key
        = eventsOf (limits.charged buckets attempt) key
      ∨ eventsOf (limits.consume buckets attempt).2 key = []
        ∧ ∀ time ∈ eventsOf (limits.charged buckets attempt) key,
            time ≤ limits.cutoff attempt.now := by
  have parts := (List.take_append_drop
    ((limits.charged buckets attempt).items.length - limits.maxBuckets)
    (limits.charged buckets attempt).items).symm
  refine
    (@eventsOf_of_suffix _ _ _ (limits.consume buckets attempt).2 _ parts key).imp_right
      (fun dropped => ⟨dropped.1, ?_⟩)
  intro time member
  exact spares _ (dropped.2 (List.ne_nil_of_mem member)) time member

/-- What the buckets know of a key: the attempts that were accepted for it, as far as they are
still in the window.
-/
structure Remembers (limits : WindowLimits κ) (buckets : Buckets κ) (key : κ) (done : List ℚ)
    (now : ℚ)
    : Prop where
  live : limits.live done now = limits.live (eventsOf buckets key) now
  bounded
    : ∀ start,
        done.countP (fun time => start ≤ time ∧ time < start + limits.window)
        ≤ limits.limit key
  sorted : (eventsOf buckets key).Pairwise (· ≤ ·)
  past : ∀ time ∈ eventsOf buckets key, time ≤ now

variable {done : List ℚ} {now : ℚ}

theorem remembers_empty (limits : WindowLimits κ) (key : κ) (now : ℚ)
    : limits.Remembers ∅ key [] now where
  live := rfl
  bounded start := Nat.zero_le _
  sorted := List.Pairwise.nil
  past time member := by cases member

theorem Remembers.touched (remembers : limits.Remembers buckets key done now)
    (later : now ≤ attempt.now)
    : limits.live (eventsOf (limits.touched buckets attempt) key) attempt.now
        = limits.live done attempt.now
      ∧ (eventsOf (limits.touched buckets attempt) key).Pairwise (· ≤ ·)
      ∧ ∀ time ∈ eventsOf (limits.touched buckets attempt) key, time ≤ attempt.now := by
  have known
      : limits.live done attempt.now = limits.live (eventsOf buckets key) attempt.now := by
    rw [← live_live done later, remembers.live, live_live _ later]
  have fresh
      : limits.live (eventsOf (limits.evictExpired buckets attempt.now) key) attempt.now
          = limits.live done attempt.now
        ∧ (eventsOf (limits.evictExpired buckets attempt.now) key).Sublist
            (eventsOf buckets key) := by
    rcases @eventsOf_evictExpired _ _ limits _ _ remembers.sorted attempt.now with
      same | ⟨gone, expired⟩
    · rw [same, known]
      exact ⟨rfl, List.Sublist.refl _⟩
    · rw [gone, known, live_eq_nil expired]
      exact ⟨rfl, List.nil_sublist _⟩
  unfold WindowLimits.touched
  rw [eventsOf_foldl_activeEvents]
  have kept
      : (if key ∈ attempt.keys then
            (eventsOf (limits.evictExpired buckets attempt.now) key).dropWhile
              (· ≤ limits.cutoff attempt.now)
          else eventsOf (limits.evictExpired buckets attempt.now) key).Sublist
          (eventsOf buckets key) := by
    split
    · exact (List.dropWhile_sublist _).trans fresh.2
    · exact fresh.2
  refine ⟨?_, remembers.sorted.sublist kept, fun time member => ?_⟩
  · split
    · rw [live_dropWhile, fresh.1]
    · exact fresh.1
  · exact (remembers.past time (kept.subset member)).trans later

theorem Remembers.consume (remembers : limits.Remembers buckets key done now)
    (later : now ≤ attempt.now) (spares : limits.Spares buckets attempt)
    : limits.Remembers (limits.consume buckets attempt).2 key
        (done ++ if limits.admits buckets attempt ∧ key ∈ attempt.keys then [attempt.now] else [])
        attempt.now := by
  rcases remembers.touched later with ⟨found, sorted, past⟩
  have chargedPast
      : ∀ time ∈ eventsOf (limits.charged buckets attempt) key, time ≤ attempt.now := by
    intro time member
    rw [eventsOf_charged, List.mem_append] at member
    rcases member with old | new
    · exact past time old
    · split at new
      · exact (List.mem_singleton.mp new).le
      · cases new
  have chargedSorted : (eventsOf (limits.charged buckets attempt) key).Pairwise (· ≤ ·) := by
    rw [eventsOf_charged, List.pairwise_append]
    refine ⟨sorted, ?_, fun time old other new => ?_⟩
    · split
      · exact List.pairwise_singleton ..
      · exact List.Pairwise.nil
    · split at new
      · rw [List.mem_singleton.mp new]
        exact past time old
      · cases new
  have chargedLive
      : limits.live (eventsOf (limits.charged buckets attempt) key) attempt.now
        = limits.live
            (done
              ++ if limits.admits buckets attempt ∧ key ∈ attempt.keys then [attempt.now] else [])
            attempt.now := by
    rw [eventsOf_charged, live_append, live_append, found]
  refine ⟨?_, fun start => ?_, ?_, ?_⟩
  · rw [← chargedLive]
    rcases eventsOf_consume spares key with same | ⟨gone, expired⟩
    · rw [same]
    · rw [gone, live_eq_nil expired]
      rfl
  · split
    · next charged =>
        refine bounded_append remembers.bounded ?_ start
        have below := List.all_eq_true.mp charged.1 key charged.2
        rw [decide_eq_true_eq] at below
        rw [← found]
        exact (List.length_filter_le _ _).trans_lt below
    · rw [List.append_nil]
      exact remembers.bounded start
  · rcases eventsOf_consume spares key with same | ⟨gone, -⟩
    · rw [same]
      exact chargedSorted
    · rw [gone]
      exact List.Pairwise.nil
  · rcases eventsOf_consume spares key with same | ⟨gone, -⟩
    · rw [same]
      exact chargedPast
    · rw [gone]
      intro time member
      cases member

theorem Remembers.live_other (remembers : limits.Remembers buckets key done now)
    (after : now ≤ attempt.now) (spares : limits.Spares buckets attempt)
    (other : key ∉ attempt.keys) {later : ℚ} (since : attempt.now ≤ later)
    : limits.live (eventsOf (limits.consume buckets attempt).2 key) later
      = limits.live (eventsOf buckets key) later := by
  have next := (remembers.consume after spares).live
  rw [if_neg (fun both => other both.2), List.append_nil] at next
  rw [← live_live _ since, ← next, live_live _ since, ← live_live _ (after.trans since),
    remembers.live, live_live _ (after.trans since)]

def Ordered (now : ℚ) (attempts : List (Attempt κ)) : Prop :=
  List.IsChain (· ≤ ·) (now :: attempts.map (·.now))

theorem Ordered.before {ι : Type*} {first rest : List (Attempt ι)} {attempt : Attempt ι} {now : ℚ}
    (ordered : Ordered now (first ++ attempt :: rest))
    : Ordered now first ∧ (first.map (·.now)).getLastD now ≤ attempt.now := by
  induction first generalizing now with
  | nil =>
      rcases List.isChain_cons_cons.mp ordered with ⟨later, -⟩
      exact ⟨List.IsChain.singleton _, later⟩
  | cons other first ih =>
      rcases List.isChain_cons_cons.mp ordered with ⟨later, restOrdered⟩
      rcases ih restOrdered with ⟨firstOrdered, last⟩
      rw [List.map_cons, List.getLastD_cons]
      exact ⟨List.isChain_cons_cons.mpr ⟨later, firstOrdered⟩, last⟩

/-- The accepted calls of a key in a window, by induction on the calls. -/
theorem Remembers.accepted_le {α : Type*} {attemptOf : α → Attempt κ}
    (remembers : limits.Remembers buckets key done now) {calls : List α}
    (ordered : Ordered now (calls.map attemptOf))
    (spares : limits.SparesAll buckets (calls.map attemptOf)) {counts : α → Bool} {start : ℚ}
    (counted
      : ∀ call,
          counts call = true
          → key ∈ (attemptOf call).keys
            ∧ start ≤ (attemptOf call).now
            ∧ (attemptOf call).now < start + limits.window)
    : limits.accepted attemptOf counts buckets calls
        + done.countP (fun time => start ≤ time ∧ time < start + limits.window)
      ≤ limits.limit key := by
  induction calls generalizing buckets done now with
  | nil =>
      rw [accepted, Nat.zero_add]
      exact remembers.bounded start
  | cons call rest ih =>
      rcases List.isChain_cons_cons.mp ordered with ⟨later, restOrdered⟩
      have total := ih (remembers.consume later spares.1) restOrdered spares.2
      rw [List.countP_append] at total
      unfold accepted
      dsimp only
      split
      · next both =>
          have admitted : limits.admits buckets (attemptOf call) = true :=
            (Bool.and_eq_true_iff.mp both).1
          rcases counted call (Bool.and_eq_true_iff.mp both).2 with ⟨member, window⟩
          rw [if_pos ⟨admitted, member⟩, List.countP_singleton,
            if_pos (decide_eq_true window)] at total
          omega
      · omega

theorem sparesAll_append {first second : List (Attempt κ)}
    : limits.SparesAll buckets (first ++ second)
      ↔ limits.SparesAll buckets first
        ∧ limits.SparesAll (limits.bucketsAfter buckets first) second := by
  induction first generalizing buckets with
  | nil => exact ⟨fun spares => ⟨trivial, spares⟩, And.right⟩
  | cons attempt rest ih => exact (and_congr_right' ih).trans and_assoc.symm

theorem Remembers.bucketsAfter (remembers : limits.Remembers buckets key done now)
    {attempts : List (Attempt κ)} (ordered : Ordered now attempts)
    (spares : limits.SparesAll buckets attempts)
    : ∃ known,
        limits.Remembers (limits.bucketsAfter buckets attempts) key known
          ((attempts.map (·.now)).getLastD now) := by
  induction attempts generalizing buckets done now with
  | nil => exact ⟨done, remembers⟩
  | cons attempt rest ih =>
      rcases List.isChain_cons_cons.mp ordered with ⟨later, restOrdered⟩
      have known := ih (remembers.consume later spares.1) restOrdered spares.2
      rw [List.map_cons, List.getLastD_cons]
      exact known

end WindowLimits

end OctoHubs.Library
