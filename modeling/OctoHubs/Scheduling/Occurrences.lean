import OctoHubs.Library.Runs
import OctoHubs.Time
import Mathlib.Data.Int.DivMod

/-! Claims of automatic task occurrences by any number of coordinators.
One stored slot per kind remembers the latest claimed occurrence; every operation is one
atomic update of it.
-/

namespace OctoHubs.Scheduling

open OctoHubs.Library

/-- How long a claim lasts without renewal. -/
def claimTtl : Timestamp := 120 * second

/-- The interval is absent when it is missing, zero or no number. -/
structure ScheduleSettings where
  mode : String
  intervalMinutes : Option Int
deriving DecidableEq, Repr

/-- The identity of a logical occurrence: a minute, or a bucket of an interval. -/
inductive OccurrenceToken
  | fixed (minute : Timestamp)
  | interval (minutes : Int) (bucket : Int)
deriving DecidableEq, Repr

def occurrenceToken (settings : ScheduleSettings) (scheduledFor : Timestamp)
    : OccurrenceToken :=
  if settings.mode = "fixed" then .fixed (scheduledFor - scheduledFor.fmod (60 * second))
  else
    let minutes := max 1 (settings.intervalMinutes.getD 60)
    .interval minutes ((scheduledFor.tdiv second).fdiv (minutes * 60))

structure OccurrenceClaim where
  token : OccurrenceToken
  ownerId : String
  scheduledFor : Timestamp
deriving DecidableEq, Repr

inductive OccurrenceStatus
  | claimed
  | completed
  | released
deriving DecidableEq, Repr

/-- The stored state of a kind. -/
structure OccurrenceSlot where
  token : OccurrenceToken
  ownerId : String
  status : OccurrenceStatus
  scheduledFor : Timestamp
  expiresAt : Option Timestamp
deriving DecidableEq, Repr

namespace OccurrenceSlot

variable (slot : OccurrenceSlot)

/-- The claim in the slot has not expired. -/
def Active (now : Timestamp) : Prop :=
  slot.status = .claimed ∧ ∃ expiresAt ∈ slot.expiresAt, expiresAt > now

instance (now : Timestamp) : Decidable (slot.Active now) := by
  unfold Active
  infer_instance

/-- The slot holds the occurrence itself or one that is not older. -/
def Duplicate (token : OccurrenceToken) (scheduledFor : Timestamp) : Prop :=
  slot.token = token ∨ slot.scheduledFor ≥ scheduledFor

instance (token : OccurrenceToken) (scheduledFor : Timestamp)
    : Decidable (slot.Duplicate token scheduledFor) := by
  unfold Duplicate
  infer_instance

def Owns (claim : OccurrenceClaim) : Prop :=
  slot.token = claim.token ∧ slot.ownerId = claim.ownerId ∧ slot.status = .claimed

instance (claim : OccurrenceClaim) : Decidable (slot.Owns claim) := by
  unfold Owns
  infer_instance

end OccurrenceSlot

inductive ClaimStatus
  | claimed
  | completed
  | active
deriving DecidableEq, Repr

def claimWithStatus (slot : Option OccurrenceSlot) (ownerId : String)
    (settings : ScheduleSettings) (scheduledFor now : Timestamp)
    : Option OccurrenceSlot × Option OccurrenceClaim × ClaimStatus :=
  let token := occurrenceToken settings scheduledFor
  let granted : Option OccurrenceSlot × Option OccurrenceClaim × ClaimStatus :=
    (some ⟨token, ownerId, .claimed, scheduledFor, some (now + claimTtl)⟩,
      some ⟨token, ownerId, scheduledFor⟩, .claimed)
  match slot with
  | none => granted
  | some current =>
      if current.Duplicate token scheduledFor
          ∧ (current.status = .completed ∨ current.Active now) then
        (slot, none, if current.status = .completed then .completed else .active)
      else granted

/-- Change the slot if it still holds the claim; the result tells whether it did. -/
def updateOwned (slot : Option OccurrenceSlot) (claim : OccurrenceClaim)
    (change : OccurrenceSlot → OccurrenceSlot)
    : Option OccurrenceSlot × Bool :=
  match slot with
  | none => (none, false)
  | some current =>
      if current.Owns claim then (some (change current), true) else (some current, false)

def complete (slot : Option OccurrenceSlot) (claim : OccurrenceClaim)
    : Option OccurrenceSlot × Bool :=
  updateOwned slot claim (fun current =>
    { current with status := .completed, expiresAt := none })

def renew (slot : Option OccurrenceSlot) (claim : OccurrenceClaim) (now : Timestamp)
    : Option OccurrenceSlot × Bool :=
  updateOwned slot claim (fun current => { current with expiresAt := some (now + claimTtl) })

def release (slot : Option OccurrenceSlot) (claim : OccurrenceClaim)
    : Option OccurrenceSlot × Bool :=
  updateOwned slot claim (fun current =>
    { current with status := .released, expiresAt := none })

/-- The slot, and the occurrences for which a completion has succeeded so far. -/
structure SchedulerWorld where
  slot : Option OccurrenceSlot
  completed : List OccurrenceToken
deriving DecidableEq

inductive SchedulerEvent
  | claim (ownerId : String) (settings : ScheduleSettings) (scheduledFor now : Timestamp)
  | renew (claim : OccurrenceClaim) (now : Timestamp)
  | complete (claim : OccurrenceClaim)
  | release (claim : OccurrenceClaim)
deriving DecidableEq, Repr

namespace SchedulerWorld

variable (world : SchedulerWorld)

def step : SchedulerEvent → Option SchedulerWorld
  | .claim ownerId settings scheduledFor now =>
      some { world with
        slot := (claimWithStatus world.slot ownerId settings scheduledFor now).1 }
  | .renew claim now => some { world with slot := (renew world.slot claim now).1 }
  | .complete claim =>
      let completion := complete world.slot claim
      some {
        slot := completion.1
        completed := if completion.2 then claim.token :: world.completed else world.completed }
  | .release claim => some { world with slot := (release world.slot claim).1 }

/-- The event grants or completes no occurrence that is completed already. -/
def RunsOnce : SchedulerEvent → Prop
  | .claim ownerId settings scheduledFor now =>
      ∀ claim,
        (claimWithStatus world.slot ownerId settings scheduledFor now).2.1 = some claim
        → claim.token ∉ world.completed
  | .complete claim => (complete world.slot claim).2 = true → claim.token ∉ world.completed
  | _ => True

/-- An occurrence that is completed already is only claimed while the slot holds it, or holds
one that is not older and is completed or has an unexpired claim.
-/
def Remembers : SchedulerEvent → Prop
  | .claim _ settings scheduledFor now =>
      occurrenceToken settings scheduledFor ∈ world.completed
      → ∃ slot,
          world.slot = some slot
          ∧ (slot.token = occurrenceToken settings scheduledFor
            ∨ slot.scheduledFor ≥ scheduledFor
              ∧ (slot.status = .completed ∨ slot.Active now))
  | _ => True

/-- The slot shows a completed occurrence that it holds as completed. -/
def ShowsCompleted : Prop :=
  ∀ slot, world.slot = some slot → slot.token ∈ world.completed → slot.status = .completed

end SchedulerWorld

open SchedulerWorld

variable {world after : SchedulerWorld}

theorem claim_cases (slot : Option OccurrenceSlot) (ownerId : String)
    (settings : ScheduleSettings) (scheduledFor now : Timestamp)
    : (∃ current,
        slot = some current
        ∧ current.Duplicate (occurrenceToken settings scheduledFor) scheduledFor
        ∧ (current.status = .completed ∨ current.Active now)
        ∧ (claimWithStatus slot ownerId settings scheduledFor now).1 = slot
        ∧ (claimWithStatus slot ownerId settings scheduledFor now).2.1 = none)
      ∨ ((∀ current,
            slot = some current
            → ¬ (current.Duplicate (occurrenceToken settings scheduledFor) scheduledFor
              ∧ (current.status = .completed ∨ current.Active now)))
        ∧ (claimWithStatus slot ownerId settings scheduledFor now).1
          = some ⟨occurrenceToken settings scheduledFor, ownerId, .claimed, scheduledFor,
              some (now + claimTtl)⟩
        ∧ (claimWithStatus slot ownerId settings scheduledFor now).2.1
          = some ⟨occurrenceToken settings scheduledFor, ownerId, scheduledFor⟩) := by
  unfold claimWithStatus
  cases slot with
  | none => exact .inr ⟨fun _ absurdity => (by cases absurdity), rfl, rfl⟩
  | some current =>
      by_cases rejected
          : current.Duplicate (occurrenceToken settings scheduledFor) scheduledFor
            ∧ (current.status = .completed ∨ current.Active now)
      · left
        refine ⟨current, rfl, rejected.1, rejected.2, ?_, ?_⟩
        · simp only [if_pos rejected]
        · simp only [if_pos rejected]
      · right
        refine ⟨fun other same => ?_, ?_, ?_⟩
        · cases same
          exact rejected
        · simp only [if_neg rejected]
        · simp only [if_neg rejected]

theorem updateOwned_cases (slot : Option OccurrenceSlot) (claim : OccurrenceClaim)
    (change : OccurrenceSlot → OccurrenceSlot)
    : updateOwned slot claim change = (slot, false)
      ∨ ∃ current,
          slot = some current
          ∧ current.token = claim.token
          ∧ current.status = .claimed
          ∧ updateOwned slot claim change = (some (change current), true) := by
  unfold updateOwned
  cases slot with
  | none => exact .inl rfl
  | some current =>
      by_cases owns : current.Owns claim
      · exact .inr ⟨current, rfl, owns.1, owns.2.2, by simp only [if_pos owns]⟩
      · exact .inl (by simp only [if_neg owns])

/-- While the slot shows completed occurrences as such, no event runs one again exactly when
the claimed ones are still remembered.
-/
theorem runsOnce_iff_remembers (shows : world.ShowsCompleted) {event : SchedulerEvent}
    : world.RunsOnce event ↔ world.Remembers event := by
  cases event with
  | renew claim now => exact Iff.rfl
  | release claim => exact Iff.rfl
  | complete claim =>
      refine iff_of_true (fun completed old => ?_) trivial
      rcases updateOwned_cases world.slot claim (fun current =>
          { current with status := .completed, expiresAt := none }) with
        refused | ⟨current, held, same, claimed, -⟩
      · rw [complete, refused] at completed
        cases completed
      · -- a claimed slot holds no completed occurrence
        have status := shows current held (same ▸ old)
        rw [claimed] at status
        cases status
  | claim ownerId settings scheduledFor now =>
      simp only [RunsOnce, Remembers]
      rcases claim_cases world.slot ownerId settings scheduledFor now with
        ⟨current, held, duplicate, blocks, -, refused⟩ | ⟨free, -, granted⟩
      · refine iff_of_true ?_ (fun _ => ⟨current, held, ?_⟩)
        · rw [refused]
          exact fun _ absurdity => by cases absurdity
        · rcases duplicate with same | newer
          · exact .inl same
          · exact .inr ⟨newer, blocks⟩
      · rw [granted]
        constructor
        · intro fresh old
          exact absurd old (fresh _ rfl)
        · intro remembers claim same old
          cases same
          obtain ⟨slot, held, same | ⟨newer, blocks⟩⟩ := remembers old
          · have status := shows slot held (same ▸ old)
            exact free slot held ⟨.inl same, .inl status⟩
          · exact free slot held ⟨.inr newer, blocks⟩

theorem ShowsCompleted.step (shows : world.ShowsCompleted) {event : SchedulerEvent}
    (once : world.RunsOnce event) (taken : world.step event = some after)
    : after.ShowsCompleted := by
  -- an owned update keeps the token of a slot that is not completed
  have owned {claim : OccurrenceClaim} {change : OccurrenceSlot → OccurrenceSlot}
      (keeps : ∀ slot, (change slot).token = slot.token)
      : (⟨(updateOwned world.slot claim change).1, world.completed⟩
          : SchedulerWorld).ShowsCompleted := by
    rcases updateOwned_cases world.slot claim change with
      refused | ⟨current, held, -, claimed, changed⟩
    · rw [refused]
      exact shows
    · rw [changed]
      rintro slot same old
      cases same
      rw [keeps] at old
      have status := shows current held old
      rw [claimed] at status
      cases status
  cases event with
  | renew claim now =>
      cases taken
      exact owned (fun _ => rfl)
  | release claim =>
      cases taken
      exact owned (fun _ => rfl)
  | complete claim =>
      cases taken
      rcases updateOwned_cases world.slot claim (fun current =>
          { current with status := .completed, expiresAt := none }) with
        refused | ⟨current, held, same, -, changed⟩
      · simp only [complete, refused]
        exact shows
      · simp only [complete, changed]
        intro slot equal _
        cases equal
        rfl
  | claim ownerId settings scheduledFor now =>
      cases taken
      simp only [RunsOnce] at once
      rcases claim_cases world.slot ownerId settings scheduledFor now with
        ⟨current, held, -, -, stays, -⟩ | ⟨-, replaced, granted⟩
      · rw [stays]
        exact shows
      · rw [replaced]
        intro slot same old
        cases same
        exact absurd old (once _ granted)

/-- In a run from any stored slot no completed occurrence is granted or completed again
exactly when every claim of one finds it remembered.
-/
theorem runsOnce_iff (slot : Option OccurrenceSlot) (events : List SchedulerEvent)
    (finish : SchedulerWorld)
    : Run step RunsOnce ⟨slot, []⟩ events finish
      ↔ Run step Remembers ⟨slot, []⟩ events finish := by
  apply Run.iff_of_invariant ShowsCompleted
  · exact fun shows => runsOnce_iff_remembers shows
  · exact fun shows once taken => ShowsCompleted.step shows once taken
  · exact fun _ _ old => absurd old List.not_mem_nil

def fixedSchedule : ScheduleSettings := ⟨"fixed", none⟩

def tenOClock : Timestamp := 36000 * second
def elevenOClock : Timestamp := 39600 * second

/-- The ten o'clock occurrence completes, the one after it is claimed and released, and a
coordinator that is late claims the first one.
-/
def lateClaim : List SchedulerEvent :=
  let tenClaim : OccurrenceClaim := ⟨.fixed tenOClock, "first", tenOClock⟩
  let elevenClaim : OccurrenceClaim := ⟨.fixed elevenOClock, "first", elevenOClock⟩
  [.claim "first" fixedSchedule tenOClock tenOClock, .complete tenClaim,
    .claim "first" fixedSchedule elevenOClock elevenOClock, .release elevenClaim,
    .claim "second" fixedSchedule tenOClock (elevenOClock + second)]

instance (world : SchedulerWorld) (event : SchedulerEvent)
    : Decidable (world.RunsOnce event) := by
  cases event with
  | claim ownerId settings scheduledFor now =>
      exact inferInstanceAs (Decidable
        (∀ claim ∈ (claimWithStatus world.slot ownerId settings scheduledFor now).2.1,
          claim.token ∉ world.completed))
  | renew claim now => exact .isTrue trivial
  | complete claim =>
      exact inferInstanceAs (Decidable
        ((complete world.slot claim).2 = true → claim.token ∉ world.completed))
  | release claim => exact .isTrue trivial

/-- The released slot no longer says that the older occurrence was completed. -/
theorem runsAgain_lateClaim
    : ∃ finish,
        Run step (fun _ _ => True) ⟨none, []⟩ lateClaim finish
        ∧ ¬ Run step RunsOnce ⟨none, []⟩ lateClaim finish := by
  have reached
      : ∃ finish, Run step (fun _ _ => True) ⟨none, []⟩ lateClaim finish ∧ True :=
    Run.exists_of_execute (by decide)
  obtain ⟨finish, run, -⟩ := reached
  refine ⟨finish, run, fun once => ?_⟩
  have stopped : execute step RunsOnce ⟨none, []⟩ lateClaim = none := by decide
  cases stopped.symm.trans once.execute_eq

end OctoHubs.Scheduling
