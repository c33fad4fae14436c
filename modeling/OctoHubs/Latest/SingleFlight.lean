import OctoHubs.Library.Dict
import OctoHubs.Library.Runs

/-! Dispatches that equivalent requests share. The first request for a key owns a generation and
publishes its outcome; later ones join the generation and wait for the outcome, each as long as
it likes.
-/

namespace OctoHubs.Latest

open OctoHubs.Library

variable {α : Type}

structure DispatchTicket where
  generation : Nat
  owner : Bool
  dispatchKey : String

/-- What the calls share under the lock. -/
structure DispatchState (α : Type) where
  generation : Nat
  active : Dict String Nat
  outcomes : Dict Nat α
  waiters : Dict Nat Int

namespace DispatchState

variable (state : DispatchState α)

def waiting (generation : Nat) : Int := (state.waiters.get? generation).getD 0

/-- Join the active dispatch of a key, or own a new generation of it. -/
def beginNotificationDispatch (dispatchKey : String) : DispatchTicket × DispatchState α :=
  let key := if dispatchKey = "" then "default" else dispatchKey
  match state.active.get? key with
  | some generation =>
      (⟨generation, false, key⟩,
        { state with waiters := state.waiters.set generation (state.waiting generation + 1) })
  | none =>
      let generation := state.generation + 1
      (⟨generation, true, key⟩,
        { state with generation, active := state.active.set key generation })

/-- Publish the outcome of a generation, if anyone waits for it. Fails for a ticket that does not
own the active generation of its key.
-/
def completeNotificationDispatch (ticket : DispatchTicket) (result : α)
    : Option (DispatchState α) :=
  if !ticket.owner then none
  else if state.active.get? ticket.dispatchKey ≠ some ticket.generation then none
  else
    some
      { state with
        outcomes :=
          if 0 < state.waiting ticket.generation then
            state.outcomes.set ticket.generation result
          else state.outcomes
        active := state.active.erase ticket.dispatchKey }

/-- What a waiter does however its wait ends. -/
def leave (generation : Nat) : DispatchState α :=
  let remaining := state.waiting generation - 1
  if remaining ≤ 0 then
    { state with
      waiters := state.waiters.erase generation
      outcomes := state.outcomes.erase generation }
  else { state with waiters := state.waiters.set generation remaining }

/-- What a waiter does while it has the lock, when its time is up or not: it ends with the
outcome or without one, or goes on waiting.
-/
def waitForNotificationDispatch (ticket : DispatchTicket) (expired : Bool)
    : Option (Option α × DispatchState α) :=
  match state.outcomes.get? ticket.generation with
  | some outcome => some (some outcome, state.leave ticket.generation)
  | none => if expired then some (none, state.leave ticket.generation) else none

theorem get?_waiters_leave (generation other : Nat)
    : (state.leave generation).waiters.get? other
      = if other = generation then
          if state.waiting generation - 1 ≤ 0 then none
          else some (state.waiting generation - 1)
        else state.waiters.get? other := by
  unfold leave
  dsimp only
  split <;> by_cases same : other = generation <;> simp [same]

theorem get?_outcomes_leave (generation other : Nat)
    : (state.leave generation).outcomes.get? other
      = if other = generation ∧ state.waiting generation - 1 ≤ 0 then none
        else state.outcomes.get? other := by
  unfold leave
  dsimp only
  split
  · next last => by_cases same : other = generation <;> simp [same, last]
  · next more => simp [more]

@[simp] theorem leave_active (generation : Nat)
    : (state.leave generation).active = state.active := by
  unfold leave
  dsimp only
  split <;> rfl

@[simp] theorem leave_generation (generation : Nat)
    : (state.leave generation).generation = state.generation := by
  unfold leave
  dsimp only
  split <;> rfl

end DispatchState

/-- The shared state, the tickets with a mark on those that were completed or waited with, the
outcomes that generations completed with, and those that waiters came back with.
-/
structure DispatchWorld (α : Type) where
  state : DispatchState α
  tickets : List (DispatchTicket × Bool)
  completions : List (Nat × α)
  returns : List (Nat × α)

/-- A call takes the lock: to begin, to complete with a ticket, or to look for the outcome at the
begin of a wait or whenever it wakes up.
-/
inductive DispatchCall (α : Type)
  | begin_ (dispatchKey : String)
  | complete (index : Nat) (result : α)
  | wait (index : Nat) (expired : Bool)

namespace DispatchWorld

def start : DispatchWorld α := ⟨⟨0, ∅, ∅, ∅⟩, [], [], []⟩

/-- A call that has the lock; a ticket must have been given out before it is used. -/
def step (world : DispatchWorld α) : DispatchCall α → Option (DispatchWorld α)
  | .begin_ dispatchKey =>
      let (ticket, state) := world.state.beginNotificationDispatch dispatchKey
      some { world with state, tickets := world.tickets ++ [(ticket, false)] }
  | .complete index result =>
      (world.tickets[index]?).map (fun (ticket, _) =>
        match world.state.completeNotificationDispatch ticket result with
        | none => world
        | some state =>
            { world with
              state
              tickets := world.tickets.set index (ticket, true)
              completions := world.completions ++ [(ticket.generation, result)] })
  | .wait index expired =>
      (world.tickets[index]?).map (fun (ticket, _) =>
        match world.state.waitForNotificationDispatch ticket expired with
        | none => world
        | some (outcome, state) =>
            { world with
              state
              tickets := world.tickets.set index (ticket, true)
              returns :=
                world.returns ++ (outcome.map (fun found => (ticket.generation, found))).toList })

/-- A ticket of a generation that joined it and did not wait to an end yet. -/
def joined (generation : Nat) (entry : DispatchTicket × Bool) : Bool :=
  !entry.1.owner && !entry.2 && entry.1.generation = generation

/-- The generations that are active: owned and not completed. -/
def Active (world : DispatchWorld α) (dispatchKey : String) (generation : Nat) : Prop :=
  (∃ entry ∈ world.tickets,
      entry.1.owner = true
      ∧ entry.1.dispatchKey = dispatchKey
      ∧ entry.1.generation = generation)
  ∧ ∀ completed ∈ world.completions, completed.1 ≠ generation

/-- What holds whenever the lock is free. -/
structure Sound (world : DispatchWorld α) : Prop where
  /-- The count of waiters is positive, and not above the tickets that may still wait. -/
  counted
    : ∀ generation count,
        world.state.waiters.get? generation = some count
        → 0 < count ∧ count ≤ (world.tickets.countP (joined generation) : Int)
  /-- An outcome is stored only while a waiter is counted. -/
  awaited
    : ∀ generation,
        (world.state.outcomes.get? generation).isSome = true
        → (world.state.waiters.get? generation).isSome = true
  stored
    : ∀ generation outcome,
        world.state.outcomes.get? generation = some outcome
        → (generation, outcome) ∈ world.completions
  returned : ∀ entry ∈ world.returns, entry ∈ world.completions
  /-- The table of active generations has every one of them, and different ones for keys. -/
  listed
    : ∀ dispatchKey generation,
        world.Active dispatchKey generation
        → world.state.active.get? dispatchKey = some generation
  open_
    : ∀ dispatchKey generation,
        world.state.active.get? dispatchKey = some generation
        → generation ≤ world.state.generation
          ∧ (∀ completed ∈ world.completions, completed.1 ≠ generation)
          ∧ ∀ other,
              world.state.active.get? other = some generation → other = dispatchKey
  past : ∀ completed ∈ world.completions, completed.1 ≤ world.state.generation
  once : (world.completions.map Prod.fst).Nodup

theorem sound_start : (start : DispatchWorld α).Sound := by
  refine ⟨?_, ?_, ?_, ?_, ?_, ?_, ?_, List.nodup_nil⟩ <;> simp [start, Active]

section Tickets

variable {tickets : List (DispatchTicket × Bool)} {index generation : Nat}
  {ticket : DispatchTicket} {mark : Bool}

theorem mem_of_mark (used : tickets[index]? = some (ticket, mark)) {entry : DispatchTicket × Bool}
    (member : entry ∈ tickets.set index (ticket, true))
    : ∃ old ∈ tickets, old.1 = entry.1 := by
  rcases List.mem_or_eq_of_mem_set member with before | rfl
  · exact ⟨entry, before, rfl⟩
  · exact ⟨_, List.mem_of_getElem? used, rfl⟩

theorem countP_mark (used : tickets[index]? = some (ticket, mark)) (generation : Nat)
    : (tickets.set index (ticket, true)).countP (joined generation)
      = tickets.countP (joined generation) - if joined generation (ticket, mark) then 1 else 0 := by
  rcases List.getElem?_eq_some_iff.mp used with ⟨inside, found⟩
  have marked : joined generation (ticket, true) = false := by simp [joined]
  rw [List.countP_set inside, found, marked]
  simp

end Tickets

variable {world : DispatchWorld α}

theorem Active.of_tickets {next : DispatchWorld α} {dispatchKey : String} {generation : Nat}
    (active : next.Active dispatchKey generation)
    (owners
      : ∀ entry ∈ next.tickets,
          entry.1.owner = true → ∃ old ∈ world.tickets, old.1 = entry.1)
    (completed : ∀ entry ∈ world.completions, entry ∈ next.completions)
    : world.Active dispatchKey generation := by
  rcases active with ⟨⟨entry, member, owner, key, number⟩, running⟩
  rcases owners entry member owner with ⟨old, before, same⟩
  refine ⟨⟨old, before, ?_⟩, fun other before => running other (completed other before)⟩
  rw [same]
  exact ⟨owner, key, number⟩

theorem Sound.join (sound : world.Sound) {key : String} {generation : Nat}
    : Sound
        { world with
          state :=
            { world.state with
              waiters :=
                world.state.waiters.set generation (world.state.waiting generation + 1) }
          tickets := world.tickets ++ [(⟨generation, false, key⟩, false)] } := by
  have active_of {dispatchKey : String} {number : Nat}
      (active
        : Active
            { world with
              state :=
                { world.state with
                  waiters :=
                    world.state.waiters.set generation (world.state.waiting generation + 1) }
              tickets := world.tickets ++ [(⟨generation, false, key⟩, false)] }
            dispatchKey number)
      : world.Active dispatchKey number := by
    refine active.of_tickets ?_ (fun _ before => before)
    intro entry member owner
    rcases List.mem_append.mp member with before | new
    · exact ⟨entry, before, rfl⟩
    · rw [List.mem_singleton.mp new] at owner
      cases owner
  refine ⟨?_, ?_, sound.stored, sound.returned, fun _ _ active => sound.listed _ _ (active_of active),
    sound.open_, sound.past, sound.once⟩
  · intro number count found
    dsimp only at found ⊢
    rw [Dict.get?_set] at found
    rw [List.countP_append, List.countP_singleton]
    split at found
    · next same =>
        subst same
        have new : joined number (⟨number, false, key⟩, false) = true := by simp [joined]
        rw [new, if_pos rfl, ← Option.some.inj found]
        unfold DispatchState.waiting
        cases before : world.state.waiters.get? number with
        | none =>
            simp only [Option.getD_none]
            omega
        | some old =>
            have bounds := sound.counted number old before
            simp only [Option.getD_some]
            omega
    · have bounds := sound.counted number count found
      omega
  · intro number stored
    dsimp only at stored ⊢
    rw [Dict.get?_set]
    split
    · rfl
    · exact sound.awaited number stored

theorem Sound.own (sound : world.Sound) {key : String}
    (unowned : world.state.active.get? key = none)
    : Sound
        { world with
          state :=
            { world.state with
              generation := world.state.generation + 1
              active := world.state.active.set key (world.state.generation + 1) }
          tickets := world.tickets ++ [(⟨world.state.generation + 1, true, key⟩, false)] } := by
  have not_old {dispatchKey : String}
      (found : world.state.active.get? dispatchKey = some (world.state.generation + 1))
      : False := by
    have bound := (sound.open_ _ _ found).1
    omega
  refine ⟨?_, sound.awaited, sound.stored, sound.returned, ?_, ?_, ?_, sound.once⟩
  · intro number count found
    have bounds := sound.counted number count found
    dsimp only
    rw [List.countP_append]
    omega
  · intro dispatchKey number active
    rcases active with ⟨⟨entry, member, owner, sameKey, sameNumber⟩, running⟩
    dsimp only at member running ⊢
    rcases List.mem_append.mp member with before | new
    · have old := sound.listed dispatchKey number
        ⟨⟨entry, before, owner, sameKey, sameNumber⟩, running⟩
      have differs : dispatchKey ≠ key := by
        rintro rfl
        rw [old] at unowned
        cases unowned
      rw [Dict.get?_set_ne _ _ differs, old]
    · rw [List.mem_singleton.mp new] at sameKey sameNumber
      rw [← sameKey, ← sameNumber]
      exact Dict.get?_set_self _ _ _
  · intro dispatchKey number found
    dsimp only at found ⊢
    rw [Dict.get?_set] at found
    split at found
    · next same =>
        rw [← Option.some.inj found]
        refine ⟨Nat.le_refl _, ?_, ?_⟩
        · intro completed member
          have bound := sound.past completed member
          omega
        · intro other opened
          rw [Dict.get?_set] at opened
          split at opened
          · next equal => exact equal.trans same.symm
          · exact (not_old opened).elim
    · rcases sound.open_ dispatchKey number found with ⟨bound, running, alone⟩
      refine ⟨by omega, running, ?_⟩
      intro other opened
      rw [Dict.get?_set] at opened
      split at opened
      · rw [← Option.some.inj opened] at found
        exact (not_old found).elim
      · exact alone other opened
  · intro completed member
    have bound := sound.past completed member
    dsimp only
    omega

theorem Sound.publish (sound : world.Sound) {index : Nat} {ticket : DispatchTicket} {mark : Bool}
    {result : α} (used : world.tickets[index]? = some (ticket, mark))
    (owner : ticket.owner = true)
    (current : world.state.active.get? ticket.dispatchKey = some ticket.generation)
    : Sound
        { world with
          state :=
            { world.state with
              outcomes :=
                if 0 < world.state.waiting ticket.generation then
                  world.state.outcomes.set ticket.generation result
                else world.state.outcomes
              active := world.state.active.erase ticket.dispatchKey }
          tickets := world.tickets.set index (ticket, true)
          completions := world.completions ++ [(ticket.generation, result)] } := by
  rcases sound.open_ _ _ current with ⟨bound, running, alone⟩
  refine ⟨?_, ?_, ?_, ?_, ?_, ?_, ?_, ?_⟩
  · intro number count found
    have bounds := sound.counted number count found
    have apart : joined number (ticket, mark) = false := by simp [joined, owner]
    dsimp only
    rw [countP_mark used, apart]
    exact bounds
  · intro number stored
    dsimp only at stored ⊢
    split at stored
    · next wanted =>
        rw [Dict.get?_set] at stored
        split at stored
        · next same =>
            subst same
            cases counted : world.state.waiters.get? ticket.generation with
            | none =>
                rw [DispatchState.waiting, counted] at wanted
                exact absurd wanted (by decide)
            | some count => rfl
        · exact sound.awaited number stored
    · exact sound.awaited number stored
  · intro number outcome stored
    dsimp only at stored ⊢
    split at stored
    · rw [Dict.get?_set] at stored
      split at stored
      · next same =>
          rw [same, ← Option.some.inj stored]
          exact List.mem_append_right _ (List.mem_singleton_self _)
      · exact List.mem_append_left _ (sound.stored number outcome stored)
    · exact List.mem_append_left _ (sound.stored number outcome stored)
  · intro entry member
    exact List.mem_append_left _ (sound.returned entry member)
  · intro dispatchKey number active
    have before : world.Active dispatchKey number :=
      active.of_tickets (fun entry member _ => mem_of_mark used member)
        (fun entry member => List.mem_append_left _ member)
    have found := sound.listed dispatchKey number before
    have differs : dispatchKey ≠ ticket.dispatchKey := by
      rintro rfl
      rw [current] at found
      exact active.2 (ticket.generation, result)
        (List.mem_append_right _ (List.mem_singleton_self _)) (Option.some.inj found)
    exact (Dict.get?_erase_ne _ differs).trans found
  · intro dispatchKey number found
    dsimp only at found ⊢
    rw [Dict.get?_erase] at found
    split at found
    · cases found
    · next differs =>
        rcases sound.open_ dispatchKey number found with ⟨low, open_, single⟩
        refine ⟨low, ?_, ?_⟩
        · intro completed member
          rcases List.mem_append.mp member with before | new
          · exact open_ completed before
          · rw [List.mem_singleton.mp new]
            rintro rfl
            exact differs (alone dispatchKey found)
        · intro other opened
          rw [Dict.get?_erase] at opened
          split at opened
          · cases opened
          · exact single other opened
  · intro completed member
    rcases List.mem_append.mp member with before | new
    · exact sound.past completed before
    · rw [List.mem_singleton.mp new]
      exact bound
  · dsimp only
    rw [List.map_append, List.map_singleton, ← List.concat_eq_append]
    refine sound.once.concat ?_
    intro member
    rcases List.mem_map.mp member with ⟨completed, before, same⟩
    exact running completed before same

theorem Sound.leave (sound : world.Sound) {index : Nat} {ticket : DispatchTicket} {mark : Bool}
    {returns : List (Nat × α)} (used : world.tickets[index]? = some (ticket, mark))
    (returned : ∀ entry ∈ returns, entry ∈ world.completions)
    : Sound
        { world with
          state := world.state.leave ticket.generation
          tickets := world.tickets.set index (ticket, true)
          returns := world.returns ++ returns } := by
  refine ⟨?_, ?_, ?_, ?_, ?_, ?_, ?_, sound.once⟩
  · intro number count found
    dsimp only at found ⊢
    rw [DispatchState.get?_waiters_leave] at found
    rw [countP_mark used]
    split at found
    · next same =>
        subst same
        split at found
        · cases found
        · next more =>
            rw [← Option.some.inj found]
            cases before : world.state.waiters.get? ticket.generation with
            | none =>
                rw [DispatchState.waiting, before] at more
                exact absurd (by decide) more
            | some old =>
                have bounds := sound.counted ticket.generation old before
                rw [DispatchState.waiting, before, Option.getD_some] at more ⊢
                split <;> omega
    · next differs =>
        have bounds := sound.counted number count found
        have apart : joined number (ticket, mark) = false := by
          simp [joined, Ne.symm differs]
        rw [apart]
        exact bounds
  · intro number stored
    dsimp only at stored ⊢
    rw [DispatchState.get?_outcomes_leave] at stored
    rw [DispatchState.get?_waiters_leave]
    split at stored
    · cases stored
    · next kept =>
        split
        · next same =>
            rw [if_neg (fun last => kept ⟨same, last⟩)]
            rfl
        · exact sound.awaited number stored
  · intro number outcome stored
    dsimp only at stored
    rw [DispatchState.get?_outcomes_leave] at stored
    split at stored
    · cases stored
    · exact sound.stored number outcome stored
  · intro entry member
    rcases List.mem_append.mp member with before | new
    · exact sound.returned entry before
    · exact returned entry new
  · intro dispatchKey number active
    dsimp only
    rw [DispatchState.leave_active]
    exact sound.listed dispatchKey number
      (active.of_tickets (fun entry member _ => mem_of_mark used member)
        (fun _ member => member))
  · intro dispatchKey number found
    dsimp only at found ⊢
    rw [DispatchState.leave_active] at found ⊢
    rw [DispatchState.leave_generation]
    exact sound.open_ dispatchKey number found
  · intro completed member
    dsimp only
    rw [DispatchState.leave_generation]
    exact sound.past completed member

theorem Sound.step (sound : world.Sound) {call : DispatchCall α} {next : DispatchWorld α}
    (taken : world.step call = some next)
    : next.Sound := by
  cases call with
  | begin_ dispatchKey =>
      simp only [DispatchWorld.step, DispatchState.beginNotificationDispatch] at taken
      generalize (if dispatchKey = "" then "default" else dispatchKey) = key at taken
      cases current : world.state.active.get? key with
      | some generation =>
          simp only [current, Option.some.injEq] at taken
          exact taken ▸ sound.join
      | none =>
          simp only [current, Option.some.injEq] at taken
          exact taken ▸ sound.own current
  | complete index result =>
      rcases Option.map_eq_some_iff.mp taken with ⟨⟨ticket, mark⟩, used, rfl⟩
      dsimp only [DispatchState.completeNotificationDispatch]
      by_cases owner : ticket.owner = true
      · by_cases current : world.state.active.get? ticket.dispatchKey = some ticket.generation
        · simpa [owner, current] using sound.publish used owner current
        · simpa [owner, current] using sound
      · simpa [owner] using sound
  | wait index expired =>
      rcases Option.map_eq_some_iff.mp taken with ⟨⟨ticket, mark⟩, used, rfl⟩
      dsimp only [DispatchState.waitForNotificationDispatch]
      cases found : world.state.outcomes.get? ticket.generation with
      | some outcome =>
          refine sound.leave used ?_
          intro entry member
          have same : entry = (ticket.generation, outcome) := List.mem_singleton.mp member
          rw [same]
          exact sound.stored ticket.generation outcome found
      | none =>
          cases expired with
          | true => exact sound.leave used (fun entry member => absurd member List.not_mem_nil)
          | false => exact sound

theorem sound_of_run {calls : List (DispatchCall α)}
    (run : Run DispatchWorld.step (fun _ _ => True) start calls world)
    : world.Sound :=
  run.preserves Sound (fun sound _ taken => sound.step taken) sound_start

end DispatchWorld

theorem eq_empty_of_get? {ν : Type} {table : Dict Nat ν}
    (nothing : ∀ key, table.get? key = none)
    : table = ∅ := by
  rcases table with ⟨items, unique⟩
  cases items with
  | nil => rfl
  | cons item items =>
      have found : Dict.get? ⟨item :: items, unique⟩ item.1 = some item.2 :=
        Dict.mem_items_iff.mp List.mem_cons_self
      rw [nothing item.1] at found
      cases found

/-- After every interleaving of calls, a key has one active generation at most; every waiter that
came back with an outcome has the one that its generation completed with; and once every ticket
was completed or waited with, no outcome and no waiter is recorded.
-/
theorem single_flight {world : DispatchWorld α} {calls : List (DispatchCall α)}
    (run : Run DispatchWorld.step (fun _ _ => True) .start calls world)
    : (∀ dispatchKey left right,
        world.Active dispatchKey left → world.Active dispatchKey right → left = right)
      ∧ (∀ generation outcome,
          (generation, outcome) ∈ world.returns
          → (generation, outcome) ∈ world.completions
            ∧ ∀ other, (generation, other) ∈ world.completions → other = outcome)
      ∧ ((∀ entry ∈ world.tickets, entry.2 = true)
        → world.state.outcomes = ∅ ∧ world.state.waiters = ∅) := by
  have sound := DispatchWorld.sound_of_run run
  refine ⟨?_, ?_, ?_⟩
  · intro dispatchKey left right first second
    have found := sound.listed dispatchKey left first
    rw [sound.listed dispatchKey right second] at found
    exact (Option.some.inj found).symm
  · intro generation outcome member
    have completed := sound.returned _ member
    refine ⟨completed, fun other also => ?_⟩
    have same := List.inj_on_of_nodup_map sound.once also completed rfl
    exact (Prod.mk.inj same).2
  · intro done
    have unwaited (generation : Nat) : world.state.waiters.get? generation = none := by
      cases counted : world.state.waiters.get? generation with
      | none => rfl
      | some count =>
          have bounds := sound.counted generation count counted
          have nobody : world.tickets.countP (DispatchWorld.joined generation) = 0 := by
            rw [List.countP_eq_zero]
            intro entry member
            simp [DispatchWorld.joined, done entry member]
          omega
    refine ⟨eq_empty_of_get? fun generation => ?_, eq_empty_of_get? unwaited⟩
    cases stored : world.state.outcomes.get? generation with
    | none => rfl
    | some outcome =>
        have awaited := sound.awaited generation (by rw [stored]; rfl)
        rw [unwaited generation] at awaited
        cases awaited

/-- Two requests share a generation, and a later request for the key owns a new one. -/
def sharedCalls : List (DispatchCall String) :=
  [.begin_ "", .begin_ "default", .begin_ "other", .wait 1 false, .complete 0 "sent",
    .begin_ "default", .wait 1 false, .complete 2 "none", .complete 3 "again"]

theorem single_flight_example
    : ∃ world : DispatchWorld String,
        world.returns = [(1, "sent")]
        ∧ world.completions.length = 3
        ∧ (∀ dispatchKey left right,
            world.Active dispatchKey left → world.Active dispatchKey right → left = right)
        ∧ (∀ generation outcome,
            (generation, outcome) ∈ world.returns
            → (generation, outcome) ∈ world.completions
              ∧ ∀ other, (generation, other) ∈ world.completions → other = outcome)
        ∧ ((∀ entry ∈ world.tickets, entry.2 = true)
          → world.state.outcomes = ∅ ∧ world.state.waiters = ∅) := by
  have executed
      : ∃ world,
          execute DispatchWorld.step (fun _ _ => True) .start sharedCalls = some world
          ∧ world.returns = [(1, "sent")]
          ∧ world.completions.length = 3 := by
    refine ⟨_, rfl, ?_, ?_⟩ <;> decide
  rcases executed with ⟨world, executed, returned, completed⟩
  exact ⟨world, returned, completed, single_flight (.of_execute executed)⟩

end OctoHubs.Latest
