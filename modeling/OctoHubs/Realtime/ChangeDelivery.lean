import Mathlib.Logic.Function.Basic
import OctoHubs.Library.Runs
import OctoHubs.Realtime.ChangeFeed

/-! What clients of the change journal receive, when any number of them page through it while
changes are published and the publishing process restarts.
-/

namespace OctoHubs.Realtime

open OctoHubs.Library

/-- A cursor and the process that gave it. -/
structure Position where
  process : Nat
  cursor : Nat
  deriving DecidableEq

def Position.Le (left right : Position) : Prop :=
  left.process < right.process ∨ left.process = right.process ∧ left.cursor ≤ right.cursor

/-- A change and the process that published it. -/
structure Publication where
  process : Nat
  change : ExternalChange
  deriving DecidableEq

def Publication.isAfter (publication : Publication) (position : Position) : Bool :=
  position.process < publication.process
  || (position.process = publication.process && position.cursor < publication.change.cursor)

/-- A client that pages: where it started or was last reset, the cursor it was last given, and
what it has received in between.
-/
structure Subscription where
  start : Position
  position : Position
  received : List Publication
  deriving DecidableEq

/-- The journal of the running process, all changes that any process has published, and the
clients.
-/
structure FeedWorld (Client : Type) where
  process : Nat
  feed : Feed
  history : List Publication
  subscriptions : Client → Subscription

inductive FeedEvent (Client : Type)
  | publish (eventData : Document) (occurredAt : String)
  | restart
  | subscribe (client : Client) (position : Position)
  | read (client : Client) (limit : Int)

section Steps

variable {Client : Type}

/-- No process has published a change, and each client starts at the beginning. -/
def FeedWorld.initial : FeedWorld Client where
  process := 0
  feed := .empty
  history := []
  subscriptions _ := ⟨⟨0, 0⟩, ⟨0, 0⟩, []⟩

def FeedWorld.publishedAfter (world : FeedWorld Client) (position : Position)
    : List Publication :=
  world.history.filter (·.isAfter position)

def FeedWorld.page (world : FeedWorld Client) (client : Client) (limit : Int) : ChangesPage :=
  readExternalChanges world.feed (world.subscriptions client).position.cursor limit

/-- A reset makes the client start over with the page. -/
def Subscription.turn (subscription : Subscription) (process : Nat) (page : ChangesPage)
    : Subscription :=
  let arrived := page.events.map (Publication.mk process)
  if page.resetRequired then
    ⟨⟨process, page.oldestCursor - 1⟩, ⟨process, page.nextCursor⟩, arrived⟩
  else
    ⟨subscription.start, ⟨process, page.nextCursor⟩, subscription.received ++ arrived⟩

variable [DecidableEq Client] (alphabet : Alphabet)

def feedStep (world : FeedWorld Client) : FeedEvent Client → Option (FeedWorld Client)
  | .publish eventData occurredAt =>
      let change := externalChange alphabet (world.feed.latestCursor + 1) eventData occurredAt
      some
        { world with
          feed := publishExternalChange alphabet world.feed eventData occurredAt
          history := world.history ++ [⟨world.process, change⟩] }
  | .restart => some { world with process := world.process + 1, feed := .empty }
  | .subscribe client position =>
      if position.process ≤ world.process then
        some
          { world with
            subscriptions :=
              Function.update world.subscriptions client ⟨position, position, []⟩ }
      else none
  | .read client limit =>
      some
        { world with
          subscriptions :=
            Function.update world.subscriptions client
              ((world.subscriptions client).turn world.process (world.page client limit)) }

end Steps

-- What clients are owed

section Delivery

variable {Client : Type}

/-- A client has received, once and in order, what was published after its start and not after
its position.
-/
def FeedWorld.Complete (world : FeedWorld Client) (subscription : Subscription) : Prop :=
  subscription.received ++ world.publishedAfter subscription.position
    = world.publishedAfter subscription.start

def FeedWorld.Delivered (world : FeedWorld Client) : Prop :=
  ∀ client, world.Complete (world.subscriptions client)

/-- A page without a reset holds the next changes that the client is owed. -/
def Faithful (world : FeedWorld Client) : FeedEvent Client → Prop
  | .read client limit =>
      (world.page client limit).resetRequired = false
      → (world.page client limit).events.map (Publication.mk world.process)
        = (world.publishedAfter (world.subscriptions client).position).take
            (requestedLimit limit)
  | _ => True

/-- The cursor that a client reads with was given by the running process, or shows that it was
not, or nothing was published between the time it was given and the start of the process.
-/
def Recoverable (world : FeedWorld Client) : FeedEvent Client → Prop
  | .read client _ =>
      let position := (world.subscriptions client).position
      position.process = world.process
      ∨ world.feed.latestCursor < position.cursor
      ∨ (world.feed.changes ≠ [] ∧ position.cursor < world.feed.oldestCursor - 1)
      ∨ (position.cursor = 0
        ∧ ∀ publication ∈ world.history,
            publication.process < world.process → publication.isAfter position = false)
  | _ => True

/-- The history ends with what the running process has published, the journal with a part of
that.
-/
structure FeedWorld.Recorded (world : FeedWorld Client) (earlier : List Publication)
    (published : List ExternalChange)
    : Prop where
  history : world.history = earlier ++ published.map (Publication.mk world.process)
  earlier_lt : ∀ publication ∈ earlier, publication.process < world.process
  numbered : Numbered ExternalChange.cursor 1 published
  length : published.length = world.feed.latestCursor
  changes : world.feed.changes <:+ published

/-- A client has not been given a cursor beyond the changes, unless it starts with one. -/
structure FeedWorld.Settled (world : FeedWorld Client) (subscription : Subscription) : Prop where
  process_le : subscription.position.process ≤ world.process
  reached
    : subscription.start = subscription.position
      ∨ subscription.position.Le ⟨world.process, world.feed.latestCursor⟩
        ∧ subscription.start.Le subscription.position

structure FeedWorld.Sound (world : FeedWorld Client) : Prop where
  recorded : ∃ earlier published, world.Recorded earlier published
  settled : ∀ client, world.Settled (world.subscriptions client)

namespace FeedWorld.Recorded

variable {world : FeedWorld Client} {earlier : List Publication}
  {published : List ExternalChange}

/-- The changes of the journal after a cursor are those of the process, where no change between
them has been dropped.
-/
theorem filter_changes (recorded : world.Recorded earlier published) {cursor : Nat}
    (retained : world.feed.latestCursor - world.feed.changes.length ≤ cursor)
    : world.feed.changes.filter (cursor < ·.cursor) = published.drop cursor := by
  have size := world.feed.retained
  have tail := List.suffix_iff_eq_drop.mp recorded.changes
  rw [recorded.length] at tail
  rw [world.feed.numbered.filter_after]
  conv_lhs => rw [tail, List.drop_drop]
  congr 1
  rw [← tail]
  omega

theorem publishedAfter_current (recorded : world.Recorded earlier published)
    {position : Position} (current : position.process = world.process)
    : world.publishedAfter position
      = (published.drop position.cursor).map (Publication.mk world.process) := by
  have none : earlier.filter (·.isAfter position) = [] := by
    apply List.filter_eq_nil_iff.mpr
    intro publication member
    have before := recorded.earlier_lt publication member
    simp only [Publication.isAfter, Bool.or_eq_true, Bool.and_eq_true, decide_eq_true_eq]
    omega
  have later (change : ExternalChange)
      : (Publication.mk world.process change).isAfter position
        = decide (position.cursor < change.cursor) := by
    simp [Publication.isAfter, current]
  rw [publishedAfter, recorded.history, List.filter_append, none, List.nil_append,
    List.filter_map]
  simp only [Function.comp_def, later]
  rw [recorded.numbered.filter_after, Nat.add_sub_cancel]

theorem publishedAfter_earlier (recorded : world.Recorded earlier published)
    {position : Position} (before : position.process < world.process)
    : world.publishedAfter position
      = earlier.filter (·.isAfter position)
        ++ published.map (Publication.mk world.process) := by
  rw [publishedAfter, recorded.history, List.filter_append]
  congr 1
  apply List.filter_eq_self.mpr
  intro publication member
  obtain ⟨change, -, same⟩ := List.mem_map.mp member
  subst same
  simp [Publication.isAfter, before]

theorem events_read (recorded : world.Recorded earlier published) (cursor : Nat) (limit : Int)
    : (readExternalChanges world.feed cursor limit).events
      = (published.drop (world.feed.effectiveAfter cursor)).take (requestedLimit limit) := by
  have bounds := world.feed.effectiveAfter_bounds cursor
  simp only [readExternalChanges]
  rw [show (max 0 (cursor : Int)).toNat = cursor by omega, recorded.filter_changes bounds.1]

theorem nextCursor_read (recorded : world.Recorded earlier published) (cursor : Nat)
    (limit : Int)
    : (readExternalChanges world.feed cursor limit).nextCursor
      = world.feed.effectiveAfter cursor
        + (readExternalChanges world.feed cursor limit).events.length := by
  have events := recorded.events_read cursor limit
  have numbered :=
    (recorded.numbered.drop (world.feed.effectiveAfter cursor)).take (requestedLimit limit)
  rw [← events] at numbered
  change ((readExternalChanges world.feed cursor limit).events.getLast?.map
      ExternalChange.cursor).getD (world.feed.effectiveAfter (max 0 (cursor : Int)).toNat) = _
  rw [show (max 0 (cursor : Int)).toNat = cursor by omega]
  by_cases empty : (readExternalChanges world.feed cursor limit).events = []
  · rw [empty]
    rfl
  · have last := numbered.number_getLast empty
    rw [List.getLast?_eq_some_getLast empty, Option.map_some, Option.getD_some]
    omega

end FeedWorld.Recorded

-- One read

theorem FeedWorld.page_resetRequired (world : FeedWorld Client) (client : Client) (limit : Int)
    : (world.page client limit).resetRequired
      = world.feed.resetRequired (world.subscriptions client).position.cursor := by
  change world.feed.resetRequired (max 0 ((world.subscriptions client).position.cursor : Int)).toNat
    = _
  rw [show (max 0 ((world.subscriptions client).position.cursor : Int)).toNat
    = (world.subscriptions client).position.cursor by omega]

theorem FeedWorld.Recorded.publishedAfter_of_recoverable {world : FeedWorld Client}
    {earlier : List Publication} {published : List ExternalChange} {client : Client} {limit : Int}
    (recorded : world.Recorded earlier published)
    (process_le : (world.subscriptions client).position.process ≤ world.process)
    (recoverable : Recoverable world (.read client limit))
    (kept
      : world.feed.resetRequired (world.subscriptions client).position.cursor = false)
    : world.publishedAfter (world.subscriptions client).position
      = (published.drop (world.subscriptions client).position.cursor).map
          (Publication.mk world.process) := by
  simp only [Feed.resetRequired, Bool.or_eq_false_iff, Bool.and_eq_false_iff,
    decide_eq_false_iff_not] at kept
  rcases recoverable with current | beyond | dropped | ⟨zero, silent⟩
  · exact recorded.publishedAfter_current current
  · exact absurd beyond kept.1
  · rcases kept.2 with filled | late
    · exact absurd dropped.1 filled
    · exact absurd dropped.2 late
  · rcases Nat.lt_or_eq_of_le process_le with before | current
    · have none
          : earlier.filter (·.isAfter (world.subscriptions client).position) = [] := by
        apply List.filter_eq_nil_iff.mpr
        intro publication member
        have listed : publication ∈ world.history :=
          recorded.history ▸ List.mem_append_left _ member
        rw [silent publication listed (recorded.earlier_lt publication member)]
        decide
      rw [recorded.publishedAfter_earlier before, none, zero, List.nil_append, List.drop_zero]
    · exact recorded.publishedAfter_current current

/-- A read without a reset that gives a client what it is owed has a cursor of the running
process, or none of an earlier process is left: otherwise the first change that it is owed is
not the first one of the page.
-/
theorem FeedWorld.Recorded.recoverable_of_faithful {world : FeedWorld Client}
    {earlier : List Publication} {published : List ExternalChange} {client : Client} {limit : Int}
    (recorded : world.Recorded earlier published)
    (before : (world.subscriptions client).position.process < world.process)
    (kept : world.feed.resetRequired (world.subscriptions client).position.cursor = false)
    (faithful
      : ((published.drop (world.subscriptions client).position.cursor).take
            (requestedLimit limit)).map (Publication.mk world.process)
        = (world.publishedAfter (world.subscriptions client).position).take
            (requestedLimit limit))
    : (world.subscriptions client).position.cursor = 0
      ∧ ∀ publication ∈ world.history,
          publication.process < world.process
          → publication.isAfter (world.subscriptions client).position = false := by
  obtain ⟨count, positive⟩ := Nat.exists_eq_add_one.mpr (requestedLimit_pos limit)
  rw [recorded.publishedAfter_earlier before, positive] at faithful
  have silent : earlier.filter (·.isAfter (world.subscriptions client).position) = [] := by
    cases owed : earlier.filter (·.isAfter (world.subscriptions client).position) with
    | nil => rfl
    | cons publication rest =>
        rw [owed, List.cons_append, List.take_succ_cons] at faithful
        have listed : publication ∈ earlier :=
          List.mem_of_mem_filter (owed ▸ List.mem_cons_self)
        have arrived : publication ∈ ((published.drop
            (world.subscriptions client).position.cursor).take (count + 1)).map
              (Publication.mk world.process) := by
          rw [faithful]
          exact List.mem_cons_self
        obtain ⟨change, -, same⟩ := List.mem_map.mp arrived
        have earlierProcess := recorded.earlier_lt publication listed
        rw [← same] at earlierProcess
        exact absurd earlierProcess (Nat.lt_irrefl _)
  have known : (world.subscriptions client).position.cursor ≤ published.length := by
    simp only [Feed.resetRequired, Bool.or_eq_false_iff, decide_eq_false_iff_not] at kept
    rw [recorded.length]
    exact Nat.le_of_not_lt kept.1
  constructor
  · rw [silent, List.nil_append, ← List.map_take] at faithful
    have same := congrArg (List.map (·.change.cursor)) faithful
    simp only [List.map_map, Function.comp_def] at same
    have from_cursor :=
      (recorded.numbered.drop (world.subscriptions client).position.cursor).take (count + 1)
    have from_start := recorded.numbered.take (count + 1)
    unfold Numbered at from_cursor from_start
    rw [from_cursor, from_start] at same
    have lengths := congrArg List.length same
    simp only [List.length_range', List.length_take, List.length_drop] at lengths same
    by_cases none : published.length = 0
    · omega
    · obtain ⟨size, sized⟩ : ∃ size, min (count + 1) published.length = size + 1 :=
        Nat.exists_eq_add_one.mpr (by omega)
      rw [lengths, sized, List.range'_succ, List.range'_succ] at same
      have heads := (List.cons.inj same).1
      omega
  · intro publication member older
    rw [recorded.history] at member
    rcases List.mem_append.mp member with listed | current
    · by_contra after
      rw [Bool.not_eq_false] at after
      have owed : publication
          ∈ earlier.filter (·.isAfter (world.subscriptions client).position) :=
        List.mem_filter.mpr ⟨listed, after⟩
      rw [silent] at owed
      exact List.not_mem_nil owed
    · obtain ⟨change, -, same⟩ := List.mem_map.mp current
      rw [← same] at older
      exact absurd older (Nat.lt_irrefl _)

theorem FeedWorld.Sound.faithful_iff {world : FeedWorld Client} (sound : world.Sound)
    (event : FeedEvent Client)
    : Faithful world event ↔ Recoverable world event := by
  cases event with
  | publish => exact Iff.rfl
  | restart => exact Iff.rfl
  | subscribe => exact Iff.rfl
  | read client limit =>
      obtain ⟨earlier, published, recorded⟩ := sound.recorded
      have process_le := (sound.settled client).process_le
      have events := recorded.events_read (world.subscriptions client).position.cursor limit
      simp only [Faithful, world.page_resetRequired]
      by_cases kept
          : world.feed.resetRequired (world.subscriptions client).position.cursor = false
      · rw [Feed.effectiveAfter_of_kept kept] at events
        rw [page, events]
        constructor
        · intro faithful
          rcases Nat.lt_or_eq_of_le process_le with before | current
          · exact .inr (.inr (.inr (recorded.recoverable_of_faithful before kept (faithful kept))))
          · exact .inl current
        · intro recoverable _
          rw [recorded.publishedAfter_of_recoverable process_le recoverable kept, List.map_take]
      · constructor
        · intro _
          rw [Bool.not_eq_false] at kept
          simp only [Feed.resetRequired, Bool.or_eq_true, Bool.and_eq_true,
            decide_eq_true_eq] at kept
          rcases kept with beyond | dropped
          · exact .inr (.inl beyond)
          · exact .inr (.inr (.inl dropped))
        · intro _ reset
          exact absurd reset kept

-- Steps

theorem FeedWorld.sound_initial : (FeedWorld.initial : FeedWorld Client).Sound where
  recorded := ⟨[], [], rfl, by simp, .nil, rfl, List.suffix_rfl⟩
  settled _ := ⟨Nat.le_refl _, .inl rfl⟩

theorem FeedWorld.delivered_initial : (FeedWorld.initial : FeedWorld Client).Delivered :=
  fun _ => rfl

theorem Position.Le.refl (position : Position) : position.Le position :=
  .inr ⟨rfl, Nat.le_refl _⟩

theorem Position.Le.trans {left middle right : Position} (first : left.Le middle)
    (second : middle.Le right)
    : left.Le right := by
  unfold Le at *
  omega

theorem FeedWorld.Settled.mono {world next : FeedWorld Client} {subscription : Subscription}
    (settled : world.Settled subscription) (process_le : world.process ≤ next.process)
    (later
      : (⟨world.process, world.feed.latestCursor⟩ : Position).Le
          ⟨next.process, next.feed.latestCursor⟩)
    : next.Settled subscription where
  process_le := Nat.le_trans settled.process_le process_le
  reached := settled.reached.imp id (fun ⟨reached, order⟩ => ⟨reached.trans later, order⟩)

variable {world next : FeedWorld Client}

theorem FeedWorld.Recorded.settled_turn {earlier : List Publication}
    {published : List ExternalChange} {client : Client}
    (recorded : world.Recorded earlier published)
    (settled : world.Settled (world.subscriptions client)) (limit : Int)
    : world.Settled
        ((world.subscriptions client).turn world.process (world.page client limit)) := by
  have next := recorded.nextCursor_read (world.subscriptions client).position.cursor limit
  have events := recorded.events_read (world.subscriptions client).position.cursor limit
  have bounds :=
    world.feed.effectiveAfter_bounds (world.subscriptions client).position.cursor
  have size : (world.page client limit).events.length
      ≤ world.feed.latestCursor
        - world.feed.effectiveAfter (world.subscriptions client).position.cursor := by
    rw [page, events, List.length_take, List.length_drop, recorded.length]
    exact Nat.min_le_right _ _
  rw [← page] at next
  have oldest : (world.page client limit).oldestCursor = world.feed.oldestCursor := rfl
  have first := world.feed.oldestCursor_eq
  have shorter := world.feed.retained
  unfold Subscription.turn
  split
  · next reset =>
      refine ⟨Nat.le_refl _, .inr ⟨.inr ⟨rfl, ?_⟩, .inr ⟨rfl, ?_⟩⟩⟩ <;> dsimp only <;> omega
  · next kept =>
      rw [Bool.not_eq_true, world.page_resetRequired] at kept
      have effective := Feed.effectiveAfter_of_kept kept
      refine ⟨Nat.le_refl _, .inr ⟨.inr ⟨rfl, ?_⟩, ?_⟩⟩
      · dsimp only
        omega
      · have process_le := settled.process_le
        have forward : (world.subscriptions client).position.Le
            ⟨world.process, (world.page client limit).nextCursor⟩ := by
          unfold Position.Le
          dsimp only
          omega
        rcases settled.reached with same | reached
        · exact same ▸ forward
        · exact reached.2.trans forward

theorem FeedWorld.Recorded.congr {earlier : List Publication} {published : List ExternalChange}
    (recorded : world.Recorded earlier published) (process : next.process = world.process)
    (feed : next.feed = world.feed) (history : next.history = world.history)
    : next.Recorded earlier published where
  history := by rw [history, process]; exact recorded.history
  earlier_lt := by rw [process]; exact recorded.earlier_lt
  numbered := recorded.numbered
  length := by rw [feed]; exact recorded.length
  changes := by rw [feed]; exact recorded.changes

/-- A change published now comes after the position of a client exactly when it comes after its
start.
-/
theorem FeedWorld.Settled.isAfter_iff {subscription : Subscription}
    (settled : world.Settled subscription) (change : ExternalChange)
    (latest : change.cursor = world.feed.latestCursor + 1)
    : (Publication.mk world.process change).isAfter subscription.position
      = (Publication.mk world.process change).isAfter subscription.start := by
  rcases settled.reached with same | ⟨reached, order⟩
  · rw [same]
  · unfold Position.Le at reached order
    rw [Bool.eq_iff_iff]
    simp only [Publication.isAfter, Bool.or_eq_true, Bool.and_eq_true, decide_eq_true_eq]
    dsimp only at reached
    omega

theorem FeedWorld.Recorded.publishedAfter_turn {earlier : List Publication}
    {published : List ExternalChange} (recorded : world.Recorded earlier published)
    (client : Client) (limit : Int)
    : (world.page client limit).events.map (Publication.mk world.process)
        ++ world.publishedAfter ⟨world.process, (world.page client limit).nextCursor⟩
      = (published.drop
          (world.feed.effectiveAfter (world.subscriptions client).position.cursor)).map
            (Publication.mk world.process) := by
  have next := recorded.nextCursor_read (world.subscriptions client).position.cursor limit
  have events := recorded.events_read (world.subscriptions client).position.cursor limit
  rw [recorded.publishedAfter_current rfl, page, next, ← List.drop_drop, ← List.map_append]
  congr 1
  rw [events, List.length_take]
  rcases Nat.le_total (requestedLimit limit) (published.drop (world.feed.effectiveAfter
      (world.subscriptions client).position.cursor)).length with long | short
  · rw [Nat.min_eq_left long, List.take_append_drop]
  · rw [Nat.min_eq_right short, List.take_of_length_le short, List.drop_length, List.append_nil]

variable [DecidableEq Client] {alphabet : Alphabet}

theorem FeedWorld.Recorded.publish {earlier : List Publication} {published : List ExternalChange}
    {eventData : Document} {occurredAt : String}
    (recorded : world.Recorded earlier published)
    (taken : feedStep alphabet world (.publish eventData occurredAt) = some next)
    : next.Recorded earlier
        (published
          ++ [externalChange alphabet (world.feed.latestCursor + 1) eventData occurredAt]) := by
  cases taken
  constructor
  · simp [recorded.history]
  · exact recorded.earlier_lt
  · apply recorded.numbered.append
    rw [recorded.length, externalChange, Nat.add_comm]
  · simp [recorded.length]
  · rw [publishExternalChange_changes]
    exact pushBounded_suffix recorded.changes _ _

theorem FeedWorld.Recorded.restart {earlier : List Publication}
    {published : List ExternalChange} (recorded : world.Recorded earlier published)
    (taken : feedStep alphabet world .restart = some next)
    : next.Recorded world.history [] := by
  cases taken
  refine ⟨by simp, ?_, .nil, rfl, List.suffix_rfl⟩
  intro publication member
  rw [recorded.history] at member
  rcases List.mem_append.mp member with listed | current
  · exact Nat.lt_succ_of_lt (recorded.earlier_lt publication listed)
  · obtain ⟨change, -, rfl⟩ := List.mem_map.mp current
    exact Nat.lt_succ_self _

theorem forall_update {subscriptions : Client → Subscription} (holds : Subscription → Prop)
    (client : Client) {subscription : Subscription} (placed : holds subscription)
    (others : ∀ other, holds (subscriptions other))
    : ∀ other, holds (Function.update subscriptions client subscription other) :=
  (Function.forall_update_iff _ (fun _ => holds)).mpr ⟨placed, fun other _ => others other⟩

theorem FeedWorld.Sound.step (sound : world.Sound) {event : FeedEvent Client}
    (taken : feedStep alphabet world event = some next)
    : next.Sound := by
  obtain ⟨earlier, published, recorded⟩ := sound.recorded
  cases event with
  | publish eventData occurredAt =>
      refine ⟨⟨_, _, recorded.publish taken⟩, ?_⟩
      cases taken
      exact fun client =>
        (sound.settled client).mono (Nat.le_refl _) (.inr ⟨rfl, Nat.le_succ _⟩)
  | restart =>
      refine ⟨⟨_, _, recorded.restart taken⟩, ?_⟩
      cases taken
      exact fun client =>
        (sound.settled client).mono (Nat.le_succ _) (.inl (Nat.lt_succ_self _))
  | subscribe client position =>
      simp only [feedStep] at taken
      split at taken
      · next process_le =>
          cases taken
          refine ⟨⟨earlier, published, recorded.congr rfl rfl rfl⟩, ?_⟩
          have started : world.Settled ⟨position, position, []⟩ := ⟨process_le, .inl rfl⟩
          have settled := forall_update world.Settled client started sound.settled
          exact fun other => (settled other).mono (Nat.le_refl _) (.refl _)
      · cases taken
  | read client limit =>
      cases taken
      refine ⟨⟨earlier, published, recorded.congr rfl rfl rfl⟩, ?_⟩
      have settled :=
        forall_update world.Settled client
          (recorded.settled_turn (sound.settled client) limit) sound.settled
      exact fun other => (settled other).mono (Nat.le_refl _) (.refl _)

theorem FeedWorld.Delivered.step (delivered : world.Delivered) (sound : world.Sound)
    {event : FeedEvent Client} (recoverable : Recoverable world event)
    (taken : feedStep alphabet world event = some next)
    : next.Delivered := by
  obtain ⟨earlier, published, recorded⟩ := sound.recorded
  cases event with
  | publish eventData occurredAt =>
      cases taken
      intro client
      have before := delivered client
      have same := (sound.settled client).isAfter_iff
        (externalChange alphabet (world.feed.latestCursor + 1) eventData occurredAt) rfl
      simp only [Complete, publishedAfter, List.filter_append, ← List.append_assoc] at before ⊢
      rw [before, List.filter_cons, List.filter_cons, same, List.filter_nil, List.filter_nil]
  | restart =>
      cases taken
      exact delivered
  | subscribe client position =>
      simp only [feedStep] at taken
      split at taken
      · cases taken
        have started : world.Complete ⟨position, position, []⟩ := List.nil_append _
        exact forall_update world.Complete client started delivered
      · cases taken
  | read client limit =>
      cases taken
      refine forall_update world.Complete client ?_ delivered
      have page := recorded.publishedAfter_turn client limit
      unfold Subscription.turn Complete
      split
      · next reset =>
          dsimp only
          rw [page, recorded.publishedAfter_current rfl]
          rw [world.page_resetRequired] at reset
          rw [Feed.effectiveAfter, if_pos reset]
          rfl
      · next kept =>
          rw [Bool.not_eq_true, world.page_resetRequired] at kept
          have owed :=
            recorded.publishedAfter_of_recoverable (sound.settled client).process_le
              recoverable kept
          rw [Feed.effectiveAfter_of_kept kept, ← owed] at page
          dsimp only
          rw [List.append_assoc, page]
          exact delivered client

/-- In every run the pages give all clients what they are owed, without a gap that no reset
announces, exactly when no client reads with a cursor of an earlier process that the running one
takes for its own. Then each client has received everything once and in order.
-/
theorem changes_delivered_iff (events : List (FeedEvent Client)) (finish : FeedWorld Client)
    : (Run (feedStep alphabet) Faithful .initial events finish
        ↔ Run (feedStep alphabet) Recoverable .initial events finish)
      ∧ (Run (feedStep alphabet) Recoverable .initial events finish → finish.Delivered) := by
  constructor
  · apply Run.iff_of_invariant FeedWorld.Sound
    · exact fun sound => sound.faithful_iff _
    · exact fun sound _ taken => sound.step taken
    · exact FeedWorld.sound_initial
  · intro run
    have kept := run.preserves (fun world => world.Sound ∧ world.Delivered)
      (fun holds recoverable taken =>
        ⟨holds.1.step taken, holds.2.step holds.1 recoverable taken⟩)
      ⟨FeedWorld.sound_initial, FeedWorld.delivered_initial⟩
    exact kept.2

-- A change that is skipped

def plainAlphabet : Alphabet := ⟨id, Char.isAlphanum, String.toInt?, fun _ => ""⟩

/-- A client that reads one change; then the process restarts and publishes another one. -/
def restartedEvents : List (FeedEvent Unit) :=
  [ .publish ((∅ : Document).set "MessageType" (.text "LibraryChanged")) "09:00",
    .read () 10,
    .restart,
    .publish ((∅ : Document).set "MessageType" (.text "OctoHubsUsersUpdated")) "09:05" ]

/-- The client's next page is empty and asks for no reset, though a change was published. -/
theorem restart_skips_change
    : ∃ world,
        Run (feedStep plainAlphabet) (fun _ _ => True) .initial restartedEvents world
        ∧ (world.page () 10).events = []
        ∧ ¬ Faithful world (.read () 10) := by
  have reached
      : ∃ world,
          Run (feedStep plainAlphabet) (fun _ _ => True) .initial restartedEvents world
          ∧ (world.page () 10).resetRequired = false
          ∧ (world.page () 10).events = []
          ∧ (world.publishedAfter (world.subscriptions ()).position).length = 1 :=
    Run.exists_of_execute (by decide)
  obtain ⟨world, run, kept, none, owed⟩ := reached
  refine ⟨world, run, none, ?_⟩
  intro faithful
  have lengths := congrArg List.length (faithful kept)
  rw [none, List.length_take, owed] at lengths
  have limit := requestedLimit_pos 10
  simp only [List.map_nil, List.length_nil] at lengths
  omega

end Delivery

end OctoHubs.Realtime
