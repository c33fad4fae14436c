import OctoHubs.Streams.StreamsManager

/-! What a refresh leaves of the marks and the changes that came while it fetched. A server is due
for the next fetch exactly when the last that happened to it is a mark or a clearing.
-/

namespace OctoHubs.Streams

open OctoHubs.Library

/-- After this the cache of the server is up to date. -/
def Happening.fresh : Happening → Bool
  | .changed _ => true
  | .refreshed => true
  | _ => false

/-- The session is among those that were changed, or the whole server was cleared. -/
def Happening.Concerns (happening : Happening) (id : Json) : Prop :=
  match happening with
  | .changed ids => id ∈ ids
  | .cleared => True
  | _ => False

namespace EmbyStreamsManager

/-- Any refresh fetches, however old it lets the cache be. -/
def Due (manager : EmbyStreamsManager) (serverId : String) : Prop :=
  ∀ maxAgeSeconds now, manager.isStale serverId maxAgeSeconds now = true

end EmbyStreamsManager

namespace RefreshEnd

/-- A mark that came while the refresh fetched leaves the server due, and the sessions that changed
while it fetched are as they were before its end.
-/
structure Keeps (ended : RefreshEnd) : Prop where
  marked : .marked ∈ ended.since → ended.after.Due ended.serverId
  changed
    : ∀ id,
        (∃ happening ∈ ended.since, happening.Concerns id)
        → EmbyStreamsManager.sessions (ended.after.getStreams ended.serverId) id
          = EmbyStreamsManager.sessions (ended.before.getStreams ended.serverId) id

/-- A refresh during which its server was marked writes nothing, and nothing has made the server up
to date since the last mark; fetched streams tell of a session that changed what the cache does.
-/
structure Unharmful (ended : RefreshEnd) : Prop where
  marked
    : .marked ∈ ended.since
      → ended.written.isNone = true ∧ ended.since.getLast?.any Happening.fresh = false
  changed
    : ∀ streams,
        ended.written = some (.streams streams)
        → ∀ id,
            (∃ happening ∈ ended.since, happening.Concerns id)
            → EmbyStreamsManager.sessions streams id
              = EmbyStreamsManager.sessions (ended.before.getStreams ended.serverId) id

end RefreshEnd

section Sessions

theorem erase_set (fields : Document) (key : String) (value : Json)
    : (fields.set key value).erase key = fields.erase key := by
  have items (entries : List (String × Json))
      : (writeItems key value entries).filter (fun item => item.1 ≠ key)
        = entries.filter (fun item => item.1 ≠ key) := by
    induction entries with
    | nil => simp [writeItems]
    | cons entry rest ih =>
        by_cases same : entry.1 = key
        · simp [writeItems, same]
        · simp only [writeItems, if_neg same, List.filter_cons, ih]
  simp only [Dict.erase, Dict.set, Dict.mk.injEq]
  exact items fields.items

variable (isoformat : Timestamp → String)

theorem sessions_stamp (streams : List Document) (now : Timestamp) (id : Json)
    : EmbyStreamsManager.sessions (streams.map (EmbyStreamsManager.stamp isoformat now)) id
      = EmbyStreamsManager.sessions streams id := by
  have sameId (stream : Document)
      : hasId id (EmbyStreamsManager.stamp isoformat now stream) = hasId id stream := by
    unfold hasId sessionId EmbyStreamsManager.stamp
    rw [Dict.get?_set_ne _ _ (by decide), Dict.get?_set_ne _ _ (by decide)]
  unfold EmbyStreamsManager.sessions
  induction streams with
  | nil => rfl
  | cons stream rest ih =>
      rw [List.map_cons, List.filter_cons, List.filter_cons, sameId]
      split
      · rw [List.map_cons, List.map_cons, ih, EmbyStreamsManager.stamp, erase_set]
      · exact ih

end Sessions

namespace EmbyStreamsManager

variable (isoformat : Timestamp → String) {manager next : EmbyStreamsManager}
  {serverId other : String}

theorem due_iff
    : manager.Due serverId
      ↔ (manager.staleServers.get? serverId).isSome = true
        ∨ manager.lastRefreshAttempts.get? serverId = none := by
  unfold Due isStale
  constructor
  · intro due
    by_contra neither
    rw [not_or, Bool.not_eq_true] at neither
    rcases Option.ne_none_iff_exists'.mp neither.2 with ⟨lastAttempt, attempted⟩
    have fresh := due 0 lastAttempt
    rw [neither.1, attempted] at fresh
    simp at fresh
  · rintro (marked | unknown) maxAgeSeconds now
    · rw [if_pos marked]
    · split
      · rfl
      · rw [unknown]

theorem due_congr
    (stale : next.staleServers.get? serverId = manager.staleServers.get? serverId)
    (attempts
      : next.lastRefreshAttempts.get? serverId = manager.lastRefreshAttempts.get? serverId)
    : next.Due serverId ↔ manager.Due serverId := by
  rw [due_iff, due_iff, stale, attempts]

/-- An operation that says of its server whether it is due, and nothing of the others. -/
structure Settles (manager next : EmbyStreamsManager) (serverId : String) (fresh : Bool) : Prop where
  own : next.Due serverId ↔ fresh = false
  others : ∀ other, other ≠ serverId → (next.Due other ↔ manager.Due other)

theorem settles_touch {streams : Dict String (List Document)} (now : Timestamp)
    : Settles manager (({ manager with streams } : EmbyStreamsManager).touch serverId now) serverId
        true := by
  refine ⟨?_, fun other ne => due_congr ?_ ?_⟩
  · rw [due_iff]
    simp [touch]
  · simp [touch, ne]
  · simp [touch, ne]

theorem settles_addStream {sessionData : Document} (now : Timestamp)
    (named : (sessionId sessionData).truthy = true)
    : Settles manager (manager.addStream isoformat serverId sessionData now) serverId true := by
  unfold addStream
  simp only [named, Bool.not_true, Bool.false_eq_true, if_false]
  exact settles_touch now

theorem settles_removeStream {id : Json} (now : Timestamp)
    (known : (manager.streams.get? serverId).isSome = true)
    : Settles manager (manager.removeStream serverId id now) serverId true := by
  rcases Option.isSome_iff_exists.mp known with ⟨streams, here⟩
  unfold removeStream
  rw [here]
  exact settles_touch now

theorem settles_updateStream {id : Json} {data updated : Document} {streams : List Document}
    (now : Timestamp)
    (found : manager.updated? isoformat serverId id data now = some (streams, updated))
    : Settles manager (manager.updateStream isoformat serverId id data now) serverId true := by
  unfold updateStream
  rw [found]
  exact settles_touch now

theorem settles_clearServer : Settles manager (manager.clearServer serverId) serverId false := by
  refine ⟨?_, fun other ne => due_congr ?_ ?_⟩
  · rw [due_iff]
    simp [clearServer]
  · simp [clearServer, ne]
  · simp [clearServer, ne]

theorem settles_markStale {reason : String} (now : Timestamp) (named : serverId ≠ "")
    : Settles manager (manager.markStale isoformat serverId reason now) serverId false := by
  unfold markStale
  rw [if_neg named]
  refine ⟨?_, fun other ne => due_congr ?_ rfl⟩
  · rw [due_iff]
    simp
  · simp [ne]

theorem settles_recordRefreshError {message : String} (now : Timestamp)
    : Settles manager (manager.recordRefreshError serverId message now) serverId true := by
  refine ⟨?_, fun other ne => due_congr ?_ ?_⟩
  · rw [due_iff]
    simp [recordRefreshError]
  · simp [recordRefreshError, ne]
  · simp [recordRefreshError, ne]

theorem settles_refreshFromApi {streams : List Document} (now : Timestamp)
    : Settles manager (manager.refreshFromApi isoformat serverId streams now) serverId true :=
  settles_touch now

end EmbyStreamsManager

namespace StreamsWorld

open EmbyStreamsManager

/-- A server is due exactly when nothing has made it up to date since it was marked or cleared, and
each refresh has kept what is newer exactly when it did no harm.
-/
structure Sound (world : StreamsWorld) : Prop where
  due
    : ∀ serverId,
        world.manager.Due serverId
        ↔ (world.happenings 0 serverId).getLast?.any Happening.fresh = false
  ended : ∀ ended ∈ world.ended, ended.Keeps ↔ ended.Unharmful

theorem sound_initial : initial.Sound := by
  refine ⟨fun serverId => ?_, fun ended member => ?_⟩
  · rw [due_iff]
    exact iff_of_true (.inr rfl) rfl
  · cases member

variable {world next : StreamsWorld} {serverId : String} {manager : EmbyStreamsManager}
  {happening : Happening}

theorem Sound.happen (sound : world.Sound)
    (settles : Settles world.manager manager serverId happening.fresh)
    : (world.happen serverId manager happening).Sound := by
  refine ⟨fun other => ?_, sound.ended⟩
  have before := sound.due other
  unfold happenings at before ⊢
  rw [List.drop_zero] at before ⊢
  unfold StreamsWorld.happen
  dsimp only
  by_cases same : other = serverId
  · subst same
    rw [dataOf_concat_self, List.getLast?_concat]
    exact settles.own
  · rw [dataOf_concat_ne (Ne.symm same), settles.others other same]
    exact before

theorem Sound.keep (sound : world.Sound)
    (stale : next.manager.staleServers = world.manager.staleServers)
    (attempts : next.manager.lastRefreshAttempts = world.manager.lastRefreshAttempts)
    (log : next.log = world.log)
    (ended : ∀ ended ∈ next.ended, ended ∈ world.ended ∨ (ended.Keeps ↔ ended.Unharmful))
    : next.Sound := by
  refine ⟨fun serverId => ?_, fun refresh member => ?_⟩
  · unfold happenings
    rw [due_congr (congrArg (·.get? serverId) stale) (congrArg (·.get? serverId) attempts), log]
    exact sound.due serverId
  · rcases ended refresh member with before | same
    · exact sound.ended refresh before
    · exact same

theorem Sound.unwritten (sound : world.Sound) (serverId : String) (started : Nat)
    : let ended : RefreshEnd :=
        ⟨serverId, world.happenings started serverId, none, world.manager, world.manager⟩
      ended.Keeps ↔ ended.Unharmful := by
  have last (marked : .marked ∈ world.happenings started serverId)
      : (world.happenings 0 serverId).getLast?
        = (world.happenings started serverId).getLast? := by
    unfold happenings at marked ⊢
    have whole : dataOf serverId world.log
        = dataOf serverId (world.log.take started) ++ dataOf serverId (world.log.drop started) := by
      rw [← dataOf_append, List.take_append_drop]
    rw [List.drop_zero, whole, List.getLast?_append_of_ne_nil _ (List.ne_nil_of_mem marked)]
  constructor
  · rintro ⟨marked, -⟩
    refine ⟨fun came => ⟨rfl, ?_⟩, fun streams written => ?_⟩
    · have due := (sound.due serverId).mp (marked came)
      rw [last came] at due
      exact due
    · cases written
  · rintro ⟨marked, -⟩
    refine ⟨fun came => ?_, fun id _ => rfl⟩
    refine (sound.due serverId).mpr ?_
    rw [last came]
    exact (marked came).2

/-- What a refresh makes of the cache when it writes its answer. -/
def write (isoformat : Timestamp → String) (manager : EmbyStreamsManager) (serverId : String)
    (now : Timestamp) : FetchAnswer → EmbyStreamsManager
  | .streams streams => manager.refreshFromApi isoformat serverId streams now
  | .error message => manager.recordRefreshError serverId message now

variable {isoformat : Timestamp → String}

theorem settles_write (answer : FetchAnswer) (now : Timestamp)
    : Settles manager (write isoformat manager serverId now answer) serverId true := by
  cases answer with
  | streams streams => exact settles_refreshFromApi isoformat now
  | error message => exact settles_recordRefreshError now

/-- A refresh that writes takes every mark away, and puts the fetched streams in place of the cached
ones.
-/
theorem written_iff (since : List Happening) (answer : FetchAnswer) (now : Timestamp)
    : let ended : RefreshEnd :=
        ⟨serverId, since, some answer, manager, write isoformat manager serverId now answer⟩
      ended.Keeps ↔ ended.Unharmful := by
  have fresh : ¬ (write isoformat manager serverId now answer).Due serverId := by
    intro due
    cases (settles_write answer now).own.mp due
  constructor
  · rintro ⟨marked, changed⟩
    refine ⟨fun came => absurd (marked came) fresh, fun streams written id concerned => ?_⟩
    cases written
    have same := changed id concerned
    unfold write refreshFromApi touch at same
    simp only [getStreams, Dict.get?_set_self, Option.getD_some] at same
    rw [sessions_stamp] at same
    exact same
  · rintro ⟨marked, changed⟩
    refine ⟨fun came => ?_, fun id concerned => ?_⟩
    · cases (marked came).1
    · cases answer with
      | error message => rfl
      | streams streams =>
          unfold write refreshFromApi touch
          simp only [getStreams, Dict.get?_set_self, Option.getD_some]
          rw [sessions_stamp]
          exact changed streams rfl id concerned

theorem Sound.finish (sound : world.Sound) {caller : Nat} {refresh : StreamsRefresh}
    {lock started : Nat}
    : (world.finish caller refresh lock started none world.manager).Sound := by
  refine sound.keep rfl rfl rfl (fun ended member => ?_)
  rcases List.mem_append.mp member with before | added
  · exact .inl before
  · rw [List.mem_singleton.mp added]
    exact .inr (sound.unwritten refresh.serverId started)

theorem Sound.setPhase (sound : world.Sound) {caller : Nat} {refresh : StreamsRefresh}
    (phase : RefreshPhase)
    : (world.setPhase caller refresh phase).Sound :=
  sound.keep rfl rfl rfl (fun _ => .inl)

theorem Sound.refreshes (sound : world.Sound) {event : StreamsEvent}
    (taken : streamsStep isoformat world event = some next)
    (ofRefresh
      : match event with
        | .getsLock _ | .acquires _ | .looks _ _ | .answers _ _ | .raises _ | .checks _ _
        | .writes _ _ | .returns _ => True
        | _ => False)
    : next.Sound := by
  cases event with
  | getsLock caller =>
      rcases Option.bind_eq_some_iff.mp taken with ⟨refresh, found, stepped⟩
      split at stepped
      · split at stepped
        · cases stepped
          exact sound.setPhase _
        · cases stepped
          exact sound.keep rfl rfl rfl (fun _ => .inl)
      · cases stepped
  | acquires caller =>
      rcases Option.bind_eq_some_iff.mp taken with ⟨refresh, found, stepped⟩
      split at stepped
      · split at stepped
        · cases stepped
        · cases stepped
          exact sound.keep rfl rfl rfl (fun _ => .inl)
      · cases stepped
  | looks caller now =>
      rcases Option.bind_eq_some_iff.mp taken with ⟨refresh, found, stepped⟩
      split at stepped
      · split at stepped <;> cases stepped <;> exact sound.setPhase _
      · cases stepped
  | answers caller answer =>
      rcases Option.bind_eq_some_iff.mp taken with ⟨refresh, found, stepped⟩
      split at stepped
      · cases stepped
        exact sound.setPhase _
      · cases stepped
  | raises caller =>
      rcases Option.bind_eq_some_iff.mp taken with ⟨refresh, found, stepped⟩
      split at stepped
      · cases stepped
        exact sound.finish
      · cases stepped
  | checks caller isCurrent =>
      rcases Option.bind_eq_some_iff.mp taken with ⟨refresh, found, stepped⟩
      split at stepped
      · split at stepped
        · cases stepped
          exact sound.setPhase _
        · cases stepped
          exact sound.finish
      · cases stepped
  | writes caller now =>
      rcases Option.bind_eq_some_iff.mp taken with ⟨refresh, found, stepped⟩
      split at stepped
      · next lock started answer phase =>
          cases stepped
          have wrote :=
            @Sound.happen world refresh.serverId _ .refreshed sound
              (@settles_write refresh.serverId world.manager isoformat answer now)
          refine wrote.keep ?_ ?_ rfl (fun ended member => ?_)
          · cases answer <;> rfl
          · cases answer <;> rfl
          · rcases List.mem_append.mp member with before | added
            · exact .inl before
            · rw [List.mem_singleton.mp added]
              refine .inr ?_
              cases answer with
              | streams streams => exact written_iff _ (.streams streams) now
              | error message => exact @written_iff _ _ isoformat _ (.error message) now
      · cases stepped
  | returns caller =>
      rcases Option.bind_eq_some_iff.mp taken with ⟨refresh, found, stepped⟩
      split at stepped
      · cases stepped
        exact sound.keep rfl rfl rfl (fun _ => .inl)
      · cases stepped
  | _ => cases ofRefresh

theorem Sound.step (sound : world.Sound) {event : StreamsEvent}
    (taken : streamsStep isoformat world event = some next)
    : next.Sound := by
  cases event with
  | addStream serverId sessionData now =>
      dsimp only [streamsStep] at taken
      split at taken
      · next named =>
          cases taken
          exact sound.happen (settles_addStream isoformat now named)
      · next unnamed =>
          cases taken
          refine sound.keep ?_ ?_ rfl (fun _ => .inl)
          all_goals
            unfold addStream
            rw [Bool.not_eq_true] at unnamed
            simp [unnamed]
  | removeStream serverId id now =>
      dsimp only [streamsStep] at taken
      split at taken
      · next known =>
          cases taken
          exact sound.happen (settles_removeStream now known)
      · next unknown =>
          cases taken
          refine sound.keep ?_ ?_ rfl (fun _ => .inl)
          all_goals
            unfold removeStream
            rw [Option.not_isSome_iff_eq_none.mp unknown]
  | updateStream serverId id data now =>
      dsimp only [streamsStep] at taken
      split at taken
      · next found =>
          cases taken
          exact sound.happen (settles_updateStream isoformat now found)
      · next missing =>
          cases taken
          refine sound.keep ?_ ?_ rfl (fun _ => .inl)
          all_goals
            unfold updateStream
            rw [missing]
  | clearServer serverId =>
      cases taken
      exact sound.happen settles_clearServer
  | markStale serverId reason now =>
      dsimp only [streamsStep] at taken
      split at taken
      · next unnamed =>
          cases taken
          refine sound.keep ?_ ?_ rfl (fun _ => .inl)
          all_goals
            unfold markStale
            rw [if_pos unnamed]
      · next named =>
          cases taken
          exact sound.happen (settles_markStale isoformat now named)
  | begins caller serverId maxAgeSeconds force now =>
      dsimp only [streamsStep] at taken
      split at taken
      · cases taken
      · split at taken
        · cases taken
          exact sound
        · split at taken
          · cases taken
            exact sound
          · cases taken
            exact sound.keep rfl rfl rfl (fun _ => .inl)
  | _ => exact sound.refreshes taken trivial

end StreamsWorld

section Runs

variable {isoformat : Timestamp → String} {admits : StreamsWorld → StreamsEvent → Prop}
  {events : List StreamsEvent} {world : StreamsWorld}

/-- In every run, a refresh that has ended has left the marks and the changes since its fetch started
exactly when it wrote nothing over them.
-/
theorem refresh_keeps_newer_iff
    (run : Run (streamsStep isoformat) admits .initial events world)
    : ∀ ended ∈ world.ended, ended.Keeps ↔ ended.Unharmful :=
  (run.preserves StreamsWorld.Sound (fun sound _ taken => sound.step taken)
    StreamsWorld.sound_initial).ended

def session (name : String) : Document := (∅ : Document).set "session_id" (.text name)

/-- A session starts and the server is marked while a refresh fetches. -/
def fetchOvertaken (answer : FetchAnswer) (isCurrent : Bool) : List StreamsEvent :=
  [.begins 0 "green" 5 false 0, .getsLock 0, .acquires 0, .looks 0 0, .clearServer "green",
    .addStream "green" (session "new") second, .markStale "green" "playback" second,
    .answers 0 answer, .checks 0 isCurrent]

/-- A refresh of a lifespan that is over leaves the new session and the mark alone. -/
theorem retired_refresh_keeps_newer
    : ∃ world : StreamsWorld,
        world.manager.Due "green"
        ∧ EmbyStreamsManager.sessions (world.manager.getStreams "green") (.text "new")
          = [session "new"]
        ∧ ∃ ended ∈ world.ended, ended.Keeps := by
  have reached
      : ∃ world : StreamsWorld,
          Run (streamsStep (fun _ => "")) (fun _ _ => True) .initial
            (fetchOvertaken (.streams [session "old"]) false) world
          ∧ world.manager.Due "green"
          ∧ EmbyStreamsManager.sessions (world.manager.getStreams "green") (.text "new")
            = [session "new"]
          ∧ ∃ ended ∈ world.ended, ended.Unharmful := by
    refine ⟨_, .cons trivial rfl (.cons trivial rfl (.cons trivial rfl (.cons trivial rfl
      (.cons trivial rfl (.cons trivial rfl (.cons trivial rfl (.cons trivial rfl
        (.cons trivial rfl (.nil _))))))))), fun _ _ => rfl, rfl, _, .head _,
      fun _ => ⟨rfl, rfl⟩, fun streams written => ?_⟩
    cases written
  rcases reached with ⟨world, run, due, shown, ended, member, unharmful⟩
  exact ⟨world, due, shown, ended, member, (refresh_keeps_newer_iff run ended member).mpr unharmful⟩

/-- The answer of a fetch that was overtaken replaces the new session and takes the mark away. -/
theorem overtaken_fetch_hides_newer
    : ∃ world : StreamsWorld,
        Run (streamsStep (fun _ => "")) (fun _ _ => True) .initial
          (fetchOvertaken (.streams [session "old"]) true ++ [.writes 0 (2 * second)]) world
        ∧ world.manager.isStale "green" 5 (2 * second) = false
        ∧ EmbyStreamsManager.sessions (world.manager.getStreams "green") (.text "new") = []
        ∧ EmbyStreamsManager.sessions (world.manager.getStreams "green") (.text "old")
          = [session "old"]
        ∧ ∃ ended ∈ world.ended, ¬ ended.Keeps := by
  refine ⟨_, .cons trivial rfl (.cons trivial rfl (.cons trivial rfl (.cons trivial rfl
    (.cons trivial rfl (.cons trivial rfl (.cons trivial rfl (.cons trivial rfl
      (.cons trivial rfl (.cons trivial rfl (.nil _)))))))))), rfl, rfl, rfl, _,
    .head _, fun keeps => ?_⟩
  have due := keeps.marked (List.mem_cons_of_mem _ (List.mem_cons_of_mem _ List.mem_cons_self)) 5
    (2 * second)
  cases due

end Runs

end OctoHubs.Streams
