import OctoHubs.Library.Runs
import OctoHubs.UserSync.Checkpoints
import OctoHubs.UserSync.FavoritesDelta

/-! A favourites delta run while the users go on editing on their servers.
The run observes each participant, applies the desired keys to each of them, observes all of
them again and commits these snapshots as baselines; an edit may fall between any two steps.
-/

namespace OctoHubs.UserSync

open OctoHubs.Library

/-- A film, episode or series on a server, with the one provider key that syncs it. -/
structure MediaItem where
  id : String
  key : ItemKey
deriving DecidableEq, Repr

/-- The participants of a group and what their servers offer to them. Item ids are unique. -/
structure SyncedGroup where
  participants : List Participant
  items : Participant → List MediaItem
  unique : participants.Nodup
  distinct : ∀ participant, ((items participant).map MediaItem.id).Nodup

inductive FavoritesPhase
  | observing (remaining : List Participant)
  | applying (desired : Finset ItemKey) (remaining : List Participant) (failed : Bool)
  | looking (desired : Finset ItemKey) (target : Participant) (targetKeys : List ItemKey)
      (remaining : List Participant) (failed : Bool)
  | writing (desired : Finset ItemKey) (target : Participant)
      (writes : List (MediaItem × Bool)) (remaining : List Participant) (failed : Bool)
  | refreshing (states : List (ObservedState Participant FavoritesSnapshot))
      (remaining : List Participant)
deriving DecidableEq

/-- The run in flight: what it observed at its start, and where it is. -/
structure FavoritesRun where
  observed : List (Participant × FavoritesState)
  phase : FavoritesPhase
deriving DecidableEq

/-- The favourite items of all users, the committed baselines and the run in flight. -/
structure FavoritesWorld where
  favorites : Finset (Participant × String)
  baselines : Dict Participant FavoritesSnapshot
  run : Option FavoritesRun
deriving DecidableEq

inductive FavoritesEvent
  | edit (participant : Participant) (item : MediaItem) (favorite : Bool)
  | begin
  | advance
  | fail
  | stop
deriving DecidableEq, Repr

namespace SyncedGroup

variable (group : SyncedGroup)

def isFavorite (favorites : Finset (Participant × String)) (participant : Participant)
    (item : MediaItem)
    : Bool :=
  (participant, item.id) ∈ favorites

/-- The keys of a participant's favourites, as a snapshot or a target lookup reads them. -/
def readFavorites (favorites : Finset (Participant × String)) (participant : Participant)
    : FavoritesSnapshot :=
  sorted
    (((group.items participant).filter (isFavorite favorites participant)).map MediaItem.key)

def setFavorite (favorites : Finset (Participant × String)) (participant : Participant)
    (item : MediaItem) (favorite : Bool)
    : Finset (Participant × String) :=
  if favorite then insert (participant, item.id) favorites
  else favorites.erase (participant, item.id)

/-- The items found by the desired and the target's keys that are not as desired. -/
def pendingWrites (favorites : Finset (Participant × String)) (desired : Finset ItemKey)
    (target : Participant) (targetKeys : List ItemKey)
    : List (MediaItem × Bool) :=
  (group.items target).filterMap (fun item =>
    let shouldFavorite := decide (item.key ∈ desired)
    if (item.key ∈ desired ∨ item.key ∈ targetKeys)
        ∧ shouldFavorite ≠ isFavorite favorites target item then
      some (item, shouldFavorite)
    else none)

/-- The next step of the run, when all its remote calls succeed. -/
def advance (world : FavoritesWorld) (run : FavoritesRun) : Option FavoritesWorld :=
  match run.phase with
  | .observing (participant :: remaining) =>
      let state : FavoritesState :=
        ⟨group.readFavorites world.favorites participant, world.baselines.get? participant⟩
      some { world with
        run := some ⟨run.observed ++ [(participant, state)], .observing remaining⟩ }
  | .observing [] =>
      match runFavoritesDeltaSync (run.observed.map Prod.snd) with
      | .error _ => some { world with run := none }
      | .ok none => some { world with run := none }
      | .ok (some plan) =>
          some { world with
            run := some { run with
              phase := .applying plan.desiredKeys group.participants false } }
  | .applying desired (target :: remaining) failed =>
      let targetKeys := group.readFavorites world.favorites target
      some { world with
        run := some { run with phase := .looking desired target targetKeys remaining failed } }
  | .applying _ [] failed =>
      -- a failed write makes the run raise before any baseline is read again
      some { world with
        run :=
          if failed then none
          else some { run with phase := .refreshing [] group.participants } }
  | .looking desired target targetKeys remaining failed =>
      let writes := group.pendingWrites world.favorites desired target targetKeys
      some { world with
        run := some { run with phase := .writing desired target writes remaining failed } }
  | .writing desired target ((item, favorite) :: writes) remaining failed =>
      some { world with
        favorites := setFavorite world.favorites target item favorite
        run := some { run with phase := .writing desired target writes remaining failed } }
  | .writing desired _ [] remaining failed =>
      some { world with run := some { run with phase := .applying desired remaining failed } }
  | .refreshing states (participant :: remaining) =>
      let state :=
        observe world.baselines
          (fun target => some (group.readFavorites world.favorites target)) participant
      some { world with
        run := some { run with phase := .refreshing (states ++ [state]) remaining } }
  | .refreshing states [] =>
      match commitMany world.baselines states with
      | .error _ => some { world with run := none }
      | .ok baselines => some { world with baselines, run := none }

/-- The next remote call of the run fails: a snapshot ends the run, a target or an item is
only noted.
-/
def failNext (world : FavoritesWorld) (run : FavoritesRun) : Option FavoritesWorld :=
  match run.phase with
  | .observing (_ :: _) => some { world with run := none }
  | .applying desired (_ :: remaining) _ =>
      some { world with run := some { run with phase := .applying desired remaining true } }
  | .looking desired _ _ remaining _ =>
      some { world with run := some { run with phase := .applying desired remaining true } }
  | .writing desired target (_ :: writes) remaining _ =>
      some { world with
        run := some { run with phase := .writing desired target writes remaining true } }
  | .refreshing _ (_ :: _) => some { world with run := none }
  | _ => none

/-- One step of the world. Between two runs a new one may begin, and a run may stop anywhere,
because another domain fails or the process ends.
-/
def step (world : FavoritesWorld) : FavoritesEvent → Option FavoritesWorld
  | .edit participant item favorite =>
      if item ∈ group.items participant then
        some { world with
          favorites := setFavorite world.favorites participant item favorite }
      else none
  | .begin =>
      match world.run with
      | none => some { world with run := some ⟨[], .observing group.participants⟩ }
      | some _ => none
  | .advance => world.run.bind (group.advance world)
  | .fail => world.run.bind (failNext world)
  | .stop => world.run.map (fun _ => { world with run := none })

end SyncedGroup

end OctoHubs.UserSync
