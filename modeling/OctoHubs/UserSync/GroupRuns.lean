import Mathlib.Data.Finset.Option
import OctoHubs.UserSync.Checkpoints

/-! The sync runs of a group.
A run takes the enabled domains one after the other, sets a domain's bootstrap flag right
after its first merge, and refreshes the baselines of all domains at its end.
-/

namespace OctoHubs.UserSync

open OctoHubs.Library

inductive SnapshotDomain
  | settings
  | playstate
  | favorites
  | playlists
deriving DecidableEq, Repr

/-- The domains whose first merge only adds. -/
inductive BootstrapDomain
  | playstate
  | favorites
  | playlists
deriving DecidableEq, Repr

def BootstrapDomain.snapshots : BootstrapDomain → SnapshotDomain
  | .playstate => .playstate
  | .favorites => .favorites
  | .playlists => .playlists

inductive SyncStep
  | playstate
  | config
  | libraryAccess
  | favorites
  | playlists
deriving DecidableEq, Repr

def SyncStep.bootstrapDomain : SyncStep → Option BootstrapDomain
  | .playstate => some .playstate
  | .config => none
  | .libraryAccess => none
  | .favorites => some .favorites
  | .playlists => some .playlists

inductive SyncType
  | merge
  | oneWay
deriving DecidableEq, Repr

structure SyncOptions where
  syncType : SyncType
  syncPlaystate : Bool
  syncConfig : Bool
  syncLibraryAccess : Bool
  syncFavorites : Bool
  syncPlaylists : Bool
deriving DecidableEq, Repr

namespace SyncOptions

variable (options : SyncOptions)

def enables : SyncStep → Bool
  | .playstate => options.syncPlaystate
  | .config => options.syncConfig
  | .libraryAccess => options.syncLibraryAccess
  | .favorites => options.syncFavorites
  | .playlists => options.syncPlaylists

/-- The enabled steps in the order in which a run takes them. -/
def syncSteps : List SyncStep :=
  [.playstate, .config, .libraryAccess, .favorites, .playlists].filter options.enables

/-- The snapshot domains a run refreshes at its end. -/
def snapshotDomains : List SnapshotDomain :=
  (if options.syncConfig || options.syncLibraryAccess then [.settings] else [])
    ++ (if options.syncPlaystate then [.playstate] else [])
    ++ (if options.syncFavorites then [.favorites] else [])
    ++ (if options.syncPlaylists then [.playlists] else [])

end SyncOptions

structure GroupUser where
  serverId : String
  userId : String
  isLeader : Bool
deriving DecidableEq, Repr

def GroupUser.pair (user : GroupUser) : Participant := (user.serverId, user.userId)

abbrev StateKey := SnapshotDomain × Participant

/-- What is stored about a group: the bootstrap flags and the baselines of its users. -/
structure GroupStore (σ : Type) where
  bootstrapDone : Finset BootstrapDomain
  checkpoints : Dict StateKey σ

def GroupStore.mark {σ : Type} (store : GroupStore σ) (marked : Option BootstrapDomain)
    : GroupStore σ :=
  { store with bootstrapDone := store.bootstrapDone ∪ marked.toFinset }

/-- What the work of a domain reports; an absent text is empty. -/
structure SyncResult where
  ok : Option Bool := none
  status : String := ""
  message : String := ""
  error : String := ""
  failed : List String := []
  skipped : Bool := false
  reason : String := ""
  bootstrap : String := ""
deriving DecidableEq, Repr

def orElse (text default : String) : String := if text = "" then default else text

def validateSyncResult (result : SyncResult) : Except String SyncResult :=
  if result.error ≠ "" then .error result.error
  else if result.ok = some false then
    .error (orElse result.message "Sincronizzazione non riuscita")
  else if result.status.toLower ∈ ["error", "failed", "partial"] then
    .error (orElse result.message result.status)
  else if result.failed ≠ [] then
    .error ("Scritture non riuscite: " ++ String.intercalate ", " result.failed)
  else if result.skipped then .error (orElse result.reason "Sincronizzazione saltata")
  else .ok result

inductive WorkMode
  | bootstrap
  | delta
  | latestWins
  | exact
deriving DecidableEq, Repr

/-- One run as its surroundings answer it: the result of each step's work, whether a flag
could be written (not when the group has no links), the snapshots that can be read at the
end and whether the storage takes the checkpoint.
-/
structure GroupRun (σ : Type) where
  options : SyncOptions
  work : SyncStep → WorkMode → Except String SyncResult
  markGroupBootstrapDone : BootstrapDomain → Except String Bool
  read : StateKey → Option σ
  storageUp : Bool

namespace GroupRun

variable {σ : Type} (run : GroupRun σ)

def workMode (done : Finset BootstrapDomain) (step : SyncStep) : WorkMode :=
  match run.options.syncType, step.bootstrapDomain with
  | .oneWay, _ => .exact
  | .merge, none => .latestWins
  | .merge, some domain => if domain ∈ done then .delta else .bootstrap

/-- The validated result of a step; a bootstrap says that it only added. -/
def runSyncStep (done : Finset BootstrapDomain) (step : SyncStep) : Except String SyncResult :=
  (run.work step (run.workMode done step)).bind (fun result =>
    validateSyncResult
      (if run.workMode done step = .bootstrap then { result with bootstrap := "additive" }
      else result))

/-- A step of a run: its failure, or the domain whose flag it set. -/
def syncStep (done : Finset BootstrapDomain) (step : SyncStep)
    : Except String (Option BootstrapDomain) :=
  (run.runSyncStep done step).bind (fun result =>
    match run.options.syncType, step.bootstrapDomain with
    | .merge, some domain =>
        if domain ∉ done ∧ result.bootstrap = "additive"
            ∧ (domain = .playstate ∨ (result.failed = [] ∧ result.error = "")) then
          (run.markGroupBootstrapDone domain).map
            (fun marked => if marked then some domain else none)
        else .ok none
    | _, _ => .ok none)

/-- The steps in order, up to the first failure. -/
def syncAll (done : Finset BootstrapDomain)
    : List SyncStep → GroupStore σ → GroupStore σ × Except String Unit
  | [], store => (store, .ok ())
  | step :: rest, store =>
      match run.syncStep done step with
      | .error failure => (store, .error failure)
      | .ok marked => syncAll done rest (store.mark marked)

def observeDomain (targets : List Participant) (store : Dict StateKey σ)
    (states : List (ObservedState StateKey σ)) (domain : SnapshotDomain)
    : Except (SyncStepError StateKey) (List (ObservedState StateKey σ)) :=
  (requireCompleteSnapshots
    (targets.map (fun target => observe store run.read (domain, target)))
    targets.length).map (states ++ ·)

variable [DecidableEq σ]

/-- Observe all targets in each of the domains, and commit all of them at once. -/
def refreshSyncStates (targets : List Participant) (store : Dict StateKey σ)
    : Except String (Dict StateKey σ) :=
  match run.options.snapshotDomains.foldlM (run.observeDomain targets.eraseDups store) [] with
  | .error error => .error (error.message Prod.snd)
  | .ok states =>
      if run.storageUp then (commitMany store states).mapError (·.message Prod.snd)
      else .error "Errore storage"

end GroupRun

inductive SyncStatus
  | skipped
  | success
  | error
deriving DecidableEq, Repr

structure SyncOutcome where
  status : SyncStatus
  message : String
deriving DecidableEq, Repr

def syncFailureMessage : String :=
  "Sincronizzazione non completata. Verifica i log dell'applicazione."

section Group

variable {σ : Type} [DecidableEq σ]

def leaders (users : List GroupUser) : List GroupUser := users.filter GroupUser.isLeader

local instance pairs_lawful : LawfulBEq (String × String) := inferInstance

/-- The steps a run takes: all enabled ones, except when a one-way run has no target. -/
def stepsTaken (users : List GroupUser) (options : SyncOptions) : List SyncStep :=
  let destinations := (users.map GroupUser.pair).filter (· ∉ (leaders users).map GroupUser.pair)
  if options.syncType = .oneWay ∧ destinations = [] then [] else options.syncSteps

def skipReason (users : List GroupUser) (options : SyncOptions) : Option String :=
  if users.length < 2 then some "Meno di 2 utenti nel gruppo"
  else if options.syncSteps = [] then some "Nessun dominio selezionato"
  else if (leaders users).length ≠ 1 then
    some ("Leader non valido: trovati " ++ toString (leaders users).length ++ " leader")
  else none

def stepLabel : SyncStep → String
  | .playstate => "visti"
  | .config => "impostazioni"
  | .libraryAccess => "librerie"
  | .favorites => "preferiti"
  | .playlists => "playlist"

def syncGroup (users : List GroupUser) (run : GroupRun σ) (store : GroupStore σ)
    : GroupStore σ × SyncOutcome :=
  match skipReason users run.options with
  | some message => (store, ⟨.skipped, message⟩)
  | none =>
      match run.syncAll store.bootstrapDone (stepsTaken users run.options) store with
      | (marked, .error _) => (marked, ⟨.error, syncFailureMessage⟩)
      | (marked, .ok ()) =>
          match run.refreshSyncStates (users.map GroupUser.pair) marked.checkpoints with
          | .error _ => (marked, ⟨.error, syncFailureMessage⟩)
          | .ok checkpoints =>
              ({ marked with checkpoints },
                ⟨.success, "Sincronizzati: "
                  ++ String.intercalate ", " (run.options.syncSteps.map stepLabel)⟩)

/-- A group's store after the runs in order, from no flag set. -/
def storeAfter (users : List GroupUser) (checkpoints : Dict StateKey σ)
    (runs : List (GroupRun σ))
    : GroupStore σ :=
  runs.foldl (fun store run => (syncGroup users run store).1) ⟨∅, checkpoints⟩

end Group

end OctoHubs.UserSync
