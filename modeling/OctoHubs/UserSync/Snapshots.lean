import Mathlib.Data.List.Dedup
import Mathlib.Data.List.Sort
import Mathlib.Data.String.Basic
import OctoHubs.Library.Merging

/-! Snapshots of a user's favourites, playback state and playlists, and their differences.
A participant of a sync is observed as its current snapshot with the committed baseline.
-/

namespace OctoHubs.UserSync

open OctoHubs.Library

/-- A provider key of an item, such as `imdb:tt0111161`. -/
abbrev ItemKey := String

abbrev PlaylistName := String

structure PlayState where
  played : Bool
  lastPlayed : Option String
  position : Int
  hideFromResume : Option Bool
deriving DecidableEq, Repr

structure Playlist where
  name : String
  items : List ItemKey
deriving DecidableEq, Repr

abbrev FavoritesSnapshot := List ItemKey
abbrev PlaystateSnapshot := Dict ItemKey PlayState
abbrev PlaylistsSnapshot := Dict PlaylistName Playlist

/-- A participant's current snapshot and its committed baseline. Without a baseline the
difference is initial.
-/
structure Observation (σ : Type) where
  snapshot : σ
  previousSnapshot : Option σ
deriving DecidableEq

/-- The stored hash differs; the hash of a snapshot is taken to be injective. -/
def Observation.changed {σ : Type} [DecidableEq σ] (state : Observation σ) : Bool :=
  state.previousSnapshot ≠ some state.snapshot

namespace Observation

variable {κ ν : Type} [DecidableEq κ] (state : Observation (Dict κ ν))

/-- The baseline as a mapping, empty when there is none. -/
def baseline : Dict κ ν := state.previousSnapshot.getD ∅

/-- What the participant changed at a key since its baseline. -/
def change [DecidableEq ν] (key : κ) : Option (Change ν) :=
  Change.between (state.baseline.get? key) (state.snapshot.get? key)

end Observation

/-- The distinct keys in ascending order. -/
def sorted (keys : List String) : List String :=
  keys.dedup.insertionSort (· ≤ ·)

@[simp] theorem mem_sorted {key : String} {keys : List String}
    : key ∈ sorted keys ↔ key ∈ keys := by
  simp [sorted]

structure SetDiff where
  added : List ItemKey
  removed : List ItemKey
deriving DecidableEq, Repr

def diffSets (previous current : List ItemKey) : SetDiff where
  added := sorted (current.filter (· ∉ previous))
  removed := sorted (previous.filter (· ∉ current))

@[simp] theorem mem_diffSets_added {previous current : List ItemKey} {key : ItemKey}
    : key ∈ (diffSets previous current).added ↔ key ∈ current ∧ key ∉ previous := by
  simp [diffSets]

@[simp] theorem mem_diffSets_removed {previous current : List ItemKey} {key : ItemKey}
    : key ∈ (diffSets previous current).removed ↔ key ∈ previous ∧ key ∉ current := by
  simp [diffSets]

structure MappingDiff where
  added : List ItemKey
  removed : List ItemKey
  changed : List ItemKey
deriving DecidableEq, Repr

def diffMapping (previous current : PlaystateSnapshot) : MappingDiff where
  added := sorted (current.keys.filter (· ∉ previous.keys))
  removed := sorted (previous.keys.filter (· ∉ current.keys))
  changed :=
    sorted
      (previous.keys.filter
        (fun key => key ∈ current.keys ∧ previous.get? key ≠ current.get? key))

structure PlaylistItemsDiff where
  added : List ItemKey
  removed : List ItemKey
  orderChanged : Bool
deriving DecidableEq, Repr

structure PlaylistsDiff where
  added : List PlaylistName
  removed : List PlaylistName
  changed : List (PlaylistName × PlaylistItemsDiff)
deriving DecidableEq, Repr

/-- The items of a playlist, none when it does not exist. -/
def itemsOf (playlists : PlaylistsSnapshot) (name : PlaylistName) : List ItemKey :=
  ((playlists.get? name).map Playlist.items).getD []

def diffPlaylistItems (old new : List ItemKey) : PlaylistItemsDiff where
  added := (diffSets old new).added
  removed := (diffSets old new).removed
  orderChanged := old ≠ new && (old.all (· ∈ new) && new.all (· ∈ old))

def diffPlaylists (previous current : PlaylistsSnapshot) : PlaylistsDiff where
  added := sorted (current.keys.filter (· ∉ previous.keys))
  removed := sorted (previous.keys.filter (· ∉ current.keys))
  changed :=
    (sorted (previous.keys.filter (· ∈ current.keys))).filterMap (fun name =>
      let itemsDiff := diffPlaylistItems (itemsOf previous name) (itemsOf current name)
      if itemsDiff.added ≠ [] ∨ itemsDiff.removed ≠ [] ∨ itemsDiff.orderChanged = true then
        some (name, itemsDiff)
      else none)

end OctoHubs.UserSync
