import Mathlib.Data.List.Sort
import Mathlib.Data.String.Basic
import OctoHubs.Library.UniqueIndex

/-! The links of users to groups and their one mutation.
A mutation changes the memberships in a first flush and then repairs the leader of each
affected group; the leader index is checked at every row that a flush writes.
-/

namespace OctoHubs.UserLinks

open OctoHubs.Library

/-- The primary key of a link: server id and user id. -/
abbrev Identity := String × String

abbrev GroupId := String

structure UserLink where
  groupId : GroupId
  username : String
  isLeader : Bool
deriving DecidableEq, Repr

abbrev UserLinksTable := Dict Identity UserLink

def leaderIndex (link : UserLink) : Option GroupId :=
  if link.isLeader then some link.groupId else none

/-- Identities in the order of the primary key. -/
def identityLe (left right : Identity) : Prop :=
  left.1 < right.1 ∨ (left.1 = right.1 ∧ left.2 ≤ right.2)

instance (left right : Identity) : Decidable (identityLe left right) :=
  inferInstanceAs (Decidable (_ ∨ _))

def sortByIdentity (rows : List (Identity × UserLink)) : List (Identity × UserLink) :=
  rows.insertionSort (fun left right => identityLe left.1 right.1)

def groupMembers (rows : UserLinksTable) (group : GroupId) : List (Identity × UserLink) :=
  sortByIdentity (rows.items.filter (fun item => item.2.groupId = group))

/-- What a session holds back until its next flush. -/
structure Pending where
  updates : List (Identity × UserLink) := []
  inserts : List (Identity × UserLink) := []
  deletes : List Identity := []

/-- Write the updates by primary key, then the inserts, and then delete. There is no result
when the leader index refuses a row.
-/
def flush (rows : UserLinksTable) (pending : Pending) : Option UserLinksTable :=
  (writeAll leaderIndex rows (sortByIdentity pending.updates)).bind (fun updated =>
    (writeAll leaderIndex updated pending.inserts).map (fun inserted =>
      pending.deletes.foldl Dict.erase inserted))

structure LinkUpsert where
  serverId : String
  userId : String
  groupId : GroupId
  username : String
deriving DecidableEq, Repr

def LinkUpsert.identity (item : LinkUpsert) : Identity := (item.serverId, item.userId)

/-- The arguments of a mutation: links to write, links to remove, leaders to prefer and
groups to dissolve when one member is left. No user is written twice, which the requests
check, or both written and removed, which none of them asks for.
-/
structure LinkMutation where
  upserts : List LinkUpsert
  removals : List Identity
  preferredLeaders : Dict GroupId Identity
  dissolveSingletons : List GroupId
  distinct : (upserts.map LinkUpsert.identity).Nodup
  separate : ∀ item ∈ upserts, item.identity ∉ removals

namespace LinkMutation

variable (request : LinkMutation) (table : UserLinksTable)

def identities : List Identity := request.upserts.map LinkUpsert.identity ++ request.removals

/-- All groups that a member enters or leaves, or whose leader is chosen, in order. -/
def affectedGroups : List GroupId :=
  (request.upserts.map LinkUpsert.groupId
      ++ request.preferredLeaders.keys
      ++ request.identities.filterMap (fun identity =>
          (table.get? identity).map UserLink.groupId)).dedup.insertionSort (· ≤ ·)

/-- The groups that a member leaves. -/
def movedFromGroups : List GroupId :=
  request.upserts.filterMap (fun item =>
      ((table.get? item.identity).map UserLink.groupId).filter (· ≠ item.groupId))
    ++ request.removals.filterMap (fun identity =>
      (table.get? identity).map UserLink.groupId)

def dissolve : List GroupId := request.dissolveSingletons ++ request.movedFromGroups table

/-- The row of an upsert: a new member never leads, and a moved one stays a leader. -/
def upsertedLink (item : LinkUpsert) : UserLink :=
  match table.get? item.identity with
  | none => ⟨item.groupId, if item.username = "" then "User" else item.username, false⟩
  | some entry =>
      { entry with
        groupId := item.groupId
        username := if item.username = "" then entry.username else item.username }

/-- The membership changes of the first flush. -/
def memberships : Pending where
  updates :=
    (request.upserts.filter (fun item => (table.get? item.identity).isSome)).map
      (fun item => (item.identity, upsertedLink table item))
  inserts :=
    (request.upserts.filter (fun item => (table.get? item.identity).isNone)).map
      (fun item => (item.identity, upsertedLink table item))
  deletes := request.removals.filter (fun identity => (table.get? identity).isSome)

end LinkMutation

/-- The preferred member, or else the only leader, or else the first member. -/
def chooseLeader (preferred : Option Identity) (first : Identity × UserLink)
    (rest : List (Identity × UserLink))
    : Identity × UserLink :=
  match (first :: rest).find? (fun member => preferred = some member.1) with
  | some member => member
  | none =>
      match (first :: rest).filter (fun member => member.2.isLeader) with
      | [current] => current
      | _ => first

/-- The transaction between two groups: the flushed rows, what is pending, and the results
so far.
-/
structure Normalization where
  rows : UserLinksTable
  pending : Pending
  dissolvedGroups : List GroupId
  leaders : Dict GroupId Identity

/-- Repair one group: dissolve it, or clear all its leaders, flush, and set the chosen one.
Reading its members flushes what is pending.
-/
def normalizeGroup (preferredLeaders : Dict GroupId Identity) (dissolve : List GroupId)
    (state : Normalization) (group : GroupId)
    : Option Normalization :=
  (flush state.rows state.pending).bind (fun rows =>
    match groupMembers rows group with
    | [] =>
        some { state with
          rows
          pending := {}
          dissolvedGroups := state.dissolvedGroups ++ [group] }
    | first :: rest =>
        if rest = [] ∧ group ∈ dissolve then
          some { state with
            rows
            pending := { deletes := [first.1] }
            dissolvedGroups := state.dissolvedGroups ++ [group] }
        else
          let chosen := chooseLeader (preferredLeaders.get? group) first rest
          let cleared := (first :: rest).map (fun member =>
            (member.1, { member.2 with isLeader := false }))
          (flush rows { updates := cleared }).map (fun rows => {
            rows
            pending := { updates := [(chosen.1, { chosen.2 with isLeader := true })] }
            dissolvedGroups := state.dissolvedGroups
            leaders := state.leaders.set group chosen.1
          }))

structure LinkMutationResult where
  links : UserLinksTable
  dissolvedGroups : List GroupId
  leaders : Dict GroupId Identity

/-- A refused row ends the transaction with a rollback. -/
inductive StorageError
  | mutationFailed
deriving DecidableEq, Repr

def mutateUserLinks (table : UserLinksTable) (request : LinkMutation)
    : Except StorageError LinkMutationResult :=
  let committed := (flush table (request.memberships table)).bind (fun rows =>
    ((request.affectedGroups table).foldlM
        (normalizeGroup request.preferredLeaders (request.dissolve table))
        ⟨rows, {}, [], ∅⟩).bind (fun state =>
      (flush state.rows state.pending).map (fun links =>
        ⟨links, state.dissolvedGroups, state.leaders⟩)))
  match committed with
  | none => .error .mutationFailed
  | some result => .ok result

end OctoHubs.UserLinks
