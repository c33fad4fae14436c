import OctoHubs.UserLinks.Mutation

/-! The links of users with the records kept for their groups, and the three transactions
that take members out of groups: the mutation of links, the cleanup after a deleted user and
the removal of a server.
-/

namespace OctoHubs.UserLinks

open OctoHubs.Library

/-- The tables of links, group passwords, icon bindings by target type and id, and the
key-value entries with their JSON texts.
-/
structure LinkStore where
  links : UserLinksTable
  groupPasswords : Dict GroupId String
  iconBindings : Dict (String × String) String
  keyValues : Dict String String

/-- How the database matches texts, which depends on its dialect. -/
structure TextMatching where
  like : String → String → Bool
  startsWith : String → String → Bool

/-- The key-value entries of a group: its name and its settings. -/
def groupMetadataKeys (group : GroupId) : List String :=
  ["group_name", "group_settings", "emby_group_settings"].map (fun kind => s!"{kind}:{group}")

namespace LinkStore

variable (store : LinkStore)

/-- The group has no password, no icon and no name or settings. -/
def Forgotten (group : GroupId) : Prop :=
  store.groupPasswords.get? group = none
  ∧ store.iconBindings.get? ("group", group) = none
  ∧ ∀ key ∈ groupMetadataKeys group, store.keyValues.get? key = none

/-- Every written member has its texts; they arrive here without surrounding blanks. -/
def bounded (request : LinkMutation) : Bool :=
  request.upserts.all (fun item =>
    item.serverId ≠ "" && item.userId ≠ "" && item.groupId ≠ "")

def mutateUserLinks (request : LinkMutation) (groupPasswords : Dict GroupId String)
    : Option LinkStore :=
  if bounded request && groupPasswords.keys.all (· ≠ "") then
    match UserLinks.mutateUserLinks store.links request with
    | .error _ => none
    | .ok result =>
        let dissolved := result.dissolvedGroups
        some {
          links := result.links
          groupPasswords :=
            (store.groupPasswords.update groupPasswords).eraseWhere (· ∈ dissolved)
          iconBindings :=
            store.iconBindings.eraseWhere (fun target =>
              target.1 = "group" ∧ target.2 ∈ dissolved)
          keyValues := store.keyValues.eraseWhere (· ∈ dissolved.flatMap groupMetadataKeys)
        }
  else none

def userKeys (serverId userId : String) : List String :=
  s!"emby_user_settings:{serverId}:{userId}"
    :: ["settings", "playstate", "favorites", "playlists"].map (fun domain =>
      s!"emby_user_sync_state:{domain}:{serverId}:{userId}")

/-- The links once the deleted user's link is gone: its group is dissolved when one member is
left, and otherwise gets its first member as leader when it has none.
-/
def leaveGroup (rows : UserLinksTable) (group : GroupId) : Option (UserLinksTable × Bool) :=
  match groupMembers rows group with
  | first :: second :: rest =>
      if (first :: second :: rest).any (fun member => member.2.isLeader) then
        some (rows, false)
      else
        (flush rows { updates := [(first.1, { first.2 with isLeader := true })] }).map
          (·, false)
  | members => (flush rows { deletes := members.map Prod.fst }).map (·, true)

def cleanupDeletedEmbyUser (serverId userId : String) : Option LinkStore :=
  let identity : Identity := (serverId, userId)
  let link := store.links.get? identity
  let group := (link.map UserLink.groupId).getD ""
  (flush store.links { deletes := link.toList.map (fun _ => identity) }).bind (fun rows =>
    (if group = "" then some (rows, false) else leaveGroup rows group).map
      (fun (links, dissolved) =>
        let groups := if dissolved then [group] else []
        {
          links
          groupPasswords :=
            store.groupPasswords.eraseWhere (fun id =>
              id = s!"unlinked_{serverId}_{userId}" ∨ id ∈ groups)
          iconBindings :=
            store.iconBindings.eraseWhere (fun target =>
              target = ("user", s!"{serverId}:{userId}")
              ∨ target.1 = "group" ∧ target.2 ∈ groups)
          keyValues :=
            store.keyValues.eraseWhere (fun key =>
              key ∈ userKeys serverId userId ∨ key ∈ groups.flatMap groupMetadataKeys)
        }))

/-- The groups with a member of the server, in order. -/
def serverGroups (serverId : String) : List GroupId :=
  ((store.links.items.filter (fun item => item.1.1 = serverId)).map
    (fun item => item.2.groupId)).dedup.insertionSort (· ≤ ·)

def isServerKey (matching : TextMatching) (serverId : String) (dissolved : List GroupId)
    (key : String)
    : Bool :=
  key = s!"library_scan_state:{serverId}"
  || matching.like s!"library_scan_state:{serverId}:%" key
  || matching.like s!"emby_user_settings:{serverId}:%" key
  || matching.like s!"emby_user_sync_state:%:{serverId}:%" key
  || key = s!"probe_config:{serverId}"
  || key ∈ dissolved.flatMap groupMetadataKeys

/-- The members of the server are deleted at once. Each group they leave is then dissolved
when one member is left, and otherwise keeps its one leader or gets its first member.
-/
def removeEmbyServerData (matching : TextMatching) (serverId : String) : Option LinkStore :=
  let groups := store.serverGroups serverId
  let rows := store.links.eraseWhere (fun identity => identity.1 = serverId)
  (groups.foldlM (normalizeGroup ∅ groups) ⟨rows, {}, [], ∅⟩).bind (fun state =>
    (flush state.rows state.pending).map (fun links =>
      let dissolved := state.dissolvedGroups
      {
        links
        groupPasswords :=
          store.groupPasswords.eraseWhere (fun id =>
            id ∈ dissolved || matching.startsWith s!"unlinked_{serverId}_" id)
        iconBindings :=
          store.iconBindings.eraseWhere (fun target =>
            (target.1 = "user" && matching.like s!"{serverId}:%" target.2)
            || (target.1 = "group" && decide (target.2 ∈ dissolved)))
        keyValues := store.keyValues.eraseWhere (isServerKey matching serverId dissolved)
      }))

end LinkStore

inductive LinkOperation
  | mutateUserLinks (request : LinkMutation) (groupPasswords : Dict GroupId String)
  | cleanupDeletedEmbyUser (serverId userId : String)
  | removeEmbyServerData (serverId : String)

def LinkStore.commit (matching : TextMatching) (store : LinkStore)
    : LinkOperation → Option LinkStore
  | .mutateUserLinks request groupPasswords => store.mutateUserLinks request groupPasswords
  | .cleanupDeletedEmbyUser serverId userId => store.cleanupDeletedEmbyUser serverId userId
  | .removeEmbyServerData serverId => store.removeEmbyServerData matching serverId

end OctoHubs.UserLinks
