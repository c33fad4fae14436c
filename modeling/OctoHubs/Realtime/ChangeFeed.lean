import OctoHubs.Library.Coercions
import OctoHubs.Library.Numbering

/-! The journal of changes that external clients poll: what is published, what is retained, and
the pages that are read after a cursor.
-/

namespace OctoHubs.Realtime

open OctoHubs.Library

def externalChangeRetention : Nat := 250

def topicsByMessageType : List (String × String) :=
  [ ("ConnectionClosed", "emby.connection"),
    ("ConnectionEstablished", "emby.connection"),
    ("LibraryChanged", "libraries"),
    ("OctoHubsCollectionsUpdated", "collections"),
    ("OctoHubsConfigurationUpdated", "configuration"),
    ("OctoHubsEventBridgeUpdated", "event_bridge"),
    ("OctoHubsLatestUpdated", "publications"),
    ("OctoHubsUsersUpdated", "users"),
    ("RefreshProgress", "libraries.scan"),
    ("ScheduledTasksInfoStart", "libraries.scan"),
    ("ScheduledTasksInfoStop", "libraries.scan"),
    ("Sessions", "emby.streams"),
    ("SessionsUpdate", "emby.streams"),
    ("UserPolicyUpdated", "users") ]

def topicForMessage (messageType : String) : String :=
  (topicsByMessageType.lookup messageType).getD "application"

structure ExternalChange where
  cursor : Nat
  occurredAt : String
  topic : String
  messageType : String
  serverId : Option String
  details : Dict String String
  deriving DecidableEq

/-- The journal of one process. Its changes are the last ones published, and they are numbered
without gaps up to the latest cursor.
-/
structure Feed where
  changes : List ExternalChange
  latestCursor : Nat
  retained : changes.length = min latestCursor externalChangeRetention
  numbered : Numbered ExternalChange.cursor (latestCursor + 1 - changes.length) changes

/-- The journal of a process that has just started. -/
def Feed.empty : Feed := ⟨[], 0, rfl, .nil⟩

section Publishing

variable (alphabet : Alphabet)

/-- Only the data by which a client chooses what to reread. -/
def safeDetails (messageType : String) (data : Json) : Dict String String :=
  match data.asDict? with
  | none => ∅
  | some data =>
      if messageType = "OctoHubsConfigurationUpdated" then
        let scope := strip ((Document.field data "scope").textOr alphabet "")
        if scope ≠ "" then (∅ : Dict String String).set "scope" scope else ∅
      else ∅

def externalChange (cursor : Nat) (eventData : Document) (occurredAt : String)
    : ExternalChange :=
  let stripped :=
    strip ((Document.field eventData "MessageType").textOr alphabet "ApplicationUpdated")
  let messageType := if stripped = "" then "ApplicationUpdated" else stripped
  let serverId := strip ((Document.field eventData "server_id").textOr alphabet "")
  { cursor
    occurredAt
    topic := topicForMessage messageType
    messageType
    serverId := if serverId = "" then none else some serverId
    details := safeDetails alphabet messageType (Document.field eventData "Data") }

def publishExternalChange (feed : Feed) (eventData : Document) (occurredAt : String) : Feed where
  changes :=
    pushBounded externalChangeRetention feed.changes
      (externalChange alphabet (feed.latestCursor + 1) eventData occurredAt)
  latestCursor := feed.latestCursor + 1
  retained := by
    have before := feed.retained
    rw [length_pushBounded]
    omega
  numbered := by
    have before := feed.retained
    have next : feed.latestCursor + 1
        = feed.latestCursor + 1 - feed.changes.length + feed.changes.length := by
      omega
    have first : feed.latestCursor + 1 + 1 - min (feed.changes.length + 1) externalChangeRetention
        = feed.latestCursor + 1 - feed.changes.length
          + (feed.changes.length + 1 - externalChangeRetention) := by
      omega
    rw [length_pushBounded, first]
    exact (feed.numbered.append next).drop _

@[simp] theorem publishExternalChange_changes (feed : Feed) (eventData : Document)
    (occurredAt : String)
    : (publishExternalChange alphabet feed eventData occurredAt).changes
      = pushBounded externalChangeRetention feed.changes
          (externalChange alphabet (feed.latestCursor + 1) eventData occurredAt) := by
  rw [publishExternalChange]

end Publishing

structure ChangesPage where
  events : List ExternalChange
  nextCursor : Nat
  latestCursor : Nat
  oldestCursor : Nat
  hasMore : Bool
  resetRequired : Bool
  retention : Nat
  deriving DecidableEq

@[simp] theorem publishExternalChange_latestCursor (feed : Feed) (eventData : Document)
    (occurredAt : String)
    : (publishExternalChange alphabet feed eventData occurredAt).latestCursor
      = feed.latestCursor + 1 :=
  rfl

def Feed.oldestCursor (feed : Feed) : Nat :=
  match feed.changes with
  | [] => feed.latestCursor + 1
  | oldest :: _ => oldest.cursor

/-- The number of changes that a page has at most. -/
def requestedLimit (limit : Int) : Nat :=
  (max 1 (min limit externalChangeRetention)).toNat

def Feed.resetRequired (feed : Feed) (after : Nat) : Bool :=
  feed.latestCursor < after || (feed.changes ≠ [] && after < feed.oldestCursor - 1)

/-- The cursor after which a page begins. -/
def Feed.effectiveAfter (feed : Feed) (requestedAfter : Nat) : Nat :=
  if feed.resetRequired requestedAfter then feed.oldestCursor - 1 else requestedAfter

def readExternalChanges (feed : Feed) (after limit : Int) : ChangesPage :=
  let requestedAfter := (max 0 after).toNat
  let effectiveAfter := feed.effectiveAfter requestedAfter
  let matching := feed.changes.filter (effectiveAfter < ·.cursor)
  let events := matching.take (requestedLimit limit)
  { events
    nextCursor := (events.getLast?.map ExternalChange.cursor).getD effectiveAfter
    latestCursor := feed.latestCursor
    oldestCursor := feed.oldestCursor
    hasMore := events.length < matching.length
    resetRequired := feed.resetRequired requestedAfter
    retention := externalChangeRetention }

theorem Feed.oldestCursor_eq (feed : Feed)
    : feed.oldestCursor = feed.latestCursor + 1 - feed.changes.length := by
  have numbered := feed.numbered
  unfold oldestCursor
  split
  · next none => rw [none, List.length_nil, Nat.sub_zero]
  · next oldest rest listed =>
      rw [listed] at numbered
      rw [listed]
      exact (Numbered.cons_iff.mp numbered).1

theorem Feed.effectiveAfter_bounds (feed : Feed) (requestedAfter : Nat)
    : feed.latestCursor - feed.changes.length ≤ feed.effectiveAfter requestedAfter
      ∧ feed.effectiveAfter requestedAfter ≤ feed.latestCursor := by
  have retained := feed.retained
  have oldest := feed.oldestCursor_eq
  unfold effectiveAfter
  split
  · omega
  · next kept =>
      simp only [resetRequired, Bool.or_eq_true, Bool.and_eq_true, decide_eq_true_eq,
        not_or, not_and, Nat.not_lt] at kept
      refine ⟨?_, kept.1⟩
      by_cases none : feed.changes = []
      · rw [none, List.length_nil, externalChangeRetention] at retained
        omega
      · have early := kept.2 (by simpa using none)
        omega

theorem requestedLimit_pos (limit : Int) : 0 < requestedLimit limit := by
  unfold requestedLimit
  omega

theorem Feed.effectiveAfter_of_kept {feed : Feed} {requestedAfter : Nat}
    (kept : feed.resetRequired requestedAfter = false)
    : feed.effectiveAfter requestedAfter = requestedAfter := by
  rw [effectiveAfter, kept]
  rfl

end OctoHubs.Realtime
