import Mathlib.Data.List.Sort
import Mathlib.Data.List.Lex
import Mathlib.Data.Prod.Lex
import Mathlib.Data.String.Basic
import Mathlib.Order.WithBot
import OctoHubs.Library.Dict
import OctoHubs.Time

/-! Entries of the latest publications and the events that they show.
An event is known by the sources that changed; the identity of a title only decides where the
sources have no durable name.
-/

namespace OctoHubs.Latest

open OctoHubs.Library

/-- What the language does with text: whitespace and case for every script, and dates. -/
structure TextRules where
  strip : String → String
  lower : String → String
  casefold : String → String
  parseDateValue : String → Option Timestamp
  isoformat : Timestamp → String

variable (rules : TextRules)

def text (value : Option String) : String := rules.strip (value.getD "")

def numberText (value : Option Int) : String :=
  (value.filter (· ≠ 0)).elim "" toString

def rstrip (trailing : Char) (value : String) : String :=
  String.ofList ((value.toList.reverse.dropWhile (· = trailing)).reverse)

def normalizePath (path : Option String) : String :=
  rules.lower (rstrip '\\' (rstrip '/' (rules.strip (path.getD ""))))

def canonicalTimestamp (value : Option String) : String :=
  ((value.bind rules.parseDateValue).map rules.isoformat).getD (text rules value)

structure LatestChange where
  kind : Option String
  path : Option String
  mediaSourceId : Option String
  sourceName : Option String
  addedAt : Option String
  seasonNumber : Option Int
  episodeNumber : Option Int
  episodeTitle : Option String
deriving DecidableEq, Repr

/-- A field of a dictionary: absent, null or a value. -/
abbrev Field (α : Type) := Option (Option α)

def Field.get {α : Type} (field : Field α) : Option α := field.join

/-- An entry with its title, its event and all other fields in their order. -/
structure LatestEntry where
  serverId : Option String
  itemId : Option String
  signature : Option String
  batchId : Field String
  updateType : Field String
  updateLabel : Field String
  changes : Field (List LatestChange)
  addedAt : Field String
  details : Dict String String
deriving DecidableEq

namespace LatestEntry

variable (entry : LatestEntry)

def changeList : List LatestChange := entry.changes.get.getD []

/-- The aliases of one title, by its item and by its signature. -/
def publicationLogicalAliases (family : String) : List (String × String × String) :=
  let serverId := text rules entry.serverId
  [("item", entry.itemId), ("signature", entry.signature)].filterMap (fun (kind, value) =>
    let identity := text rules value
    if serverId ≠ "" ∧ identity ≠ "" then some (family, serverId, s!"{kind}:{identity}")
    else none)

end LatestEntry

/-- The durable name of a changed source, or the evidence that is left without one. -/
def changeIdentity (change : LatestChange) : List String :=
  let path := normalizePath rules change.path
  let sourceId := text rules change.mediaSourceId
  let addedAt := canonicalTimestamp rules change.addedAt
  let sourceName := normalizePath rules change.sourceName
  if path ≠ "" then ["path", path]
  else if sourceId ≠ "" then ["source_id", sourceId]
  else if sourceName ≠ "" then ["source_name", sourceName, addedAt]
  else
    ["fallback", addedAt, rules.strip (numberText change.seasonNumber),
      rules.strip (numberText change.episodeNumber),
      rules.casefold (text rules change.episodeTitle)]

abbrev EventKey := String × String × List (List String)

namespace LatestEntry

variable (entry : LatestEntry)

def changeIdentities : List (List String) :=
  (entry.changeList.map (changeIdentity rules)).filter (fun identity => identity.any (· ≠ ""))

/-- The sources that changed on a server, in a canonical order. -/
def publicationEventKey (family : String) : Option EventKey :=
  let serverId := text rules entry.serverId
  let identities := entry.changeIdentities rules
  if serverId = "" ∨ identities = [] then none
  else some (family, serverId, identities.insertionSort (· ≤ ·))

/-- The sources are the same; where one is named by its fallback, the titles share an alias
as well.
-/
def eventsAreEquivalent (left right : LatestEntry) (family : String) : Bool :=
  match left.publicationEventKey rules family with
  | none => false
  | some key =>
      right.publicationEventKey rules family = some key
      && (!key.2.2.any (fun identity => identity.head? = some "fallback")
        || (left.publicationLogicalAliases rules family).any (fun name =>
          name ∈ right.publicationLogicalAliases rules family))

def isExistingSnapshot : Bool :=
  rules.lower (text rules entry.updateType.get) = "existing"
  || (!entry.changeList.isEmpty
    && entry.changeList.all (fun change =>
      rules.lower (text rules change.kind) = "existing"))

def classificationRank : Nat :=
  let updateType := rules.lower (text rules entry.updateType.get)
  if updateType = "new" then 0
  else if updateType = "update" then 1
  else if entry.isExistingSnapshot rules then 3
  else 2

/-- News come before updates, and the older batch first. -/
def preference : Nat ×ₗ String :=
  let batchId := text rules entry.batchId.get
  toLex (entry.classificationRank rules, if batchId = "" then "\uffff" else batchId)

def preferredEvent (left right : LatestEntry) : LatestEntry :=
  if left.preference rules ≤ right.preference rules then left else right

/-- The last time that an entry names. -/
def eventTimestamp : WithBot Timestamp :=
  let values := entry.addedAt.get :: entry.changeList.map (·.addedAt)
  let timestamps : List Timestamp := values.filterMap (·.bind rules.parseDateValue)
  timestamps.foldl (fun last time => max last ↑time) ⊥

/-- A title with the event of another entry, as far as that one has the fields. -/
def withEventEnvelope (metadata event : LatestEntry) : LatestEntry :=
  { metadata with
    batchId := event.batchId.or metadata.batchId
    updateType := event.updateType.or metadata.updateType
    updateLabel := event.updateLabel.or metadata.updateLabel
    changes := event.changes.or metadata.changes
    addedAt := event.addedAt.or metadata.addedAt }

variable {rules} {left right : LatestEntry} {family : String}

theorem eventsAreEquivalent_iff
    : eventsAreEquivalent rules left right family = true
      ↔ ∃ key,
          left.publicationEventKey rules family = some key
          ∧ right.publicationEventKey rules family = some key
          ∧ ((∃ identity ∈ key.2.2, identity.head? = some "fallback")
            → ∃ name ∈ left.publicationLogicalAliases rules family,
                name ∈ right.publicationLogicalAliases rules family) := by
  unfold eventsAreEquivalent
  cases left.publicationEventKey rules family with
  | none => simp
  | some key =>
      simp only [Bool.and_eq_true, Bool.or_eq_true, Bool.not_eq_true', List.any_eq_true,
        List.any_eq_false, decide_eq_true_eq, Option.some.injEq, exists_eq_left']
      refine and_congr_right (fun _ => ?_)
      by_cases fallback : ∃ identity ∈ key.2.2, identity.head? = some "fallback"
      · simp only [fallback, forall_const, or_iff_right_iff_imp]
        obtain ⟨identity, member, named⟩ := fallback
        exact fun durable => absurd named (durable identity member)
      · simp only [fallback, false_implies, iff_true]
        exact .inl (fun identity member named => fallback ⟨identity, member, named⟩)

theorem eventsAreEquivalent_symm (equivalent : eventsAreEquivalent rules left right family = true)
    : eventsAreEquivalent rules right left family = true := by
  rw [eventsAreEquivalent_iff] at equivalent ⊢
  obtain ⟨key, leftKey, rightKey, shared⟩ := equivalent
  refine ⟨key, rightKey, leftKey, fun fallback => ?_⟩
  obtain ⟨name, inLeft, inRight⟩ := shared fallback
  exact ⟨name, inRight, inLeft⟩

/-- Equivalence sees the event key and the aliases only. -/
theorem eventsAreEquivalent_of_same {first second : LatestEntry}
    (equivalent : eventsAreEquivalent rules left right family = true)
    (firstKey : first.publicationEventKey rules family = left.publicationEventKey rules family)
    (firstAliases
      : first.publicationLogicalAliases rules family
        = left.publicationLogicalAliases rules family)
    (secondKey
      : second.publicationEventKey rules family = right.publicationEventKey rules family)
    (secondAliases
      : second.publicationLogicalAliases rules family
        = right.publicationLogicalAliases rules family)
    : eventsAreEquivalent rules first second family = true := by
  rw [eventsAreEquivalent_iff, firstKey, firstAliases, secondKey, secondAliases,
    ← eventsAreEquivalent_iff]
  exact equivalent

@[simp] theorem withEventEnvelope_self (entry : LatestEntry)
    : entry.withEventEnvelope entry = entry := by
  unfold withEventEnvelope
  simp only [Option.or_self]

theorem publicationEventKey_eq_some_iff {entry : LatestEntry} {key : EventKey}
    : entry.publicationEventKey rules family = some key
      ↔ (text rules entry.serverId ≠ "" ∧ entry.changeIdentities rules ≠ [])
        ∧ (family, text rules entry.serverId,
            (entry.changeIdentities rules).insertionSort (· ≤ ·)) = key := by
  unfold publicationEventKey
  dsimp only
  split
  · next missing => simp only [reduceCtorEq, false_iff, not_and]; tauto
  · next present =>
      rw [not_or] at present
      simp only [Option.some.injEq, present, ne_eq, not_false_eq_true, and_self, true_and]

/-- The envelope of an entry with the same event key brings no other key. -/
theorem withEventEnvelope_key {metadata event : LatestEntry} {key : EventKey}
    (metadataKey : metadata.publicationEventKey rules family = some key)
    (eventKey : event.publicationEventKey rules family = some key)
    : (metadata.withEventEnvelope event).publicationEventKey rules family = some key := by
  rw [publicationEventKey_eq_some_iff] at metadataKey eventKey ⊢
  obtain ⟨⟨server, -⟩, sameServer⟩ := metadataKey
  obtain ⟨⟨-, changed⟩, sameChanges⟩ := eventKey
  -- an event with a key has its changes
  have changes
      : (metadata.withEventEnvelope event).changeIdentities rules
        = event.changeIdentities rules := by
    unfold changeIdentities changeList withEventEnvelope
    cases field : event.changes with
    | some value => rfl
    | none => exact absurd (by simp [changeIdentities, changeList, field, Field.get]) changed
  rw [changes]
  refine ⟨⟨server, changed⟩, ?_⟩
  rw [← sameChanges] at sameServer ⊢
  have one : text rules metadata.serverId = text rules event.serverId :=
    congrArg (fun key => key.2.1) sameServer
  exact congrArg (fun server => (family, server, _)) one

end LatestEntry

end OctoHubs.Latest
