import OctoHubs.Library.Json

/-! The stored state of the publications as a document, and the merge of the notification fields
that another writer has stored. Any value may stand where a dictionary is expected.
-/

namespace OctoHubs.Latest.Documents

open OctoHubs.Library

def mergeFlags (target source : Document) : Document :=
  let target :=
    target.set "notified"
      (.bool ((target.field "notified").truthy || (source.field "notified").truthy))
  if (source.field "notified_at").truthy
      && ((source.field "notified").truthy || !(Document.field target "notified_at").truthy) then
    target.set "notified_at" (source.field "notified_at")
  else target

def mergeDestinations (target source : Document) : Document :=
  match source.dictAt? "notified_destinations" with
  | none => target
  | some destinations =>
      target.setDict "notified_destinations"
        ((target.dictAt "notified_destinations").update destinations)

/-- The dictionaries of a source, each joined with the value under its key. -/
def joinDicts (join : Option Document → Document → Document) (target source : Document)
    : Document :=
  target.joinWith
    (fun current value =>
      .ofDict (join (current.bind Json.asDict?) (value.asDict?.getD ∅)))
    (source.filter (fun _ value => value.isDict))

/-- The notification fields of the source in the target; the publications are merged the same
way, down to the given level.
-/
def mergeMetadataTo : (levels : Nat) → (target source : Document) → Document
  | 0, target, _ => target
  | levels + 1, target, source =>
      let target := mergeDestinations (mergeFlags target source) source
      match source.dictAt? "notified_publications" with
      | none => target
      | some publications =>
          target.setDict "notified_publications"
            (joinDicts (fun current => mergeMetadataTo levels (current.getD ∅))
              (target.dictAt "notified_publications") publications)

def mergeNotificationMetadata (target source : Document) : Document :=
  mergeMetadataTo ((Json.ofDict source).depth + 1) target source

def hasNotificationMetadata (entry : Document) : Bool :=
  (entry.field "notified").truthy || (entry.field "notified_at").truthy
  || (entry.dictAt? "notified_destinations").isSome
  || (entry.dictAt? "notified_publications").isSome

/-- The entries of a source: what the target has is merged, and what it has not is copied where
it carries notification metadata.
-/
def mergeEntries (target source : Document) : Document :=
  joinDicts
    (fun current entry =>
      current.elim entry (fun kept => mergeNotificationMetadata kept entry))
    target
    (source.filter (fun key value =>
      (target.dictAt? key).isSome || value.asDict?.any hasNotificationMetadata))

def mergeSectionNotifications (section_ : String) (target source : Document) : Document :=
  match (source.dictAt? section_).bind (Document.dictAt? · "items") with
  | none => target
  | some items =>
      let section' := target.dictAt section_
      target.setDict section_
        (section'.setDict "items" (mergeEntries (section'.dictAt "items") items))

def mergeHistoryNotifications (target source : Document) : Document :=
  match source.dictAt? "history" with
  | none => target
  | some history =>
      target.setDict "history"
        (joinDicts (fun current entries => mergeEntries (current.getD ∅) entries)
          (target.dictAt "history") history)

def mergeServer (target source : Document) : Document :=
  mergeHistoryNotifications
    (mergeSectionNotifications "series" (mergeSectionNotifications "movies" target source)
      source)
    source

def mergeNotificationUpdates (current notification : Document) : Document :=
  joinDicts (fun target => mergeServer (target.getD ∅)) current notification

end OctoHubs.Latest.Documents
