import OctoHubs.Search.ReferenceCodecs

/-! The protection of a payload: at every depth the addresses of downloads are removed and
sealed references stand for them.
-/

namespace OctoHubs.Search.References

open OctoHubs.Library
open OctoHubs.Connections

variable (rules : ReferenceRules)

def downloadFields : List String :=
  ["downloadurl", "guid", "link", "magnet", "magneturi", "magneturl", "torrent"]

def infoFields : List String := ["infourl", "web"]

/-- A key without underscores, in lower case. -/
def normalizedKey (key : String) : String :=
  rules.lower (String.ofList (key.toList.filter (· ≠ '_')))

def isDownloadField (key : String) : Bool := normalizedKey rules key ∈ downloadFields

def safeInfoUrl (value : String) : Bool :=
  let normalized := strip value
  if normalized = "" ∨ 4096 < normalized.length
      ∨ connectionUrlHasCredentials rules.toUrlRules normalized then
    false
  else
    (rules.urlsplit? normalized).any (fun parsed =>
      rules.lower parsed.scheme ∈ ["http", "https"]
      && parsed.hostname.any (· ≠ "") && parsed.username.isNone && parsed.password.isNone)

/-- The fields that are kept, and one candidate of each kind: an address or a reference. -/
structure Extraction where
  kept : Document
  rawByKind : Dict DownloadKind String
  existingByKind : Dict DownloadKind String

/-- Keep the first candidate of a kind. -/
def setDefault (values : Dict DownloadKind String) (kind : DownloadKind) (value : String)
    : Dict DownloadKind String :=
  if kind ∈ values.keys then values else values.set kind value

def Extraction.visit (extraction : Extraction) (key : String) (item : Json) : Extraction :=
  let normalized := normalizedKey rules key
  if normalized = "sourceid" then extraction
  else
    match ([.magnet, .torrent] : List DownloadKind).find? (fun kind =>
        normalized = kind.name ++ "ref"), item with
    | some kind, .text reference =>
        { extraction with existingByKind := setDefault extraction.existingByKind kind reference }
    | _, _ =>
        if isDownloadField rules key then
          match item with
          | .text value =>
              match downloadKind rules value "" with
              | .ok kind =>
                  { extraction with rawByKind := setDefault extraction.rawByKind kind value }
              | .error _ => extraction
          | _ => extraction
        else
          match decide (normalized ∈ infoFields), item with
          | true, .text value =>
              if safeInfoUrl rules value then
                { extraction with kept := extraction.kept.set key item }
              else extraction
          | true, _ => extraction
          | false, _ => { extraction with kept := extraction.kept.set key item }

def extractDownloadValues (fields : Document) : Extraction :=
  fields.items.foldl (fun extraction (key, item) => extraction.visit rules key item) ⟨∅, ∅, ∅⟩

/-- The reference of a step that may fail; a failed one changes nothing. -/
def orNone (world : ReferenceWorld) (outcome : Fallible (String × ReferenceWorld))
    : Option String × ReferenceWorld :=
  match outcome with
  | .ok (reference, after) => (some reference, after)
  | .error _ => (none, world)

def ReferenceWorld.protectGrab (world : ReferenceWorld) (rawRelease existing : Option Json)
    (ownerId : Int) (persisted : Bool)
    : Option String × ReferenceWorld :=
  match existing, rawRelease with
  | some (.text reference), _ =>
      orNone world (world.reissueGrab rules reference ownerId persisted)
  | _, none | _, some .null => (none, world)
  | _, some release =>
      orNone world
        (world.issueGrab rules (if persisted then persistedOwnerId else ownerId) release persisted
          none (.issued release))

def ReferenceWorld.issueOrReissue (world : ReferenceWorld) (kind : DownloadKind)
    (rawValue existingReference : Option String) (ownerId : Int) (persisted : Bool)
    : Option String × ReferenceWorld :=
  match existingReference.filter (· ≠ ""), rawValue.filter (· ≠ "") with
  | some reference, _ => orNone world (world.reissue rules reference ownerId persisted)
  | none, some value =>
      orNone world
        (world.issue rules (if persisted then persistedOwnerId else ownerId) value kind.name
          persisted (.issued value))
  | none, none => (none, world)

/-- The addresses of a source: the given ones, and those of references that open. -/
def ReferenceWorld.resolveSourceValues (world : ReferenceWorld)
    (rawByKind existingByKind : Dict DownloadKind String) (ownerId : Int) (persisted : Bool)
    : Dict DownloadKind String :=
  existingByKind.items.foldl
    (fun values (_, reference) =>
      match world.referenceValue rules reference ownerId persisted with
      | .ok (_, kind, value) => values.set kind value
      | .error _ => values)
    rawByKind

def addSourceId (protected_ : Document) (values : Dict DownloadKind String) (ownerId : Int)
    (persisted : Bool)
    : Fallible Document :=
  if values.keys = [] then .ok protected_
  else do return protected_.set "source_id" (.text (← sourceId rules ownerId values persisted))

def addDownloadReference (ownerId : Int) (persisted : Bool)
    (extraction : Extraction) (state : Document × ReferenceWorld) (kind : DownloadKind)
    : Document × ReferenceWorld :=
  let (protected_, world) := state
  match world.issueOrReissue rules kind (extraction.rawByKind.get? kind)
      (extraction.existingByKind.get? kind) ownerId persisted with
  | (some reference, world) =>
      ((protected_.set (kind.name ++ "_ref") (.text reference)).set ("has_" ++ kind.name)
        (.bool true), world)
  | (none, world) => (protected_, world)

/-- A step of a protection: a value and the references sealed on the way, or a failure. -/
abbrev Protection (α : Type) := ReferenceWorld → Fallible (α × ReferenceWorld)

def protectItems : List (Protection Json) → Protection (List Json)
  | [], world => .ok ([], world)
  | item :: rest, world => do
      let (first, world) ← item world
      let (others, world) ← protectItems rest world
      return (first :: others, world)

def protectFields (fields : List (String × Protection Json)) (start : Document)
    : Protection Document :=
  fun world =>
    fields.foldlM
      (fun (protected_, world) (key, item) => do
        let (value, world) ← item world
        return (Dict.set protected_ key value, world))
      (start, world)

/-- What is done with the fields of a dictionary after their values are protected. -/
def protectDownloads (rawRelease existing : Option Json) (fields : Document) (ownerId : Int)
    (persisted : Bool)
    : Protection Json :=
  fun world => do
    let (grab, world) := world.protectGrab rules rawRelease existing ownerId persisted
    let fields :=
      match grab with
      | some reference => fields.set "prowlarr_grab_ref" (.text reference)
      | none => fields
    let extraction := extractDownloadValues rules fields
    let values :=
      world.resolveSourceValues rules extraction.rawByKind extraction.existingByKind ownerId
        persisted
    let protected_ ← addSourceId rules extraction.kept values ownerId persisted
    let (protected_, world) :=
      ([.magnet, .torrent] : List DownloadKind).foldl
        (addDownloadReference rules ownerId persisted extraction)
        (protected_, world)
    return (.ofDict protected_, world)

def protectValue (ownerId : Int) (persisted : Bool) : Json → Protection Json
  | .list length values => fun world => do
      let (items, world) ←
        protectItems
          (List.ofFn (fun index : Fin length => protectValue ownerId persisted (values index)))
          world
      return (.ofList items, world)
  | .object keys unique values => fun world => do
      let fields : List (String × Protection Json) :=
        List.ofFn (fun index => (keys.get index, protectValue ownerId persisted (values index)))
      let (fields, world) ←
        protectFields
          (fields.filter (fun field => field.1 ∉ ["_prowlarr_grab", "prowlarr_grab_ref"])) ∅ world
      let document := ((Json.object keys unique values).asDict?).getD ∅
      protectDownloads rules (document.get? "_prowlarr_grab") (document.get? "prowlarr_grab_ref")
        fields ownerId persisted world
  | value => fun world => .ok (value, world)

def ReferenceWorld.protectDownloadReferences (world : ReferenceWorld) (value : Json)
    (ownerId : Int) (persisted : Bool)
    : Fallible (Json × ReferenceWorld) := do
  let owner ← normalizeOwnerId invalidIdentity ownerId persisted
  protectValue rules owner persisted value world

end OctoHubs.Search.References
