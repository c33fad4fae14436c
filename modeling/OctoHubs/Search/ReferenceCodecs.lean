import OctoHubs.Connections.Redaction
import OctoHubs.Library.Sealing

/-! References to downloads: the address of a download is sealed for one account, or for the
stored copies that belong to no account. References to cached releases of an indexer are sealed
in the same way.
-/

namespace OctoHubs.Search.References

open OctoHubs.Library
open OctoHubs.Connections

def referencePrefix : String := "ohsdl_"
def referenceTtlSeconds : Nat := 30 * 60
def grabReferencePrefix : String := "ohsgrab_"
def grabTtlSeconds : Nat := 30 * 60
def persistedOwnerId : Int := 0

/-- The ciphers of both kinds of references, and the digest of a source. -/
structure ReferenceRules extends UrlRules where
  downloadCipher : Cipher
  grabCipher : Cipher
  sourceDigest : Int → List (String × String) → String

inductive DownloadKind
  | magnet
  | torrent
deriving DecidableEq, Repr

def DownloadKind.name : DownloadKind → String
  | .magnet => "magnet"
  | .torrent => "torrent"

structure DownloadPayload where
  owner : Int
  kind : DownloadKind
  value : String
  persisted : Bool
deriving DecidableEq, Repr

structure GrabRelease where
  indexerId : Int
  guid : String
deriving DecidableEq, Repr

structure GrabPayload where
  owner : Int
  release : GrabRelease
  persisted : Bool
  expiresAt : Nat
deriving DecidableEq, Repr

/-- The clock in seconds and all references that were sealed. -/
structure ReferenceWorld where
  clock : Nat
  downloads : List (Minted String DownloadPayload)
  grabs : List (Minted Json GrabPayload)

abbrev Fallible (α : Type) := Except String α

/-- The text after a given beginning. -/
def removeLead? (lead text : String) : Option String :=
  if lead.toList.isPrefixOf text.toList then
    some (String.ofList (text.toList.drop lead.toList.length))
  else none

def normalizeOwnerId (message : String) (ownerId : Int) (persisted : Bool) : Fallible Int :=
  if persisted ∧ ownerId = persistedOwnerId then .ok ownerId
  else if ownerId ≤ 0 then .error message
  else .ok ownerId

/-- The owner that a reissued reference is bound to. -/
def targetOwner (message : String) (ownerId : Int) (persisted : Bool) : Fallible Int :=
  if persisted then .ok persistedOwnerId else normalizeOwnerId message ownerId false

variable (rules : ReferenceRules)

def invalidReference : String := "Riferimento download non valido"
def invalidOrExpiredReference : String := "Riferimento download non valido o scaduto"
def unavailableReference : String := "Riferimento download non disponibile"
def invalidKind : String := "Tipo riferimento download non valido"
def invalidIdentity : String := "Identita download non valida"

/-- The kind of an address, which an expected name must agree with. -/
def downloadKind (value expected : String) : Fallible DownloadKind := do
  let normalized := strip value
  let kind ←
    if "magnet:?".toList.isPrefixOf (rules.lower normalized).toList then
      .ok DownloadKind.magnet
    else
      match rules.urlsplit? normalized with
      | none => .error invalidReference
      | some parsed =>
          if rules.lower parsed.scheme ∈ ["http", "https"] ∧ parsed.netloc ≠ "" then
            .ok DownloadKind.torrent
          else .error invalidReference
  let normalizedExpected := rules.lower (strip expected)
  if normalizedExpected ≠ "" ∧ normalizedExpected ≠ kind.name then .error invalidKind
  else .ok kind

def downloadValue (value : String) : Fallible String := do
  let normalized := strip value
  if normalized = "" ∨ 4096 < normalized.length then .error invalidReference
  else
    let _ ← downloadKind rules normalized ""
    return normalized

/-- Seal an address; the origin is only recorded. -/
def ReferenceWorld.issue (world : ReferenceWorld) (ownerId : Int) (value kind : String)
    (persisted : Bool) (origin : Origin String)
    : Fallible (String × ReferenceWorld) := do
  let owner ← normalizeOwnerId invalidIdentity ownerId persisted
  let value ← downloadValue rules value
  let kind ← downloadKind rules value kind
  let minted := ⟨world.clock, ⟨owner, kind, value, persisted⟩, origin⟩
  return (referencePrefix ++ rules.downloadCipher.token world.downloads.length,
    { world with downloads := world.downloads ++ [minted] })

/-- Open a reference; only a redeemed one has a limited lifetime. -/
def ReferenceWorld.decode (world : ReferenceWorld) (reference : String) (enforceTtl : Bool)
    : Fallible (Nat × Minted String DownloadPayload) :=
  match removeLead? referencePrefix reference with
  | none => .error invalidReference
  | some token =>
      match rules.downloadCipher.unseal? world.downloads token with
      | none => .error invalidOrExpiredReference
      | some (number, minted) =>
          if enforceTtl ∧ minted.sealedAt + referenceTtlSeconds < world.clock then
            .error invalidOrExpiredReference
          else .ok (number, minted)

def ReferenceWorld.resolve (world : ReferenceWorld) (ownerId : Int) (reference : String)
    (expectedKind : Option String)
    : Fallible String := do
  let (_, minted) ← world.decode rules reference true
  let owner ← normalizeOwnerId invalidIdentity ownerId false
  if minted.payload.persisted ∨ minted.payload.owner ≠ owner then .error unavailableReference
  else
    let value ← downloadValue rules minted.payload.value
    let _ ←
      downloadKind rules value
        ((expectedKind.filter (· ≠ "")).getD minted.payload.kind.name)
    return value

/-- The number of a reference with its kind and value, for an owner who may have it reissued. -/
def ReferenceWorld.referenceValue (world : ReferenceWorld) (reference : String) (ownerId : Int)
    (persisted : Bool)
    : Fallible (Nat × DownloadKind × String) := do
  let (number, minted) ← world.decode rules reference false
  let target ← targetOwner invalidIdentity ownerId persisted
  if ¬ persisted ∧ ¬ minted.payload.persisted ∧ minted.payload.owner ≠ target then
    .error unavailableReference
  else
    let value ← downloadValue rules minted.payload.value
    let kind ← downloadKind rules value minted.payload.kind.name
    return (number, kind, value)

def ReferenceWorld.reissue (world : ReferenceWorld) (reference : String) (ownerId : Int)
    (persisted : Bool)
    : Fallible (String × ReferenceWorld) := do
  let (number, kind, value) ← world.referenceValue rules reference ownerId persisted
  let target ← targetOwner invalidIdentity ownerId persisted
  world.issue rules target value kind.name persisted (.reissued number)

def sourceIdPrefix : String := "ohsid_"

/-- The digest of the addresses of an owner, the kinds in alphabetical order. -/
def sourceId (ownerId : Int) (values : Dict DownloadKind String) (persisted : Bool)
    : Fallible String := do
  let target ← targetOwner invalidIdentity ownerId persisted
  let normalizedValues ←
    ([.magnet, .torrent] : List DownloadKind).filterMapM (fun kind =>
      match values.get? kind with
      | none => .ok none
      | some value => do return some (kind.name, ← downloadValue rules value))
  return sourceIdPrefix ++ rules.sourceDigest target normalizedValues

def invalidGrab : String := "Riferimento Prowlarr non valido"
def invalidOrExpiredGrab : String := "Riferimento Prowlarr non valido o scaduto"
def unavailableGrab : String := "Riferimento Prowlarr non disponibile"
def invalidGrabIdentity : String := "Identita Prowlarr non valida"

def normalizedRelease (value : Json) : Fallible GrabRelease :=
  match value.asDict? with
  | none => .error invalidGrab
  | some fields =>
      let indexerId := (fields.get? "indexerId").getD (fields.field "indexer_id")
      match indexerId, fields.field "guid" with
      | .int indexerId, .text guid =>
          if indexerId ≤ 0 ∨ strip guid = "" ∨ 4096 < guid.length then .error invalidGrab
          else .ok ⟨indexerId, strip guid⟩
      | _, _ => .error invalidGrab

/-- The release as the value that a payload holds. -/
def GrabRelease.toJson (release : GrabRelease) : Json :=
  .ofDict
    (Dict.set (Dict.set ∅ "indexerId" (.int release.indexerId)) "guid" (.text release.guid))

/-- Seal a release; a reissued reference keeps the time at which it expires. -/
def ReferenceWorld.issueGrab (world : ReferenceWorld) (ownerId : Int) (release : Json)
    (persisted : Bool) (expiresAt : Option Nat) (origin : Origin Json)
    : Fallible (String × ReferenceWorld) := do
  let owner ← normalizeOwnerId invalidGrabIdentity ownerId persisted
  let release ← normalizedRelease release
  let expiresAt := (expiresAt.filter (· ≠ 0)).getD (world.clock + grabTtlSeconds)
  let minted := ⟨world.clock, ⟨owner, release, persisted, expiresAt⟩, origin⟩
  return (grabReferencePrefix ++ rules.grabCipher.token world.grabs.length,
    { world with grabs := world.grabs ++ [minted] })

def ReferenceWorld.decodeGrab (world : ReferenceWorld) (reference : String)
    : Fallible (Nat × Minted Json GrabPayload) :=
  match removeLead? grabReferencePrefix reference with
  | none => .error invalidGrab
  | some token =>
      match rules.grabCipher.unseal? world.grabs token with
      | none => .error invalidOrExpiredGrab
      | some (number, minted) =>
          if minted.payload.expiresAt ≤ world.clock then .error invalidOrExpiredGrab
          else .ok (number, minted)

def ReferenceWorld.resolveGrab (world : ReferenceWorld) (ownerId : Int) (reference : String)
    : Fallible GrabRelease := do
  let (_, minted) ← world.decodeGrab rules reference
  let owner ← normalizeOwnerId invalidGrabIdentity ownerId false
  if minted.payload.persisted ∨ minted.payload.owner ≠ owner then .error unavailableGrab
  else normalizedRelease minted.payload.release.toJson

def ReferenceWorld.reissueGrab (world : ReferenceWorld) (reference : String) (ownerId : Int)
    (persisted : Bool)
    : Fallible (String × ReferenceWorld) := do
  let (number, minted) ← world.decodeGrab rules reference
  let target ← targetOwner invalidGrabIdentity ownerId persisted
  if ¬ persisted ∧ ¬ minted.payload.persisted ∧ minted.payload.owner ≠ target then
    .error unavailableGrab
  else
    world.issueGrab rules target minted.payload.release.toJson persisted
      (some minted.payload.expiresAt) (.reissued number)

end OctoHubs.Search.References
