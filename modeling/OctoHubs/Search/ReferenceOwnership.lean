import Mathlib.Logic.Relation
import OctoHubs.Search.ReferenceProtection

/-! Whom a reference serves: every reference leads back to a given address, and only the account
that it was sealed for redeems it, within its lifetime. A protected payload has no field of a
download at any depth.
-/

namespace OctoHubs.Search.References

open OctoHubs.Library
open OctoHubs.Connections

variable (rules : ReferenceRules)

-- Steps

/-- One more reference is sealed, for a given value or for another reference. -/
inductive Seals (world : ReferenceWorld) : ReferenceWorld → Prop
  | issue {ownerId : Int} {value kind reference : String} {persisted : Bool}
      {after : ReferenceWorld}
      (issued
        : world.issue rules ownerId value kind persisted (.issued value)
          = .ok (reference, after))
      : Seals world after
  | reissue {ownerId : Int} {source reference : String} {persisted : Bool}
      {after : ReferenceWorld}
      (reissued : world.reissue rules source ownerId persisted = .ok (reference, after))
      : Seals world after
  | issueGrab {ownerId : Int} {release : Json} {reference : String} {persisted : Bool}
      {after : ReferenceWorld}
      (issued
        : world.issueGrab rules ownerId release persisted none (.issued release)
          = .ok (reference, after))
      : Seals world after
  | reissueGrab {ownerId : Int} {source reference : String} {persisted : Bool}
      {after : ReferenceWorld}
      (reissued : world.reissueGrab rules source ownerId persisted = .ok (reference, after))
      : Seals world after

abbrev SealsAll : ReferenceWorld → ReferenceWorld → Prop := Relation.ReflTransGen (Seals rules)

inductive ReferenceEvent
  | advance (seconds : Nat)
  | issue (ownerId : Int) (value kind : String) (persisted : Bool)
  | reissue (source : String) (ownerId : Int) (persisted : Bool)
  | issueGrab (ownerId : Int) (release : Json) (persisted : Bool)
  | reissueGrab (source : String) (ownerId : Int) (persisted : Bool)
  | protect (payload : Json) (ownerId : Int) (persisted : Bool)

/-- The world after a fallible step; a failed one changes nothing. -/
def ReferenceWorld.after {α : Type} (world : ReferenceWorld)
    (outcome : Fallible (α × ReferenceWorld))
    : ReferenceWorld :=
  match outcome with
  | .ok (_, after) => after
  | .error _ => world

def ReferenceWorld.step (world : ReferenceWorld) : ReferenceEvent → ReferenceWorld
  | .advance seconds => { world with clock := world.clock + seconds }
  | .issue ownerId value kind persisted =>
      world.after (world.issue rules ownerId value kind persisted (.issued value))
  | .reissue source ownerId persisted =>
      world.after (world.reissue rules source ownerId persisted)
  | .issueGrab ownerId release persisted =>
      world.after (world.issueGrab rules ownerId release persisted none (.issued release))
  | .reissueGrab source ownerId persisted =>
      world.after (world.reissueGrab rules source ownerId persisted)
  | .protect payload ownerId persisted =>
      world.after (world.protectDownloadReferences rules payload ownerId persisted)

def ReferenceWorld.opening (clock : Nat) : ReferenceWorld := ⟨clock, [], []⟩

def runReferences (clock : Nat) (events : List ReferenceEvent) : ReferenceWorld :=
  events.foldl (ReferenceWorld.step rules) (.opening clock)

-- Protected payloads

/-- No key at any depth is one of a download. -/
def DownloadFree (value : Json) : Prop :=
  value.EveryKey (fun key => isDownloadField rules key = false)

/-- The fields have no key of a download, and no value has one at any depth. -/
def FieldsFree (fields : Document) : Prop :=
  ∀ key value,
    fields.get? key = some value
    → isDownloadField rules key = false ∧ DownloadFree rules value

/-- A step that seals some references and whose result meets a condition. -/
def Keeps {α : Type} (step : Protection α) (meets : α → Prop) : Prop :=
  ∀ world result after,
    step world = .ok (result, after) → SealsAll rules world after ∧ meets result

section Protection

variable {rules}

theorem downloadField_plain {key : String} (ascii : key.toList.all (·.toNat < 128))
    (plain
      : String.ofList (((key.toList.filter (· ≠ '_'))).map Char.toLower) ∉ downloadFields)
    : isDownloadField rules key = false := by
  unfold isDownloadField normalizedKey
  rw [rules.lower_ascii]
  · rw [String.toList_ofList]
    exact decide_eq_false plain
  · intro letter member
    rw [String.toList_ofList] at member
    have small := List.all_eq_true.mp ascii letter (List.mem_of_mem_filter member)
    exact of_decide_eq_true small

theorem FieldsFree.set {fields : Document} {key : String} {value : Json}
    (free : FieldsFree rules fields) (plain : isDownloadField rules key = false)
    (clean : DownloadFree rules value)
    : FieldsFree rules (fields.set key value) := by
  intro other found present
  rw [Dict.get?_set] at present
  split at present
  · next same =>
      cases present
      exact ⟨same ▸ plain, clean⟩
  · exact free other found present

theorem fieldsFree_visit {extraction : Extraction} {key : String} {item : Json}
    (free : FieldsFree rules extraction.kept) (clean : DownloadFree rules item)
    : FieldsFree rules (extraction.visit rules key item).kept := by
  have keep (plain : ¬ isDownloadField rules key = true)
      : FieldsFree rules (extraction.kept.set key item) :=
    free.set (Bool.eq_false_iff.mpr plain) clean
  unfold Extraction.visit
  dsimp only
  split
  · exact free
  · split
    · exact free
    · split
      · split
        · split
          · exact free
          · exact free
        · exact free
      next plain =>
        split
        · split
          · exact keep plain
          · exact free
        · exact free
        · exact keep plain

theorem fieldsFree_extract {fields : Document}
    (clean : ∀ key value, fields.get? key = some value → DownloadFree rules value)
    : FieldsFree rules (extractDownloadValues rules fields).kept := by
  have each : ∀ item ∈ fields.items, DownloadFree rules item.2 :=
    fun item member => clean item.1 item.2 (Dict.mem_items_iff.mp member)
  have empty : FieldsFree rules (⟨∅, ∅, ∅⟩ : Extraction).kept :=
    fun key value impossible => by cases impossible
  unfold extractDownloadValues
  revert each empty
  generalize fields.items = items
  generalize (⟨∅, ∅, ∅⟩ : Extraction) = extraction
  intro each free
  induction items generalizing extraction with
  | nil => exact free
  | cons item rest ih =>
      apply ih
      · exact fun later member => each later (List.mem_cons_of_mem _ member)
      · exact fieldsFree_visit free (each item List.mem_cons_self)

theorem downloadFree_text (value : String) : DownloadFree rules (.text value) := trivial

theorem fieldsFree_addSourceId {fields protected_ : Document}
    {values : Dict DownloadKind String} {ownerId : Int} {persisted : Bool}
    (free : FieldsFree rules fields)
    (added : addSourceId rules fields values ownerId persisted = .ok protected_)
    : FieldsFree rules protected_ := by
  unfold addSourceId at added
  split at added
  · cases added
    exact free
  · obtain ⟨digest, -, done⟩ := bind_eq_ok_iff.mp added
    cases done
    exact free.set (downloadField_plain (by decide) (by decide))
      (downloadFree_text _)

theorem sealsAll_orNone {world after : ReferenceWorld}
    {outcome : Fallible (String × ReferenceWorld)} {reference : Option String}
    (seals : ∀ reference after, outcome = .ok (reference, after) → Seals rules world after)
    (done : orNone world outcome = (reference, after))
    : SealsAll rules world after := by
  cases outcome with
  | error failure =>
      cases done
      exact .refl
  | ok result =>
      obtain ⟨issued, next⟩ := result
      cases done
      exact .single (seals _ _ rfl)

theorem sealsAll_protectGrab {world after : ReferenceWorld} {rawRelease existing : Option Json}
    {ownerId : Int} {persisted : Bool} {reference : Option String}
    (done
      : world.protectGrab rules rawRelease existing ownerId persisted = (reference, after))
    : SealsAll rules world after := by
  unfold ReferenceWorld.protectGrab at done
  split at done
  · exact sealsAll_orNone (fun _ _ reissued => .reissueGrab reissued) done
  · cases done
    exact .refl
  · cases done
    exact .refl
  · exact sealsAll_orNone (fun _ _ issued => .issueGrab issued) done

theorem sealsAll_issueOrReissue {world after : ReferenceWorld} {kind : DownloadKind}
    {rawValue existing reference : Option String} {ownerId : Int} {persisted : Bool}
    (done
      : world.issueOrReissue rules kind rawValue existing ownerId persisted
        = (reference, after))
    : SealsAll rules world after := by
  unfold ReferenceWorld.issueOrReissue at done
  split at done
  · exact sealsAll_orNone (fun _ _ reissued => .reissue reissued) done
  · exact sealsAll_orNone (fun _ _ issued => .issue issued) done
  · cases done
    exact .refl

theorem addDownloadReference_spec (state : Document × ReferenceWorld) {extraction : Extraction}
    {ownerId : Int} {persisted : Bool} {kind : DownloadKind}
    (free : FieldsFree rules state.1)
    : FieldsFree rules (addDownloadReference rules ownerId persisted extraction state kind).1
      ∧ SealsAll rules state.2
        (addDownloadReference rules ownerId persisted extraction state kind).2 := by
  obtain ⟨fields, world⟩ := state
  unfold addDownloadReference
  dsimp only
  split
  · next reference after issued =>
      refine ⟨?_, sealsAll_issueOrReissue issued⟩
      cases kind with
      | magnet =>
          refine (free.set ?_ (downloadFree_text _)).set ?_ trivial
          · exact downloadField_plain (by decide) (by decide)
          · exact downloadField_plain (by decide) (by decide)
      | torrent =>
          refine (free.set ?_ (downloadFree_text _)).set ?_ trivial
          · exact downloadField_plain (by decide) (by decide)
          · exact downloadField_plain (by decide) (by decide)
  · next after issued => exact ⟨free, sealsAll_issueOrReissue issued⟩

theorem keeps_protectDownloads {rawRelease existing : Option Json} {fields : Document}
    {ownerId : Int} {persisted : Bool}
    (clean : ∀ key value, fields.get? key = some value → DownloadFree rules value)
    : Keeps rules (protectDownloads rules rawRelease existing fields ownerId persisted)
        (DownloadFree rules) := by
  intro world result after done
  unfold protectDownloads at done
  cases grab : world.protectGrab rules rawRelease existing ownerId persisted with
  | mk reference granted =>
      rw [grab] at done
      have seals := sealsAll_protectGrab grab
      obtain ⟨protected_, added, done⟩ := bind_eq_ok_iff.mp done
      cases done
      have extracted := fieldsFree_addSourceId (fieldsFree_extract ?_) added
      · obtain ⟨magnetFree, magnetSeals⟩ :=
          addDownloadReference_spec (protected_, granted) extracted
        obtain ⟨torrentFree, torrentSeals⟩ := addDownloadReference_spec _ magnetFree
        exact ⟨seals.trans (magnetSeals.trans torrentSeals), Json.everyKey_ofDict torrentFree⟩
      · intro key value present
        cases reference with
        | none => exact clean key value present
        | some reference =>
            rw [Dict.get?_set] at present
            split at present
            · cases present
              exact downloadFree_text _
            · exact clean key value present

/-- Items are protected one after the other, by induction on them. -/
theorem keeps_protectItems {items : List (Protection Json)}
    (each : ∀ item ∈ items, Keeps rules item (DownloadFree rules))
    : Keeps rules (protectItems items) (fun values => ∀ value ∈ values, DownloadFree rules value)
    := by
  induction items with
  | nil =>
      intro world result after done
      cases done
      exact ⟨.refl, fun value impossible => by cases impossible⟩
  | cons item rest ih =>
      intro world result after done
      obtain ⟨⟨first, world'⟩, itemDone, done⟩ := bind_eq_ok_iff.mp done
      obtain ⟨⟨others, world''⟩, restDone, done⟩ := bind_eq_ok_iff.mp done
      cases done
      obtain ⟨sealsFirst, clean⟩ := each item List.mem_cons_self _ _ _ itemDone
      obtain ⟨sealsRest, cleanRest⟩ :=
        ih (fun later member => each later (List.mem_cons_of_mem _ member)) _ _ _ restDone
      exact ⟨sealsFirst.trans sealsRest, List.forall_mem_cons.mpr ⟨clean, cleanRest⟩⟩

/-- Fields are protected one after the other, by induction on them. -/
theorem keeps_protectFields {fields : List (String × Protection Json)} {start : Document}
    (each : ∀ field ∈ fields, Keeps rules field.2 (DownloadFree rules))
    (clean : ∀ key value, start.get? key = some value → DownloadFree rules value)
    : Keeps rules (protectFields fields start) (fun protected_ =>
        ∀ key value, Dict.get? protected_ key = some value → DownloadFree rules value) := by
  unfold protectFields
  induction fields generalizing start with
  | nil =>
      intro world result after done
      cases done
      exact ⟨.refl, clean⟩
  | cons field rest ih =>
      intro world result after done
      dsimp only at done
      rw [List.foldlM_cons] at done
      obtain ⟨⟨protected_, world'⟩, fieldDone, done⟩ := bind_eq_ok_iff.mp done
      obtain ⟨⟨value, world''⟩, valueDone, fieldDone⟩ := bind_eq_ok_iff.mp fieldDone
      cases fieldDone
      obtain ⟨sealsFirst, cleanValue⟩ := each field List.mem_cons_self _ _ _ valueDone
      have cleanSet
          : ∀ key found,
              Dict.get? (Dict.set start field.1 value) key = some found
              → DownloadFree rules found := by
        intro key found present
        rw [Dict.get?_set] at present
        split at present
        · cases present
          exact cleanValue
        · exact clean key found present
      obtain ⟨sealsRest, cleanRest⟩ :=
        ih (fun later member => each later (List.mem_cons_of_mem _ member)) cleanSet _ _ _ done
      exact ⟨sealsFirst.trans sealsRest, cleanRest⟩

/-- A protected value is free of downloads, by induction on the value. -/
theorem keeps_protectValue (ownerId : Int) (persisted : Bool) (value : Json)
    : Keeps rules (protectValue rules ownerId persisted value) (DownloadFree rules) := by
  induction value with
  | list length values ih =>
      intro world result after done
      obtain ⟨⟨items, world'⟩, itemsDone, done⟩ := bind_eq_ok_iff.mp done
      cases done
      have each
          : ∀ item ∈ List.ofFn (fun index => protectValue rules ownerId persisted (values index)),
              Keeps rules item (DownloadFree rules) := by
        intro item member
        obtain ⟨index, same⟩ := List.mem_ofFn.mp member
        cases same
        exact ih index
      obtain ⟨seals, clean⟩ := keeps_protectItems each _ _ _ itemsDone
      exact ⟨seals, Json.everyKey_ofList clean⟩
  | object keys unique values ih =>
      intro world result after done
      obtain ⟨⟨fields, world'⟩, fieldsDone, done⟩ := bind_eq_ok_iff.mp done
      have each
          : ∀ field ∈ (List.ofFn (fun index =>
                (keys.get index, protectValue rules ownerId persisted (values index)))).filter
              (fun field => field.1 ∉ ["_prowlarr_grab", "prowlarr_grab_ref"]),
              Keeps rules field.2 (DownloadFree rules) := by
        intro field member
        obtain ⟨index, same⟩ := List.mem_ofFn.mp (List.mem_of_mem_filter member)
        cases same
        exact ih index
      obtain ⟨seals, clean⟩ :=
        keeps_protectFields each (fun key value impossible => by cases impossible) _ _ _ fieldsDone
      obtain ⟨sealsRest, free⟩ := keeps_protectDownloads clean _ _ _ done
      exact ⟨seals.trans sealsRest, free⟩
  | null | bool _ | int _ | float _ _ | text _ =>
      intro world result after done
      cases done
      exact ⟨.refl, trivial⟩

end Protection

-- Where references come from

/-- The account of a reissued reference: that of its source, unless one of them is stored. -/
structure OwnerKept (fromOwner toOwner : Int) (fromPersisted toPersisted : Bool) : Prop where
  same : fromPersisted = false → toPersisted = false → fromOwner = toOwner
  unbound : toPersisted = true → toOwner = persistedOwnerId

structure DownloadPassed (from_ to_ : DownloadPayload) : Prop where
  value : from_.value = to_.value
  owner : OwnerKept from_.owner to_.owner from_.persisted to_.persisted

structure GrabPassed (from_ to_ : GrabPayload) : Prop where
  release : from_.release = to_.release
  expiresAt : from_.expiresAt = to_.expiresAt
  owner : OwnerKept from_.owner to_.owner from_.persisted to_.persisted

def DownloadBegun (given : String) (minted : Minted String DownloadPayload) : Prop :=
  downloadValue rules given = .ok minted.payload.value

def GrabBegun (given : Json) (minted : Minted Json GrabPayload) : Prop :=
  normalizedRelease given = .ok minted.payload.release
  ∧ minted.payload.expiresAt = minted.sealedAt + grabTtlSeconds

/-- All references lead back to given values. -/
structure ReferenceWorld.Bound (world : ReferenceWorld) : Prop where
  downloads : Traced (DownloadBegun rules) DownloadPassed world.clock world.downloads
  grabs : Traced GrabBegun GrabPassed world.clock world.grabs

section Binding

variable {rules} {world after : ReferenceWorld}

theorem downloadValue_eq {given value : String} (valid : downloadValue rules given = .ok value)
    : value = strip given := by
  unfold downloadValue at valid
  dsimp only at valid
  split at valid
  · cases valid
  · obtain ⟨kind, -, same⟩ := bind_eq_ok_iff.mp valid
    cases same
    rfl

theorem normalizedRelease_stripped {given : Json} {release : GrabRelease}
    (valid : normalizedRelease given = .ok release)
    : strip release.guid = release.guid := by
  unfold normalizedRelease at valid
  split at valid
  · cases valid
  · dsimp only at valid
    split at valid
    · split at valid
      · cases valid
      · cases valid
        exact strip_strip _
    · cases valid

theorem normalizedRelease_toJson {release again : GrabRelease}
    (valid : normalizedRelease release.toJson = .ok again)
    (stripped : strip release.guid = release.guid)
    : again = release := by
  unfold normalizedRelease GrabRelease.toJson at valid
  rw [Json.asDict?_ofDict] at valid
  simp only [Document.field, Dict.get?_set, String.reduceEq, if_false, if_true,
    Option.getD_some] at valid
  split_ifs at valid
  cases valid
  rw [stripped]

theorem normalizeOwnerId_eq {message : String} {ownerId owner : Int} {persisted : Bool}
    (valid : normalizeOwnerId message ownerId persisted = .ok owner)
    : owner = ownerId := by
  unfold normalizeOwnerId at valid
  split_ifs at valid
  all_goals
    cases valid
    rfl

theorem targetOwner_spec {message : String} {ownerId target : Int} {persisted : Bool}
    (valid : targetOwner message ownerId persisted = .ok target)
    : (persisted = true → target = persistedOwnerId)
      ∧ (persisted = false → target = ownerId) := by
  unfold targetOwner at valid
  split at valid
  · next stored =>
      cases valid
      exact ⟨fun _ => rfl, fun session => absurd stored (by simp [session])⟩
  · next session => exact ⟨fun stored => absurd stored session, fun _ => normalizeOwnerId_eq valid⟩

theorem issue_spec {ownerId : Int} {value kind reference : String} {persisted : Bool}
    {origin : Origin String}
    (issued
      : world.issue rules ownerId value kind persisted origin = .ok (reference, after))
    : ∃ kind' value',
        downloadValue rules value = .ok value'
        ∧ after
          = { world with
              downloads :=
                world.downloads
                ++ [⟨world.clock, ⟨ownerId, kind', value', persisted⟩, origin⟩] } := by
  unfold ReferenceWorld.issue at issued
  obtain ⟨owner, named, issued⟩ := bind_eq_ok_iff.mp issued
  obtain ⟨value', valid, issued⟩ := bind_eq_ok_iff.mp issued
  obtain ⟨kind', known, issued⟩ := bind_eq_ok_iff.mp issued
  cases issued
  cases normalizeOwnerId_eq named
  exact ⟨kind', value', valid, rfl⟩

theorem issueGrab_spec {ownerId : Int} {release : Json} {reference : String} {persisted : Bool}
    {expiresAt : Option Nat} {origin : Origin Json}
    (issued
      : world.issueGrab rules ownerId release persisted expiresAt origin
        = .ok (reference, after))
    : ∃ release',
        normalizedRelease release = .ok release'
        ∧ after
          = { world with
              grabs :=
                world.grabs
                ++ [⟨world.clock,
                  ⟨ownerId, release', persisted,
                    (expiresAt.filter (· ≠ 0)).getD (world.clock + grabTtlSeconds)⟩,
                  origin⟩] } := by
  unfold ReferenceWorld.issueGrab at issued
  obtain ⟨owner, named, issued⟩ := bind_eq_ok_iff.mp issued
  obtain ⟨release', valid, issued⟩ := bind_eq_ok_iff.mp issued
  cases issued
  cases normalizeOwnerId_eq named
  exact ⟨release', valid, rfl⟩

theorem removeLead?_eq_some {lead text rest : String} (removed : removeLead? lead text = some rest)
    : text = lead ++ rest := by
  unfold removeLead? at removed
  split at removed
  · next starts =>
      cases removed
      obtain ⟨tail, shape⟩ := List.isPrefixOf_iff_prefix.mp starts
      apply String.ext
      rw [String.toList_append, String.toList_ofList, ← shape, List.drop_left]
  · cases removed

theorem decode_spec {reference : String} {enforceTtl : Bool} {number : Nat}
    {minted : Minted String DownloadPayload}
    (decoded : world.decode rules reference enforceTtl = .ok (number, minted))
    : reference = referencePrefix ++ rules.downloadCipher.token number
      ∧ world.downloads[number]? = some minted
      ∧ (enforceTtl = true → world.clock ≤ minted.sealedAt + referenceTtlSeconds) := by
  unfold ReferenceWorld.decode at decoded
  split at decoded
  · cases decoded
  next token removed =>
    split at decoded
    · cases decoded
    next opened =>
      split at decoded
      · cases decoded
      next fresh =>
        cases decoded
        obtain ⟨own, present⟩ := Cipher.unseal?_eq_some_iff.mp opened
        refine ⟨own ▸ removeLead?_eq_some removed, present, ?_⟩
        intro enforced
        exact Nat.le_of_not_lt (fun expired => fresh ⟨enforced, expired⟩)

theorem referenceValue_spec {reference value : String} {ownerId : Int} {persisted : Bool}
    {number : Nat} {kind : DownloadKind}
    (opened
      : world.referenceValue rules reference ownerId persisted = .ok (number, kind, value))
    : ∃ minted,
        world.downloads[number]? = some minted
        ∧ value = strip minted.payload.value
        ∧ (persisted = false → minted.payload.persisted = false → minted.payload.owner = ownerId)
      := by
  unfold ReferenceWorld.referenceValue at opened
  obtain ⟨⟨number', minted⟩, decoded, opened⟩ := bind_eq_ok_iff.mp opened
  obtain ⟨target, named, opened⟩ := bind_eq_ok_iff.mp opened
  obtain ⟨-, present, -⟩ := decode_spec decoded
  split at opened
  · cases opened
  next allowed =>
    obtain ⟨value', valid, opened⟩ := bind_eq_ok_iff.mp opened
    obtain ⟨kind', known, opened⟩ := bind_eq_ok_iff.mp opened
    cases opened
    refine ⟨minted, present, downloadValue_eq valid, ?_⟩
    intro bare free
    by_contra other
    refine allowed ⟨by simp [bare], by simp [free], ?_⟩
    rwa [(targetOwner_spec named).2 bare]

theorem decodeGrab_spec {reference : String} {number : Nat} {minted : Minted Json GrabPayload}
    (decoded : world.decodeGrab rules reference = .ok (number, minted))
    : reference = grabReferencePrefix ++ rules.grabCipher.token number
      ∧ world.grabs[number]? = some minted
      ∧ world.clock < minted.payload.expiresAt := by
  unfold ReferenceWorld.decodeGrab at decoded
  split at decoded
  · cases decoded
  next token removed =>
    split at decoded
    · cases decoded
    next opened =>
      split at decoded
      · cases decoded
      next fresh =>
        cases decoded
        obtain ⟨own, present⟩ := Cipher.unseal?_eq_some_iff.mp opened
        exact ⟨own ▸ removeLead?_eq_some removed, present, Nat.lt_of_not_le fresh⟩

namespace ReferenceWorld.Bound

theorem opening (clock : Nat) : (ReferenceWorld.opening clock).Bound rules :=
  ⟨Traced.nil, Traced.nil⟩

theorem advance (bound : world.Bound rules) (seconds : Nat)
    : ReferenceWorld.Bound rules { world with clock := world.clock + seconds } :=
  ⟨bound.downloads.advance (Nat.le_add_right _ _), bound.grabs.advance (Nat.le_add_right _ _)⟩

theorem value_stripped (bound : world.Bound rules) {number : Nat}
    {minted : Minted String DownloadPayload} (present : world.downloads[number]? = some minted)
    : strip minted.payload.value = minted.payload.value := by
  obtain ⟨root, given, -, begun, same⟩ :=
    bound.downloads.exists_root DownloadPayload.value (fun _ _ passed => passed.value) present
  rw [← same, downloadValue_eq begun, strip_strip]

theorem release_stripped (bound : world.Bound rules) {number : Nat}
    {minted : Minted Json GrabPayload} (present : world.grabs[number]? = some minted)
    : strip minted.payload.release.guid = minted.payload.release.guid := by
  obtain ⟨root, given, -, begun, same⟩ :=
    bound.grabs.exists_root GrabPayload.release (fun _ _ passed => passed.release) present
  rw [← same, normalizedRelease_stripped begun.1]

theorem issue (bound : world.Bound rules) {ownerId : Int} {value kind reference : String}
    {persisted : Bool}
    (issued
      : world.issue rules ownerId value kind persisted (.issued value)
        = .ok (reference, after))
    : after.Bound rules := by
  obtain ⟨kind', value', valid, rfl⟩ := issue_spec issued
  refine ⟨bound.downloads.concat (Nat.le_refl _) ?_ ?_, bound.grabs⟩
  · intro given same
    cases same
    exact valid
  · intro source impossible
    cases impossible

theorem reissue (bound : world.Bound rules) {ownerId : Int} {source reference : String}
    {persisted : Bool}
    (reissued : world.reissue rules source ownerId persisted = .ok (reference, after))
    : after.Bound rules := by
  unfold ReferenceWorld.reissue at reissued
  obtain ⟨⟨number, kind, value⟩, opened, reissued⟩ := bind_eq_ok_iff.mp reissued
  obtain ⟨target, named, issued⟩ := bind_eq_ok_iff.mp reissued
  obtain ⟨minted, present, same, owner⟩ := referenceValue_spec opened
  obtain ⟨stored, session⟩ := targetOwner_spec named
  obtain ⟨kind', value', valid, rfl⟩ := issue_spec issued
  refine ⟨bound.downloads.concat (Nat.le_refl _) ?_ ?_, bound.grabs⟩
  · intro given impossible
    cases impossible
  · intro number' made
    cases made
    refine ⟨minted, present, ?_, ?_, stored⟩
    · show minted.payload.value = value'
      rw [downloadValue_eq valid, same, strip_strip, bound.value_stripped present]
    · intro free bare
      exact (owner bare free).trans (session bare).symm

theorem issueGrab (bound : world.Bound rules) {ownerId : Int} {release : Json}
    {reference : String} {persisted : Bool}
    (issued
      : world.issueGrab rules ownerId release persisted none (.issued release)
        = .ok (reference, after))
    : after.Bound rules := by
  obtain ⟨release', valid, rfl⟩ := issueGrab_spec issued
  refine ⟨bound.downloads, bound.grabs.concat (Nat.le_refl _) ?_ ?_⟩
  · intro given same
    cases same
    exact ⟨valid, rfl⟩
  · intro source impossible
    cases impossible

theorem reissueGrab (bound : world.Bound rules) {ownerId : Int} {source reference : String}
    {persisted : Bool}
    (reissued : world.reissueGrab rules source ownerId persisted = .ok (reference, after))
    : after.Bound rules := by
  unfold ReferenceWorld.reissueGrab at reissued
  obtain ⟨⟨number, minted⟩, decoded, reissued⟩ := bind_eq_ok_iff.mp reissued
  obtain ⟨target, named, reissued⟩ := bind_eq_ok_iff.mp reissued
  obtain ⟨-, present, unexpired⟩ := decodeGrab_spec decoded
  obtain ⟨stored, session⟩ := targetOwner_spec named
  split at reissued
  · cases reissued
  next allowed =>
    obtain ⟨release', valid, rfl⟩ := issueGrab_spec reissued
    refine ⟨bound.downloads, bound.grabs.concat (Nat.le_refl _) ?_ ?_⟩
    · intro given impossible
      cases impossible
    · intro number' made
      cases made
      refine ⟨minted, present, ?_, ?_, ?_, stored⟩
      · exact (normalizedRelease_toJson valid (bound.release_stripped present)).symm
      · have positive : minted.payload.expiresAt ≠ 0 := Nat.ne_of_gt (Nat.zero_lt_of_lt unexpired)
        rw [Option.filter_some, if_pos (decide_eq_true positive)]
        rfl
      · intro free bare
        have bare : persisted = false := bare
        by_contra other
        exact allowed ⟨by simp [bare], by simp [free], other⟩

theorem seals (bound : world.Bound rules) (seals : Seals rules world after)
    : after.Bound rules := by
  cases seals with
  | issue issued => exact bound.issue issued
  | reissue reissued => exact bound.reissue reissued
  | issueGrab issued => exact bound.issueGrab issued
  | reissueGrab reissued => exact bound.reissueGrab reissued

theorem sealsAll (bound : world.Bound rules) (seals : SealsAll rules world after)
    : after.Bound rules := by
  induction seals with
  | refl => exact bound
  | tail _ last ih => exact ih.seals last

theorem afterOutcome {α : Type} (bound : world.Bound rules)
    {outcome : Fallible (α × ReferenceWorld)}
    (seals : ∀ result after, outcome = .ok (result, after) → SealsAll rules world after)
    : (world.after outcome).Bound rules := by
  cases outcome with
  | error failure => exact bound
  | ok result =>
      obtain ⟨value, next⟩ := result
      exact bound.sealsAll (seals value next rfl)

theorem step (bound : world.Bound rules) (event : ReferenceEvent)
    : (world.step rules event).Bound rules := by
  cases event with
  | advance seconds => exact bound.advance seconds
  | issue ownerId value kind persisted =>
      exact bound.afterOutcome (fun _ _ issued => .single (.issue issued))
  | reissue source ownerId persisted =>
      exact bound.afterOutcome (fun _ _ reissued => .single (.reissue reissued))
  | issueGrab ownerId release persisted =>
      exact bound.afterOutcome (fun _ _ issued => .single (.issueGrab issued))
  | reissueGrab source ownerId persisted =>
      exact bound.afterOutcome (fun _ _ reissued => .single (.reissueGrab reissued))
  | protect payload ownerId persisted =>
      apply bound.afterOutcome
      intro result after done
      obtain ⟨owner, -, done⟩ := bind_eq_ok_iff.mp done
      exact (keeps_protectValue owner persisted payload _ _ _ done).1

theorem run (clock : Nat) (events : List ReferenceEvent)
    : (runReferences rules clock events).Bound rules := by
  unfold runReferences
  generalize start : ReferenceWorld.opening clock = world
  have bound : world.Bound rules := start ▸ opening clock
  clear start
  induction events generalizing world with
  | nil => exact bound
  | cons event rest ih => exact ih _ (bound.step event)

theorem resolve (bound : world.Bound rules) {ownerId : Int} {reference value : String}
    {expectedKind : Option String}
    (resolved : world.resolve rules ownerId reference expectedKind = .ok value)
    : ∃ number minted root given,
        reference = referencePrefix ++ rules.downloadCipher.token number
        ∧ world.downloads[number]? = some minted
        ∧ minted.payload.owner = ownerId ∧ minted.payload.persisted = false
        ∧ minted.sealedAt ≤ world.clock
        ∧ world.clock ≤ minted.sealedAt + referenceTtlSeconds
        ∧ RootOf world.downloads number root given
        ∧ downloadValue rules given = .ok value := by
  unfold ReferenceWorld.resolve at resolved
  obtain ⟨⟨number, minted⟩, decoded, resolved⟩ := bind_eq_ok_iff.mp resolved
  obtain ⟨owner, named, resolved⟩ := bind_eq_ok_iff.mp resolved
  obtain ⟨shape, present, fresh⟩ := decode_spec decoded
  obtain ⟨root, given, further, begun, same⟩ :=
    bound.downloads.exists_root DownloadPayload.value (fun _ _ passed => passed.value) present
  cases normalizeOwnerId_eq named
  split at resolved
  · cases resolved
  next allowed =>
    rw [not_or, Bool.not_eq_true, not_not] at allowed
    obtain ⟨value', valid, resolved⟩ := bind_eq_ok_iff.mp resolved
    obtain ⟨kind, known, resolved⟩ := bind_eq_ok_iff.mp resolved
    cases resolved
    refine ⟨number, minted, root, given, shape, present, allowed.2, allowed.1,
      bound.downloads.sealedBefore _ _ present, fresh rfl, further, ?_⟩
    rw [downloadValue_eq valid, bound.value_stripped present, ← same]
    exact begun

theorem resolveGrab (bound : world.Bound rules) {ownerId : Int} {reference : String}
    {release : GrabRelease}
    (resolved : world.resolveGrab rules ownerId reference = .ok release)
    : ∃ number minted root given,
        reference = grabReferencePrefix ++ rules.grabCipher.token number
        ∧ world.grabs[number]? = some minted
        ∧ minted.payload.owner = ownerId ∧ minted.payload.persisted = false
        ∧ minted.sealedAt ≤ world.clock
        ∧ world.clock < root.sealedAt + grabTtlSeconds
        ∧ RootOf world.grabs number root given
        ∧ normalizedRelease given = .ok release := by
  unfold ReferenceWorld.resolveGrab at resolved
  obtain ⟨⟨number, minted⟩, decoded, resolved⟩ := bind_eq_ok_iff.mp resolved
  obtain ⟨owner, named, resolved⟩ := bind_eq_ok_iff.mp resolved
  obtain ⟨shape, present, unexpired⟩ := decodeGrab_spec decoded
  obtain ⟨root, given, further, begun, same⟩ :=
    bound.grabs.exists_root (fun payload => (payload.release, payload.expiresAt))
      (fun _ _ passed => by rw [passed.release, passed.expiresAt]) present
  obtain ⟨sameRelease, sameExpiry⟩ := Prod.mk.inj same
  cases normalizeOwnerId_eq named
  split at resolved
  · cases resolved
  next allowed =>
    rw [not_or, Bool.not_eq_true, not_not] at allowed
    refine ⟨number, minted, root, given, shape, present, allowed.2, allowed.1,
      bound.grabs.sealedBefore _ _ present, ?_, further, ?_⟩
    · rw [← begun.2, sameExpiry]
      exact unexpired
    · rw [normalizedRelease_toJson resolved (bound.release_stripped present), ← sameRelease]
      exact begun.1

end ReferenceWorld.Bound

end Binding

-- Owners

/-- What every reference of a run serves: a resolved reference is one that was sealed for the
account within its lifetime, with the value of its root; a reissued one keeps its account.
-/
structure ReferenceWorld.OwnerBound (world : ReferenceWorld) : Prop where
  resolved
    : ∀ ownerId reference expectedKind value,
        world.resolve rules ownerId reference expectedKind = .ok value
        → ∃ (number : Nat) (minted root : Minted String DownloadPayload) (given : String),
            reference = referencePrefix ++ rules.downloadCipher.token number
            ∧ world.downloads[number]? = some minted
            ∧ minted.payload.owner = ownerId ∧ minted.payload.persisted = false
            ∧ minted.sealedAt ≤ world.clock
            ∧ world.clock ≤ minted.sealedAt + referenceTtlSeconds
            ∧ RootOf world.downloads number root given
            ∧ downloadValue rules given = .ok value
  resolvedGrab
    : ∀ ownerId reference release,
        world.resolveGrab rules ownerId reference = .ok release
        → ∃ (number : Nat) (minted root : Minted Json GrabPayload) (given : Json),
            reference = grabReferencePrefix ++ rules.grabCipher.token number
            ∧ world.grabs[number]? = some minted
            ∧ minted.payload.owner = ownerId ∧ minted.payload.persisted = false
            ∧ minted.sealedAt ≤ world.clock
            ∧ world.clock < root.sealedAt + grabTtlSeconds
            ∧ RootOf world.grabs number root given
            ∧ normalizedRelease given = .ok release
  reissued
    : ∀ (number : Nat) (minted : Minted String DownloadPayload) (source : Nat),
        world.downloads[number]? = some minted
        → minted.origin = .reissued source
        → ∃ from_ : Minted String DownloadPayload,
            world.downloads[source]? = some from_
            ∧ OwnerKept from_.payload.owner minted.payload.owner from_.payload.persisted
              minted.payload.persisted
  reissuedGrab
    : ∀ (number : Nat) (minted : Minted Json GrabPayload) (source : Nat),
        world.grabs[number]? = some minted
        → minted.origin = .reissued source
        → ∃ from_ : Minted Json GrabPayload,
            world.grabs[source]? = some from_
            ∧ OwnerKept from_.payload.owner minted.payload.owner from_.payload.persisted
              minted.payload.persisted

/-- A protected payload has no field of a download at any depth, and in every run the references
are bound to their owners: one of an account is reissued for the same account only, or as a
stored one, which belongs to no account and which nobody resolves.
-/
theorem references_ownerBound
    : (∀ (world : ReferenceWorld) payload ownerId persisted result after,
        world.protectDownloadReferences rules payload ownerId persisted = .ok (result, after)
        → DownloadFree rules result)
      ∧ ∀ clock events, (runReferences rules clock events).OwnerBound rules := by
  constructor
  · intro world payload ownerId persisted result after done
    obtain ⟨owner, -, done⟩ := bind_eq_ok_iff.mp done
    exact (keeps_protectValue owner persisted payload _ _ _ done).2
  · intro clock events
    have bound : (runReferences rules clock events).Bound rules := .run clock events
    refine ⟨fun _ _ _ _ => bound.resolve, fun _ _ _ => bound.resolveGrab, ?_, ?_⟩
    · intro number minted source present made
      obtain ⟨-, from_, known, passed⟩ := bound.downloads.passed number minted source present made
      exact ⟨from_, known, passed.owner⟩
    · intro number minted source present made
      obtain ⟨-, from_, known, passed⟩ := bound.grabs.passed number minted source present made
      exact ⟨from_, known, passed.owner⟩

-- A stored reference

/-- A reference sealed for an account is never reissued for another one. -/
def ReferenceWorld.NeverForAnother (world : ReferenceWorld) : Prop :=
  ∀ (number : Nat) (minted : Minted String DownloadPayload) (source : Nat)
    (from_ : Minted String DownloadPayload),
    world.downloads[number]? = some minted
    → minted.origin = .reissued source
    → world.downloads[source]? = some from_
    → from_.payload.persisted = false
    → minted.payload.owner = from_.payload.owner

/-- A cipher whose tokens are lines of growing length. -/
def lineCipher : Cipher where
  token number := String.ofList (List.replicate number 'x')
  token_injective := by
    intro left right same
    have lengths := congrArg (fun text => text.toList.length) same
    simpa using lengths

/-- Addresses are not split, and no key is decoded: magnets need neither. -/
def magnetRules : ReferenceRules where
  lower := lowerLetters
  lower_ascii := lowerLetters_ascii
  urlsplit? _ := none
  unquotePlus key := key
  downloadCipher := lineCipher
  grabCipher := lineCipher
  sourceDigest _ _ := ""

/-- A magnet for account 41 is stored, and the stored reference is reissued for account 42. -/
def storedMagnet : List ReferenceEvent :=
  [.issue 41 "magnet:?xt=film" "magnet" false, .reissue "ohsdl_" 42 true,
    .reissue "ohsdl_x" 42 false]

/-- Account 42 redeems what was sealed for account 41. -/
theorem storedMagnet_redeemed
    : ¬ (runReferences magnetRules 0 storedMagnet).NeverForAnother
      ∧ ((runReferences magnetRules 0 storedMagnet).downloads.map
          (fun minted => minted.payload.owner))
        = [41, 0, 42]
      ∧ ((runReferences magnetRules 0 storedMagnet).resolve magnetRules 42 "ohsdl_xx"
          none).toOption
        = some "magnet:?xt=film" := by
  refine ⟨?_, by decide, by decide⟩
  intro never
  have same := never 1 _ 0 _ rfl rfl rfl rfl
  revert same
  decide

end OctoHubs.Search.References
