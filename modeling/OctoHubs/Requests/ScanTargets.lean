import Mathlib.Data.Finset.Sort
import OctoHubs.Library.Coercions
import OctoHubs.Library.JoinedEntries

/-! Targets of a scan: which requests are scanned, which of their seasons, and whether by force.
-/

namespace OctoHubs.Requests

open OctoHubs.Library

/-- What is asked of a request; without a set of seasons it is all of them. -/
structure TargetSpec where
  seasons : Option (Finset Int)
  force : Bool
deriving DecidableEq

abbrev TargetMap := Dict String TargetSpec

variable (alphabet : Alphabet)

/-- The seasons that a list names; all of them, if it names none at some place. -/
def readSeasons (seasons : Finset Int) : List Json → Option (Finset Int)
  | [] => some seasons
  | .null :: _ => none
  | entry :: entries =>
      readSeasons ((entry.toInt? alphabet).elim seasons (insert · seasons)) entries

/-- What a loop over a value goes through; a dictionary is its keys. -/
def loopItems? (value : Json) : Option (List Json) :=
  value.asList?.or (value.asDict?.map (fun fields => fields.keys.map Json.text))

def normalizeSeasonSpec (value : Json) : Option (Finset Int) :=
  match value with
  | .null => none
  | .int number => some {number}
  | .float number _ => some {number.num.tdiv number.den}
  | .text text =>
      let stripped := strip text
      if stripped = "" then none else (alphabet.readInt? stripped).map ({·})
  | .bool _ => none
  | value =>
      (readSeasons alphabet ∅ ((loopItems? value).getD [])).filter (· ≠ ∅)

/-- What is asked of the request that a value shows; none if it shows no text. -/
def targetOf (requestId : Json) (spec : TargetSpec) : Option (String × TargetSpec) :=
  let requestId := strip (requestId.asText alphabet)
  if requestId = "" then none else some (requestId, spec)

/-- The request that the fields of an entry are about and what they ask. -/
def readFields (fields : Document) : Option (String × TargetSpec) :=
  let requestId :=
    if (fields.field "request_id").truthy then fields.field "request_id" else fields.field "id"
  match requestId with
  | .null => none
  | requestId =>
      targetOf alphabet requestId
        ⟨normalizeSeasonSpec alphabet (fields.field "seasons"), (fields.field "force").truthy⟩

/-- The request that an entry is about and what it asks; none if it is about no request. -/
def readTarget (entry : Json) : Option (String × TargetSpec) :=
  match entry with
  | .int _ | .bool _ | .text _ => targetOf alphabet entry ⟨none, false⟩
  | entry => entry.asDict?.bind (readFields alphabet)

/-- Two entries about one request ask for what either asks for. -/
def TargetSpec.join (current : Option TargetSpec) (spec : TargetSpec) : TargetSpec :=
  match current with
  | some current =>
      { seasons := current.seasons.bind (fun seasons => spec.seasons.map (seasons ∪ ·))
        force := current.force || spec.force }
  | none => spec

/-- The entries that targets are given as: one of them, a list, or the keys of a dictionary. -/
def targetEntries (entries : Json) : Except String (List Json) :=
  match entries with
  | .int _ | .bool _ | .text _ => .ok [entries]
  | entries =>
      if (entries.asDict?.bind (·.get? "request_id")).isSome then .ok [entries]
      else (loopItems? entries).elim (.error "TypeError") .ok

def normalizeScanTargets (entries : Json) : Except String (Option TargetMap) :=
  if ¬entries.truthy then .ok none
  else
    (targetEntries entries).map (fun entries =>
      let normalized := joinEntries TargetSpec.join ∅ (entries.filterMap (readTarget alphabet))
      if normalized.items = [] then none else some normalized)

/-- Seasons as a list, in order. -/
def serializeSeasons (seasons : Option (Finset Int)) : Json :=
  match seasons with
  | none => .null
  | some seasons =>
      if seasons = ∅ then .null else .ofList ((seasons.sort (· ≤ ·)).map Json.int)

def serializeTarget (item : String × TargetSpec) : Json :=
  .ofDict
    ⟨[("request_id", .text item.1), ("seasons", serializeSeasons item.2.seasons),
      ("force", .bool item.2.force)], by simp⟩

def serializeTargetMap (targetMap : Option TargetMap) : Json :=
  match targetMap with
  | none => .null
  | some targetMap =>
      if targetMap.items = [] then .null else .ofList (targetMap.items.map serializeTarget)

end OctoHubs.Requests
