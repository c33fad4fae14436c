import OctoHubs.Library.Coercions
import OctoHubs.Library.Substitution

/-! Libraries of several servers are grouped by their names, as they are spelled without regard to
case and separators, or by the group that they are put in by hand.
-/

namespace OctoHubs.Libraries

open OctoHubs.Library

/-- How names are read; characters that a name may not have are shown as blanks. -/
structure NameRules extends Alphabet where
  forbidden : Char → Bool

variable (rules : NameRules)

-- Names

def maxLibraryGroupNameLength : Nat := 500

def projectLibraryGroupName (value : Json) : String :=
  match value with
  | .text value =>
      let shown := value.toList.map (fun c => if rules.forbidden c then ' ' else c)
      let normalized := strip (String.ofList shown)
      String.ofList ((normalized.toList.take maxLibraryGroupNameLength).rdropWhile isSpace)
  | _ => ""

/-- A letter of a word, where an underscore is one. -/
def isWordChar (c : Char) : Bool := rules.isAlphanumeric c || c = '_'

/-- One of the two neighbours of a place is a letter and the other one is not. -/
def atBoundary (before after : Option Char) : Bool :=
  before.any (isWordChar rules) != after.any (isWordChar rules)

/-- The lengths of what an expression can find, in the order in which it is tried. -/
def findWord (lengths : List Char → List Nat) (replacement : List Char) (before : Option Char)
    (text : List Char)
    : Option (Nat × List Char) :=
  if atBoundary rules before text.head? then
    ((lengths text).find? (fun length =>
      atBoundary rules (text[length - 1]?) text[length]?)).map (·, replacement)
  else none

/-- The expression for ultra-high definition between its boundaries: ultra and hd with any
whitespace between them, ultra-hd, or uhd.
-/
def uhdLengths (text : List Char) : List Nat :=
  let rest := text.drop 5
  (if "ultra".toList.isPrefixOf text && "hd".toList.isPrefixOf (rest.dropWhile isSpace) then
    [5 + (rest.takeWhile isSpace).length + 2]
  else [])
  ++ (if "ultra-hd".toList.isPrefixOf text then [8] else [])
  ++ (if "uhd".toList.isPrefixOf text then [3] else [])

def fourKLengths (text : List Char) : List Nat := if "4k".toList.isPrefixOf text then [2] else []

def isPunctuation (c : Char) : Bool := ".,-:_()[]\x7b\x7d".toList.contains c

def normalizeNameForGrouping (name : Json) : String :=
  match name with
  | .text name =>
      let normalized := (rules.lower (strip name)).toList
      let normalized := substitute (findWord rules uhdLengths "4k".toList) 0 none normalized
      let normalized := substitute (findWord rules fourKLengths "4k".toList) 0 none normalized
      let normalized := foldRuns isPunctuation ' ' false normalized
      let normalized := foldRuns isSpace ' ' false normalized
      strip (String.ofList normalized)
  | _ => ""

-- Groups

structure GroupedLibrary where
  serverId : String
  serverName : Json
  serverAlias : Json
  serverIcon : Json
  serverIconColor : Json
  serverIconStyle : Json
  id : Json
  libraryId : Json
  folderId : Json
  itemId : Json
  guid : Json
  viewIds : Json
  libraryName : Json

structure LibraryGroup where
  nameCounts : Dict String Nat
  manualName : Option String
  collectionType : String
  servers : List String
  libraries : List GroupedLibrary

structure ShownGroup where
  groupName : String
  collectionType : String
  servers : List String
  libraries : List GroupedLibrary

abbrev GroupKey := String × String

/-- The first value that counts as true; the last one if none does. -/
def firstOf (values : List Json) (default_ : Json) : Json := (values.find? Json.truthy).getD default_

/-- A library that is listed, under its key. -/
structure Placement where
  key : GroupKey
  manualName : Option String
  library : GroupedLibrary

/-- The group that a library is put in by hand. -/
def manualGroupName (associations : Dict (String × String) String) (serverId : String)
    (entry : Document)
    : Option String :=
  let libraryId := firstOf [entry.field "id"] (entry.field "library_id")
  if libraryId.truthy then
    (associations.get? (serverId, libraryId.asText rules.toAlphabet)).filter (· ≠ "")
  else none

/-- The name of a library as it is grouped. -/
def ownName (entry : Document) : String :=
  normalizeNameForGrouping rules (.text (projectLibraryGroupName rules (entry.field "name")))

/-- The key of a library: the group that it is put in by hand, or its own name. -/
def placeLibrary (associations : Dict (String × String) String) (serverId : String)
    (payload entry : Document)
    : Option Placement :=
  match entry.field "collection_type" with
  | .text collectionType =>
      let serverName :=
        firstOf [payload.field "name", payload.field "server_name"] (.text serverId)
      let library : GroupedLibrary :=
        { serverId := serverId
          serverName := serverName
          serverAlias := firstOf [payload.field "alias", payload.field "original_name"] serverName
          serverIcon :=
            firstOf [payload.field "icon", payload.field "server_icon"] (.text "fa-server")
          serverIconColor :=
            firstOf [payload.field "icon_color", payload.field "server_icon_color"]
              (.text "#3b82f6")
          serverIconStyle :=
            firstOf [payload.field "icon_style", payload.field "server_icon_style"] (.text "solid")
          id := entry.field "id"
          libraryId := firstOf [entry.field "id"] (entry.field "library_id")
          folderId := entry.field "folder_id"
          itemId := entry.field "item_id"
          guid := entry.field "guid"
          viewIds := firstOf [entry.field "view_ids"] (.ofList [])
          libraryName := entry.field "name" }
      match manualGroupName rules associations serverId entry with
      | some manualName =>
          let manualName := projectLibraryGroupName rules (.text manualName)
          let normalized := normalizeNameForGrouping rules (.text manualName)
          let name := if normalized = "" then "manual_" ++ manualName else normalized
          some ⟨(name, collectionType), some manualName, library⟩
      | none =>
          if ownName rules entry = "" then none
          else some ⟨(ownName rules entry, collectionType), none, library⟩
  | _ => none

/-- Add a library to the group of its key. A name that is given by hand stays. -/
def addLibrary (groups : Dict GroupKey LibraryGroup) (placement : Placement)
    : Dict GroupKey LibraryGroup :=
  let library := placement.library
  let group : LibraryGroup :=
    match groups.get? placement.key with
    | none =>
        { nameCounts := ∅, manualName := placement.manualName,
          collectionType := placement.key.2, servers := [], libraries := [] }
    | some group =>
        if placement.manualName.any (· ≠ "") && !group.manualName.any (· ≠ "") then
          { group with manualName := placement.manualName }
        else group
  let bounded := projectLibraryGroupName rules library.libraryName
  groups.set placement.key
    { group with
      nameCounts :=
        if bounded = "" then group.nameCounts
        else group.nameCounts.set bounded ((group.nameCounts.get? bounded).getD 0 + 1)
      servers :=
        if library.serverId ∈ group.servers then group.servers
        else group.servers ++ [library.serverId]
      libraries := group.libraries ++ [library] }

/-- The libraries of the servers that are listed, in order. -/
def placements (servers : Dict String Json) (associations : Dict (String × String) String)
    : List Placement :=
  servers.items.flatMap (fun (serverId, payload) =>
    match payload.asDict? with
    | none => []
    | some payload =>
        (((payload.field "libraries").asList?).getD []).filterMap (fun entry =>
          entry.asDict?.bind (placeLibrary rules associations serverId payload)))

/-- The name that is counted most often, the first one of several. -/
def mostCommon (counts : Dict String Nat) : Option String :=
  (counts.items.foldl (fun (best : Option (String × Nat)) item =>
    if best.any (item.2 ≤ ·.2) then best else some item) none).map Prod.fst

def showGroup (group : LibraryGroup) : ShownGroup where
  groupName :=
    match group.manualName.filter (· ≠ "") with
    | some manualName => projectLibraryGroupName rules (.text manualName)
    | none =>
        ((mostCommon group.nameCounts).map (fun name =>
          projectLibraryGroupName rules (.text name))).getD ""
  collectionType := group.collectionType
  servers := group.servers.mergeSort (fun left right => decide (left ≤ right))
  libraries := group.libraries

def groupLibraries (servers : Dict String Json)
    (associations : Dict (String × String) String)
    : List ShownGroup :=
  ((placements rules servers associations).foldl (addLibrary rules) ∅).values.map
    (showGroup rules)

end OctoHubs.Libraries
