import OctoHubs.Time
import OctoHubs.UserItems.ItemMatching

/-! Playback states of items as they are read from servers, and comparisons of their dates. -/

namespace OctoHubs.UserItems

open OctoHubs.Library

/-- Dates in texts. A date without a zone is one in UTC. -/
structure Calendar where
  fromisoformat : String → Option Timestamp

/-- A date is there unless it is missing or empty. -/
def dated (date : Option String) : Bool := date.any (· ≠ "")

/-- Where the zone begins after the fraction of a second. -/
def zonePosition (suffix : List Char) : Option Nat :=
  ['+', '-'].findSome? (fun marker =>
    let position := suffix.idxOf marker
    if 0 < position ∧ position < suffix.length then some position else none)

/-- Fractions of a second have exactly six digits. -/
def sixDigits (text : List Char) : List Char :=
  match text.span (· ≠ '.') with
  | (lead, _ :: suffix) =>
      let position := (zonePosition suffix).getD suffix.length
      lead ++ '.' :: (((suffix.take position).take 6).rightpad 6 '0' ++ suffix.drop position)
  | (_, []) => text

/-- A server's date in the form that is read. -/
def normalizedDate (text : String) : String :=
  let chars := text.toList
  let zoned :=
    if chars.getLast? = some 'Z' then chars.dropLast ++ "+00:00".toList else chars
  String.ofList (sixDigits zoned)

section Dates

variable (calendar : Calendar)

def parseEmbyDatetime (date : Option String) : Option Timestamp :=
  if dated date then
    let text := strip (date.getD "")
    if text = "" then none else calendar.fromisoformat (normalizedDate text)
  else none

variable {calendar} in
theorem dated_of_parse {date : Option String} {time : Timestamp}
    (parsed : parseEmbyDatetime calendar date = some time)
    : dated date = true := by
  unfold parseEmbyDatetime at parsed
  split at parsed
  · assumption
  · cases parsed

def lastPlayedDiffers (source target : Option String) : Bool :=
  if dated source = false then false
  else if dated target = false then true
  else
    match parseEmbyDatetime calendar source, parseEmbyDatetime calendar target with
    | some sourceTime, some targetTime => sourceTime ≠ targetTime
    | _, _ => strip (source.getD "") ≠ strip (target.getD "")

def lastPlayedIsOlder (candidate current : Option String) : Bool :=
  if dated candidate = false then false
  else if dated current = false then true
  else
    match parseEmbyDatetime calendar candidate, parseEmbyDatetime calendar current with
    | some candidateTime, some currentTime => candidateTime < currentTime
    | _, _ => strip (candidate.getD "") < strip (current.getD "")

/-- The date is missing or can be read. -/
def Readable (date : Option String) : Prop :=
  dated date = true → ∃ time, parseEmbyDatetime calendar date = some time

end Dates

/-- What a server keeps of a user and an item. -/
structure UserData where
  played : Bool
  playbackPositionTicks : Int
  lastPlayedDate : Option String
  hideFromResume : Option Bool
deriving DecidableEq

/-- An item of a user's library. An item without an id has an empty one. -/
structure LibraryItem where
  id : String
  details : Item
  userData : UserData

structure ResumeState where
  position : Int
  lastPlayed : Option String
  hideFromResume : Option Bool
deriving DecidableEq

def resumeStateFromUserData (userData : UserData) : ResumeState where
  position := userData.playbackPositionTicks
  lastPlayed := userData.lastPlayedDate
  hideFromResume := userData.hideFromResume

def newYear : String := "2024-01-01T00:00:00Z"

def newYearCalendar : Calendar where
  fromisoformat text :=
    if text = "2024-01-01T00:00:00+00:00" then some (1704067200 * second) else none

end OctoHubs.UserItems
