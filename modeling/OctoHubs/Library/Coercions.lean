import OctoHubs.Library.Json
import OctoHubs.Library.Text

/-! Values of a document read as texts, numbers, truth values and lists of texts. -/

namespace OctoHubs.Library

/-- The parts between the separators, empty ones included. -/
def splitAt (separator : Char) (text : String) : List String :=
  (text.toList.splitOn separator).map String.ofList

/-- The parts between the whitespace. -/
def words (text : String) : List String :=
  ((text.toList.splitOnP isSpace).filter (· ≠ [])).map String.ofList

def includes (text marker : String) : Bool :=
  text.toList.tails.any (fun tail => marker.toList.isPrefixOf tail)

/-- What depends on the alphabet: letter cases, digits, and lists and dictionaries as texts. -/
structure Alphabet where
  lower : String → String
  isAlphanumeric : Char → Bool
  readInt? : String → Option Int
  showNested : Json → String

variable (alphabet : Alphabet)

namespace Json

def asText : Json → String
  | null => "None"
  | bool value => if value then "True" else "False"
  | int value => toString value
  | float _ shown => shown
  | text value => value
  | nested => alphabet.showNested nested

/-- The text of a value, where a value that counts as false has the default. -/
def textOr (value : Json) (default_ : String) : String :=
  if value.truthy then value.asText alphabet else default_

/-- The whole number that a value is or spells, truncated. -/
def toInt? : Json → Option Int
  | bool value => some (if value then 1 else 0)
  | int value => some value
  | float value _ => some (value.num.tdiv value.den)
  | text value => alphabet.readInt? value
  | _ => none

def boundedInt (value : Json) (minimum maximum default_ : Int) : Int :=
  (value.toInt? alphabet).elim default_ (fun number => max minimum (min maximum number))

def toBool (value : Json) (default_ : Bool) : Bool :=
  match value with
  | .bool value => value
  | .null => default_
  | value =>
      let text := alphabet.lower (strip (value.asText alphabet))
      if text ∈ ["1", "true", "yes", "on", "si", "sì"] then true
      else if text ∈ ["0", "false", "no", "off"] then false
      else default_

/-- The different texts of a list, of a text with commas, or of a single value. -/
def stringList (value : Json) : List String :=
  let parts :=
    match value with
    | .null => []
    | .text value => (splitAt ',' value).map Json.text
    | value => value.asList?.getD [value]
  parts.foldl
    (fun result part =>
      let text := strip (part.textOr alphabet "")
      if text ≠ "" ∧ text ∉ result then result ++ [text] else result)
    []

end Json

end OctoHubs.Library
