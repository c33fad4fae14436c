import OctoHubs.Library.Decimals
import OctoHubs.Library.Distinct
import OctoHubs.Library.TextParts

/-! The queries that releases are searched with: every title with every term, language, season
and year, and then with every wanted episode.
-/

namespace OctoHubs.Search

open OctoHubs.Library

def maxPrimaryQueryVariants : Nat := 80
def maxSearchRuleTerms : Nat := 100
def maxSearchTermLength : Nat := 200

/-- The alphabet of titles: letters without their case, and with their marks split off. -/
structure TitleAlphabet extends Alphabet where
  casefold : String → String
  decompose : String → String
  isMark : Char → Bool

structure SearchConfig where
  searchRules : Option Document
  targetLanguages : Json

/-- What queries are built from. -/
structure QueryRequest where
  titleCandidates : List String
  year : Json
  config : SearchConfig
  mediaType : Option String
  seasonCode : Option Int
  episodeCount : Option Int
  requestTerms : Option Document
  pendingEpisodes : Option (List Json)
  searchRulesOverride : Option Document
  yearVariance : Int

def defaultSeasonTemplates : List String := ["S{season02}", "Season {season}", "Stagione {season}"]

def defaultSearchRules : Document :=
  ⟨[("query_terms", .ofList []), ("include_target_lang_base", .bool false),
    ("ignore_year_for_tv", .bool false),
    ("season_templates", .ofList (defaultSeasonTemplates.map Json.text)),
    ("search_episode_variants", .bool true),
    ("skip_season_queries_when_episode_search", .bool false), ("sanitize_titles", .bool true)],
    by decide⟩

variable (alphabet : TitleAlphabet)

/-- The different terms of a list or of a text with commas; those that are too long are left
out. -/
def normalizeRuleTerms (value : Json) : List String :=
  if ¬ value.truthy then []
  else
    let rawItems :=
      match value with
      | .text text => splitAt ',' text
      | value =>
          (value.asList?.getD []).filterMap (fun item : Json =>
            match item with
            | .text text => some text
            | _ => none)
    appendNew alphabet.casefold (some maxSearchRuleTerms) []
      ((rawItems.map strip).filter (fun term => term ≠ "" ∧ term.length ≤ maxSearchTermLength))

/-- The letters, digits and words of a title. -/
def sanitizeTitle (value : String) : String :=
  let asciiChars :=
    (alphabet.decompose value).toList.filterMap (fun c =>
      if alphabet.isMark c then none
      else if c ∈ ['\'', '`'] then some ' '
      else if alphabet.isAlphanumeric c ∨ isSpace c then some c
      else none)
  " ".intercalate (words (String.ofList asciiChars))

/-- A number with two places at least; a sign takes one of them. -/
def showTwoPlaces : Int → String
  | .ofNat number => String.ofList (twoDigits number)
  | .negSucc number => "-" ++ toString (number + 1)

def episodeToken (season episode : Int) : String :=
  "S" ++ showTwoPlaces season ++ "E" ++ showTwoPlaces episode

def alternativeToken (season episode : Int) : String :=
  toString season ++ "x" ++ showTwoPlaces episode

def composeQuery (titleValue : String) (additionalTerm seasonToken : Option String)
    (yearValue : Option Int)
    : String :=
  let components :=
    [titleValue] ++ seasonToken.toList ++ additionalTerm.toList
      ++ ((yearValue.filter (· ≠ 0)).map toString).toList
  " ".intercalate (components.filter (· ≠ ""))

/-- All queries of the given parts, the last part changing first. -/
def crossQueries (terms : List (Option String)) (forms : List String)
    (tokens : List (Option String)) (years : List (Option Int))
    : List String :=
  terms.flatMap (fun term =>
    forms.flatMap (fun form =>
      tokens.flatMap (fun token => years.map (composeQuery form term token))))

namespace QueryRequest

variable (request : QueryRequest)

def rules : Document :=
  match request.searchRulesOverride.filter (·.items ≠ []) with
  | some rules => rules
  | none => request.config.searchRules.getD defaultSearchRules

def langTerms : List String :=
  if "query_languages" ∈ request.rules.keys then
    normalizeRuleTerms alphabet (request.rules.field "query_languages")
  else normalizeRuleTerms alphabet request.config.targetLanguages

def includeLanguageVariants : Bool := (request.rules.field "include_target_lang_base").truthy

/-- The terms of the rules and of the request. -/
def primaryTerms : List String :=
  let ruleTerms := normalizeRuleTerms alphabet (request.rules.field "query_terms")
  let requestTerms :=
    (request.requestTerms.filter (·.items ≠ [])).elim [] (fun terms =>
      normalizeRuleTerms alphabet (terms.field "query_terms"))
  appendNew id none [] (ruleTerms ++ requestTerms)

def forceLanguageOnly : Bool :=
  request.langTerms alphabet ≠ [] ∧ ¬ request.includeLanguageVariants

def queryTerms : List String :=
  if request.forceLanguageOnly alphabet then
    appendNew id none (request.primaryTerms alphabet) (request.langTerms alphabet)
  else request.primaryTerms alphabet

def langVariantTerms : List String :=
  if request.includeLanguageVariants then request.langTerms alphabet else []

def useOnlyTermQueries : Bool :=
  0 < (request.primaryTerms alphabet).length ∨ request.forceLanguageOnly alphabet

def skipYear : Bool :=
  request.mediaType = some "tv" ∧ (request.rules.field "ignore_year_for_tv").truthy

/-- The years around the given one, in their order; a year that is no number fails. -/
def yearValues? : Option (List (Option Int)) :=
  if request.skipYear ∨ ¬ request.year.truthy then some [none]
  else
    (request.year.toInt? alphabet.toAlphabet).map (fun year : Int =>
      let variance := (max 0 request.yearVariance).toNat
      let around : List Int :=
        (List.range (2 * variance + 1)).map (fun delta : Nat => year - variance + delta)
      (around.filter (fun candidate => candidate = year ∨ 0 < candidate)).map some)

def seasonTemplates : List String :=
  let templates := normalizeRuleTerms alphabet (request.rules.field "season_templates")
  if templates = [] then defaultSeasonTemplates else templates

def seasonTokens : List String :=
  request.seasonCode.elim [] (fun season =>
    appendNew id none []
      ((((request.seasonTemplates alphabet).map strip).filter (· ≠ "")).map (fun template =>
        replaceAll (replaceAll template "{season02}" (showTwoPlaces season)) "{season}"
          (toString season))
      |>.filter (· ≠ "")))

def tokenVariants : List (Option String) :=
  if request.seasonTokens alphabet = [] then [none]
  else (request.seasonTokens alphabet).map some

/-- Whether the queries for whole seasons are left out. -/
def skipSeasonQueries : Bool :=
  request.seasonCode.isSome
  ∧ (request.rules.field "skip_season_queries_when_episode_search").truthy

def includeEpisodeVariants : Bool :=
  request.skipSeasonQueries
  ∨ ((request.rules.get? "search_episode_variants").map Json.truthy).getD true

def primarySeasonTokens : List (Option String) :=
  if request.skipSeasonQueries then [] else request.tokenVariants alphabet

def episodeLimit : Int := (request.episodeCount.filter (0 < ·)).getD 20

def positiveNumbers (episodes : List Json) : List Int :=
  (episodes.filterMap (fun episode =>
    match episode with
    | .int number => some number
    | .bool value => some (if value then 1 else 0)
    | _ => none)).filter (0 < ·)

/-- The wanted episodes, or all of the season. -/
def episodes : List Int :=
  let pending := positiveNumbers (request.pendingEpisodes.getD [])
  if pending = [] then (List.range request.episodeLimit.toNat).map (fun index : Nat => index + 1)
  else pending

def candidateForms (title : String) : List String :=
  let sanitized := sanitizeTitle alphabet title
  if (request.rules.field "sanitize_titles").truthy ∧ sanitized ≠ "" ∧ sanitized ≠ title then
    [title, sanitized]
  else [title]

def primaryQueries (years : List (Option Int)) (title : String) : List String :=
  let forms := request.candidateForms alphabet title
  let terms := (request.queryTerms alphabet).map some
  let seasons := request.primarySeasonTokens alphabet
  let named :=
    if seasons = [] then []
    else if request.useOnlyTermQueries alphabet then
      crossQueries terms forms (request.tokenVariants alphabet) years
    else crossQueries [none] forms seasons years ++ crossQueries terms forms seasons years
  let targets :=
    if request.skipSeasonQueries then []
    else if seasons = [] then request.tokenVariants alphabet
    else seasons
  named ++ crossQueries ((request.langVariantTerms alphabet).map some) forms targets years

def episodeTerms : List (Option String) :=
  (if request.useOnlyTermQueries alphabet then [] else [none])
    ++ (request.queryTerms alphabet).map some ++ (request.langVariantTerms alphabet).map some

def episodeQueries (years : List (Option Int)) (title : String) : List String :=
  if request.includeEpisodeVariants then
    request.seasonCode.elim [] (fun season =>
      request.episodes.flatMap (fun episode =>
        (request.episodeTerms alphabet).flatMap (fun term =>
          (request.candidateForms alphabet title).flatMap (fun form =>
            years.flatMap (fun year =>
              [composeQuery form term (some (episodeToken season episode)) year,
                composeQuery form term (some (alternativeToken season episode)) year])))))
  else []

/-- The queries without the whitespace at their ends, if anything is left. -/
def normalized (queries : List String) : List String :=
  (queries.map strip).filter (· ≠ "")

/-- The queries; only those that name no episode are limited. -/
def buildSearchQueries : Option (List String) :=
  (request.yearValues? alphabet).map (fun years =>
    let titles := request.titleCandidates.filter (· ≠ "")
    let primary := titles.flatMap (request.primaryQueries alphabet years)
    let episode := titles.flatMap (request.episodeQueries alphabet years)
    let limited :=
      appendNew alphabet.lower (some maxPrimaryQueryVariants) [] (normalized primary)
    let deduped := appendNew alphabet.lower none limited (normalized episode)
    if deduped = [] then request.titleCandidates.head?.toList else deduped)

end QueryRequest

end OctoHubs.Search
