import Mathlib.Data.List.Perm.Subperm
import OctoHubs.Library.Decimals
import OctoHubs.Search.QueryBuilding

/-! No wanted episode is left out of the queries: the limit holds for the queries that name no
episode, and a query that repeats another up to letter case stands for it.
-/

namespace OctoHubs.Search

open OctoHubs.Library

-- Tokens

/-- Text without whitespace. -/
def Solid (text : String) : Prop := ∀ c ∈ text.toList, isSpace c = false

theorem Solid.append {left right : String} (front : Solid left) (back : Solid right)
    : Solid (left ++ right) := by
  intro c member
  rw [String.toList_append] at member
  rcases List.mem_append.mp member with first | last
  · exact front c first
  · exact back c last

theorem not_isSpace_of_mem_toDigits {number : Nat} {c : Char}
    (member : c ∈ Nat.toDigits 10 number)
    : isSpace c = false :=
  isSpace_of_isAlphanum (by
    simp [Char.isAlphanum, Nat.isDigit_of_mem_toDigits (by decide) (by decide) member])

theorem solid_toString (number : Int) : Solid (toString number) := by
  intro c member
  rcases isDigit_or_sign_of_mem_toString member with digit | rfl
  · exact isSpace_of_isAlphanum (by simp [Char.isAlphanum, digit])
  · rfl

theorem solid_showTwoPlaces (number : Int) : Solid (showTwoPlaces number) := by
  cases number with
  | ofNat number =>
      intro c member
      rw [showTwoPlaces, String.toList_ofList, twoDigits] at member
      split at member
      · rcases List.mem_cons.mp member with rfl | later
        · rfl
        · exact not_isSpace_of_mem_toDigits later
      · exact not_isSpace_of_mem_toDigits member
  | negSucc number => exact solid_toString (.negSucc number)

theorem solid_letter (letter : Char) (visible : isSpace letter = false)
    : Solid (String.singleton letter) := by
  intro c member
  have here : c = letter := by simpa using member
  rw [here, visible]

theorem solid_episodeToken (season episode : Int) : Solid (episodeToken season episode) :=
  (((solid_letter 'S' rfl).append (solid_showTwoPlaces season)).append
    (solid_letter 'E' rfl)).append (solid_showTwoPlaces episode)

theorem solid_alternativeToken (season episode : Int)
    : Solid (alternativeToken season episode) :=
  ((solid_toString season).append (solid_letter 'x' rfl)).append
    (solid_showTwoPlaces episode)

/-- The spellings of an episode. -/
def tokensOf (season episode : Int) : List String :=
  [episodeToken season episode, alternativeToken season episode]

theorem solid_of_mem_tokensOf {season episode : Int} {token : String}
    (member : token ∈ tokensOf season episode)
    : Solid token ∧ token ≠ "" := by
  rcases List.mem_pair.mp member with rfl | rfl
  · refine ⟨solid_episodeToken season episode, ?_⟩
    intro bare
    simpa [episodeToken] using congrArg String.toList bare
  · refine ⟨solid_alternativeToken season episode, ?_⟩
    intro bare
    simpa [alternativeToken] using congrArg String.toList bare

theorem includes_composeQuery {season episode : Int} {token : String}
    (member : token ∈ tokensOf season episode) (title : String) (term : Option String)
    (year : Option Int)
    : includes (strip (composeQuery title term (some token) year)) token = true := by
  obtain ⟨solid, some_⟩ := solid_of_mem_tokensOf member
  apply includes_strip some_ solid
  apply includes_intercalate
  simp [some_]

-- What the queries are composed of

variable (alphabet : TitleAlphabet)

namespace QueryRequest

variable {alphabet : TitleAlphabet} {request : QueryRequest} {years : List (Option Int)}

theorem yearValues_ne_nil (given : request.yearValues? alphabet = some years) : years ≠ [] := by
  simp only [yearValues?] at given
  split at given
  · cases given
    exact List.cons_ne_nil _ _
  · obtain ⟨year, -, rfl⟩ := Option.map_eq_some_iff.mp given
    apply List.ne_nil_of_mem (a := some year)
    simp only [List.mem_map, List.mem_filter, List.mem_range, Option.some.injEq, exists_eq_right]
    refine ⟨⟨(max 0 request.yearVariance).toNat, by omega, by omega⟩, by simp⟩

/-- The queries are built unless the year is needed and is no number. -/
theorem yearValues_eq_none_iff
    : request.yearValues? alphabet = none
      ↔ request.skipYear = false ∧ request.year.truthy = true
        ∧ request.year.toInt? alphabet.toAlphabet = none := by
  simp only [yearValues?]
  split
  · next free =>
      simp only [Bool.not_eq_true] at free
      constructor
      · intro absent
        cases absent
      · rintro ⟨needed, given, -⟩
        simp [needed, given] at free
  · next needed => simp_all

theorem queryTerms_ne_nil (only : request.useOnlyTermQueries alphabet = true)
    : request.queryTerms alphabet ≠ [] := by
  simp only [useOnlyTermQueries, Bool.decide_or, Bool.or_eq_true, decide_eq_true_eq] at only
  by_cases forced : request.forceLanguageOnly alphabet = true
  · have languages : request.langTerms alphabet ≠ [] := by
      simp only [forceLanguageOnly, decide_eq_true_eq] at forced
      exact forced.1
    obtain ⟨language, rest, shape⟩ := List.exists_cons_of_ne_nil languages
    have member : language ∈ request.langTerms alphabet := shape ▸ List.mem_cons_self
    obtain ⟨other, kept, -⟩ :=
      @exists_mem_appendNew _ _ _ id (request.primaryTerms alphabet) _ _ member
    rw [queryTerms, if_pos forced]
    exact List.ne_nil_of_mem kept
  · rw [queryTerms, if_neg forced]
    exact List.ne_nil_of_length_pos (only.resolve_right forced)

theorem episodeTerms_ne_nil : request.episodeTerms alphabet ≠ [] := by
  by_cases only : request.useOnlyTermQueries alphabet = true
  · simp [episodeTerms, queryTerms_ne_nil only]
  · simp [episodeTerms, only]

theorem mem_candidateForms (title : String) : title ∈ request.candidateForms alphabet title := by
  simp only [candidateForms]
  split <;> exact List.mem_cons_self

theorem pos_of_mem_positiveNumbers {episodes : List Json} {episode : Int}
    (member : episode ∈ positiveNumbers episodes)
    : 0 < episode := by
  simpa using (List.mem_filter.mp member).2

theorem episodes_spec
    : request.episodes ≠ [] ∧ (∀ episode ∈ request.episodes, 0 < episode)
      ∧ ∀ episode ∈ positiveNumbers (request.pendingEpisodes.getD []),
          episode ∈ request.episodes := by
  simp only [episodes]
  split
  · next bare =>
      have limit : 0 < request.episodeLimit.toNat := by
        cases counted : request.episodeCount.filter (0 < ·) with
        | none => simp [episodeLimit, counted]
        | some count =>
            have positive := (Option.filter_eq_some_iff.mp counted).2
            simp only [episodeLimit, counted, Option.getD_some]
            simpa using positive
      refine ⟨?_, ?_, ?_⟩
      · simpa using limit.ne'
      · intro episode member
        obtain ⟨index, -, rfl⟩ := List.mem_map.mp member
        omega
      · intro episode member
        rw [bare] at member
        cases member
  · next some_ =>
      exact ⟨some_, fun _ => pos_of_mem_positiveNumbers, fun _ member => member⟩

-- Queries of an episode

def NamesEpisode (season : Option Int) (query : String) : Prop :=
  ∃ number ∈ season, ∃ episode : Int, 0 < episode ∧
    ∃ token ∈ tokensOf number episode, includes query token = true

theorem mem_episodeQueries {season : Int} {title query : String}
    (given : request.seasonCode = some season) (variants : request.includeEpisodeVariants = true)
    : query ∈ request.episodeQueries alphabet years title
      ↔ ∃ episode ∈ request.episodes, ∃ term ∈ request.episodeTerms alphabet,
          ∃ form ∈ request.candidateForms alphabet title, ∃ year ∈ years,
            ∃ token ∈ tokensOf season episode,
              query = composeQuery form term (some token) year := by
  simp only [episodeQueries, variants, if_true, given, Option.elim_some, List.mem_flatMap,
    tokensOf, List.mem_cons, List.not_mem_nil, or_false, exists_eq_or_imp, exists_eq_left]

theorem namesEpisode_of_mem {title query : String}
    (member : query ∈ request.episodeQueries alphabet years title)
    : NamesEpisode request.seasonCode (strip query) := by
  cases given : request.seasonCode with
  | none => simp [episodeQueries, given] at member
  | some season =>
      by_cases variants : request.includeEpisodeVariants = true
      · obtain ⟨episode, wanted, term, -, form, -, year, -, token, spelled, rfl⟩ :=
          (mem_episodeQueries given variants).mp member
        exact ⟨season, rfl, episode, episodes_spec.2.1 episode wanted, token, spelled,
          includes_composeQuery spelled form term year⟩
      · simp [episodeQueries, variants] at member

theorem mem_normalized {queries : List String} {query : String}
    : query ∈ normalized queries ↔ (∃ given ∈ queries, strip given = query) ∧ query ≠ "" := by
  simp [normalized]

theorem exists_mem_normalized {season episode : Int} {titles : List String}
    {title token : String}
    (given : request.seasonCode = some season) (variants : request.includeEpisodeVariants = true)
    (years_some : years ≠ []) (candidate : title ∈ titles)
    (wanted : episode ∈ request.episodes) (spelled : token ∈ tokensOf season episode)
    : ∃ term year,
        strip (composeQuery title term (some token) year)
          ∈ normalized (titles.flatMap (request.episodeQueries alphabet years)) := by
  obtain ⟨term, terms, termsShape⟩ := List.exists_cons_of_ne_nil
    (@episodeTerms_ne_nil alphabet request)
  obtain ⟨year, others, yearsShape⟩ := List.exists_cons_of_ne_nil years_some
  refine ⟨term, year, mem_normalized.mpr ⟨⟨_, List.mem_flatMap.mpr ⟨title, candidate, ?_⟩, rfl⟩, ?_⟩⟩
  · exact (mem_episodeQueries given variants).mpr
      ⟨episode, wanted, term, termsShape ▸ List.mem_cons_self, title, mem_candidateForms title,
        year, yearsShape ▸ List.mem_cons_self, token, spelled, rfl⟩
  · intro bare
    have inside := includes_composeQuery spelled title term year
    rw [bare, includes_iff] at inside
    have nothing : token = "" := by simpa using inside
    exact (solid_of_mem_tokensOf spelled).2 nothing

theorem primaryQueries_of_skip (skip : request.skipSeasonQueries = true) (title : String)
    : request.primaryQueries alphabet years title = [] := by
  simp [primaryQueries, primarySeasonTokens, skip, crossQueries]

-- All queries

def titles (request : QueryRequest) : List String := request.titleCandidates.filter (· ≠ "")

/-- The queries that name no episode, within their limit. -/
def limited (alphabet : TitleAlphabet) (request : QueryRequest) (years : List (Option Int))
    : List String :=
  appendNew alphabet.lower (some maxPrimaryQueryVariants) []
    (normalized (request.titles.flatMap (request.primaryQueries alphabet years)))

/-- All queries, before a title stands in for none. -/
def deduped (alphabet : TitleAlphabet) (request : QueryRequest) (years : List (Option Int))
    : List String :=
  appendNew alphabet.lower none (request.limited alphabet years)
    (normalized (request.titles.flatMap (request.episodeQueries alphabet years)))

theorem buildSearchQueries_eq
    : request.buildSearchQueries alphabet
      = (request.yearValues? alphabet).map (fun years =>
          if request.deduped alphabet years = [] then request.titleCandidates.head?.toList
          else request.deduped alphabet years) :=
  rfl

theorem limited_length : (request.limited alphabet years).length ≤ maxPrimaryQueryVariants :=
  length_appendNew_le (by decide)

theorem deduped_nodup : ((request.deduped alphabet years).map alphabet.lower).Nodup :=
  nodup_appendNew (nodup_appendNew List.nodup_nil)

theorem mem_limited_or_namesEpisode {query : String}
    (member : query ∈ request.deduped alphabet years)
    : query ∈ request.limited alphabet years ∨ NamesEpisode request.seasonCode query := by
  rcases mem_or_mem_of_mem_appendNew member with bounded | named
  · exact .inl bounded
  · obtain ⟨⟨given, inside, rfl⟩, -⟩ := mem_normalized.mp named
    obtain ⟨title, -, here⟩ := List.mem_flatMap.mp inside
    exact .inr (namesEpisode_of_mem here)

theorem bare_length_le {bare : List String} (inside : bare.Sublist (request.deduped alphabet years))
    (nameless : ∀ query ∈ bare, ¬ NamesEpisode request.seasonCode query)
    : bare.length ≤ maxPrimaryQueryVariants := by
  have distinct : bare.Nodup :=
    (List.Nodup.of_map alphabet.lower deduped_nodup).sublist inside
  have subset : bare ⊆ request.limited alphabet years := by
    intro query member
    exact (mem_limited_or_namesEpisode (inside.subset member)).resolve_right
      (nameless query member)
  exact (distinct.subperm subset).length_le.trans limited_length

theorem deduped_covers {season episode : Int} {title token : String}
    (given : request.seasonCode = some season) (variants : request.includeEpisodeVariants = true)
    (years_some : years ≠ []) (candidate : title ∈ request.titleCandidates) (shown : title ≠ "")
    (wanted : episode ∈ request.episodes) (spelled : token ∈ tokensOf season episode)
    : ∃ query ∈ request.deduped alphabet years, ∃ term year,
        alphabet.lower query
          = alphabet.lower (strip (composeQuery title term (some token) year))
        ∧ includes (strip (composeQuery title term (some token) year)) token = true := by
  have listed : title ∈ request.titles := List.mem_filter.mpr ⟨candidate, by simpa using shown⟩
  obtain ⟨term, year, member⟩ :=
    @exists_mem_normalized alphabet request _ _ _ _ _ _ given variants years_some listed wanted
      spelled
  obtain ⟨query, kept, same⟩ :=
    @exists_mem_appendNew _ _ _ alphabet.lower (request.limited alphabet years) _ _ member
  exact ⟨query, kept, term, year, same, includes_composeQuery spelled title term year⟩

theorem namesEpisode_of_skip (skip : request.skipSeasonQueries = true) {query : String}
    (member : query ∈ request.deduped alphabet years)
    : NamesEpisode request.seasonCode query := by
  have bounded_nil : request.limited alphabet years = [] := by
    have nothing : request.titles.flatMap (request.primaryQueries alphabet years) = [] :=
      List.flatMap_eq_nil_iff.mpr (fun title _ => primaryQueries_of_skip skip title)
    rw [limited, nothing]
    rfl
  rcases mem_limited_or_namesEpisode member with bounded | named
  · rw [bounded_nil] at bounded
    cases bounded
  · exact named

end QueryRequest

open QueryRequest in
/-- The queries are built unless the year is no number. They differ up to letter case, and those
that name no episode are limited. With episodes searched for, every title has a query for each
spelling of each wanted episode, up to letter case, and no query is without an episode if those
for seasons are left out. -/
theorem queries_cover_episodes (request : QueryRequest)
    : (request.buildSearchQueries alphabet = none
        ↔ request.skipYear = false ∧ request.year.truthy = true
          ∧ request.year.toInt? alphabet.toAlphabet = none)
      ∧ ∀ queries : List String, request.buildSearchQueries alphabet = some queries →
          (queries.map alphabet.lower).Nodup
          ∧ (∀ bare : List String, bare.Sublist queries →
              (∀ query ∈ bare, ¬ NamesEpisode request.seasonCode query) →
              bare.length ≤ maxPrimaryQueryVariants)
          ∧ ∀ season, request.seasonCode = some season →
              request.includeEpisodeVariants = true →
              (∃ title ∈ request.titleCandidates, title ≠ "") →
              (∀ title ∈ request.titleCandidates, title ≠ "" →
                ∀ episode ∈ positiveNumbers (request.pendingEpisodes.getD []),
                ∀ token ∈ [episodeToken season episode, alternativeToken season episode],
                  ∃ query ∈ queries, ∃ term year,
                    alphabet.lower query
                      = alphabet.lower (strip (composeQuery title term (some token) year))
                    ∧ includes (strip (composeQuery title term (some token) year)) token = true)
              ∧ (request.skipSeasonQueries = true →
                  ∀ query ∈ queries, NamesEpisode request.seasonCode query) := by
  constructor
  · rw [buildSearchQueries_eq, Option.map_eq_none_iff]
    exact yearValues_eq_none_iff
  · intro queries built
    rw [buildSearchQueries_eq] at built
    obtain ⟨years, given, rfl⟩ := Option.map_eq_some_iff.mp built
    have years_some := yearValues_ne_nil given
    split
    · next nothing =>
        have single : request.titleCandidates.head?.toList.length ≤ 1 := by
          cases request.titleCandidates.head? <;> simp
        refine ⟨?_, ?_, ?_⟩
        · cases request.titleCandidates.head? <;> simp
        · intro bare inside _
          exact (inside.length_le.trans single).trans (by decide)
        · -- There is a wanted episode, so the queries are not empty.
          rintro season seasonGiven variants ⟨title, candidate, shown⟩
          obtain ⟨episode, rest, shape⟩ := List.exists_cons_of_ne_nil
            (@episodes_spec request).1
          obtain ⟨query, kept, -⟩ :=
            @deduped_covers alphabet request _ _ _ _ (episodeToken season episode) seasonGiven
              variants years_some candidate shown (shape ▸ List.mem_cons_self)
              List.mem_cons_self
          rw [nothing] at kept
          cases kept
    · refine ⟨deduped_nodup, fun bare => bare_length_le, ?_⟩
      intro season seasonGiven variants _
      refine ⟨?_, fun skip query => namesEpisode_of_skip skip⟩
      intro title candidate shown episode wanted token spelled
      exact deduped_covers seasonGiven variants years_some candidate shown
        (episodes_spec.2.2 episode wanted) spelled

def plainTitles : TitleAlphabet where
  lower text := String.ofList (text.toList.map Char.toLower)
  isAlphanumeric := Char.isAlphanum
  readInt? _ := none
  showNested _ := ""
  casefold text := String.ofList (text.toList.map Char.toLower)
  decompose := id
  isMark _ := false

/-- The first season of a series, with one wanted episode and the queries for seasons left out. -/
def oneEpisode : QueryRequest where
  titleCandidates := ["Dark's", ""]
  year := .int 2017
  config := ⟨none, .null⟩
  mediaType := some "tv"
  seasonCode := some 1
  episodeCount := none
  requestTerms := none
  pendingEpisodes := some [.int 3, .int 0, .null]
  searchRulesOverride :=
    some
      ⟨[("skip_season_queries_when_episode_search", .bool true), ("sanitize_titles", .bool true)],
        by decide⟩
  yearVariance := 0

example : oneEpisode.buildSearchQueries plainTitles
    = some ["Dark's S01E03 2017", "Dark's 1x03 2017", "Dark s S01E03 2017", "Dark s 1x03 2017"] := by
  decide

end OctoHubs.Search
