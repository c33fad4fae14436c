import OctoHubs.UserItems.ItemLookup
import OctoHubs.UserItems.KeySeparation

/-! Reading the parts of a key back from the key. -/

namespace OctoHubs.UserItems

open OctoHubs.Library

theorem startsWith_append (lead rest : String) : startsWith (lead ++ rest) lead = true := by
  rw [startsWith, String.toList_append]
  exact List.isPrefixOf_iff_prefix.mpr (List.prefix_append _ _)

theorem startsWith_append_of_differ {lead other : String} (rest : String)
    (differ : ¬(other.toList <+: lead.toList ∨ lead.toList <+: other.toList))
    : startsWith (lead ++ rest) other = false := by
  rw [startsWith, String.toList_append]
  refine Bool.eq_false_iff.mpr fun starts => differ ?_
  exact List.prefix_or_prefix_of_prefix (List.isPrefixOf_iff_prefix.mp starts)
    (List.prefix_append _ _)

theorem afterPrefix_append (lead rest : String)
    : afterPrefix (lead ++ rest) lead = rest.toList := by
  rw [afterPrefix, String.toList_append, List.drop_left]

/-- A known provider's name, as it is part of the beginnings of keys. -/
abbrev Known (provider : String) : Prop :=
  provider = "tmdb" ∨ provider = "tvdb" ∨ provider = "imdb"

theorem seriesKey_eq (provider id season episode : String)
    : seriesKey provider id season episode
      = ("series-" ++ (provider ++ ":")) ++ (id ++ ":s" ++ (season ++ ":e" ++ episode)) := by
  simp only [seriesKey, String.append_assoc]

theorem find_seriesPrefix {provider : String} (known : Known provider) (rest : String)
    : seriesPrefixes.find? (fun (lead, _) =>
          startsWith (("series-" ++ (provider ++ ":")) ++ rest) lead)
      = some ("series-" ++ (provider ++ ":"), provider) := by
  rcases known with rfl | rfl | rfl <;>
    simp [seriesPrefixes, startsWith, List.isPrefixOf]

theorem not_startsWith_series {key : String} {first : Char} (foreign : first ≠ 's')
    (head : key.toList.head? = some first)
    : ∀ entry ∈ seriesPrefixes, startsWith key entry.1 = false := by
  obtain ⟨rest, shape⟩ : ∃ rest, key.toList = first :: rest := by
    cases whole : key.toList with
    | nil => rw [whole] at head; cases head
    | cons c rest =>
        rw [whole] at head
        cases head
        exact ⟨rest, rfl⟩
  intro entry member
  rw [startsWith, shape]
  simp only [seriesPrefixes, List.mem_cons, List.not_mem_nil, or_false] at member
  rcases member with rfl | rfl | rfl <;> simp [List.isPrefixOf, foreign.symm]

theorem readSeriesPosition_eq_some_iff {provider : String} {raw : List Char}
    {parsed : SeriesPosition}
    : readSeriesPosition provider raw = some parsed
      ↔ parsed.provider = provider
        ∧ (parsed.providerId ≠ "" ∧ parsed.season ≠ "" ∧ parsed.episode ≠ "")
        ∧ ∃ rest,
            splitFirst [':', 's'] raw = some (parsed.providerId.toList, rest)
            ∧ splitFirst [':', 'e'] rest
              = some (parsed.season.toList, parsed.episode.toList) := by
  obtain ⟨name, id, season, episode⟩ := parsed
  unfold readSeriesPosition
  constructor
  · intro read
    obtain ⟨⟨front, rest⟩, first, read⟩ := Option.bind_eq_some_iff.mp read
    obtain ⟨⟨middle, back⟩, second, read⟩ := Option.bind_eq_some_iff.mp read
    dsimp only at second read
    split at read
    · cases read
    · next there =>
        cases read
        refine ⟨rfl, ?_, rest, by simpa using first, by simpa using second⟩
        simpa only [ne_eq, not_or, ← String.toList_eq_nil_iff, String.toList_ofList] using there
  · rintro ⟨rfl, ⟨idThere, seasonThere, episodeThere⟩, rest, first, second⟩
    dsimp only at first second idThere seasonThere episodeThere
    rw [first, Option.bind_eq_bind, Option.bind_some]
    dsimp only
    rw [second, Option.bind_some]
    dsimp only
    rw [if_neg (by simp [idThere, seasonThere, episodeThere])]
    simp

theorem parse_seriesKey_eq {provider : String} (known : Known provider)
    (id season episode : String)
    : parseSeriesProviderKey (seriesKey provider id season episode)
      = readSeriesPosition provider
          (id.toList ++ ([':', 's'] ++ (season.toList ++ ([':', 'e'] ++ episode.toList)))) := by
  rw [parseSeriesProviderKey, seriesKey_eq, find_seriesPrefix known]
  simp [afterPrefix_append, String.toList_append]

/-- The parts of a series key are read back when the marks between them occur in none of them and
none is empty.
-/
theorem parse_seriesKey {provider : String} (known : Known provider) {id season episode : String}
    (there : id ≠ "" ∧ season ≠ "" ∧ episode ≠ "") (plain : ¬[':', 's'] <:+: id.toList)
    (plain_ : ¬[':', 'e'] <:+: season.toList)
    : parseSeriesProviderKey (seriesKey provider id season episode)
      = some ⟨provider, id, season, episode⟩ := by
  rw [parse_seriesKey_eq known]
  exact readSeriesPosition_eq_some_iff.mpr
    ⟨rfl, there, _, (splitFirst_pair_iff (by decide) _ _).mpr plain,
      (splitFirst_pair_iff (by decide) _ _).mpr plain_⟩

theorem plain_of_parse_seriesKey {provider : String} (known : Known provider)
    {id season episode : String} {parsed : SeriesPosition}
    (read : parseSeriesProviderKey (seriesKey provider id season episode) = some parsed)
    (sameSeason : parsed.season = season) (sameEpisode : parsed.episode = episode)
    : (id ≠ "" ∧ season ≠ "" ∧ episode ≠ "")
      ∧ ¬[':', 's'] <:+: id.toList
      ∧ ¬[':', 'e'] <:+: season.toList := by
  subst sameSeason sameEpisode
  rw [parse_seriesKey_eq known] at read
  obtain ⟨-, there, rest, first, second⟩ := readSeriesPosition_eq_some_iff.mp read
  have tail := eq_of_splitFirst second
  have whole := eq_of_splitFirst first
  rw [tail] at whole
  simp only [List.append_assoc] at whole tail
  have same : id = parsed.providerId := String.toList_inj.mp (List.append_cancel_right whole)
  rw [tail, ← same] at first
  rw [tail] at second
  exact ⟨same ▸ there, (splitFirst_pair_iff (by decide) _ _).mp first,
    (splitFirst_pair_iff (by decide) _ _).mp second⟩

theorem bar_not_mem_fallbackKeyPart (rules : Alphabet) (value : Json)
    : '|' ∉ (fallbackKeyPart rules value).toList := by
  intro member
  unfold fallbackKeyPart strip at member
  rw [String.toList_ofList] at member
  have inside := (List.dropWhile_suffix isSpace).subset
    ((List.rdropWhile_prefix isSpace _).subset member)
  rw [String.toList_ofList] at inside
  obtain ⟨c, -, same⟩ := List.mem_map.mp inside
  split at same
  · cases same
  · next other => exact other same

theorem parse_fallbackEpisodeKey {series season episode : String}
    (there : series ≠ "" ∧ season ≠ "" ∧ episode ≠ "")
    (plain : '|' ∉ season.toList) (plain_ : '|' ∉ episode.toList)
    : parseFallbackEpisodeKey (fallbackEpisodeKey series season episode)
      = some ⟨series, season, episode⟩ := by
  have last :=
    splitLast_pair (by decide : '|' ≠ 's') series.toList
      (pair_absent_of_once (by decide : 'e' ≠ 's') plain
        (by simpa using plain_ : '|' ∉ 'e' :: episode.toList))
  have first :=
    (splitFirst_pair_iff (by decide : '|' ≠ 'e') season.toList episode.toList).mpr
      (pair_absent plain)
  have starts := startsWith_append "fallback-episode:"
  have after := afterPrefix_append "fallback-episode:"
  delta fallbackEpisodeKey
  rw [parseFallbackEpisodeKey, starts, if_pos rfl, after]
  have bars : "|s".toList = ['|', 's'] ∧ "|e".toList = ['|', 'e'] := ⟨rfl, rfl⟩
  simp only [String.toList_append, bars, List.append_assoc]
  have shape
      : season.toList ++ '|' :: 'e' :: episode.toList
        = season.toList ++ (['|', 'e'] ++ episode.toList) := rfl
  rw [shape] at last
  rw [last, Option.bind_eq_bind, Option.bind_some]
  dsimp only
  rw [first]
  simp [there]

theorem parse_fallbackMovieKey {title year : String} (there : title ≠ "" ∧ year ≠ "")
    (plain : '|' ∉ year.toList)
    : parseFallbackMovieKey (fallbackMovieKey title year) = some ⟨title, year⟩ := by
  have last :=
    splitLast_pair (by decide : '|' ≠ 'y') title.toList (pair_absent plain)
  have starts := startsWith_append "fallback-movie:"
  have after := afterPrefix_append "fallback-movie:"
  delta fallbackMovieKey
  rw [parseFallbackMovieKey, starts, if_pos rfl, after]
  have bar : "|y".toList = ['|', 'y'] := rfl
  simp only [String.toList_append, bar, List.append_assoc]
  rw [last]
  simp [there]

end OctoHubs.UserItems
