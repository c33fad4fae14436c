import OctoHubs.Library.Labelled
import OctoHubs.UserItems.KeyReading

/-! Looking an item up by its own key in the library that holds it. -/

namespace OctoHubs.UserItems

open OctoHubs.Library

section SelfLookup

variable (rules : Alphabet)

def providerTokens (item : Item) : List String :=
  (providerIds rules item "ProviderIds").items.map (fun (provider, id) =>
    provider ++ "." ++ id.asText rules)

/-- The server answers every query, describes the item in one way and finds it by its tokens. -/
structure Holds (api : Api) (item : LibraryItem) : Prop where
  named : item.id ≠ ""
  answers : ∀ query, ∃ found, api.items query = some found
  lists : ∀ id season, ∃ found, api.episodes id season = some found
  same
    : ∀ {query found other},
        api.items query = some found → other ∈ found → other.id = item.id → other = item
  sameListed
    : ∀ {id season found other},
        api.episodes id season = some found → other ∈ found → other.id = item.id → other = item
  tokens
    : ∀ {tokens includePlayed found},
        api.items (providerQuery tokens includePlayed) = some found
        → (item ∈ found
          ↔ (∃ token ∈ splitAt ',' (",".intercalate tokens),
              token ∈ providerTokens rules item.details)
            ∧ (includePlayed = true ∨ item.userData.played = false))

/-- The server finds the series of an episode by its ids and lists the episode under its season. -/
structure HoldsSeries (api : Api) (item series : LibraryItem) : Prop where
  named : series.id ≠ ""
  same
    : ∀ {query found other},
        api.items query = some found → other ∈ found → other.id = series.id → other = series
  ids
    : ∀ {parsed found id},
        api.items (seriesQuery parsed) = some found
        → (providerIds rules item.details "SeriesProviderIds").get? parsed.provider = some id
        → id.asText rules = parsed.providerId
        → series ∈ found
  listed
    : ∀ {id season found},
        api.episodes id season = some found
        → (item ∈ found
          ↔ id = series.id
            ∧ (Document.field item.details "ParentIndexNumber").asText rules = season)

/-- Items are looked up by their providers' ids, or by their names. -/
def lookUp (api : Api) (includePlayed : Bool) (key : String) : Option (List LibraryItem) :=
  if isProviderKey key then fetchEmbyItemsByProviderIds rules api [key] includePlayed
  else fetchItemsByFallbackKey rules api key

def Found (api : Api) (includePlayed : Bool) (key : String) (item : LibraryItem) : Prop :=
  ∃ candidates,
    lookUp rules api includePlayed key = some candidates
    ∧ ∃ candidate ∈ candidates, candidate.id = item.id

/-- An item is looked for unless it is played and played ones are left out. -/
def Wanted (includePlayed : Bool) (item : LibraryItem) : Prop :=
  includePlayed = true ∨ item.userData.played = false

/-- When the lookup by a key leads back to the item of the key: the marks of a series key do not
occur in its parts, the season and the episode do not count as missing, a token is one of the
item's, and a search by name finds the movie or the series under that very name.
-/
def Findable (api : Api) (includePlayed : Bool) (key : String) (item series : LibraryItem) : Prop :=
  match seriesPosition? rules item.details with
  | some (_, id, season, episode) =>
      (id.asText rules ≠ "" ∧ season ≠ "" ∧ episode ≠ "")
      ∧ ¬[':', 's'] <:+: (id.asText rules).toList
      ∧ ¬[':', 'e'] <:+: season.toList
      ∧ isAt rules season episode item = true
      ∧ Wanted includePlayed item
  | none =>
      match firstProviderId (providerIds rules item.details "ProviderIds") with
      | some _ =>
          (∃ token,
            formatProviderToken rules key = some token
            ∧ ∃ part ∈ splitAt ',' token, part ∈ providerTokens rules item.details)
          ∧ Wanted includePlayed item
      | none =>
          if itemType item.details = some "Episode" then
            let name := fallbackKeyPart rules (Document.field item.details "SeriesName")
            let season := fallbackKeyPart rules (Document.field item.details "ParentIndexNumber")
            let episode := fallbackKeyPart rules (Document.field item.details "IndexNumber")
            (∃ found,
              api.items (searchQuery "Series" name (some 100)) = some found ∧ series ∈ found)
            ∧ isCalled rules name series = true
            ∧ isAt rules season episode item = true
          else
            ∃ parsed found,
              parseFallbackMovieKey key = some parsed
              ∧ api.items (searchQuery "Movie" parsed.title (some 50)) = some found
              ∧ item ∈ found

variable {rules}

theorem exists_mem_addUnseen {listed : List LibraryItem} {item : LibraryItem} {id : String}
    : (∃ other ∈ addUnseen listed item, other.id = id)
      ↔ (∃ other ∈ listed, other.id = id) ∨ (id ≠ "" ∧ item.id = id) := by
  unfold addUnseen
  split
  · next skipped =>
      refine ⟨.inl, fun either => either.elim (fun there => there) (fun ⟨named, same⟩ => ?_)⟩
      subst same
      obtain ⟨other, member, same⟩ := List.any_eq_true.mp (skipped.resolve_left named)
      exact ⟨other, member, of_decide_eq_true same⟩
  · next fresh =>
      simp only [List.mem_append, List.mem_singleton, or_and_right, exists_or, exists_eq_left]
      exact or_congr_right (iff_and_self.mpr (fun same => same ▸ (not_or.mp fresh).1))

theorem exists_mem_unseen {items : List LibraryItem} {id : String}
    : (∃ item ∈ unseen items, item.id = id) ↔ id ≠ "" ∧ ∃ item ∈ items, item.id = id := by
  refine (foldl_gathers (fun listed : List LibraryItem => ∃ item ∈ listed, item.id = id)
    (fun item => id ≠ "" ∧ item.id = id) (fun _ _ => exists_mem_addUnseen) items []).trans ?_
  simp only [List.not_mem_nil, false_and, exists_false, false_or]
  exact ⟨fun ⟨item, member, named, same⟩ => ⟨named, item, member, same⟩,
    fun ⟨named, item, member, same⟩ => ⟨item, member, named, same⟩⟩

variable {api : Api} {includePlayed : Bool} {key : String}

theorem fetch_of_series {parsed : SeriesPosition} (noToken : formatProviderToken rules key = none)
    (read : parseSeriesProviderKey key = some parsed)
    : fetchEmbyItemsByProviderIds rules api [key] includePlayed
      = (episodesAtPosition rules api includePlayed parsed).map (fun found =>
          unseen (unseen found)) := by
  unfold fetchEmbyItemsByProviderIds fetchEmbyItemsBySeriesProviderKeys
  rw [List.filterMap_cons_none noToken, List.filterMap_cons_some read]
  cases found : episodesAtPosition rules api includePlayed parsed <;>
    simp [found, List.mapM_cons, List.toChunks]

theorem fetch_of_token {token : String} (written : formatProviderToken rules key = some token)
    (unread : parseSeriesProviderKey key = none)
    : fetchEmbyItemsByProviderIds rules api [key] includePlayed
      = (api.items (providerQuery [token] includePlayed)).map unseen := by
  have chunks : [token].toChunks 100 = [[token]] := rfl
  unfold fetchEmbyItemsByProviderIds fetchEmbyItemsBySeriesProviderKeys
  rw [List.filterMap_cons_some written, List.filterMap_cons_none unread, List.filterMap_nil,
    chunks]
  cases found : api.items (providerQuery [token] includePlayed) <;>
    simp [found, List.mapM_cons, unseen]

theorem fetch_of_neither (noToken : formatProviderToken rules key = none)
    (unread : parseSeriesProviderKey key = none)
    : fetchEmbyItemsByProviderIds rules api [key] includePlayed = some [] := by
  unfold fetchEmbyItemsByProviderIds fetchEmbyItemsBySeriesProviderKeys
  rw [List.filterMap_cons_none noToken, List.filterMap_cons_none unread]
  rfl

theorem isProviderKey_of_lead {lead : String} (rest : String)
    (known
      : lead ∈ ["tmdb:", "imdb:", "tvdb:", "series-tmdb:", "series-imdb:", "series-tvdb:"])
    : isProviderKey (lead ++ rest) = true :=
  List.any_eq_true.mpr ⟨lead, known, startsWith_append lead rest⟩

variable {item series : LibraryItem}

theorem isProviderKey_seriesKey {provider : String} (known : Known provider)
    (id season episode : String)
    : isProviderKey (seriesKey provider id season episode) = true := by
  rw [seriesKey_eq]
  refine isProviderKey_of_lead _ ?_
  rcases known with rfl | rfl | rfl <;> decide

theorem formatProviderToken_seriesKey {provider : String} (known : Known provider)
    (id season episode : String)
    : formatProviderToken rules (seriesKey provider id season episode) = none := by
  have found := find_seriesPrefix known (id ++ ":s" ++ (season ++ ":e" ++ episode))
  have starts := List.find?_some found
  have some_ : seriesPrefixes.any (fun entry =>
      startsWith (seriesKey provider id season episode) entry.1) = true := by
    rw [seriesKey_eq]
    exact List.any_eq_true.mpr ⟨_, List.mem_of_find?_eq_some found, starts⟩
  rw [formatProviderToken, if_pos (.inr some_)]

theorem episodesAtPosition_eq {parsed : SeriesPosition} {shows : List LibraryItem}
    {seasons : List (List LibraryItem)} (shown : api.items (seriesQuery parsed) = some shows)
    (answered
      : (shows.filter (·.id ≠ "")).mapM (fun show_ => api.episodes show_.id parsed.season)
        = some seasons)
    : episodesAtPosition rules api includePlayed parsed
      = some
          ((seasons.flatten.filter (fun item =>
              isAt rules parsed.season parsed.episode item
              && (includePlayed || !item.userData.played))).map
            (withSeriesProvider parsed)) := by
  rw [episodesAtPosition, shown, Option.bind_eq_bind, Option.bind_some, answered]
  rfl

/-- The episodes at a position have the item among them when it is at the position, wanted and
listed for a series with the id.
-/
theorem exists_mem_episodesAtPosition (held : Holds rules api item) (includePlayed : Bool)
    (parsed : SeriesPosition)
    : ∃ found,
        episodesAtPosition rules api includePlayed parsed = some found
        ∧ ((∃ other ∈ found, other.id = item.id)
          ↔ (isAt rules parsed.season parsed.episode item = true ∧ Wanted includePlayed item)
            ∧ ∃ shows listed other,
                api.items (seriesQuery parsed) = some shows
                ∧ other ∈ shows
                ∧ other.id ≠ ""
                ∧ api.episodes other.id parsed.season = some listed
                ∧ item ∈ listed) := by
  obtain ⟨shows, shown⟩ := held.answers (seriesQuery parsed)
  obtain ⟨seasons, answered, listed⟩ :=
    mapM_answers (fun show_ (_ : show_ ∈ shows.filter (·.id ≠ "")) =>
      held.lists show_.id parsed.season)
  refine ⟨_, episodesAtPosition_eq shown answered, ?_⟩
  have wanted : (includePlayed || !item.userData.played) = true ↔ Wanted includePlayed item := by
    simp [Wanted]
  simp only [List.mem_map, List.mem_filter, exists_exists_and_eq_and]
  constructor
  · rintro ⟨other, ⟨member, passes⟩, same⟩
    obtain ⟨show_, there, episodes, answer, inside⟩ := (listed other).mp member
    have whole := held.sameListed answer inside same
    subst whole
    obtain ⟨inShows, named⟩ := List.mem_filter.mp there
    obtain ⟨position, there⟩ := (Bool.and_eq_true_iff).mp passes
    exact ⟨⟨position, wanted.mp there⟩, shows, episodes, show_, shown, inShows,
      of_decide_eq_true named, answer, inside⟩
  · rintro ⟨⟨position, there⟩, shows_, episodes, show_, shown_, inShows, named, answer, inside⟩
    cases shown.symm.trans shown_
    refine ⟨item, ⟨(listed item).mpr ⟨show_, ?_, episodes, answer, inside⟩, ?_⟩, rfl⟩
    · exact List.mem_filter.mpr ⟨inShows, decide_eq_true named⟩
    · rw [position, Bool.true_and]
      exact wanted.mpr there

theorem seriesPosition?_eq_some {item : Item} {provider season episode : String} {id : Json}
    (position : seriesPosition? rules item = some (provider, id, season, episode))
    : itemType item = some "Episode"
      ∧ episodePosition rules item = some (season, episode)
      ∧ firstProviderId (providerIds rules item "SeriesProviderIds") = some (provider, id) := by
  unfold seriesPosition? at position
  split at position
  · next kind =>
      obtain ⟨⟨season_, episode_⟩, there, position⟩ := Option.bind_eq_some_iff.mp position
      obtain ⟨⟨provider_, id_⟩, first, same⟩ := Option.map_eq_some_iff.mp position
      cases same
      exact ⟨kind, there, first⟩
  · cases position

theorem get?_of_firstProviderId {ids : Document} {provider : String} {id : Json}
    (first : firstProviderId ids = some (provider, id))
    : ids.get? provider = some id := by
  obtain ⟨found, -, chosen⟩ := List.exists_of_findSome?_eq_some first
  dsimp only at chosen
  split at chosen
  · next there =>
      cases chosen
      unfold Document.field at there ⊢
      cases held : ids.get? provider with
      | none =>
          rw [held] at there
          cases there
      | some value => rfl
  · cases chosen

theorem episode_ne_of_parse_seriesKey {provider id season episode : String}
    {parsed : SeriesPosition} (known : Known provider)
    (read : parseSeriesProviderKey (seriesKey provider id season episode) = some parsed)
    : parsed.episode ≠ "" := by
  rw [parse_seriesKey_eq known] at read
  exact (readSeriesPosition_eq_some_iff.mp read).2.1.2.2

theorem textOr_eq_asText {value : Json} (there : value.textOr rules "" ≠ "")
    : value.textOr rules "" = value.asText rules := by
  unfold Json.textOr at there ⊢
  split at there
  · next holds => rw [if_pos holds]
  · exact absurd rfl there

theorem found_at_position_iff (held : Holds rules api item) {parsed : SeriesPosition}
    (provided : isProviderKey key = true) (noToken : formatProviderToken rules key = none)
    (read : parseSeriesProviderKey key = some parsed)
    : Found rules api includePlayed key item
      ↔ (isAt rules parsed.season parsed.episode item = true ∧ Wanted includePlayed item)
        ∧ ∃ shows listed other,
            api.items (seriesQuery parsed) = some shows
            ∧ other ∈ shows
            ∧ other.id ≠ ""
            ∧ api.episodes other.id parsed.season = some listed
            ∧ item ∈ listed := by
  obtain ⟨found, answer, listed⟩ :=
    exists_mem_episodesAtPosition held includePlayed parsed
  unfold Found lookUp
  rw [if_pos provided, fetch_of_series noToken read, answer, ← listed]
  simp only [Option.map_some, Option.some.injEq, exists_eq_left', exists_mem_unseen]
  exact ⟨fun ⟨_, _, there⟩ => there, fun there => ⟨held.named, held.named, there⟩⟩

/-- An episode is found by the key of its series and position when the key is read back and the
position does not count as missing.
-/
theorem found_of_series_iff (held : Holds rules api item)
    (seriesHeld : HoldsSeries rules api item series) {provider season episode : String} {id : Json}
    (position : seriesPosition? rules item.details = some (provider, id, season, episode))
    : Found rules api includePlayed (seriesKey provider (id.asText rules) season episode) item
      ↔ Findable rules api includePlayed (seriesKey provider (id.asText rules) season episode) item
          series := by
  obtain ⟨-, there, first⟩ := seriesPosition?_eq_some position
  obtain ⟨rfl, rfl⟩ := episodePosition_eq_some there
  have known : Known provider := known_of_firstProviderId first
  generalize seasonText
    : (Document.field item.details "ParentIndexNumber").asText rules = season at position there ⊢
  generalize episodeText
    : (Document.field item.details "IndexNumber").asText rules = episode at position there ⊢
  have provided := isProviderKey_seriesKey known (id.asText rules) season episode
  have noToken
      : formatProviderToken rules (seriesKey provider (id.asText rules) season episode) = none :=
    formatProviderToken_seriesKey known _ _ _
  unfold Findable
  rw [position]
  dsimp only
  constructor
  · intro found
    cases read : parseSeriesProviderKey (seriesKey provider (id.asText rules) season episode) with
    | none =>
        unfold Found lookUp at found
        rw [if_pos provided, fetch_of_neither noToken read] at found
        obtain ⟨_, same, _, member, -⟩ := found
        cases same
        cases member
    | some parsed =>
        obtain ⟨⟨isThere, wanted⟩, shows, listed, other, -, -, -, answer, inside⟩ :=
          (found_at_position_iff held provided noToken read).mp found
        have sameSeason : parsed.season = season :=
          ((seriesHeld.listed answer).mp inside).2.symm.trans seasonText
        have sameEpisode : parsed.episode = episode := by
          have numbers := of_decide_eq_true (Bool.and_eq_true_iff.mp isThere).1
          have notEmpty := episode_ne_of_parse_seriesKey known read
          have whole := textOr_eq_asText (numbers.trans_ne notEmpty)
          exact numbers.symm.trans (whole.trans episodeText)
        obtain ⟨notEmpty, plain, plain_⟩ :=
          plain_of_parse_seriesKey known read sameSeason sameEpisode
        rw [sameSeason, sameEpisode] at isThere
        exact ⟨notEmpty, plain, plain_, isThere, wanted⟩
  · rintro ⟨notEmpty, plain, plain_, isThere, wanted⟩
    have read := parse_seriesKey known notEmpty plain plain_
    obtain ⟨shows, shown⟩ := held.answers (seriesQuery ⟨provider, id.asText rules, season, episode⟩)
    obtain ⟨listed, answer⟩ := held.lists series.id season
    exact (found_at_position_iff held provided noToken read).mpr
      ⟨⟨isThere, wanted⟩, shows, listed, series, shown,
        seriesHeld.ids shown (get?_of_firstProviderId first) rfl, seriesHeld.named, answer,
        (seriesHeld.listed answer).mpr ⟨rfl, seasonText⟩⟩

theorem Holds.exists_mem_iff (held : Holds rules api item) {query : ItemQuery}
    {found : List LibraryItem} (answer : api.items query = some found)
    : (∃ other ∈ found, other.id = item.id) ↔ item ∈ found := by
  constructor
  · rintro ⟨other, member, same⟩
    have whole := held.same answer member same
    subst whole
    exact member
  · exact fun member => ⟨item, member, rfl⟩

theorem isProviderKey_providerKey {provider : String} (known : Known provider) (id : String)
    : isProviderKey (providerKey provider id) = true := by
  refine isProviderKey_of_lead id ?_
  rcases known with rfl | rfl | rfl <;> decide

theorem parse_eq_none {key : String} {first : Char} (foreign : first ≠ 's')
    (head : key.toList.head? = some first)
    : parseSeriesProviderKey key = none := by
  rw [parseSeriesProviderKey, List.find?_eq_none.mpr]
  · rfl
  · intro entry member
    exact ne_true_of_eq_false (not_startsWith_series foreign head entry member)

theorem parse_providerKey {provider : String} (known : Known provider) (id : String)
    : parseSeriesProviderKey (providerKey provider id) = none := by
  rcases known with rfl | rfl | rfl
  · exact parse_eq_none (by decide : 't' ≠ 's') (by simp [providerKey])
  · exact parse_eq_none (by decide : 't' ≠ 's') (by simp [providerKey])
  · exact parse_eq_none (by decide : 'i' ≠ 's') (by simp [providerKey])

theorem found_of_provider_iff (held : Holds rules api item) {provider : String} {id : Json}
    (alone : seriesPosition? rules item.details = none)
    (first : firstProviderId (providerIds rules item.details "ProviderIds") = some (provider, id))
    : Found rules api includePlayed (providerKey provider (id.asText rules)) item
      ↔ Findable rules api includePlayed (providerKey provider (id.asText rules)) item series := by
  have known : Known provider := known_of_firstProviderId first
  have unread := parse_providerKey known (id.asText rules)
  unfold Findable Found lookUp
  rw [alone, first, if_pos (isProviderKey_providerKey known _)]
  dsimp only
  cases written : formatProviderToken rules (providerKey provider (id.asText rules)) with
  | none =>
      rw [fetch_of_neither written unread]
      constructor
      · rintro ⟨_, same, _, member, -⟩
        cases same
        cases member
      · rintro ⟨⟨_, same, -⟩, -⟩
        cases same
  | some token =>
      obtain ⟨found, answer⟩ := held.answers (providerQuery [token] includePlayed)
      rw [fetch_of_token written unread, answer]
      simp only [Option.map_some, Option.some.injEq, exists_eq_left', exists_mem_unseen,
        held.exists_mem_iff answer, held.tokens answer]
      exact ⟨fun ⟨_, there⟩ => there, fun there => ⟨held.named, there⟩⟩

theorem isProviderKey_of_first {lead : String} (rest : String)
    (head : lead.toList.head? = some 'f')
    : isProviderKey (lead ++ rest) = false := by
  obtain ⟨others, leads⟩ := List.head?_eq_some_iff.mp head
  have shape : (lead ++ rest).toList = 'f' :: (others ++ rest.toList) := by
    rw [String.toList_append, leads, List.cons_append]
  unfold isProviderKey
  rw [shape]
  simp [List.isPrefixOf]

theorem mem_keys_of_episode {item : Item} {key : String}
    (alone : seriesPosition? rules item = none)
    (unnamed : firstProviderId (providerIds rules item "ProviderIds") = none)
    (kind : itemType item = some "Episode") (member : key ∈ itemSyncKeys rules item)
    : key
      = fallbackEpisodeKey (fallbackKeyPart rules (Document.field item "SeriesName"))
          (fallbackKeyPart rules (Document.field item "ParentIndexNumber"))
          (fallbackKeyPart rules (Document.field item "IndexNumber"))
      ∧ fallbackKeyPart rules (Document.field item "SeriesName") ≠ ""
      ∧ fallbackKeyPart rules (Document.field item "ParentIndexNumber") ≠ ""
      ∧ fallbackKeyPart rules (Document.field item "IndexNumber") ≠ "" := by
  unfold itemSyncKeys safeFallbackKeys at member
  rw [alone, unnamed] at member
  dsimp only at member
  rw [if_pos kind] at member
  split at member
  · next there => exact ⟨List.mem_singleton.mp member, there⟩
  · cases member

/-- An episode without ids is found by names when the series is, under the name in the key, and
the numbers in the key are those that the lookup reads.
-/
theorem found_of_episode_iff (held : Holds rules api item)
    (seriesHeld : HoldsSeries rules api item series)
    (alone : seriesPosition? rules item.details = none)
    (unnamed : firstProviderId (providerIds rules item.details "ProviderIds") = none)
    (kind : itemType item.details = some "Episode") (member : key ∈ itemSyncKeys rules item.details)
    : Found rules api includePlayed key item
      ↔ Findable rules api includePlayed key item series := by
  obtain ⟨shape, there⟩ := mem_keys_of_episode alone unnamed kind member
  unfold Findable
  rw [alone, unnamed]
  dsimp only
  rw [if_pos kind]
  generalize fallbackKeyPart rules (Document.field item.details "SeriesName") = name
    at shape there ⊢
  have plain := bar_not_mem_fallbackKeyPart rules (Document.field item.details "ParentIndexNumber")
  have plain_ := bar_not_mem_fallbackKeyPart rules (Document.field item.details "IndexNumber")
  generalize fallbackKeyPart rules (Document.field item.details "ParentIndexNumber") = season
    at shape there plain ⊢
  generalize fallbackKeyPart rules (Document.field item.details "IndexNumber") = episode
    at shape there plain_ ⊢
  have read := parse_fallbackEpisodeKey there plain plain_
  rw [← shape] at read
  have named : isProviderKey key = false := by
    rw [shape]
    exact isProviderKey_of_first _ (by decide)
  obtain ⟨shows, shown⟩ := held.answers (searchQuery "Series" name (some 100))
  obtain ⟨seasons, answered, listed⟩ :=
    mapM_answers
      (fun show_ (_ : show_ ∈ (shows.filter (isCalled rules name)).filter (·.id ≠ "")) =>
        held.lists show_.id season)
  unfold Found lookUp
  rw [if_neg (ne_true_of_eq_false named), fetchItemsByFallbackKey, read]
  dsimp only
  rw [fetchEpisodeItemsByFallbackKey, shown, Option.bind_eq_bind, Option.bind_some]
  dsimp only
  rw [answered]
  simp only [Option.pure_def, Option.bind_eq_bind, Option.bind_some, Option.some.injEq,
    exists_eq_left', List.mem_filter]
  constructor
  · rintro ⟨other, ⟨inside, passes⟩, same⟩
    obtain ⟨show_, here, episodes, answer, inside⟩ := (listed other).mp inside
    have whole := held.sameListed answer inside same
    subst whole
    obtain ⟨⟨inShows, called⟩, -⟩ := by simpa only [List.mem_filter] using here
    have series_ := seriesHeld.same shown inShows ((seriesHeld.listed answer).mp inside).1
    subst series_
    exact ⟨inShows, called, (Bool.and_eq_true_iff.mp passes).1⟩
  · rintro ⟨inShows, called, isThere⟩
    have seasons_ := of_decide_eq_true (Bool.and_eq_true_iff.mp isThere).2
    have text := (textOr_eq_asText (seasons_.trans_ne there.2.1)).symm.trans seasons_
    obtain ⟨episodes, answer⟩ := held.lists series.id season
    refine ⟨item, ⟨(listed item).mpr ⟨series, ?_, episodes, answer, ?_⟩, ?_⟩, rfl⟩
    · simp [inShows, called, seriesHeld.named]
    · exact (seriesHeld.listed answer).mpr ⟨rfl, text⟩
    · rw [isThere, Bool.true_and]
      exact decide_eq_true member

theorem mem_keys_of_movie {item : Item} {key : String}
    (alone : seriesPosition? rules item = none)
    (unnamed : firstProviderId (providerIds rules item "ProviderIds") = none)
    (kind : itemType item ≠ some "Episode") (member : key ∈ itemSyncKeys rules item)
    : ∃ title year,
        key = fallbackMovieKey title year ∧ (title ≠ "" ∧ year ≠ "") ∧ '|' ∉ year.toList := by
  unfold itemSyncKeys safeFallbackKeys at member
  rw [alone, unnamed] at member
  dsimp only at member
  rw [if_neg kind] at member
  split at member
  · obtain ⟨title, inTitles, rfl⟩ := List.mem_map.mp (List.mem_dedup.mp member)
    have there := (List.mem_filter.mp inTitles).2
    simp only [Bool.and_eq_true, decide_eq_true_eq] at there
    exact ⟨title, _, rfl, there, bar_not_mem_fallbackKeyPart _ _⟩
  · cases member

theorem parse_fallbackMovieKey_episode (title year : String)
    : parseFallbackEpisodeKey (fallbackMovieKey title year) = none := by
  have differs : startsWith (fallbackMovieKey title year) "fallback-episode:" = false :=
    startsWith_append_of_differ _ (by decide)
  rw [parseFallbackEpisodeKey, differs, if_neg Bool.false_ne_true]

theorem found_of_movie_iff (held : Holds rules api item)
    (alone : seriesPosition? rules item.details = none)
    (unnamed : firstProviderId (providerIds rules item.details "ProviderIds") = none)
    (kind : itemType item.details ≠ some "Episode")
    (member : key ∈ itemSyncKeys rules item.details)
    : Found rules api includePlayed key item
      ↔ Findable rules api includePlayed key item series := by
  obtain ⟨title, year, rfl, there, plain⟩ := mem_keys_of_movie alone unnamed kind member
  have read := parse_fallbackMovieKey there plain
  have named : isProviderKey (fallbackMovieKey title year) = false :=
    isProviderKey_of_first _ (by decide)
  obtain ⟨found, answer⟩ := held.answers (searchQuery "Movie" title (some 50))
  unfold Findable Found lookUp
  rw [alone, unnamed]
  dsimp only
  rw [if_neg kind, if_neg (ne_true_of_eq_false named), fetchItemsByFallbackKey,
    parse_fallbackMovieKey_episode, read]
  dsimp only
  rw [fetchMovieItemsByFallbackKey, answer]
  simp only [Option.pure_def, Option.bind_eq_bind, Option.bind_some, Option.some.injEq,
    exists_eq_left', List.mem_filter]
  constructor
  · rintro ⟨other, ⟨inside, -⟩, same⟩
    exact ⟨_, found, rfl, answer, (held.exists_mem_iff answer).mp ⟨other, inside, same⟩⟩
  · rintro ⟨parsed, found_, rfl, answer_, inside⟩
    rw [answer] at answer_
    cases answer_
    exact ⟨item, ⟨inside, decide_eq_true member⟩, rfl⟩

theorem found_iff (held : Holds rules api item)
    (seriesHeld : itemType item.details = some "Episode" → HoldsSeries rules api item series)
    (member : key ∈ itemSyncKeys rules item.details)
    : Found rules api includePlayed key item
      ↔ Findable rules api includePlayed key item series := by
  cases alone : seriesPosition? rules item.details with
  | some position =>
      obtain ⟨provider, id, season, episode⟩ := position
      have keys : itemSyncKeys rules item.details
          = [seriesKey provider (id.asText rules) season episode] := by
        rw [itemSyncKeys, alone]
      rw [keys, List.mem_singleton] at member
      subst member
      exact found_of_series_iff held (seriesHeld (seriesPosition?_eq_some alone).1) alone
  | none =>
      cases first : firstProviderId (providerIds rules item.details "ProviderIds") with
      | some found =>
          obtain ⟨provider, id⟩ := found
          rw [itemSyncKeys_of_provider alone first, List.mem_singleton] at member
          subst member
          exact found_of_provider_iff held alone first
      | none =>
          by_cases kind : itemType item.details = some "Episode"
          · exact found_of_episode_iff held (seriesHeld kind) alone first kind member
          · exact found_of_movie_iff held alone first kind member

end SelfLookup

/-- When the lookup by a key of an item, in a library that holds the item, leads back to it. -/
theorem self_lookup_iff (rules : Alphabet) (api : Api) (item series : LibraryItem)
    (held : Holds rules api item)
    (seriesHeld : itemType item.details = some "Episode" → HoldsSeries rules api item series)
    (includePlayed : Bool) (key : String) (member : key ∈ itemSyncKeys rules item.details)
    : Found rules api includePlayed key item ↔ Findable rules api includePlayed key item series :=
  found_iff held seriesHeld member

/-- A server with a series of one episode, which it finds by ids only. -/
def oneEpisodeApi (rules : Alphabet) (series item : LibraryItem) : Api where
  items query :=
    some
      (if query.includeItemTypes = "Series" then [series]
      else
        [item].filter (fun item =>
          (splitAt ',' query.anyProviderIdEquals).any (· ∈ providerTokens rules item.details)
          && (!query.unplayedOnly || !item.userData.played)))
  episodes id season :=
    some ([item].filter (fun item =>
      id = series.id ∧ (Document.field item.details "ParentIndexNumber").asText rules = season))

theorem mem_items_oneEpisodeApi {rules : Alphabet} {series item other : LibraryItem}
    {query : ItemQuery} {found : List LibraryItem}
    (answer : (oneEpisodeApi rules series item).items query = some found) (member : other ∈ found)
    : other = series ∧ query.includeItemTypes = "Series" ∨ other = item := by
  cases answer
  split at member
  · next wanted => exact .inl ⟨List.mem_singleton.mp member, wanted⟩
  · exact .inr (List.mem_singleton.mp (List.mem_filter.mp member).1)

theorem mem_episodes_oneEpisodeApi {rules : Alphabet} {series item other : LibraryItem}
    {id season : String} {found : List LibraryItem}
    (answer : (oneEpisodeApi rules series item).episodes id season = some found)
    : other ∈ found
      ↔ other = item
        ∧ id = series.id
        ∧ (Document.field other.details "ParentIndexNumber").asText rules = season := by
  cases answer
  rw [List.mem_filter, List.mem_singleton, decide_eq_true_iff]

theorem oneEpisodeApi_holds {rules : Alphabet} {series item : LibraryItem} (named : item.id ≠ "")
    (differ : series.id ≠ item.id)
    : Holds rules (oneEpisodeApi rules series item) item where
  named := named
  answers _ := ⟨_, rfl⟩
  lists _ _ := ⟨_, rfl⟩
  same answer member same :=
    (mem_items_oneEpisodeApi answer member).elim (fun there => absurd (there.1 ▸ same) differ) id
  sameListed answer member _ := ((mem_episodes_oneEpisodeApi answer).mp member).1
  tokens {_ includePlayed _} answer := by
    cases answer
    cases includePlayed <;> simp [providerQuery]

theorem oneEpisodeApi_holdsSeries {rules : Alphabet} {series item : LibraryItem}
    (named : series.id ≠ "") (differ : series.id ≠ item.id)
    : HoldsSeries rules (oneEpisodeApi rules series item) item series where
  named := named
  same answer member same :=
    (mem_items_oneEpisodeApi answer member).elim (·.1) (fun there =>
      absurd (there ▸ same) differ.symm)
  ids answer _ _ := by
    cases answer
    exact List.mem_singleton_self _
  listed answer := by
    rw [mem_episodes_oneEpisodeApi answer]
    simp

def showItem : LibraryItem := ⟨"show", itemOf [("Type", .text "Series")], ⟨false, 0, none, none⟩⟩

/-- An episode of the series with the id nine. -/
def episodeItem (season : Json) : LibraryItem where
  id := "episode"
  details :=
    itemOf
      [ ("Type", .text "Episode"),
        ("SeriesProviderIds", .ofDict ((∅ : Document).set "tmdb" (.text "9"))),
        ("ParentIndexNumber", season),
        ("IndexNumber", .int 1) ]
  userData := ⟨false, 0, none, none⟩

theorem self_lookup_iff_first_season
    : let item := episodeItem (.int 1)
      let api := oneEpisodeApi plainRules showItem item
      Found plainRules api true "series-tmdb:9:s1:e1" item
      ↔ Findable plainRules api true "series-tmdb:9:s1:e1" item showItem :=
  self_lookup_iff plainRules _ (episodeItem (.int 1)) showItem
    (oneEpisodeApi_holds (by decide) (by decide))
    (fun _ => oneEpisodeApi_holdsSeries (by decide) (by decide))
    true "series-tmdb:9:s1:e1" (by decide)

/-- The key of a special is built with its season zero, which the lookup reads as missing. -/
theorem specials_are_not_found
    : let item := episodeItem (.int 0)
      let api := oneEpisodeApi plainRules showItem item
      Holds plainRules api item
      ∧ HoldsSeries plainRules api item showItem
      ∧ "series-tmdb:9:s0:e1" ∈ itemSyncKeys plainRules item.details
      ∧ ¬Found plainRules api true "series-tmdb:9:s0:e1" item := by
  refine ⟨oneEpisodeApi_holds (by decide) (by decide),
    oneEpisodeApi_holdsSeries (by decide) (by decide), by decide, ?_⟩
  rintro ⟨candidates, answer, other, member, -⟩
  have none_
      : (lookUp plainRules (oneEpisodeApi plainRules showItem (episodeItem (.int 0))) true
          "series-tmdb:9:s0:e1").map (·.map (·.id)) = some [] := by
    decide
  rw [answer, Option.map_some, Option.some.injEq, List.map_eq_nil_iff] at none_
  rw [none_] at member
  cases member

end OctoHubs.UserItems
