import OctoHubs.UserItems.ItemMatching

/-! Movies and episodes share a key exactly when both are keyed by the same id of the same
provider, and an item matches its own signature unless its place in the series counts as missing.
-/

namespace OctoHubs.UserItems

open OctoHubs.Library

section Matching

variable {rules : Alphabet}

inductive Keyed (rules : Alphabet) (item : Item) (key : String) : Prop
  | series {provider : String} {id : Json} {season episode : String}
    (position : seriesPosition? rules item = some (provider, id, season, episode))
    (shape : key = seriesKey provider (id.asText rules) season episode)
  | provider {provider : String} {id : Json} (alone : seriesPosition? rules item = none)
    (first : firstProviderId (providerIds rules item "ProviderIds") = some (provider, id))
    (shape : key = providerKey provider (id.asText rules))
  | episode (kind : itemType item = some "Episode")
    (shape : ∃ rest, key = "fallback-episode:" ++ rest)
  | movie (kind : itemType item ≠ some "Episode") (shape : ∃ rest, key = "fallback-movie:" ++ rest)

theorem keyed_of_mem {item : Item} {key : String} (member : key ∈ itemSyncKeys rules item)
    : Keyed rules item key := by
  unfold itemSyncKeys at member
  split at member
  · next position => exact .series position (List.mem_singleton.mp member)
  · next alone =>
      split at member
      · next first => exact .provider alone first (List.mem_singleton.mp member)
      · unfold safeFallbackKeys at member
        split at member
        · next kind =>
            dsimp only at member
            split at member
            · exact .episode kind ⟨_, List.mem_singleton.mp member⟩
            · cases member
        · next kind =>
            split at member
            · dsimp only at member
              obtain ⟨title, -, rfl⟩ := List.mem_map.mp (List.mem_dedup.mp member)
              exact .movie kind ⟨_, rfl⟩
            · cases member

theorem known_of_firstProviderId {ids : Document} {provider : String} {id : Json}
    (first : firstProviderId ids = some (provider, id))
    : provider = "tmdb" ∨ provider = "tvdb" ∨ provider = "imdb" := by
  obtain ⟨found, member, chosen⟩ := List.exists_of_findSome?_eq_some first
  dsimp only at chosen
  split at chosen
  · obtain ⟨rfl, -⟩ := Prod.mk.inj (Option.some.inj chosen)
    simpa only [providerPriority, List.mem_cons, List.not_mem_nil, or_false] using member
  · cases chosen

theorem providerKey_inj {provider other : String}
    (known : provider = "tmdb" ∨ provider = "tvdb" ∨ provider = "imdb")
    (known_ : other = "tmdb" ∨ other = "tvdb" ∨ other = "imdb") {id otherId : String}
    (same : providerKey provider id = providerKey other otherId)
    : provider = other ∧ id = otherId := by
  have texts := congrArg String.toList same
  simp only [providerKey, String.toList_append, List.append_assoc] at texts
  have plain {name : String} (named : name = "tmdb" ∨ name = "tvdb" ∨ name = "imdb")
      : ':' ∉ name.toList := by
    rcases named with rfl | rfl | rfl <;> decide
  obtain ⟨fronts, rests⟩ := append_separator_inj (plain known) (plain known_) texts
  exact ⟨String.toList_inj.mp fronts, String.toList_inj.mp rests⟩

theorem providerKey_ne {provider : String}
    (known : provider = "tmdb" ∨ provider = "tvdb" ∨ provider = "imdb") (id : String)
    {lead : String} (foreign : lead.toList.head? = some 's' ∨ lead.toList.head? = some 'f')
    (rest : String)
    : providerKey provider id ≠ lead ++ rest := by
  intro same
  have heads := congrArg (fun text => text.toList.head?) same
  simp only [providerKey, String.toList_append, List.head?_append] at heads
  rcases foreign with first | first <;> rw [first] at heads <;>
    rcases known with rfl | rfl | rfl <;> cases heads

/-- A movie and an episode have both an id at the provider that comes first for each, the same one,
and the episode none for its series.
-/
def SharesProvider (rules : Alphabet) (movie episode : Item) : Prop :=
  seriesPosition? rules episode = none
  ∧ ∃ provider id other,
      firstProviderId (providerIds rules movie "ProviderIds") = some (provider, id)
      ∧ firstProviderId (providerIds rules episode "ProviderIds") = some (provider, other)
      ∧ id.asText rules = other.asText rules

theorem seriesPosition?_of_movie {movie : Item} (kind : itemType movie = some "Movie")
    : seriesPosition? rules movie = none := by
  rw [seriesPosition?, kind, if_neg (by decide)]

theorem itemSyncKeys_of_provider {item : Item} {provider : String} {id : Json}
    (alone : seriesPosition? rules item = none)
    (first : firstProviderId (providerIds rules item "ProviderIds") = some (provider, id))
    : itemSyncKeys rules item = [providerKey provider (id.asText rules)] := by
  rw [itemSyncKeys, alone, first]

theorem shares_key_iff {movie episode : Item} (kind : itemType movie = some "Movie")
    (kind_ : itemType episode = some "Episode")
    : (∃ key ∈ itemSyncKeys rules movie, key ∈ itemSyncKeys rules episode)
      ↔ SharesProvider rules movie episode := by
  constructor
  · rintro ⟨key, ofMovie, ofEpisode⟩
    cases keyed_of_mem ofMovie with
    | series position => rw [seriesPosition?_of_movie kind] at position; cases position
    | episode other => exact absurd (Option.some.inj (kind.symm.trans other)) (by decide)
    | provider alone first shape =>
        have known := known_of_firstProviderId first
        cases keyed_of_mem ofEpisode with
        | series position shape_ =>
            exact absurd (shape.symm.trans shape_) (providerKey_ne known _ (.inl rfl) _)
        | episode _ shape_ =>
            obtain ⟨rest, shape_⟩ := shape_
            exact absurd (shape.symm.trans shape_) (providerKey_ne known _ (.inr rfl) _)
        | movie other => exact absurd kind_ other
        | provider alone_ first_ shape_ =>
            obtain ⟨rfl, same⟩ := providerKey_inj known (known_of_firstProviderId first_)
              (shape.symm.trans shape_)
            exact ⟨alone_, _, _, _, first, first_, same⟩
    | movie _ shape =>
        obtain ⟨rest, rfl⟩ := shape
        cases keyed_of_mem ofEpisode with
        | series position shape_ =>
            have heads := congrArg (fun text => text.toList.head?) shape_
            simp only [seriesKey, String.toList_append] at heads
            cases heads
        | episode _ shape_ =>
            obtain ⟨other, shape_⟩ := shape_
            have tenth := congrArg (fun text => text.toList[9]?) shape_
            simp only [String.toList_append] at tenth
            cases tenth
        | movie other => exact absurd kind_ other
        | provider alone_ first_ shape_ =>
            exact absurd shape_.symm
              (providerKey_ne (known_of_firstProviderId first_) _ (.inr rfl) _)
  · rintro ⟨alone, provider, id, other, first, first_, same⟩
    refine ⟨providerKey provider (id.asText rules), ?_, ?_⟩
    · rw [itemSyncKeys_of_provider (seriesPosition?_of_movie kind) first]
      exact List.mem_singleton_self _
    · rw [itemSyncKeys_of_provider alone first_, same]
      exact List.mem_singleton_self _

/-- A value keeps its text although values that count as false are read as missing. -/
def ReadsBack (rules : Alphabet) (value : Json) : Prop :=
  value.truthy = true ∨ value.asText rules = ""

theorem textOr_eq_asText_iff {value : Json}
    : value.textOr rules "" = value.asText rules ↔ ReadsBack rules value := by
  unfold Json.textOr ReadsBack
  cases value.truthy with
  | true => exact ⟨fun _ => .inl rfl, fun _ => rfl⟩
  | false =>
      constructor
      · exact fun same => .inr same.symm
      · rintro (same | same)
        · cases same
        · exact same.symm

/-- The place of an episode is read back: neither number is zero. -/
def PositionReadsBack (rules : Alphabet) (item : Item) : Prop :=
  itemType item = some "Episode"
  → ReadsBack rules (Document.field item "ParentIndexNumber")
    ∧ ReadsBack rules (Document.field item "IndexNumber")

theorem episodePosition_eq_some {item : Item} {season episode : String}
    (position : episodePosition rules item = some (season, episode))
    : season = (Document.field item "ParentIndexNumber").asText rules
      ∧ episode = (Document.field item "IndexNumber").asText rules := by
  unfold episodePosition at position
  split at position
  · cases position
  · cases position
  · obtain ⟨rfl, rfl⟩ := Prod.mk.inj (Option.some.inj position)
    exact ⟨rfl, rfl⟩

theorem runtimeToleranceTicks_nonneg : 0 ≤ runtimeToleranceTicks := by decide

/-- An item matches its signature unless the matcher misses its place, by the kinds of items. -/
theorem matches_own_signature_iff {item : Item} {signature : FallbackSignature}
    (found : safeFallbackSignature rules item = some signature)
    : matchesSafeFallbackSignature rules item signature = true ↔ PositionReadsBack rules item := by
  unfold safeFallbackSignature at found
  dsimp only at found
  split at found
  · cases found
  · next long =>
      split at found
      · next kind =>
          split at found
          · cases found
          · next named =>
              obtain ⟨titled, dated⟩ := not_or.mp named
              rw [Bool.not_eq_false] at dated
              cases found
              have year := textOr_eq_asText_iff.mpr (.inl dated : ReadsBack rules _)
              have other : itemType item ≠ some "Episode" := by
                rw [kind]
                decide
              simp [matchesSafeFallbackSignature, PositionReadsBack, kind, long, titled, year,
                runtimeToleranceTicks_nonneg]
      · split at found
        · next kind =>
            split at found
            · cases found
            · obtain ⟨⟨season, episode⟩, position, same⟩ := Option.map_eq_some_iff.mp found
              subst same
              obtain ⟨rfl, rfl⟩ := episodePosition_eq_some position
              simp [matchesSafeFallbackSignature, PositionReadsBack, kind, long,
                textOr_eq_asText_iff, runtimeToleranceTicks_nonneg, and_comm]
        · cases found

end Matching

/-- Whether movies and episodes are kept apart, and whether items match themselves. -/
theorem matching_laws_iff (rules : Alphabet)
    : (∀ movie episode,
        itemType movie = some "Movie"
        → itemType episode = some "Episode"
        → ((∀ key ∈ itemSyncKeys rules movie, key ∉ itemSyncKeys rules episode)
          ↔ ¬SharesProvider rules movie episode))
      ∧ ∀ item signature,
          safeFallbackSignature rules item = some signature
          → (matchesSafeFallbackSignature rules item signature = true
            ↔ PositionReadsBack rules item) := by
  refine ⟨fun movie episode kind kind_ => ?_, fun item signature => matches_own_signature_iff⟩
  rw [← shares_key_iff kind kind_, not_exists]
  simp only [not_and]

def numberedMovie : Item :=
  itemOf
    [ ("Type", .text "Movie"),
      ("ProviderIds", .ofDict (itemOf [("tmdb", .text "550")])) ]

def numberedEpisode : Item :=
  itemOf
    [ ("Type", .text "Episode"),
      ("ProviderIds", .ofDict (itemOf [("tmdb", .text "550")])) ]

/-- The first episode among the specials of a series. -/
def specialEpisode : Item :=
  itemOf
    [ ("Type", .text "Episode"),
      ("SeriesName", .text "Show"),
      ("ParentIndexNumber", .int 0),
      ("IndexNumber", .int 1),
      ("RunTimeTicks", .int 600) ]

theorem matching_laws_fail
    : itemSyncKeys plainRules numberedMovie = itemSyncKeys plainRules numberedEpisode
      ∧ itemSyncKeys plainRules numberedMovie ≠ []
      ∧ (safeFallbackSignature plainRules specialEpisode).any (fun signature =>
          !matchesSafeFallbackSignature plainRules specialEpisode signature)
        = true := by
  decide

end OctoHubs.UserItems
