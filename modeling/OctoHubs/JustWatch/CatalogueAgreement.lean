import OctoHubs.JustWatch.JustWatchManager
import OctoHubs.Library.Decimals

/-! A manager that remembers against one that does not. They answer alike as long as no two
checks with different titles or years share a key: the stored answers know no year.
-/

namespace OctoHubs.JustWatch

open OctoHubs.Library

-- Keys

theorem yearText_plain (year : Option Int) : ':' ∉ (yearText year).toList := by
  intro member
  unfold yearText at member
  cases shown : year.filter (· ≠ 0) with
  | none =>
      rw [shown, Option.elim_none] at member
      cases member
  | some number =>
      rw [shown, Option.elim_some] at member
      rcases isDigit_or_sign_of_mem_toString member with digit | sign
      · cases digit
      · cases sign

theorem yearText_inj {year other : Option Int} (same : yearText year = yearText other)
    : year.filter (· ≠ 0) = other.filter (· ≠ 0) := by
  have counts {year : Option Int} {number : Int} (shown : year.filter (· ≠ 0) = some number)
      : toString number ≠ "" := by
    intro bare
    have zero : number = 0 := by
      have read := readDigits_toString number
      rw [bare] at read
      exact (Option.some.inj read).symm
    have nonzero := (Option.filter_eq_some_iff.mp shown).2
    simp [zero] at nonzero
  unfold yearText at same
  cases left : year.filter (· ≠ 0) with
  | none =>
      cases right : other.filter (· ≠ 0) with
      | none => rfl
      | some number =>
          rw [left, right] at same
          exact absurd same.symm (counts right)
  | some number =>
      cases right : other.filter (· ≠ 0) with
      | none =>
          rw [left, right] at same
          exact absurd same (counts left)
      | some second =>
          rw [left, right] at same
          exact congrArg some (toString_int_injective same)

theorem years_of_filter {year other : Option Int}
    (same : year.filter (· ≠ 0) = other.filter (· ≠ 0))
    : year = other ∨ (year = some 0 ∧ other = none) ∨ (year = none ∧ other = some 0) := by
  cases year with
  | none =>
      cases other with
      | none => exact .inl rfl
      | some number =>
          by_cases zero : number = 0
          · exact .inr (.inr ⟨rfl, by rw [zero]⟩)
          · simp [Option.filter, zero] at same
  | some number =>
      cases other with
      | none =>
          by_cases zero : number = 0
          · exact .inr (.inl ⟨by rw [zero], rfl⟩)
          · simp [Option.filter, zero] at same
      | some second =>
          by_cases zero : number = 0 <;> by_cases other_ : second = 0
          · exact .inl (by rw [zero, other_])
          · simp [Option.filter, zero, other_] at same
          · simp [Option.filter, zero, other_] at same
          · exact .inl (by simpa [Option.filter, zero, other_] using same)

theorem searchKey_inj {title other : String} {year otherYear : Option Int}
    {objectType otherType : String} (plain : ':' ∉ objectType.toList)
    (otherPlain : ':' ∉ otherType.toList)
    (same : searchKey title year objectType = searchKey other otherYear otherType)
    : title = other ∧ year.filter (· ≠ 0) = otherYear.filter (· ≠ 0) ∧ objectType = otherType := by
  have reversed (title : String) (year : Option Int) (objectType : String)
      : (searchKey title year objectType).toList.reverse
        = objectType.toList.reverse
          ++ ':' :: (':' :: ((yearText year).toList.reverse
            ++ ':' :: (':' :: title.toList.reverse))) := by
    simp [searchKey]
  have texts := congrArg (fun text => text.toList.reverse) same
  simp only [reversed] at texts
  obtain ⟨types, rest⟩ := append_separator_inj (by simpa using plain) (by simpa using otherPlain) texts
  obtain ⟨years, titles⟩ :=
    append_separator_inj (by simpa using yearText_plain year) (by simpa using yearText_plain otherYear)
      (List.tail_eq_of_cons_eq rest)
  refine ⟨?_, yearText_inj ?_, ?_⟩
  · exact String.toList_injective (List.reverse_injective (List.tail_eq_of_cons_eq titles))
  · exact String.toList_injective (List.reverse_injective years)
  · exact String.toList_injective (List.reverse_injective types)

theorem objectType_plain (call : JustWatchCall) : ':' ∉ call.objectType.toList := by
  cases call <;> simp [JustWatchCall.objectType]

variable {rules : CatalogueRules}

theorem cacheKey_kinds {showName title : String}
    : episodeCacheKey rules showName ≠ movieCacheKey rules title := by
  intro same
  have ends := congrArg (fun text => text.toList.getLast?) same
  simp [episodeCacheKey, movieCacheKey, episodeCacheSuffix, movieCacheSuffix] at ends

/-- Calls that share a key have one title and one year, and a title is not searched both without
a year and with a year of zero. -/
structure Agreeing (rules : CatalogueRules) (calls : List JustWatchCall) : Prop where
  cached
    : ∀ call ∈ calls, ∀ other ∈ calls, call.cacheKey rules = other.cacheKey rules →
        call.title = other.title ∧ call.year = other.year
  searched
    : ∀ call ∈ calls, ∀ other ∈ calls, call.title = other.title →
        call.objectType = other.objectType → call.year = some 0 → other.year ≠ none

theorem Agreeing.eq_of_cacheKey {calls : List JustWatchCall} (agreeing : Agreeing rules calls)
    {call other : JustWatchCall} (member : call ∈ calls) (otherMember : other ∈ calls)
    (same : call.cacheKey rules = other.cacheKey rules)
    : call = other := by
  obtain ⟨titles, years⟩ := agreeing.cached call member other otherMember same
  cases call with
  | episode showName season number year =>
      cases other with
      | episode otherName otherSeason otherNumber otherYear =>
          simp only [JustWatchCall.cacheKey, Prod.mk.injEq] at same
          simp only [JustWatchCall.title, JustWatchCall.year] at titles years
          rw [titles, years, same.2.1, same.2.2]
      | movie title otherYear => exact absurd (congrArg Prod.fst same) cacheKey_kinds
  | movie title year =>
      cases other with
      | episode showName season number otherYear =>
          exact absurd (congrArg Prod.fst same).symm cacheKey_kinds
      | movie otherTitle otherYear =>
          simp only [JustWatchCall.title, JustWatchCall.year] at titles years
          rw [titles, years]

-- What the catalogue says

def nodeFor (api : JustWatchApi) (call : JustWatchCall) : Option Document :=
  (api (.search call.title)).bind (fun edges => matchingNode edges call.year call.objectType)

def detailsFor (api : JustWatchApi) (nodeId : String) : Option Document :=
  (api (.show_ nodeId)).bind showNode?

/-- The offers of a movie, as the search gave them or asked for. -/
def movieOffers (api : JustWatchApi) (node : Document) (nodeId : String) : List Json :=
  let searchOffers := (node.field "offers").asList?.getD []
  if searchOffers = [] then JustWatchManager.getTitleOffers api nodeId else searchOffers

/-- The answer to a call from the node and the details of its show. -/
def availabilityFrom (rules : CatalogueRules) (api : JustWatchApi) (node : Option Document)
    (details : String → Option Document)
    : JustWatchCall → Availability
  | .episode _ season number _ =>
      (node.bind nodeId?).elim (false, []) (fun nodeId =>
        availabilityOf rules ((details nodeId).elim [] (episodeOffers · season number)))
  | .movie _ _ =>
      (node.bind (fun node => (nodeId? node).map (node, ·))).elim (false, []) (fun (node, nodeId) =>
        availabilityOf rules (movieOffers api node nodeId))

def availabilityFor (rules : CatalogueRules) (api : JustWatchApi) (call : JustWatchCall)
    : Availability :=
  availabilityFrom rules api (nodeFor api call) (detailsFor api) call

theorem Agreeing.nodeFor_eq {calls : List JustWatchCall} (agreeing : Agreeing rules calls)
    {call other : JustWatchCall} (member : call ∈ calls) (otherMember : other ∈ calls)
    (same : call.searchKey = other.searchKey) (api : JustWatchApi)
    : nodeFor api call = nodeFor api other := by
  obtain ⟨titles, counted, types⟩ :=
    searchKey_inj (objectType_plain call) (objectType_plain other) same
  have years : call.year = other.year := by
    rcases years_of_filter counted with years | ⟨zero, none_⟩ | ⟨none_, zero⟩
    · exact years
    · exact absurd none_ (agreeing.searched call member other otherMember titles types zero)
    · exact absurd none_
        (agreeing.searched other otherMember call member titles.symm types.symm zero)
  rw [nodeFor, nodeFor, titles, years, types]

-- What the manager remembers

/-- All that is remembered is what the catalogue says. -/
structure Coherent (rules : CatalogueRules) (api : JustWatchApi) (calls : List JustWatchCall)
    (manager : JustWatchManager)
    : Prop where
  nodes
    : ∀ call ∈ calls, ∀ node, manager.showCache.get? call.searchKey = some node →
        node = nodeFor api call
  details
    : ∀ nodeId details, manager.showDetailsCache.get? nodeId = some details →
        details = detailsFor api nodeId
  rows
    : ∀ call ∈ calls, ∀ cached, manager.storage.get? (call.cacheKey rules) = some cached →
        cached.availability = availabilityFor rules api call

theorem Coherent.fresh {api : JustWatchApi} {calls : List JustWatchCall}
    : Coherent rules api calls .fresh where
  nodes := by
    intro call _ node found
    cases found
  details := by
    intro nodeId details found
    cases found
  rows := by
    intro call _ cached found
    cases found

theorem storedAnswer_eq_some {manager : JustWatchManager} {key : CacheKey} {now : Int}
    {availability : Availability} (answered : manager.storedAnswer key now = some availability)
    : ∃ cached, manager.storage.get? key = some cached ∧ availability = cached.availability := by
  obtain ⟨cached, found, given⟩ := Option.bind_eq_some_iff.mp answered
  refine ⟨cached, found, ?_⟩
  unfold CachedAvailability.availability
  split at given
  · next available =>
      cases given
      rw [available.1]
  · next other =>
      split at given
      · next recent =>
          cases given
          have unavailable : cached.isAvailable = false := by
            cases shown : cached.isAvailable with
            | false => rfl
            | true => exact absurd ⟨shown, recent.2⟩ other
          rw [unavailable]
      · cases given

section Agreement

variable {api : JustWatchApi} {calls : List JustWatchCall} {manager : JustWatchManager}
  {call : JustWatchCall}

theorem Coherent.searchTitle (coherent : Coherent rules api calls manager)
    (agreeing : Agreeing rules calls) (member : call ∈ calls)
    : (manager.searchTitle api call.title call.year call.objectType).value = nodeFor api call
      ∧ Coherent rules api calls
          (manager.searchTitle api call.title call.year call.objectType).manager := by
  cases known : manager.showCache.get? (searchKey call.title call.year call.objectType) with
  | some node =>
      simp only [JustWatchManager.searchTitle, known]
      exact ⟨coherent.nodes call member node known, coherent⟩
  | none =>
      simp only [JustWatchManager.searchTitle, known]
      refine ⟨rfl, ?_, coherent.details, coherent.rows⟩
      intro other otherMember node found
      rw [Dict.get?_set] at found
      split at found
      · next same =>
          cases found
          exact agreeing.nodeFor_eq member otherMember same.symm api
      · exact coherent.nodes other otherMember node found

theorem Coherent.getShowDetails (coherent : Coherent rules api calls manager) (nodeId : String)
    : (manager.getShowDetails api nodeId).value = detailsFor api nodeId
      ∧ Coherent rules api calls (manager.getShowDetails api nodeId).manager := by
  cases known : manager.showDetailsCache.get? nodeId with
  | some details =>
      simp only [JustWatchManager.getShowDetails, known]
      exact ⟨coherent.details nodeId details known, coherent⟩
  | none =>
      simp only [JustWatchManager.getShowDetails, known]
      refine ⟨rfl, coherent.nodes, ?_, coherent.rows⟩
      intro other details found
      rw [Dict.get?_set] at found
      split at found
      · next same =>
          cases found
          rw [same, detailsFor]
      · exact coherent.details other details found

theorem Coherent.save (coherent : Coherent rules api calls manager)
    (agreeing : Agreeing rules calls) (member : call ∈ calls) (now : Int)
    : Coherent rules api calls
        (manager.save (call.cacheKey rules) now (availabilityFor rules api call)) := by
  refine ⟨coherent.nodes, coherent.details, ?_⟩
  intro other otherMember cached found
  simp only [JustWatchManager.save, Dict.get?_set] at found
  split at found
  · next same =>
      cases found
      rw [agreeing.eq_of_cacheKey otherMember member same]
      rfl
  · exact coherent.rows other otherMember cached found

theorem Coherent.check (coherent : Coherent rules api calls manager)
    (agreeing : Agreeing rules calls) (member : call ∈ calls) (now : Int)
    : (call.check rules api now manager).value = availabilityFor rules api call
      ∧ Coherent rules api calls (call.check rules api now manager).manager := by
  have searched := coherent.searchTitle agreeing member
  cases answered : manager.storedAnswer (call.cacheKey rules) now with
  | some availability =>
      obtain ⟨cached, found, rfl⟩ := storedAnswer_eq_some answered
      have stored := coherent.rows call member cached found
      cases call with
      | episode showName season number year =>
          simp only [JustWatchCall.cacheKey] at answered
          simp only [JustWatchCall.check, JustWatchManager.checkAvailabilityDetails, answered]
          exact ⟨stored, coherent⟩
      | movie title year =>
          simp only [JustWatchCall.cacheKey] at answered
          simp only [JustWatchCall.check, JustWatchManager.checkMovieAvailabilityDetails, answered]
          exact ⟨stored, coherent⟩
  | none =>
      cases call with
      | episode showName season number year =>
          simp only [JustWatchCall.cacheKey] at answered
          simp only [JustWatchCall.title, JustWatchCall.year, JustWatchCall.objectType] at searched
          obtain ⟨value, kept⟩ := searched
          simp only [JustWatchCall.check, JustWatchManager.checkAvailabilityDetails, answered, value]
          cases found : (nodeFor api (.episode showName season number year)).bind nodeId? with
          | none =>
              have answer : availabilityFor rules api (.episode showName season number year)
                  = (false, []) := by
                simp [availabilityFor, availabilityFrom, found]
              exact ⟨answer.symm, answer ▸ kept.save agreeing member now⟩
          | some nodeId =>
              obtain ⟨details, still⟩ := kept.getShowDetails nodeId
              have answer : availabilityFor rules api (.episode showName season number year)
                  = availabilityOf rules
                      ((detailsFor api nodeId).elim [] (episodeOffers · season number)) := by
                simp [availabilityFor, availabilityFrom, found]
              simp only [details]
              exact ⟨answer.symm, answer ▸ still.save agreeing member now⟩
      | movie title year =>
          simp only [JustWatchCall.cacheKey] at answered
          simp only [JustWatchCall.title, JustWatchCall.year, JustWatchCall.objectType] at searched
          obtain ⟨value, kept⟩ := searched
          simp only [JustWatchCall.check, JustWatchManager.checkMovieAvailabilityDetails, answered,
            value]
          cases found
              : (nodeFor api (.movie title year)).bind (fun node => (nodeId? node).map (node, ·)) with
          | none =>
              have answer : availabilityFor rules api (.movie title year) = (false, []) := by
                simp only [availabilityFor, availabilityFrom, found, Option.elim_none]
              exact ⟨answer.symm, answer ▸ kept.save agreeing member now⟩
          | some pair =>
              have answer : availabilityFor rules api (.movie title year)
                  = availabilityOf rules (movieOffers api pair.1 pair.2) := by
                simp only [availabilityFor, availabilityFrom, found, Option.elim_some]
              have saved := kept.save agreeing member now
              rw [answer] at saved
              exact ⟨answer.symm, saved⟩

end Agreement

-- Runs

/-- The answers to calls at their times, one after the other. -/
def answers (rules : CatalogueRules) (api : JustWatchApi)
    : JustWatchManager → List (Int × JustWatchCall) → List Availability
  | _, [] => []
  | manager, (now, call) :: rest =>
      let checked := call.check rules api now manager
      checked.value :: answers rules api checked.manager rest

theorem Coherent.answers_eq {api : JustWatchApi} {calls : List JustWatchCall}
    {manager : JustWatchManager} (coherent : Coherent rules api calls manager)
    (agreeing : Agreeing rules calls) {checks : List (Int × JustWatchCall)}
    (listed : ∀ check ∈ checks, check.2 ∈ calls)
    : answers rules api manager checks
      = checks.map (fun check => availabilityFor rules api check.2) := by
  induction checks generalizing manager with
  | nil => rfl
  | cons check rest ih =>
      obtain ⟨value, kept⟩ := coherent.check agreeing (listed check List.mem_cons_self) check.1
      rw [answers, List.map_cons, value]
      exact congrArg _ (ih kept (fun other member => listed other (List.mem_cons_of_mem _ member)))

theorem fresh_check (api : JustWatchApi) (call : JustWatchCall) (now : Int)
    : (call.check rules api now .fresh).value = availabilityFor rules api call := by
  have alone : Agreeing rules [call] := by
    refine ⟨?_, ?_⟩
    · intro first member second otherMember _
      rw [List.mem_singleton.mp member, List.mem_singleton.mp otherMember]
      exact ⟨rfl, rfl⟩
    · intro first member second otherMember _ _ zero none_
      rw [List.mem_singleton.mp member] at zero
      rw [List.mem_singleton.mp otherMember, zero] at none_
      cases none_
  exact (Coherent.fresh.check alone List.mem_cons_self now).1

/-- If the calls of a run agree, each is answered as by a manager that knows nothing. The
catalogue does not change, and no request fails. -/
theorem remembered_answers_are_fresh (rules : CatalogueRules) (catalogue : JustWatchRequest → Json)
    (checks : List (Int × JustWatchCall)) (agreeing : Agreeing rules (checks.map Prod.snd))
    : answers rules (fun request => some (catalogue request)) .fresh checks
      = checks.map (fun (now, call) =>
          (call.check rules (fun request => some (catalogue request)) now .fresh).value) := by
  rw [Coherent.fresh.answers_eq agreeing (fun check member => List.mem_map_of_mem member)]
  apply List.map_congr_left
  intro check _
  exact (fresh_check _ check.2 check.1).symm

/-- Titles in plain ASCII, none of them too long. -/
def plainCatalogue : CatalogueRules where
  lower text := String.ofList (text.toList.map Char.toLower)
  isAlphanumeric := Char.isAlphanum
  readInt? _ := none
  showNested _ := ""
  digest _ := ""

def movieEdge (id : String) (year : Int) (provider : String) : Json :=
  let package := Json.ofDict ⟨[("clearName", .text provider)], by simp⟩
  let offer := Json.ofDict ⟨[("monetizationType", .text "FLATRATE"), ("package", package)], by simp⟩
  let content := Json.ofDict ⟨[("originalReleaseYear", .int year)], by simp⟩
  .ofDict
    ⟨[("node", .ofDict
        ⟨[("id", .text id), ("objectType", .text "MOVIE"), ("content", content),
          ("offers", .ofList [offer])], by simp⟩)], by simp⟩

def twoMovies (_ : JustWatchRequest) : Json :=
  .ofList [movieEdge "tm1" 1984 "Rai", movieEdge "tm2" 2021 "Now"]

/-- The movie of the one year is answered with what is stored of the other. -/
theorem other_movie_is_answered
    : answers plainCatalogue (fun request => some (twoMovies request)) .fresh
          [(0, .movie "Dune" (some 1984)), (1, .movie "Dune" (some 2021))]
        = [(true, ["Rai"]), (true, ["Rai"])]
      ∧ (JustWatchCall.check plainCatalogue (fun request => some (twoMovies request)) 1 .fresh
          (.movie "Dune" (some 2021))).value
        = (true, ["Now"]) := by
  decide

theorem one_movie_is_remembered
    : answers plainCatalogue (fun request => some (twoMovies request)) .fresh
          [(0, .movie "Dune" (some 2021)), (1, .movie "Dune" (some 2021))]
        = [(0, JustWatchCall.movie "Dune" (some 2021)), (1, .movie "Dune" (some 2021))].map
            (fun (now, call) =>
              (call.check plainCatalogue (fun request => some (twoMovies request)) now
                .fresh).value) := by
  refine remembered_answers_are_fresh plainCatalogue twoMovies _ ⟨?_, ?_⟩
  · intro call member other otherMember _
    simp only [List.map_cons, List.map_nil, List.mem_cons, List.not_mem_nil, or_false,
      or_self] at member otherMember
    rw [member, otherMember]
    exact ⟨rfl, rfl⟩
  · intro call member other otherMember _ _ zero
    simp only [List.map_cons, List.map_nil, List.mem_cons, List.not_mem_nil, or_false,
      or_self] at member
    rw [member] at zero
    cases zero

end OctoHubs.JustWatch
