import OctoHubs.JustWatch.CatalogueAgreement

/-! What checks owe their callers: a stored answer is given without a request, and a request that
failed is made again. Failed requests are remembered, so that only runs without them hold to it.
-/

namespace OctoHubs.JustWatch

open OctoHubs.Library

variable {rules : CatalogueRules}

/-- A check at a time, with what the requests that it makes are replied with. -/
structure Check where
  now : Int
  call : JustWatchCall
  api : JustWatchApi

def Check.run (rules : CatalogueRules) (check : Check) (manager : JustWatchManager)
    : Asked Availability :=
  check.call.check rules check.api check.now manager

def runChecks (rules : CatalogueRules) (checks : List Check) : JustWatchManager :=
  checks.foldl (fun manager check => (check.run rules manager).manager) .fresh

def Check.Fails (rules : CatalogueRules) (check : Check) (manager : JustWatchManager) : Prop :=
  ∃ request ∈ (check.run rules manager).requests, check.api request = none

def Check.OfEpisode (check : Check) : Prop := check.call.objectType = "SHOW"

/-- Whatever is stored as available is the answer, and for a day also what is stored as not
available. A check that failed changes no stored answer, and when it is made again, it asks again
and answers what the catalogue says by then. -/
structure FollowsPolicy (rules : CatalogueRules) (manager : JustWatchManager) (check : Check)
    : Prop where
  available
    : ∀ cached, manager.storage.get? (check.call.cacheKey rules) = some cached →
        cached.isAvailable = true →
        (check.run rules manager).value = cached.availability
        ∧ (check.run rules manager).requests = []
  unavailable
    : ∀ cached, manager.storage.get? (check.call.cacheKey rules) = some cached →
        cached.isAvailable = false → check.now - cached.lastChecked < recheckAfter →
        (check.run rules manager).value = cached.availability
        ∧ (check.run rules manager).requests = []
  failed
    : check.Fails rules manager →
        (∀ key,
          ((check.run rules manager).manager.storage.get? key).map CachedAvailability.availability
            = (manager.storage.get? key).map CachedAvailability.availability)
        ∧ ∀ again : Check, again.call = check.call → (∀ request, (again.api request).isSome = true) →
            (again.run rules (check.run rules manager).manager).requests ≠ []
            ∧ (again.run rules (check.run rules manager).manager).value
              = (again.run rules .fresh).value

-- Memory

/-- What is remembered gives an answer to an episode without a request. -/
def Remembered (rules : CatalogueRules) (manager : JustWatchManager) (call : JustWatchCall)
    (availability : Availability)
    : Prop :=
  match call with
  | .episode _ season number _ =>
      ∃ node, manager.showCache.get? call.searchKey = some node
        ∧ match node.bind nodeId? with
          | none => availability = (false, [])
          | some nodeId =>
              ∃ details, manager.showDetailsCache.get? nodeId = some details
                ∧ availability
                  = availabilityOf rules (details.elim [] (episodeOffers · season number))
  | .movie _ _ => True

/-- Nothing is forgotten. -/
structure Grows (manager next : JustWatchManager) : Prop where
  nodes : ∀ key node, manager.showCache.get? key = some node → next.showCache.get? key = some node
  details
    : ∀ nodeId details, manager.showDetailsCache.get? nodeId = some details →
        next.showDetailsCache.get? nodeId = some details

theorem Grows.refl (manager : JustWatchManager) : Grows manager manager :=
  ⟨fun _ _ found => found, fun _ _ found => found⟩

theorem Grows.trans {first second third : JustWatchManager} (left : Grows first second)
    (right : Grows second third)
    : Grows first third :=
  ⟨fun key node found => right.nodes key node (left.nodes key node found),
    fun nodeId details found => right.details nodeId details (left.details nodeId details found)⟩

theorem Remembered.mono {manager next : JustWatchManager} {call : JustWatchCall}
    {availability : Availability} (remembered : Remembered rules manager call availability)
    (grows : Grows manager next)
    : Remembered rules next call availability := by
  cases call with
  | movie title year => trivial
  | episode showName season number year =>
      obtain ⟨node, found, rest⟩ := remembered
      refine ⟨node, grows.nodes _ _ found, ?_⟩
      cases id : node.bind nodeId? with
      | none => simpa only [id] using rest
      | some nodeId =>
          rw [id] at rest
          obtain ⟨details, known, answer⟩ := rest
          exact ⟨details, grows.details _ _ known, answer⟩

theorem searchTitle_grows (api : JustWatchApi) (manager : JustWatchManager) (title : String)
    (year : Option Int) (objectType : String)
    : Grows manager (manager.searchTitle api title year objectType).manager := by
  cases known : manager.showCache.get? (searchKey title year objectType) with
  | some node =>
      simp only [JustWatchManager.searchTitle, known]
      exact .refl manager
  | none =>
      simp only [JustWatchManager.searchTitle, known]
      refine ⟨?_, fun _ _ found => found⟩
      intro key node found
      have ne : key ≠ searchKey title year objectType := by
        rintro rfl
        rw [known] at found
        cases found
      exact (Dict.get?_set_ne _ _ ne).trans found

theorem getShowDetails_grows (api : JustWatchApi) (manager : JustWatchManager) (nodeId : String)
    : Grows manager (manager.getShowDetails api nodeId).manager := by
  cases known : manager.showDetailsCache.get? nodeId with
  | some details =>
      simp only [JustWatchManager.getShowDetails, known]
      exact .refl manager
  | none =>
      simp only [JustWatchManager.getShowDetails, known]
      refine ⟨fun _ _ found => found, ?_⟩
      intro other details found
      have ne : other ≠ nodeId := by
        rintro rfl
        rw [known] at found
        cases found
      exact (Dict.get?_set_ne _ _ ne).trans found

theorem searchTitle_known (api : JustWatchApi) (manager : JustWatchManager) (title : String)
    (year : Option Int) (objectType : String)
    : (manager.searchTitle api title year objectType).manager.showCache.get?
          (searchKey title year objectType)
      = some (manager.searchTitle api title year objectType).value := by
  cases known : manager.showCache.get? (searchKey title year objectType) with
  | some node => simp only [JustWatchManager.searchTitle, known]
  | none => simp only [JustWatchManager.searchTitle, known, Dict.get?_set_self]

theorem getShowDetails_known (api : JustWatchApi) (manager : JustWatchManager) (nodeId : String)
    : (manager.getShowDetails api nodeId).manager.showDetailsCache.get? nodeId
      = some (manager.getShowDetails api nodeId).value := by
  cases known : manager.showDetailsCache.get? nodeId with
  | some details => simp only [JustWatchManager.getShowDetails, known]
  | none => simp only [JustWatchManager.getShowDetails, known, Dict.get?_set_self]

theorem searchTitle_storage (api : JustWatchApi) (manager : JustWatchManager) (title : String)
    (year : Option Int) (objectType : String)
    : (manager.searchTitle api title year objectType).manager.storage = manager.storage := by
  unfold JustWatchManager.searchTitle
  dsimp only
  split <;> rfl

theorem getShowDetails_storage (api : JustWatchApi) (manager : JustWatchManager) (nodeId : String)
    : (manager.getShowDetails api nodeId).manager.storage = manager.storage := by
  unfold JustWatchManager.getShowDetails
  split <;> rfl

-- One check

theorem check_of_stored {api : JustWatchApi} {now : Int} {manager : JustWatchManager}
    {call : JustWatchCall} {availability : Availability}
    (answered : manager.storedAnswer (call.cacheKey rules) now = some availability)
    : call.check rules api now manager = ⟨availability, [], manager⟩ := by
  cases call with
  | episode showName season number year =>
      simp only [JustWatchCall.cacheKey] at answered
      simp only [JustWatchCall.check, JustWatchManager.checkAvailabilityDetails, answered]
  | movie title year =>
      simp only [JustWatchCall.cacheKey] at answered
      simp only [JustWatchCall.check, JustWatchManager.checkMovieAvailabilityDetails, answered]

/-- A check that is not answered from the storage stores and remembers its answer. -/
structure Stores (rules : CatalogueRules) (now : Int) (manager : JustWatchManager)
    (call : JustWatchCall) (asked : Asked Availability)
    : Prop where
  storage
    : asked.manager.storage
      = manager.storage.set (call.cacheKey rules) ⟨asked.value.1, asked.value.2, now⟩
  grows : Grows manager asked.manager
  remembered : Remembered rules asked.manager call asked.value

theorem check_stores {api : JustWatchApi} {now : Int} {manager : JustWatchManager}
    {call : JustWatchCall} (unanswered : manager.storedAnswer (call.cacheKey rules) now = none)
    : Stores rules now manager call (call.check rules api now manager) := by
  cases call with
  | episode showName season number year =>
      simp only [JustWatchCall.cacheKey] at unanswered
      have grows := searchTitle_grows api manager showName year "SHOW"
      have known := searchTitle_known api manager showName year "SHOW"
      have storage := searchTitle_storage api manager showName year "SHOW"
      simp only [JustWatchCall.check, JustWatchManager.checkAvailabilityDetails, unanswered]
      generalize manager.searchTitle api showName year "SHOW" = searched at grows known storage ⊢
      cases found : searched.value.bind nodeId? with
      | none =>
          refine ⟨?_, ⟨grows.nodes, grows.details⟩, searched.value, known, ?_⟩
          · simp only [JustWatchManager.save, storage, JustWatchCall.cacheKey]
          · simp only [found]
      | some nodeId =>
          have more := getShowDetails_grows api searched.manager nodeId
          have detailed := getShowDetails_known api searched.manager nodeId
          have still := getShowDetails_storage api searched.manager nodeId
          dsimp only
          generalize searched.manager.getShowDetails api nodeId = details at more detailed still ⊢
          refine ⟨?_, ?_, searched.value, more.nodes _ _ known, ?_⟩
          · simp only [JustWatchManager.save, still, storage, JustWatchCall.cacheKey]
          · have all := grows.trans more
            exact ⟨all.nodes, all.details⟩
          · simp only [found]
            exact ⟨details.value, detailed, rfl⟩
  | movie title year =>
      simp only [JustWatchCall.cacheKey] at unanswered
      have grows := searchTitle_grows api manager title year "MOVIE"
      have storage := searchTitle_storage api manager title year "MOVIE"
      simp only [JustWatchCall.check, JustWatchManager.checkMovieAvailabilityDetails, unanswered]
      generalize manager.searchTitle api title year "MOVIE" = searched at grows storage ⊢
      cases searched.value.bind (fun node => (nodeId? node).map (node, ·)) with
      | none =>
          refine ⟨?_, ⟨grows.nodes, grows.details⟩, trivial⟩
          simp only [JustWatchManager.save, storage, JustWatchCall.cacheKey]
      | some pair =>
          refine ⟨?_, ⟨grows.nodes, grows.details⟩, trivial⟩
          simp only [JustWatchManager.save, storage, JustWatchCall.cacheKey]

theorem check_of_remembered {api : JustWatchApi} {now : Int} {manager : JustWatchManager}
    {call : JustWatchCall} (episode : call.objectType = "SHOW") {cached : CachedAvailability}
    (found : manager.storage.get? (call.cacheKey rules) = some cached)
    (remembered : Remembered rules manager call cached.availability)
    : (call.check rules api now manager).value = cached.availability
      ∧ (call.check rules api now manager).requests = [] := by
  cases answered : manager.storedAnswer (call.cacheKey rules) now with
  | some availability =>
      obtain ⟨other, same, rfl⟩ := storedAnswer_eq_some answered
      rw [found] at same
      cases same
      rw [check_of_stored answered]
      exact ⟨rfl, rfl⟩
  | none =>
      cases call with
      | movie title year => simp [JustWatchCall.objectType] at episode
      | episode showName season number year =>
          obtain ⟨node, known, rest⟩ := remembered
          simp only [JustWatchCall.searchKey, JustWatchCall.title, JustWatchCall.year,
            JustWatchCall.objectType] at known
          simp only [JustWatchCall.cacheKey] at answered
          simp only [JustWatchCall.check, JustWatchManager.checkAvailabilityDetails, answered,
            JustWatchManager.searchTitle, known]
          cases id : node.bind nodeId? with
          | none =>
              rw [id] at rest
              exact ⟨rest.symm, rfl⟩
          | some nodeId =>
              rw [id] at rest
              obtain ⟨details, detailed, answer⟩ := rest
              simp only [JustWatchManager.getShowDetails, detailed]
              exact ⟨answer.symm, rfl⟩

-- Runs

/-- Checks of episodes that share a key search for the same. -/
def SameSubject (rules : CatalogueRules) (calls : List JustWatchCall) : Prop :=
  ∀ call ∈ calls, ∀ other ∈ calls, call.objectType = "SHOW" →
    call.cacheKey rules = other.cacheKey rules → call.searchKey = other.searchKey

/-- Every stored answer to an episode is remembered. -/
def Sound (rules : CatalogueRules) (calls : List JustWatchCall) (manager : JustWatchManager)
    : Prop :=
  ∀ call ∈ calls, call.objectType = "SHOW" →
    ∀ cached, manager.storage.get? (call.cacheKey rules) = some cached →
      Remembered rules manager call cached.availability

theorem Remembered.congr {manager : JustWatchManager} {call other : JustWatchCall}
    {availability : Availability} (remembered : Remembered rules manager call availability)
    (episode : other.objectType = "SHOW") (keys : other.cacheKey rules = call.cacheKey rules)
    (subject : other.searchKey = call.searchKey)
    : Remembered rules manager other availability := by
  cases other with
  | movie title year => trivial
  | episode otherName otherSeason otherNumber otherYear =>
      cases call with
      | movie title year => exact absurd (congrArg Prod.fst keys) cacheKey_kinds
      | episode showName season number year =>
          simp only [JustWatchCall.cacheKey, Prod.mk.injEq] at keys
          obtain ⟨-, rfl, rfl⟩ := keys
          obtain ⟨node, known, rest⟩ := remembered
          exact ⟨node, subject ▸ known, rest⟩

theorem Sound.check {calls : List JustWatchCall} {manager : JustWatchManager}
    (sound : Sound rules calls manager) (same : SameSubject rules calls) {check : Check}
    (member : check.call ∈ calls)
    : Sound rules calls (check.run rules manager).manager := by
  unfold Check.run
  cases answered : manager.storedAnswer (check.call.cacheKey rules) check.now with
  | some availability =>
      rw [check_of_stored answered]
      exact sound
  | none =>
      have stores := @check_stores rules check.api check.now manager check.call answered
      generalize check.call.check rules check.api check.now manager = asked at stores ⊢
      intro call listed episode cached found
      rw [stores.storage, Dict.get?_set] at found
      split at found
      · next keys =>
          cases found
          exact stores.remembered.congr episode keys (same call listed check.call member episode keys)
      · exact (sound call listed episode cached found).mono stores.grows

theorem sound_runChecks {calls : List JustWatchCall} (same : SameSubject rules calls)
    (checks : List Check) (listed : ∀ check ∈ checks, check.call ∈ calls)
    : Sound rules calls (runChecks rules checks) := by
  induction checks using List.reverseRecOn with
  | nil =>
      intro call _ _ cached found
      cases found
  | append_singleton checks check ih =>
      have before := ih (fun other member => listed other (List.mem_append_left _ member))
      have last : check.call ∈ calls := listed check (by simp)
      have step := before.check same last
      simpa only [runChecks, List.foldl_append, List.foldl_cons, List.foldl_nil] using step

theorem requests_of_again {manager : JustWatchManager} {check again : Check}
    (episode : check.OfEpisode) (same : again.call = check.call)
    (asked : (check.run rules manager).requests ≠ [])
    : (again.run rules (check.run rules manager).manager).requests = [] := by
  unfold Check.run at asked ⊢
  rw [same]
  cases answered : manager.storedAnswer (check.call.cacheKey rules) check.now with
  | some availability =>
      rw [check_of_stored answered] at asked
      exact absurd rfl asked
  | none =>
      have stores := @check_stores rules check.api check.now manager check.call answered
      generalize check.call.check rules check.api check.now manager = first at stores ⊢
      have found : first.manager.storage.get? (check.call.cacheKey rules)
          = some ⟨first.value.1, first.value.2, check.now⟩ := by
        rw [stores.storage, Dict.get?_set_self]
      exact (check_of_remembered episode found stores.remembered).2

/-- If checks of episodes that share a key search for the same, then all checks of episodes follow
the policy if and only if none of their requests fails. -/
theorem episodes_follow_policy_iff (rules : CatalogueRules) (checks : List Check)
    (same : SameSubject rules (checks.map Check.call))
    : (∀ before check after, checks = before ++ check :: after → check.OfEpisode →
        FollowsPolicy rules (runChecks rules before) check)
      ↔ ∀ before check after, checks = before ++ check :: after → check.OfEpisode →
          ¬ check.Fails rules (runChecks rules before) := by
  constructor
  · intro follows before check after shape episode fails
    have policy := follows before check after shape episode
    let again : Check := { check with api := fun _ => some .null }
    have asked := (policy.failed fails).2 again rfl (fun _ => rfl)
    obtain ⟨request, member, -⟩ := fails
    exact asked.1 (requests_of_again episode rfl (List.ne_nil_of_mem member))
  · intro works before check after shape episode
    have member : check.call ∈ checks.map Check.call :=
      List.mem_map_of_mem (shape ▸ by simp)
    have sound := sound_runChecks same before (fun other earlier =>
      List.mem_map_of_mem (shape ▸ List.mem_append_left _ earlier))
    have answered (cached : CachedAvailability)
        (found : (runChecks rules before).storage.get? (check.call.cacheKey rules) = some cached) :=
      @check_of_remembered rules check.api check.now _ _ episode _ found
        (sound check.call member episode cached found)
    exact ⟨fun cached found _ => answered cached found,
      fun cached found _ _ => answered cached found,
      fun fails => absurd fails (works before check after shape episode)⟩

/-- The first episode of a series, a second after the start for each number. -/
def darkCheck (seconds : Int) (year : Option Int) (api : JustWatchApi) : Check :=
  ⟨seconds * 1000000, .episode "Dark" 1 1 year, api⟩

/-- A catalogue that finds nothing. -/
def nothingFound : JustWatchApi := fun _ => some (.ofList [])

theorem dark_follows_policy_iff
    : (∀ before check after,
        [darkCheck 0 none nothingFound, darkCheck 1 none nothingFound] = before ++ check :: after →
        check.OfEpisode →
        FollowsPolicy plainCatalogue (runChecks plainCatalogue before) check)
      ↔ ∀ before check after,
          [darkCheck 0 none nothingFound, darkCheck 1 none nothingFound]
            = before ++ check :: after →
          check.OfEpisode → ¬ check.Fails plainCatalogue (runChecks plainCatalogue before) := by
  apply episodes_follow_policy_iff
  intro call member other otherMember _ _
  simp only [darkCheck, List.map_cons, List.map_nil, List.mem_cons, List.not_mem_nil, or_false,
    or_self] at member otherMember
  rw [member, otherMember]

/-- A failed search is not made again. What is stored as not available is asked for again with
another year. -/
theorem failed_search_is_remembered
    : ¬ FollowsPolicy plainCatalogue .fresh (darkCheck 0 none (fun _ => none))
      ∧ ¬ FollowsPolicy plainCatalogue (runChecks plainCatalogue [darkCheck 0 none nothingFound])
            (darkCheck 1 (some 2017) nothingFound) := by
  constructor
  · intro policy
    have fails : (darkCheck 0 none (fun _ => none)).Fails plainCatalogue .fresh :=
      ⟨.search "Dark", by decide, rfl⟩
    have asked := (policy.failed fails).2 (darkCheck 1 none nothingFound) rfl (fun _ => rfl)
    exact asked.1 (requests_of_again rfl rfl (by decide))
  · intro policy
    have again := policy.unavailable ⟨false, [], 0⟩ (by decide) rfl (by decide)
    revert again
    decide

end OctoHubs.JustWatch
