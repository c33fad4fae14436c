import Mathlib.Data.List.Dedup
import OctoHubs.Requests.RequestScan

/-! When the dashboard's row of a request says rightly whether the scan passes it over. -/

namespace OctoHubs.Requests

open OctoHubs.Library

section Sides

variable (settings : ScanSettings) (request : SeerrRequest)

/-- The payload and the type by which the dashboard judges a request. -/
def summaryPayload : Document × Option MediaType :=
  let payload := enrichedPayload settings request
  resolveRequestMetadataForSummary settings request payload
    (isTv settings (typeOf payload) && !isRequestAvailable settings.reader payload none)

/-- The seasons by which the dashboard judges a request. -/
def summaryStatuses : List SeasonStatus :=
  let (base, mediaType) := summaryPayload settings request
  if mediaType = some .tv then describeSeasonStatuses settings.reader base else []

/-- A request looks as if nothing of it will be searched for: it is available or unreleased as a
whole, or no season of it is selected.
-/
inductive Marked : Prop
  | available (asked : settings.skipAvailable = true)
    (holds
      : isRequestAvailable settings.reader (summaryPayload settings request).1
          (some (summaryStatuses settings request))
        = true)
  | unreleased (asked : settings.skipUnreleased = true)
    (holds : isRequestUnreleased settings.reader (summaryPayload settings request).1 = true)
  | unselected (listed : summaryStatuses settings request ≠ [])
    (holds
      : selectScanSeasons (summaryStatuses settings request) settings.skipAvailable
          settings.skipUnreleased
        = [])

/-- The seasons by which the scan judges a request, of a series only. -/
def queuedStatuses : List SeasonStatus :=
  let payload := preparedPayload settings request
  if isTv settings (typeOf payload) then describeSeasonStatuses settings.reader payload else []

/-- A season that may be scanned is one that is neither skipped as available nor as unreleased. -/
def IsSelected (entry : SeasonStatus) : Prop :=
  ¬(settings.skipAvailable = true ∧ entry.status = .available)
  ∧ ¬(settings.skipUnreleased = true ∧ entry.status = .unreleased)

/-- The scan finds a title and a type of the request. -/
def Resolvable : Prop :=
  let (hydrated, _) := hydrateRequestData settings request (preparedPayload settings request)
  hydrateMissingTitle settings hydrated = (true, true)

/-- Pending episodes are looked at in requests that the scan takes for series. -/
def CountsPending : Prop :=
  settings.skipAvailable = true
  ∧ (hydrateRequestData settings request (preparedPayload settings request)).2 = some .tv

/-- What the scan needs to search for a request: the list's own payload is neither available nor
unreleased, its rule is on, it has a title and a type, and of a series whose seasons are known one
is selected which has an episode that is pending.
-/
structure Searchable : Prop where
  unavailable : settings.skipAvailable = true → isListedAvailable request.payload = false
  released
    : settings.skipUnreleased = true → isRequestUnreleased settings.reader request.payload = false
  enabled : ruleEnabled settings request.rule = true
  resolvable : Resolvable settings request
  pending
    : queuedStatuses settings request ≠ []
      → ∃ entry ∈ queuedStatuses settings request,
          IsSelected settings entry
          ∧ (CountsPending settings request → ∃ number ∈ entry.pending, 0 < number)

/-- The two sides agree on a request: one that looks passed over lacks something to be searched for,
and any other request lacks nothing.
-/
structure Agrees : Prop where
  marked : Marked settings request → ¬Searchable settings request
  unmarked : ¬Marked settings request → Searchable settings request

end Sides

section Agreement

variable {settings : ScanSettings} {request : SeerrRequest}

theorem summaryStatuses_ne_nil
    (listed : summaryStatuses settings request ≠ [])
    : (summaryPayload settings request).2 = some .tv := by
  unfold summaryStatuses at listed
  generalize summaryPayload settings request = pair at listed ⊢
  obtain ⟨base, mediaType⟩ := pair
  dsimp only at listed ⊢
  by_contra other
  exact listed (if_neg other)

theorem willSkip_iff : (summarizeRequest settings request).willSkip = true
    ↔ Marked settings request := by
  have shape
      : (summarizeRequest settings request).willSkip
        = (settings.skipAvailable
            && isRequestAvailable settings.reader (summaryPayload settings request).1
              (some (summaryStatuses settings request))
          || settings.skipUnreleased
            && isRequestUnreleased settings.reader (summaryPayload settings request).1
          || (decide ((summaryPayload settings request).2 = some .tv)
            && decide (summaryStatuses settings request ≠ [])
            && decide
              (selectScanSeasons (summaryStatuses settings request) settings.skipAvailable
                settings.skipUnreleased = []))) := rfl
  rw [shape]
  simp only [Bool.or_eq_true, Bool.and_eq_true, decide_eq_true_eq]
  constructor
  · rintro ((⟨asked, holds⟩ | ⟨asked, holds⟩) | ⟨⟨-, listed⟩, holds⟩)
    · exact .available asked holds
    · exact .unreleased asked holds
    · exact .unselected listed holds
  · rintro (⟨asked, holds⟩ | ⟨asked, holds⟩ | ⟨listed, holds⟩)
    · exact .inl (.inl ⟨asked, holds⟩)
    · exact .inl (.inr ⟨asked, holds⟩)
    · exact .inr ⟨⟨summaryStatuses_ne_nil listed, listed⟩, holds⟩

def Passes (settings : ScanSettings) (request : SeerrRequest) : Prop :=
  (settings.skipAvailable = true → isListedAvailable request.payload = false)
  ∧ (settings.skipUnreleased = true
    → isRequestUnreleased settings.reader request.payload = false)
  ∧ ruleEnabled settings request.rule = true

def jobOf? (settings : ScanSettings) (request : SeerrRequest) : Option Job :=
  let payload := preparedPayload settings request
  (requestScanSeasons settings payload).map (fun seasons =>
    ⟨request, payload, if seasons = [] then [none] else seasons.map some⟩)

theorem mem_runRequestScan_iff {requests : List SeerrRequest} {search : Int × Option Int}
    : search ∈ runRequestScan settings requests
      ↔ ∃ request ∈ requests,
          Passes settings request
          ∧ ∃ job, jobOf? settings request = some job ∧ search ∈ processJob settings job := by
  have passes (request : SeerrRequest)
      : (!(settings.skipAvailable && isListedAvailable request.payload)
          && !(settings.skipUnreleased && isRequestUnreleased settings.reader request.payload)
          && ruleEnabled settings request.rule) = true
        ↔ Passes settings request := by
    unfold Passes
    cases settings.skipAvailable <;> cases settings.skipUnreleased <;> simp [and_assoc]
  unfold runRequestScan buildJobQueue prepareRequests filterRequests
  simp only [List.mem_flatMap, List.mem_filterMap, List.mem_map, List.mem_filter, passes]
  constructor
  · rintro ⟨job, ⟨_, ⟨request, ⟨member, kept⟩, rfl⟩, made⟩, searched⟩
    exact ⟨request, member, kept, job, made, searched⟩
  · rintro ⟨request, member, kept, job, made, searched⟩
    exact ⟨job, ⟨_, ⟨request, ⟨member, kept⟩, rfl⟩, made⟩, searched⟩

theorem jobOf?_request {job : Job} (made : jobOf? settings request = some job)
    : job.request = request ∧ job.payload = preparedPayload settings request := by
  obtain ⟨seasons, -, rfl⟩ := Option.map_eq_some_iff.mp made
  exact ⟨rfl, rfl⟩

theorem mem_processJob_iff {job : Job} {search : Int × Option Int}
    : search ∈ processJob settings job
      ↔ search.1 = job.request.id
        ∧ ∃ context,
            resolveRequestContext settings job.request job.payload = some context
            ∧ search.2 ∈ job.seasons
            ∧ isSeasonComplete settings context search.2 = false := by
  obtain ⟨id, season⟩ := search
  unfold processJob
  cases resolveRequestContext settings job.request job.payload with
  | none => simp
  | some context =>
      simp only [List.mem_map, List.mem_filter, Prod.mk.injEq, Option.some.injEq, exists_eq_left',
        Bool.not_eq_true']
      constructor
      · rintro ⟨_, there, rfl, rfl⟩
        exact ⟨rfl, there⟩
      · rintro ⟨rfl, there⟩
        exact ⟨season, there, rfl, rfl⟩

/-- A request is resolved with the type it is taken for, and with the seasons of the queue where
there are some.
-/
theorem exists_context_iff
    : (∃ context,
        resolveRequestContext settings request (preparedPayload settings request) = some context)
      ↔ Resolvable settings request := by
  unfold resolveRequestContext Resolvable
  generalize hydrateRequestData settings request (preparedPayload settings request) = pair
  obtain ⟨hydrated, mediaType⟩ := pair
  dsimp only
  generalize hydrateMissingTitle settings hydrated = pair
  obtain ⟨titled, typed⟩ := pair
  cases titled <;> cases typed <;> simp

theorem context_eq {context : RequestSearchContext}
    (resolved
      : resolveRequestContext settings request (preparedPayload settings request) = some context)
    : context.mediaType
        = (hydrateRequestData settings request (preparedPayload settings request)).2
      ∧ (context.mediaType = some .tv
        → queuedStatuses settings request ≠ []
        → context.overview = queuedStatuses settings request) := by
  unfold resolveRequestContext at resolved
  unfold queuedStatuses
  generalize hydrateRequestData settings request (preparedPayload settings request) = pair
    at resolved ⊢
  obtain ⟨hydrated, mediaType⟩ := pair
  dsimp only at resolved ⊢
  generalize hydrateMissingTitle settings hydrated = pair at resolved
  obtain ⟨titled, typed⟩ := pair
  dsimp only at resolved
  split at resolved
  · cases resolved
    refine ⟨rfl, fun series listed => ?_⟩
    dsimp only at series
    rw [if_pos series, if_pos listed]
  · cases resolved

theorem normalizePending_eq_nil_iff {pending : List Int}
    : normalizePending pending = [] ↔ ∀ number ∈ pending, ¬0 < number := by
  have same : (normalizePending pending).Perm (pending.filter (0 < ·)).dedup :=
    List.perm_insertionSort _ _
  rw [← List.length_eq_zero_iff, same.length_eq, List.length_eq_zero_iff]
  constructor
  · intro none number member positive
    have kept : number ∈ (pending.filter (0 < ·)).dedup :=
      List.mem_dedup.mpr (List.mem_filter.mpr ⟨member, decide_eq_true positive⟩)
    exact List.not_mem_nil (none ▸ kept)
  · intro none
    refine List.eq_nil_iff_forall_not_mem.mpr fun number kept => ?_
    obtain ⟨member, positive⟩ := List.mem_filter.mp (List.mem_dedup.mp kept)
    exact none number member (of_decide_eq_true positive)

theorem isSeasonComplete_none {context : RequestSearchContext}
    : isSeasonComplete settings context none = false := by
  have noEntry : context.overview.filter (fun entry => some entry.season = none) = [] := by
    simp
  unfold isSeasonComplete
  rw [noEntry]
  simp [getPendingEpisodeNumbers]

theorem isSeasonComplete_eq_false_iff {context : RequestSearchContext} {entry : SeasonStatus}
    (member : entry ∈ context.overview) (unique : (context.overview.map (·.season)).Nodup)
    : isSeasonComplete settings context (some entry.season) = false
      ↔ (settings.skipAvailable = true ∧ context.mediaType = some .tv
        → ∃ number ∈ entry.pending, 0 < number) := by
  have alone
      : (context.overview.filter (fun other => some other.season = some entry.season)).getLast?
        = some entry := by
    have found
        : entry ∈ context.overview.filter (fun other => some other.season = some entry.season) :=
      List.mem_filter.mpr ⟨member, by simp⟩
    obtain ⟨last, is_last⟩ := Option.ne_none_iff_exists'.mp
      (mt List.getLast?_eq_none_iff.mp (List.ne_nil_of_mem found))
    obtain ⟨listed, same⟩ := List.mem_filter.mp (List.mem_of_getLast? is_last)
    have season : last.season = entry.season := by simpa using same
    rw [is_last, List.inj_on_of_nodup_map unique listed member season]
  unfold isSeasonComplete
  rw [alone]
  by_cases looked : settings.skipAvailable = true ∧ context.mediaType = some .tv
  · have condition
        : (settings.skipAvailable && decide (context.mediaType = some .tv)) = true := by
      simp [looked.1, looked.2]
    rw [if_pos condition]
    have pending
        : (∃ number ∈ entry.pending, 0 < number) ↔ normalizePending entry.pending ≠ [] := by
      rw [Ne, normalizePending_eq_nil_iff]
      push Not
      rfl
    simp [looked, pending]
  · have condition
        : ¬(settings.skipAvailable && decide (context.mediaType = some .tv)) = true := by
      simpa using looked
    rw [if_neg condition]
    exact iff_of_true rfl fun holds => absurd holds looked

theorem nodup_extractRequestSeasons (reader : SeasonReader) (payload : Document)
    : (extractRequestSeasons reader payload).Nodup := by
  have kept (numbers seen : List Int) (unique : seen.Nodup)
      : (numbers.foldl
          (fun numbers number => if number ∈ numbers then numbers else numbers ++ [number])
          seen).Nodup := by
    induction numbers generalizing seen with
    | nil => exact unique
    | cons number numbers ih =>
        refine ih _ ?_
        dsimp only
        split
        · exact unique
        · next fresh => simpa only [List.concat_eq_append] using unique.concat fresh
  exact kept _ [] List.nodup_nil

theorem nodup_seasons_describeSeasonStatuses (reader : SeasonReader) (payload : Document)
    : ((describeSeasonStatuses reader payload).map (·.season)).Nodup := by
  have season (number : Int) : (describeSeason reader payload number).season = number := by
    unfold describeSeason
    dsimp only
    split
    · rfl
    · split
      · split <;> rfl
      · rfl
  have numbers
      : (describeSeasonStatuses reader payload).map (·.season)
        = (extractRequestSeasons reader payload).insertionSort (· ≤ ·) := by
    unfold describeSeasonStatuses
    rw [List.map_map]
    exact (List.map_congr_left fun number _ => season number).trans (List.map_id _)
  rw [numbers]
  exact (List.perm_insertionSort _ _).nodup_iff.mpr (nodup_extractRequestSeasons reader payload)

theorem queuedStatuses_unique (settings : ScanSettings) (request : SeerrRequest)
    : ((queuedStatuses settings request).map (·.season)).Nodup := by
  unfold queuedStatuses
  dsimp only
  split
  · exact nodup_seasons_describeSeasonStatuses _ _
  · exact List.nodup_nil

theorem extractRequestSeasons_eq_nil_iff {reader : SeasonReader} {payload : Document}
    : describeSeasonStatuses reader payload = [] ↔ extractRequestSeasons reader payload = [] := by
  have same := List.perm_insertionSort (· ≤ ·) (extractRequestSeasons reader payload)
  unfold describeSeasonStatuses
  rw [List.map_eq_nil_iff, ← List.length_eq_zero_iff, same.length_eq, List.length_eq_zero_iff]

theorem jobOf?_of_unlisted (unlisted : queuedStatuses settings request = [])
    : jobOf? settings request = some ⟨request, preparedPayload settings request, [none]⟩ := by
  unfold queuedStatuses at unlisted
  unfold jobOf? requestScanSeasons
  generalize preparedPayload settings request = payload at unlisted ⊢
  dsimp only at unlisted ⊢
  cases series : isTv settings (typeOf payload) with
  | false => rfl
  | true =>
      rw [series, if_pos rfl] at unlisted
      have numbers := extractRequestSeasons_eq_nil_iff.mp unlisted
      rw [if_pos rfl, unlisted, numbers]
      simp [selectScanSeasons, filterUnreleasedSeasons]

theorem jobOf?_of_listed {job : Job} (listed : queuedStatuses settings request ≠ [])
    : jobOf? settings request = some job
      ↔ selectScanSeasons (queuedStatuses settings request) settings.skipAvailable
            settings.skipUnreleased
          ≠ []
        ∧ job
          = ⟨request, preparedPayload settings request,
              (selectScanSeasons (queuedStatuses settings request) settings.skipAvailable
                settings.skipUnreleased).map some⟩ := by
  unfold queuedStatuses at listed ⊢
  unfold jobOf? requestScanSeasons
  generalize preparedPayload settings request = payload at listed ⊢
  dsimp only at listed ⊢
  cases series : isTv settings (typeOf payload) with
  | false =>
      rw [series] at listed
      exact absurd rfl listed
  | true =>
      rw [series, if_pos rfl] at listed
      rw [if_pos rfl, if_pos rfl, if_pos listed]
      generalize selectScanSeasons (describeSeasonStatuses settings.reader payload)
        settings.skipAvailable settings.skipUnreleased = seasons
      by_cases none : seasons = []
      · simp [none]
      · simp [none, eq_comm]

theorem mem_selectScanSeasons_iff {statuses : List SeasonStatus} {season : Int}
    : season ∈ selectScanSeasons statuses settings.skipAvailable settings.skipUnreleased
      ↔ ∃ entry ∈ statuses, IsSelected settings entry ∧ entry.season = season := by
  have selected (entry : SeasonStatus)
      : (!(settings.skipAvailable && decide (entry.status = .available))
          && !(settings.skipUnreleased && decide (entry.status = .unreleased))) = true
        ↔ IsSelected settings entry := by
    unfold IsSelected
    cases settings.skipAvailable <;> cases settings.skipUnreleased <;> simp
  unfold selectScanSeasons
  simp only [List.mem_map, List.mem_filter, selected, and_assoc]

theorem exists_search_of_unlisted (unlisted : queuedStatuses settings request = [])
    : (∃ job, jobOf? settings request = some job
        ∧ ∃ season, (request.id, season) ∈ processJob settings job)
      ↔ Resolvable settings request := by
  rw [← exists_context_iff, jobOf?_of_unlisted unlisted]
  constructor
  · rintro ⟨job, made, season, searched⟩
    cases made
    obtain ⟨-, context, resolved, -⟩ := mem_processJob_iff.mp searched
    exact ⟨context, resolved⟩
  · rintro ⟨context, resolved⟩
    exact ⟨_, rfl, none, mem_processJob_iff.mpr
      ⟨rfl, context, resolved, List.mem_singleton_self _, isSeasonComplete_none⟩⟩

theorem exists_search_of_listed (listed : queuedStatuses settings request ≠ [])
    : (∃ job, jobOf? settings request = some job
        ∧ ∃ season, (request.id, season) ∈ processJob settings job)
      ↔ Resolvable settings request
        ∧ ∃ entry ∈ queuedStatuses settings request,
            IsSelected settings entry
            ∧ (CountsPending settings request → ∃ number ∈ entry.pending, 0 < number) := by
  have complete {context : RequestSearchContext} {entry : SeasonStatus}
      (resolved
        : resolveRequestContext settings request (preparedPayload settings request) = some context)
      (member : entry ∈ queuedStatuses settings request)
      : isSeasonComplete settings context (some entry.season) = false
        ↔ (CountsPending settings request → ∃ number ∈ entry.pending, 0 < number) := by
    obtain ⟨type, overview⟩ := context_eq resolved
    unfold CountsPending
    rw [← type]
    by_cases series : context.mediaType = some .tv
    · have same := overview series listed
      exact isSeasonComplete_eq_false_iff (same ▸ member)
        (same ▸ queuedStatuses_unique settings request)
    · refine iff_of_true ?_ fun looked => absurd looked.2 series
      unfold isSeasonComplete
      rw [if_neg (by simp [series])]
  constructor
  · rintro ⟨job, made, season, searched⟩
    obtain ⟨-, rfl⟩ := (jobOf?_of_listed listed).mp made
    obtain ⟨-, context, resolved, scanned, incomplete⟩ := mem_processJob_iff.mp searched
    obtain ⟨number, selected, rfl⟩ := List.mem_map.mp scanned
    obtain ⟨entry, member, kept, rfl⟩ := mem_selectScanSeasons_iff.mp selected
    exact ⟨exists_context_iff.mp ⟨context, resolved⟩, entry, member, kept,
      (complete resolved member).mp incomplete⟩
  · rintro ⟨resolvable, entry, member, kept, pending⟩
    obtain ⟨context, resolved⟩ := exists_context_iff.mpr resolvable
    have selected := mem_selectScanSeasons_iff.mpr ⟨entry, member, kept, rfl⟩
    refine ⟨_, (jobOf?_of_listed listed).mpr ⟨List.ne_nil_of_mem selected, rfl⟩,
      some entry.season, mem_processJob_iff.mpr ⟨rfl, context, resolved, ?_, ?_⟩⟩
    · exact List.mem_map_of_mem selected
    · exact (complete resolved member).mpr pending

theorem exists_search_iff {requests : List SeerrRequest}
    (unique : (requests.map (·.id)).Nodup) (listed : request ∈ requests)
    : (∃ season, (request.id, season) ∈ runRequestScan settings requests)
      ↔ Searchable settings request := by
  have own
      : (∃ season, (request.id, season) ∈ runRequestScan settings requests)
        ↔ Passes settings request
          ∧ ∃ job, jobOf? settings request = some job
              ∧ ∃ season, (request.id, season) ∈ processJob settings job := by
    constructor
    · rintro ⟨season, searched⟩
      obtain ⟨other, member, passes, job, made, found⟩ := mem_runRequestScan_iff.mp searched
      have id : request.id = other.id :=
        (mem_processJob_iff.mp found).1.trans (congrArg _ (jobOf?_request made).1)
      obtain rfl := List.inj_on_of_nodup_map unique listed member id
      exact ⟨passes, job, made, season, found⟩
    · rintro ⟨passes, job, made, season, found⟩
      exact ⟨season, mem_runRequestScan_iff.mpr ⟨request, listed, passes, job, made, found⟩⟩
  rw [own]
  by_cases unlisted : queuedStatuses settings request = []
  · rw [exists_search_of_unlisted unlisted]
    constructor
    · rintro ⟨⟨unavailable, released, enabled⟩, resolvable⟩
      exact ⟨unavailable, released, enabled, resolvable, fun known => absurd unlisted known⟩
    · rintro ⟨unavailable, released, enabled, resolvable, -⟩
      exact ⟨⟨unavailable, released, enabled⟩, resolvable⟩
  · rw [exists_search_of_listed unlisted]
    constructor
    · rintro ⟨⟨unavailable, released, enabled⟩, resolvable, pending⟩
      exact ⟨unavailable, released, enabled, resolvable, fun _ => pending⟩
    · rintro ⟨unavailable, released, enabled, resolvable, pending⟩
      exact ⟨⟨unavailable, released, enabled⟩, resolvable, pending unlisted⟩

end Agreement

def payloadOf (fields : List (String × Json)) : Document :=
  fields.foldl (fun payload (key, value) => payload.set key value) ∅

/-- A request for a season of which no episode is known. -/
def unlistedSeason : Document :=
  payloadOf
    [ ("type", .text "tv"),
      ("status", .int 2),
      ("media", .ofDict (payloadOf [("mediaType", .text "tv"), ("status", .int 3)])),
      ("seasons", .ofList [.ofDict (payloadOf [("seasonNumber", .int 1)])]) ]

def unlistedRequest : SeerrRequest := ⟨7, by decide, unlistedSeason, some unlistedSeason, .null⟩

/-- Available content is skipped, and the title of a medium is found. -/
def plainSettings : ScanSettings where
  reader :=
    { alphabet := ⟨id, Char.isAlphanum, String.toInt?, fun _ => ""⟩
      digits := String.toInt?
      parseDateValue := fun _ => none
      now := 0
      traktEpisodes := fun _ _ => none }
  skipAvailable := true
  skipUnreleased := false
  fetchMediaInfo _ _ := (some (payloadOf [("name", .text "Show")]), some .tv)

end OctoHubs.Requests
