import OctoHubs.TranscodeGuard.ServerFences

/-! Servers that are forgotten: no scan enforces them until they are allowed again, and nothing of
what scans had asked them before counts afterwards, unless the name has whitespace at an end.
-/

namespace OctoHubs.TranscodeGuard

open OctoHubs.Library

def FencedGuard.visitsTo (world : FencedGuard) (serverId : String) : List ServerVisit :=
  world.visits.filter (·.serverId = serverId)

/-- From the return of the call that forgets the server until one that allows it, no scan handles
its streams and it has no violation.
-/
def FencedUntilAllowed (serverId : String) : Prop :=
  ∀ (world forgotten last : FencedGuard) (events : List GuardEvent),
    world.Reachable
    → world.step (.forget serverId) = some forgotten
    → GuardRun forgotten events last
    → (∀ allowed, .allow allowed ∈ events → strip allowed ≠ strip serverId)
    → last.visitsTo serverId = forgotten.visitsTo serverId
      ∧ ∀ (key : String) (state : ViolationState),
          last.guard.violations.get? key = some state → state.serverId ≠ serverId

/-- A scan that asks the server while it is forgotten or allowed handles no streams with the
answer, however late it comes.
-/
def OlderWorkDropped (serverId : String) : Prop :=
  ∀ (scan : Nat) (world asking before renewed late visited : FencedGuard) (thread : ScanThread)
    (generation : Option Nat) (first second : List GuardEvent) (streams : List SeenStream),
    world.Reachable
    → world.step (.capture scan) = some asking
    → asking.scans.get? scan = some thread
    → thread.fetching = some (serverId, generation)
    → GuardRun asking first before
    → before.step (.forget serverId) = some renewed
        ∨ before.step (.allow serverId) = some renewed
    → GuardRun renewed second late
    → .capture scan ∉ first
    → .capture scan ∉ second
    → late.step (.visit scan streams) = some visited
    → visited.guard = late.guard ∧ visited.visits = late.visits

namespace FencedGuard

variable {world next : FencedGuard} {serverId : String}

/-- The server is forgotten, has no violation, and its visits are these. -/
structure Forgets (world : FencedGuard) (serverId : String) (visits : List ServerVisit)
    : Prop where
  forgotten : serverId ∈ world.forgotten
  clear : world.guard.ServersMeet (· ≠ serverId)
  visits : world.visitsTo serverId = visits

/-- A forgotten server stays forgotten, whatever else happens. -/
theorem Forgets.step {visits : List ServerVisit} {event : GuardEvent}
    (forgets : world.Forgets serverId visits)
    (kept : ∀ allowed, event = .allow allowed → strip allowed ≠ serverId)
    (taken : world.step event = some next)
    : next.Forgets serverId visits := by
  have forgotten := (advances_of_step taken).forgotten serverId forgets.forgotten kept
  rcases step_cases taken with quiet | ⟨visit, handles⟩
  · refine ⟨forgotten, quiet.servers _ forgets.clear, ?_⟩
    rw [visitsTo, quiet.visits]
    exact forgets.visits
  · have other : visit.serverId ≠ serverId := by
      intro same
      have current := handles.current
      simp [serverGenerationIsCurrent, same, forgets.forgotten] at current
    refine ⟨forgotten, handles.servers _ forgets.clear other, ?_⟩
    rw [visitsTo, handles.visits, List.filter_append, ← forgets.visits]
    simp [visitsTo, other]

theorem Forgets.run {visits : List ServerVisit} {events : List GuardEvent}
    (run : GuardRun world events next) (forgets : world.Forgets serverId visits)
    (kept : ∀ allowed, .allow allowed ∈ events → strip allowed ≠ serverId)
    : next.Forgets serverId visits := by
  induction run with
  | nil => exact forgets
  | cons _ taken _ ih =>
      have step :=
        forgets.step (fun allowed same => kept allowed (same ▸ List.mem_cons_self)) taken
      exact ih step (fun allowed member => kept allowed (List.mem_cons_of_mem _ member))

/-- Every server that is asked, visited or violated has a name. -/
structure Named (world : FencedGuard) : Prop where
  violations : world.guard.ServersMeet (· ≠ "")
  visits : world.visitsTo "" = []
  scans
    : ∀ (scan : Nat) (thread : ScanThread) (server : String) (generation : Option Nat),
        world.scans.get? scan = some thread
        → thread.fetching = some (server, generation)
        → server ≠ ""

theorem Named.step {event : GuardEvent} (named : world.Named)
    (taken : world.step event = some next)
    : next.Named := by
  have scans
      : ∀ (scan : Nat) (thread : ScanThread) (server : String) (generation : Option Nat),
          next.scans.get? scan = some thread
          → thread.fetching = some (server, generation)
          → server ≠ "" := by
    intro scan thread server generation running asks
    by_cases asking : event = .capture scan
    · subst asking
      rcases Option.bind_eq_some_iff.mp taken with ⟨before, -, asked⟩
      rcases capture_cases asked with ⟨_, _, _, someone, -, same, -⟩
      rw [same, Dict.get?_set_self] at running
      cases running
      cases asks
      exact someone
    · rcases (advances_of_step taken).scans scan thread asking running with
        idle | ⟨before, ran, same⟩
      · rw [idle] at asks
        cases asks
      · exact named.scans scan before server generation ran (same.trans asks)
  rcases step_cases taken with quiet | ⟨visit, handles⟩
  · refine ⟨quiet.servers _ named.violations, ?_, scans⟩
    rw [visitsTo, quiet.visits]
    exact named.visits
  · rcases handles.asked with ⟨thread, running, asks⟩
    have someone := named.scans _ _ _ _ running asks
    refine ⟨handles.servers _ named.violations someone, ?_, scans⟩
    have clear := named.visits
    rw [visitsTo] at clear
    rw [visitsTo, handles.visits, List.filter_append, clear]
    simp [someone]

theorem Reachable.named (reachable : world.Reachable) : world.Named := by
  rcases reachable with ⟨clock, events, run⟩
  refine run.preserves Named (fun named _ taken => named.step taken) ?_
  refine ⟨?_, rfl, ?_⟩
  · intro key state found
    cases found
  · intro scan thread server generation running
    cases running

theorem Reachable.run {events : List GuardEvent} (reachable : world.Reachable)
    (run : GuardRun world events next)
    : next.Reachable := by
  rcases reachable with ⟨clock, before, first⟩
  exact ⟨clock, before ++ events, first.append run⟩

/-- The scan asks nobody but the server, and with a generation below the bound. -/
def AsksBelow (world : FencedGuard) (scan : Nat) (serverId : String) (bound : Nat) : Prop :=
  ∀ (thread : ScanThread) (server : String) (generation : Option Nat),
    world.scans.get? scan = some thread
    → thread.fetching = some (server, generation)
    → server = serverId ∧ ∀ known, generation = some known → known < bound

theorem AsksBelow.step {scan bound : Nat} {event : GuardEvent}
    (asks : world.AsksBelow scan serverId bound) (other : event ≠ .capture scan)
    (taken : world.step event = some next)
    : next.AsksBelow scan serverId bound := by
  intro thread server generation running fetching
  rcases (advances_of_step taken).scans scan thread other running with
    idle | ⟨before, ran, same⟩
  · cases idle.symm.trans fetching
  · exact asks before server generation ran (same.trans fetching)

theorem AsksBelow.run {scan bound : Nat} {events : List GuardEvent}
    (run : GuardRun world events next) (asks : world.AsksBelow scan serverId bound)
    (others : .capture scan ∉ events)
    : next.AsksBelow scan serverId bound
      ∧ world.generation serverId ≤ next.generation serverId := by
  induction run with
  | nil => exact ⟨asks, Nat.le_refl _⟩
  | cons _ taken _ ih =>
      rw [List.mem_cons, not_or] at others
      rcases ih (asks.step (Ne.symm others.1) taken) others.2 with ⟨later, grown⟩
      exact ⟨later, ((advances_of_step taken).generations serverId).trans grown⟩

theorem visit_of_older {scan : Nat} {streams : List SeenStream}
    (asks : world.AsksBelow scan serverId (world.generation serverId))
    (taken : world.step (.visit scan streams) = some next)
    : next.guard = world.guard ∧ next.visits = world.visits := by
  rcases Option.bind_eq_some_iff.mp taken with ⟨thread, running, asked⟩
  rcases Option.map_eq_some_iff.mp asked with ⟨⟨server, generation⟩, fetching, rfl⟩
  rcases asks thread server generation running fetching with ⟨rfl, below⟩
  have refused : world.serverGenerationIsCurrent server generation = false := by
    cases generation with
    | none => simp [serverGenerationIsCurrent]
    | some known =>
        have lower := below known rfl
        have different : world.generation server ≠ known := by omega
        simp [serverGenerationIsCurrent, different]
  dsimp only
  rw [FencedGuard.visit, refused]
  exact ⟨rfl, rfl⟩

theorem generation_forget (stripped : strip serverId = serverId) (someone : serverId ≠ "")
    (taken : world.step (.forget serverId) = some next)
    : world.generation serverId < next.generation serverId := by
  cases taken
  rw [forgetServer, stripped, if_neg someone]
  unfold renew
  rw [generation_set, if_pos rfl]
  exact Nat.lt_succ_self _

theorem generation_allow (stripped : strip serverId = serverId) (someone : serverId ≠ "")
    (taken : world.step (.allow serverId) = some next)
    : world.generation serverId < next.generation serverId := by
  cases taken
  rw [allowServer, stripped, if_neg someone]
  unfold renew
  rw [generation_set, if_pos rfl]
  exact Nat.lt_succ_self _

theorem forgets_of_forget (stripped : strip serverId = serverId) (someone : serverId ≠ "")
    (taken : world.step (.forget serverId) = some next)
    : next.Forgets serverId (next.visitsTo serverId) := by
  cases taken
  rw [forgetServer, stripped, if_neg someone]
  refine ⟨Finset.mem_insert_self serverId _, ?_, rfl⟩
  intro key state found
  rw [Dict.get?_filter] at found
  exact of_decide_eq_true (Option.filter_eq_some_iff.mp found).2

end FencedGuard

theorem fencedUntilAllowed {serverId : String} (stripped : strip serverId = serverId)
    : FencedUntilAllowed serverId := by
  intro world forgotten last events reachable taken run kept
  by_cases someone : serverId = ""
  · subst someone
    have forgot := reachable.run (.cons trivial taken (.nil _))
    have named := (forgot.run run).named
    exact ⟨named.visits.trans forgot.named.visits.symm, named.violations⟩
  · rw [stripped] at kept
    have forgets := FencedGuard.Forgets.run run
      (FencedGuard.forgets_of_forget stripped someone taken) kept
    exact ⟨forgets.visits, forgets.clear⟩

theorem olderWorkDropped {serverId : String} (stripped : strip serverId = serverId)
    : OlderWorkDropped serverId := by
  intro scan world asking before renewed late visited thread generation first second streams
    reachable asked running fetching run renew rest othersFirst othersSecond taken
  rcases Option.bind_eq_some_iff.mp asked with ⟨start, -, captured⟩
  rcases FencedGuard.capture_cases captured with
    ⟨server, _, stamp, someone, known, scans, -, -, -, same⟩
  rw [scans, Dict.get?_set_self] at running
  cases running
  cases fetching
  have asks
      : asking.AsksBelow scan serverId (asking.generation serverId + 1) := by
    intro found other stamped ran asks
    rw [scans, Dict.get?_set_self] at ran
    cases ran
    cases asks
    refine ⟨rfl, ?_⟩
    intro value stamped
    rcases known with none_ | some_
    · cases none_.symm.trans stamped
    · cases some_.symm.trans stamped
      rw [same]
      exact Nat.lt_succ_self _
  have renews
      : before.generation serverId < renewed.generation serverId
        ∧ ∃ event, event ≠ .capture scan ∧ before.step event = some renewed := by
    rcases renew with forgot | allowed
    · exact ⟨FencedGuard.generation_forget stripped someone forgot, _, by simp, forgot⟩
    · exact ⟨FencedGuard.generation_allow stripped someone allowed, _, by simp, allowed⟩
  rcases renews with ⟨grown, event, other, stepped⟩
  rcases FencedGuard.AsksBelow.run run asks othersFirst with ⟨asksBefore, lower⟩
  have once : GuardRun before [event] renewed := .cons trivial stepped (.nil renewed)
  have asksRenewed :=
    (FencedGuard.AsksBelow.run once asksBefore (by simpa using other.symm)).1
  rcases FencedGuard.AsksBelow.run rest asksRenewed othersSecond with ⟨asksLate, later⟩
  have older : late.AsksBelow scan serverId (late.generation serverId) := by
    intro found server stamp ran asks
    rcases asksLate found server stamp ran asks with ⟨same, below⟩
    refine ⟨same, fun value stamped => (below value stamped).trans_le ?_⟩
    omega
  exact FencedGuard.visit_of_older older taken

namespace GuardRuntime

theorem handleViolation_stored {guard : GuardRuntime} {key : String}
    (missing : guard.violations.get? key = none) (serverId : String) (seen : SeenStream)
    : ∃ stored,
        (guard.handleViolation key serverId seen).violations.get? key = some stored
        ∧ stored.serverId = serverId := by
  have unseen : (guard.advance seen.elapsed).violations.get? key = none := missing
  unfold handleViolation
  dsimp only
  rw [unseen]
  dsimp only
  unfold detect
  rw [Dict.get?_set_self]
  rcases (enforce_cases _ key _ seen).2 with ⟨stored, written, same⟩
  rw [written]
  exact ⟨stored, Dict.get?_set_self _ _ _, same⟩

end GuardRuntime

/-- A scan that asks its only server for the sessions. -/
def askingOne (serverId : String) : FencedGuard where
  guard := .opening 0
  generations := (∅ : Dict String Nat).setDefault serverId 0
  forgotten := ∅
  scans :=
    ((∅ : Dict Nat ScanThread).set 0 (.opening [⟨serverId, true⟩])).set 0
      { ScanThread.opening [] with fetching := some (serverId, some 0) }
  visits := []

theorem askingOne_reachable {serverId : String} (someone : serverId ≠ "")
    : (askingOne serverId).Reachable := by
  have captured
      : ((FencedGuard.opening 0).setScan 0 (.opening [⟨serverId, true⟩])).step (.capture 0)
        = some (askingOne serverId) := by
    have listed
        : (ScanThread.opening [⟨serverId, true⟩]).nextServer = some (serverId, []) := by
      simp [ScanThread.nextServer, ScanThread.opening, someone]
    have running
        : ((FencedGuard.opening 0).setScan 0 (.opening [⟨serverId, true⟩])).scans.get? 0
          = some (.opening [⟨serverId, true⟩]) :=
      Dict.get?_set_self _ _ _
    rw [FencedGuard.step, running, Option.bind_some, FencedGuard.capture, listed]
    rfl
  have started
      : (FencedGuard.opening 0).step (.start 0 [⟨serverId, true⟩])
        = some ((FencedGuard.opening 0).setScan 0 (.opening [⟨serverId, true⟩])) :=
    rfl
  exact ⟨0, _, .cons trivial started (.cons trivial captured (.nil _))⟩

theorem FencedGuard.current_forgetServer {world : FencedGuard} {forgotten serverId : String}
    (other : strip forgotten ≠ serverId) (generation : Option Nat)
    : (world.forgetServer forgotten).serverGenerationIsCurrent serverId generation
      = world.serverGenerationIsCurrent serverId generation := by
  unfold FencedGuard.forgetServer
  dsimp only
  split
  · rfl
  · unfold FencedGuard.serverGenerationIsCurrent FencedGuard.renew
    dsimp only
    rw [FencedGuard.generation_set, if_neg other.symm]
    simp [other.symm]

theorem not_fenced_of_padded {serverId : String} (padded : strip serverId ≠ serverId)
    : ¬FencedUntilAllowed serverId := by
  intro fenced
  have someone : serverId ≠ "" := by
    rintro rfl
    exact padded rfl
  have running
      : ((askingOne serverId).forgetServer serverId).scans.get? 0
        = some { ScanThread.opening [] with fetching := some (serverId, some 0) } := by
    unfold FencedGuard.forgetServer
    dsimp only
    split <;> exact Dict.get?_set_self _ _ _
  have current
      : ((askingOne serverId).forgetServer serverId).serverGenerationIsCurrent serverId
          (some 0)
        = true := by
    rw [FencedGuard.current_forgetServer padded]
    have first : (askingOne serverId).generation serverId = 0 := by
      simp [FencedGuard.generation, askingOne, Dict.setDefault]
    rw [FencedGuard.serverGenerationIsCurrent, first]
    simp [askingOne]
  have visited
      : ((askingOne serverId).forgetServer serverId).step (.visit 0 [transcodedFilm true])
        = some
            (((askingOne serverId).forgetServer serverId).visit 0
              { ScanThread.opening [] with fetching := some (serverId, some 0) } serverId (some 0)
              [transcodedFilm true]) := by
    rw [FencedGuard.step, running]
    rfl
  have clear :=
    (fenced _ _ _ _ (askingOne_reachable someone) rfl (.cons trivial visited (.nil _))
      (by simp)).2
  rw [FencedGuard.visit, if_pos current] at clear
  have unseen (key : String)
      : ((askingOne serverId).forgetServer serverId).guard.violations.get? key = none := by
    unfold FencedGuard.forgetServer
    dsimp only
    split <;> rfl
  rcases
    GuardRuntime.handleViolation_stored
      (unseen (GuardRuntime.violationKey serverId "session" "rule")) serverId
      { transcodedFilm true with stream := { (transcodedFilm true).stream with serverId } }
    with ⟨stored, found, same⟩
  exact clear _ stored found same

/-- A server is kept out after it was forgotten, also by what scans began before and bring after
it is allowed again, if and only if its name has no whitespace at its ends.
-/
theorem forgetting_fences_iff (serverId : String)
    : FencedUntilAllowed serverId ∧ OlderWorkDropped serverId ↔ strip serverId = serverId := by
  constructor
  · rintro ⟨fenced, -⟩
    by_contra padded
    exact not_fenced_of_padded padded fenced
  · intro stripped
    exact ⟨fencedUntilAllowed stripped, olderWorkDropped stripped⟩

/-- The server " a" is forgotten between the asking and the answer, and its session is warned. -/
theorem paddedServer_is_warned
    : ((execute FencedGuard.step (fun _ _ => True) (.opening 0)
          [.start 0 [⟨" a", true⟩], .capture 0, .forget " a",
            .visit 0 [transcodedFilm true]]).map (fun world =>
          (world.guard.violations.values.map ViolationState.serverId,
            world.guard.warnings.length)))
        = some ([" a"], 1)
      ∧ ¬(FencedUntilAllowed " a" ∧ OlderWorkDropped " a") := by
  refine ⟨by decide, ?_⟩
  rintro ⟨fenced, -⟩
  exact not_fenced_of_padded (by decide) fenced

end OctoHubs.TranscodeGuard
