import OctoHubs.EventBridge.Provisioning
import OctoHubs.EventBridge.RotationView

/-! The credential the plugin holds stays accepted through every admitted run.
The invariant follows each live credential to the stored digest that accepts it, and shows
that only credentials that can never become live are marked as rejected or dropped.
-/

namespace OctoHubs.EventBridge

open OctoHubs.Library

-- The invariant

/-- What happens around the worker: the plugin, the push in flight and the attempt. -/
structure Surroundings where
  plugin : Option Credential
  inFlight : Option Credential
  attempt : AttemptPhase
  adopted : List Credential
  issued : List Credential

def World.surroundings (world : World) : Surroundings where
  plugin := world.plugin
  inFlight := world.inFlight
  attempt := world.attempt
  adopted := world.adopted
  issued := world.issued

namespace Surroundings

variable (serverId : ServerId) (around : Surroundings)

/-- A generated credential that the plugin never held and can no longer receive. -/
structure Dead (credential : Credential) : Prop where
  issued : credential ∈ around.issued
  unadopted : credential ∉ around.adopted
  landed : around.inFlight ≠ some credential
  pushed : around.attempt ≠ .staged credential

/-- The plugin holds the credential or may still receive it from a push in flight. -/
def Live (credential : Credential) : Prop :=
  around.plugin = some credential ∨ around.inFlight = some credential

def DeadDigest (digest : Digest) : Prop :=
  ∃ credential, digest = credentialDigest serverId credential ∧ around.Dead credential

/-- What the phase of the attempt says about its credential. -/
def AttemptConsistent (view : View) : AttemptPhase → Prop
  | .staged credential =>
      credential ∈ around.issued
      ∧ credential ∉ around.adopted
      ∧ view.pending = some (credentialDigest serverId credential)
      ∧ view.active = some (credentialDigest serverId credential)
  | .applied credential => credential ∈ around.adopted
  | .rejected credential | .recorded credential => around.Dead credential
  | .idle | .pushing _ | .finishing _ => True

variable {serverId around}

theorem AttemptConsistent.changeView {view changed : View} {phase : AttemptPhase}
    (consistent : around.AttemptConsistent serverId view phase)
    (kept
      : ∀ credential,
          phase = .staged credential
          → changed.pending = view.pending ∧ changed.active = view.active)
    : around.AttemptConsistent serverId changed phase := by
  cases phase with
  | staged credential =>
      obtain ⟨issued, unadopted, pending, active⟩ := consistent
      obtain ⟨pendingKept, activeKept⟩ := kept credential rfl
      exact ⟨issued, unadopted, pendingKept.trans pending, activeKept.trans active⟩
  | idle | pushing | applied | rejected | recorded | finishing => exact consistent

end Surroundings

/-- A running authentication presented a credential that the plugin held, and read the
digest that accepts it.
-/
structure RunningAuthentication.Sound (running : RunningAuthentication)
    (serverId : ServerId) (around : Surroundings)
    : Prop where
  adopted : running.credential ∈ around.adopted
  presented : running.accepted.presented = credentialDigest serverId running.credential
  matched
    : running.accepted.pending = some running.accepted.presented
      ∨ running.accepted.current = some running.accepted.presented
  undisturbed
    : running.undisturbed = true
      → around.plugin = some running.credential ∧ around.inFlight = none

/-- Every stored digest belongs to a generated credential, and every digest marked as
rejected to a dead one.
-/
structure Grounded (serverId : ServerId) (view : View) (around : Surroundings) : Prop where
  configured : view.configured = true
  readable : view.readable = true
  current_issued
    : ∀ digest,
        view.current = some digest
        → ∃ credential ∈ around.issued, digest = credentialDigest serverId credential
  pending_issued
    : ∀ digest,
        view.pending = some digest
        → ∃ credential ∈ around.issued, digest = credentialDigest serverId credential
  memory_dead : ∀ digest, view.memory = some digest → around.DeadDigest serverId digest
  journal_dead : ∀ digest, view.journal = some digest → around.DeadDigest serverId digest
  flagged_dead
    : view.flagged = true
      → ∀ digest, view.pending = some digest → around.DeadDigest serverId digest

/-- The invariant of admitted runs; `view` is what one server sees of the worker. -/
structure Safe (serverId : ServerId) (view : View) (around : Surroundings) : Prop
    extends Grounded serverId view around where
  issued_ne : ∀ credential ∈ around.issued, credential ≠ ""
  adopted_issued : ∀ credential ∈ around.adopted, credential ∈ around.issued
  plugin_adopted : ∀ credential, around.plugin = some credential → credential ∈ around.adopted
  inFlight_fresh
    : ∀ credential,
        around.inFlight = some credential
        → credential ∈ around.issued
          ∧ credential ∉ around.adopted
          ∧ around.attempt ≠ .staged credential
  live_stored
    : ∀ credential,
        around.Live credential
        → view.current = some (credentialDigest serverId credential)
          ∨ view.pending = some (credentialDigest serverId credential)
  adopted_pending
    : ∀ credential ∈ around.adopted,
        view.pending = some (credentialDigest serverId credential)
        → around.plugin = some credential ∧ around.inFlight = none
  attempt : around.AttemptConsistent serverId view around.attempt

namespace Safe

variable {serverId : ServerId} {view : View} {around : Surroundings}

theorem live_not_dead (safe : Safe serverId view around) {credential : Credential}
    (live : around.Live credential)
    : ¬ around.Dead credential := by
  intro dead
  rcases live with held | carried
  · exact dead.unadopted (safe.plugin_adopted credential held)
  · exact dead.landed carried

theorem adopted_not_dead {credential : Credential} (adopted : credential ∈ around.adopted)
    : ¬ around.DeadDigest serverId (credentialDigest serverId credential) := by
  rintro ⟨other, same, dead⟩
  rw [← credentialDigest_inj same] at dead
  exact dead.unadopted adopted

/-- The pending digest of a credential the plugin once held is not known as rejected, and
the readable journal decides so.
-/
theorem rejectionStatus_of_adopted (safe : Safe serverId view around)
    {credential : Credential} (adopted : credential ∈ around.adopted)
    (pending : view.pending = some (credentialDigest serverId credential))
    : view.rejectionStatus = (false, true) := by
  have alive := @adopted_not_dead serverId _ _ adopted
  have unflagged : view.flagged = false :=
    Bool.eq_false_iff.mpr (fun flagged => alive (safe.flagged_dead flagged _ pending))
  have unremembered : view.memory ≠ some (credentialDigest serverId credential) :=
    fun remembered => alive (safe.memory_dead _ remembered)
  have unwritten : view.journal ≠ some (credentialDigest serverId credential) :=
    fun written => alive (safe.journal_dead _ written)
  simp [View.rejectionStatus, pending, unflagged, unremembered, unwritten, safe.readable]

theorem dead_of_rejected (safe : Safe serverId view around)
    (rejected : view.rejectionStatus.1 = true) {digest : Digest}
    (pending : view.pending = some digest)
    : around.DeadDigest serverId digest := by
  by_cases flagged : view.flagged = true
  · exact safe.flagged_dead flagged digest pending
  by_cases remembered : view.memory = some digest
  · exact safe.memory_dead digest remembered
  by_cases written : view.journal = some digest
  · exact safe.journal_dead digest written
  simp [View.rejectionStatus, pending, flagged, remembered, written, safe.readable] at rejected

/-- The plugin's credential is accepted: its digest is current, or pending and not known
as rejected.
-/
theorem accepts (safe : Safe serverId view around) {credential : Credential}
    (held : around.plugin = some credential)
    : view.Accepts (credentialDigest serverId credential) := by
  refine ⟨safe.configured, ?_⟩
  rcases safe.live_stored credential (.inl held) with current | pending
  · exact .inl current
  · right
    have status :=
      safe.rejectionStatus_of_adopted (safe.plugin_adopted credential held) pending
    rw [View.acceptedPending, if_pos status]
    exact pending

-- Changes of the view

theorem forgetMemory (safe : Safe serverId view around) (digest : Digest)
    : Safe serverId (view.forgetMemory digest) around := by
  unfold View.forgetMemory
  split
  · exact { safe with memory_dead := by simp }
  · exact safe

theorem forgetJournal (safe : Safe serverId view around) (outcome : WriteOutcome)
    (digest : Digest)
    : Safe serverId (view.forgetJournal outcome digest) around := by
  unfold View.forgetJournal
  split
  · exact { safe with journal_dead := by simp }
  · exact safe

theorem forgetDiscarded (safe : Safe serverId view around) (discarded : Option Digest)
    : Safe serverId (view.forgetDiscarded discarded) around := by
  cases discarded with
  | none => exact safe
  | some digest => exact safe.forgetMemory digest

theorem forgetLoadedJournal (safe : Safe serverId view around) (outcome : WriteOutcome)
    (loaded : Option Digest)
    : Safe serverId (view.forgetLoadedJournal outcome loaded) around := by
  cases loaded with
  | none => exact safe
  | some digest => exact safe.forgetJournal outcome digest

/-- Ending the activity of a digest is safe unless an attempt just staged it. -/
theorem finishActive (safe : Safe serverId view around) {digest : Digest}
    (unstaged
      : ∀ credential,
          around.attempt = .staged credential
          → digest ≠ credentialDigest serverId credential)
    : Safe serverId (view.finishActive digest) around := by
  unfold View.finishActive
  split
  · next active =>
      refine { safe with attempt := safe.attempt.changeView ?_ }
      intro credential staged
      have consistent := safe.attempt
      rw [staged] at consistent
      have same := Option.some.inj (active.symm.trans consistent.2.2.2)
      exact absurd same (unstaged credential staged)
  · exact safe

theorem dropPending (safe : Safe serverId view around) {current : Option Digest}
    (issued
      : ∀ digest,
          current = some digest
          → ∃ credential ∈ around.issued, digest = credentialDigest serverId credential)
    (covered
      : ∀ credential,
          around.Live credential → current = some (credentialDigest serverId credential))
    (unstaged : ∀ credential, around.attempt ≠ .staged credential)
    : Safe serverId (view.dropPending current) around := by
  refine {
    safe with
    current_issued := issued
    pending_issued := by simp [View.dropPending]
    flagged_dead := by simp [View.dropPending]
    live_stored := fun credential live => .inl (covered credential live)
    adopted_pending := by simp [View.dropPending]
    attempt :=
      safe.attempt.changeView (fun credential staged => absurd staged (unstaged credential))
  }

-- Operations on the view

theorem commit {changed : View} (safe : Safe serverId view around)
    (safeChanged : Safe serverId changed around) (outcome : WriteOutcome)
    : Safe serverId (view.commit outcome changed) around := by
  unfold View.commit
  split
  · exact safe
  · exact safeChanged

/-- A promotion's cleanup only forgets markers, since the journal is readable. -/
theorem afterPromotion (safe : Safe serverId view around) (file : WriteOutcome)
    (alone : Bool) {digest : Digest}
    (unstaged
      : ∀ credential,
          around.attempt = .staged credential
          → digest ≠ credentialDigest serverId credential)
    : Safe serverId (view.afterPromotion file alone digest) around := by
  unfold View.afterPromotion
  rw [if_pos safe.readable]
  exact ((safe.finishActive unstaged).forgetMemory digest).forgetJournal file digest

theorem unstaged_of_adopted (safe : Safe serverId view around) {credential : Credential}
    (adopted : credential ∈ around.adopted) (other : Credential)
    (staged : around.attempt = .staged other)
    : credentialDigest serverId credential ≠ credentialDigest serverId other := by
  intro same
  have consistent := safe.attempt
  rw [staged] at consistent
  rw [credentialDigest_inj same] at adopted
  exact consistent.2.1 adopted

theorem unstaged_of_pending (safe : Safe serverId view around) {digest : Digest}
    (pending : view.pending = some digest)
    (differs
      : ∀ credential,
          around.attempt = .staged credential
          → digest ≠ credentialDigest serverId credential)
    (credential : Credential)
    : around.attempt ≠ .staged credential := by
  intro staged
  have consistent := safe.attempt
  rw [staged] at consistent
  have same := Option.some.inj (pending.symm.trans consistent.2.2.1)
  exact differs credential staged same

/-- Promoting a credential the plugin once held is safe: when it is pending, the plugin
still holds it and no push is in flight.
-/
theorem promote (safe : Safe serverId view around) (database file : WriteOutcome)
    (alone : Bool) {credential : Credential} (adopted : credential ∈ around.adopted)
    : Safe serverId
        (view.promote database file alone (credentialDigest serverId credential)) around := by
  have unstaged := safe.unstaged_of_adopted adopted
  unfold View.promote
  rw [if_neg (by simp [safe.configured])]
  split
  · split
    · exact safe.afterPromotion file alone unstaged
    · exact safe
  split
  · next accepted =>
      have pending : view.pending = some (credentialDigest serverId credential) := by
        unfold View.acceptedPending at accepted
        split at accepted
        · exact accepted
        · cases accepted
      obtain ⟨held, quiet⟩ := safe.adopted_pending credential adopted pending
      have promoted
          : Safe serverId (view.dropPending (some (credentialDigest serverId credential)))
              around := by
        refine safe.dropPending ?_ ?_ (safe.unstaged_of_pending pending unstaged)
        · rintro digest ⟨⟩
          exact ⟨credential, safe.adopted_issued credential adopted, rfl⟩
        · rintro other (live | landing)
          · rw [held] at live
            rw [Option.some.inj live]
          · rw [quiet] at landing
            cases landing
      simp only
      split
      · exact promoted.afterPromotion file alone unstaged
      · exact safe.commit promoted database
  · exact safe

theorem current_of_deadPending (safe : Safe serverId view around) {digest : Digest}
    (dead : around.DeadDigest serverId digest) (pending : view.pending = some digest)
    {credential : Credential} (live : around.Live credential)
    : view.current = some (credentialDigest serverId credential) := by
  obtain ⟨other, rfl, dead⟩ := dead
  rcases safe.live_stored credential live with current | stored
  · exact current
  · have same := credentialDigest_inj (Option.some.inj (pending.symm.trans stored))
    exact absurd (same ▸ dead) (safe.live_not_dead live)

theorem deadUnstaged {digest : Digest} (dead : around.DeadDigest serverId digest)
    (other : Credential) (staged : around.attempt = .staged other)
    : digest ≠ credentialDigest serverId other := by
  obtain ⟨credential, rfl, dead⟩ := dead
  intro same
  exact dead.pushed (credentialDigest_inj same ▸ staged)

theorem dropDead (safe : Safe serverId view around) {digest : Digest}
    (dead : around.DeadDigest serverId digest) (pending : view.pending = some digest)
    : Safe serverId (view.dropPending view.current) around :=
  safe.dropPending safe.current_issued
    (fun _ live => safe.current_of_deadPending dead pending live)
    (safe.unstaged_of_pending pending (deadUnstaged dead))

theorem cancel (safe : Safe serverId view around) (database file : WriteOutcome)
    {digest : Digest} (dead : around.DeadDigest serverId digest)
    : Safe serverId (view.cancel database file digest) around := by
  unfold View.cancel
  split
  · next pending =>
      have cancelled := safe.dropDead dead pending
      simp only
      split
      · exact ((cancelled.finishActive (deadUnstaged dead)).forgetMemory digest).forgetJournal
          file digest
      · exact safe.commit cancelled database
  · split
    · exact safe.forgetJournal file digest
    · exact safe

theorem writeJournal (safe : Safe serverId view around) (outcome : WriteOutcome)
    {digest : Digest} (dead : around.DeadDigest serverId digest)
    : Safe serverId (view.writeJournal outcome digest) around := by
  unfold View.writeJournal
  split
  · refine { safe with journal_dead := ?_ }
    rintro stored ⟨⟩
    exact dead
  · exact safe

theorem rememberRejected (safe : Safe serverId view around)
    (journalWrite database file : WriteOutcome) {digest : Digest}
    (dead : around.DeadDigest serverId digest)
    : Safe serverId (view.rememberRejected journalWrite database file digest) around := by
  have written := safe.writeJournal journalWrite dead
  have marked
      : Safe serverId { view.writeJournal journalWrite digest with memory := some digest }
          around := by
    refine { written with memory_dead := ?_ }
    rintro stored ⟨⟩
    exact dead
  unfold View.rememberRejected
  simp only
  split
  · next pending =>
      refine marked.commit ?_ database
      refine { marked with flagged_dead := ?_ }
      intro _ stored found
      simp only [View.writeJournal_pending, pending, Option.some.injEq] at found
      exact found ▸ dead
  · split
    · exact (marked.forgetMemory digest).forgetJournal file digest
    · exact marked

theorem reconcileRejected (safe : Safe serverId view around)
    (database file : WriteOutcome)
    : Safe serverId (view.reconcileRejected database file) around := by
  unfold View.reconcileRejected
  split
  · split
    · split
      · exact (safe.forgetMemory _).forgetJournal file _
      · exact safe
    · exact safe
  · next pending found =>
      split
      · next status =>
          have dead := safe.dead_of_rejected (by rw [status]) found
          have reconciled := safe.dropDead dead found
          simp only
          split
          · exact (reconciled.forgetMemory pending).forgetJournal file pending
          · exact safe.commit reconciled database
      · exact safe

/-- Dropping a pending digest on the evidence of an authentication with the current one is
safe: during the attempt the digest is active, and later the evidence rules the push out.
-/
theorem reconcileCurrent (safe : Safe serverId view around) (now : Time)
    (database : WriteOutcome) {credential : Credential} (pending : Digest)
    (evidence
      : RotationState.pendingReconciliationGraceElapsed now view.startedAt = true
        → view.pending = some pending
        → around.plugin = some credential ∧ around.inFlight = none)
    : Safe serverId
        (view.reconcileCurrent now database (credentialDigest serverId credential) pending)
        around := by
  unfold View.reconcileCurrent
  split
  · next discards =>
      obtain ⟨inactive, current, stored, elapsed⟩ := discards
      obtain ⟨held, quiet⟩ := evidence elapsed stored
      refine safe.commit (safe.dropPending ?_ ?_ ?_) database
      · rintro digest ⟨⟩
        exact safe.current_issued _ current
      · rintro other (live | landing)
        · rw [held] at live
          rw [Option.some.inj live]
        · rw [quiet] at landing
          cases landing
      · intro other staged
        have consistent := safe.attempt
        rw [staged] at consistent
        have same := Option.some.inj (stored.symm.trans consistent.2.2.1)
        exact inactive (same ▸ consistent.2.2.2)
  · exact safe

-- Changes around the worker

end Safe

namespace Surroundings

variable {serverId : ServerId} {around : Surroundings}

/-- The attempt moves on or a push in flight is lost. -/
def advance (around : Surroundings) (inFlight : Option Credential) (phase : AttemptPhase)
    : Surroundings :=
  { around with inFlight, attempt := phase }

theorem Dead.advance {credential : Credential} (dead : around.Dead credential)
    {inFlight : Option Credential} {phase : AttemptPhase}
    (quiet : inFlight = around.inFlight ∨ inFlight = none)
    (still : ∀ other, phase = .staged other → around.attempt = phase)
    : (around.advance inFlight phase).Dead credential where
  issued := dead.issued
  unadopted := dead.unadopted
  landed := by
    rcases quiet with same | lost
    · exact same ▸ dead.landed
    · simp [Surroundings.advance, lost]
  pushed := fun staged => dead.pushed ((still credential staged).trans staged)

theorem DeadDigest.mono {digest : Digest} {later : Surroundings}
    (dead : around.DeadDigest serverId digest)
    (kept : ∀ credential, around.Dead credential → later.Dead credential)
    : later.DeadDigest serverId digest := by
  obtain ⟨credential, same, dead⟩ := dead
  exact ⟨credential, same, kept credential dead⟩

/-- The attempt `begin` opened, with its new credential. -/
def begun (around : Surroundings) (credential : Credential) (phase : AttemptPhase)
    : Surroundings :=
  { around with attempt := phase, issued := credential :: around.issued }

theorem Dead.begun {credential fresh : Credential} (dead : around.Dead credential)
    (unissued : fresh ∉ around.issued) {phase : AttemptPhase}
    (own : ∀ other, phase = .staged other → other = fresh)
    : (around.begun fresh phase).Dead credential where
  issued := List.mem_cons_of_mem fresh dead.issued
  unadopted := dead.unadopted
  landed := dead.landed
  pushed := fun staged => unissued (own credential staged ▸ dead.issued)

/-- The staged push leaves for the plugin. -/
def push (around : Surroundings) (credential : Credential) : Surroundings :=
  { around with attempt := .pushing credential, inFlight := some credential }

def adopt (around : Surroundings) (credential : Credential) : Surroundings :=
  { around with
    plugin := some credential
    inFlight := none
    adopted := credential :: around.adopted }

end Surroundings

theorem Grounded.mono {serverId : ServerId} {view : View} {around later : Surroundings}
    (grounded : Grounded serverId view around)
    (issued : ∀ credential ∈ around.issued, credential ∈ later.issued)
    (kept : ∀ credential, around.Dead credential → later.Dead credential)
    : Grounded serverId view later where
  configured := grounded.configured
  readable := grounded.readable
  current_issued := by
    intro digest current
    obtain ⟨credential, known, same⟩ := grounded.current_issued digest current
    exact ⟨credential, issued credential known, same⟩
  pending_issued := by
    intro digest pending
    obtain ⟨credential, known, same⟩ := grounded.pending_issued digest pending
    exact ⟨credential, issued credential known, same⟩
  memory_dead := fun digest found => (grounded.memory_dead digest found).mono kept
  journal_dead := fun digest found => (grounded.journal_dead digest found).mono kept
  flagged_dead := fun flagged digest found =>
    (grounded.flagged_dead flagged digest found).mono kept

namespace Safe

variable {serverId : ServerId} {view : View} {around : Surroundings}

theorem advance (safe : Safe serverId view around) {inFlight : Option Credential}
    {phase : AttemptPhase} (quiet : inFlight = around.inFlight ∨ inFlight = none)
    (still : ∀ other, phase = .staged other → around.attempt = phase)
    (consistent
      : (around.advance inFlight phase).AttemptConsistent serverId view phase)
    : Safe serverId view (around.advance inFlight phase) := by
  have carried {credential : Credential} (landing : inFlight = some credential)
      : around.inFlight = some credential := by
    rcases quiet with same | lost
    · exact same ▸ landing
    · rw [lost] at landing
      cases landing
  have dead (credential : Credential) (dead : around.Dead credential) :=
    dead.advance quiet still
  exact {
    toGrounded := safe.toGrounded.mono (fun _ issued => issued) dead
    issued_ne := safe.issued_ne
    adopted_issued := safe.adopted_issued
    plugin_adopted := safe.plugin_adopted
    inFlight_fresh := by
      intro credential landing
      obtain ⟨issued, unadopted, unstaged⟩ :=
        safe.inFlight_fresh credential (carried landing)
      exact ⟨issued, unadopted, fun staged => unstaged ((still _ staged).trans staged)⟩
    live_stored := fun credential live =>
      safe.live_stored credential (live.imp_right carried)
    adopted_pending := by
      intro credential adopted pending
      obtain ⟨held, none⟩ := safe.adopted_pending credential adopted pending
      exact ⟨held, quiet.elim (fun same => same.trans none) id⟩
    attempt := consistent
  }

theorem restart (safe : Safe serverId view around)
    : Safe serverId { view with active := none, memory := none }
        (around.advance around.inFlight .idle) := by
  have ended : Safe serverId view (around.advance around.inFlight .idle) :=
    safe.advance (.inl rfl) (by simp) trivial
  exact { ended with memory_dead := by simp, attempt := trivial }

theorem loseInFlight (safe : Safe serverId view around)
    : Safe serverId view (around.advance none around.attempt) := by
  refine safe.advance (.inr rfl) (fun _ _ => rfl) ?_
  have consistent := safe.attempt
  generalize found : around.attempt = phase at consistent ⊢
  cases phase with
  | rejected credential | recorded credential =>
      refine Surroundings.Dead.advance consistent (.inr rfl) ?_
      intro other staged
      cases staged
  | idle | staged | pushing | applied | finishing => exact consistent

theorem push (safe : Safe serverId view around) {credential : Credential}
    (staged : around.attempt = .staged credential)
    : Safe serverId view (around.push credential) := by
  have consistent := safe.attempt
  rw [staged] at consistent
  obtain ⟨issued, unadopted, pending, -⟩ := consistent
  have dead (other : Credential) (dead : around.Dead other)
      : (around.push credential).Dead other := by
    refine ⟨dead.issued, dead.unadopted, ?_, by simp [Surroundings.push]⟩
    intro same
    exact dead.pushed (Option.some.inj same ▸ staged)
  exact {
    toGrounded := safe.toGrounded.mono (fun _ issued => issued) dead
    issued_ne := safe.issued_ne
    adopted_issued := safe.adopted_issued
    plugin_adopted := safe.plugin_adopted
    inFlight_fresh := by
      rintro other ⟨⟩
      exact ⟨issued, unadopted, by simp [Surroundings.push]⟩
    live_stored := by
      rintro other (held | landing)
      · exact safe.live_stored other (.inl held)
      · obtain rfl : credential = other := Option.some.inj landing
        exact .inr pending
    adopted_pending := by
      intro other adopted stored
      have same := credentialDigest_inj (Option.some.inj (pending.symm.trans stored))
      exact absurd (same ▸ adopted) unadopted
    attempt := trivial
  }

/-- Adopting the credential in flight: its digest is stored, and no other stored pending
digest was ever adopted.
-/
theorem adopt (safe : Safe serverId view around) {credential : Credential}
    (landing : around.inFlight = some credential)
    : Safe serverId view (around.adopt credential) := by
  obtain ⟨issued, unadopted, unstaged⟩ := safe.inFlight_fresh credential landing
  have dead (other : Credential) (dead : around.Dead other)
      : (around.adopt credential).Dead other := by
    have differs : other ≠ credential := fun same => dead.landed (same ▸ landing)
    exact ⟨dead.issued, by simp [Surroundings.adopt, differs, dead.unadopted],
      by simp [Surroundings.adopt], dead.pushed⟩
  exact {
    toGrounded := safe.toGrounded.mono (fun _ issued => issued) dead
    issued_ne := safe.issued_ne
    adopted_issued := by
      intro other adopted
      rcases List.mem_cons.mp adopted with rfl | before
      · exact issued
      · exact safe.adopted_issued other before
    plugin_adopted := by
      rintro other ⟨⟩
      exact List.mem_cons_self
    inFlight_fresh := by simp [Surroundings.adopt]
    live_stored := by
      rintro other (⟨⟨⟩⟩ | ⟨⟨⟩⟩)
      exact safe.live_stored credential (.inr landing)
    adopted_pending := by
      intro other adopted pending
      rcases List.mem_cons.mp adopted with rfl | before
      · exact ⟨rfl, rfl⟩
      · have quiet := (safe.adopted_pending other before pending).2
        rw [landing] at quiet
        cases quiet
    attempt := by
      have consistent := safe.attempt
      change (around.adopt credential).AttemptConsistent serverId view around.attempt
      generalize found : around.attempt = phase at consistent ⊢ unstaged
      cases phase with
      | staged other =>
          obtain ⟨otherIssued, otherUnadopted, rest⟩ := consistent
          have differs : other ≠ credential := fun same => unstaged (same ▸ rfl)
          exact ⟨otherIssued, by simp [Surroundings.adopt, differs, otherUnadopted], rest⟩
      | applied other => exact List.mem_cons_of_mem credential consistent
      | rejected other | recorded other => exact dead other consistent
      | idle | pushing | finishing => trivial
  }

-- Beginning an attempt

/-- A rotation to a new credential starts from a current digest that covers what is live.
A first provisioning that was interrupted makes its pending digest the current one.
-/
theorem baseDigests_covers (safe : Safe serverId view around) {fresh : Credential}
    (unissued : fresh ∉ around.issued) {current prior discarded : Option Digest}
    (base
      : view.baseDigests (credentialDigest serverId fresh)
        = .ok (current, prior, discarded))
    : (∀ digest,
        current = some digest
        → ∃ credential ∈ around.issued, digest = credentialDigest serverId credential)
      ∧ ∀ credential,
          around.Live credential → current = some (credentialDigest serverId credential) := by
  unfold View.baseDigests at base
  split at base
  · next rejected =>
      cases base
      refine ⟨safe.current_issued, fun credential live => ?_⟩
      rcases safe.live_stored credential live with stored | stored
      · exact stored
      · exact safe.current_of_deadPending (safe.dead_of_rejected rejected stored) stored live
  · next unrejected =>
      split at base
      · next nothing =>
          cases base
          refine ⟨safe.current_issued, fun credential live => ?_⟩
          simpa [nothing] using safe.live_stored credential live
      · next pending stored =>
          split at base
          · cases base
          split at base
          · next same =>
              obtain ⟨credential, issued, known⟩ := safe.pending_issued pending stored
              have reissued := credentialDigest_inj (same.symm.trans known)
              exact absurd (reissued ▸ issued) unissued
          split at base
          · cases base
          · next interrupted =>
              cases base
              refine ⟨fun digest same => safe.pending_issued digest (stored.trans same), ?_⟩
              intro credential live
              have nothing : view.current = none := by simp_all
              simpa [nothing, stored] using safe.live_stored credential live

theorem begun (safe : Safe serverId view around) {fresh : Credential} (fresh_ne : fresh ≠ "")
    (unissued : fresh ∉ around.issued) {phase : AttemptPhase}
    (own : ∀ other, phase = .staged other → other = fresh) {changed : View}
    (grounded : Grounded serverId changed (around.begun fresh phase))
    (stored
      : ∀ credential,
          around.Live credential
          → changed.current = some (credentialDigest serverId credential)
            ∨ changed.pending = some (credentialDigest serverId credential))
    (settled
      : ∀ credential ∈ around.adopted,
          changed.pending = some (credentialDigest serverId credential)
          → around.plugin = some credential ∧ around.inFlight = none)
    (consistent : (around.begun fresh phase).AttemptConsistent serverId changed phase)
    : Safe serverId changed (around.begun fresh phase) where
  toGrounded := grounded
  issued_ne := by
    intro credential issued
    rcases List.mem_cons.mp issued with rfl | before
    · exact fresh_ne
    · exact safe.issued_ne credential before
  adopted_issued := fun credential adopted =>
    List.mem_cons_of_mem fresh (safe.adopted_issued credential adopted)
  plugin_adopted := safe.plugin_adopted
  inFlight_fresh := by
    intro credential landing
    obtain ⟨issued, unadopted, -⟩ := safe.inFlight_fresh credential landing
    exact ⟨List.mem_cons_of_mem fresh issued, unadopted,
      fun staged => unissued (own credential staged ▸ issued)⟩
  live_stored := stored
  adopted_pending := settled
  attempt := consistent

theorem refuse (safe : Safe serverId view around) {fresh : Credential}
    (fresh_ne : fresh ≠ "") (unissued : fresh ∉ around.issued)
    : Safe serverId view (around.begun fresh (.finishing fresh)) := by
  have own (other : Credential) (staged : AttemptPhase.finishing fresh = .staged other)
      : other = fresh := by cases staged
  refine safe.begun fresh_ne unissued own ?_ safe.live_stored safe.adopted_pending trivial
  exact safe.toGrounded.mono (fun _ issued => List.mem_cons_of_mem fresh issued)
    (fun _ dead => dead.begun unissued own)

/-- A staged record keeps what is live under its current digest, and its pending digest
belongs to the new credential.
-/
theorem stage (safe : Safe serverId view around) {fresh : Credential} (fresh_ne : fresh ≠ "")
    (unissued : fresh ∉ around.issued) (now : Time)
    {current prior discarded : Option Digest}
    (base
      : view.baseDigests (credentialDigest serverId fresh)
        = .ok (current, prior, discarded))
    {phase : AttemptPhase} (own : ∀ other, phase = .staged other → other = fresh)
    (active : Option Digest)
    (consistent
      : (around.begun fresh phase).AttemptConsistent serverId
          { view.stage now (credentialDigest serverId fresh) current prior with active } phase)
    : Safe serverId
        { view.stage now (credentialDigest serverId fresh) current prior with active }
        (around.begun fresh phase) := by
  obtain ⟨issued, covered⟩ := safe.baseDigests_covers unissued base
  have grounded : Grounded serverId view (around.begun fresh phase) :=
    safe.toGrounded.mono (fun _ known => List.mem_cons_of_mem fresh known)
      (fun _ dead => dead.begun unissued own)
  refine safe.begun fresh_ne unissued own ?_
    (fun credential live => .inl (covered credential live)) ?_ consistent
  · refine {
      grounded with
      current_issued := ?_
      pending_issued := ?_
      flagged_dead := by simp [View.stage]
    }
    · intro digest same
      obtain ⟨credential, known, sameDigest⟩ := issued digest same
      exact ⟨credential, List.mem_cons_of_mem fresh known, sameDigest⟩
    · rintro digest ⟨⟩
      exact ⟨fresh, List.mem_cons_self, rfl⟩
  · intro credential adopted pending
    have same := credentialDigest_inj (Option.some.inj pending)
    exact absurd (same ▸ safe.adopted_issued credential adopted) unissued

/-- Beginning an attempt for a new credential: the attempt is staged exactly when the
stored pending digest is its own and active.
-/
theorem beginRotation (safe : Safe serverId view around) {fresh : Credential}
    (fresh_ne : fresh ≠ "") (unissued : fresh ∉ around.issued) (now : Time)
    (database file : WriteOutcome)
    : let begun := view.beginRotation now database file (credentialDigest serverId fresh)
      Safe serverId begun.2 (around.begun fresh (World.afterBegin fresh begun.1)) := by
  have own (other : Credential) (staged : AttemptPhase.finishing fresh = .staged other)
      : other = fresh := by cases staged
  unfold View.beginRotation
  rw [if_neg (by simp [safe.configured])]
  split
  · exact safe.refuse fresh_ne unissued
  · next current prior discarded base =>
      simp only
      split
      · have unadopted : fresh ∉ around.adopted :=
          fun adopted => unissued (safe.adopted_issued fresh adopted)
        have staged :=
          safe.stage fresh_ne unissued now base
            (fun other staged => (AttemptPhase.staged.inj staged).symm)
            (some (credentialDigest serverId fresh))
            ⟨List.mem_cons_self, unadopted, rfl, rfl⟩
        rw [View.markActive_forget]
        exact (staged.forgetDiscarded discarded).forgetLoadedJournal file view.loadedJournal
      · have stored :=
          safe.stage fresh_ne unissued now base own view.active trivial
        exact (safe.refuse fresh_ne unissued).commit stored database

end Safe

end OctoHubs.EventBridge
