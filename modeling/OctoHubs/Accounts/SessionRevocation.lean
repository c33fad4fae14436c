import OctoHubs.Accounts.LastAdministrator

/-! Sessions die with the next authorization change of their account. A patch that locks its row
writes over the epoch that it has read; a patch of the details may write over a newer one.
-/

namespace OctoHubs.Accounts

open OctoHubs.Library

-- Written epochs

/-- A counted column is written whatever the row holds now. -/
theorem written_succ (loaded current : Int) : written loaded (loaded + 1) current = loaded + 1 := by
  unfold written
  split
  · omega
  · rfl

theorem normalizeRole_of_mem {role : String} (known : role ∈ roleValues)
    : normalizeRole (some role) false = role := by
  have all : ∀ role ∈ roleValues, normalizeRole (some role) false = role := by
    decide +kernel
  exact all role known

theorem User.getRole_mem (user : User) : user.getRole ∈ roleValues := by
  unfold User.getRole
  split
  · decide
  · split
    · assumption
    · decide

namespace AccountPatch

variable {patch : AccountPatch} {loaded current : User}

theorem getRole_write (same : loaded.SameAuthority current)
    (known : patch.nextRole loaded ∈ roleValues)
    : (patch.write loaded current).getRole = patch.nextRole loaded := by
  have normal := normalizeRole_of_mem known
  rw [User.getRole, write_isAdmin same, write_role same, normal]
  by_cases admin : patch.nextRole loaded = "admin"
  · rw [if_pos (decide_eq_true admin), admin]
  · rw [if_neg (by simpa using admin), if_pos known]

theorem sameAuthorization_write (same : loaded.SameAuthority current)
    (unchanged : ¬patch.ChangesAuthorization loaded)
    : current.SameAuthorization (patch.write loaded current) := by
  simp only [ChangesAuthorization, not_or, ne_eq, not_not] at unchanged
  obtain ⟨role, active, password⟩ := unchanged
  have known : patch.nextRole loaded ∈ roleValues := role ▸ loaded.getRole_mem
  refine ⟨?_, ?_, ?_⟩
  · rw [getRole_write same known, ← role, same.getRole]
  · rw [write_isActive same, ← active, same.2.2]
  · rw [Option.not_isSome_iff_eq_none] at password
    simp only [write, password, Option.elim_none]

theorem write_authEpoch_of_changes (changes : patch.ChangesAuthorization loaded)
    : (patch.write loaded current).authEpoch = loaded.authEpoch + 1 := by
  simp only [write, if_pos changes, written_succ]

theorem write_authEpoch_of_unchanged (unchanged : ¬patch.ChangesAuthorization loaded)
    : (patch.write loaded current).authEpoch = current.authEpoch := by
  simp only [write, if_neg unchanged]

end AccountPatch

-- Sessions

namespace AccountStore

/-- No session from before an authorization change is accepted. -/
def Revokes (store : AccountStore) : Prop :=
  ∀ session ∈ store.sessions,
    (store.activeSessionUser session).isSome = true
    → session.changesBefore = store.changesOf session.userId

instance (store : AccountStore) : Decidable store.Revokes :=
  inferInstanceAs (Decidable (∀ session ∈ store.sessions, _ → _))

/-- A patch of the details that changes the authorization ends where no session of the account
has a newer epoch than the row that the patch was prepared on.
-/
def MeetsNoNewerSession (store : AccountStore) : AccountEvent → Prop
  | .commit worker =>
      match store.transactions.get? worker with
      | some ⟨.updateUserDetails id email role isActive, .checked loaded⟩ =>
          (AccountPatch.mk email role isActive none).ChangesAuthorization loaded
          → ∀ session ∈ store.sessions,
              session.userId = id → session.authEpoch ≤ loaded.authEpoch
      | _ => True
  | _ => True

instance (store : AccountStore) (event : AccountEvent)
    : Decidable (store.MeetsNoNewerSession event) := by
  unfold MeetsNoNewerSession
  split <;> try split
  all_goals infer_instance

variable (store : AccountStore) (id key : AccountId) (current : User) (row : Option User)

theorem changesOf_writeUser_of_ne (different : key ≠ id)
    : (store.writeUser id current row).changesOf key = store.changesOf key := by
  simp only [changesOf, writeUser]
  split
  · rfl
  · rw [Dict.get?_set_ne store.changes _ different]

theorem changesOf_writeUser_of_same {row : User} (same : current.SameAuthorization row)
    : (store.writeUser id current (some row)).changesOf key = store.changesOf key := by
  simp [changesOf, writeUser, same]

end AccountStore

/-- Sessions are no newer than their account, those of its epoch have seen all changes, and a
locked row keeps the epoch that was read.
-/
structure Revocable (store : AccountStore) : Prop extends Serialised store where
  known : ∀ session ∈ store.sessions, session.userId < store.nextId
  bounded
    : ∀ session ∈ store.sessions, ∀ {user : User},
        store.users.get? session.userId = some user
        → session.authEpoch ≤ user.authEpoch
          ∧ (session.authEpoch = user.authEpoch
            → session.changesBefore = store.changesOf session.userId)
  locked
    : ∀ {worker : WorkerId} {transaction : Transaction} {user : User},
        store.transactions.get? worker = some transaction
        → transaction.task.locksRow = true
        → transaction.progress.row = some user
        → store.rowLocks.get? transaction.task.id = some worker
          ∧ ∃ current,
              store.users.get? transaction.task.id = some current
              ∧ user.authEpoch = current.authEpoch

namespace Revocable

variable {store next : AccountStore} {worker : WorkerId} {task : AccountTask}

theorem revokes (revocable : Revocable store) : store.Revokes := by
  intro session member accepted
  obtain ⟨user, active⟩ := Option.isSome_iff_exists.mp accepted
  obtain ⟨found, valid⟩ := Option.filter_eq_some_iff.mp active
  rw [Bool.and_eq_true, decide_eq_true_iff] at valid
  exact (revocable.bounded session member found).2 valid.2.symm

theorem createUser (revocable : Revocable store) (user : User)
    : Revocable
        { store with
          users := store.users.set store.nextId user
          nextId := store.nextId + 1 } where
  toSerialised := revocable.toSerialised.createUser user
  known := by
    intro session member
    exact Nat.lt_succ_of_lt (revocable.known session member)
  bounded := by
    intro session member found present
    have old := revocable.known session member
    rw [Dict.get?_set_ne store.users user old.ne] at present
    exact revocable.bounded session member present
  locked := by
    intro worker transaction loaded running locks row
    obtain ⟨lock, current, present, same⟩ := revocable.locked running locks row
    have old := revocable.fresh present
    exact ⟨lock, current, by rwa [Dict.get?_set_ne store.users user old.ne], same⟩

theorem of_same_rows (revocable : Revocable store) (serialised : Serialised next)
    (users : next.users = store.users) (sessions : next.sessions = store.sessions)
    (changes : next.changes = store.changes) (nextId : next.nextId = store.nextId)
    (locked
      : ∀ {worker : WorkerId} {transaction : Transaction} {user : User},
          next.transactions.get? worker = some transaction
          → transaction.task.locksRow = true
          → transaction.progress.row = some user
          → next.rowLocks.get? transaction.task.id = some worker
            ∧ ∃ current,
                store.users.get? transaction.task.id = some current
                ∧ user.authEpoch = current.authEpoch)
    : Revocable next where
  toSerialised := serialised
  known := by
    rw [sessions, nextId]
    exact revocable.known
  bounded := by
    intro session member user found
    rw [sessions] at member
    rw [users] at found
    rw [AccountStore.changesOf, changes]
    exact revocable.bounded session member found
  locked := by
    rw [users]
    exact locked

theorem enter (revocable : Revocable store) (taken : store.enter worker task = some next)
    : Revocable next := by
  have serialised := revocable.toSerialised.enter taken
  obtain ⟨-, -, rfl⟩ := AccountStore.enter_cases taken
  apply revocable.of_same_rows serialised rfl rfl rfl rfl
  intro other transaction user running locks row
  dsimp only at running
  rw [AccountStore.get?_advance] at running
  split at running
  · cases running
    cases row
  · exact revocable.locked running locks row

theorem refresh (revocable : Revocable store) (taken : store.refresh worker = some next)
    : Revocable next := by
  have serialised := revocable.toSerialised.refresh taken
  obtain ⟨task, user, entered, present, read⟩ := AccountStore.refresh_cases taken
  obtain ⟨unlocked, rfl⟩ | ⟨-, free, rfl⟩ := read
  · apply revocable.of_same_rows serialised rfl rfl rfl rfl
    intro other transaction loaded running locks row
    rw [AccountStore.get?_advance] at running
    split at running
    · cases running
      rw [unlocked] at locks
      cases locks
    · exact revocable.locked running locks row
  · apply revocable.of_same_rows serialised rfl rfl rfl rfl
    intro other transaction loaded running locks row
    dsimp only at running ⊢
    rw [AccountStore.get?_advance] at running
    split at running
    · next same =>
        cases running
        cases row
        exact ⟨same ▸ Dict.get?_set_self store.rowLocks task.id worker, user, present, rfl⟩
    · obtain ⟨lock, known⟩ := revocable.locked running locks row
      have different : transaction.task.id ≠ task.id := by
        intro same
        rw [same, free] at lock
        cases lock
      exact ⟨by rwa [Dict.get?_set_ne store.rowLocks worker different], known⟩

theorem release (revocable : Revocable store) (worker : WorkerId)
    : Revocable (store.release worker) := by
  apply revocable.of_same_rows (revocable.toSerialised.release worker) rfl rfl rfl rfl
  intro other transaction user running locks row
  rw [AccountStore.get?_release] at running
  split at running
  · cases running
  · next different =>
      obtain ⟨lock, known⟩ := revocable.locked running locks row
      refine ⟨?_, known⟩
      change (store.rowLocks.filter _).get? _ = _
      rw [Dict.get?_filter, lock]
      exact Option.filter_eq_some_iff.mpr ⟨rfl, decide_eq_true different⟩

theorem check (revocable : Revocable store) (taken : store.check worker = some next)
    : Revocable next := by
  have serialised := revocable.toSerialised.check taken
  obtain ⟨task, user, read, rfl | ⟨-, rfl⟩⟩ := AccountStore.check_cases taken
  · exact revocable.release worker
  · apply revocable.of_same_rows serialised rfl rfl rfl rfl
    intro other transaction loaded running locks row
    rw [AccountStore.get?_advance] at running
    split at running
    · next same =>
        cases running
        cases row
        have known := revocable.locked read locks rfl
        rwa [same]
    · exact revocable.locked running locks row

/-- A committed row has a newer epoch than every session of its account, or it keeps its epoch
and allows the same. Witness: tasks that lock their row write over the epoch that is stored, and
a patch of the details meets no newer session.
-/
theorem newer_or_same {loaded current row : User} (revocable : Revocable store)
    (admitted : store.MeetsNoNewerSession (.commit worker))
    (checked : store.transactions.get? worker = some ⟨task, .checked loaded⟩)
    (present : store.users.get? task.id = some current)
    (stored : task.write loaded current = some row)
    : (∀ session ∈ store.sessions,
          session.userId = task.id → session.authEpoch < row.authEpoch)
      ∨ row.authEpoch = current.authEpoch ∧ current.SameAuthorization row := by
  have same : task.guarded = true → loaded.SameAuthority current := by
    intro guarded
    obtain ⟨known, found, same⟩ := revocable.loaded checked guarded rfl
    rw [present] at found
    cases found
    exact same
  have stale
      : task.locksRow = true
        → ∀ session ∈ store.sessions,
            session.userId = task.id → session.authEpoch < loaded.authEpoch + 1 := by
    intro locks session member own
    obtain ⟨-, known, found, same⟩ := revocable.locked checked locks rfl
    rw [present] at found
    cases found
    have bound := (revocable.bounded session member (own ▸ present)).1
    omega
  cases task with
  | updateUserDetails id email role isActive =>
      cases stored
      by_cases changes : (AccountPatch.mk email role isActive none).ChangesAuthorization loaded
      · apply Or.inl
        intro session member own
        simp only [AccountStore.MeetsNoNewerSession, checked] at admitted
        have bound := admitted changes session member own
        rw [AccountPatch.write_authEpoch_of_changes changes]
        omega
      · exact Or.inr
          ⟨AccountPatch.write_authEpoch_of_unchanged changes,
            AccountPatch.sameAuthorization_write (same rfl) changes⟩
  | updateUserAccount id patch =>
      cases stored
      by_cases changes : patch.ChangesAuthorization loaded
      · apply Or.inl
        rw [AccountPatch.write_authEpoch_of_changes changes]
        exact stale rfl
      · exact Or.inr
          ⟨AccountPatch.write_authEpoch_of_unchanged changes,
            AccountPatch.sameAuthorization_write (same rfl) changes⟩
  | updateUserPassword id passwordHash =>
      cases stored
      apply Or.inl
      simp only [written_succ]
      exact stale rfl
  | deleteUser => cases stored

theorem commit (revocable : Revocable store)
    (admitted : store.MeetsNoNewerSession (.commit worker))
    (taken : store.commit worker = some next)
    : Revocable next := by
  have serialised := revocable.toSerialised.commit taken
  obtain ⟨task, loaded, current, checked, unlocked, present, rfl⟩ :=
    AccountStore.commit_cases taken
  have released := revocable.release worker
  constructor
  · exact serialised
  · exact released.known
  · intro session member user found
    rw [AccountStore.get?_writeUser] at found
    split at found
    · next own =>
        have grown := revocable.newer_or_same admitted checked present found
        rw [found]
        obtain newer | ⟨kept, same⟩ := grown
        · have above := newer session member own
          exact ⟨Int.le_of_lt above, fun equal => absurd equal (Int.ne_of_lt above)⟩
        · rw [AccountStore.changesOf_writeUser_of_same _ _ _ _ same, kept]
          exact revocable.bounded session member (own ▸ present)
    · next other =>
        rw [AccountStore.changesOf_writeUser_of_ne _ _ _ _ _ other]
        exact released.bounded session member found
  · intro other transaction user running locks row
    have before : store.transactions.get? other = some transaction ∧ other ≠ worker := by
      change (store.release worker).transactions.get? other = some transaction at running
      rw [AccountStore.get?_release] at running
      split at running
      · cases running
      · next different => exact ⟨running, different⟩
    obtain ⟨lock, -⟩ := revocable.locked before.1 locks row
    have different : transaction.task.id ≠ task.id := by
      intro same
      exact before.2 (unlocked other (same ▸ lock))
    rw [AccountStore.get?_writeUser, if_neg different]
    exact released.locked running locks row

theorem login {userId : AccountId} (revocable : Revocable store)
    (taken : store.login userId = some next)
    : Revocable next := by
  have stepped : store.step (.login userId) = some next := taken
  have serialised := revocable.toSerialised.step stepped
  obtain ⟨user, present, rfl⟩ := AccountStore.login_cases taken
  constructor
  · exact serialised
  · intro session member
    obtain old | new := List.mem_append.mp member
    · exact revocable.known session old
    · rw [List.mem_singleton] at new
      rw [new]
      exact revocable.fresh present
  · intro session member found known
    obtain old | new := List.mem_append.mp member
    · exact revocable.bounded session old known
    · rw [List.mem_singleton] at new
      rw [new] at known ⊢
      dsimp only at known
      rw [present] at known
      cases known
      exact ⟨Int.le_refl _, fun _ => rfl⟩
  · exact revocable.locked

theorem step {event : AccountEvent} (revocable : Revocable store)
    (admitted : store.MeetsNoNewerSession event) (taken : store.step event = some next)
    : Revocable next := by
  cases event with
  | createUser =>
      obtain ⟨user, -, rfl⟩ := AccountStore.createUser_cases taken
      exact revocable.createUser user
  | enter worker task => exact revocable.enter taken
  | refresh worker => exact revocable.refresh taken
  | check worker => exact revocable.check taken
  | commit worker => exact revocable.commit admitted taken
  | rollback worker =>
      cases taken
      exact revocable.release worker
  | login userId => exact revocable.login taken

end Revocable

/-- While no patch of the details meets a newer session, every accepted session has seen all
authorization changes of its account.
-/
theorem sessions_revoked {start finish : AccountStore} {events : List AccountEvent}
    (idle : start.Idle) (signedOut : start.sessions = [])
    (run : Run AccountStore.step AccountStore.MeetsNoNewerSession start events finish)
    : finish.Revokes := by
  have initial : Revocable start := by
    refine ⟨AccountStore.serialised_of_idle idle, ?_, ?_, ?_⟩
    · simp [signedOut]
    · simp [signedOut]
    · intro worker transaction user found
      rw [idle.transactions] at found
      cases found
  have final : Revocable finish := by
    apply run.preserves Revocable _ initial
    intro store next event revocable admitted taken
    exact revocable.step admitted taken
  exact final.revokes

def administratorAndUser : AccountStore where
  users :=
    ⟨[(1, ⟨"anna", "hash-1", none, true, true, "admin", 0⟩),
      (2, ⟨"bruno", "hash-2", none, true, false, "user", 0⟩)], by decide⟩
  nextId := 3
  adminGuard := none
  rowLocks := ∅
  transactions := ∅
  sessions := []
  changes := ∅

theorem administratorAndUser_idle : administratorAndUser.Idle := by
  refine ⟨rfl, rfl, ?_⟩
  intro id user found
  have all : ∀ item ∈ administratorAndUser.users.items, item.1 < 3 := by
    simp [administratorAndUser]
  exact all _ (Dict.mem_items_iff.mpr found)

/-- The user signs in before and after a change of the role, and the password changes while
another patch of the details is prepared.
-/
def roleThenPassword : List AccountEvent :=
  [.login 2, .enter 1 (.updateUserDetails 2 none (some "viewer") none), .refresh 1, .check 1,
    .commit 1, .login 2, .enter 1 (.updateUserDetails 2 none none (some false)), .refresh 1,
    .enter 2 (.updateUserPassword 2 "hash-3"), .refresh 2, .check 2, .commit 2, .check 1,
    .commit 1, .enter 1 (.updateUserAccount 2 ⟨none, none, some true, none⟩), .refresh 1,
    .check 1, .commit 1, .login 2]

theorem sessions_revoked_roleThenPassword
    : ∃ finish,
        Run AccountStore.step AccountStore.MeetsNoNewerSession administratorAndUser
          roleThenPassword finish
        ∧ finish.Revokes
        ∧ finish.sessions.map (fun session => (finish.activeSessionUser session).isSome)
          = [false, false, true] := by
  have reached
      : ∃ finish,
          Run AccountStore.step AccountStore.MeetsNoNewerSession administratorAndUser
            roleThenPassword finish
          ∧ finish.sessions.map (fun session => (finish.activeSessionUser session).isSome)
            = [false, false, true] :=
    Run.exists_of_execute (by decide +kernel)
  obtain ⟨finish, run, results⟩ := reached
  exact ⟨finish, run, sessions_revoked administratorAndUser_idle rfl run, results⟩

/-- The password changes and the user signs in after a patch of the role has read its row. -/
def passwordInsideDetails : List AccountEvent :=
  [.enter 1 (.updateUserDetails 2 none (some "viewer") none), .refresh 1,
    .enter 2 (.updateUserPassword 2 "hash-3"), .refresh 2, .check 2, .commit 2, .login 2,
    .check 1, .commit 1]

theorem passwordInsideDetails_revokes_nothing
    : administratorAndUser.Idle ∧ administratorAndUser.sessions = []
      ∧ ∃ finish,
          Run AccountStore.step (fun _ _ => True) administratorAndUser passwordInsideDetails
            finish
          ∧ ¬finish.Revokes :=
  ⟨administratorAndUser_idle, rfl, Run.exists_of_execute (by decide +kernel)⟩

end OctoHubs.Accounts
