import OctoHubs.Accounts.AccountStore

/-! What each step of the account store can do, and what a transaction that is under way may
rely on.
-/

namespace OctoHubs.Accounts

open OctoHubs.Library

@[simp] theorem written_self {α : Type} [DecidableEq α] (loaded next : α)
    : written loaded next loaded = next := by
  unfold written
  split
  · next same => exact same.symm
  · rfl

theorem normalizeRole_admin : normalizeRole (some "admin") false = "admin" := by
  decide +kernel

namespace User

/-- The flag of the administrators says what the role says. -/
def Consistent (user : User) : Prop := user.isAdmin = true ↔ user.role = "admin"

def ActiveAdmin (user : User) : Prop := user.isActive = true ∧ user.isAdmin = true

theorem ActiveAdmin.getRole {user : User} (admin : user.ActiveAdmin)
    : user.getRole = "admin" := by
  rw [User.getRole, if_pos admin.2]

theorem SameAuthority.refl (user : User) : user.SameAuthority user := ⟨rfl, rfl, rfl⟩

theorem SameAuthority.getRole {loaded current : User} (same : loaded.SameAuthority current)
    : loaded.getRole = current.getRole := by
  simp only [User.getRole, same.1, same.2.1]

theorem SameAuthority.activeAdmin {loaded current : User} (same : loaded.SameAuthority current)
    : loaded.ActiveAdmin ↔ current.ActiveAdmin := by
  rw [ActiveAdmin, ActiveAdmin, same.1, same.2.2]

end User

namespace AccountPatch

variable {patch : AccountPatch} {loaded current : User}

theorem write_role (same : loaded.SameAuthority current)
    : (patch.write loaded current).role
      = normalizeRole (some (patch.nextRole loaded)) false := by
  simp only [write, ← same.2.1, written_self]

theorem write_isAdmin (same : loaded.SameAuthority current)
    : (patch.write loaded current).isAdmin
      = decide (normalizeRole (some (patch.nextRole loaded)) false = "admin") := by
  simp only [write, ← same.1, written_self]

theorem write_isActive (same : loaded.SameAuthority current)
    : (patch.write loaded current).isActive = patch.nextActive loaded := by
  simp only [write, ← same.2.2, written_self]

theorem consistent_write (same : loaded.SameAuthority current)
    : (patch.write loaded current).Consistent := by
  rw [User.Consistent, write_role same, write_isAdmin same, decide_eq_true_iff]

theorem activeAdmin_write (same : loaded.SameAuthority current) (admin : loaded.ActiveAdmin)
    (spares : ¬patch.Demotes loaded)
    : (patch.write loaded current).ActiveAdmin := by
  have kept : patch.nextRole loaded = "admin" ∧ patch.nextActive loaded ≠ false := by
    rw [← not_ne_iff, ← not_or]
    intro lost
    exact spares ⟨admin.getRole, lost⟩
  constructor
  · rw [write_isActive same]
    exact eq_true_of_ne_false kept.2
  · rw [write_isAdmin same, kept.1, normalizeRole_admin]
    exact decide_eq_true rfl

end AccountPatch

namespace AccountTask

variable {task : AccountTask} {loaded current row : User}

theorem sameAuthority_write (unguarded : task.guarded = false)
    (stored : task.write loaded current = some row)
    : current.SameAuthority row := by
  cases task with
  | updateUserPassword =>
      cases stored
      exact .refl current
  | updateUserDetails | updateUserAccount | deleteUser => cases unguarded

theorem consistent_write (same : task.guarded = true → loaded.SameAuthority current)
    (consistent : current.Consistent) (stored : task.write loaded current = some row)
    : row.Consistent := by
  cases task with
  | updateUserDetails | updateUserAccount =>
      cases stored
      exact AccountPatch.consistent_write (same rfl)
  | updateUserPassword =>
      cases stored
      exact consistent
  | deleteUser => cases stored

theorem activeAdmin_write (same : task.guarded = true → loaded.SameAuthority current)
    (admin : current.ActiveAdmin) (spares : ¬task.TakesAdministrator loaded)
    : ∃ row, task.write loaded current = some row ∧ row.ActiveAdmin := by
  cases task with
  | updateUserDetails | updateUserAccount =>
      exact
        ⟨_, rfl,
          AccountPatch.activeAdmin_write (same rfl) ((same rfl).activeAdmin.mpr admin) spares⟩
  | updateUserPassword => exact ⟨_, rfl, admin⟩
  | deleteUser =>
      have read := (same rfl).activeAdmin.mpr admin
      exact (spares ⟨read.getRole, read.1⟩).elim

end AccountTask

namespace AccountStore

variable {store next : AccountStore} {worker : WorkerId} {task : AccountTask}

theorem createUser_cases {username passwordHash : String} {email role : Option String}
    {isAdmin : Bool}
    (taken : store.createUser username passwordHash email role isAdmin = some next)
    : ∃ user : User,
        user.Consistent
        ∧ next
          = { store with
              users := store.users.set store.nextId user
              nextId := store.nextId + 1 } := by
  simp only [createUser] at taken
  split at taken
  · cases taken
  · cases taken
    exact ⟨_, by simp only [User.Consistent, decide_eq_true_iff], rfl⟩

theorem enter_cases (taken : store.enter worker task = some next)
    : store.transactions.get? worker = none
      ∧ (task.guarded = true → store.adminGuard = none)
      ∧ next
        = { store.advance worker task .entered with
            adminGuard := if task.guarded then some worker else store.adminGuard } := by
  unfold enter at taken
  split at taken
  · cases taken
  · next free =>
      cases taken
      rw [not_or] at free
      refine ⟨Option.not_isSome_iff_eq_none.mp free.1, ?_, rfl⟩
      intro guarded
      exact Option.not_isSome_iff_eq_none.mp (fun held => free.2 ⟨guarded, held⟩)

theorem refresh_cases (taken : store.refresh worker = some next)
    : ∃ task user,
        store.transactions.get? worker = some ⟨task, .entered⟩
        ∧ store.users.get? task.id = some user
        ∧ (task.locksRow = false ∧ next = store.advance worker task (.read user)
          ∨ task.locksRow = true ∧ store.rowLocks.get? task.id = none
            ∧ next
              = { store.advance worker task (.read user) with
                  rowLocks := store.rowLocks.set task.id worker }) := by
  unfold refresh at taken
  split at taken
  · next task entered =>
      obtain ⟨user, read, moved⟩ := Option.bind_eq_some_iff.mp taken
      refine ⟨task, user, entered, read, ?_⟩
      split at moved
      · next free =>
          cases moved
          exact Or.inl ⟨free, rfl⟩
      · next locks =>
          split at moved
          · cases moved
          · next open_ =>
              cases moved
              exact Or.inr
                ⟨eq_true_of_ne_false locks, Option.not_isSome_iff_eq_none.mp open_, rfl⟩
  · cases taken

theorem check_cases (taken : store.check worker = some next)
    : ∃ task user,
        store.transactions.get? worker = some ⟨task, .read user⟩
        ∧ (next = store.release worker
          ∨ ¬store.Refuses task user ∧ next = store.advance worker task (.checked user)) := by
  unfold check at taken
  split at taken
  · next task user entered =>
      refine ⟨task, user, entered, ?_⟩
      split at taken
      · cases taken
        exact Or.inl rfl
      · next passed =>
          cases taken
          exact Or.inr ⟨passed, rfl⟩
  · cases taken

theorem commit_cases (taken : store.commit worker = some next)
    : ∃ task loaded current,
        store.transactions.get? worker = some ⟨task, .checked loaded⟩
        ∧ (∀ owner, store.rowLocks.get? task.id = some owner → owner = worker)
        ∧ store.users.get? task.id = some current
        ∧ next
          = (store.release worker).writeUser task.id current (task.write loaded current) := by
  unfold commit at taken
  split at taken
  · next task loaded checked =>
      split at taken
      · cases taken
      · next unlocked =>
          obtain ⟨current, found, rfl⟩ := Option.map_eq_some_iff.mp taken
          refine ⟨task, loaded, current, checked, ?_, found, rfl⟩
          intro owner held
          by_contra other
          exact unlocked (by rw [held]; exact decide_eq_true other)
  · cases taken

theorem login_cases {userId : AccountId} (taken : store.login userId = some next)
    : ∃ user,
        store.users.get? userId = some user
        ∧ next
          = { store with
              sessions :=
                store.sessions ++ [⟨userId, user.authEpoch, store.changesOf userId⟩] } := by
  obtain ⟨user, found, rfl⟩ := Option.map_eq_some_iff.mp taken
  exact ⟨user, (Option.filter_eq_some_iff.mp found).1, rfl⟩

variable (store : AccountStore) (worker other : WorkerId) (task : AccountTask)

@[simp] theorem get?_advance (progress : Progress)
    : (store.advance worker task progress).transactions.get? other
      = if other = worker then some ⟨task, progress⟩ else store.transactions.get? other :=
  Dict.get?_set store.transactions worker other ⟨task, progress⟩

@[simp] theorem get?_release
    : (store.release worker).transactions.get? other
      = if other = worker then none else store.transactions.get? other :=
  Dict.get?_erase store.transactions worker other

theorem get?_writeUser (id key : AccountId) (current : User) (row : Option User)
    : (store.writeUser id current row).users.get? key
      = if key = id then row else store.users.get? key := by
  cases row with
  | none => exact Dict.get?_erase store.users id key
  | some row => exact Dict.get?_set store.users id key row

end AccountStore

/-- The row that the transaction has read. -/
def Progress.row : Progress → Option User
  | .entered => none
  | .read user | .checked user => some user

/-- Bodies under the guard exclude each other and know the authority of their row; new accounts
take fresh ids.
-/
structure Serialised (store : AccountStore) : Prop where
  exclusive
    : ∀ {worker : WorkerId} {transaction : Transaction},
        store.transactions.get? worker = some transaction
        → transaction.task.guarded = true
        → store.adminGuard = some worker
  loaded
    : ∀ {worker : WorkerId} {transaction : Transaction} {user : User},
        store.transactions.get? worker = some transaction
        → transaction.task.guarded = true
        → transaction.progress.row = some user
        → ∃ current,
            store.users.get? transaction.task.id = some current ∧ user.SameAuthority current
  fresh : ∀ {id : AccountId} {user : User}, store.users.get? id = some user → id < store.nextId

namespace Serialised

variable {store next : AccountStore} {worker other : WorkerId} {task : AccountTask}

theorem unique {left right : Transaction} (serialised : Serialised store)
    (one : store.transactions.get? worker = some left) (oneGuarded : left.task.guarded = true)
    (two : store.transactions.get? other = some right) (twoGuarded : right.task.guarded = true)
    : worker = other :=
  Option.some.inj
    ((serialised.exclusive one oneGuarded).symm.trans (serialised.exclusive two twoGuarded))

theorem createUser (serialised : Serialised store) (user : User)
    : Serialised
        { store with
          users := store.users.set store.nextId user
          nextId := store.nextId + 1 } where
  exclusive := serialised.exclusive
  loaded := by
    intro worker transaction read found guarded row
    obtain ⟨current, present, same⟩ := serialised.loaded found guarded row
    have old := serialised.fresh present
    exact ⟨current, by rwa [Dict.get?_set_ne store.users user old.ne], same⟩
  fresh := by
    intro id found present
    dsimp only at present ⊢
    rw [Dict.get?_set] at present
    split at present
    · next new => exact new ▸ Nat.lt_succ_self store.nextId
    · exact Nat.lt_succ_of_lt (serialised.fresh present)

theorem enter (serialised : Serialised store) (taken : store.enter worker task = some next)
    : Serialised next := by
  obtain ⟨-, free, rfl⟩ := AccountStore.enter_cases taken
  constructor
  · intro other transaction found guarded
    dsimp only at found ⊢
    rw [AccountStore.get?_advance] at found
    split at found
    · next same =>
        cases found
        rw [if_pos guarded, same]
    · have held := serialised.exclusive found guarded
      have unguarded : task.guarded ≠ true := by
        intro wanted
        rw [free wanted] at held
        cases held
      rwa [if_neg unguarded]
  · intro other transaction user found guarded row
    dsimp only at found
    rw [AccountStore.get?_advance] at found
    split at found
    · cases found
      cases row
    · exact serialised.loaded found guarded row
  · exact serialised.fresh

theorem advance {transaction : Transaction} {progress : Progress}
    (serialised : Serialised store)
    (running : store.transactions.get? worker = some transaction)
    (loaded
      : ∀ {user : User},
          transaction.task.guarded = true
          → progress.row = some user
          → ∃ current,
              store.users.get? transaction.task.id = some current ∧ user.SameAuthority current)
    : Serialised (store.advance worker transaction.task progress) where
  exclusive := by
    intro other held found guarded
    rw [AccountStore.get?_advance] at found
    split at found
    · next same =>
        cases found
        rw [same]
        exact serialised.exclusive running guarded
    · exact serialised.exclusive found guarded
  loaded := by
    intro other held user found guarded row
    rw [AccountStore.get?_advance] at found
    split at found
    · cases found
      exact loaded guarded row
    · exact serialised.loaded found guarded row
  fresh := serialised.fresh

theorem refresh (serialised : Serialised store) (taken : store.refresh worker = some next)
    : Serialised next := by
  obtain ⟨task, user, entered, present, read⟩ := AccountStore.refresh_cases taken
  have advanced : Serialised (store.advance worker task (.read user)) := by
    apply serialised.advance entered
    intro loaded _ row
    cases row
    exact ⟨user, present, .refl user⟩
  obtain ⟨-, rfl⟩ | ⟨-, -, rfl⟩ := read
  · exact advanced
  · exact ⟨advanced.exclusive, advanced.loaded, advanced.fresh⟩

theorem release (serialised : Serialised store) (worker : WorkerId)
    : Serialised (store.release worker) where
  exclusive := by
    intro other transaction found guarded
    rw [AccountStore.get?_release] at found
    split at found
    · cases found
    · next different =>
        have held := serialised.exclusive found guarded
        exact Option.filter_eq_some_iff.mpr ⟨held, decide_eq_true different⟩
  loaded := by
    intro other transaction user found guarded row
    rw [AccountStore.get?_release] at found
    split at found
    · cases found
    · exact serialised.loaded found guarded row
  fresh := serialised.fresh

theorem check (serialised : Serialised store) (taken : store.check worker = some next)
    : Serialised next := by
  obtain ⟨task, user, read, rfl | ⟨-, rfl⟩⟩ := AccountStore.check_cases taken
  · exact serialised.release worker
  · apply serialised.advance read
    intro loaded guarded row
    cases row
    exact serialised.loaded read guarded rfl

/-- What another transaction under the guard has read stays true through a commit: the two do
not both run under it.
-/
theorem unguarded_of_other {transaction mine : Transaction} (serialised : Serialised store)
    (checked : store.transactions.get? worker = some mine)
    (found : store.transactions.get? other = some transaction) (different : other ≠ worker)
    (guarded : transaction.task.guarded = true)
    : mine.task.guarded = false := by
  by_contra both
  exact different
    (serialised.unique found guarded checked (eq_true_of_ne_false both))

theorem commit (serialised : Serialised store) (taken : store.commit worker = some next)
    : Serialised next := by
  obtain ⟨task, loaded, current, checked, -, present, rfl⟩ := AccountStore.commit_cases taken
  have released := serialised.release worker
  constructor
  · exact released.exclusive
  · intro other transaction user found guarded row
    have running : store.transactions.get? other = some transaction ∧ other ≠ worker := by
      change (store.release worker).transactions.get? other = some transaction at found
      rw [AccountStore.get?_release] at found
      split at found
      · cases found
      · next different => exact ⟨found, different⟩
    obtain ⟨before, known, same⟩ := serialised.loaded running.1 guarded row
    have unguarded := serialised.unguarded_of_other checked running.1 running.2 guarded
    rw [AccountStore.get?_writeUser]
    split
    · next sameRow =>
        rw [sameRow, present] at known
        cases known
        obtain ⟨written, stored⟩ : ∃ written, task.write loaded current = some written := by
          cases task with
          | updateUserPassword => exact ⟨_, rfl⟩
          | updateUserDetails | updateUserAccount | deleteUser => cases unguarded
        have kept := AccountTask.sameAuthority_write unguarded stored
        exact
          ⟨written, stored, same.1.trans kept.1, same.2.1.trans kept.2.1,
            same.2.2.trans kept.2.2⟩
    · exact ⟨before, known, same⟩
  · intro id user found
    rw [AccountStore.get?_writeUser] at found
    split at found
    · next sameRow =>
        rw [sameRow]
        exact serialised.fresh present
    · exact serialised.fresh found

theorem step {event : AccountEvent} (serialised : Serialised store)
    (taken : store.step event = some next)
    : Serialised next := by
  cases event with
  | createUser =>
      obtain ⟨user, -, rfl⟩ := AccountStore.createUser_cases taken
      exact serialised.createUser user
  | enter worker task => exact serialised.enter taken
  | refresh worker => exact serialised.refresh taken
  | check worker => exact serialised.check taken
  | commit worker => exact serialised.commit taken
  | rollback worker =>
      cases taken
      exact serialised.release worker
  | login userId =>
      obtain ⟨user, -, rfl⟩ := AccountStore.login_cases taken
      exact ⟨serialised.exclusive, serialised.loaded, serialised.fresh⟩

end Serialised

end OctoHubs.Accounts
