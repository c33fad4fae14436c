import OctoHubs.Accounts.Transitions

/-! The last active administrator survives every interleaving: each body under the guard counts
the others before it takes one away, and nothing outside the guard takes one away.
-/

namespace OctoHubs.Accounts

open OctoHubs.Library

namespace AccountStore

/-- Nobody is at work on the accounts, and the next id is free. -/
structure Idle (store : AccountStore) : Prop where
  transactions : store.transactions = ∅
  rowLocks : store.rowLocks = ∅
  fresh : ∀ {id : AccountId} {user : User}, store.users.get? id = some user → id < store.nextId

/-- The flag of the administrators holds exactly for their role. -/
def Consistent (store : AccountStore) : Prop :=
  ∀ {id : AccountId} {user : User}, store.users.get? id = some user → user.Consistent

def HasActiveAdmin (store : AccountStore) (among : AccountId → Prop) : Prop :=
  ∃ id user, among id ∧ store.users.get? id = some user ∧ user.ActiveAdmin

theorem serialised_of_idle {store : AccountStore} (idle : store.Idle) : Serialised store where
  exclusive := by
    intro worker transaction found
    rw [idle.transactions] at found
    cases found
  loaded := by
    intro worker transaction user found
    rw [idle.transactions] at found
    cases found
  fresh := idle.fresh

theorem hasActiveAdmin_of_remaining {store : AccountStore} {id : AccountId}
    (remain : store.remainingAdmins id ≠ 0)
    : store.HasActiveAdmin (· ≠ id) := by
  obtain ⟨item, counted⟩ := List.exists_mem_of_length_pos (Nat.pos_of_ne_zero remain)
  obtain ⟨other, user⟩ := item
  rw [List.mem_filter] at counted
  obtain ⟨stored, counts⟩ := counted
  simp only [ne_eq, decide_not, Bool.and_eq_true, Bool.not_eq_true', decide_eq_false_iff_not]
    at counts
  exact ⟨other, user, counts.1.1, Dict.mem_items_iff.mp stored, counts.1.2, counts.2⟩

theorem HasActiveAdmin.createUser {store : AccountStore} {among : AccountId → Prop}
    (serialised : Serialised store) (admin : store.HasActiveAdmin among) (user : User)
    : HasActiveAdmin
        { store with
          users := store.users.set store.nextId user
          nextId := store.nextId + 1 }
        among := by
  obtain ⟨id, found, wanted, present, active⟩ := admin
  have old := serialised.fresh present
  exact ⟨id, found, wanted, by rwa [Dict.get?_set_ne store.users user old.ne], active⟩

theorem HasActiveAdmin.writeUser_of_ne {store : AccountStore} {among : AccountId → Prop}
    {id : AccountId} {current : User} {row : Option User}
    (admin : store.HasActiveAdmin (fun other => among other ∧ other ≠ id))
    : (store.writeUser id current row).HasActiveAdmin among := by
  obtain ⟨other, user, ⟨wanted, different⟩, present, active⟩ := admin
  refine ⟨other, user, wanted, ?_, active⟩
  rwa [get?_writeUser, if_neg different]

theorem HasActiveAdmin.writeUser {store : AccountStore} {among : AccountId → Prop}
    {task : AccountTask} {loaded current : User}
    (same : task.guarded = true → loaded.SameAuthority current)
    (present : store.users.get? task.id = some current)
    (spares : ¬task.TakesAdministrator loaded) (admin : store.HasActiveAdmin among)
    : (store.writeUser task.id current (task.write loaded current)).HasActiveAdmin among := by
  obtain ⟨id, user, wanted, found, active⟩ := admin
  by_cases own : id = task.id
  · rw [own, present] at found
    cases found
    obtain ⟨row, stored, kept⟩ := task.activeAdmin_write same active spares
    refine ⟨id, row, wanted, ?_, kept⟩
    rw [get?_writeUser, if_pos own, stored]
  · exact writeUser_of_ne ⟨id, user, ⟨wanted, own⟩, found, active⟩

end AccountStore

theorem AccountTask.guarded_of_takesAdministrator {task : AccountTask} {user : User}
    (takes : task.TakesAdministrator user)
    : task.guarded = true := by
  cases task with
  | updateUserPassword => cases takes
  | updateUserDetails | updateUserAccount | deleteUser => rfl

/-- An active administrator exists, and every body that has passed its check and takes one away
leaves another.
-/
structure Protected (store : AccountStore) : Prop extends Serialised store where
  consistent : store.Consistent
  safe
    : ∀ {worker : WorkerId} {task : AccountTask} {user : User},
        store.transactions.get? worker = some ⟨task, .checked user⟩
        → task.TakesAdministrator user
        → store.HasActiveAdmin (· ≠ task.id)
  survives : store.HasActiveAdmin (fun _ => True)

namespace Protected

variable {store next : AccountStore} {worker : WorkerId} {task : AccountTask}

theorem createUser {user : User} (kept : Protected store) (consistent : user.Consistent)
    : Protected
        { store with
          users := store.users.set store.nextId user
          nextId := store.nextId + 1 } where
  toSerialised := kept.toSerialised.createUser user
  consistent := by
    intro id found present
    dsimp only at present
    rw [Dict.get?_set] at present
    split at present
    · cases present
      exact consistent
    · exact kept.consistent present
  safe := by
    intro worker task loaded checked takes
    exact (kept.safe checked takes).createUser kept.toSerialised user
  survives := kept.survives.createUser kept.toSerialised user

theorem of_same_rows (kept : Protected store) (serialised : Serialised next)
    (users : next.users = store.users)
    (passed
      : ∀ {worker : WorkerId} {task : AccountTask} {user : User},
          next.transactions.get? worker = some ⟨task, .checked user⟩
          → store.transactions.get? worker = some ⟨task, .checked user⟩
            ∨ ¬store.Refuses task user)
    : Protected next where
  toSerialised := serialised
  consistent := by
    intro id user present
    rw [users] at present
    exact kept.consistent present
  safe := by
    intro worker task user checked takes
    rw [AccountStore.HasActiveAdmin, users]
    obtain before | passed := passed checked
    · exact kept.safe before takes
    · apply AccountStore.hasActiveAdmin_of_remaining
      intro none
      exact passed (Or.inl ⟨takes, none⟩)
  survives := by
    rw [AccountStore.HasActiveAdmin, users]
    exact kept.survives

theorem enter (kept : Protected store) (taken : store.enter worker task = some next)
    : Protected next := by
  have serialised := kept.toSerialised.enter taken
  obtain ⟨-, -, rfl⟩ := AccountStore.enter_cases taken
  apply kept.of_same_rows serialised rfl
  intro other held user checked
  dsimp only at checked
  rw [AccountStore.get?_advance] at checked
  split at checked
  · cases checked
  · exact Or.inl checked

theorem refresh (kept : Protected store) (taken : store.refresh worker = some next)
    : Protected next := by
  have serialised := kept.toSerialised.refresh taken
  obtain ⟨task, user, -, -, read⟩ := AccountStore.refresh_cases taken
  have moved
      : next.users = store.users
        ∧ next.transactions = (store.advance worker task (.read user)).transactions := by
    obtain ⟨-, rfl⟩ | ⟨-, -, rfl⟩ := read <;> exact ⟨rfl, rfl⟩
  apply kept.of_same_rows serialised moved.1
  intro other held loaded checked
  rw [moved.2, AccountStore.get?_advance] at checked
  split at checked
  · cases checked
  · exact Or.inl checked

theorem release (kept : Protected store) (worker : WorkerId)
    : Protected (store.release worker) := by
  apply kept.of_same_rows (kept.toSerialised.release worker) rfl
  intro other held user checked
  rw [AccountStore.get?_release] at checked
  split at checked
  · cases checked
  · exact Or.inl checked

theorem check (kept : Protected store) (taken : store.check worker = some next)
    : Protected next := by
  have serialised := kept.toSerialised.check taken
  obtain ⟨task, user, -, rfl | ⟨passed, rfl⟩⟩ := AccountStore.check_cases taken
  · exact kept.release worker
  · apply kept.of_same_rows serialised rfl
    intro other held loaded checked
    rw [AccountStore.get?_advance] at checked
    split at checked
    · cases checked
      exact Or.inr passed
    · exact Or.inl checked

theorem commit (kept : Protected store) (taken : store.commit worker = some next)
    : Protected next := by
  have serialised := kept.toSerialised.commit taken
  obtain ⟨task, loaded, current, checked, -, present, rfl⟩ := AccountStore.commit_cases taken
  have same : task.guarded = true → loaded.SameAuthority current := by
    intro guarded
    obtain ⟨known, found, same⟩ := kept.loaded checked guarded rfl
    rw [present] at found
    cases found
    exact same
  constructor
  · exact serialised
  · intro id user found
    rw [AccountStore.get?_writeUser] at found
    split at found
    · exact task.consistent_write same (kept.consistent present) found
    · exact kept.consistent found
  · intro other held user passed takes
    -- another body under the guard is past its check, so this commit is outside the guard
    change (store.release worker).transactions.get? other = some ⟨held, .checked user⟩ at passed
    rw [AccountStore.get?_release] at passed
    split at passed
    · cases passed
    · next different =>
        have unguarded :=
          kept.unguarded_of_other checked passed different
            (AccountTask.guarded_of_takesAdministrator takes)
        have admin : (store.release worker).HasActiveAdmin (· ≠ held.id) :=
          kept.safe passed takes
        apply admin.writeUser same present
        intro mine
        rw [AccountTask.guarded_of_takesAdministrator mine] at unguarded
        cases unguarded
  · by_cases takes : task.TakesAdministrator loaded
    · obtain ⟨id, user, different, found, active⟩ := kept.safe checked takes
      exact AccountStore.HasActiveAdmin.writeUser_of_ne
        ⟨id, user, ⟨trivial, different⟩, found, active⟩
    · have admin : (store.release worker).HasActiveAdmin (fun _ => True) := kept.survives
      exact admin.writeUser same present takes

theorem step {event : AccountEvent} (kept : Protected store)
    (taken : store.step event = some next)
    : Protected next := by
  cases event with
  | createUser =>
      obtain ⟨user, consistent, rfl⟩ := AccountStore.createUser_cases taken
      exact kept.createUser consistent
  | enter worker task => exact kept.enter taken
  | refresh worker => exact kept.refresh taken
  | check worker => exact kept.check taken
  | commit worker => exact kept.commit taken
  | rollback worker =>
      cases taken
      exact kept.release worker
  | login userId =>
      have serialised := kept.toSerialised.step taken
      obtain ⟨user, -, rfl⟩ := AccountStore.login_cases taken
      exact kept.of_same_rows serialised rfl Or.inl

end Protected

/-- From a consistent table with an active administrator, every interleaving keeps one. -/
theorem active_admin_survives {start finish : AccountStore} {events : List AccountEvent}
    (idle : start.Idle) (consistent : start.Consistent)
    (admin : start.HasActiveAdmin (fun _ => True))
    (run : Run AccountStore.step (fun _ _ => True) start events finish)
    : finish.HasActiveAdmin (fun _ => True) := by
  have initial : Protected start := by
    refine ⟨AccountStore.serialised_of_idle idle, consistent, ?_, admin⟩
    intro worker task user found
    rw [idle.transactions] at found
    cases found
  have final : Protected finish := by
    apply run.preserves Protected _ initial
    intro store next event kept _ taken
    exact kept.step taken
  exact final.survives

def twoAdministrators : AccountStore where
  users :=
    ⟨[(1, ⟨"anna", "hash-1", none, true, true, "admin", 0⟩),
      (2, ⟨"bruno", "hash-2", none, true, true, "admin", 0⟩)], by decide⟩
  nextId := 3
  adminGuard := none
  rowLocks := ∅
  transactions := ∅
  sessions := []
  changes := ∅

/-- One worker demotes the first of them while another changes the password of the second, which
the first worker then tries to delete.
-/
def demotions : List AccountEvent :=
  [.enter 1 (.updateUserDetails 1 none (some " Viewer ") none),
    .enter 2 (.updateUserPassword 2 "hash-3"), .refresh 1, .refresh 2, .check 2, .check 1,
    .commit 1, .enter 1 (.deleteUser 2), .refresh 1, .commit 2, .check 1]

theorem active_admin_survives_demotions
    : ∃ finish,
        Run AccountStore.step (fun _ _ => True) twoAdministrators demotions finish
        ∧ finish.HasActiveAdmin (fun _ => True)
        ∧ (finish.users.get? 1).any (fun user => user.role = "viewer") = true
        ∧ finish.users.keys = [1, 2] := by
  have reached
      : ∃ finish,
          Run AccountStore.step (fun _ _ => True) twoAdministrators demotions finish
          ∧ (finish.users.get? 1).any (fun user => user.role = "viewer") = true
          ∧ finish.users.keys = [1, 2] :=
    Run.exists_of_execute (by decide +kernel)
  obtain ⟨finish, run, results⟩ := reached
  refine ⟨finish, run, ?_, results⟩
  apply active_admin_survives _ _ _ run
  · refine ⟨rfl, rfl, ?_⟩
    intro id user found
    have all : ∀ item ∈ twoAdministrators.users.items, item.1 < 3 := by
      simp [twoAdministrators]
    exact all _ (Dict.mem_items_iff.mpr found)
  · intro id user found
    have all : ∀ item ∈ twoAdministrators.users.items, item.2.Consistent := by
      simp [twoAdministrators, User.Consistent]
    exact all _ (Dict.mem_items_iff.mpr found)
  · exact ⟨1, _, trivial, rfl, rfl, rfl⟩

end OctoHubs.Accounts
