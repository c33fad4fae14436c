import OctoHubs.Library.Dict
import OctoHubs.Library.Runs
import OctoHubs.Library.Text

/-! Login accounts, the transactions that change them, and the sessions that depend on them.
Transactions read committed rows; some hold the guard of the administrators, some the lock of
the row that they read.
-/

namespace OctoHubs.Accounts

open OctoHubs.Library

def roleValues : List String := ["admin", "user", "viewer"]

def normalizeRole (role : Option String) (isAdmin : Bool) : String :=
  if isAdmin then "admin"
  else
    let text := (strip (role.getD "")).map Char.toLower
    if text ∈ roleValues then text else "user"

structure User where
  username : String
  passwordHash : String
  email : Option String
  isActive : Bool
  isAdmin : Bool
  role : String
  authEpoch : Int
deriving DecidableEq, Repr

def User.getRole (user : User) : String :=
  if user.isAdmin then "admin" else if user.role ∈ roleValues then user.role else "user"

/-- The two rows allow the same: neither the role nor the active flag nor the password differs. -/
def User.SameAuthorization (before after : User) : Prop :=
  before.getRole = after.getRole ∧ before.isActive = after.isActive
  ∧ before.passwordHash = after.passwordHash

instance (before after : User) : Decidable (before.SameAuthorization after) :=
  inferInstanceAs (Decidable (_ ∧ _ ∧ _))

/-- The columns that make an active administrator agree. -/
def User.SameAuthority (loaded current : User) : Prop :=
  loaded.isAdmin = current.isAdmin ∧ loaded.role = current.role
  ∧ loaded.isActive = current.isActive

abbrev AccountId := Nat

/-- A patch of an account; a field that is not given keeps its value. -/
structure AccountPatch where
  email : Option (Option String)
  role : Option String
  isActive : Option Bool
  passwordHash : Option String
deriving DecidableEq, Repr

namespace AccountPatch

variable (patch : AccountPatch) (user : User)

def nextRole : String := patch.role.elim user.getRole (fun role => normalizeRole (some role) false)

def nextActive : Bool := patch.isActive.getD user.isActive

/-- The patch takes an administrator away. -/
def Demotes : Prop :=
  user.getRole = "admin" ∧ (patch.nextRole user ≠ "admin" ∨ patch.nextActive user = false)

instance : Decidable (patch.Demotes user) := inferInstanceAs (Decidable (_ ∧ (_ ∨ _)))

/-- The patch changes the role, the active flag or the password. -/
def ChangesAuthorization : Prop :=
  user.getRole ≠ patch.nextRole user ∨ user.isActive ≠ patch.nextActive user
  ∨ patch.passwordHash.isSome = true

instance : Decidable (patch.ChangesAuthorization user) :=
  inferInstanceAs (Decidable (_ ∨ _ ∨ _))

end AccountPatch

inductive AccountTask
  | updateUserDetails (id : AccountId) (email : Option (Option String)) (role : Option String)
    (isActive : Option Bool)
  | updateUserAccount (id : AccountId) (patch : AccountPatch)
  | updateUserPassword (id : AccountId) (passwordHash : String)
  | deleteUser (id : AccountId)
deriving DecidableEq, Repr

namespace AccountTask

variable (task : AccountTask)

def id : AccountTask → AccountId
  | updateUserDetails id .. | updateUserAccount id _ | updateUserPassword id _ | deleteUser id =>
      id

/-- The body runs under the guard of the administrators. -/
def guarded : AccountTask → Bool
  | updateUserPassword .. => false
  | updateUserDetails .. | updateUserAccount .. | deleteUser .. => true

/-- The row is read for update and stays locked until the end of the transaction. -/
def locksRow : AccountTask → Bool
  | updateUserAccount .. | updateUserPassword .. => true
  | updateUserDetails .. | deleteUser .. => false

/-- The address that the task wants for the account. -/
def newEmail : AccountTask → Option String
  | updateUserDetails _ email .. => email.join
  | updateUserAccount _ patch => patch.email.join
  | updateUserPassword .. | deleteUser _ => none

/-- The task takes an administrator away, as far as the row that it has read tells. -/
def TakesAdministrator (user : User) : Prop :=
  match task with
  | updateUserDetails _ email role isActive =>
      (AccountPatch.mk email role isActive none).Demotes user
  | updateUserAccount _ patch => patch.Demotes user
  | updateUserPassword .. => False
  | deleteUser _ => user.getRole = "admin" ∧ user.isActive = true

instance (user : User) : Decidable (task.TakesAdministrator user) := by
  unfold TakesAdministrator
  cases task with
  | updateUserDetails | updateUserAccount | updateUserPassword | deleteUser => infer_instance

end AccountTask

/-- A column is written where its value differs from the one that was read. -/
def written {α : Type} [DecidableEq α] (loaded next current : α) : α :=
  if next = loaded then current else next

/-- The row after an update that was prepared on the row `loaded`. -/
def AccountPatch.write (patch : AccountPatch) (loaded current : User) : User where
  username := current.username
  passwordHash :=
    patch.passwordHash.elim current.passwordHash (fun passwordHash =>
      written loaded.passwordHash passwordHash current.passwordHash)
  email :=
    patch.email.elim current.email (fun email => written loaded.email email current.email)
  isActive := written loaded.isActive (patch.nextActive loaded) current.isActive
  isAdmin :=
    written loaded.isAdmin (normalizeRole (some (patch.nextRole loaded)) false = "admin")
      current.isAdmin
  role := written loaded.role (normalizeRole (some (patch.nextRole loaded)) false) current.role
  authEpoch :=
    if patch.ChangesAuthorization loaded then
      written loaded.authEpoch (loaded.authEpoch + 1) current.authEpoch
    else current.authEpoch

/-- The row after the task; a deleted row is gone. -/
def AccountTask.write (task : AccountTask) (loaded current : User) : Option User :=
  match task with
  | updateUserDetails _ email role isActive =>
      some ((AccountPatch.mk email role isActive none).write loaded current)
  | updateUserAccount _ patch => some (patch.write loaded current)
  | updateUserPassword _ passwordHash =>
      some
        { current with
          passwordHash := written loaded.passwordHash passwordHash current.passwordHash
          authEpoch := written loaded.authEpoch (loaded.authEpoch + 1) current.authEpoch }
  | deleteUser _ => none

/-- How far a transaction is. -/
inductive Progress
  | entered
  | read (user : User)
  | checked (user : User)
deriving DecidableEq, Repr

structure Transaction where
  task : AccountTask
  progress : Progress
deriving DecidableEq, Repr

abbrev WorkerId := Nat

/-- A browser session, with the number of authorization changes before it. -/
structure Session where
  userId : AccountId
  authEpoch : Int
  changesBefore : Nat
deriving DecidableEq, Repr

structure AccountStore where
  users : Dict AccountId User
  nextId : AccountId
  adminGuard : Option WorkerId
  rowLocks : Dict AccountId WorkerId
  transactions : Dict WorkerId Transaction
  sessions : List Session
  changes : Dict AccountId Nat
deriving DecidableEq

inductive AccountEvent
  | createUser (username passwordHash : String) (email role : Option String) (isAdmin : Bool)
  | enter (worker : WorkerId) (task : AccountTask)
  | refresh (worker : WorkerId)
  | check (worker : WorkerId)
  | commit (worker : WorkerId)
  | rollback (worker : WorkerId)
  | login (userId : AccountId)
deriving DecidableEq, Repr

namespace AccountStore

variable (store : AccountStore)

def remainingAdmins (id : AccountId) : Nat :=
  (store.users.items.filter (fun (other, user) =>
    other ≠ id && user.isActive && user.isAdmin)).length

def emailTaken (id : AccountId) (email : String) : Bool :=
  store.users.items.any (fun (other, user) => user.email = some email && other ≠ id)

/-- The body of the task gives up after it has read the row. -/
def Refuses (task : AccountTask) (user : User) : Prop :=
  (task.TakesAdministrator user ∧ store.remainingAdmins task.id = 0)
  ∨ ∃ email ∈ task.newEmail.filter (· ≠ ""), store.emailTaken task.id email = true

instance (task : AccountTask) (user : User) : Decidable (store.Refuses task user) := by
  unfold Refuses
  infer_instance

/-- The end of a transaction; its locks go with it. -/
def release (worker : WorkerId) : AccountStore :=
  { store with
    adminGuard := store.adminGuard.filter (· ≠ worker)
    rowLocks := store.rowLocks.filter (fun _ owner => owner ≠ worker)
    transactions := store.transactions.erase worker }

def advance (worker : WorkerId) (task : AccountTask) (progress : Progress) : AccountStore :=
  { store with transactions := store.transactions.set worker ⟨task, progress⟩ }

def createUser (username passwordHash : String) (email role : Option String) (isAdmin : Bool)
    : Option AccountStore :=
  let normalized := normalizeRole role isAdmin
  if store.users.items.any (fun (_, user) =>
      user.username = username || (email.isSome && user.email = email)) then
    none
  else
    some
      { store with
        users :=
          store.users.set store.nextId
            ⟨username, passwordHash, email, true, normalized = "admin", normalized, 0⟩
        nextId := store.nextId + 1 }

def enter (worker : WorkerId) (task : AccountTask) : Option AccountStore :=
  if (store.transactions.get? worker).isSome ∨ task.guarded = true ∧ store.adminGuard.isSome then
    none
  else
    some
      { store.advance worker task .entered with
        adminGuard := if task.guarded then some worker else store.adminGuard }

/-- Read the committed row; a row that is read for update is locked. -/
def refresh (worker : WorkerId) : Option AccountStore :=
  match store.transactions.get? worker with
  | some ⟨task, .entered⟩ =>
      (store.users.get? task.id).bind (fun user =>
        if task.locksRow = false then some (store.advance worker task (.read user))
        else if (store.rowLocks.get? task.id).isSome then none
        else
          some
            { store.advance worker task (.read user) with
              rowLocks := store.rowLocks.set task.id worker })
  | _ => none

def check (worker : WorkerId) : Option AccountStore :=
  match store.transactions.get? worker with
  | some ⟨task, .read user⟩ =>
      if store.Refuses task user then some (store.release worker)
      else some (store.advance worker task (.checked user))
  | _ => none

/-- The authorization changes of the account so far. -/
def changesOf (id : AccountId) : Nat := (store.changes.get? id).getD 0

/-- Store the row, or drop it, and count a change of what it allows. -/
def writeUser (id : AccountId) (current : User) (row : Option User) : AccountStore :=
  { store with
    users := row.elim (store.users.erase id) (store.users.set id)
    changes :=
      if row.all current.SameAuthorization then store.changes
      else store.changes.set id (store.changesOf id + 1) }

/-- Write and commit; a row that another transaction has locked is waited for. -/
def commit (worker : WorkerId) : Option AccountStore :=
  match store.transactions.get? worker with
  | some ⟨task, .checked loaded⟩ =>
      if (store.rowLocks.get? task.id).any (· ≠ worker) then none
      else
        (store.users.get? task.id).map (fun current =>
          (store.release worker).writeUser task.id current (task.write loaded current))
  | _ => none

def login (userId : AccountId) : Option AccountStore :=
  ((store.users.get? userId).filter (·.isActive)).map (fun user =>
    { store with
      sessions := store.sessions ++ [⟨userId, user.authEpoch, store.changesOf userId⟩] })

/-- The session belongs to an active account and has its epoch. -/
def activeSessionUser (session : Session) : Option User :=
  (store.users.get? session.userId).filter (fun user =>
    user.isActive && user.authEpoch = session.authEpoch)

def step : AccountEvent → Option AccountStore
  | .createUser username passwordHash email role isAdmin =>
      store.createUser username passwordHash email role isAdmin
  | .enter worker task => store.enter worker task
  | .refresh worker => store.refresh worker
  | .check worker => store.check worker
  | .commit worker => store.commit worker
  | .rollback worker => some (store.release worker)
  | .login userId => store.login userId

end AccountStore

end OctoHubs.Accounts
