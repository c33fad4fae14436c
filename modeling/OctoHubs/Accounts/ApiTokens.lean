import Mathlib.Data.List.Sort
import OctoHubs.Accounts.AccountStore
import OctoHubs.Library.Coercions
import OctoHubs.Time

/-! The tokens of the accounts for clients of the interface. A token is created, replaced or
revoked while the row of its account is locked, and the rows that are neither active nor
unexpired are kept up to a number.
-/

namespace OctoHubs.Accounts

open OctoHubs.Library

def apiTokenScopes : List String :=
  ["read:status", "read:account", "read:servers", "read:streams", "read:users",
    "read:collections", "read:libraries", "read:research", "read:publications",
    "read:configuration", "write:configuration", "write:account", "manage:tokens",
    "admin:accounts", "read:event_bridge", "write:event_bridge", "write:transcode_guard",
    "write:users", "write:collections", "write:libraries", "write:research",
    "write:publications", "run:operations", "admin:all"]

def apiTokenNameMaxLength : Nat := 120

def apiTokenLastUsedInterval : Timestamp := 5 * 60 * second

def apiTokenMaxActivePerAccount : Nat := 20

def apiTokenMaxHistoryPerAccount : Nat := 100

/-- A row of the tokens; its scopes are a list. -/
structure ApiToken where
  id : Nat
  userId : AccountId
  name : String
  tokenHash : String
  tokenPrefix : String
  scopes : List String
  isActive : Bool
  createdAt : Timestamp
  lastUsedAt : Option Timestamp
  revokedAt : Option Timestamp
  expiresAt : Option Timestamp
deriving DecidableEq

def ApiToken.isExpired (token : ApiToken) (now : Timestamp) : Bool :=
  token.expiresAt.any (· ≤ now)

/-- The token is active and not expired. -/
def ApiToken.isLive (token : ApiToken) (now : Timestamp) : Bool :=
  token.isActive && !token.isExpired now

/-- How texts are read, and the digest of a token. -/
structure TokenRules where
  alphabet : Alphabet
  hash : String → String

section Requests

variable (rules : TokenRules)

def requireApiTokenName (value : Json) : Option String :=
  let normalized := strip (value.textOr rules.alphabet "")
  if normalized = "" ∨ '\x00' ∈ normalized.toList ∨ apiTokenNameMaxLength < normalized.length then
    none
  else some normalized

/-- The known scopes, in order and each one once. -/
def normalizeApiTokenScopes (value : Json) : List String :=
  let rawItems :=
    match value with
    | .text value =>
        (words (String.ofList (value.toList.map (fun c => if c = ',' then ' ' else c)))).map
          Json.text
    | value => value.asList?.getD []
  rawItems.foldl
    (fun scopes item =>
      let scope := rules.alphabet.lower (strip (item.textOr rules.alphabet ""))
      if scope ∉ apiTokenScopes ∨ scope ∈ scopes then scopes else scopes ++ [scope])
    []

def ApiToken.normalizedScopes (token : ApiToken) : List String :=
  normalizeApiTokenScopes rules (.ofList (token.scopes.map Json.text))

/-- When a token expires, if it does; nothing for a number of days that is not allowed. -/
def apiTokenExpiry (value : Json) (now : Timestamp) : Option (Option Timestamp) :=
  match value with
  | .null => some none
  | .text "" => some none
  | .bool _ => none
  | value =>
      (value.toInt? rules.alphabet).bind (fun days =>
        if days < 1 ∨ 3650 < days then none else some (some (now + days * (86400 * second))))

end Requests

/-- The accounts and the rows of the tokens; the plaintexts that were handed out are not stored. -/
structure TokenStore where
  clock : Timestamp
  users : Dict AccountId User
  tokens : List ApiToken
  nextId : Nat
  issued : List String

namespace TokenStore

variable (rules : TokenRules)

def newApiToken (store : TokenStore) (userId : AccountId) (name : String) (scopes : List String)
    (expiresAt : Option Timestamp) (plaintext : String) (created : Timestamp) : ApiToken where
  id := store.nextId
  userId := userId
  name := name
  tokenHash := rules.hash plaintext
  tokenPrefix := String.ofList (plaintext.toList.take 12)
  scopes := scopes
  isActive := true
  createdAt := created
  lastUsedAt := none
  revokedAt := none
  expiresAt := expiresAt

def activeApiTokenCount (tokens : List ApiToken) (userId : AccountId) (now : Timestamp) : Nat :=
  tokens.countP (fun token => token.userId = userId && token.isLive now)

/-- The rows of an account that may be deleted, the newest first. -/
def staleTokens (tokens : List ApiToken) (userId : AccountId) (now : Timestamp) : List ApiToken :=
  (tokens.filter (fun token =>
      token.userId = userId && (!token.isActive || token.isExpired now))).insertionSort
    (fun left right =>
      right.createdAt < left.createdAt ∨ right.createdAt = left.createdAt ∧ right.id ≤ left.id)

/-- Delete the stale rows past a number. -/
def pruneApiTokenHistory (tokens : List ApiToken) (userId : AccountId) (now : Timestamp)
    : List ApiToken :=
  let staleIds := ((staleTokens tokens userId now).drop apiTokenMaxHistoryPerAccount).map (·.id)
  tokens.filter (·.id ∉ staleIds)

/-- The request of a token: its name, its scopes and the days until it expires. -/
structure CreateRequest where
  name : Json
  scopes : Json
  expiresInDays : Json

/-- When a step reads the clock: for the check, for what it writes and for what it deletes. -/
structure Moments where
  checked : Timestamp
  written : Timestamp
  pruned : Timestamp

def findToken (store : TokenStore) (userId : AccountId) (tokenId : Nat) : Option ApiToken :=
  store.tokens.find? (fun token => token.id = tokenId && token.userId = userId)

def createApiToken (store : TokenStore) (userId : AccountId) (request : CreateRequest)
    (plaintext : String) (asked now created : Timestamp) : Option ApiToken × TokenStore :=
  let refused := (none, { store with clock := created })
  match requireApiTokenName rules request.name,
    apiTokenExpiry rules request.expiresInDays asked with
  | some name, some expiresAt =>
      let scopes := normalizeApiTokenScopes rules request.scopes
      if scopes = [] ∨ (store.users.get? userId).isNone
          ∨ apiTokenMaxActivePerAccount ≤ activeApiTokenCount store.tokens userId now then
        refused
      else
        let token := newApiToken rules store userId name scopes expiresAt plaintext created
        (some token,
          { store with
            clock := created
            tokens := pruneApiTokenHistory (store.tokens ++ [token]) userId now
            nextId := store.nextId + 1
            issued := plaintext :: store.issued })
  | _, _ => refused

/-- The token that is no longer active. -/
def ApiToken.revoked (token : ApiToken) (now : Timestamp) : ApiToken :=
  { token with isActive := false, revokedAt := some now }

/-- The rows with one row written. -/
def writeToken (tokens : List ApiToken) (written : ApiToken) : List ApiToken :=
  tokens.map (fun token => if token.id = written.id then written else token)

def revokeApiToken (store : TokenStore) (userId : AccountId) (tokenId : Nat) (moments : Moments)
    : Bool × TokenStore :=
  let refused := (false, { store with clock := moments.pruned })
  if (store.users.get? userId).isNone then refused
  else
    match store.findToken userId tokenId with
    | none => refused
    | some token =>
        if !token.isActive || token.isExpired moments.checked then refused
        else
          let tokens := writeToken store.tokens (ApiToken.revoked token moments.written)
          (true,
            { store with
              clock := moments.pruned
              tokens := pruneApiTokenHistory tokens userId moments.pruned })

def rotateApiToken (store : TokenStore) (userId : AccountId) (tokenId : Nat) (plaintext : String)
    (moments : Moments) (created : Timestamp) : Option ApiToken × TokenStore :=
  let refused := (none, { store with clock := created })
  if (store.users.get? userId).isNone then refused
  else
    match store.findToken userId tokenId with
    | none => refused
    | some token =>
        if !token.isActive || token.isExpired moments.checked then refused
        else
          let replacement :=
            newApiToken rules store userId token.name (token.normalizedScopes rules)
              token.expiresAt plaintext created
          let tokens := writeToken store.tokens (ApiToken.revoked token moments.written)
          (some replacement,
            { store with
              clock := created
              tokens := pruneApiTokenHistory (tokens ++ [replacement]) userId moments.pruned
              nextId := store.nextId + 1
              issued := plaintext :: store.issued })

structure VerifiedToken where
  user : User
  token : ApiToken
  scopes : List String

/-- The account and the scopes of a token that is presented. -/
def verifyApiToken (store : TokenStore) (presented : String) (checked used : Timestamp)
    : Option VerifiedToken × TokenStore :=
  let refused := (none, { store with clock := used })
  let tokenValue := strip presented
  if tokenValue = "" then refused
  else
    match store.tokens.find? (·.tokenHash = rules.hash tokenValue) with
    | none => refused
    | some token =>
        if !token.isActive || token.isExpired checked then refused
        else
          match store.users.get? token.userId with
          | none => refused
          | some user =>
              if !user.isActive then refused
              else
                let stale := token.lastUsedAt.all (apiTokenLastUsedInterval ≤ used - ·)
                let token := if stale then { token with lastUsedAt := some used } else token
                (some ⟨user, token, token.normalizedScopes rules⟩,
                  { store with clock := used, tokens := writeToken store.tokens token })

/-- What happens to the tokens and to their accounts. An account's tokens are deleted before it,
and tokens that are created in between stay.
-/
inductive TokenEvent
  | create (userId : AccountId) (request : CreateRequest) (plaintext : String)
    (asked now created : Timestamp)
  | revoke (userId : AccountId) (tokenId : Nat) (moments : Moments)
  | rotate (userId : AccountId) (tokenId : Nat) (plaintext : String) (moments : Moments)
    (created : Timestamp)
  | verify (presented : String) (checked used : Timestamp)
  | writeUser (userId : AccountId) (user : User)
  | deleteTokens (userId : AccountId)
  | deleteUser (userId : AccountId)
  | wait (later : Timestamp)

def step (store : TokenStore) : TokenEvent → Option TokenStore
  | .create userId request plaintext asked now created =>
      some (createApiToken rules store userId request plaintext asked now created).2
  | .revoke userId tokenId moments => some (revokeApiToken store userId tokenId moments).2
  | .rotate userId tokenId plaintext moments created =>
      some (rotateApiToken rules store userId tokenId plaintext moments created).2
  | .verify presented checked used => some (verifyApiToken rules store presented checked used).2
  | .writeUser userId user => some { store with users := store.users.set userId user }
  | .deleteTokens userId =>
      some { store with tokens := store.tokens.filter (·.userId ≠ userId) }
  | .deleteUser userId => some { store with users := store.users.erase userId }
  | .wait later => some { store with clock := later }

def Moments.From (moments : Moments) (clock : Timestamp) : Prop :=
  clock ≤ moments.checked ∧ moments.checked ≤ moments.written ∧ moments.written ≤ moments.pruned

/-- The clock does not go back, and a token that is handed out is a new one. -/
def Admits (store : TokenStore) : TokenEvent → Prop
  | .create _ _ plaintext asked now created =>
      store.clock ≤ asked ∧ asked ≤ now ∧ now ≤ created ∧ plaintext ∉ store.issued
  | .revoke _ _ moments => moments.From store.clock
  | .rotate _ _ plaintext moments created =>
      moments.From store.clock ∧ moments.pruned ≤ created ∧ plaintext ∉ store.issued
  | .verify _ checked used => store.clock ≤ checked ∧ checked ≤ used
  | .wait later => store.clock ≤ later
  | _ => True

end TokenStore

end OctoHubs.Accounts
