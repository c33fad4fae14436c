import OctoHubs.Library.FieldRules
import OctoHubs.Library.Splitting

/-! Stored passwords of groups: their versioned tokens, the table they are stored in and how a
table is brought from one secret to the next.
-/

namespace OctoHubs.UserPasswords

open OctoHubs.Library

-- Tokens

/-- The hash and the encryption that keys rest on; every token has a seed of its own. -/
structure Cryptography (σ : Type) where
  sha256 : ByteArray → ByteArray
  encrypt : (key plaintext : ByteArray) → σ → String
  decrypt : (key : ByteArray) → String → Option ByteArray

def isAscii (text : String) : Bool := text.toList.all (·.toNat < 128)

/-- A token is plain text and opens under the key it was made with. -/
structure Cryptography.Lawful {σ : Type} (crypto : Cryptography σ) : Prop where
  opens
    : ∀ key plaintext seed, crypto.decrypt key (crypto.encrypt key plaintext seed) = some plaintext
  ascii : ∀ key plaintext seed, isAscii (crypto.encrypt key plaintext seed) = true

structure CipherKey where
  keyId : String
  key : ByteArray

def hexDigits (bytes : ByteArray) : List Char :=
  bytes.data.toList.flatMap (fun byte =>
    [Nat.digitChar (byte.toNat / 16), Nat.digitChar (byte.toNat % 16)])

def tokenVersion : String := "v1"

variable {σ : Type} (crypto : Cryptography σ)

def cipherKey (secret : String) : CipherKey :=
  let digest := crypto.sha256 secret.toUTF8
  { keyId := String.ofList ((hexDigits (crypto.sha256 digest)).take 16), key := digest }

/-- The current key and every key that a token may name. -/
structure PasswordCipher where
  current : CipherKey
  keysById : Dict String CipherKey

namespace PasswordCipher

/-- The cipher of a secret and of the secret before it, if there was another one. -/
def new (currentSecret : String) (previousSecret : Option String) : PasswordCipher :=
  let current := cipherKey crypto currentSecret
  let previous :=
    previousSecret.toList.filter (fun previous => previous ≠ "" ∧ previous ≠ currentSecret)
  let keys := current :: previous.map (cipherKey crypto)
  { current := current, keysById := .ofItems (keys.map (fun key => (key.keyId, key))) }

variable (cipher : PasswordCipher)

def encrypt (plaintext : String) (seed : σ) : String :=
  tokenVersion ++ ":" ++ cipher.current.keyId ++ ":"
    ++ crypto.encrypt cipher.current.key plaintext.toUTF8 seed

/-- The parts of a text at its first two colons. -/
def splitTwice (text : List Char) : Option (List Char × List Char × List Char) :=
  (splitFirst [':'] text).bind (fun (first, rest) =>
    (splitFirst [':'] rest).map (fun (second, third) => (first, second, third)))

def decryptWithKey (key : CipherKey) (token : String) : Option String :=
  if isAscii token then (crypto.decrypt key.key token).bind String.fromUTF8? else none

/-- The plaintext of a token, and whether it was not made with the current key. -/
def decrypt (token : String) : Option String × Bool :=
  if (tokenVersion ++ ":").toList.isPrefixOf token.toList then
    match splitTwice token.toList with
    | none => (none, false)
    | some (_, keyId, body) =>
        match cipher.keysById.get? (String.ofList keyId) with
        | none => (none, false)
        | some key =>
            let plaintext := decryptWithKey crypto key (String.ofList body)
            (plaintext, plaintext.isSome && key.keyId ≠ cipher.current.keyId)
  else (none, false)

end PasswordCipher

-- The table

/-- Why the stored passwords are not replaced. -/
inductive StorageFailure
  | invalid (message : String)
  | disappeared (groupId : String)
  | database
deriving DecidableEq

def StorageFailure.message : StorageFailure → String
  | .invalid message => message
  | .disappeared groupId => "Group password disappeared during rotation: " ++ groupId
  | .database => "Error rotating group passwords atomically"

def requireBoundedText (value field : String) (maxLength : Nat) : Except String String :=
  let normalized := strip value
  if normalized = "" then .error (field ++ " is required")
  else if '\x00' ∈ normalized.toList then .error (field ++ " contains a NUL character")
  else if normalized.length > maxLength then
    .error (field ++ " exceeds " ++ toString maxLength ++ " characters")
  else .ok normalized

def embyIdentifierMaxLength : Nat := 128

def unlinkedGroupIdPrefix : String := "unlinked_"

def syntheticGroupPasswordIdMaxLength : Nat :=
  unlinkedGroupIdPrefix.length + 2 * embyIdentifierMaxLength + 1

def requireGroupPasswordId (value : String) : Except String String :=
  requireBoundedText value "group_id" syntheticGroupPasswordIdMaxLength

theorem requireGroupPasswordId_again {value groupId : String}
    (passed : requireGroupPasswordId value = .ok groupId)
    : requireGroupPasswordId groupId = .ok groupId := by
  simp only [requireGroupPasswordId, requireBoundedText] at passed ⊢
  split at passed
  · cases passed
  split at passed
  · cases passed
  split at passed
  · cases passed
  · next shown plain short =>
      cases passed
      rw [strip_strip, if_neg shown, if_neg plain, if_neg short]

/-- The ciphertext of every group that has a password. Every stored group passes the check as it
is.
-/
structure GroupPasswords where
  rows : Dict String String
  checked : ∀ groupId ∈ rows.keys, requireGroupPasswordId groupId = .ok groupId

/-- Store a password; what writes a row checks its group first. -/
def saveGroupPassword (stored : GroupPasswords) (groupId passwordEnc : String)
    : Except String GroupPasswords :=
  match passed : requireGroupPasswordId groupId with
  | .error message => .error message
  | .ok groupId =>
      .ok
        { rows := stored.rows.set groupId passwordEnc
          checked := by
            intro other member
            rcases (mem_writeItems_keys groupId other passwordEnc _).mp member with same | old
            · rw [same]
              exact requireGroupPasswordId_again passed
            · exact stored.checked other old }

/-- Replace the ciphertexts one after the other and commit; every query and the commit may fail. -/
def replaceRows (fails : Nat → Bool) (step : Nat) (rows : Dict String String)
    : List (String × String) → Except StorageFailure (Dict String String)
  | [] => if fails step then .error .database else .ok rows
  | (groupId, passwordEnc) :: updates =>
      if fails step then .error .database
      else if (rows.get? groupId).isNone then .error (.disappeared groupId)
      else replaceRows fails (step + 1) (rows.set groupId passwordEnc) updates

/-- Only rows that are there are replaced, by induction on the updates. -/
theorem keys_replaceRows {fails : Nat → Bool} {step : Nat} {rows replaced : Dict String String}
    {updates : List (String × String)}
    (result : replaceRows fails step rows updates = .ok replaced)
    {groupId : String}
    : groupId ∈ replaced.keys ↔ groupId ∈ rows.keys := by
  induction updates generalizing step rows with
  | nil =>
      rw [replaceRows] at result
      split at result
      · cases result
      · cases result
        rfl
  | cons update updates ih =>
      obtain ⟨updated, passwordEnc⟩ := update
      rw [replaceRows] at result
      split at result
      · cases result
      split at result
      · cases result
      · next present =>
          rw [ih result, Dict.mem_keys_iff_isSome, Dict.mem_keys_iff_isSome, Dict.get?_set]
          split
          · next same =>
              subst same
              simpa [Option.isSome_iff_ne_none] using present
          · rfl

/-- The update of the table: nothing for no updates, else one transaction. The first step opens
the session.
-/
def replaceGroupPasswordCiphertexts (fails : Nat → Bool) (stored : GroupPasswords)
    (updates : List (String × String))
    : Except StorageFailure Unit × GroupPasswords :=
  if updates = [] then (.ok (), stored)
  else
    match updates.mapM (fun update => (requireGroupPasswordId update.1).map (·, update.2)) with
    | .error message => (.error (.invalid message), stored)
    | .ok updates =>
        if fails 0 then (.error .database, stored)
        else
          match result : replaceRows fails 1 stored.rows updates with
          | .error failure => (.error failure, stored)
          | .ok rows =>
              (.ok (), ⟨rows, fun _ here => stored.checked _ ((keys_replaceRows result).mp here)⟩)

-- The rotation

/-- Why the stored passwords are not brought to the current key. -/
inductive PasswordCiphertextError
  | unreadable
  | notReplaced (cause : StorageFailure)
deriving DecidableEq

def PasswordCiphertextError.message : PasswordCiphertextError → String
  | .unreadable =>
      "Password Emby salvate non decifrabili: ripristina PASSWORD_SECRET "
        ++ "oppure configura PASSWORD_SECRET_PREVIOUS prima del riavvio"
  | .notReplaced _ =>
      "Rotazione password Emby annullata senza modifiche; verifica il database "
        ++ "e riprova mantenendo PASSWORD_SECRET_PREVIOUS configurata"

/-- The tokens that are made anew, if every token can be read. -/
def pendingRotations (cipher : PasswordCipher) (seeds : Nat → σ) (number : Nat)
    : List (String × String) → Except PasswordCiphertextError (List (String × String))
  | [] => .ok []
  | (groupId, passwordEnc) :: entries =>
      match cipher.decrypt crypto passwordEnc with
      | (none, _) => .error .unreadable
      | (some plaintext, needsRotation) =>
          (pendingRotations cipher seeds (number + 1) entries).map (fun pending =>
            if needsRotation then
              (groupId, cipher.encrypt crypto plaintext (seeds number)) :: pending
            else pending)

def rotateStoredPasswordCiphertexts (cipher : PasswordCipher) (seeds : Nat → σ)
    (fails : Nat → Bool) (stored : GroupPasswords)
    : Except PasswordCiphertextError Nat × GroupPasswords :=
  match pendingRotations crypto cipher seeds 0 stored.rows.items with
  | .error failure => (.error failure, stored)
  | .ok pending =>
      match replaceGroupPasswordCiphertexts fails stored pending with
      | (.error cause, stored) => (.error (.notReplaced cause), stored)
      | (.ok _, stored) => (.ok pending.length, stored)

end OctoHubs.UserPasswords
