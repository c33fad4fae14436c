import OctoHubs.Library.Merging
import OctoHubs.Library.Runs
import OctoHubs.UserPasswords.PasswordCipher

/-! A change of the secret reaches all of the stored passwords or none of them. -/

namespace OctoHubs.UserPasswords

open OctoHubs.Library

variable {σ : Type} {crypto : Cryptography σ}

-- Readable tokens

def tokenOf (keyId body : String) : String := tokenVersion ++ ":" ++ keyId ++ ":" ++ body

/-- The token has been made with the secret and hides the plaintext. -/
def Reads (crypto : Cryptography σ) (secret token plaintext : String) : Prop :=
  ∃ body,
    token = tokenOf (cipherKey crypto secret).keyId body
    ∧ PasswordCipher.decryptWithKey crypto (cipherKey crypto secret) body = some plaintext

/-- The secrets that a cipher is given. -/
def InUse (current : String) (previous : Option String) (secret : String) : Prop :=
  secret = current ∨ previous = some secret ∧ secret ≠ ""

/-- One of the secrets reads the token. -/
def Readable (crypto : Cryptography σ) (current : String) (previous : Option String)
    (token plaintext : String)
    : Prop :=
  ∃ secret, InUse current previous secret ∧ Reads crypto secret token plaintext

/-- Two secrets that are not the same have keys of different names. -/
def DistinctKeys (crypto : Cryptography σ) (current : String) (previous : Option String) : Prop :=
  ∀ secret,
    previous = some secret → secret ≠ current →
      (cipherKey crypto secret).keyId ≠ (cipherKey crypto current).keyId

theorem exists_of_mem_hexDigits {bytes : ByteArray} {digit : Char} (member : digit ∈ hexDigits bytes)
    : ∃ number < 16, digit = Nat.digitChar number := by
  obtain ⟨byte, -, here⟩ := List.mem_flatMap.mp member
  have bound : byte.toNat < 256 := byte.toNat_lt
  simp only [List.mem_cons, List.not_mem_nil, or_false] at here
  rcases here with same | same
  · exact ⟨_, by omega, same⟩
  · exact ⟨_, by omega, same⟩

theorem colon_notMem_keyId (secret : String) : ':' ∉ (cipherKey crypto secret).keyId.toList := by
  have digits : ∀ number < 16, ':' ≠ Nat.digitChar number := by decide
  rw [cipherKey, String.toList_ofList]
  intro member
  obtain ⟨number, bound, same⟩ := exists_of_mem_hexDigits (List.mem_of_mem_take member)
  exact digits number bound same

theorem splitTwice_iff {text first second third : List Char}
    : PasswordCipher.splitTwice text = some (first, second, third)
      ↔ text = first ++ ':' :: (second ++ ':' :: third) ∧ ':' ∉ first ∧ ':' ∉ second := by
  simp only [PasswordCipher.splitTwice, Option.bind_eq_some_iff, Option.map_eq_some_iff,
    Prod.exists, Prod.mk.injEq, splitFirst_single_iff]
  constructor
  · rintro ⟨lead, rest, ⟨rfl, plain⟩, middle, tail, ⟨rfl, plain'⟩, rfl, rfl, rfl⟩
    exact ⟨rfl, plain, plain'⟩
  · rintro ⟨whole, plain, plain'⟩
    exact ⟨first, _, ⟨whole, plain⟩, second, third, ⟨rfl, plain'⟩, rfl, rfl, rfl⟩

theorem toList_tokenOf (keyId body : String)
    : (tokenOf keyId body).toList
      = tokenVersion.toList ++ ':' :: (keyId.toList ++ ':' :: body.toList) := by
  have colon : ":".toList = [':'] := rfl
  simp [tokenOf, String.toList_append, colon]

theorem colon_notMem_tokenVersion : ':' ∉ tokenVersion.toList := by decide

theorem decrypt_tokenOf (cipher : PasswordCipher) {keyId body : String}
    (plain : ':' ∉ keyId.toList)
    : cipher.decrypt crypto (tokenOf keyId body)
      = (cipher.keysById.get? keyId).elim (none, false) (fun key =>
          (PasswordCipher.decryptWithKey crypto key body,
            (PasswordCipher.decryptWithKey crypto key body).isSome
              && key.keyId ≠ cipher.current.keyId)) := by
  have starts : (tokenVersion ++ ":").toList.isPrefixOf (tokenOf keyId body).toList = true := by
    rw [toList_tokenOf, List.isPrefixOf_iff_prefix]
    exact ⟨keyId.toList ++ ':' :: body.toList, rfl⟩
  have split := splitTwice_iff.mpr ⟨toList_tokenOf keyId body, colon_notMem_tokenVersion, plain⟩
  rw [PasswordCipher.decrypt, if_pos starts, split]
  simp only [String.ofList_toList]
  cases cipher.keysById.get? keyId <;> rfl

theorem exists_tokenOf {cipher : PasswordCipher} {token plaintext : String} {needs : Bool}
    (read : cipher.decrypt crypto token = (some plaintext, needs))
    : ∃ keyId body, ':' ∉ keyId.toList ∧ token = tokenOf keyId body := by
  rw [PasswordCipher.decrypt] at read
  split at read
  · next starts =>
      obtain ⟨tail, whole⟩ := List.isPrefixOf_iff_prefix.mp starts
      cases split : PasswordCipher.splitTwice token.toList with
      | none =>
          rw [split] at read
          cases read
      | some parts =>
          obtain ⟨first, keyId, body⟩ := parts
          obtain ⟨shape, plain, plain'⟩ := splitTwice_iff.mp split
          have version := (splitFirst_single_iff.mpr ⟨shape, plain⟩).symm.trans
            (splitFirst_single_iff.mpr ⟨whole.symm, colon_notMem_tokenVersion⟩)
          cases version
          refine ⟨String.ofList keyId, String.ofList body, ?_, ?_⟩
          · rwa [String.toList_ofList]
          · apply String.toList_injective
            rw [toList_tokenOf, String.toList_ofList, String.toList_ofList, shape]
  · cases read

-- What a cipher reads

variable {current : String} {previous : Option String} {token plaintext : String}

theorem current_new (crypto : Cryptography σ) (current : String) (previous : Option String)
    : (PasswordCipher.new crypto current previous).current = cipherKey crypto current :=
  rfl

theorem get?_keysById (distinct : DistinctKeys crypto current previous) {keyId : String}
    {key : CipherKey}
    : (PasswordCipher.new crypto current previous).keysById.get? keyId = some key
      ↔ ∃ secret,
          InUse current previous secret ∧ key = cipherKey crypto secret ∧ key.keyId = keyId := by
  have listed
      : ∀ secret,
          InUse current previous secret
          ↔ secret ∈ current ::
              previous.toList.filter (fun previous => previous ≠ "" ∧ previous ≠ current) := by
    intro secret
    simp only [InUse, List.mem_cons, List.mem_filter, Option.mem_toList, decide_eq_true_eq]
    tauto
  have unique
      : ((cipherKey crypto current ::
            (previous.toList.filter (fun previous => previous ≠ "" ∧ previous ≠ current)).map
              (cipherKey crypto)).map CipherKey.keyId).Nodup := by
    cases previous with
    | none => simp
    | some secret =>
        by_cases other : secret ≠ "" ∧ secret ≠ current
        · have differ := distinct secret rfl other.2
          simp [other, Ne.symm differ]
        · simp [other]
  rw [PasswordCipher.new, Dict.get?_ofItems_iff (by rw [List.map_map]; exact unique),
    List.mem_map, ← List.map_cons (f := cipherKey crypto)]
  simp only [List.mem_map, ← listed, Prod.mk.injEq]
  constructor
  · rintro ⟨found, ⟨secret, inUse, same⟩, named, rfl⟩
    exact ⟨secret, inUse, same.symm, named⟩
  · rintro ⟨secret, inUse, same, named⟩
    exact ⟨key, ⟨secret, inUse, same.symm⟩, named, rfl⟩

theorem decrypt_iff (distinct : DistinctKeys crypto current previous) {needs : Bool}
    : (PasswordCipher.new crypto current previous).decrypt crypto token = (some plaintext, needs)
      ↔ ∃ secret,
          InUse current previous secret ∧ Reads crypto secret token plaintext
          ∧ needs = decide (secret ≠ current) := by
  have flag (secret : String) (inUse : InUse current previous secret)
      : decide ((cipherKey crypto secret).keyId ≠ (cipherKey crypto current).keyId)
        = decide (secret ≠ current) := by
    rcases inUse with same | ⟨given, -⟩
    · simp [same]
    · by_cases same : secret = current
      · simp [same]
      · simp [same, distinct secret given same]
  constructor
  · intro read
    obtain ⟨keyId, body, plain, rfl⟩ := exists_tokenOf read
    rw [decrypt_tokenOf _ plain, current_new] at read
    cases named : (PasswordCipher.new crypto current previous).keysById.get? keyId with
    | none =>
        rw [named] at read
        cases read
    | some key =>
        obtain ⟨secret, inUse, rfl, rfl⟩ := (get?_keysById distinct).mp named
        rw [named] at read
        obtain ⟨opened, rotate⟩ := Prod.mk.inj read
        rw [opened, Option.isSome_some, Bool.true_and, flag secret inUse] at rotate
        exact ⟨secret, inUse, ⟨body, rfl, opened⟩, rotate.symm⟩
  · rintro ⟨secret, inUse, ⟨body, rfl, opened⟩, rfl⟩
    have named := (get?_keysById distinct).mpr ⟨secret, inUse, rfl, rfl⟩
    rw [decrypt_tokenOf _ (colon_notMem_keyId secret), named, current_new]
    simp only [Option.elim_some, opened, Option.isSome_some, Bool.true_and, flag secret inUse]

theorem exists_decrypt_iff (distinct : DistinctKeys crypto current previous)
    : ((PasswordCipher.new crypto current previous).decrypt crypto token).1 = some plaintext
      ↔ Readable crypto current previous token plaintext := by
  constructor
  · intro read
    obtain ⟨secret, inUse, reads, -⟩ := (decrypt_iff distinct).mp (Prod.ext read rfl)
    exact ⟨secret, inUse, reads⟩
  · rintro ⟨secret, inUse, reads⟩
    exact congrArg Prod.fst ((decrypt_iff distinct).mpr ⟨secret, inUse, reads, rfl⟩)

theorem reads_encrypt (lawful : crypto.Lawful) (seed : σ)
    : Reads crypto current
        ((PasswordCipher.new crypto current previous).encrypt crypto plaintext seed) plaintext := by
  refine ⟨crypto.encrypt (cipherKey crypto current).key plaintext.toUTF8 seed, rfl, ?_⟩
  rw [PasswordCipher.decryptWithKey, if_pos (lawful.ascii _ _ _), lawful.opens]
  exact dif_pos plaintext.isValidUTF8

theorem decrypt_alone (reads : Reads crypto current token plaintext)
    : (PasswordCipher.new crypto current none).decrypt crypto token = (some plaintext, false) :=
  (decrypt_iff (by simp [DistinctKeys])).mpr ⟨current, .inl rfl, reads, by simp⟩

-- New tokens

/-- The pending tokens replace those of the entries that another key than the current one reads. -/
inductive Renews (crypto : Cryptography σ) (cipher : PasswordCipher)
    : List (String × String) → List (String × String) → Prop
  | nil : Renews crypto cipher [] []
  | keep {groupId token plaintext : String} {entries pending : List (String × String)}
      (read : cipher.decrypt crypto token = (some plaintext, false))
      (rest : Renews crypto cipher entries pending)
      : Renews crypto cipher ((groupId, token) :: entries) pending
  | renew {groupId token plaintext : String} {entries pending : List (String × String)}
      (seed : σ) (read : cipher.decrypt crypto token = (some plaintext, true))
      (rest : Renews crypto cipher entries pending)
      : Renews crypto cipher ((groupId, token) :: entries)
          ((groupId, cipher.encrypt crypto plaintext seed) :: pending)

variable {cipher : PasswordCipher} {seeds : Nat → σ} {number : Nat}
  {entries pending : List (String × String)}

/-- Either some entry cannot be read, or the tokens are renewed, by induction on the entries. -/
theorem pendingRotations_cases (cipher : PasswordCipher) (seeds : Nat → σ) (number : Nat)
    (entries : List (String × String))
    : (pendingRotations crypto cipher seeds number entries = .error .unreadable
        ∧ ∃ entry ∈ entries, (cipher.decrypt crypto entry.2).1 = none)
      ∨ ∃ pending,
          pendingRotations crypto cipher seeds number entries = .ok pending
          ∧ Renews crypto cipher entries pending := by
  induction entries generalizing number with
  | nil => exact .inr ⟨[], rfl, .nil⟩
  | cons entry entries ih =>
      obtain ⟨groupId, token⟩ := entry
      rw [pendingRotations]
      cases read : cipher.decrypt crypto token with
      | mk plaintext needs =>
          cases plaintext with
          | none => exact .inl ⟨rfl, (groupId, token), List.mem_cons_self, by rw [read]⟩
          | some plaintext =>
              rcases ih (number + 1) with ⟨failed, entry, member, none_⟩ | ⟨rest, done, renews⟩
              · refine .inl ⟨?_, entry, List.mem_cons_of_mem _ member, none_⟩
                simp only [failed, Except.map]
              · right
                simp only [done, Except.map]
                cases needs with
                | false => exact ⟨rest, rfl, .keep read renews⟩
                | true => exact ⟨_, rfl, .renew (seeds number) read renews⟩

theorem Renews.readable (renews : Renews crypto cipher entries pending)
    {entry : String × String} (member : entry ∈ entries)
    : (cipher.decrypt crypto entry.2).1 ≠ none := by
  induction renews with
  | nil => cases member
  | keep read _ ih =>
      rcases List.mem_cons.mp member with rfl | later
      · simp [read]
      · exact ih later
  | renew _ read _ ih =>
      rcases List.mem_cons.mp member with rfl | later
      · simp [read]
      · exact ih later

theorem Renews.sublist (renews : Renews crypto cipher entries pending)
    : (pending.map Prod.fst).Sublist (entries.map Prod.fst) := by
  induction renews with
  | nil => exact .slnil
  | keep _ _ ih => exact ih.cons _
  | renew _ _ _ ih => exact ih.cons_cons _

theorem Renews.length (renews : Renews crypto cipher entries pending)
    : pending.length = entries.countP (fun entry => (cipher.decrypt crypto entry.2).2) := by
  induction renews with
  | nil => rfl
  | keep read _ ih => simp [ih, read]
  | renew _ read _ ih => simp [ih, read]

/-- What is pending for a group, by induction on the entries. -/
theorem Renews.lookup (renews : Renews crypto cipher entries pending)
    (unique : (entries.map Prod.fst).Nodup) {groupId token : String}
    (member : (groupId, token) ∈ entries)
    : ∃ plaintext,
        (cipher.decrypt crypto token = (some plaintext, false)
          ∧ lookupItems groupId pending = none)
        ∨ ∃ seed,
            cipher.decrypt crypto token = (some plaintext, true)
            ∧ lookupItems groupId pending = some (cipher.encrypt crypto plaintext seed) := by
  induction renews with
  | nil => cases member
  | @keep first token' plaintext entries pending read rest ih =>
      obtain ⟨fresh, unique⟩ := List.nodup_cons.mp unique
      rcases List.mem_cons.mp member with same | later
      · cases same
        have absent : groupId ∉ pending.map Prod.fst :=
          fun inside => fresh (rest.sublist.subset inside)
        exact ⟨plaintext, .inl ⟨read, lookupItems_eq_none absent⟩⟩
      · exact ih unique later
  | @renew first token' plaintext entries pending seed read rest ih =>
      obtain ⟨fresh, unique⟩ := List.nodup_cons.mp unique
      rcases List.mem_cons.mp member with same | later
      · cases same
        exact ⟨plaintext, .inr ⟨seed, read, by simp [lookupItems]⟩⟩
      · have other : first ≠ groupId := by
          rintro rfl
          exact fresh (List.mem_map.mpr ⟨_, later, rfl⟩)
        rw [lookupItems, if_neg other]
        exact ih unique later

-- Replaced rows

variable {fails : Nat → Bool} {updates : List (String × String)}

/-- The rows are replaced if no query fails and the commit does not, by induction on the
updates.
-/
theorem replaceRows_cases (fails : Nat → Bool) (step : Nat) (rows : Dict String String)
    (unique : (updates.map Prod.fst).Nodup)
    (present : ∀ update ∈ updates, update.1 ∈ rows.keys)
    : (∃ failure,
        replaceRows fails step rows updates = .error failure
        ∧ ∃ index ≤ updates.length, fails (step + index) = true)
      ∨ ∃ replaced,
          replaceRows fails step rows updates = .ok replaced
          ∧ (∀ groupId,
              replaced.get? groupId = (lookupItems groupId updates).or (rows.get? groupId))
          ∧ ∀ index ≤ updates.length, fails (step + index) = false := by
  induction updates generalizing step rows with
  | nil =>
      rw [replaceRows]
      cases failing : fails step with
      | true => exact .inl ⟨.database, rfl, 0, Nat.le_refl _, failing⟩
      | false =>
          refine .inr ⟨rows, rfl, fun groupId => rfl, ?_⟩
          intro index bound
          cases Nat.le_zero.mp bound
          exact failing
  | cons update updates ih =>
      obtain ⟨groupId, passwordEnc⟩ := update
      obtain ⟨fresh, unique⟩ := List.nodup_cons.mp unique
      have here : (rows.get? groupId).isNone = false := by
        have stored := Dict.mem_keys_iff_isSome.mp (present _ List.mem_cons_self)
        simpa [Option.isSome_iff_ne_none] using stored
      have later : ∀ update ∈ updates, update.1 ∈ (rows.set groupId passwordEnc).keys :=
        fun update member =>
          (mem_writeItems_keys _ _ _ _).mpr (.inr (present _ (List.mem_cons_of_mem _ member)))
      rw [replaceRows]
      cases failing : fails step with
      | true => exact .inl ⟨.database, rfl, 0, Nat.zero_le _, failing⟩
      | false =>
          simp only [Bool.false_eq_true, if_false, here]
          rcases ih (step + 1) (rows.set groupId passwordEnc) unique later with
            ⟨failure, failed, index, bound, fault⟩ | ⟨replaced, done, shown, sound⟩
          · refine .inl ⟨failure, failed, index + 1, Nat.succ_le_succ bound, ?_⟩
            rw [← fault, Nat.add_right_comm, Nat.add_assoc]
          · refine .inr ⟨replaced, done, ?_, ?_⟩
            · intro other
              rw [shown, lookupItems]
              by_cases same : groupId = other
              · subst same
                simp [lookupItems_eq_none fresh]
              · rw [if_neg same, Dict.get?_set_ne _ _ (Ne.symm same)]
            · intro index bound
              cases index with
              | zero => exact failing
              | succ index =>
                  have here := sound index (Nat.le_of_succ_le_succ bound)
                  rwa [Nat.add_right_comm, Nat.add_assoc] at here

theorem mapM_checked
    (checked : ∀ update ∈ updates, requireGroupPasswordId update.1 = .ok update.1)
    : updates.mapM (fun update => (requireGroupPasswordId update.1).map (·, update.2))
      = .ok updates := by
  induction updates with
  | nil => rfl
  | cons update updates ih =>
      rw [List.mapM_cons, checked update List.mem_cons_self,
        ih (fun other member => checked other (List.mem_cons_of_mem _ member))]
      rfl

/-- The database fails at some step of an update that has something to replace. -/
def UpdateFails (fails : Nat → Bool) (updates : Nat) : Prop :=
  updates ≠ 0 ∧ ∃ step < updates + 2, fails step = true

theorem replaceGroupPasswordCiphertexts_cases (stored : GroupPasswords)
    (unique : (updates.map Prod.fst).Nodup)
    (present : ∀ update ∈ updates, update.1 ∈ stored.rows.keys)
    : (UpdateFails fails updates.length
        ∧ ∃ failure,
            replaceGroupPasswordCiphertexts fails stored updates = (.error failure, stored))
      ∨ ¬UpdateFails fails updates.length
        ∧ ∃ after,
            replaceGroupPasswordCiphertexts fails stored updates = (.ok (), after)
            ∧ ∀ groupId,
                after.rows.get? groupId
                = (lookupItems groupId updates).or (stored.rows.get? groupId) := by
  by_cases none_ : updates = []
  · subst none_
    exact .inr ⟨fun failing => failing.1 rfl, stored, rfl, fun _ => rfl⟩
  have some_ : updates.length ≠ 0 := fun bare => none_ (List.length_eq_zero_iff.mp bare)
  have checked := mapM_checked (fun update member => stored.checked _ (present update member))
  rw [replaceGroupPasswordCiphertexts, if_neg none_, checked]
  dsimp only
  cases failing : fails 0 with
  | true => exact .inl ⟨⟨some_, 0, by omega, failing⟩, .database, rfl⟩
  | false =>
      simp only [Bool.false_eq_true, if_false]
      rcases replaceRows_cases fails 1 stored.rows unique present with
        ⟨failure, failed, index, bound, fault⟩ | ⟨replaced, done, shown, sound⟩
      · refine .inl ⟨⟨some_, 1 + index, by omega, fault⟩, failure, ?_⟩
        split
        · next other => rw [failed] at other; cases other; rfl
        · next other => rw [failed] at other; cases other
      · right
        constructor
        · rintro ⟨-, step, bound, fault⟩
          cases step with
          | zero => rw [failing] at fault; cases fault
          | succ step =>
              have quiet := sound step (by omega)
              rw [Nat.add_comm, fault] at quiet
              cases quiet
        · split
          · next other => rw [done] at other; cases other
          · next other =>
              rw [done] at other
              cases other
              exact ⟨_, rfl, shown⟩

-- All or nothing

/-- A change of the secret either fails and changes nothing, or it keeps every plaintext and the
current secret alone reads it; it fails for a token that no secret reads or an update that fails.
-/
structure AllOrNothing (crypto : Cryptography σ) (current : String) (previous : Option String)
    (fails : Nat → Bool) (stored : GroupPasswords)
    (result : Except PasswordCiphertextError Nat × GroupPasswords)
    : Prop where
  unchanged : ∀ failure, result.1 = .error failure → result.2 = stored
  sameRows
    : ∀ count,
        result.1 = .ok count →
          ∀ groupId, groupId ∈ result.2.rows.keys ↔ groupId ∈ stored.rows.keys
  kept
    : ∀ count,
        result.1 = .ok count →
          ∀ groupId before,
            stored.rows.get? groupId = some before →
              ∃ after plaintext,
                result.2.rows.get? groupId = some after
                ∧ (∀ other, Readable crypto current previous before other ↔ other = plaintext)
                ∧ (PasswordCipher.new crypto current none).decrypt crypto after
                  = (some plaintext, false)
  settled
    : ∀ count,
        result.1 = .ok count →
          ∀ again seeds fails,
            again = previous ∨ again = none →
              rotateStoredPasswordCiphertexts crypto (.new crypto current again) seeds fails
                result.2
              = (.ok 0, result.2)
  raises
    : (∃ failure, result.1 = .error failure)
      ↔ (∃ groupId token,
            stored.rows.get? groupId = some token
            ∧ ∀ plaintext, ¬Readable crypto current previous token plaintext)
        ∨ UpdateFails fails
            (stored.rows.items.countP (fun entry =>
              ((PasswordCipher.new crypto current previous).decrypt crypto entry.2).2))

variable {stored : GroupPasswords}

theorem Renews.present (renews : Renews crypto cipher stored.rows.items pending)
    : ∀ update ∈ pending, update.1 ∈ stored.rows.keys :=
  fun _ member => renews.sublist.subset (List.mem_map_of_mem member)

theorem Renews.unique (renews : Renews crypto cipher stored.rows.items pending)
    : (pending.map Prod.fst).Nodup :=
  renews.sublist.nodup stored.rows.nodup

theorem rotate_settled (seeds : Nat → σ) (fails : Nat → Bool)
    (read
      : ∀ groupId token,
          stored.rows.get? groupId = some token →
            ∃ plaintext, cipher.decrypt crypto token = (some plaintext, false))
    : rotateStoredPasswordCiphertexts crypto cipher seeds fails stored = (.ok 0, stored) := by
  have each : ∀ entry ∈ stored.rows.items,
      ∃ plaintext, cipher.decrypt crypto entry.2 = (some plaintext, false) :=
    fun entry member => read entry.1 entry.2 (Dict.mem_items_iff.mp member)
  rcases pendingRotations_cases cipher seeds 0 stored.rows.items with
    ⟨-, entry, member, none_⟩ | ⟨pending, done, renews⟩
  · obtain ⟨plaintext, here⟩ := each entry member
    rw [here] at none_
    cases none_
  · have count : stored.rows.items.countP (fun entry => (cipher.decrypt crypto entry.2).2) = 0 := by
      rw [List.countP_eq_zero]
      intro entry member
      obtain ⟨plaintext, here⟩ := each entry member
      simp [here]
    have bare : pending = [] := List.length_eq_zero_iff.mp (renews.length.trans count)
    rw [rotateStoredPasswordCiphertexts, done, bare]
    rfl

theorem Renews.after (lawful : crypto.Lawful) (distinct : DistinctKeys crypto current previous)
    (renews
      : Renews crypto (.new crypto current previous) stored.rows.items pending)
    {after : GroupPasswords}
    (shown
      : ∀ groupId,
          after.rows.get? groupId
          = (lookupItems groupId pending).or (stored.rows.get? groupId))
    {groupId before : String} (old : stored.rows.get? groupId = some before)
    : ∃ token plaintext,
        after.rows.get? groupId = some token
        ∧ ((PasswordCipher.new crypto current previous).decrypt crypto before).1 = some plaintext
        ∧ Reads crypto current token plaintext := by
  obtain ⟨plaintext, ⟨read, none_⟩ | ⟨seed, read, found⟩⟩ :=
    renews.lookup stored.rows.nodup (Dict.mem_items_iff.mpr old)
  · obtain ⟨secret, _, reads, same⟩ := (decrypt_iff distinct).mp read
    have own : secret = current := by simpa using same
    refine ⟨before, plaintext, ?_, by rw [read], own ▸ reads⟩
    rw [shown, none_, old, Option.none_or]
  · exact ⟨_, plaintext, by rw [shown, found, Option.some_or], by rw [read],
      reads_encrypt lawful seed⟩

theorem Renews.sameRows (renews : Renews crypto cipher stored.rows.items pending)
    {after : GroupPasswords}
    (shown
      : ∀ groupId,
          after.rows.get? groupId
          = (lookupItems groupId pending).or (stored.rows.get? groupId))
    (groupId : String)
    : groupId ∈ after.rows.keys ↔ groupId ∈ stored.rows.keys := by
  rw [Dict.mem_keys_iff_isSome, shown, Option.isSome_or, Bool.or_eq_true,
    ← Dict.mem_keys_iff_isSome, or_iff_right_iff_imp]
  intro renewed
  by_contra absent
  have none_ : groupId ∉ pending.map Prod.fst := fun inside => absent (renews.sublist.subset inside)
  rw [lookupItems_eq_none none_] at renewed
  cases renewed

theorem decrypt_eq_none_iff (distinct : DistinctKeys crypto current previous)
    : ((PasswordCipher.new crypto current previous).decrypt crypto token).1 = none
      ↔ ∀ plaintext, ¬Readable crypto current previous token plaintext := by
  rw [Option.eq_none_iff_forall_ne_some]
  simp only [ne_eq, exists_decrypt_iff distinct]

/-- A rotation is all or nothing, whatever is stored and wherever the update fails. -/
theorem rotation_all_or_nothing (crypto : Cryptography σ) (lawful : crypto.Lawful)
    (current : String) (previous : Option String)
    (distinct : DistinctKeys crypto current previous) (seeds : Nat → σ) (fails : Nat → Bool)
    (stored : GroupPasswords)
    : AllOrNothing crypto current previous fails stored
        (rotateStoredPasswordCiphertexts crypto (.new crypto current previous) seeds fails
          stored) := by
  rw [rotateStoredPasswordCiphertexts]
  rcases pendingRotations_cases (.new crypto current previous) seeds 0 stored.rows.items with
    ⟨failed, entry, member, none_⟩ | ⟨pending, done, renews⟩
  · rw [failed]
    have unreadable := (decrypt_eq_none_iff distinct).mp none_
    have old := Dict.mem_items_iff.mp member
    exact
      { unchanged := fun _ _ => rfl
        sameRows := fun _ impossible => nomatch impossible
        kept := fun _ impossible => nomatch impossible
        settled := fun _ impossible => nomatch impossible
        raises := ⟨fun _ => .inl ⟨_, _, old, unreadable⟩, fun _ => ⟨_, rfl⟩⟩ }
  · rw [done]
    dsimp only
    have readable : ¬∃ groupId token,
        stored.rows.get? groupId = some token
        ∧ ∀ plaintext, ¬Readable crypto current previous token plaintext := by
      rintro ⟨groupId, token, old, unreadable⟩
      exact renews.readable (Dict.mem_items_iff.mpr old)
        ((decrypt_eq_none_iff distinct).mpr unreadable)
    have count := renews.length
    rcases @replaceGroupPasswordCiphertexts_cases fails pending stored renews.unique
        renews.present with
      ⟨faulty, failure, failed⟩ | ⟨sound, after, replaced, shown⟩
    · rw [failed]
      exact
        { unchanged := fun _ _ => rfl
          sameRows := fun _ impossible => nomatch impossible
          kept := fun _ impossible => nomatch impossible
          settled := fun _ impossible => nomatch impossible
          raises := ⟨fun _ => .inr (count ▸ faulty), fun _ => ⟨_, rfl⟩⟩ }
    · rw [replaced]
      have kept {groupId before : String} (old : stored.rows.get? groupId = some before) :=
        renews.after lawful distinct shown old
      refine
        { unchanged := fun _ impossible => nomatch impossible
          sameRows := ?_, kept := ?_, settled := ?_, raises := ?_ }
      · exact fun _ _ => renews.sameRows shown
      · intro _ _ groupId before old
        obtain ⟨token, plaintext, new, read, reads⟩ := kept old
        refine ⟨token, plaintext, new, ?_, decrypt_alone reads⟩
        intro other
        rw [← exists_decrypt_iff distinct, read, Option.some.injEq, eq_comm]
      · intro _ _ again seeds fails given
        refine rotate_settled seeds fails ?_
        intro groupId token new
        have member := (renews.sameRows shown groupId).mp (Dict.mem_keys_iff.mpr ⟨_, new⟩)
        obtain ⟨before, old⟩ := Dict.mem_keys_iff.mp member
        obtain ⟨token', plaintext, new', -, reads⟩ := kept old
        cases new.symm.trans new'
        have distinct' : DistinctKeys crypto current again := by
          rcases given with rfl | rfl
          · exact distinct
          · simp [DistinctKeys]
        exact ⟨plaintext, (decrypt_iff distinct').mpr ⟨current, .inl rfl, reads, by simp⟩⟩
      · constructor
        · rintro ⟨_, impossible⟩
          cases impossible
        · rintro (unreadable | faulty)
          · exact absurd unreadable readable
          · exact absurd (count ▸ faulty) sound

def digitValue (digit : Char) : Nat :=
  if digit.isDigit then digit.toNat - '0'.toNat else digit.toNat - 'a'.toNat + 10

def fromHex : List Char → Option (List UInt8)
  | [] => some []
  | [_] => none
  | high :: low :: digits =>
      (fromHex digits).map (UInt8.ofNat (16 * digitValue high + digitValue low) :: ·)

theorem fromHex_hexDigits (bytes : List UInt8)
    : fromHex (hexDigits ⟨bytes.toArray⟩) = some bytes := by
  have digit : ∀ number < 16, digitValue (Nat.digitChar number) = number := by decide
  induction bytes with
  | nil => rfl
  | cons byte bytes ih =>
      have bound : byte.toNat < 256 := byte.toNat_lt
      have split
          : hexDigits ⟨(byte :: bytes).toArray⟩
            = Nat.digitChar (byte.toNat / 16) :: Nat.digitChar (byte.toNat % 16)
              :: hexDigits ⟨bytes.toArray⟩ := by
        simp [hexDigits]
      have whole : 16 * (byte.toNat / 16) + byte.toNat % 16 = byte.toNat := by omega
      rw [split, fromHex, ih, digit _ (by omega), digit _ (by omega), whole, UInt8.ofNat_toNat]
      rfl

/-- A cipher that shows its key. -/
def shownCryptography : Cryptography Unit where
  sha256 := id
  encrypt key plaintext _ := String.ofList (hexDigits key ++ '.' :: hexDigits plaintext)
  decrypt key token :=
    ((splitFirst ['.'] token.toList).filter (fun parts => parts.1 = hexDigits key)).bind
      (fun parts => (fromHex parts.2).map (fun bytes => ⟨bytes.toArray⟩))

theorem shownCryptography_lawful : shownCryptography.Lawful where
  opens key plaintext seed := by
    have digits : ∀ number < 16, '.' ≠ Nat.digitChar number := by decide
    have plain : '.' ∉ hexDigits key := by
      intro member
      obtain ⟨number, bound, same⟩ := exists_of_mem_hexDigits member
      exact digits number bound same
    have split := splitFirst_single_iff.mpr
      ⟨@rfl _ (hexDigits key ++ '.' :: hexDigits plaintext), plain⟩
    have read := fromHex_hexDigits plaintext.data.toList
    simp only [shownCryptography, String.toList_ofList, split]
    simp [Option.filter, read]
  ascii key plaintext seed := by
    have digits : ∀ number < 16, (Nat.digitChar number).toNat < 128 := by decide
    have ascii (bytes : ByteArray) : (hexDigits bytes).all (·.toNat < 128) = true := by
      rw [List.all_eq_true]
      intro digit member
      obtain ⟨number, bound, rfl⟩ := exists_of_mem_hexDigits member
      exact decide_eq_true (digits number bound)
    simp only [isAscii, shownCryptography, String.toList_ofList, List.all_append, List.all_cons,
      ascii]
    decide

/-- The password of a group, as the secret before the current one has made it. -/
def oldPasswords : GroupPasswords where
  rows :=
    ⟨[("7", (PasswordCipher.new shownCryptography "old" none).encrypt shownCryptography "pw" ())],
      by simp⟩
  checked := by
    simp only [Dict.keys, List.map_cons, List.map_nil, List.mem_singleton, forall_eq]
    decide

theorem old_password_rotated
    : AllOrNothing shownCryptography "new" (some "old") (fun _ => false) oldPasswords
        (rotateStoredPasswordCiphertexts shownCryptography
          (.new shownCryptography "new" (some "old")) (fun _ => ()) (fun _ => false)
          oldPasswords) :=
  rotation_all_or_nothing shownCryptography shownCryptography_lawful "new" (some "old")
    (by
      intro secret given _
      cases given
      decide)
    (fun _ => ()) (fun _ => false) oldPasswords

-- The passwords over saves and restarts

def deleteGroupPassword (stored : GroupPasswords) (groupId : String) : GroupPasswords where
  rows := stored.rows.erase groupId
  checked other member := by
    refine stored.checked other (Dict.mem_keys_iff_isSome.mpr ?_)
    have kept := Dict.mem_keys_iff_isSome.mp member
    rw [Dict.get?_erase] at kept
    split at kept
    · cases kept
    · exact kept

/-- The plaintext of a stored token, which is stored anew when it is not of the current key. -/
def decryptSavedPassword (crypto : Cryptography σ) (cipher : PasswordCipher)
    (stored : GroupPasswords) (groupId token : String) (seed : σ)
    : Except String (Option String × GroupPasswords) :=
  match cipher.decrypt crypto token with
  | (none, _) => .ok (none, stored)
  | (some plaintext, false) => .ok (some plaintext, stored)
  | (some plaintext, true) =>
      (saveGroupPassword stored groupId (cipher.encrypt crypto plaintext seed)).map
        (some plaintext, ·)

/-- The stored passwords, the secret that they are under, and the secret before it, while there is
a process that was started with both.
-/
structure Vault where
  stored : GroupPasswords
  secret : String
  process : Option (Option String) := none

inductive VaultEvent (σ : Type)
  | start (secret : String) (previous : Option String) (seeds : Nat → σ) (fails : Nat → Bool)
  | savePassword (groupId plaintext : String) (seed : σ)
  | readPassword (groupId : String) (seed : σ)
  | deletePassword (groupId : String)

namespace Vault

variable (crypto : Cryptography σ) (vault : Vault)

/-- A process does not start unless all tokens are brought to its secret. -/
def start (secret : String) (previous : Option String) (seeds : Nat → σ) (fails : Nat → Bool)
    : Vault :=
  match rotateStoredPasswordCiphertexts crypto (.new crypto secret previous) seeds fails
      vault.stored with
  | (.ok _, stored) => ⟨stored, secret, some previous⟩
  | (.error _, stored) => { vault with stored, process := none }

def savePassword (previous : Option String) (groupId plaintext : String) (seed : σ) : Vault :=
  let token := (PasswordCipher.new crypto vault.secret previous).encrypt crypto plaintext seed
  { vault with
    stored :=
      match saveGroupPassword vault.stored groupId token with
      | .ok stored => stored
      | .error _ => vault.stored }

/-- What is read of a group, with the passwords as they are stored afterwards. -/
def readPassword (previous : Option String) (groupId : String) (seed : σ)
    : Except String (Option String × GroupPasswords) :=
  match vault.stored.rows.get? groupId with
  | none => .ok (none, vault.stored)
  | some token =>
      decryptSavedPassword crypto (.new crypto vault.secret previous) vault.stored groupId token
        seed

def step : Vault → VaultEvent σ → Option Vault
  | vault, .start secret previous seeds fails =>
      some (vault.start crypto secret previous seeds fails)
  | vault, .savePassword groupId plaintext seed =>
      vault.process.map (fun previous => vault.savePassword crypto previous groupId plaintext seed)
  | vault, .readPassword groupId seed =>
      vault.process.map (fun previous =>
        { vault with
          stored :=
            match vault.readPassword crypto previous groupId seed with
            | .ok (_, stored) => stored
            | .error _ => vault.stored })
  | vault, .deletePassword groupId =>
      vault.process.map (fun _ =>
        { vault with stored := deleteGroupPassword vault.stored groupId })

end Vault

/-- The password of every group after an event, by what was saved and deleted. -/
def remembered (saved : String → Option String) : VaultEvent σ → String → Option String
  | .savePassword groupId plaintext _ =>
      match requireGroupPasswordId groupId with
      | .ok groupId => Function.update saved groupId (some plaintext)
      | .error _ => saved
  | .deletePassword groupId => Function.update saved groupId none
  | _ => saved

/-- Where a process starts, the keys of its secrets and of the one before have different names. -/
def DistinctSecrets (crypto : Cryptography σ) (vault : Vault) : VaultEvent σ → Prop
  | .start secret previous _ _ =>
      DistinctKeys crypto secret previous
      ∧ ∀ used, InUse secret previous used → DistinctKeys crypto used (some vault.secret)
  | _ => True

/-- The tokens are those of the remembered passwords, under the secret of the vault. -/
structure Keeps (crypto : Cryptography σ) (vault : Vault) (saved : String → Option String)
    : Prop where
  absent
    : ∀ {groupId}, vault.stored.rows.get? groupId = none → saved groupId = none
  reads
    : ∀ {groupId token},
        vault.stored.rows.get? groupId = some token
        → ∃ plaintext,
            saved groupId = some plaintext ∧ Reads crypto vault.secret token plaintext
  distinct
    : ∀ {previous}, vault.process = some previous → DistinctKeys crypto vault.secret previous

section Vaults

variable {vault next : Vault} {saved : String → Option String}

theorem rotate_cases (lawful : crypto.Lawful) (distinct : DistinctKeys crypto current previous)
    (seeds : Nat → σ) (fails : Nat → Bool) (stored : GroupPasswords)
    : (∃ failure,
        rotateStoredPasswordCiphertexts crypto (.new crypto current previous) seeds fails stored
        = (.error failure, stored))
      ∨ ∃ count after,
          rotateStoredPasswordCiphertexts crypto (.new crypto current previous) seeds fails stored
            = (.ok count, after)
          ∧ (∀ groupId,
              (after.rows.get? groupId).isSome = (stored.rows.get? groupId).isSome)
          ∧ ∀ {groupId before},
              stored.rows.get? groupId = some before →
                ∃ token plaintext,
                  after.rows.get? groupId = some token
                  ∧ Readable crypto current previous before plaintext
                  ∧ Reads crypto current token plaintext := by
  rw [rotateStoredPasswordCiphertexts]
  rcases pendingRotations_cases (.new crypto current previous) seeds 0 stored.rows.items with
    ⟨failed, -⟩ | ⟨pending, done, renews⟩
  · exact .inl ⟨.unreadable, by rw [failed]⟩
  · rcases @replaceGroupPasswordCiphertexts_cases fails pending stored renews.unique
        renews.present with
      ⟨-, failure, failed⟩ | ⟨-, after, replaced, shown⟩
    · exact .inl ⟨.notReplaced failure, by rw [done]; dsimp only; rw [failed]⟩
    · refine .inr ⟨pending.length, after, by rw [done]; dsimp only; rw [replaced],
        fun groupId => ?_, fun old => ?_⟩
      · rw [Bool.eq_iff_iff, ← Dict.mem_keys_iff_isSome, ← Dict.mem_keys_iff_isSome]
        exact renews.sameRows shown groupId
      · obtain ⟨token, plaintext, new, read, reads⟩ := renews.after lawful distinct shown old
        exact ⟨token, plaintext, new, (exists_decrypt_iff distinct).mp read, reads⟩

theorem Reads.unique {secret other plaintext' : String}
    (distinct : DistinctKeys crypto other (some secret))
    (reads : Reads crypto secret token plaintext) (reads' : Reads crypto other token plaintext')
    : secret = other ∧ plaintext = plaintext' := by
  obtain ⟨body, rfl, opened⟩ := reads
  obtain ⟨body', same, opened'⟩ := reads'
  have split {secret body : String} :=
    splitTwice_iff.mpr ⟨toList_tokenOf (cipherKey crypto secret).keyId body,
      colon_notMem_tokenVersion, colon_notMem_keyId secret⟩
  have parts := (split.symm.trans (congrArg _ (congrArg String.toList same))).trans split
  simp only [Option.some.injEq, Prod.mk.injEq, true_and, String.toList_inj] at parts
  obtain ⟨names, rfl⟩ := parts
  have own : secret = other := by
    by_contra differ
    exact distinct secret rfl differ names
  subst own
  exact ⟨rfl, Option.some.inj (opened.symm.trans opened')⟩

theorem Keeps.start (lawful : crypto.Lawful) (keeps : Keeps crypto vault saved) {secret : String}
    {previous : Option String} (seeds : Nat → σ) (fails : Nat → Bool)
    (distinct : DistinctSecrets crypto vault (.start secret previous seeds fails))
    : Keeps crypto (vault.start crypto secret previous seeds fails) saved := by
  obtain ⟨pair, before⟩ := distinct
  unfold Vault.start
  rcases rotate_cases lawful pair seeds fails vault.stored with
    ⟨failure, failed⟩ | ⟨count, after, done, rows, shown⟩
  · rw [failed]
    exact ⟨keeps.absent, keeps.reads, fun running => nomatch running⟩
  · rw [done]
    refine ⟨fun {groupId} none_ => keeps.absent ?_, fun {groupId token} found => ?_, ?_⟩
    · have none_ : after.rows.get? groupId = none := none_
      simpa [none_] using (rows groupId).symm
    · have found : after.rows.get? groupId = some token := found
      have old := rows groupId
      rw [found, eq_comm] at old
      obtain ⟨before_, old⟩ := Option.isSome_iff_exists.mp old
      obtain ⟨plaintext, kept, reads⟩ := keeps.reads old
      obtain ⟨token', plaintext', new, ⟨used, inUse, reads'⟩, anew⟩ := shown old
      cases found.symm.trans new
      obtain ⟨-, rfl⟩ := reads.unique (before used inUse) reads'
      exact ⟨plaintext, kept, anew⟩
    · rintro _ ⟨⟩
      exact pair

theorem saveGroupPassword_cases (stored : GroupPasswords) (groupId token : String)
    : (∃ message,
        requireGroupPasswordId groupId = .error message
        ∧ saveGroupPassword stored groupId token = .error message)
      ∨ ∃ checked after,
          requireGroupPasswordId groupId = .ok checked
          ∧ saveGroupPassword stored groupId token = .ok after
          ∧ after.rows = stored.rows.set checked token := by
  unfold saveGroupPassword
  split
  · next message refused => exact .inl ⟨message, refused, rfl⟩
  · next checked passed => exact .inr ⟨checked, _, passed, rfl, rfl⟩

theorem Keeps.write (keeps : Keeps crypto vault saved) {after : GroupPasswords}
    {groupId : String} (rows : after.rows = vault.stored.rows.set groupId token)
    (reads : Reads crypto vault.secret token plaintext)
    : Keeps crypto { vault with stored := after }
        (Function.update saved groupId (some plaintext)) := by
  refine ⟨fun {other} none_ => ?_, fun {other found} here => ?_, keeps.distinct⟩
  · simp only [rows, Dict.get?_set] at none_
    split at none_
    · cases none_
    · next differs => rw [Function.update_of_ne differs, keeps.absent none_]
  · simp only [rows, Dict.get?_set] at here
    split at here
    · next same =>
        cases here
        exact ⟨plaintext, by rw [same, Function.update_self], reads⟩
    · next differs =>
        rw [Function.update_of_ne differs]
        exact keeps.reads here

theorem Keeps.readPassword (keeps : Keeps crypto vault saved) {previous : Option String}
    (running : vault.process = some previous) (groupId : String) (seed : σ)
    : vault.readPassword crypto previous groupId seed = .ok (saved groupId, vault.stored) := by
  unfold Vault.readPassword
  cases found : vault.stored.rows.get? groupId with
  | none => rw [keeps.absent found]
  | some token =>
      obtain ⟨plaintext, kept, reads⟩ := keeps.reads found
      have read := (decrypt_iff (keeps.distinct running)).mpr
        ⟨vault.secret, .inl rfl, reads, (decide_eq_false (not_not.mpr rfl)).symm⟩
      simp only [decryptSavedPassword, read, kept]

/-- One step, by cases on the events. -/
theorem Keeps.step (lawful : crypto.Lawful) (keeps : Keeps crypto vault saved)
    {event : VaultEvent σ} (distinct : DistinctSecrets crypto vault event)
    (taken : vault.step crypto event = some next)
    : Keeps crypto next (remembered saved event) := by
  cases event with
  | start secret previous seeds fails =>
      cases taken
      exact keeps.start lawful seeds fails distinct
  | savePassword groupId plaintext seed =>
      obtain ⟨previous, -, rfl⟩ := Option.map_eq_some_iff.mp taken
      have token := @reads_encrypt _ crypto vault.secret previous plaintext lawful seed
      unfold Vault.savePassword remembered
      rcases saveGroupPassword_cases vault.stored groupId
          ((PasswordCipher.new crypto vault.secret previous).encrypt crypto plaintext seed) with
        ⟨message, refused, failed⟩ | ⟨checked, after, passed, done, rows⟩
      · simpa only [refused, failed] using keeps
      · simpa only [passed, done] using keeps.write rows token
  | readPassword groupId seed =>
      obtain ⟨previous, running, rfl⟩ := Option.map_eq_some_iff.mp taken
      rw [keeps.readPassword running]
      exact keeps
  | deletePassword groupId =>
      obtain ⟨previous, -, rfl⟩ := Option.map_eq_some_iff.mp taken
      refine ⟨fun {other} none_ => ?_, fun {other found} here => ?_, keeps.distinct⟩
      · simp only [deleteGroupPassword, Dict.get?_erase] at none_
        by_cases same : other = groupId
        · rw [same, remembered, Function.update_self]
        · rw [if_neg same] at none_
          rw [remembered, Function.update_of_ne same, keeps.absent none_]
      · simp only [deleteGroupPassword, Dict.get?_erase] at here
        split at here
        · cases here
        · next differs =>
            rw [remembered, Function.update_of_ne differs]
            exact keeps.reads here

/-- A vault in which nothing is stored yet. -/
def Vault.empty (secret : String) : Vault := ⟨⟨∅, fun _ member => nomatch member⟩, secret, none⟩

theorem Keeps.run (lawful : crypto.Lawful) {events : List (VaultEvent σ)}
    (run : Run (Vault.step crypto) (DistinctSecrets crypto) vault events next)
    (keeps : Keeps crypto vault saved)
    : Keeps crypto next (events.foldl remembered saved) := by
  induction run generalizing saved with
  | nil => exact keeps
  | cons distinct taken _ ih => exact ih (keeps.step lawful distinct taken)

end Vaults

/-- Over every run of starts that fail or succeed, saves, reads and deletions, the secret that the
vault is under opens for each group the password that was saved last, and nothing else is stored.
A running process reads these passwords, and has no token to make anew.
-/
theorem passwords_survive_restarts (crypto : Cryptography σ) (lawful : crypto.Lawful)
    {secret : String} {events : List (VaultEvent σ)} {vault : Vault}
    (run : Run (Vault.step crypto) (DistinctSecrets crypto) (.empty secret) events vault)
    (groupId : String)
    : let saved := events.foldl remembered (fun _ => none)
      (vault.stored.rows.get? groupId).map
          ((PasswordCipher.new crypto vault.secret none).decrypt crypto)
        = (saved groupId).map (fun plaintext => (some plaintext, false))
      ∧ ∀ previous seed,
          vault.process = some previous →
            vault.readPassword crypto previous groupId seed
            = .ok (saved groupId, vault.stored) := by
  have keeps :=
    @Keeps.run _ _ _ _ (fun _ => none) lawful _ run
      ⟨fun _ => rfl, fun found => (nomatch found), fun running => (nomatch running)⟩
  refine ⟨?_, fun previous seed running => keeps.readPassword running groupId seed⟩
  cases found : vault.stored.rows.get? groupId with
  | none => rw [keeps.absent found, Option.map_none, Option.map_none]
  | some token =>
      obtain ⟨plaintext, kept, reads⟩ := keeps.reads found
      rw [kept, Option.map_some, Option.map_some, decrypt_alone reads]

/-- A password is saved, and then the secret changes. -/
def changedSecret : List (VaultEvent Unit) :=
  [.start "old" none (fun _ => ()) (fun _ => false), .savePassword "7" "pw" (),
    .start "new" (some "old") (fun _ => ()) (fun _ => false)]

theorem password_survives_changedSecret
    : ∃ vault,
        Run (Vault.step shownCryptography) (DistinctSecrets shownCryptography) (.empty "old")
          changedSecret vault
        ∧ (vault.stored.rows.get? "7").map
            ((PasswordCipher.new shownCryptography vault.secret none).decrypt shownCryptography)
          = some (some "pw", false) := by
  have distinct {current previous : String}
      (different : (cipherKey shownCryptography previous).keyId
        ≠ (cipherKey shownCryptography current).keyId)
      : DistinctKeys shownCryptography current (some previous) := by
    rintro secret ⟨⟩ _
    exact different
  have run
      : ∃ vault,
          Run (Vault.step shownCryptography) (DistinctSecrets shownCryptography) (.empty "old")
            changedSecret vault := by
    refine ⟨_, .cons ⟨?_, ?_⟩ rfl (.cons trivial rfl (.cons ⟨distinct (by decide), ?_⟩ rfl
      (.nil _)))⟩
    · rintro secret ⟨⟩
    · rintro used (rfl | ⟨⟨⟩, -⟩) _ ⟨⟩ other
      exact absurd rfl other
    · rintro used (rfl | ⟨⟨⟩, -⟩)
      · exact distinct (by decide)
      · rintro _ ⟨⟩ other
        exact absurd rfl other
  obtain ⟨vault, run⟩ := run
  refine ⟨vault, run, ?_⟩
  have opened := (passwords_survive_restarts shownCryptography shownCryptography_lawful run "7").1
  refine opened.trans ?_
  have passed : requireGroupPasswordId "7" = .ok "7" := by decide
  simp [changedSecret, remembered, passed]

end OctoHubs.UserPasswords
