import OctoHubs.Connections.Redaction
import OctoHubs.Library.Equality
import OctoHubs.Library.Sealing

/-! The settings as they are stored: every reusable credential is replaced by an envelope with
its ciphertext, and the rest of the document is kept.
-/

namespace OctoHubs.AppSettings

open OctoHubs.Library OctoHubs.Connections

structure AppSettingsCryptoError where
  message : String

/-- How keys and addresses are read. -/
structure SecretRules extends UrlRules where
  upper : String → String

def envelopeKey : String := "__octohubs_secret_envelope__"

def envelopeVersion : Int := 1

def excludedDerivedSecretKeys : List String := ["EVENT_BRIDGE_CREDENTIALS"]

def sensitiveNames : List String :=
  ["api_key", "api_keys", "credential", "password", "passwd", "private_key", "secret", "token"]

section Secrets

variable (rules : SecretRules)

def endsWith (text ending : String) : Bool := ending.toList.isSuffixOf text.toList

/-- The words of a key in small letters, with an underscore between them. -/
def normalizedKey (key : Option String) : String :=
  let text := String.ofList (withCamelBoundaries (key.getD "").toList)
  let words :=
    (rules.lower text).toList.splitOnP (fun letter => !letter.isLower && !letter.isDigit)
  "_".intercalate ((words.filter (· ≠ [])).map String.ofList)

/-- Whether the words of a key name a secret. -/
def namesSecret (normalized : String) : Bool :=
  let compact := String.ofList (normalized.toList.filter (· ≠ '_'))
  if endsWith normalized "_configured" then false
  else
    normalized ∈ sensitiveNames
    || sensitiveNames.any (fun name => endsWith normalized ("_" ++ name))
    || compact ∈ ["accesstoken", "apikey", "clientsecret", "privatekey", "refreshtoken",
        "sslpassword"]

def isSensitiveKey (key : Option String) : Bool :=
  if rules.upper (key.getD "") ∈ excludedDerivedSecretKeys then false
  else namesSecret (normalizedKey rules key)

/-- The names and values of a query; a part without a value has an empty one. -/
def parseQsl (query : String) : List (String × String) :=
  ((splitAt '&' query).filter (· ≠ "")).map (fun part =>
    (rules.unquotePlus (String.ofList (part.toList.takeWhile (· ≠ '='))),
      rules.unquotePlus (String.ofList ((part.toList.dropWhile (· ≠ '=')).drop 1))))

def parameterStringHasSecret (value : String) : Bool :=
  (parseQsl rules (String.ofList (value.toList.dropWhile (· = '?')))).any (fun (key, item) =>
    isSensitiveKey rules (some key) && item ≠ "")

def valueContainsEmbeddedSecret (key : Option String) (value : Json) : Bool :=
  match value with
  | .text value =>
      let normalized := normalizedKey rules key
      if value = "" then false
      else if endsWith normalized "url" then connectionUrlHasCredentials rules.toUrlRules value
      else if endsWith normalized "params" then parameterStringHasSecret rules value
      else false
  | _ => false

def isEnvelope (value : Json) : Bool :=
  value.asDict?.any (fun fields => (fields.get? envelopeKey).isSome)

/-- The value is neither nothing nor an empty text, list or dictionary. -/
def nonemptySecret : Json → Bool
  | .null => false
  | .text value => value ≠ ""
  | .list length _ => length ≠ 0
  | .object keys _ _ => keys ≠ []
  | _ => true

def requiresEncryption (key : Option String) (value : Json) : Bool :=
  nonemptySecret value
  && (isSensitiveKey rules key || valueContainsEmbeddedSecret rules key value)

end Secrets

structure SettingsCipher where
  encrypt : String → String
  decrypt : String → Option String × Bool

/-- Values as texts of JSON, with sorted keys; not every value has one. -/
structure JsonText where
  dumps? : Json → Option String
  loads? : String → Option Json

variable (cipher : SettingsCipher) (json : JsonText)

def decryptEnvelope (value : Document) : Except AppSettingsCryptoError (Json × Bool) := do
  let some envelope := (Document.field value envelopeKey).asDict?
    | .error ⟨"Envelope segreto app_settings non valido"⟩
  if !(Document.field envelope "version").equals (.int envelopeVersion) then
    .error ⟨"Versione envelope app_settings non supportata"⟩
  else
    let .text ciphertext := Document.field envelope "ciphertext"
      | .error ⟨"Ciphertext app_settings non valido"⟩
    if ciphertext = "" then .error ⟨"Ciphertext app_settings non valido"⟩
    else
      let (some plaintext, needsRotation) := cipher.decrypt ciphertext
        | .error
            ⟨"Segreti app_settings non decifrabili: ripristina PASSWORD_SECRET oppure "
              ++ "configura PASSWORD_SECRET_PREVIOUS prima del riavvio"⟩
      let some value := json.loads? plaintext
        | .error ⟨"Payload segreto app_settings non valido"⟩
      .ok (value, needsRotation)

def envelope (ciphertext : String) : Json :=
  .ofDict ((∅ : Document).setDict envelopeKey
    (((∅ : Document).set "version" (.int envelopeVersion)).set "ciphertext" (.text ciphertext)))

/-- Take the steps in order; the first error is the outcome. -/
def sequence {ε α : Type} : {length : Nat} → (Fin length → Except ε α) → Except ε (Fin length → α)
  | 0, _ => .ok Fin.elim0
  | _ + 1, steps => do
      let first ← steps 0
      let rest ← sequence (fun index => steps index.succ)
      .ok (Fin.cons first rest)

theorem sequence_eq_ok_iff {ε α : Type} {length : Nat} {steps : Fin length → Except ε α}
    {results : Fin length → α}
    : sequence steps = .ok results ↔ ∀ index, steps index = .ok (results index) := by
  induction length with
  | zero =>
      refine iff_of_true ?_ (fun index => index.elim0)
      rw [sequence]
      congr 1
      exact funext (fun index => index.elim0)
  | succ length ih =>
      rw [sequence, bind_eq_ok_iff]
      constructor
      · intro ⟨first, head, rest⟩
        obtain ⟨others, tail, same⟩ := bind_eq_ok_iff.mp rest
        cases same
        exact Fin.cases head (ih.mp tail)
      · intro each
        refine ⟨results 0, each 0, bind_eq_ok_iff.mpr ⟨fun index => results index.succ, ?_, ?_⟩⟩
        · exact ih.mpr (fun index => each index.succ)
        · exact congrArg Except.ok (Fin.cons_self_tail results)

variable (rules : SecretRules)

/-- A value of the settings as it is stored. -/
def encode (key : Option String) (value : Json) : Except AppSettingsCryptoError Json :=
  if isEnvelope value then do
    let _ ← decryptEnvelope cipher json (value.asDict?.getD ∅)
    .ok value
  else if requiresEncryption rules key value then
    match json.dumps? value with
    | none => .error ⟨"Valore segreto app_settings non serializzabile"⟩
    | some plaintext => .ok (envelope (cipher.encrypt plaintext))
  else
    match value with
    | .object keys unique values => do
        let encoded ← sequence (fun index => encode (some (keys.get index)) (values index))
        .ok (.object keys unique encoded)
    | .list length values => do
        let encoded ← sequence (fun index => encode none (values index))
        .ok (.list length encoded)
    | value => .ok value

/-- A value as it is read, and whether it has to be stored again. -/
def decode (key : Option String) (value : Json) : Except AppSettingsCryptoError (Json × Bool) :=
  if isEnvelope value then decryptEnvelope cipher json (value.asDict?.getD ∅)
  else if requiresEncryption rules key value then .ok (value, true)
  else
    match value with
    | .object keys unique values => do
        let decoded ← sequence (fun index => decode (some (keys.get index)) (values index))
        .ok
          (.object keys unique (fun index => (decoded index).1),
            (List.finRange keys.length).any (fun index => (decoded index).2))
    | .list length values => do
        let decoded ← sequence (fun index => decode none (values index))
        .ok
          (.list length (fun index => (decoded index).1),
            (List.finRange length).any (fun index => (decoded index).2))
    | value => .ok (value, false)

attribute [local simp] encode decode

def encodeAppSettingsDocument (document : Document) : Except AppSettingsCryptoError Document := do
  let encoded ← encode cipher json rules none (.ofDict document)
  match encoded.asDict? with
  | some encoded => .ok encoded
  | none => .error ⟨"Documento app_settings non valido"⟩

def decodeAppSettingsDocument (document : Document)
    : Except AppSettingsCryptoError (Document × Bool) := do
  let (decoded, rewriteRequired) ← decode cipher json rules none (.ofDict document)
  match decoded.asDict? with
  | some decoded => .ok (decoded, rewriteRequired)
  | none => .error ⟨"Documento app_settings non valido"⟩

/-- The values that are replaced by envelopes. -/
def secrets (key : Option String) (value : Json) : List Json :=
  if requiresEncryption rules key value then [value]
  else
    match value with
    | .object keys _ values =>
        (List.finRange keys.length).flatMap (fun index =>
          secrets (some (keys.get index)) (values index))
    | .list length values =>
        (List.finRange length).flatMap (fun index => secrets none (values index))
    | _ => []

/-- What is encrypted now is decrypted with the same key. -/
structure SettingsCipher.Invertible : Prop where
  decrypt_encrypt (plaintext : String)
    : cipher.decrypt (cipher.encrypt plaintext) = (some plaintext, false)
  encrypt_ne (plaintext : String) : cipher.encrypt plaintext ≠ ""

def JsonText.Reads (value : Json) : Prop :=
  ∃ plaintext read,
    json.dumps? value = some plaintext
    ∧ json.loads? plaintext = some read
    ∧ read.equals value = true

/-- No field at any depth holds a secret outside an envelope. -/
def Concealed (value : Json) : Prop :=
  value.EveryField (fun key field =>
    requiresEncryption rules (some key) field = true → isEnvelope field = true)

structure Stored (key : Option String) (value encoded : Json) : Prop where
  decoded
    : ∃ decoded,
        decode cipher json rules key encoded = .ok (decoded, false)
        ∧ decoded.equals value = true
  concealed : Concealed rules encoded
  sealed : requiresEncryption rules key encoded = true → isEnvelope encoded = true
  unchanged : encode cipher json rules key encoded = .ok encoded

variable {cipher json rules}

theorem isEnvelope_envelope (ciphertext : String) : isEnvelope (envelope ciphertext) = true := by
  rw [isEnvelope, envelope, Json.asDict?_ofDict]
  simp [Document.setDict]

theorem decryptEnvelope_envelope {ciphertext plaintext : String} {needsRotation : Bool}
    {read : Json} (filled : ciphertext ≠ "")
    (opened : cipher.decrypt ciphertext = (some plaintext, needsRotation))
    (loaded : json.loads? plaintext = some read)
    : decryptEnvelope cipher json ((envelope ciphertext).asDict?.getD ∅)
      = .ok (read, needsRotation) := by
  rw [envelope, Json.asDict?_ofDict, Option.getD_some]
  simp [decryptEnvelope, Document.setDict, Document.field_set, Json.equals_refl, filled, opened,
    loaded]

def asciiWords (key : String) : String :=
  let letters := (withCamelBoundaries key.toList).map Char.toLower
  let words := letters.splitOnP (fun letter => !letter.isLower && !letter.isDigit)
  "_".intercalate ((words.filter (· ≠ [])).map String.ofList)

theorem normalizedKey_of_ascii {key : String}
    (ascii : (withCamelBoundaries key.toList).all (·.toNat < 128))
    : normalizedKey rules (some key) = asciiWords key := by
  have lowered := rules.lower_ascii (String.ofList (withCamelBoundaries key.toList)) (by
    intro letter member
    rw [String.toList_ofList] at member
    exact of_decide_eq_true (List.all_eq_true.mp ascii letter member))
  rw [String.toList_ofList] at lowered
  simp only [normalizedKey, Option.getD_some, lowered, String.toList_ofList, asciiWords]

theorem requiresEncryption_eq_false {key : String} {value : Json}
    (ascii : (withCamelBoundaries key.toList).all (·.toNat < 128))
    (plain
      : (!namesSecret (asciiWords key) && !endsWith (asciiWords key) "url"
          && !endsWith (asciiWords key) "params") = true)
    : requiresEncryption rules (some key) value = false := by
  simp only [Bool.and_eq_true, Bool.not_eq_true'] at plain
  obtain ⟨⟨insensitive, noUrl⟩, noParams⟩ := plain
  have keyPlain : isSensitiveKey rules (some key) = false := by
    rw [isSensitiveKey, normalizedKey_of_ascii ascii, insensitive, ite_self]
  have valuePlain : valueContainsEmbeddedSecret rules (some key) value = false := by
    unfold valueContainsEmbeddedSecret
    split
    · simp only [normalizedKey_of_ascii ascii, noUrl, noParams, Bool.false_eq_true, if_false,
        ite_self]
    · rfl
  rw [requiresEncryption, keyPlain, valuePlain, Bool.or_self, Bool.and_false]

theorem concealed_envelope (ciphertext : String) : Concealed rules (envelope ciphertext) := by
  apply Json.everyField_ofDict
  intro key value found
  rw [Document.setDict, Dict.get?_set] at found
  split at found
  · next same =>
      cases found
      subst same
      constructor
      · intro required
        rw [requiresEncryption_eq_false (by decide) (by decide)] at required
        cases required
      · apply Json.everyField_ofDict
        intro key value found
        rw [Dict.get?_set, Dict.get?_set] at found
        split at found
        · next same =>
            cases found
            subst same
            refine ⟨?_, trivial⟩
            intro required
            rw [requiresEncryption_eq_false (by decide) (by decide)] at required
            cases required
        · split at found
          · next same =>
              cases found
              subst same
              refine ⟨?_, trivial⟩
              intro required
              rw [requiresEncryption_eq_false (by decide) (by decide)] at required
              cases required
          · cases found
  · cases found

theorem isEnvelope_object {keys : List String} {unique : keys.Nodup}
    {values : Fin keys.length → Json}
    : isEnvelope (.object keys unique values) = decide (envelopeKey ∈ keys) := by
  obtain ⟨fields, shape⟩
      : ∃ fields, (Json.object keys unique values).asDict? = some fields :=
    ⟨_, rfl⟩
  rw [isEnvelope, shape, Option.any_some, ← Json.keys_of_asDict? shape, Bool.eq_iff_iff,
    decide_eq_true_eq, Dict.mem_keys_iff_isSome]

theorem isEnvelope_eq_false {value : Json} (plain : value.EveryKey (· ≠ envelopeKey))
    : isEnvelope value = false := by
  cases value with
  | object keys unique values =>
      rw [isEnvelope_object]
      apply decide_eq_false
      intro member
      obtain ⟨index, same⟩ := List.mem_iff_get.mp member
      exact (plain index).1 same
  | _ => rfl

theorem encode_object {key : Option String} {keys : List String} {unique : keys.Nodup}
    {values encoded : Fin keys.length → Json} (plain : envelopeKey ∉ keys)
    (exposed : requiresEncryption rules key (.object keys unique values) = false)
    (each : ∀ index, encode cipher json rules (some (keys.get index)) (values index)
      = .ok (encoded index))
    : encode cipher json rules key (.object keys unique values)
      = .ok (.object keys unique encoded) := by
  rw [encode, isEnvelope_object, decide_eq_false plain, exposed]
  simp only [Bool.false_eq_true, if_false]
  rw [sequence_eq_ok_iff.mpr each]
  rfl

theorem encode_list {key : Option String} {length : Nat} {values encoded : Fin length → Json}
    (exposed : requiresEncryption rules key (.list length values) = false)
    (each : ∀ index, encode cipher json rules none (values index) = .ok (encoded index))
    : encode cipher json rules key (.list length values) = .ok (.list length encoded) := by
  rw [encode, exposed]
  simp only [isEnvelope, Json.asDict?, Option.any_none, Bool.false_eq_true, if_false]
  rw [sequence_eq_ok_iff.mpr each]
  rfl

theorem decode_object {key : Option String} {keys : List String} {unique : keys.Nodup}
    {values decoded : Fin keys.length → Json} (plain : envelopeKey ∉ keys)
    (exposed : requiresEncryption rules key (.object keys unique values) = false)
    (each : ∀ index, decode cipher json rules (some (keys.get index)) (values index)
      = .ok (decoded index, false))
    : decode cipher json rules key (.object keys unique values)
      = .ok (.object keys unique decoded, false) := by
  rw [decode, isEnvelope_object, decide_eq_false plain, exposed]
  simp only [Bool.false_eq_true, if_false]
  rw [sequence_eq_ok_iff.mpr each]
  simp [bind, Except.bind]

theorem decode_list {key : Option String} {length : Nat} {values decoded : Fin length → Json}
    (exposed : requiresEncryption rules key (.list length values) = false)
    (each : ∀ index, decode cipher json rules none (values index) = .ok (decoded index, false))
    : decode cipher json rules key (.list length values)
      = .ok (.list length decoded, false) := by
  rw [decode, exposed]
  simp only [isEnvelope, Json.asDict?, Option.any_none, Bool.false_eq_true, if_false]
  rw [sequence_eq_ok_iff.mpr each]
  simp [bind, Except.bind]

theorem stored_secret (invertible : cipher.Invertible) {key : Option String} {value : Json}
    (plain : isEnvelope value = false) (required : requiresEncryption rules key value = true)
    (reads : json.Reads value)
    : ∃ encoded,
        encode cipher json rules key value = .ok encoded
        ∧ Stored cipher json rules key value encoded := by
  obtain ⟨plaintext, read, dumped, loaded, same⟩ := reads
  have shut := isEnvelope_envelope (cipher.encrypt plaintext)
  have opens := decryptEnvelope_envelope (invertible.encrypt_ne plaintext)
    (invertible.decrypt_encrypt plaintext) loaded
  refine ⟨envelope (cipher.encrypt plaintext), ?_, ?_, concealed_envelope _, fun _ => shut, ?_⟩
  · rw [encode.eq_def, plain, required, dumped]
    rfl
  · refine ⟨read, ?_, same⟩
    rw [decode.eq_def, if_pos shut]
    exact opens
  · rw [encode.eq_def, if_pos shut, opens]
    rfl

theorem stored_unchanged {key : Option String} {value : Json}
    (exposed : requiresEncryption rules key value = false)
    (encoded : encode cipher json rules key value = .ok value)
    (decoded : decode cipher json rules key value = .ok (value, false))
    (concealed : Concealed rules value)
    : ∃ encoded,
        encode cipher json rules key value = .ok encoded
        ∧ Stored cipher json rules key value encoded := by
  refine ⟨value, encoded, ⟨value, decoded, Json.equals_refl value⟩, concealed, ?_, encoded⟩
  intro required
  rw [exposed] at required
  cases required

theorem stored_object {key : Option String} {keys : List String} {unique : keys.Nodup}
    {values : Fin keys.length → Json} (plain : envelopeKey ∉ keys)
    (exposed : requiresEncryption rules key (.object keys unique values) = false)
    (fields
      : ∀ index, ∃ encoded,
          encode cipher json rules (some (keys.get index)) (values index) = .ok encoded
          ∧ Stored cipher json rules (some (keys.get index)) (values index) encoded)
    : ∃ encoded : Fin keys.length → Json,
        encode cipher json rules key (.object keys unique values)
          = .ok (.object keys unique encoded)
        ∧ Stored cipher json rules key (.object keys unique values)
            (.object keys unique encoded) := by
  choose encoded stores stored using fields
  choose decoded opens same using fun index => (stored index).decoded
  refine ⟨encoded, encode_object plain exposed stores, ?_, ?_, ?_, ?_⟩
  · refine ⟨.object keys unique decoded, decode_object plain exposed opens, ?_⟩
    obtain ⟨fields, shape⟩
        : ∃ fields, (Json.object keys unique decoded).asDict? = some fields :=
      ⟨_, rfl⟩
    obtain ⟨others, otherShape⟩
        : ∃ others, (Json.object keys unique values).asDict? = some others :=
      ⟨_, rfl⟩
    exact Json.equals_of_values shape otherShape same
  · intro index
    exact ⟨(stored index).sealed, (stored index).concealed⟩
  · intro required
    exact absurd (exposed.symm.trans required) Bool.false_ne_true
  · exact encode_object plain exposed (fun index => (stored index).unchanged)

theorem stored_list {key : Option String} {length : Nat} {values : Fin length → Json}
    (exposed : requiresEncryption rules key (.list length values) = false)
    (items
      : ∀ index, ∃ encoded,
          encode cipher json rules none (values index) = .ok encoded
          ∧ Stored cipher json rules none (values index) encoded)
    : ∃ encoded,
        encode cipher json rules key (.list length values) = .ok encoded
        ∧ Stored cipher json rules key (.list length values) encoded := by
  choose encoded stores stored using items
  choose decoded opens same using fun index => (stored index).decoded
  refine ⟨.list length encoded, encode_list exposed stores, ?_, ?_, ?_, ?_⟩
  · exact ⟨.list length decoded, decode_list exposed opens,
      Json.equals_list_iff.mpr ⟨values, rfl, same⟩⟩
  · exact fun index => (stored index).concealed
  · intro required
    exact absurd (exposed.symm.trans required) Bool.false_ne_true
  · exact encode_list exposed (fun index => (stored index).unchanged)

/-- Every value is stored, by induction on its structure. -/
theorem encode_stored (invertible : cipher.Invertible) {key : Option String} {value : Json}
    (plain : value.EveryKey (· ≠ envelopeKey))
    (readable : ∀ secret ∈ secrets rules key value, json.Reads secret)
    : ∃ encoded,
        encode cipher json rules key value = .ok encoded
        ∧ Stored cipher json rules key value encoded := by
  have noEnvelope := isEnvelope_eq_false plain
  induction value generalizing key with
  | object keys unique values ih =>
      rw [secrets.eq_def] at readable
      split at readable
      · next required =>
          exact stored_secret invertible noEnvelope required
            (readable _ (List.mem_singleton_self _))
      · next exposed =>
          rw [isEnvelope_object] at noEnvelope
          obtain ⟨encoded, stored⟩ :=
            stored_object (of_decide_eq_false noEnvelope) (Bool.eq_false_of_not_eq_true exposed)
              (fun index =>
                ih index (plain index).2
                  (fun secret member =>
                    readable secret (List.mem_flatMap.mpr
                      ⟨index, List.mem_finRange index, member⟩))
                  (isEnvelope_eq_false (plain index).2))
          exact ⟨_, stored⟩
  | list length values ih =>
      rw [secrets.eq_def] at readable
      split at readable
      · next required =>
          exact stored_secret invertible noEnvelope required
            (readable _ (List.mem_singleton_self _))
      · next exposed =>
          exact stored_list (Bool.eq_false_of_not_eq_true exposed) (fun index =>
            ih index (plain index)
              (fun secret member =>
                readable secret (List.mem_flatMap.mpr ⟨index, List.mem_finRange index, member⟩))
              (isEnvelope_eq_false (plain index)))
  | _ =>
      rw [secrets.eq_def] at readable
      split at readable
      · next required =>
          exact stored_secret invertible noEnvelope required
            (readable _ (List.mem_singleton_self _))
      · next exposed =>
          have open_ := Bool.eq_false_of_not_eq_true exposed
          apply stored_unchanged open_
          · rw [encode.eq_def, noEnvelope, open_]
            rfl
          · rw [decode.eq_def, noEnvelope, open_]
            rfl
          · trivial

theorem isDict_encoded {key : Option String} {value encoded : Json} (shape : value.isDict = true)
    (stores : encode cipher json rules key value = .ok encoded)
    : encoded.isDict = true := by
  rw [encode.eq_def] at stores
  split at stores
  · obtain ⟨_, -, same⟩ := bind_eq_ok_iff.mp stores
    cases same
    exact shape
  · split at stores
    · split at stores
      · cases stores
      · cases stores
        exact Json.isDict_ofDict _
    · cases value with
      | object keys unique values =>
          obtain ⟨fields, -, same⟩ := bind_eq_ok_iff.mp stores
          cases same
          rfl
      | _ => cases shape

theorem encode_document (invertible : cipher.Invertible) {document : Document}
    (plain : (Json.ofDict document).EveryKey (· ≠ envelopeKey))
    (readable : ∀ secret ∈ secrets rules none (.ofDict document), json.Reads secret)
    : ∃ encoded,
        encodeAppSettingsDocument cipher json rules document = .ok encoded
        ∧ Stored cipher json rules none (.ofDict document) (.ofDict encoded) := by
  obtain ⟨value, stores, stored⟩ := encode_stored invertible plain readable
  obtain ⟨encoded, shape⟩ :=
    Option.isSome_iff_exists.mp (isDict_encoded (Json.isDict_ofDict document) stores)
  refine ⟨encoded, ?_, ?_⟩
  · rw [encodeAppSettingsDocument, stores]
    simp only [bind, Except.bind, shape]
  · rw [Json.ofDict_of_asDict? shape]
    exact stored

theorem Stored.decode_document {document encoded : Document}
    (stored : Stored cipher json rules none (.ofDict document) (.ofDict encoded))
    : ∃ decoded,
        decodeAppSettingsDocument cipher json rules encoded = .ok (decoded, false)
        ∧ (Json.ofDict decoded).equals (.ofDict document) = true := by
  obtain ⟨read, opens, equal⟩ := stored.decoded
  have readShape : read.isDict = true := by
    rw [Json.isDict_of_equals equal, Json.isDict_ofDict]
  obtain ⟨decoded, decodedShape⟩ := Option.isSome_iff_exists.mp readShape
  refine ⟨decoded, ?_, ?_⟩
  · rw [decodeAppSettingsDocument, opens]
    simp only [bind, Except.bind, decodedShape]
  · rw [Json.ofDict_of_asDict? decodedShape]
    exact equal

/-- A cipher that turns the text around behind its version. -/
def reversingCipher : SettingsCipher where
  encrypt plaintext := String.ofList ('v' :: '1' :: ':' :: plaintext.toList.reverse)
  decrypt token :=
    match token.toList with
    | 'v' :: '1' :: ':' :: letters => (some (String.ofList letters.reverse), false)
    | _ => (none, false)

theorem reversingCipher_invertible : reversingCipher.Invertible where
  decrypt_encrypt plaintext := by simp [reversingCipher]
  encrypt_ne plaintext := by
    intro empty
    have letters := congrArg String.toList empty
    simp [reversingCipher] at letters

/-- The texts of plain strings. -/
def quotedText : JsonText where
  dumps?
    | .text value => some ("\"" ++ value ++ "\"")
    | _ => none
  loads? shown :=
    if "\"".toList.isPrefixOf shown.toList then
      some (.text (String.ofList (shown.toList.drop 1).dropLast))
    else none

def plainSecretRules : SecretRules where
  lower := lowerLetters
  lower_ascii := lowerLetters_ascii
  urlsplit? _ := none
  unquotePlus := id
  upper text := String.ofList (text.toList.map Char.toUpper)

def traktSettings : Document :=
  (∅ : Document).setDict "TRAKT"
    (((∅ : Document).set "ACCESS_TOKEN" (.text "abc")).set "ENABLED" (.bool true))

end OctoHubs.AppSettings
