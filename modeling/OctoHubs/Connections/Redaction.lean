import OctoHubs.Library.Coercions

/-! Credentials in connection addresses: user information, and parameters whose key names a
secret.
-/

namespace OctoHubs.Connections

open OctoHubs.Library

/-- The parts of an address. -/
structure SplitUrl where
  scheme : String
  netloc : String
  path : String
  query : String
  fragment : String
  username : Option String
  password : Option String
  hostname : Option String
deriving DecidableEq, Repr

/-- How addresses are read; `lower` agrees with the letters of ASCII. -/
structure UrlRules where
  lower : String → String
  lower_ascii
    : ∀ text : String, (∀ letter ∈ text.toList, letter.toNat < 128)
      → lower text = String.ofList (text.toList.map Char.toLower)
  urlsplit? : String → Option SplitUrl
  unquotePlus : String → String

def lowerLetters (text : String) : String := String.ofList (text.toList.map Char.toLower)

theorem lowerLetters_ascii (text : String) (_ascii : ∀ letter ∈ text.toList, letter.toNat < 128)
    : lowerLetters text = String.ofList (text.toList.map Char.toLower) :=
  rfl

variable (rules : UrlRules)

def publicRedaction : String := "[REDACTED]"

def sensitiveParameterKeys : List String :=
  ["accesskey", "accesstoken", "apikey", "auth", "authorization", "authtoken", "bearer",
    "clientsecret", "cookie", "credential", "key", "passfile", "passkey", "passwd", "password",
    "privatekey", "secret", "session", "sessionid", "sig", "signature", "sslpassword", "token"]

/-- An underscore between each small letter or digit and the capital letter after it. -/
def withCamelBoundaries : List Char → List Char
  | [] => []
  | [last] => [last]
  | first :: second :: rest =>
      if (first.isLower ∨ first.isDigit) ∧ second.isUpper then
        first :: '_' :: withCamelBoundaries (second :: rest)
      else first :: withCamelBoundaries (second :: rest)

def parameterKeySegments (key : String) : List String :=
  let decoded := strip (rules.unquotePlus key)
  let lowered := rules.lower (String.ofList (withCamelBoundaries decoded.toList))
  ((lowered.toList.splitOnP (fun letter => !letter.isLower && !letter.isDigit)).filter
    (· ≠ [])).map String.ofList

def sensitiveParameterKey (key : String) : Bool :=
  let segments := parameterKeySegments rules key
  "".intercalate segments ∈ sensitiveParameterKeys
  || segments.any (· ∈ sensitiveParameterKeys)

/-- A parameter with its value hidden where its key names a secret, and whether it does. -/
def redactParameter (part : String) : String × Bool :=
  let key := String.ofList (part.toList.takeWhile (· ≠ '='))
  if '=' ∈ part.toList ∧ sensitiveParameterKey rules key then
    (key ++ "=" ++ publicRedaction, true)
  else (part, false)

def redactParameterString (value : String) : String × Bool :=
  let parts := (splitAt '&' value).map (redactParameter rules)
  ("&".intercalate (parts.map Prod.fst), parts.any Prod.snd)

def connectionUrlHasCredentials (value : String) : Bool :=
  let raw := strip value
  if raw = "" then false
  else
    match rules.urlsplit? raw with
    | none => true
    | some parsed =>
        parsed.username.isSome || parsed.password.isSome
        || (redactParameterString rules parsed.query).2
        || (redactParameterString rules parsed.fragment).2

end OctoHubs.Connections
