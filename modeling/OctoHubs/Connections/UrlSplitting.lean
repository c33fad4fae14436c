import OctoHubs.Connections.Redaction
import OctoHubs.Library.IpAddresses

/-! How an address is split into its parts, and put together from them. -/

namespace OctoHubs.Connections

open OctoHubs.Library

/-- What the reading of addresses takes from the tables of Unicode. -/
structure UrlText where
  lower : String → String
  lower_ascii
    : ∀ text : String, (∀ letter ∈ text.toList, letter.toNat < 128)
      → lower text = String.ofList (text.toList.map Char.toLower)
  unquotePlus : String → String
  nfkc : String → String

section Split

variable (names : UrlText)

def isSchemeChar (c : Char) : Bool := c.isAlphanum || c = '+' || c = '-' || c = '.'

/-- The scheme in small letters, and what is after its colon. -/
def splitScheme (url : List Char) : List Char × List Char :=
  let scheme := url.takeWhile (· ≠ ':')
  if ':' ∈ url && scheme.head?.any Char.isAlpha && scheme.all isSchemeChar then
    (scheme.map Char.toLower, (url.dropWhile (· ≠ ':')).drop 1)
  else ([], url)

/-- The name of the server and what is after it, behind two slashes. -/
def splitNetloc (url : List Char) : List Char × List Char :=
  if ['/', '/'].isPrefixOf url then
    let within (c : Char) : Bool := c ≠ '/' && c ≠ '?' && c ≠ '#'
    ((url.drop 2).takeWhile within, (url.drop 2).dropWhile within)
  else ([], url)

/-- What is before and after the first separator. -/
def splitOnce (separator : Char) (text : List Char) : List Char × List Char :=
  (text.takeWhile (· ≠ separator), (text.dropWhile (· ≠ separator)).drop 1)

def isHexDigit (c : Char) : Bool := (hexDigit? c).isSome

/-- A host in brackets is an address of version six, or of a version to come. -/
def validBracketedHost (hostname : List Char) : Bool :=
  match hostname with
  | 'v' :: rest =>
      let version := rest.takeWhile isHexDigit
      match rest.dropWhile isHexDigit with
      | '.' :: _ :: _ => version ≠ []
      | _ => false
  | _ => (ipv6Address (String.ofList hostname)).isSome

def validBrackets (netloc : List Char) : Bool :=
  if '[' ∈ netloc then
    ']' ∈ netloc && validBracketedHost (splitOnce ']' (splitOnce '[' netloc).2).1
  else ']' ∉ netloc

/-- No letter of the name becomes a separator in its normal form. -/
def validNormalForm (netloc : List Char) : Bool :=
  if netloc.all (·.toNat < 128) then true
  else
    let shown := netloc.filter (fun c => c ≠ '@' && c ≠ ':' && c ≠ '#' && c ≠ '?')
    let normal := (names.nfkc (String.ofList shown)).toList
    normal = shown || ['/', '?', '#', '@', ':'].all (· ∉ normal)

/-- The part before the last `@`, where there is one. -/
def userinfo? (netloc : List Char) : Option (List Char) :=
  if '@' ∈ netloc then some (netloc.reverse.dropWhile (· ≠ '@')).tail.reverse else none

def hostinfo (netloc : List Char) : List Char := netloc.rtakeWhile (· ≠ '@')

def hostnameOf (netloc : List Char) : Option String :=
  let host := hostinfo netloc
  let name :=
    if '[' ∈ host then (splitOnce ']' (splitOnce '[' host).2).1 else (splitOnce ':' host).1
  if name = [] then none
  else
    some (names.lower (String.ofList (name.takeWhile (· ≠ '%')))
      ++ String.ofList (name.dropWhile (· ≠ '%')))

/-- The parts of an address that can be split. -/
def urlsplit (url : String) : Option SplitUrl :=
  let letters :=
    (url.toList.dropWhile (·.toNat ≤ 32)).filter (fun c => c ≠ '\t' && c ≠ '\r' && c ≠ '\n')
  let (scheme, afterScheme) := splitScheme letters
  let (netloc, afterNetloc) := splitNetloc afterScheme
  if !validBrackets netloc || !validNormalForm names netloc then none
  else
    let (beforeFragment, fragment) := splitOnce '#' afterNetloc
    let (path, query) := splitOnce '?' beforeFragment
    some {
      scheme := String.ofList scheme
      netloc := String.ofList netloc
      path := String.ofList path
      query := String.ofList query
      fragment := String.ofList fragment
      username := (userinfo? netloc).map (fun info => String.ofList (splitOnce ':' info).1)
      password :=
        (userinfo? netloc).bind (fun info =>
          if ':' ∈ info then some (String.ofList (splitOnce ':' info).2) else none)
      hostname := hostnameOf names netloc
    }

/-- The rules of addresses that are split so. -/
def UrlText.rules : UrlRules where
  lower := names.lower
  lower_ascii := names.lower_ascii
  urlsplit? := urlsplit names
  unquotePlus := names.unquotePlus

theorem username_urlsplit {url : String} {parsed : SplitUrl} (split : urlsplit names url = some parsed)
    : parsed.username.isSome = decide ('@' ∈ parsed.netloc.toList)
      ∧ (parsed.password.isSome = true → parsed.username.isSome = true) := by
  unfold urlsplit at split
  dsimp only at split
  split at split
  · cases split
  · cases split
    dsimp only
    rw [String.toList_ofList, Option.isSome_map]
    generalize (splitNetloc _).1 = netloc
    unfold userinfo?
    by_cases member : '@' ∈ netloc
    · simp [member]
    · simp [member]

theorem isSpace_toLower {c : Char} (alpha : c.isAlpha = true) : isSpace c.toLower = false := by
  have codes : (65 ≤ c.toNat ∧ c.toNat ≤ 90) ∨ (97 ≤ c.toNat ∧ c.toNat ≤ 122) := by
    delta Char.isAlpha Char.isUpper Char.isLower at alpha
    simpa [UInt32.le_iff_toNat_le] using alpha
  have lowered : 97 ≤ c.toLower.toNat ∧ c.toLower.toNat ≤ 122 := by
    unfold Char.toLower
    split
    · have code : (c.val + ('a'.val - 'A'.val)).toNat = (c.toNat + 32) % 2 ^ 32 :=
        UInt32.toNat_add c.val ('a'.val - 'A'.val)
      rw [Char.toNat, code]
      rcases codes with upper | lower
      · omega
      · next capital =>
          have bound : c.toNat ≤ 90 := UInt32.le_iff_toNat_le.mp capital.2
          omega
    · next small =>
        rcases codes with upper | lower
        · exact absurd ⟨UInt32.le_iff_toNat_le.mpr upper.1, UInt32.le_iff_toNat_le.mpr upper.2⟩ small
        · exact lower
  unfold isSpace
  simp
  omega
theorem scheme_urlsplit {url : String} {parsed : SplitUrl} (split : urlsplit names url = some parsed)
    : parsed.scheme.toList.head?.any isSpace = false := by
  unfold urlsplit at split
  dsimp only at split
  split at split
  · cases split
  · cases split
    dsimp only
    rw [String.toList_ofList]
    generalize ((url.toList.dropWhile (·.toNat ≤ 32)).filter _) = letters
    unfold splitScheme
    dsimp only
    split
    · next named =>
        simp only [Bool.and_eq_true] at named
        rcases (Option.any_eq_true _ _).mp named.1.2 with ⟨first, found, alpha⟩
        rw [List.head?_map, found]
        exact isSpace_toLower alpha
    · rfl

theorem urlsplit_empty : (urlsplit names "").isSome = true := rfl

end Split

-- Put together again

def usesNetloc : List String :=
  ["", "ftp", "http", "gopher", "nntp", "telnet", "imap", "wais", "file", "mms", "https", "shttp",
    "snews", "prospero", "rtsp", "rtsps", "rtspu", "rsync", "svn", "svn+ssh", "sftp", "nfs", "git",
    "git+ssh", "ws", "wss"]

/-- The server and the path: a slash between them, and two before, where there is a server. -/
def locationText (scheme netloc path : String) : String :=
  if netloc ≠ "" ∨ (scheme ≠ "" ∧ scheme ∈ usesNetloc) ∨ ['/', '/'].isPrefixOf path.toList then
    "//" ++ netloc
      ++ (if path ≠ "" ∧ path.toList.head? ≠ some '/' then "/" ++ path else path)
  else path

def urlunsplit (scheme netloc path query fragment : String) : String :=
  (if scheme = "" then "" else scheme ++ ":")
    ++ locationText scheme netloc path
    ++ (if query = "" then "" else "?" ++ query)
    ++ (if fragment = "" then "" else "#" ++ fragment)

end OctoHubs.Connections
