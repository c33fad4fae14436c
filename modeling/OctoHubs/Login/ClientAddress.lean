import OctoHubs.Library.IpAddresses

/-! The address of a client behind proxies. The forwarded headers count only where the direct
peer is trusted; of these the address that the proxy sets itself comes before the chain that the
proxies append to.
-/

namespace OctoHubs.Login

open OctoHubs.Library

/-- The headers in order, by names in small letters. -/
abbrev Headers := List (String × String)

namespace Headers

def values (headers : Headers) (name : String) : List String :=
  (headers.filter (·.1 = name)).map (·.2)

/-- The first value of a header. -/
def get? (headers : Headers) (name : String) : Option String := (headers.values name).head?

end Headers

structure Request where
  host : Option String
  headers : Headers
  remoteAddr : Option String

/-- The text with every occurrence of some letters replaced; `skip` letters are past already. -/
def replaceLetters (old new : List Char) : Nat → List Char → List Char
  | _, [] => []
  | skip + 1, _ :: rest => replaceLetters old new skip rest
  | 0, letter :: rest =>
      if old.isPrefixOf (letter :: rest) then
        new ++ replaceLetters old new (old.length - 1) rest
      else letter :: replaceLetters old new 0 rest

/-- No other letter is written as one of these in small letters. -/
def truthyValues : List String := ["1", "true", "yes", "on"]

section Trust

variable (environ : String → Option String) (trustProxyEnv : String)

def cidrEnv : String :=
  String.ofList
    (replaceLetters "_TRUST_PROXY_HEADERS".toList "_TRUSTED_PROXY_CIDRS".toList 0
      trustProxyEnv.toList)

/-- The networks that are named, without those that are not well written. -/
def trustedProxyNetworks : List IpNetwork :=
  let named := (environ (cidrEnv trustProxyEnv)).filter (· ≠ "")
  let raw := (named.or (environ "TRUSTED_PROXY_CIDRS")).getD ""
  (words (String.ofList (raw.toList.map (fun c => if c = ',' then ' ' else c)))).filterMap
    ipNetwork

def trustProxy : Bool :=
  String.ofList ((strip ((environ trustProxyEnv).getD "")).toList.map Char.toLower)
    ∈ truthyValues

def inTrusted (address : IpAddress) : Bool :=
  (trustedProxyNetworks environ trustProxyEnv).any (·.contains address)

def peerIsTrusted (peer : Option IpAddress) : Bool :=
  trustProxy environ trustProxyEnv
  && !(trustedProxyNetworks environ trustProxyEnv).isEmpty
  && peer.any (inTrusted environ trustProxyEnv)

end Trust

def validAddress (value : Option String) : Option IpAddress := ipAddress (strip (value.getD ""))

def forwardedAddresses (headers : Headers) : List IpAddress :=
  (splitAt ',' ((headers.get? "x-forwarded-for").getD "")).filterMap
    (fun value => validAddress (some value))

variable (environ : String → Option String) (trustProxyEnv : String)

/-- What the headers say, behind a peer that is trusted. -/
def headerAddress (peer : IpAddress) (headers : Headers) : Option IpAddress :=
  match validAddress (headers.get? "x-real-ip") with
  | some realIp => some realIp
  | none =>
      let forwarded := forwardedAddresses headers
      match (forwarded ++ [peer]).reverse.find? (fun address =>
          !inTrusted environ trustProxyEnv address) with
      | some address => some address
      | none => forwarded.head?

def resolveClientAddress (request : Request) : String :=
  let peer := validAddress request.host
  let fromHeaders :=
    if peerIsTrusted environ trustProxyEnv peer then
      peer.bind (fun peer => headerAddress environ trustProxyEnv peer request.headers)
    else none
  match fromHeaders with
  | some address => address.compressed
  | none =>
      match peer with
      | some peer => peer.compressed
      | none =>
          match validAddress request.remoteAddr with
          | some remote => remote.compressed
          | none => "unknown"

/-- One who passes a request on: its address, and how those that it sends to write it. -/
structure Hop where
  text : String
  address : IpAddress
  reads : validAddress (some text) = some address
  plain : ',' ∉ text.toList

/-- The header of the chain with one more address. -/
def withPeer (values : List String) (text : String) : String :=
  match values with
  | [] => text
  | values => ", ".intercalate values ++ ", " ++ text

/-- A proxy appends the address of its peer, and forwards all other headers as they are. -/
def forward (peer : Hop) (headers : Headers) : Headers :=
  headers.filter (·.1 ≠ "x-forwarded-for")
    ++ [("x-forwarded-for", withPeer (headers.values "x-forwarded-for") peer.text)]

/-- The request that arrives when a client sends some headers through some proxies. -/
def arrive : Headers → Hop → List Hop → Request
  | headers, hop, [] => ⟨some hop.text, headers, none⟩
  | headers, hop, proxy :: proxies => arrive (forward hop headers) proxy proxies

def directPeer : Hop → List Hop → Hop
  | hop, [] => hop
  | _, proxy :: proxies => directPeer proxy proxies

def lastUntrusted (client : Hop) (proxies : List Hop) : Option IpAddress :=
  (((client :: proxies).map (·.address)).reverse).find? (fun address =>
    !inTrusted environ trustProxyEnv address)

section Chain

theorem strip_space (text : String) : strip (" " ++ text) = strip text := by
  unfold strip
  rw [String.toList_append]
  have front : (" ".toList ++ text.toList).dropWhile isSpace = text.toList.dropWhile isSpace :=
    List.dropWhile_cons_of_pos (by decide)
  rw [front]

def chainOf (headers : Headers) : List IpAddress :=
  (splitAt ',' (", ".intercalate (headers.values "x-forwarded-for"))).filterMap
    (fun value => validAddress (some value))

theorem values_forward (peer : Hop) (headers : Headers)
    : (forward peer headers).values "x-forwarded-for"
      = [withPeer (headers.values "x-forwarded-for") peer.text] := by
  simp [forward, Headers.values, List.filter_filter]

theorem get?_forward (peer : Hop) (headers : Headers) {name : String}
    (other : name ≠ "x-forwarded-for")
    : (forward peer headers).get? name = headers.get? name := by
  have kept
      : (headers.filter (·.1 ≠ "x-forwarded-for")).filter (·.1 = name)
        = headers.filter (·.1 = name) := by
    rw [List.filter_filter]
    refine List.filter_congr (fun header _ => ?_)
    by_cases same : header.1 = name
    · simp [same, other]
    · simp [same]
  unfold forward Headers.get? Headers.values
  rw [List.filter_append, kept]
  simp [other.symm]

theorem splitAt_withPeer (values : List String) (peer : Hop)
    : (splitAt ',' (withPeer values peer.text)).filterMap (fun value => validAddress (some value))
      = (splitAt ',' (", ".intercalate values)).filterMap (fun value => validAddress (some value))
        ++ [peer.address] := by
  have alone : splitAt ',' peer.text = [peer.text] := by
    unfold splitAt
    rw [List.splitOn_eq_singleton peer.plain]
    simp
  cases values with
  | nil =>
      have nothing : validAddress (some "") = none := by decide
      rw [withPeer, alone]
      simp [peer.reads, splitAt, nothing]
  | cons first rest =>
      have spaced : validAddress (some (" " ++ peer.text)) = some peer.address := by
        rw [← peer.reads]
        unfold validAddress
        rw [Option.getD_some, Option.getD_some, strip_space]
      have parts
          : splitAt ',' (", ".intercalate (first :: rest) ++ ", " ++ peer.text)
            = splitAt ',' (", ".intercalate (first :: rest)) ++ [" " ++ peer.text] := by
        unfold splitAt
        have letters
            : (", ".intercalate (first :: rest) ++ ", " ++ peer.text).toList
              = (", ".intercalate (first :: rest)).toList ++ ',' :: (' ' :: peer.text.toList) := by
          simp
        have last : (' ' :: peer.text.toList).splitOn ',' = [' ' :: peer.text.toList] :=
          List.splitOn_eq_singleton (by simpa using peer.plain)
        rw [letters, List.splitOn_append_cons_self, last, List.map_append, List.map_singleton]
        simp
      have joined
          : withPeer (first :: rest) peer.text
            = ", ".intercalate (first :: rest) ++ ", " ++ peer.text :=
        rfl
      rw [joined, parts, List.filterMap_append]
      simp [spaced]

theorem chainOf_forward (peer : Hop) (headers : Headers)
    : chainOf (forward peer headers) = chainOf headers ++ [peer.address] := by
  unfold chainOf
  rw [values_forward, ← splitAt_withPeer]
  simp

theorem forwardedAddresses_forward (peer : Hop) (headers : Headers)
    : forwardedAddresses (forward peer headers) = chainOf headers ++ [peer.address] := by
  rw [← chainOf_forward]
  unfold forwardedAddresses chainOf Headers.get?
  rw [values_forward]
  simp

theorem arrive_chain {headers : Headers} (single : forwardedAddresses headers = chainOf headers)
    (client : Hop) (proxies : List Hop)
    : forwardedAddresses (arrive headers client proxies).headers
          ++ [(directPeer client proxies).address]
        = chainOf headers ++ (client :: proxies).map (·.address) := by
  induction proxies generalizing headers client with
  | nil =>
      rw [← single]
      rfl
  | cons proxy proxies ih =>
      have next :=
        ih ((forwardedAddresses_forward client headers).trans (chainOf_forward client headers).symm)
          proxy
      rw [chainOf_forward, List.append_assoc] at next
      exact next

theorem arrive_rest (headers : Headers) (client : Hop) (proxies : List Hop)
    : validAddress (arrive headers client proxies).host
        = some (directPeer client proxies).address
      ∧ (arrive headers client proxies).headers.get? "x-real-ip" = headers.get? "x-real-ip" := by
  induction proxies generalizing headers client with
  | nil => exact ⟨client.reads, rfl⟩
  | cons proxy proxies ih =>
      rcases ih (forward client headers) proxy with ⟨host, realIp⟩
      exact ⟨host, realIp.trans (get?_forward client headers (by decide))⟩

theorem arrive_forged (headers : Headers) (client : Hop) (proxies : List Hop)
    : ∃ forged,
        forwardedAddresses (arrive headers client proxies).headers
            ++ [(directPeer client proxies).address]
          = forged ++ (client :: proxies).map (·.address) := by
  cases proxies with
  | nil => exact ⟨forwardedAddresses headers, rfl⟩
  | cons proxy proxies =>
      have single :=
        (forwardedAddresses_forward client headers).trans (chainOf_forward client headers).symm
      have chain := arrive_chain single proxy proxies
      rw [chainOf_forward, List.append_assoc] at chain
      exact ⟨chainOf headers, chain⟩

end Chain

variable {environ trustProxyEnv} {client : Hop} {proxies : List Hop}

theorem resolve_arrive
    (trusted : peerIsTrusted environ trustProxyEnv (some (directPeer client proxies).address) = true)
    {last : IpAddress} (untrusted : lastUntrusted environ trustProxyEnv client proxies = some last)
    (headers : Headers)
    : resolveClientAddress environ trustProxyEnv (arrive headers client proxies)
      = ((validAddress (headers.get? "x-real-ip")).getD last).compressed := by
  rcases arrive_rest headers client proxies with ⟨host, realIp⟩
  rcases arrive_forged headers client proxies with ⟨forged, chain⟩
  have address
      : headerAddress environ trustProxyEnv (directPeer client proxies).address
          (arrive headers client proxies).headers
        = some ((validAddress (headers.get? "x-real-ip")).getD last) := by
    unfold headerAddress
    rw [realIp]
    cases validAddress (headers.get? "x-real-ip") with
    | some realIp => rfl
    | none =>
        dsimp only
        rw [chain, List.reverse_append, List.find?_append]
        unfold lastUntrusted at untrusted
        rw [untrusted]
        rfl
  unfold resolveClientAddress
  dsimp only
  rw [host, if_pos trusted, Option.bind_some, address]

theorem resolve_untrusted {request : Request}
    (untrusted : peerIsTrusted environ trustProxyEnv (validAddress request.host) = false)
    (headers : Headers)
    : resolveClientAddress environ trustProxyEnv request
      = resolveClientAddress environ trustProxyEnv { request with headers } := by
  unfold resolveClientAddress
  dsimp only
  rw [untrusted]
  rfl

/-- Behind proxies of which the direct peer is trusted, and where some hop is in no trusted
network, a client whose own `X-Real-IP` is no address is resolved as the last untrusted hop,
whatever it sends; two requests with the same `X-Real-IP` are resolved alike. Where the direct
peer is not trusted, no header counts.
-/
theorem clientAddress_unforgeable (environ : String → Option String) (trustProxyEnv : String)
    : (∀ client proxies last,
          peerIsTrusted environ trustProxyEnv (some (directPeer client proxies).address) = true
          → lastUntrusted environ trustProxyEnv client proxies = some last
          → (∀ headers,
                validAddress (headers.get? "x-real-ip") = none
                → resolveClientAddress environ trustProxyEnv (arrive headers client proxies)
                  = last.compressed)
            ∧ ∀ headers others,
                validAddress (headers.get? "x-real-ip") = validAddress (others.get? "x-real-ip")
                → resolveClientAddress environ trustProxyEnv (arrive headers client proxies)
                  = resolveClientAddress environ trustProxyEnv (arrive others client proxies))
      ∧ ∀ request headers,
          peerIsTrusted environ trustProxyEnv (validAddress request.host) = false
          → resolveClientAddress environ trustProxyEnv request
            = resolveClientAddress environ trustProxyEnv { request with headers } := by
  refine ⟨fun client proxies last trusted untrusted => ⟨?_, ?_⟩, ?_⟩
  · intro headers absent
    rw [resolve_arrive trusted untrusted, absent]
    rfl
  · intro headers others same
    rw [resolve_arrive trusted untrusted, resolve_arrive trusted untrusted, same]
  · intro request headers untrusted
    exact resolve_untrusted untrusted headers

def loginEnvironment (name : String) : Option String :=
  if name = "LOGIN_TRUST_PROXY_HEADERS" then some "true"
  else if name = "LOGIN_TRUSTED_PROXY_CIDRS" then some "172.18.0.0/16"
  else none

def outsideClient : Hop :=
  ⟨"203.0.113.50", .v4 0xCB007132, by decide, by decide⟩

def insideClient : Hop := ⟨"172.18.0.9", .v4 0xAC120009, by decide, by decide⟩

def frontProxy : Hop := ⟨"172.18.0.2", .v4 0xAC120002, by decide, by decide⟩

theorem forged_chain_ignored
    : resolveClientAddress loginEnvironment "LOGIN_TRUST_PROXY_HEADERS"
        (arrive [("x-forwarded-for", "198.51.100.9, 172.18.0.2")] outsideClient [frontProxy])
      = (IpAddress.v4 0xCB007132).compressed :=
  ((clientAddress_unforgeable loginEnvironment "LOGIN_TRUST_PROXY_HEADERS").1 outsideClient
    [frontProxy] (.v4 0xCB007132) (by decide) (by decide)).1
    [("x-forwarded-for", "198.51.100.9, 172.18.0.2")] (by decide)

/-- A client chooses its address by the header that the proxy is to set, and by the chain where
it is in a trusted network itself.
-/
theorem client_chooses
    : resolveClientAddress loginEnvironment "LOGIN_TRUST_PROXY_HEADERS"
          (arrive [("x-real-ip", "198.51.100.9")] outsideClient [frontProxy])
        = "198.51.100.9"
      ∧ resolveClientAddress loginEnvironment "LOGIN_TRUST_PROXY_HEADERS"
          (arrive [] outsideClient [frontProxy])
        = "203.0.113.50"
      ∧ resolveClientAddress loginEnvironment "LOGIN_TRUST_PROXY_HEADERS"
          (arrive [("x-forwarded-for", "198.51.100.9")] insideClient [frontProxy])
        = "198.51.100.9"
      ∧ resolveClientAddress loginEnvironment "LOGIN_TRUST_PROXY_HEADERS"
          (arrive [] insideClient [frontProxy])
        = "172.18.0.9" := by
  refine ⟨?_, ?_, ?_, ?_⟩
  · decide
  · decide
  · decide
  · decide

end OctoHubs.Login
