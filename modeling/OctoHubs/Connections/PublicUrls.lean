import OctoHubs.Connections.UrlSplitting

/-! Addresses as they are shown, with what they embed of credentials hidden, and as they come
back when they are submitted.
-/

namespace OctoHubs.Connections

open OctoHubs.Library

section Public

variable (rules : UrlRules)

def hasUserinfo (parsed : SplitUrl) : Bool := parsed.username.isSome || parsed.password.isSome

/-- The server as it is shown. -/
def publicNetloc (parsed : SplitUrl) : String :=
  if hasUserinfo parsed then
    publicRedaction ++ "@" ++ String.ofList (hostinfo parsed.netloc.toList)
  else parsed.netloc

/-- The parts put together, with credentials hidden. -/
def redactedText (parsed : SplitUrl) : String :=
  urlunsplit parsed.scheme (publicNetloc parsed) parsed.path
    (redactParameterString rules parsed.query).1 (redactParameterString rules parsed.fragment).1

/-- An address as it is shown: as it is, if it embeds no credentials. -/
def publicConnectionUrl (value : String) : String :=
  let raw := strip value
  if raw = "" then raw
  else
    match rules.urlsplit? raw with
    | none => publicRedaction
    | some parsed =>
        if !hasUserinfo parsed && !(redactParameterString rules parsed.query).2
            && !(redactParameterString rules parsed.fragment).2 then
          raw
        else redactedText rules parsed

/-- What is taken of a submitted address: the existing one, if it came back as it was shown. -/
def submittedConnectionUrl (value fallback : String) : Except String String :=
  let submitted := strip value
  let existing := strip fallback
  if existing ≠ "" ∧ connectionUrlHasCredentials rules existing
      ∧ submitted = publicConnectionUrl rules existing then
    .ok existing
  else
    match rules.urlsplit? submitted with
    | none => .error "URL non valido"
    | some _ =>
        if connectionUrlHasCredentials rules submitted then
          .error "Inserisci le credenziali nel campo dedicato, non nell'URL"
        else .ok submitted

variable {rules}

theorem hasCredentials_strip (value : String)
    : connectionUrlHasCredentials rules (strip value) = connectionUrlHasCredentials rules value := by
  unfold connectionUrlHasCredentials
  rw [strip_strip]

theorem publicConnectionUrl_strip (value : String)
    : publicConnectionUrl rules (strip value) = publicConnectionUrl rules value := by
  unfold publicConnectionUrl
  rw [strip_strip]

theorem publicConnectionUrl_plain {value : String}
    (plain : connectionUrlHasCredentials rules value = false)
    : publicConnectionUrl rules value = strip value := by
  unfold connectionUrlHasCredentials at plain
  unfold publicConnectionUrl
  dsimp only at plain ⊢
  split
  · rfl
  · next some_ =>
      rw [if_neg some_] at plain
      cases split_ : rules.urlsplit? (strip value) with
      | none =>
          rw [split_] at plain
          cases plain
      | some parsed =>
          rw [split_] at plain
          dsimp only at plain ⊢
          simp only [Bool.or_eq_false_iff] at plain
          rcases plain with ⟨⟨⟨username, password⟩, query⟩, fragment⟩
          simp [hasUserinfo, username, password, query, fragment]

theorem publicConnectionUrl_secret {value : String} {parsed : SplitUrl}
    (secret : connectionUrlHasCredentials rules value = true)
    (split : rules.urlsplit? (strip value) = some parsed)
    : publicConnectionUrl rules value = redactedText rules parsed := by
  unfold connectionUrlHasCredentials at secret
  unfold publicConnectionUrl
  dsimp only at secret ⊢
  by_cases bare : strip value = ""
  · rw [if_pos bare] at secret
    cases secret
  · rw [if_neg bare, split] at secret
    rw [if_neg bare, split]
    dsimp only at secret ⊢
    rw [if_neg]
    intro none_
    simp only [Bool.and_eq_true, Bool.not_eq_true', hasUserinfo, Bool.or_eq_false_iff] at none_
    rcases none_ with ⟨⟨⟨username, password⟩, query⟩, fragment⟩
    rw [username, password, query, fragment] at secret
    cases secret

theorem submitted_public_iff (empty : (rules.urlsplit? "").isSome) (value : String)
    : submittedConnectionUrl rules (publicConnectionUrl rules value) value = .ok (strip value)
      ↔ (connectionUrlHasCredentials rules value = true
          → strip (publicConnectionUrl rules value) = publicConnectionUrl rules value) := by
  unfold submittedConnectionUrl
  dsimp only
  rw [hasCredentials_strip, publicConnectionUrl_strip]
  cases secret : connectionUrlHasCredentials rules value with
  | true =>
      have some_ : strip value ≠ "" := by
        intro bare
        unfold connectionUrlHasCredentials at secret
        dsimp only at secret
        rw [if_pos bare] at secret
        cases secret
      by_cases same : strip (publicConnectionUrl rules value) = publicConnectionUrl rules value
      · rw [if_pos ⟨some_, rfl, same⟩]
        simp [same]
      · rw [if_neg (fun all => same all.2.2)]
        simp only [same, imp_false, not_true_eq_false, iff_false]
        intro taken
        split at taken
        · cases taken
        · split at taken
          · cases taken
          · next plain =>
              rw [Except.ok.inj taken, hasCredentials_strip, secret] at plain
              exact plain rfl
  | false =>
      have shown := publicConnectionUrl_plain secret
      have readable : (rules.urlsplit? (strip value)).isSome := by
        by_cases bare : strip value = ""
        · rw [bare]
          exact empty
        · unfold connectionUrlHasCredentials at secret
          dsimp only at secret
          rw [if_neg bare] at secret
          split at secret
          · cases secret
          · next parsed split_ =>
              rw [split_]
              rfl
      rcases Option.isSome_iff_exists.mp readable with ⟨parsed, split_⟩
      rw [if_neg (fun all => Bool.false_ne_true all.2.1), shown, strip_strip, split_]
      simp [hasCredentials_strip, secret]

-- The ends of the text

theorem lastLetter_append (lead : String) {tail : String} (some_ : tail ≠ "")
    : (lead ++ tail).toList.getLast? = tail.toList.getLast? := by
  have letters : tail.toList ≠ [] := fun none_ => some_ (String.toList_eq_nil_iff.mp none_)
  rw [String.toList_append, List.getLast?_append, List.getLast?_eq_some_getLast letters]
  rfl

theorem firstLetter_append {lead : String} (tail : String) (some_ : lead ≠ "")
    : (lead ++ tail).toList.head? = lead.toList.head? := by
  have letters : lead.toList ≠ [] := fun none_ => some_ (String.toList_eq_nil_iff.mp none_)
  rw [String.toList_append, List.head?_append, List.head?_eq_some_head letters]
  rfl

/-- The part that comes last where those that are empty are left out. -/
def lastPart (netloc path query fragment : String) : String :=
  if fragment ≠ "" then fragment
  else if query ≠ "" then query
  else if path ≠ "" then path
  else netloc

theorem lastLetter_location {scheme netloc path : String} (some_ : path ≠ "")
    : (locationText scheme netloc path).toList.getLast? = path.toList.getLast? := by
  unfold locationText
  split
  · split
    · rw [lastLetter_append _ (by simp), lastLetter_append _ some_]
    · rw [lastLetter_append _ some_]
  · rfl

theorem location_ne_empty {scheme netloc path : String} (some_ : path ≠ "" ∨ netloc ≠ "")
    : locationText scheme netloc path ≠ "" := by
  unfold locationText
  split
  · intro bare
    have letters := congrArg String.toList bare
    simp at letters
  · next apart =>
      rcases some_ with pathSome | netlocSome
      · exact pathSome
      · exact absurd (Or.inl netlocSome) apart

theorem location_bare (scheme : String)
    : locationText scheme "" "" = "" ∨ locationText scheme "" "" = "//" := by
  unfold locationText
  split
  · right
    simp
  · exact .inl rfl

theorem urlunsplit_last (scheme netloc path query fragment : String)
    : ((urlunsplit scheme netloc path query fragment).toList.getLast?.any isSpace)
      = (lastPart netloc path query fragment).toList.getLast?.any isSpace := by
  unfold urlunsplit lastPart
  by_cases fragmentBare : fragment = ""
  · subst fragmentBare
    by_cases queryBare : query = ""
    · subst queryBare
      simp only [if_true, String.append_empty, ne_eq, not_true_eq_false, if_false]
      by_cases pathBare : path = ""
      · subst pathBare
        simp only [not_true_eq_false, if_false]
        by_cases netlocBare : netloc = ""
        · subst netlocBare
          rcases location_bare scheme with bare | slashes
          · rw [bare, String.append_empty]
            split
            · rfl
            · rw [lastLetter_append _ (by simp)]
              decide
          · rw [slashes, lastLetter_append _ (by simp)]
            decide
        · rw [lastLetter_append _ (location_ne_empty (.inr netlocBare))]
          unfold locationText
          rw [if_pos (.inl netlocBare), if_neg (by simp), String.append_empty,
            lastLetter_append _ netlocBare]
      · rw [if_pos pathBare, lastLetter_append _ (location_ne_empty (.inl pathBare)),
          lastLetter_location pathBare]
    · simp only [if_true, String.append_empty, ne_eq, not_true_eq_false, if_false]
      rw [if_neg queryBare, if_pos queryBare, lastLetter_append _ (by simp),
        lastLetter_append _ queryBare]
  · rw [if_neg fragmentBare, if_pos fragmentBare, lastLetter_append _ (by simp),
      lastLetter_append _ fragmentBare]

theorem urlunsplit_first {scheme : String} (shown : scheme.toList.head?.any isSpace = false)
    (netloc path query fragment : String)
    : (urlunsplit scheme netloc path query fragment).toList.head?.any isSpace
      = (scheme = "" && netloc = "" && path.toList.head?.any isSpace) := by
  unfold urlunsplit
  by_cases schemeBare : scheme = ""
  · subst schemeBare
    simp only [if_true, decide_true, Bool.true_and, String.empty_append]
    by_cases netlocBare : netloc = ""
    · subst netlocBare
      simp only [decide_true, Bool.true_and]
      by_cases pathBare : path = ""
      · subst pathBare
        rcases location_bare "" with bare | slashes
        · rw [bare, String.empty_append]
          by_cases queryBare : query = ""
          · rw [if_pos queryBare, String.empty_append]
            split
            · rfl
            · rw [firstLetter_append _ (by simp)]
              decide
          · rw [if_neg queryBare, String.append_assoc, firstLetter_append _ (by simp)]
            decide
        · rw [slashes, String.append_assoc, firstLetter_append _ (by simp)]
          decide
      · have first
            : (locationText "" "" path).toList.head?.any isSpace = path.toList.head?.any isSpace := by
          unfold locationText
          split
          · next slashes =>
              have prefixed : ['/', '/'] <+: path.toList := by simpa using slashes
              rcases prefixed with ⟨rest, shape⟩
              have slash : (['/', '/'] ++ rest).head? = some '/' := rfl
              rw [String.append_assoc, firstLetter_append _ (by simp), ← shape, slash]
              decide
          · rfl
        rw [String.append_assoc, firstLetter_append _ (location_ne_empty (.inl pathBare)), first]
    · have slashes : ∃ rest, locationText "" netloc path = "//" ++ rest := by
        unfold locationText
        rw [if_pos (.inl netlocBare), String.append_assoc]
        exact ⟨_, rfl⟩
      rcases slashes with ⟨rest, shape⟩
      rw [shape, String.append_assoc, String.append_assoc, firstLetter_append _ (by simp)]
      simp [netlocBare]
      decide
  · rw [if_neg schemeBare, String.append_assoc, String.append_assoc, String.append_assoc,
      firstLetter_append _ schemeBare, shown]
    simp [schemeBare]

theorem any_eq_false_iff {letter : Option Char}
    : letter.any isSpace = false ↔ ∀ c, letter = some c → isSpace c = false := by
  cases letter with
  | none => simp
  | some c => simp

theorem strip_eq_iff (text : String)
    : strip text = text
      ↔ text.toList.head?.any isSpace = false ∧ text.toList.getLast?.any isSpace = false := by
  constructor
  · intro same
    refine ⟨any_eq_false_iff.mpr (fun c found => ?_), any_eq_false_iff.mpr (fun c found => ?_)⟩
    · rw [← same] at found
      exact strip_starts found
    · rw [← same] at found
      exact strip_ends found
  · intro ⟨first, last⟩
    exact strip_of_ends (any_eq_false_iff.mp first) (any_eq_false_iff.mp last)

/-- The shown text of an address has nothing to strip: neither the last of its parts that is not
empty ends with whitespace, nor a path begins with it that has neither scheme nor server before.
-/
def EndsShown (rules : UrlRules) (parsed : SplitUrl) : Prop :=
  ((lastPart (publicNetloc parsed) parsed.path (redactParameterString rules parsed.query).1
      (redactParameterString rules parsed.fragment).1).toList.getLast?.any isSpace) = false
  ∧ (parsed.scheme = "" → publicNetloc parsed = "" → parsed.path.toList.head?.any isSpace = false)

theorem strip_redactedText_iff {parsed : SplitUrl}
    (shown : parsed.scheme.toList.head?.any isSpace = false)
    : strip (redactedText rules parsed) = redactedText rules parsed ↔ EndsShown rules parsed := by
  unfold redactedText EndsShown
  rw [strip_eq_iff, urlunsplit_first shown, urlunsplit_last, and_comm]
  refine and_congr_right' ?_
  by_cases bare : parsed.scheme = "" ∧ publicNetloc parsed = ""
  · simp [bare.1, bare.2]
  · constructor
    · intro _ scheme netloc
      exact absurd ⟨scheme, netloc⟩ bare
    · intro _
      have apart : (decide (parsed.scheme = "") && decide (publicNetloc parsed = "")) = false := by
        simpa using bare
      rw [apart, Bool.false_and]

end Public

-- Two addresses

def parameterKey (part : String) : String := String.ofList (part.toList.takeWhile (· ≠ '='))

/-- Parameters that are the same but for the value of a key that names a secret. -/
def SameButSecret (rules : UrlRules) (left right : String) : Prop :=
  left = right
  ∨ (parameterKey left = parameterKey right
      ∧ '=' ∈ left.toList ∧ '=' ∈ right.toList
      ∧ sensitiveParameterKey rules (parameterKey left) = true)

/-- Addresses that can be read and differ only in what is before the host, where both have it,
and in the values of parameters that name a secret; two without any of these are the same.
-/
structure DifferInSecrets (rules : UrlRules) (left right : String) (parsed other : SplitUrl)
    : Prop where
  leftSplit : rules.urlsplit? (strip left) = some parsed
  rightSplit : rules.urlsplit? (strip right) = some other
  scheme : parsed.scheme = other.scheme
  userinfo : '@' ∈ parsed.netloc.toList ↔ '@' ∈ other.netloc.toList
  host : hostinfo parsed.netloc.toList = hostinfo other.netloc.toList
  path : parsed.path = other.path
  query
    : List.Forall₂ (SameButSecret rules) (splitAt '&' parsed.query) (splitAt '&' other.query)
  fragment
    : List.Forall₂ (SameButSecret rules) (splitAt '&' parsed.fragment)
        (splitAt '&' other.fragment)
  plain : connectionUrlHasCredentials rules left = false → strip left = strip right

section Pairs

variable {rules : UrlRules}

theorem SameButSecret.redacted {left right : String} (same : SameButSecret rules left right)
    : redactParameter rules left = redactParameter rules right := by
  rcases same with same | ⟨key, leftValue, rightValue, sensitive⟩
  · rw [same]
  · have rightSensitive := sensitive
    rw [key] at rightSensitive
    unfold redactParameter parameterKey at *
    dsimp only
    rw [if_pos ⟨leftValue, sensitive⟩, if_pos ⟨rightValue, rightSensitive⟩, key]

theorem redactParameterString_congr {left right : String}
    (same : List.Forall₂ (SameButSecret rules) (splitAt '&' left) (splitAt '&' right))
    : redactParameterString rules left = redactParameterString rules right := by
  have parts
      : (splitAt '&' left).map (redactParameter rules)
        = (splitAt '&' right).map (redactParameter rules) := by
    generalize splitAt '&' left = lefts, splitAt '&' right = rights at same
    induction same with
    | nil => rfl
    | cons first _ ih => rw [List.map_cons, List.map_cons, first.redacted, ih]
  unfold redactParameterString
  rw [parts]

theorem hostinfo_of_not_mem {netloc : List Char} (bare : '@' ∉ netloc) : hostinfo netloc = netloc := by
  refine List.rtakeWhile_eq_self_iff.mpr (fun c member => ?_)
  rw [decide_eq_true_eq]
  intro same
  exact bare (same ▸ member)

variable {names : UrlText}

theorem hasUserinfo_urlsplit {url : String} {parsed : SplitUrl}
    (split : urlsplit names url = some parsed)
    : hasUserinfo parsed = decide ('@' ∈ parsed.netloc.toList) := by
  rcases username_urlsplit names split with ⟨username, password⟩
  unfold hasUserinfo
  rw [← username]
  cases named : parsed.username.isSome with
  | true => rfl
  | false =>
      cases hidden : parsed.password.isSome with
      | true => cases named.symm.trans (password hidden)
      | false => rfl

theorem urlsplit?_rules (url : String) : names.rules.urlsplit? url = urlsplit names url := rfl

theorem DifferInSecrets.netloc {left right : String} {parsed other : SplitUrl}
    (differ : DifferInSecrets names.rules left right parsed other)
    : hasUserinfo parsed = hasUserinfo other ∧ publicNetloc parsed = publicNetloc other := by
  have leftInfo := hasUserinfo_urlsplit ((urlsplit?_rules (strip left)).symm.trans differ.leftSplit)
  have rightInfo :=
    hasUserinfo_urlsplit ((urlsplit?_rules (strip right)).symm.trans differ.rightSplit)
  have info : hasUserinfo parsed = hasUserinfo other := by
    rw [leftInfo, rightInfo]
    exact decide_eq_decide.mpr differ.userinfo
  refine ⟨info, ?_⟩
  unfold publicNetloc
  rw [← info, differ.host]
  split
  · rfl
  · next bare =>
      have leftBare : '@' ∉ parsed.netloc.toList := by
        rw [leftInfo, decide_eq_true_eq] at bare
        exact bare
      have host := differ.host
      rw [hostinfo_of_not_mem leftBare,
        hostinfo_of_not_mem (fun member => leftBare (differ.userinfo.mpr member))] at host
      exact String.toList_injective host

theorem hasCredentials_of_split {value : String} {parsed : SplitUrl}
    (split : names.rules.urlsplit? (strip value) = some parsed)
    : connectionUrlHasCredentials names.rules value
      = (hasUserinfo parsed || (redactParameterString names.rules parsed.query).2
        || (redactParameterString names.rules parsed.fragment).2) := by
  unfold connectionUrlHasCredentials hasUserinfo
  dsimp only
  by_cases bare : strip value = ""
  · have parts : names.rules.urlsplit? "" = some ⟨"", "", "", "", "", none, none, none⟩ := rfl
    rw [bare, parts] at split
    rw [if_pos bare, ← Option.some.inj split]
    rfl
  · rw [if_neg bare, split]

theorem DifferInSecrets.shown {left right : String} {parsed other : SplitUrl}
    (differ : DifferInSecrets names.rules left right parsed other)
    : publicConnectionUrl names.rules left = publicConnectionUrl names.rules right := by
  rcases differ.netloc with ⟨info, netloc⟩
  have query := redactParameterString_congr differ.query
  have fragment := redactParameterString_congr differ.fragment
  have text : redactedText names.rules parsed = redactedText names.rules other := by
    unfold redactedText
    rw [differ.scheme, netloc, differ.path, query, fragment]
  cases secret : connectionUrlHasCredentials names.rules left with
  | false =>
      rw [← publicConnectionUrl_strip left, differ.plain secret, publicConnectionUrl_strip]
  | true =>
      have rightSecret : connectionUrlHasCredentials names.rules right = true := by
        rw [hasCredentials_of_split differ.leftSplit, info, query, fragment] at secret
        rw [hasCredentials_of_split differ.rightSplit, secret]
      rw [publicConnectionUrl_secret secret differ.leftSplit,
        publicConnectionUrl_secret rightSecret differ.rightSplit, text]

end Pairs

/-- An address comes back as it was, stripped, exactly when it cannot be read, embeds no
credentials, or has nothing to strip where it is shown. Two addresses that differ only in what
they embed of secrets are shown alike.
-/
theorem publicUrls_law (names : UrlText)
    : (∀ value,
          submittedConnectionUrl names.rules (publicConnectionUrl names.rules value) value
              = .ok (strip value)
            ↔ ∀ parsed,
                names.rules.urlsplit? (strip value) = some parsed
                → connectionUrlHasCredentials names.rules value = true
                → EndsShown names.rules parsed)
      ∧ ∀ left right parsed other,
          DifferInSecrets names.rules left right parsed other
          → publicConnectionUrl names.rules left = publicConnectionUrl names.rules right := by
  refine ⟨fun value => ?_, fun left right parsed other differ => differ.shown⟩
  have visible {url : String} {parsed : SplitUrl}
      (split : names.rules.urlsplit? url = some parsed)
      : parsed.scheme.toList.head?.any isSpace = false :=
    scheme_urlsplit names ((urlsplit?_rules url).symm.trans split)
  have empty : (names.rules.urlsplit? "").isSome = true := by
    rw [urlsplit?_rules]
    exact urlsplit_empty names
  rw [submitted_public_iff empty]
  constructor
  · intro same parsed split secret
    have text := same secret
    rw [publicConnectionUrl_secret secret split] at text
    exact (strip_redactedText_iff (visible split)).mp text
  · intro shown secret
    cases split : names.rules.urlsplit? (strip value) with
    | none =>
        have text : publicConnectionUrl names.rules value = publicRedaction := by
          unfold publicConnectionUrl
          dsimp only
          rw [split, if_neg]
          intro bare
          rw [bare] at split
          rw [split] at empty
          cases empty
        rw [text]
        decide
    | some parsed =>
        rw [publicConnectionUrl_secret secret split]
        exact (strip_redactedText_iff (visible split)).mpr (shown parsed split secret)

def asciiUrls : UrlText := ⟨lowerLetters, lowerLetters_ascii, id, id⟩

/-- An address with a user name whose path ends with a space before an empty query: what is shown
ends with the space, and is refused without it.
-/
theorem spacedPath_refused
    : submittedConnectionUrl asciiUrls.rules
        (publicConnectionUrl asciiUrls.rules "http://u:p@h/a ?") "http://u:p@h/a ?"
      = .error "URL non valido" := by
  decide

end OctoHubs.Connections
