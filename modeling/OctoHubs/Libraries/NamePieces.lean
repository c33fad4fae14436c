import OctoHubs.Libraries.LibraryGrouping
import OctoHubs.Library.Rereading

/-! The pieces of a name: its words, the separators between them and the words that stand for
ultra-high definition. Some of those words are not found where separators touch them.
-/

namespace OctoHubs.Libraries

open OctoHubs.Library

-- Pieces of a name

def ultra : List Char := ['u', 'l', 't', 'r', 'a']

def hd : List Char := ['h', 'd']

/-- Words that stand for ultra-high definition by themselves. -/
def uhdWords : List (List Char) := [['u', 'h', 'd'], ultra ++ hd]

def isSeparator (c : Char) : Bool := isPunctuation c || isSpace c

/-- A piece of a name: a word for ultra-high definition, which may have a gap, another word, a run
of separators, or another sign.
-/
inductive Piece
  | uhd (first joint second : List Char)
  | word (letters : List Char)
  | gap (separators : List Char)
  | sign (c : Char)

def Piece.text : Piece → List Char
  | uhd first joint second => first ++ (joint ++ second)
  | word letters => letters
  | gap separators => separators
  | sign c => [c]

/-- The text of the pieces. -/
def spell (pieces : List Piece) : List Char := pieces.flatMap Piece.text

variable (rules : NameRules)

/-- The pieces of a text that is no longer than the fuel. -/
def piecesWithin : Nat → List Char → List Piece
  | 0, _ => []
  | _ + 1, [] => []
  | fuel + 1, c :: rest =>
      if rules.isAlphanumeric c then
        let letters := (c :: rest).takeWhile rules.isAlphanumeric
        let after := (c :: rest).dropWhile rules.isAlphanumeric
        let joint := after.takeWhile isSeparator
        let beyond := after.dropWhile isSeparator
        if letters ∈ uhdWords then .uhd letters [] [] :: piecesWithin fuel after
        else if letters = ultra ∧ joint ≠ [] ∧ beyond.takeWhile rules.isAlphanumeric = hd then
          .uhd ultra joint hd :: piecesWithin fuel (beyond.dropWhile rules.isAlphanumeric)
        else .word letters :: piecesWithin fuel after
      else if isSeparator c then
        .gap ((c :: rest).takeWhile isSeparator)
          :: piecesWithin fuel ((c :: rest).dropWhile isSeparator)
      else .sign c :: piecesWithin fuel rest

def piecesOf (text : List Char) : List Piece := piecesWithin rules text.length text

/-- What letters and separators are. -/
structure NameRules.Lawful (rules : NameRules) : Prop where
  letters : rules.toAlphabet.Lawful
  blank : rules.Settled ' '
  separators : ∀ c, isPunctuation c = true → rules.isAlphanumeric c = false

/-- The text does not go on with a character of the kind. -/
def EndsRun (kind : Char → Bool) (text : List Char) : Prop :=
  ∀ c, text.head? = some c → kind c = false

/-- A word for ultra-high definition, in one part or in two. -/
inductive IsUhd : (first joint second : List Char) → Prop
  | whole {word : List Char} (listed : word ∈ uhdWords) : IsUhd word [] []
  | parts {joint : List Char} (some_ : joint ≠ []) (separates : joint.all isSeparator = true)
      : IsUhd ultra joint hd

/-- The pieces are as long as can be, and words are only those that do not stand for ultra-high
definition.
-/
inductive Parted : List Piece → Prop
  | nil : Parted []
  | uhd {first joint second : List Char} {rest : List Piece}
      (shape : IsUhd first joint second)
      (ends : EndsRun rules.isAlphanumeric (spell rest))
      (parted : Parted rest)
      : Parted (.uhd first joint second :: rest)
  | word {letters : List Char} {rest : List Piece} (some_ : letters ≠ [])
      (alphanumeric : letters.all rules.isAlphanumeric = true)
      (plain : letters ∉ uhdWords)
      (apart : letters = ultra → ∀ joint after, rest ≠ .gap joint :: .word hd :: after)
      (ends : EndsRun rules.isAlphanumeric (spell rest))
      (parted : Parted rest)
      : Parted (.word letters :: rest)
  | gap {separators : List Char} {rest : List Piece} (some_ : separators ≠ [])
      (separates : separators.all isSeparator = true)
      (ends : EndsRun isSeparator (spell rest))
      (parted : Parted rest)
      : Parted (.gap separators :: rest)
  | sign {c : Char} {rest : List Piece} (other : rules.isAlphanumeric c = false)
      (solid : isSeparator c = false) (parted : Parted rest)
      : Parted (.sign c :: rest)

variable {rules}

theorem endsRun_dropWhile (kind : Char → Bool) (text : List Char)
    : EndsRun kind (text.dropWhile kind) := by
  intro c first
  have visible := List.head?_dropWhile_not kind text
  rw [first] at visible
  simpa using visible

theorem takeWhile_run {kind : Char → Bool} {run rest : List Char} (all : run.all kind = true)
    (ends : EndsRun kind rest)
    : (run ++ rest).takeWhile kind = run := by
  rw [List.takeWhile_append_of_pos (List.all_eq_true.mp all)]
  cases rest with
  | nil => simp
  | cons c rest => simp [ends c rfl]

theorem dropWhile_run {kind : Char → Bool} {run rest : List Char} (all : run.all kind = true)
    (ends : EndsRun kind rest)
    : (run ++ rest).dropWhile kind = rest := by
  rw [List.dropWhile_append_of_pos (List.all_eq_true.mp all)]
  cases rest with
  | nil => rfl
  | cons c rest => rw [List.dropWhile_cons_of_neg (by simp [ends c rfl])]

theorem spell_cons (piece : Piece) (rest : List Piece)
    : spell (piece :: rest) = piece.text ++ spell rest :=
  rfl

theorem separates_of_alphanumeric (lawful : rules.Lawful) {c : Char}
    (letter : rules.isAlphanumeric c = true)
    : isSeparator c = false := by
  rw [isSeparator, lawful.letters.visible c letter, Bool.or_false]
  by_contra punctuation
  have other := lawful.separators c (by simpa using punctuation)
  rw [letter] at other
  cases other

theorem lower_alphanumeric (lawful : rules.Lawful) {letters : List Char}
    (lower : letters.all Char.isLower = true)
    : letters.all rules.isAlphanumeric = true :=
  List.all_eq_true.mpr (fun c member =>
    lawful.letters.plain c (.inl (List.all_eq_true.mp lower c member)))

theorem hd_alphanumeric (lawful : rules.Lawful) : hd.all rules.isAlphanumeric = true :=
  lower_alphanumeric lawful (by decide)

theorem endsRun_hd (text : List Char) : EndsRun isSeparator (hd ++ text) := by
  intro c first
  cases first
  decide

/-- Every text has its pieces, by induction on the fuel. -/
theorem piecesWithin_spec (lawful : rules.Lawful) {fuel : Nat} {text : List Char}
    (enough : text.length ≤ fuel)
    : Parted rules (piecesWithin rules fuel text) ∧ spell (piecesWithin rules fuel text) = text := by
  induction fuel generalizing text with
  | zero =>
      rw [List.length_eq_zero_iff.mp (Nat.le_zero.mp enough)]
      exact ⟨.nil, rfl⟩
  | succ fuel ih =>
      cases text with
      | nil => exact ⟨.nil, rfl⟩
      | cons c rest =>
          have shorter {kind : Char → Bool} (kept : kind c = true)
              : ((c :: rest).dropWhile kind).length ≤ fuel := by
            rw [List.dropWhile_cons_of_pos kept]
            exact (List.dropWhile_sublist kind).length_le.trans (Nat.le_of_succ_le_succ enough)
          rw [piecesWithin]
          split
          · next letter =>
              have some_ : (c :: rest).takeWhile rules.isAlphanumeric ≠ [] := by
                rw [List.takeWhile_cons_of_pos letter]
                exact List.cons_ne_nil _ _
              have whole := @List.takeWhile_append_dropWhile _ rules.isAlphanumeric (c :: rest)
              have ends := endsRun_dropWhile rules.isAlphanumeric (c :: rest)
              have all := List.all_takeWhile (p := rules.isAlphanumeric) (l := c :: rest)
              have short := shorter letter
              obtain ⟨parted, spelled⟩ := ih short
              dsimp only
              generalize (c :: rest).takeWhile rules.isAlphanumeric = letters at *
              generalize (c :: rest).dropWhile rules.isAlphanumeric = after at *
              split
              · next listed =>
                  refine ⟨.uhd (.whole listed) (by rwa [spelled]) parted, ?_⟩
                  rw [spell_cons, spelled, ← whole]
                  simp [Piece.text]
              · next plain =>
                  split
                  · next parts =>
                      obtain ⟨rfl, joined, second⟩ := parts
                      have beyond := @List.takeWhile_append_dropWhile _ isSeparator after
                      have tail := @List.takeWhile_append_dropWhile _ rules.isAlphanumeric
                        (after.dropWhile isSeparator)
                      have bound
                          : ((after.dropWhile isSeparator).dropWhile
                              rules.isAlphanumeric).length ≤ fuel :=
                        ((List.dropWhile_sublist _).length_le.trans
                          (List.dropWhile_sublist _).length_le).trans short
                      obtain ⟨parted, spelled⟩ := ih bound
                      refine ⟨.uhd (.parts joined List.all_takeWhile) ?_ parted, ?_⟩
                      · rw [spelled]
                        exact endsRun_dropWhile _ _
                      · rw [second] at tail
                        rw [spell_cons, spelled, ← whole, Piece.text, List.append_assoc,
                          List.append_assoc, tail, beyond]
                  · next apart =>
                      refine ⟨.word some_ all plain ?_ (by rwa [spelled]) parted, ?_⟩
                      · intro same joint beyond shape
                        rw [shape] at parted spelled
                        cases parted with
                        | gap joined separates _ parted =>
                            cases parted with
                            | word _ _ _ _ here _ =>
                                rw [spell_cons, spell_cons, Piece.text, Piece.text] at spelled
                                rw [← spelled] at apart
                                apply apart
                                rw [takeWhile_run separates (endsRun_hd _),
                                  dropWhile_run separates (endsRun_hd _),
                                  takeWhile_run (hd_alphanumeric lawful) here]
                                exact ⟨same, joined, rfl⟩
                      · rw [spell_cons, spelled]
                        exact whole
          · split
            · next separator =>
                obtain ⟨parted, spelled⟩ := ih (shorter separator)
                have ends := endsRun_dropWhile isSeparator (c :: rest)
                refine ⟨.gap ?_ List.all_takeWhile (by rwa [spelled]) parted, ?_⟩
                · rw [List.takeWhile_cons_of_pos separator]
                  exact List.cons_ne_nil _ _
                · rw [spell_cons, spelled]
                  exact List.takeWhile_append_dropWhile
            · next other solid =>
                obtain ⟨parted, spelled⟩ := ih (Nat.le_of_succ_le_succ enough)
                refine ⟨.sign (by simpa using other) (by simpa using solid) parted, ?_⟩
                rw [spell_cons, spelled]
                rfl

theorem piecesWithin_letters {fuel : Nat} {letters after : List Char} (some_ : letters ≠ [])
    (all : letters.all rules.isAlphanumeric = true) (ends : EndsRun rules.isAlphanumeric after)
    : piecesWithin rules (fuel + 1) (letters ++ after)
      = if letters ∈ uhdWords then .uhd letters [] [] :: piecesWithin rules fuel after
        else if letters = ultra ∧ after.takeWhile isSeparator ≠ []
            ∧ (after.dropWhile isSeparator).takeWhile rules.isAlphanumeric = hd then
          .uhd ultra (after.takeWhile isSeparator) hd
            :: piecesWithin rules fuel
              ((after.dropWhile isSeparator).dropWhile rules.isAlphanumeric)
        else .word letters :: piecesWithin rules fuel after := by
  have first := takeWhile_run all ends
  have later := dropWhile_run all ends
  obtain ⟨c, tail, rfl⟩ := List.exists_cons_of_ne_nil some_
  have letter : rules.isAlphanumeric c = true := List.all_eq_true.mp all c List.mem_cons_self
  rw [List.cons_append] at first later ⊢
  rw [piecesWithin, if_pos letter, first, later]

theorem uhdWords_spec {word : List Char} (listed : word ∈ uhdWords)
    : word ≠ [] ∧ word.all Char.isLower = true ∧ word ≠ ultra := by
  have each : ∀ word ∈ uhdWords, word ≠ [] ∧ word.all Char.isLower = true ∧ word ≠ ultra := by
    decide
  exact each word listed

theorem ultra_alphanumeric (lawful : rules.Lawful) : ultra.all rules.isAlphanumeric = true :=
  lower_alphanumeric lawful (by decide)

theorem endsRun_of_separates (lawful : rules.Lawful) {joint : List Char} (some_ : joint ≠ [])
    (separates : joint.all isSeparator = true) (text : List Char)
    : EndsRun rules.isAlphanumeric (joint ++ text) := by
  intro c first
  obtain ⟨d, tail, rfl⟩ := List.exists_cons_of_ne_nil some_
  cases first
  by_contra letter
  have solid := separates_of_alphanumeric lawful (by simpa using letter)
  rw [List.all_eq_true.mp separates _ List.mem_cons_self] at solid
  cases solid

theorem exists_fuel {lead rest : List Char} {fuel : Nat} (some_ : lead ≠ [])
    (enough : (lead ++ rest).length ≤ fuel)
    : ∃ smaller, fuel = smaller + 1 ∧ rest.length ≤ smaller := by
  obtain ⟨c, tail, rfl⟩ := List.exists_cons_of_ne_nil some_
  rw [List.length_append, List.length_cons] at enough
  exact ⟨fuel - 1, by omega, by omega⟩

theorem run_unique {kind : Char → Bool} {left right after beyond : List Char}
    (all : left.all kind = true) (all' : right.all kind = true) (ends : EndsRun kind after)
    (ends' : EndsRun kind beyond) (same : left ++ after = right ++ beyond)
    : left = right ∧ after = beyond := by
  have first := takeWhile_run all ends
  have second := takeWhile_run all' ends'
  have runs : left = right := by rw [← first, same, second]
  subst runs
  exact ⟨rfl, List.append_cancel_left same⟩

theorem piecesWithin_gap (lawful : rules.Lawful) {fuel : Nat} {separators after : List Char}
    (some_ : separators ≠ []) (separates : separators.all isSeparator = true)
    (ends : EndsRun isSeparator after)
    : piecesWithin rules (fuel + 1) (separators ++ after)
      = .gap separators :: piecesWithin rules fuel after := by
  have first := takeWhile_run separates ends
  have later := dropWhile_run separates ends
  have other := endsRun_of_separates lawful some_ separates after
  obtain ⟨c, tail, rfl⟩ := List.exists_cons_of_ne_nil some_
  have separator : isSeparator c = true := List.all_eq_true.mp separates c List.mem_cons_self
  rw [List.cons_append] at first later other ⊢
  rw [piecesWithin, if_neg (by simp [other c rfl]), if_pos separator, first, later]

theorem piecesWithin_second (lawful : rules.Lawful) {fuel : Nat} {joint text : List Char}
    (some_ : joint ≠ []) (separates : joint.all isSeparator = true)
    (ends : EndsRun rules.isAlphanumeric text) (enough : (joint ++ (hd ++ text)).length ≤ fuel)
    : ∃ after,
        piecesWithin rules fuel (joint ++ (hd ++ text)) = .gap joint :: .word hd :: after := by
  have solid : hd ≠ [] := List.cons_ne_nil _ _
  have plain : hd ∉ uhdWords := by decide
  have differ : hd ≠ ultra := by decide
  obtain ⟨smaller, rfl, bound⟩ := exists_fuel some_ enough
  obtain ⟨last, rfl, -⟩ := exists_fuel solid bound
  rw [piecesWithin_gap lawful some_ separates (endsRun_hd text),
    piecesWithin_letters solid (hd_alphanumeric lawful) ends, if_neg plain,
    if_neg (fun parts => differ parts.1)]
  exact ⟨_, rfl⟩

/-- The pieces of a text are the only ones, by induction on them. -/
theorem piecesWithin_spell (lawful : rules.Lawful) {pieces : List Piece}
    (parted : Parted rules pieces) {fuel : Nat} (enough : (spell pieces).length ≤ fuel)
    : piecesWithin rules fuel (spell pieces) = pieces := by
  induction parted generalizing fuel with
  | nil => cases fuel <;> rfl
  | @uhd first joint second rest shape ends parted ih =>
      cases shape with
      | whole listed =>
          obtain ⟨some_, lower, -⟩ := uhdWords_spec listed
          rw [spell_cons, Piece.text, List.append_nil, List.append_nil] at enough ⊢
          obtain ⟨smaller, rfl, bound⟩ := exists_fuel some_ enough
          rw [piecesWithin_letters some_ (lower_alphanumeric lawful lower) ends, if_pos listed,
            ih bound]
      | parts some_ separates =>
          rw [spell_cons, Piece.text, List.append_assoc, List.append_assoc] at enough ⊢
          have solid : ultra ≠ [] := List.cons_ne_nil _ _
          have alone : ultra ∉ uhdWords := by decide
          obtain ⟨smaller, rfl, bound⟩ := exists_fuel solid enough
          have short : (spell rest).length ≤ smaller := by
            rw [List.length_append, List.length_append] at bound
            omega
          rw [piecesWithin_letters solid (ultra_alphanumeric lawful)
              (endsRun_of_separates lawful some_ separates _),
            if_neg alone, takeWhile_run separates (endsRun_hd _),
            dropWhile_run separates (endsRun_hd _), takeWhile_run (hd_alphanumeric lawful) ends,
            dropWhile_run (hd_alphanumeric lawful) ends, if_pos ⟨rfl, some_, rfl⟩, ih short]
  | @word letters rest some_ all plain apart ends parted ih =>
      rw [spell_cons, Piece.text] at enough ⊢
      obtain ⟨smaller, rfl, bound⟩ := exists_fuel some_ enough
      rw [piecesWithin_letters some_ all ends, if_neg plain, if_neg, ih bound]
      rintro ⟨same, joined, second⟩
      have whole := @List.takeWhile_append_dropWhile _ isSeparator (spell rest)
      have tail := @List.takeWhile_append_dropWhile _ rules.isAlphanumeric
        ((spell rest).dropWhile isSeparator)
      rw [second] at tail
      have split
          : spell rest
            = (spell rest).takeWhile isSeparator
              ++ (hd ++ ((spell rest).dropWhile isSeparator).dropWhile rules.isAlphanumeric) := by
        rw [tail, whole]
      have listed := ih bound
      rw [split] at listed bound
      obtain ⟨after, shape⟩ := piecesWithin_second lawful joined List.all_takeWhile
        (endsRun_dropWhile rules.isAlphanumeric _) bound
      exact apart same _ after (listed.symm.trans shape)
  | @gap separators rest some_ separates ends parted ih =>
      rw [spell_cons, Piece.text] at enough ⊢
      obtain ⟨smaller, rfl, bound⟩ := exists_fuel some_ enough
      rw [piecesWithin_gap lawful some_ separates ends, ih bound]
  | @sign c rest other solid parted ih =>
      cases fuel with
      | zero => cases enough
      | succ fuel =>
          rw [spell_cons, Piece.text, List.singleton_append, piecesWithin, if_neg (by simp [other]),
            if_neg (by simp [solid]), ih (Nat.le_of_succ_le_succ enough)]

theorem Parted.apart_text (lawful : rules.Lawful) {rest : List Piece} (parted : Parted rules rest)
    (apart : ∀ joint after, rest ≠ .gap joint :: .word hd :: after) {joint text : List Char}
    (some_ : joint ≠ []) (separates : joint.all isSeparator = true)
    (spelled : spell rest = joint ++ (hd ++ text))
    : ¬EndsRun rules.isAlphanumeric text := by
  intro ends
  have listed := piecesWithin_spell lawful parted (Nat.le_refl _)
  rw [spelled] at listed
  obtain ⟨after, shape⟩ := piecesWithin_second lawful some_ separates ends (Nat.le_refl _)
  exact apart joint after (listed.symm.trans shape)

theorem piecesOf_spell (lawful : rules.Lawful) {pieces : List Piece}
    (parted : Parted rules pieces)
    : piecesOf rules (spell pieces) = pieces :=
  piecesWithin_spell lawful parted (Nat.le_refl _)

theorem parted_piecesOf (lawful : rules.Lawful) (text : List Char)
    : Parted rules (piecesOf rules text) :=
  (piecesWithin_spec lawful (Nat.le_refl _)).1

theorem spell_piecesOf (lawful : rules.Lawful) (text : List Char)
    : spell (piecesOf rules text) = text :=
  (piecesWithin_spec lawful (Nat.le_refl _)).2

-- Words that are found

def fourK : List Char := ['4', 'k']

/-- A word for ultra-high definition stands free: no underscore touches it, and its two parts, if
it has two, are blanks or one dash apart.
-/
def isFree (before : Option Char) (joint : List Char) (after : Option Char) : Bool :=
  before ≠ some '_' && (joint.all isSpace || joint = ['-']) && after ≠ some '_'

theorem uhdLengths_eq (text : List Char)
    : uhdLengths text
      = (if ultra.isPrefixOf text && hd.isPrefixOf ((text.drop 5).dropWhile isSpace) then
          [5 + ((text.drop 5).takeWhile isSpace).length + 2]
        else [])
        ++ (if (ultra ++ '-' :: hd).isPrefixOf text then [8] else [])
        ++ (if ['u', 'h', 'd'].isPrefixOf text then [3] else []) := by
  have first : "ultra".toList = ultra := by decide
  have second : "hd".toList = hd := by decide
  have dashed : "ultra-hd".toList = ultra ++ '-' :: hd := by decide
  have short : "uhd".toList = ['u', 'h', 'd'] := by decide
  rw [uhdLengths, first, second, dashed, short]

/-- The expression for ultra-high definition with its replacement. -/
def findUhd (rules : NameRules) (before : Option Char) (text : List Char)
    : Option (Nat × List Char) :=
  findWord rules uhdLengths fourK before text

theorem findUhd_ne {before : Option Char} {c : Char} (other : c ≠ 'u') (text : List Char)
    : findUhd rules before (c :: text) = none := by
  have none_ : uhdLengths (c :: text) = [] := by
    simp [uhdLengths_eq, ultra, List.isPrefixOf, Ne.symm other]
  rw [findUhd, findWord, none_]
  split <;> rfl

theorem findUhd_inside {p c : Char} (before : rules.isAlphanumeric p = true)
    (letter : rules.isAlphanumeric c = true) (text : List Char)
    : findUhd rules (some p) (c :: text) = none := by
  have inside : atBoundary rules (some p) (some c) = false := by
    simp [atBoundary, isWordChar, before, letter]
  rw [findUhd, findWord, List.head?_cons, inside]
  rfl

/-- The character is no letter. -/
def Fresh (rules : NameRules) (before : Option Char) : Prop :=
  ∀ c, before = some c → rules.isAlphanumeric c = false

theorem fresh_any {before : Option Char} (fresh : Fresh rules before)
    : before.any (isWordChar rules) = decide (before = some '_') := by
  cases before with
  | none => rfl
  | some c => simp [isWordChar, fresh c rfl]

theorem atBoundary_start {before : Option Char} (fresh : Fresh rules before) {c : Char}
    (letter : rules.isAlphanumeric c = true)
    : atBoundary rules before (some c) = decide (before ≠ some '_') := by
  rw [atBoundary, fresh_any fresh]
  by_cases line : before = some '_' <;> simp [line, isWordChar, letter]

theorem atBoundary_end {lead rest : List Char} {c : Char} (letter : rules.isAlphanumeric c = true)
    : atBoundary rules ((lead ++ c :: rest)[lead.length]?) ((lead ++ c :: rest)[lead.length + 1]?)
      = !rest.head?.any (isWordChar rules) := by
  have last : (lead ++ c :: rest)[lead.length]? = some c := by simp
  have next : (lead ++ c :: rest)[lead.length + 1]? = rest.head? := by
    rw [List.getElem?_append_right (Nat.le_add_right _ 1), Nat.add_sub_cancel_left,
      List.getElem?_cons_succ, List.head?_eq_getElem?]
  rw [last, next, atBoundary]
  simp [isWordChar, letter]

theorem findUhd_single {before : Option Char} (fresh : Fresh rules before)
    {first c : Char} {lead rest : List Char}
    (starts : rules.isAlphanumeric first = true) (letter : rules.isAlphanumeric c = true)
    (ends : EndsRun rules.isAlphanumeric rest)
    (only : uhdLengths (first :: lead ++ c :: rest) = [lead.length + 2])
    : findUhd rules before (first :: lead ++ c :: rest)
      = if decide (before ≠ some '_') && decide (rest.head? ≠ some '_') then
          some (lead.length + 2, fourK)
        else none := by
  have closed := @atBoundary_end rules (first :: lead) rest c letter
  have after : rest.head?.any (isWordChar rules) = decide (rest.head? = some '_') := fresh_any ends
  rw [findUhd, findWord, only, List.cons_append, List.head?_cons, atBoundary_start fresh starts,
    List.find?_cons]
  rw [List.cons_append, List.length_cons, after] at closed
  have length : lead.length + 2 - 1 = lead.length + 1 := rfl
  rw [length, closed]
  by_cases line : before = some '_' <;> by_cases line' : rest.head? = some '_' <;>
    simp [line, line']

theorem findUhd_whole (lawful : rules.Lawful) {before : Option Char} (fresh : Fresh rules before)
    {word rest : List Char} (listed : word ∈ uhdWords)
    (ends : EndsRun rules.isAlphanumeric rest)
    : findUhd rules before (word ++ rest)
      = if isFree before [] rest.head? then some (word.length, fourK) else none := by
  have letter {c : Char} (lower : c.isLower = true) : rules.isAlphanumeric c = true :=
    lawful.letters.plain c (.inl lower)
  have free : isFree before [] rest.head?
      = (decide (before ≠ some '_') && decide (rest.head? ≠ some '_')) := by
    simp [isFree]
  have solid : isSpace 'h' = false := by decide
  rw [free]
  simp only [uhdWords, List.mem_cons, List.not_mem_nil, or_false] at listed
  rcases listed with rfl | rfl
  · refine @findUhd_single rules before fresh 'u' 'd' ['h'] rest (letter (by decide))
      (letter (by decide)) ends ?_
    simp [uhdLengths_eq, ultra, hd, List.isPrefixOf]
  · refine @findUhd_single rules before fresh 'u' 'd' ['l', 't', 'r', 'a', 'h'] rest
      (letter (by decide)) (letter (by decide)) ends ?_
    simp [uhdLengths_eq, ultra, hd, List.isPrefixOf, solid]

theorem uhdLengths_ultra (after : List Char)
    : uhdLengths (ultra ++ after)
      = (if hd.isPrefixOf (after.dropWhile isSpace) then
          [5 + (after.takeWhile isSpace).length + 2]
        else [])
        ++ (if ('-' :: hd).isPrefixOf after then [8] else []) := by
  simp [uhdLengths_eq, ultra, hd, List.isPrefixOf]

theorem endsRun_hd_space (rest : List Char) : EndsRun isSpace (hd ++ rest) := by
  intro c first
  cases first
  decide

theorem uhdLengths_apart {joint rest : List Char} (some_ : joint ≠ [])
    (separates : joint.all isSeparator = true) (visible : joint.all isSpace = false)
    (other : joint ≠ ['-'])
    : uhdLengths (ultra ++ (joint ++ (hd ++ rest))) = [] := by
  have notH {c : Char} (member : c ∈ joint) : 'h' ≠ c := by
    rintro rfl
    have impossible := List.all_eq_true.mp separates 'h' member
    revert impossible
    decide
  have first : hd.isPrefixOf ((joint ++ (hd ++ rest)).dropWhile isSpace) = false := by
    obtain ⟨c, tail, shape⟩ :=
      List.exists_cons_of_ne_nil (l := joint.dropWhile isSpace) (by
        intro bare
        rw [List.dropWhile_eq_nil_iff] at bare
        rw [List.all_eq_true.mpr bare] at visible
        cases visible)
    have member : c ∈ joint :=
      (List.dropWhile_sublist isSpace).subset (by rw [shape]; exact List.mem_cons_self)
    rw [List.dropWhile_append, shape]
    simp [hd, List.isPrefixOf, notH member]
  have second : ('-' :: hd).isPrefixOf (joint ++ (hd ++ rest)) = false := by
    obtain ⟨c, tail, rfl⟩ := List.exists_cons_of_ne_nil some_
    cases tail with
    | nil =>
        have differ : '-' ≠ c := fun same => other (by rw [same])
        simp [List.isPrefixOf, differ]
    | cons d tail => simp [hd, List.isPrefixOf, notH (List.mem_cons_of_mem c List.mem_cons_self)]
  rw [uhdLengths_ultra, first, second]
  rfl

theorem findUhd_parts (lawful : rules.Lawful) {before : Option Char} (fresh : Fresh rules before)
    {joint rest : List Char} (some_ : joint ≠ []) (separates : joint.all isSeparator = true)
    (ends : EndsRun rules.isAlphanumeric rest)
    : findUhd rules before (ultra ++ (joint ++ (hd ++ rest)))
      = if isFree before joint rest.head? then
          some ((ultra ++ (joint ++ hd)).length, fourK)
        else none := by
  have letter {c : Char} (lower : c.isLower = true) : rules.isAlphanumeric c = true :=
    lawful.letters.plain c (.inl lower)
  have size : (ultra ++ (joint ++ hd)).length = joint.length + 7 := by
    simp [ultra, hd]
  have shape
      : ultra ++ (joint ++ (hd ++ rest))
        = 'u' :: (['l', 't', 'r', 'a'] ++ joint ++ ['h']) ++ 'd' :: rest := by
    simp [ultra, hd]
  have found (only : uhdLengths (ultra ++ (joint ++ (hd ++ rest))) = [joint.length + 7])
      : findUhd rules before (ultra ++ (joint ++ (hd ++ rest)))
        = if decide (before ≠ some '_') && decide (rest.head? ≠ some '_') then
            some (joint.length + 7, fourK)
          else none := by
    have count : (['l', 't', 'r', 'a'] ++ joint ++ ['h']).length + 2 = joint.length + 7 := by
      simp
    rw [shape] at only ⊢
    rw [findUhd_single fresh (letter (by decide)) (letter (by decide)) ends (by rw [only, count]),
      count]
  rw [size]
  cases blank : joint.all isSpace with
  | true =>
      rw [found]
      · simp [isFree, blank]
      · have second : ('-' :: hd).isPrefixOf (joint ++ (hd ++ rest)) = false := by
          obtain ⟨c, tail, rfl⟩ := List.exists_cons_of_ne_nil some_
          have differ : '-' ≠ c := by
            rintro rfl
            have impossible := List.all_eq_true.mp blank '-' List.mem_cons_self
            revert impossible
            decide
          simp [List.isPrefixOf, differ]
        rw [uhdLengths_ultra, dropWhile_run blank (endsRun_hd_space rest),
          takeWhile_run blank (endsRun_hd_space rest), second]
        simp [List.isPrefixOf, hd]
        omega
  | false =>
      by_cases dash : joint = ['-']
      · subst dash
        rw [found]
        · simp [isFree]
        · have solid : isSpace '-' = false := by decide
          simp [uhdLengths_ultra, hd, List.isPrefixOf, solid]
      · rw [findUhd, findWord, uhdLengths_apart some_ separates blank dash]
        simp [isFree, blank, dash]

theorem exists_of_mem_uhdLengths {text : List Char} {length : Nat}
    (member : length ∈ uhdLengths text)
    : ∃ first joint second tail,
        IsUhd first joint second ∧ text = first ++ (joint ++ (second ++ tail))
        ∧ length = (first ++ (joint ++ second)).length := by
  rw [uhdLengths_eq, List.mem_append, List.mem_append] at member
  rcases member with (spaced | dashed) | short
  · split at spaced
    · next starts =>
        rw [Bool.and_eq_true, List.isPrefixOf_iff_prefix, List.isPrefixOf_iff_prefix] at starts
        obtain ⟨⟨after, rfl⟩, tail, shape⟩ := starts
        have drop : (ultra ++ after).drop 5 = after := rfl
        rw [drop] at shape spaced
        have whole := @List.takeWhile_append_dropWhile _ isSpace after
        rw [← shape] at whole
        have length := List.mem_singleton.mp spaced
        by_cases none_ : after.takeWhile isSpace = []
        · refine ⟨ultra ++ hd, [], [], tail, .whole (by simp [uhdWords]), ?_, ?_⟩
          · rw [← whole, none_]
            simp
          · rw [length, none_]
            rfl
        · have separates : (after.takeWhile isSpace).all isSeparator = true := by
            rw [List.all_eq_true]
            intro c inside
            have blank := List.mem_takeWhile_imp inside
            rw [isSeparator, blank, Bool.or_true]
          refine ⟨ultra, after.takeWhile isSpace, hd, tail, .parts none_ separates, ?_, ?_⟩
          · rw [whole]
          · rw [length]
            simp [ultra, hd]
            omega
    · cases spaced
  · split at dashed
    · next starts =>
        obtain ⟨tail, rfl⟩ := List.isPrefixOf_iff_prefix.mp starts
        refine ⟨ultra, ['-'], hd, tail, .parts (List.cons_ne_nil _ _) (by decide), ?_, ?_⟩
        · simp
        · exact List.mem_singleton.mp dashed
    · cases dashed
  · split at short
    · next starts =>
        obtain ⟨tail, rfl⟩ := List.isPrefixOf_iff_prefix.mp starts
        refine ⟨['u', 'h', 'd'], [], [], tail, .whole (by simp [uhdWords]), rfl, ?_⟩
        exact List.mem_singleton.mp short
    · cases short

theorem IsUhd.exists_last {first joint second : List Char} (shape : IsUhd first joint second)
    : ∃ lead, first ++ (joint ++ second) = lead ++ ['d'] := by
  cases shape with
  | whole listed =>
      simp only [uhdWords, List.mem_cons, List.not_mem_nil, or_false] at listed
      rcases listed with rfl | rfl
      · exact ⟨['u', 'h'], rfl⟩
      · exact ⟨ultra ++ ['h'], rfl⟩
  | parts => exact ⟨ultra ++ (joint ++ ['h']), by simp [hd]⟩

theorem findUhd_plain (lawful : rules.Lawful) {before : Option Char} {letters rest : List Char}
    (all : letters.all rules.isAlphanumeric = true) (plain : letters ∉ uhdWords)
    (apart
      : letters = ultra →
          ∀ joint text,
            joint ≠ [] → joint.all isSeparator = true → rest = joint ++ (hd ++ text) →
              ¬EndsRun rules.isAlphanumeric text)
    (ends : EndsRun rules.isAlphanumeric rest)
    : findUhd rules before (letters ++ rest) = none := by
  have closed
      : (uhdLengths (letters ++ rest)).find? (fun length =>
          atBoundary rules ((letters ++ rest)[length - 1]?) (letters ++ rest)[length]?) = none := by
    rw [List.find?_eq_none]
    intro length member open_
    obtain ⟨first, joint, second, tail, shape, whole, rfl⟩ := exists_of_mem_uhdLengths member
    obtain ⟨lead, last⟩ := shape.exists_last
    have letter : rules.isAlphanumeric 'd' = true := lawful.letters.plain 'd' (.inl (by decide))
    have spelled : letters ++ rest = lead ++ 'd' :: tail := by
      rw [whole, ← List.append_assoc joint, ← List.append_assoc first, last]
      simp
    have size : (first ++ (joint ++ second)).length = lead.length + 1 := by simp [last]
    rw [size, spelled, Nat.add_sub_cancel, atBoundary_end letter] at open_
    have ends' : EndsRun rules.isAlphanumeric tail := by
      intro c next
      rw [next] at open_
      simp only [Option.any_some, isWordChar, Bool.not_eq_true', Bool.or_eq_false_iff] at open_
      exact open_.1
    cases shape with
    | whole listed =>
        obtain ⟨-, lower, -⟩ := uhdWords_spec listed
        have same := run_unique all (lower_alphanumeric lawful lower) ends ends' whole
        exact plain (same.1 ▸ listed)
    | parts some_ separates =>
        have same := run_unique all (ultra_alphanumeric lawful) ends
          (endsRun_of_separates lawful some_ separates _) whole
        exact apart same.1 joint tail some_ separates same.2 ends'
  rw [findUhd, findWord, closed]
  split <;> rfl

theorem findUhd_uhd (lawful : rules.Lawful) {before : Option Char} (fresh : Fresh rules before)
    {first joint second rest : List Char} (shape : IsUhd first joint second)
    (ends : EndsRun rules.isAlphanumeric rest)
    : findUhd rules before (first ++ (joint ++ second) ++ rest)
      = if isFree before joint rest.head? then
          some ((first ++ (joint ++ second)).length, fourK)
        else none := by
  cases shape with
  | whole listed =>
      rw [List.append_nil, List.append_nil]
      exact findUhd_whole lawful fresh listed ends
  | parts some_ separates =>
      rw [List.append_assoc, List.append_assoc]
      exact findUhd_parts lawful fresh some_ separates ends

theorem IsUhd.exists_first {first joint second : List Char} (shape : IsUhd first joint second)
    : ∃ lead, first ++ (joint ++ second) = 'u' :: lead ∧ ∀ c ∈ lead, c ≠ 'u' := by
  cases shape with
  | whole listed =>
      simp only [uhdWords, List.mem_cons, List.not_mem_nil, or_false] at listed
      rcases listed with rfl | rfl
      · exact ⟨['h', 'd'], rfl, by simp⟩
      · exact ⟨['l', 't', 'r', 'a', 'h', 'd'], rfl, by simp⟩
  | parts some_ separates =>
      refine ⟨['l', 't', 'r', 'a'] ++ (joint ++ hd), rfl, ?_⟩
      have front : ∀ c ∈ ['l', 't', 'r', 'a'], c ≠ 'u' := by simp
      have back : ∀ c ∈ hd, c ≠ 'u' := by simp [hd]
      have inside : ∀ c ∈ joint, c ≠ 'u' := by
        rintro c member rfl
        have impossible := List.all_eq_true.mp separates 'u' member
        revert impossible
        decide
      simp only [List.mem_append]
      rintro c (member | member | member)
      · exact front c member
      · exact inside c member
      · exact back c member

-- Renamed pieces

/-- Which words for ultra-high definition stand free, one after the other. -/
def uhdMarks (before : Option Char) : List Piece → List Bool
  | [] => []
  | .uhd first joint second :: rest =>
      isFree before joint (spell rest).head?
        :: uhdMarks (first ++ (joint ++ second)).getLast? rest
  | piece :: rest => uhdMarks piece.text.getLast? rest

/-- Replace the words that are marked. -/
def rename : List Bool → List Piece → List Piece
  | _, [] => []
  | marks, .uhd first joint second :: rest =>
      (if marks.head? = some true then .word fourK else .uhd first joint second)
        :: rename marks.tail rest
  | marks, piece :: rest => piece :: rename marks rest

theorem substitute_others {before : Option Char} {lead : List Char} (other : ∀ c ∈ lead, c ≠ 'u')
    (rest : List Char)
    : substitute (findUhd rules) 0 before (lead ++ rest)
      = lead ++ substitute (findUhd rules) 0 (lead.getLast?.or before) rest := by
  apply substitute_pass
  intro front c back shape
  exact findUhd_ne (other c (by simp [shape])) _

theorem substitute_letters {before : Option Char} {letters : List Char} (rest : List Char)
    (all : letters.all rules.isAlphanumeric = true)
    (none_ : findUhd rules before (letters ++ rest) = none)
    : substitute (findUhd rules) 0 before (letters ++ rest)
      = letters ++ substitute (findUhd rules) 0 (letters.getLast?.or before) rest := by
  apply substitute_pass
  intro front c back shape
  rw [List.all_eq_true] at all
  rcases List.eq_nil_or_concat front with rfl | ⟨front, p, rfl⟩
  · rw [shape] at none_
    exact none_
  · rw [List.concat_eq_append] at shape ⊢
    rw [List.getLast?_append, List.getLast?_singleton]
    exact findUhd_inside (all p (by simp [shape])) (all c (by simp [shape])) _

theorem fresh_of_starts {before : Option Char} {c : Char} {text : List Char}
    (letter : rules.isAlphanumeric c = true)
    (fresh : Fresh rules before ∨ EndsRun rules.isAlphanumeric (c :: text))
    : Fresh rules before := by
  rcases fresh with fresh | ends
  · exact fresh
  · rw [ends c rfl] at letter
    cases letter

theorem getLast?_or {lead : List Char} (some_ : lead ≠ []) (before : Option Char)
    : lead.getLast?.or before = lead.getLast? := by
  rw [List.getLast?_eq_some_getLast some_, Option.some_or]

/-- The expression replaces the words that stand free, by induction on the pieces. -/
theorem substitute_spell (lawful : rules.Lawful) {pieces : List Piece}
    (parted : Parted rules pieces) {before : Option Char}
    (fresh : Fresh rules before ∨ EndsRun rules.isAlphanumeric (spell pieces))
    : substitute (findUhd rules) 0 before (spell pieces)
      = spell (rename (uhdMarks before pieces) pieces) := by
  induction parted generalizing before with
  | nil => rfl
  | @uhd first joint second rest shape ends parted ih =>
      obtain ⟨lead, whole, other⟩ := shape.exists_first
      have letter : rules.isAlphanumeric 'u' = true := lawful.letters.plain 'u' (.inl (by decide))
      rw [spell_cons, Piece.text] at fresh ⊢
      have fresh : Fresh rules before := by
        rw [whole] at fresh
        exact fresh_of_starts letter fresh
      have found := findUhd_uhd lawful fresh shape ends
      have later := @ih (first ++ (joint ++ second)).getLast? (.inr ends)
      rw [uhdMarks, rename, List.head?_cons, List.tail_cons, spell_cons, ← later]
      cases free : isFree before joint (spell rest).head? with
      | true =>
          rw [free] at found
          rw [substitute_found (by simp [whole]) found]
          rfl
      | false =>
          rw [free] at found
          simp only [Bool.false_eq_true, if_false] at found
          rw [whole, List.cons_append] at found ⊢
          rw [substitute_cons_none found, substitute_others other, List.getLast?_cons]
          simp only [Option.some.injEq, Bool.false_eq_true, if_false, Piece.text, whole,
            List.cons_append]
          cases lead.getLast? <;> rfl
  | @word letters rest some_ all plain apart ends parted ih =>
      have later := @ih letters.getLast? (.inr ends)
      have none_ := @findUhd_plain rules lawful before letters _ all plain
        (fun same _ _ => parted.apart_text lawful (apart same)) ends
      rw [spell_cons, Piece.text, substitute_letters _ all none_, getLast?_or some_, later]
      rfl
  | @gap separators rest some_ separates ends parted ih =>
      have other : ∀ c ∈ separators, c ≠ 'u' := by
        rintro c member rfl
        have impossible := List.all_eq_true.mp separates 'u' member
        revert impossible
        decide
      have fresh : Fresh rules separators.getLast? := by
        intro c last
        by_contra letter
        have solid := separates_of_alphanumeric lawful (by simpa using letter)
        rw [List.all_eq_true.mp separates c (List.mem_of_mem_getLast? last)] at solid
        cases solid
      rw [spell_cons, Piece.text, substitute_others other, getLast?_or some_, ih (.inl fresh)]
      rfl
  | @sign c rest other solid parted ih =>
      have differ : c ≠ 'u' := by
        rintro rfl
        rw [lawful.letters.plain 'u' (.inl (by decide))] at other
        cases other
      have fresh : Fresh rules (some c) := by
        intro d same
        cases same
        exact other
      rw [spell_cons, Piece.text, List.singleton_append, substitute_cons_none (findUhd_ne differ _),
        ih (.inl fresh)]
      rfl

end OctoHubs.Libraries
