import OctoHubs.Libraries.NamePieces
import OctoHubs.Library.Grouping

/-! When names are grouped the same, however they are spelled. The words for ultra-high definition
are replaced before separators become blanks, so that some of them are missed.
-/

namespace OctoHubs.Libraries

open OctoHubs.Library

variable {rules : NameRules}

-- Tidy pieces

def Piece.blanked : Piece → Piece
  | uhd first joint second => uhd first (if joint = [] then [] else [' ']) second
  | word letters => word letters
  | gap _ => gap [' ']
  | sign c => sign c

def Piece.isGap : Piece → Bool
  | gap _ => true
  | _ => false

/-- The pieces without the gaps at their end. -/
def trimEnd : List Piece → List Piece
  | [] => []
  | piece :: rest => if piece.isGap && (trimEnd rest).isEmpty then [] else piece :: trimEnd rest

/-- The pieces with blanks for separators and none at the ends. -/
def tidy (pieces : List Piece) : List Piece :=
  trimEnd ((pieces.map Piece.blanked).dropWhile Piece.isGap)

/-- The text with blanks for separators, each of them between two words. -/
def cleaned (text : List Char) : List Char :=
  (strip (String.ofList (foldRuns isSpace ' ' false (foldRuns isPunctuation ' ' false text)))).toList

theorem solid_of_alphanumeric (lawful : rules.Lawful) {letters : List Char}
    (all : letters.all rules.isAlphanumeric = true)
    : ∀ c ∈ letters, isSeparator c = false :=
  fun c member => separates_of_alphanumeric lawful (List.all_eq_true.mp all c member)

theorem foldRuns_spell (lawful : rules.Lawful) {pieces : List Piece}
    (parted : Parted rules pieces)
    : foldRuns isSeparator ' ' false (spell pieces) = spell (pieces.map Piece.blanked) := by
  induction parted with
  | nil => rfl
  | @uhd first joint second rest shape ends parted ih =>
      rw [List.map_cons, spell_cons, spell_cons, ← ih]
      cases shape with
      | whole listed =>
          obtain ⟨-, lower, -⟩ := uhdWords_spec listed
          have solid := solid_of_alphanumeric lawful (lower_alphanumeric lawful lower)
          simp only [Piece.text, Piece.blanked, List.append_nil, if_true]
          rw [foldRuns_solid solid]
      | parts some_ separates =>
          have solid := solid_of_alphanumeric lawful (ultra_alphanumeric lawful)
          have solid' := solid_of_alphanumeric lawful (hd_alphanumeric lawful)
          simp only [Piece.text, Piece.blanked, if_neg some_, List.append_assoc]
          rw [foldRuns_solid solid, foldRuns_run some_ separates (endsRun_hd _),
            foldRuns_solid solid']
          rfl
  | @word letters rest some_ all plain apart ends parted ih =>
      rw [List.map_cons, spell_cons, spell_cons, ← ih]
      exact foldRuns_solid (solid_of_alphanumeric lawful all) _
  | @gap separators rest some_ separates ends parted ih =>
      rw [List.map_cons, spell_cons, spell_cons, ← ih]
      exact foldRuns_run some_ separates ends
  | @sign c rest other solid parted ih =>
      rw [List.map_cons, spell_cons, spell_cons, ← ih]
      exact foldRuns_solid (by simpa [Piece.text] using solid) _

def Piece.isLetters : Piece → Bool
  | uhd .. | word _ => true
  | _ => false

theorem Parted.ends (lawful : rules.Lawful) {piece : Piece} {rest : List Piece}
    (parted : Parted rules (piece :: rest))
    : piece.text ≠ []
      ∧ ∀ c, piece.text.head? = some c ∨ piece.text.getLast? = some c →
          rules.isAlphanumeric c = piece.isLetters ∧ isSeparator c = piece.isGap := by
  have letters {text : List Char} (all : text.all rules.isAlphanumeric = true) {c : Char}
      (place : text.head? = some c ∨ text.getLast? = some c)
      : rules.isAlphanumeric c = true ∧ isSeparator c = false := by
    have member := place.elim List.mem_of_mem_head? List.mem_of_mem_getLast?
    have letter := List.all_eq_true.mp all c member
    exact ⟨letter, separates_of_alphanumeric lawful letter⟩
  cases parted with
  | uhd shape =>
      cases shape with
      | whole listed =>
          obtain ⟨some_, lower, -⟩ := uhdWords_spec listed
          simp only [Piece.text, List.append_nil]
          exact ⟨some_, fun c => letters (lower_alphanumeric lawful lower)⟩
      | parts =>
          refine ⟨by simp [Piece.text, ultra], ?_⟩
          rintro c (first | last)
          · exact letters (ultra_alphanumeric lawful) (.inl first)
          · refine letters (hd_alphanumeric lawful) (.inr ?_)
            simpa [Piece.text, hd] using last
  | word some_ all => exact ⟨some_, fun c => letters all⟩
  | gap some_ separates =>
      refine ⟨some_, fun c place => ?_⟩
      have member := place.elim List.mem_of_mem_head? List.mem_of_mem_getLast?
      have separator := List.all_eq_true.mp separates c member
      refine ⟨?_, separator⟩
      by_contra letter
      rw [separates_of_alphanumeric lawful (by simpa [Piece.isLetters] using letter)] at separator
      cases separator
  | sign other solid =>
      refine ⟨List.cons_ne_nil _ _, fun c place => ?_⟩
      rcases place with first | last
      · cases first
        exact ⟨other, solid⟩
      · cases last
        exact ⟨other, solid⟩

theorem Parted.endsRun_iff (lawful : rules.Lawful) {pieces : List Piece}
    (parted : Parted rules pieces)
    : (EndsRun rules.isAlphanumeric (spell pieces) ↔ pieces.head?.any Piece.isLetters = false)
      ∧ (EndsRun isSeparator (spell pieces) ↔ pieces.head?.any Piece.isGap = false) := by
  cases pieces with
  | nil => simp [EndsRun, spell]
  | cons piece rest =>
      obtain ⟨some_, kinds⟩ := parted.ends lawful
      obtain ⟨c, tail, shape⟩ := List.exists_cons_of_ne_nil some_
      obtain ⟨letter, separator⟩ := kinds c (.inl (by rw [shape]; rfl))
      simp [EndsRun, spell_cons, shape, letter, separator]

/-- The first pieces stand for some of the others, in their order from the front. -/
inductive Resembles : List Piece → List Piece → Prop
  | nil {others : List Piece} : Resembles [] others
  | uhd {first joint second first' joint' second' : List Char} {pieces others : List Piece}
      (shape : IsUhd first' joint' second' → IsUhd first joint second)
      (rest : Resembles pieces others)
      : Resembles (.uhd first joint second :: pieces) (.uhd first' joint' second' :: others)
  | renamed {first joint second : List Char} {pieces others : List Piece}
      (rest : Resembles pieces others)
      : Resembles (.word fourK :: pieces) (.uhd first joint second :: others)
  | word {letters : List Char} {pieces others : List Piece} (rest : Resembles pieces others)
      : Resembles (.word letters :: pieces) (.word letters :: others)
  | gap {separators separators' : List Char} {pieces others : List Piece}
      (shape
        : separators' ≠ [] ∧ separators'.all isSeparator = true →
            separators ≠ [] ∧ separators.all isSeparator = true)
      (rest : Resembles pieces others)
      : Resembles (.gap separators :: pieces) (.gap separators' :: others)
  | sign {c : Char} {pieces others : List Piece} (rest : Resembles pieces others)
      : Resembles (.sign c :: pieces) (.sign c :: others)

theorem Resembles.endsRun (lawful : rules.Lawful) {pieces others : List Piece}
    (same : Resembles pieces others) (parted : Parted rules pieces)
    (parted' : Parted rules others)
    : (EndsRun rules.isAlphanumeric (spell others) → EndsRun rules.isAlphanumeric (spell pieces))
      ∧ (EndsRun isSeparator (spell others) → EndsRun isSeparator (spell pieces)) := by
  rw [(parted.endsRun_iff lawful).1, (parted.endsRun_iff lawful).2, (parted'.endsRun_iff lawful).1,
    (parted'.endsRun_iff lawful).2]
  cases same with
  | nil => exact ⟨fun _ => rfl, fun _ => rfl⟩
  | _ => exact ⟨id, id⟩

/-- Pieces that resemble others are parted as those are, by induction on them. -/
theorem Resembles.parted (lawful : rules.Lawful) {pieces others : List Piece}
    (same : Resembles pieces others) (parted : Parted rules others)
    : Parted rules pieces := by
  induction same with
  | nil => exact .nil
  | uhd shape rest ih =>
      cases parted with
      | uhd shape' ends parted =>
          have ends' := (rest.endsRun lawful (ih parted) parted).1 ends
          exact .uhd (shape shape') ends' (ih parted)
  | renamed rest ih =>
      cases parted with
      | uhd _ ends parted =>
          have ends' := (rest.endsRun lawful (ih parted) parted).1 ends
          have all : fourK.all rules.isAlphanumeric = true := by
            rw [List.all_eq_true]
            intro c member
            have plain : fourK.all (fun c => c.isLower || c.isDigit) = true := by decide
            exact lawful.letters.plain c (by simpa using List.all_eq_true.mp plain c member)
          have differ : fourK ≠ ultra := by decide
          exact .word (List.cons_ne_nil _ _) all (by decide) (fun same => absurd same differ) ends'
            (ih parted)
  | word rest ih =>
      cases parted with
      | word some_ all plain apart ends parted =>
          have ends' := (rest.endsRun lawful (ih parted) parted).1 ends
          refine .word some_ all plain ?_ ends' (ih parted)
          rintro same joint after rfl
          have differ : fourK ≠ hd := by decide
          cases rest with
          | gap _ rest =>
              cases rest with
              | word => exact apart same _ _ rfl
  | gap shape rest ih =>
      cases parted with
      | gap some_ separates ends parted =>
          have ends' := (rest.endsRun lawful (ih parted) parted).2 ends
          exact .gap (shape ⟨some_, separates⟩).1 (shape ⟨some_, separates⟩).2 ends' (ih parted)
  | sign rest ih =>
      cases parted with
      | sign other solid parted => exact .sign other solid (ih parted)

theorem Resembles.blanked (pieces : List Piece)
    : Resembles (pieces.map Piece.blanked) pieces := by
  have separates : [' '].all isSeparator = true := by decide
  induction pieces with
  | nil => exact .nil
  | cons piece rest ih =>
      cases piece with
      | uhd first joint second =>
          refine .uhd (fun shape => ?_) ih
          cases shape with
          | whole listed => exact .whole listed
          | parts some_ =>
              rw [if_neg some_]
              exact .parts (List.cons_ne_nil _ _) separates
      | word => exact .word ih
      | gap => exact .gap (fun _ => ⟨List.cons_ne_nil _ _, separates⟩) ih
      | sign => exact .sign ih

theorem Resembles.trimEnd (pieces : List Piece) : Resembles (trimEnd pieces) pieces := by
  induction pieces with
  | nil => exact .nil
  | cons piece rest ih =>
      rw [Libraries.trimEnd]
      split
      · exact .nil
      · cases piece with
        | uhd => exact .uhd id ih
        | word => exact .word ih
        | gap => exact .gap id ih
        | sign => exact .sign ih

theorem Resembles.rename (marks : List Bool) (pieces : List Piece)
    : Resembles (rename marks pieces) pieces := by
  induction pieces generalizing marks with
  | nil => exact .nil
  | cons piece rest ih =>
      cases piece with
      | uhd =>
          rw [Libraries.rename]
          split
          · exact .renamed (ih _)
          · exact .uhd id (ih _)
      | word => exact .word (ih marks)
      | gap => exact .gap id (ih marks)
      | sign => exact .sign (ih marks)

theorem isPrefix_trimEnd (pieces : List Piece) : trimEnd pieces <+: pieces := by
  induction pieces with
  | nil => exact List.nil_prefix
  | cons piece rest ih =>
      rw [trimEnd]
      split
      · exact List.nil_prefix
      · exact List.cons_prefix_cons.mpr ⟨rfl, ih⟩

theorem Parted.tail {piece : Piece} {rest : List Piece} (parted : Parted rules (piece :: rest))
    : Parted rules rest := by
  cases parted <;> assumption

theorem Parted.dropWhile {pieces : List Piece} (parted : Parted rules pieces)
    (drops : Piece → Bool)
    : Parted rules (pieces.dropWhile drops) := by
  induction pieces with
  | nil => exact .nil
  | cons piece rest ih =>
      rw [List.dropWhile_cons]
      split
      · exact ih parted.tail
      · exact parted

theorem Parted.tidy (lawful : rules.Lawful) {pieces : List Piece} (parted : Parted rules pieces)
    : Parted rules (tidy pieces) :=
  (Resembles.trimEnd _).parted lawful
    (((Resembles.blanked pieces).parted lawful parted).dropWhile Piece.isGap)

-- Keys

def Blanks (pieces : List Piece) : Prop := ∀ piece ∈ pieces, piece.isGap = true → piece.text = [' ']

theorem dropWhile_spell (lawful : rules.Lawful) {pieces : List Piece}
    (parted : Parted rules pieces) (blanks : Blanks pieces)
    : (spell pieces).dropWhile isSpace = spell (pieces.dropWhile Piece.isGap) := by
  induction pieces with
  | nil => rfl
  | cons piece rest ih =>
      have later := ih parted.tail (fun other member => blanks other (List.mem_cons_of_mem _ member))
      obtain ⟨some_, kinds⟩ := parted.ends lawful
      rw [spell_cons, List.dropWhile_cons]
      cases kind : piece.isGap with
      | true =>
          have blank : isSpace ' ' = true := by decide
          rw [blanks piece List.mem_cons_self kind, List.singleton_append,
            List.dropWhile_cons_of_pos blank, later, if_pos rfl]
      | false =>
          obtain ⟨c, tail, shape⟩ := List.exists_cons_of_ne_nil some_
          have solid := (kinds c (.inl (by rw [shape]; rfl))).2
          rw [kind, isSeparator, Bool.or_eq_false_iff] at solid
          rw [shape, List.cons_append, List.dropWhile_cons_of_neg (by simp [solid.2]),
            ← List.cons_append, ← shape]
          rfl

theorem rdropWhile_append {α : Type*} (drops : α → Bool) (front back : List α)
    : (front ++ back).rdropWhile drops
      = if back.rdropWhile drops = [] then front.rdropWhile drops
        else front ++ back.rdropWhile drops := by
  simp only [List.rdropWhile, List.reverse_append, List.dropWhile_append, List.isEmpty_iff,
    List.reverse_eq_nil_iff]
  split <;> simp

theorem spell_eq_nil_iff (lawful : rules.Lawful) {pieces : List Piece}
    (parted : Parted rules pieces)
    : spell pieces = [] ↔ pieces = [] := by
  cases pieces with
  | nil => simp [spell]
  | cons piece rest => simp [spell_cons, (parted.ends lawful).1]

theorem rdropWhile_spell (lawful : rules.Lawful) {pieces : List Piece}
    (parted : Parted rules pieces) (blanks : Blanks pieces)
    : (spell pieces).rdropWhile isSpace = spell (trimEnd pieces) := by
  induction pieces with
  | nil => rfl
  | cons piece rest ih =>
      have later := ih parted.tail (fun other member => blanks other (List.mem_cons_of_mem _ member))
      have parted' := (Resembles.trimEnd rest).parted lawful parted.tail
      obtain ⟨some_, kinds⟩ := parted.ends lawful
      rw [spell_cons, rdropWhile_append, later, trimEnd]
      simp only [spell_eq_nil_iff lawful parted']
      by_cases none_ : trimEnd rest = []
      · rw [if_pos none_]
        cases kind : piece.isGap with
        | true =>
            rw [blanks piece List.mem_cons_self kind]
            simp [none_]
            rfl
        | false =>
            obtain ⟨lead, c, shape⟩ := (List.eq_nil_or_concat piece.text).resolve_left some_
            rw [List.concat_eq_append] at shape
            have solid := (kinds c (.inr (by simp [shape]))).2
            rw [kind, isSeparator, Bool.or_eq_false_iff] at solid
            rw [shape, List.rdropWhile_concat_neg _ _ _ (by simp [solid.2])]
            simp [none_, spell, shape]
      · simp [none_, spell_cons]

theorem cleaned_spell (lawful : rules.Lawful) {pieces : List Piece} (parted : Parted rules pieces)
    : cleaned (spell pieces) = spell (tidy pieces) := by
  have own : isSpace ' ' = true := by decide
  have folded := @foldRuns_foldRuns _ isPunctuation isSpace ' ' own (spell pieces) false false id
  have blanked := (Resembles.blanked pieces).parted lawful parted
  have blanks : Blanks (pieces.map Piece.blanked) := by
    intro piece member gap
    obtain ⟨source, -, rfl⟩ := List.mem_map.mp member
    cases source <;> first | rfl | cases gap
  rw [cleaned, folded, strip, String.toList_ofList, String.toList_ofList]
  show ((foldRuns isSeparator ' ' false (spell pieces)).dropWhile isSpace).rdropWhile isSpace = _
  rw [foldRuns_spell lawful parted, dropWhile_spell lawful blanked blanks,
    rdropWhile_spell lawful (blanked.dropWhile _)
      (fun piece member => blanks piece ((List.dropWhile_sublist _).subset member))]
  rfl

theorem rename_tidy (marks : List Bool) (pieces : List Piece)
    : tidy (rename marks pieces) = rename marks (tidy pieces) := by
  have blanked (marks : List Bool) (pieces : List Piece)
      : (rename marks pieces).map Piece.blanked = rename marks (pieces.map Piece.blanked) := by
    induction pieces generalizing marks with
    | nil => rfl
    | cons piece rest ih =>
        cases piece with
        | uhd =>
            by_cases mark : marks.head? = some true <;> simp [rename, ih, Piece.blanked, mark]
        | _ => simp [rename, ih, Piece.blanked]
  have dropped (marks : List Bool) (pieces : List Piece)
      : (rename marks pieces).dropWhile Piece.isGap
        = rename marks (pieces.dropWhile Piece.isGap) := by
    induction pieces with
    | nil => rfl
    | cons piece rest ih =>
        cases piece with
        | uhd =>
            by_cases mark : marks.head? = some true <;>
              simp [rename, Piece.isGap, mark]
        | gap => simpa [rename, List.dropWhile_cons, Piece.isGap] using ih
        | _ => simp [rename, Piece.isGap]
  have trimmed (marks : List Bool) (pieces : List Piece)
      : trimEnd (rename marks pieces) = rename marks (trimEnd pieces) := by
    have none_ (marks : List Bool) (pieces : List Piece)
        : (rename marks pieces).isEmpty = pieces.isEmpty := by
      cases pieces with
      | nil => rfl
      | cons piece rest => cases piece <;> rfl
    induction pieces generalizing marks with
    | nil => rfl
    | cons piece rest ih =>
        cases piece with
        | uhd =>
            by_cases mark : marks.head? = some true <;>
              simp [rename, trimEnd, ih, Piece.isGap, mark]
        | gap =>
            simp only [rename, trimEnd, ih, none_]
            split <;> simp [rename]
        | _ => simp [rename, trimEnd, ih, Piece.isGap]
  rw [tidy, tidy, blanked, dropped, trimmed]

def Piece.isUhd : Piece → Bool
  | uhd .. => true
  | _ => false

/-- Different marks give different names, by induction on the pieces. -/
theorem rename_injective {pieces : List Piece} {marks marks' : List Bool}
    (length : marks.length = pieces.countP Piece.isUhd)
    (length' : marks'.length = pieces.countP Piece.isUhd)
    (same : rename marks pieces = rename marks' pieces)
    : marks = marks' := by
  induction pieces generalizing marks marks' with
  | nil =>
      rw [List.length_eq_zero_iff.mp length, List.length_eq_zero_iff.mp length']
  | cons piece rest ih =>
      cases piece with
      | uhd first joint second =>
          rw [List.countP_cons_of_pos rfl] at length length'
          obtain ⟨mark, marks, rfl⟩ := List.exists_cons_of_length_eq_add_one length
          obtain ⟨mark', marks', rfl⟩ := List.exists_cons_of_length_eq_add_one length'
          simp only [rename, List.head?_cons, List.tail_cons, List.cons.injEq] at same
          have rest_ := ih (Nat.succ.inj length) (Nat.succ.inj length') same.2
          have first_ : mark = mark' := by
            cases mark <;> cases mark' <;> first | rfl | exact absurd same.1 (by simp)
          rw [rest_, first_]
      | word => exact ih length length' (List.cons.inj same).2
      | gap => exact ih length length' (List.cons.inj same).2
      | sign => exact ih length length' (List.cons.inj same).2

/-- Renaming all that is left renames all, by induction on the pieces. -/
theorem rename_rename {pieces : List Piece} {marks again : List Bool}
    (length : marks.length = pieces.countP Piece.isUhd) (all : ∀ mark ∈ again, mark = true)
    (length' : again.length = (rename marks pieces).countP Piece.isUhd)
    : rename again (rename marks pieces)
      = rename (List.replicate (pieces.countP Piece.isUhd) true) pieces := by
  induction pieces generalizing marks again with
  | nil => rfl
  | cons piece rest ih =>
      cases piece with
      | uhd first joint second =>
          rw [List.countP_cons_of_pos rfl] at length ⊢
          obtain ⟨mark, marks, rfl⟩ := List.exists_cons_of_length_eq_add_one length
          have count := Nat.succ.inj length
          cases mark with
          | true =>
              have listed := ih count all length'
              simpa [rename, List.replicate_succ] using listed
          | false =>
              have left : again.length = (rename marks rest).countP Piece.isUhd + 1 := by
                simpa [rename, Piece.isUhd, List.countP_cons] using length'
              obtain ⟨mark, again, rfl⟩ := List.exists_cons_of_length_eq_add_one left
              have listed := ih count (fun mark member => all mark (List.mem_cons_of_mem _ member))
                (Nat.succ.inj left)
              simpa [rename, List.replicate_succ, all mark List.mem_cons_self] using listed
      | word => exact congrArg _ (ih length all length')
      | gap => exact congrArg _ (ih length all length')
      | sign => exact congrArg _ (ih length all length')

theorem length_uhdMarks (before : Option Char) (pieces : List Piece)
    : (uhdMarks before pieces).length = pieces.countP Piece.isUhd := by
  induction pieces generalizing before with
  | nil => rfl
  | cons piece rest ih => cases piece <;> simp [uhdMarks, ih, Piece.isUhd, List.countP_cons]

theorem countP_tidy (pieces : List Piece)
    : (tidy pieces).countP Piece.isUhd = pieces.countP Piece.isUhd := by
  have blanked : (pieces.map Piece.blanked).countP Piece.isUhd = pieces.countP Piece.isUhd := by
    rw [List.countP_map]
    exact List.countP_congr (fun piece _ => by cases piece <;> simp [Piece.blanked, Piece.isUhd])
  have dropped (pieces : List Piece)
      : (pieces.dropWhile Piece.isGap).countP Piece.isUhd = pieces.countP Piece.isUhd := by
    induction pieces with
    | nil => rfl
    | cons piece rest ih =>
        cases piece <;> simp [List.dropWhile_cons, Piece.isGap, Piece.isUhd, List.countP_cons, ih]
  have trimmed (pieces : List Piece)
      : (trimEnd pieces).countP Piece.isUhd = pieces.countP Piece.isUhd := by
    induction pieces with
    | nil => rfl
    | cons piece rest ih =>
        rw [trimEnd]
        split
        · next trailing =>
            rw [Bool.and_eq_true, List.isEmpty_iff] at trailing
            rw [trailing.2] at ih
            cases piece <;> simp_all [Piece.isGap, Piece.isUhd]
        · rw [List.countP_cons, List.countP_cons, ih]
  rw [tidy, trimmed, dropped, blanked]

theorem Piece.blanked_blanked (piece : Piece) : piece.blanked.blanked = piece.blanked := by
  cases piece with
  | uhd first joint second => by_cases none_ : joint = [] <;> simp [Piece.blanked, none_]
  | _ => rfl

theorem tidy_tidy (pieces : List Piece) : tidy (tidy pieces) = tidy pieces := by
  have front := isPrefix_trimEnd ((pieces.map Piece.blanked).dropWhile Piece.isGap)
  have blanked : (tidy pieces).map Piece.blanked = tidy pieces := by
    refine (List.map_congr_left ?_).trans (List.map_id _)
    intro piece member
    have inside := (List.dropWhile_sublist _).subset (front.subset member)
    obtain ⟨source, -, rfl⟩ := List.mem_map.mp inside
    exact source.blanked_blanked
  have dropped : (tidy pieces).dropWhile Piece.isGap = tidy pieces := by
    have visible := List.head?_dropWhile_not Piece.isGap (pieces.map Piece.blanked)
    obtain ⟨back, whole⟩ := front
    rw [← whole] at visible
    rw [tidy]
    cases shape : trimEnd ((pieces.map Piece.blanked).dropWhile Piece.isGap) with
    | nil => rfl
    | cons piece rest =>
        rw [shape] at visible
        rw [List.dropWhile_cons_of_neg (by simpa using visible)]
  have trimmed (pieces : List Piece) : trimEnd (trimEnd pieces) = trimEnd pieces := by
    induction pieces with
    | nil => rfl
    | cons piece rest ih =>
        rw [trimEnd]
        split
        · rfl
        · next kept => rw [trimEnd, ih, if_neg kept]
  conv_lhs => rw [tidy, blanked, dropped]
  exact trimmed _

-- Names

def nameText (rules : NameRules) (name : String) : List Char := (rules.lower (strip name)).toList

def namePieces (rules : NameRules) (name : String) : List Piece :=
  piecesOf rules (nameText rules name)

/-- Which words for ultra-high definition stand free in a name. -/
def nameMarks (rules : NameRules) (name : String) : List Bool :=
  uhdMarks none (namePieces rules name)

/-- The names differ in letter case and separators only. -/
def SameWords (rules : NameRules) (name other : String) : Prop :=
  cleaned (nameText rules name) = cleaned (nameText rules other)

theorem substitute_fourK (text : List Char)
    : substitute (findWord rules fourKLengths "4k".toList) 0 none text = text := by
  refine substitute_self ?_ 0 text
  intro before text length replacement found
  rw [findWord] at found
  split at found
  · obtain ⟨shown, listed, same⟩ := Option.map_eq_some_iff.mp found
    have member := List.mem_of_find?_eq_some listed
    rw [fourKLengths] at member
    split at member
    · next starts =>
        obtain ⟨tail, rfl⟩ := List.isPrefixOf_iff_prefix.mp starts
        have short : "4k".toList = ['4', 'k'] := by decide
        cases List.mem_singleton.mp member
        cases same
        rw [short]
        exact ⟨rfl, Nat.two_pos, by simp⟩
    · cases member
  · cases found

theorem toList_normalize (lawful : rules.Lawful) (name : String)
    : (normalizeNameForGrouping rules (.text name)).toList
      = spell (rename (nameMarks rules name) (tidy (namePieces rules name))) := by
  have parted := parted_piecesOf lawful (nameText rules name)
  have fresh : Fresh rules none := fun _ impossible => nomatch impossible
  have replaced := substitute_spell lawful parted (.inl fresh)
  have short : "4k".toList = fourK := by decide
  have found : findWord rules uhdLengths "4k".toList = findUhd rules := by
    rw [short]
    rfl
  rw [spell_piecesOf lawful] at replaced
  have cleaned_ := cleaned_spell lawful
    ((Resembles.rename (nameMarks rules name) _).parted lawful parted)
  rw [rename_tidy] at cleaned_
  rw [← namePieces, ← cleaned_, ← nameMarks] at *
  simp only [normalizeNameForGrouping, substitute_fourK, found]
  rw [← nameText, replaced]
  rfl

theorem parted_tidyName (lawful : rules.Lawful) (name : String) (marks : List Bool)
    : Parted rules (rename marks (tidy (namePieces rules name))) :=
  (Resembles.rename marks _).parted lawful ((parted_piecesOf lawful _).tidy lawful)

theorem length_nameMarks (name : String)
    : (nameMarks rules name).length = (tidy (namePieces rules name)).countP Piece.isUhd := by
  rw [nameMarks, length_uhdMarks, countP_tidy]

theorem spell_injective (lawful : rules.Lawful) {pieces others : List Piece}
    (parted : Parted rules pieces) (parted' : Parted rules others)
    (same : spell pieces = spell others)
    : pieces = others := by
  rw [← piecesOf_spell lawful parted, same, piecesOf_spell lawful parted']

theorem normalize_eq_iff (lawful : rules.Lawful) {name other : String}
    (same : SameWords rules name other)
    : normalizeNameForGrouping rules (.text name) = normalizeNameForGrouping rules (.text other)
      ↔ nameMarks rules name = nameMarks rules other := by
  have spelled (name : String)
      : cleaned (nameText rules name) = spell (tidy (namePieces rules name)) := by
    have cleaned_ := cleaned_spell lawful (parted_piecesOf lawful (nameText rules name))
    rwa [spell_piecesOf lawful] at cleaned_
  have tidied : tidy (namePieces rules name) = tidy (namePieces rules other) := by
    rw [SameWords, spelled, spelled] at same
    exact spell_injective lawful ((parted_piecesOf lawful _).tidy lawful)
      ((parted_piecesOf lawful _).tidy lawful) same
  rw [← String.toList_inj, toList_normalize lawful, toList_normalize lawful, ← tidied]
  constructor
  · intro keys
    have parted := parted_tidyName lawful name
    exact rename_injective (length_nameMarks name) (tidied ▸ length_nameMarks other)
      (spell_injective lawful (parted _) (parted _) keys)
  · intro marks
    rw [marks]

theorem Parted.no_line (lawful : rules.Lawful) {piece : Piece} {rest : List Piece}
    (parted : Parted rules (piece :: rest)) (blank : piece.blanked = piece)
    : piece.text.head? ≠ some '_' ∧ piece.text.getLast? ≠ some '_' := by
  have separates : isSeparator '_' = true := by decide
  have gap (place : piece.text.head? = some '_' ∨ piece.text.getLast? = some '_') : False := by
    have kind := ((parted.ends lawful).2 '_' place).2.symm.trans separates
    cases piece with
    | gap separators =>
        cases blank
        revert place
        decide
    | _ => cases kind
  exact ⟨fun first => gap (.inl first), fun last => gap (.inr last)⟩

theorem uhdMarks_blanks (lawful : rules.Lawful) {pieces : List Piece}
    (parted : Parted rules pieces) (blanks : ∀ piece ∈ pieces, piece.blanked = piece)
    {before : Option Char} (free : before ≠ some '_')
    : ∀ mark ∈ uhdMarks before pieces, mark = true := by
  induction pieces generalizing before with
  | nil => exact fun _ impossible => nomatch impossible
  | cons piece rest ih =>
      have last := (parted.no_line lawful (blanks piece List.mem_cons_self)).2
      have later := ih parted.tail (fun other member => blanks other (List.mem_cons_of_mem _ member))
        last
      cases piece with
      | uhd first joint second =>
          have blank := blanks _ List.mem_cons_self
          have joined : joint.all isSpace = true := by
            by_cases none_ : joint = []
            · rw [none_]
              rfl
            · have same : [' '] = joint := by simpa [Piece.blanked, none_] using blank
              rw [← same]
              decide
          have after : (spell rest).head? ≠ some '_' := by
            cases rest with
            | nil => exact fun impossible => nomatch impossible
            | cons next rest =>
                have first_ := (parted.tail.no_line lawful (blanks next (by simp))).1
                have some_ := (parted.tail.ends lawful).1
                rw [spell_cons, List.head?_append_of_ne_nil _ some_]
                exact first_
          intro mark member
          rcases List.mem_cons.mp member with rfl | member
          · simp [isFree, free, joined, after]
          · exact later mark member
      | _ => exact later

theorem mem_spell_rename {marks : List Bool} {pieces : List Piece} {c : Char}
    (member : c ∈ spell (rename marks pieces))
    : c ∈ fourK ∨ c ∈ spell pieces := by
  induction pieces generalizing marks with
  | nil => exact .inr member
  | cons piece rest ih =>
      cases piece with
      | uhd first joint second =>
          rw [rename, spell_cons, List.mem_append] at member
          rw [spell_cons, List.mem_append]
          rcases member with here | later
          · split at here
            · exact .inl here
            · exact .inr (.inl here)
          · exact (ih later).imp_right .inr
      | _ =>
          rw [rename, spell_cons, List.mem_append] at member
          · rw [spell_cons, List.mem_append]
            rcases member with here | later
            · exact .inr (.inl here)
            · exact (ih later).imp_right .inr
          · simp

theorem mem_spell_tidy {pieces : List Piece} {c : Char} (member : c ∈ spell (tidy pieces))
    : c = ' ' ∨ c ∈ spell pieces := by
  obtain ⟨piece, listed, inside⟩ := List.mem_flatMap.mp member
  have blanked := (List.dropWhile_sublist _).subset ((isPrefix_trimEnd _).subset listed)
  obtain ⟨source, given, rfl⟩ := List.mem_map.mp blanked
  have kept : c = ' ' ∨ c ∈ source.text := by
    cases source with
    | uhd first joint second =>
        by_cases none_ : joint = [] <;> simp [Piece.blanked, Piece.text, none_] at inside ⊢ <;> tauto
    | gap => exact .inl (List.mem_singleton.mp inside)
    | _ => exact .inr inside
  exact kept.imp_right (fun inside => List.mem_flatMap.mpr ⟨source, given, inside⟩)

theorem nameText_normalize (lawful : rules.Lawful) (name : String)
    : nameText rules (normalizeNameForGrouping rules (.text name))
      = (normalizeNameForGrouping rules (.text name)).toList := by
  have stripped : strip (normalizeNameForGrouping rules (.text name))
      = normalizeNameForGrouping rules (.text name) :=
    strip_strip _
  have settled : ∀ c ∈ (normalizeNameForGrouping rules (.text name)).toList, rules.Settled c := by
    intro c member
    rw [toList_normalize lawful] at member
    rcases mem_spell_rename member with four | tidied
    · have plain : ∀ c ∈ fourK, c.isLower = true ∨ c.isDigit = true := by simp [fourK]
      exact lawful.letters.settled_plain c ((plain c four).imp_right .inl)
    · rcases mem_spell_tidy tidied with rfl | inside
      · exact lawful.blank
      · rw [namePieces, spell_piecesOf lawful] at inside
        exact lawful.letters.lower_settles _ c inside
  rw [nameText, stripped, lawful.letters.lower_of_settled _ settled]

theorem normalize_again_iff (lawful : rules.Lawful) (name : String)
    : normalizeNameForGrouping rules (.text (normalizeNameForGrouping rules (.text name)))
        = normalizeNameForGrouping rules (.text name)
      ↔ ∀ mark ∈ nameMarks rules name, mark = true := by
  have parted := parted_tidyName lawful name
  have count := @length_nameMarks rules name
  have pieces
      : namePieces rules (normalizeNameForGrouping rules (.text name))
        = rename (nameMarks rules name) (tidy (namePieces rules name)) := by
    rw [namePieces, nameText_normalize lawful, toList_normalize lawful,
      piecesOf_spell lawful (parted _)]
  have settled
      : tidy (rename (nameMarks rules name) (tidy (namePieces rules name)))
        = rename (nameMarks rules name) (tidy (namePieces rules name)) := by
    rw [rename_tidy, tidy_tidy]
  have all := uhdMarks_blanks lawful (parted (nameMarks rules name))
    (fun piece member => by
      rw [← settled] at member
      have inside := (List.dropWhile_sublist _).subset ((isPrefix_trimEnd _).subset member)
      obtain ⟨source, -, rfl⟩ := List.mem_map.mp inside
      exact source.blanked_blanked)
    (Option.some_ne_none '_').symm
  have renamed := rename_rename count all (length_uhdMarks none _)
  rw [← String.toList_inj, toList_normalize lawful, toList_normalize lawful, nameMarks, pieces,
    settled, renamed]
  constructor
  · intro same
    have marks := rename_injective (List.length_replicate ..) count
      (spell_injective lawful (parted _) (parted _) same)
    rw [← marks]
    exact fun mark member => (List.mem_replicate.mp member).2
  · intro free
    rw [← count, ← List.eq_replicate_of_mem free]

-- Groups

/-- Libraries are listed with a collection type and a name, each in the group of its key. -/
structure GroupedByKey (rules : NameRules) (servers : Dict String Json)
    (associations : Dict (String × String) String)
    : Prop where
  listed
    : ∀ serverId payload entry,
        (placeLibrary rules associations serverId payload entry).isSome = true
        ↔ (∃ collectionType, entry.field "collection_type" = .text collectionType)
          ∧ ((manualGroupName rules associations serverId entry).isSome = true
            ∨ ownName rules entry ≠ "")
  own
    : ∀ serverId payload entry placement,
        manualGroupName rules associations serverId entry = none →
          placeLibrary rules associations serverId payload entry = some placement →
            placement.key.1 = ownName rules entry
            ∧ entry.field "collection_type" = .text placement.key.2
  partition
    : ∃ keys : List GroupKey,
        keys.Nodup
        ∧ (∀ key, key ∈ keys ↔ ∃ placed ∈ placements rules servers associations, placed.key = key)
        ∧ (groupLibraries rules servers associations).map
              (fun group => (group.collectionType, group.libraries))
            = keys.map (fun key =>
                (key.2,
                  ((placements rules servers associations).filter (·.key = key)).map
                    Placement.library))

def LibraryGroup.listing (group : LibraryGroup) : String × List GroupedLibrary :=
  (group.collectionType, group.libraries)

theorem listing_addLibrary (groups : Dict GroupKey LibraryGroup) (last : Placement)
    : ((addLibrary rules groups last).get? last.key).map LibraryGroup.listing
      = match (groups.get? last.key).map LibraryGroup.listing with
        | none => some (last.key.2, [last.library])
        | some listing => some (listing.1, listing.2 ++ [last.library]) := by
  rw [addLibrary, Dict.get?_set_self]
  cases groups.get? last.key with
  | none => rfl
  | some group =>
      simp only [Option.map_some, LibraryGroup.listing]
      split <;> rfl

theorem listing_addLibraries (placed : List Placement) (key : GroupKey)
    : ((placed.foldl (addLibrary rules) ∅).get? key).map LibraryGroup.listing
      = if placed.filter (·.key = key) = [] then none
        else some (key.2, (placed.filter (·.key = key)).map Placement.library) := by
  induction placed using List.reverseRecOn with
  | nil => rfl
  | append_singleton placed last ih =>
      rw [List.foldl_concat, List.filter_append, List.filter_singleton]
      by_cases same : last.key = key
      · subst same
        rw [listing_addLibrary, ih]
        by_cases none_ : placed.filter (·.key = last.key) = [] <;> simp [none_]
      · rw [addLibrary, Dict.get?_set_ne _ _ (Ne.symm same), ih]
        simp [same]

theorem mem_keys_addLibraries (placed : List Placement) (key : GroupKey)
    : key ∈ (placed.foldl (addLibrary rules) ∅).keys ↔ ∃ one ∈ placed, one.key = key := by
  rw [Dict.mem_keys_iff_isSome, ← Option.isSome_map (f := LibraryGroup.listing),
    listing_addLibraries]
  split
  · next none_ => simpa using List.filter_eq_nil_iff.mp none_
  · next some_ => simpa using some_

theorem groupedByKey (servers : Dict String Json) (associations : Dict (String × String) String)
    : GroupedByKey rules servers associations where
  listed serverId payload entry := by
    rw [placeLibrary]
    cases entry.field "collection_type" with
    | text collectionType =>
        cases manualGroupName rules associations serverId entry with
        | some manualName => simp
        | none => by_cases named : ownName rules entry = "" <;> simp [named]
    | _ => simp
  own serverId payload entry placement alone placed := by
    rw [placeLibrary, alone] at placed
    split at placed
    · next collectionType found =>
        dsimp only at placed
        by_cases named : ownName rules entry = ""
        · rw [if_pos named] at placed
          cases placed
        · rw [if_neg named] at placed
          rw [← Option.some.inj placed]
          exact ⟨rfl, found⟩
    · cases placed
  partition := by
    refine ⟨((placements rules servers associations).foldl (addLibrary rules) ∅).keys,
      Dict.nodup _, mem_keys_addLibraries _, ?_⟩
    rw [groupLibraries, Dict.keys, Dict.values, List.map_map, List.map_map, List.map_map]
    refine List.map_congr_left (fun item stored => ?_)
    have found := @listing_addLibraries rules (placements rules servers associations) item.1
    rw [Dict.mem_items_iff.mp stored] at found
    split at found
    · cases found
    · exact Option.some.inj found

/-- Libraries are grouped by their names, in whatever case and with whatever separators they are
spelled, as far as the words for ultra-high definition stand free in them.
-/
theorem grouped_by_words_iff (rules : NameRules) (lawful : rules.Lawful)
    : (∀ name,
        normalizeNameForGrouping rules (.text (normalizeNameForGrouping rules (.text name)))
          = normalizeNameForGrouping rules (.text name)
        ↔ ∀ mark ∈ nameMarks rules name, mark = true)
      ∧ (∀ name other, SameWords rules name other →
          (normalizeNameForGrouping rules (.text name)
              = normalizeNameForGrouping rules (.text other)
            ↔ nameMarks rules name = nameMarks rules other))
      ∧ ∀ servers associations, GroupedByKey rules servers associations :=
  ⟨normalize_again_iff lawful, fun _ _ same => normalize_eq_iff lawful same, groupedByKey⟩

def plainNames : NameRules where
  lower text := String.ofList (text.toList.map Char.toLower)
  isAlphanumeric := Char.isAlphanum
  readInt? _ := none
  showNested _ := "[]"
  forbidden _ := false

theorem plainNames_lawful : plainNames.Lawful where
  letters := Alphabet.lawful_of_ascii (fun _ => String.toList_ofList) (fun _ => rfl)
  blank := rfl
  separators c punctuation := by
    have listed : c ∈ ".,-:_()[]\x7b\x7d".toList := List.elem_iff.mp punctuation
    have plain : (".,-:_()[]\x7b\x7d".toList).all (fun c => !c.isAlphanum) = true := by decide
    exact Bool.not_eq_true' _ ▸ List.all_eq_true.mp plain c listed

theorem film_uhd_grouped
    : normalizeNameForGrouping plainNames (.text "Film UHD")
        = normalizeNameForGrouping plainNames (.text "film.uhd")
      ∧ GroupedByKey plainNames ∅ ∅ := by
  obtain ⟨-, keys, groups⟩ := grouped_by_words_iff plainNames plainNames_lawful
  have same : SameWords plainNames "Film UHD" "film.uhd" := by
    rw [SameWords]
    decide +kernel
  have marks : nameMarks plainNames "Film UHD" = nameMarks plainNames "film.uhd" := by
    decide +kernel
  exact ⟨(keys _ _ same).mpr marks, groups ∅ ∅⟩

/-- An underscore hides the word for ultra-high definition next to it, and is a blank in the key. -/
theorem underscore_hides_uhd
    : normalizeNameForGrouping plainNames
          (.text (normalizeNameForGrouping plainNames (.text "film_uhd")))
        ≠ normalizeNameForGrouping plainNames (.text "film_uhd")
      ∧ SameWords plainNames "film_uhd" "film uhd"
      ∧ normalizeNameForGrouping plainNames (.text "film_uhd")
        ≠ normalizeNameForGrouping plainNames (.text "film uhd") := by
  rw [SameWords]
  refine ⟨?_, ?_, ?_⟩ <;> decide +kernel

end OctoHubs.Libraries
