import Mathlib.Data.List.Infix
import OctoHubs.Library.Coercions

/-! Parts of a text: what a text includes stays when the text is joined to others, and when the
whitespace at its ends is taken off.
-/

namespace OctoHubs.Library

theorem isSpace_of_isAlphanum {c : Char} (letter : c.isAlphanum = true) : isSpace c = false := by
  have code : c.toNat = c.val.toNat := rfl
  delta Char.isAlphanum Char.isAlpha Char.isUpper Char.isLower Char.isDigit at letter
  simp [UInt32.le_iff_toNat_le] at letter
  simp [isSpace]
  omega

/-- Skip what was replaced, and go on after it. -/
def replaceChars (old new : List Char) : Nat → List Char → List Char
  | _, [] => []
  | skip + 1, _ :: rest => replaceChars old new skip rest
  | 0, c :: rest =>
      if old.isPrefixOf (c :: rest) then new ++ replaceChars old new (old.length - 1) rest
      else c :: replaceChars old new 0 rest

/-- The text with a new part in all places of an old one, from the left. -/
def replaceAll (text old new : String) : String :=
  String.ofList (replaceChars old.toList new.toList 0 text.toList)

theorem includes_iff {text marker : String}
    : includes text marker = true ↔ marker.toList <:+: text.toList := by
  simp only [includes, List.any_eq_true, List.mem_tails, List.isPrefixOf_iff_prefix]
  constructor
  · rintro ⟨tail, suffix, lead⟩
    exact lead.isInfix.trans suffix.isInfix
  · intro inside
    obtain ⟨tail, lead, suffix⟩ := List.infix_iff_prefix_suffix.mp inside
    exact ⟨tail, suffix, lead⟩

theorem infix_trimmed {marker text : List Char} (some_ : marker ≠ [])
    (solid : ∀ c ∈ marker, isSpace c = false) (inside : marker <:+: text)
    : marker <:+: (text.dropWhile isSpace).rdropWhile isSpace := by
  obtain ⟨before, after, rfl⟩ := inside
  obtain ⟨first, rest, rfl⟩ := List.exists_cons_of_ne_nil some_
  have front
      : (before ++ (first :: rest) ++ after).dropWhile isSpace
        = before.dropWhile isSpace ++ (first :: rest) ++ after := by
    rw [List.append_assoc, List.dropWhile_append]
    split
    · next dropped =>
        have here := solid first List.mem_cons_self
        rw [List.isEmpty_iff.mp dropped, List.cons_append,
          List.dropWhile_cons_of_neg (by simp [here])]
        rfl
    · rw [List.append_assoc]
  rw [front]
  obtain ⟨start, last, shape⟩ := List.eq_nil_or_concat (first :: rest) |>.resolve_left some_
  have lastSolid : isSpace last = false := solid last (by rw [shape]; simp)
  have back
      : (before.dropWhile isSpace ++ (first :: rest) ++ after).rdropWhile isSpace
        = before.dropWhile isSpace ++ (first :: rest) ++ after.rdropWhile isSpace := by
    simp only [List.rdropWhile, List.reverse_append]
    rw [List.dropWhile_append]
    split
    · next dropped =>
        rw [List.isEmpty_iff.mp dropped, shape, List.concat_eq_append, List.reverse_append]
        simp [lastSolid]
    · simp
  rw [back]
  exact ⟨before.dropWhile isSpace, after.rdropWhile isSpace, rfl⟩

theorem includes_strip {text marker : String} (some_ : marker ≠ "")
    (solid : ∀ c ∈ marker.toList, isSpace c = false) (inside : includes text marker = true)
    : includes (strip text) marker = true := by
  rw [includes_iff] at inside ⊢
  rw [strip, String.toList_ofList]
  exact infix_trimmed (by simpa using some_) solid inside

/-- A joined text includes its parts, by induction on the parts. -/
theorem infix_intercalate {separator part : List Char} {parts : List (List Char)}
    (member : part ∈ parts)
    : part <:+: List.intercalate separator parts := by
  induction parts with
  | nil => cases member
  | cons first rest ih =>
      cases rest with
      | nil =>
          rw [List.mem_singleton.mp member]
          simp [List.intercalate]
      | cons second others =>
          have shape
              : List.intercalate separator (first :: second :: others)
                = first ++ separator ++ List.intercalate separator (second :: others) := by
            simp [List.intercalate]
          rw [shape]
          rcases List.mem_cons.mp member with rfl | later
          · exact ⟨[], separator ++ List.intercalate separator (second :: others), by simp⟩
          · exact (ih later).trans (List.suffix_append _ _).isInfix

theorem includes_intercalate {separator part : String} {parts : List String}
    (member : part ∈ parts)
    : includes (separator.intercalate parts) part = true := by
  rw [includes_iff, String.toList_intercalate]
  exact infix_intercalate (List.mem_map_of_mem member)

end OctoHubs.Library
