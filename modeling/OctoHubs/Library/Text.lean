import Mathlib.Algebra.Group.Nat.Defs
import Mathlib.Data.List.DropRight
import Mathlib.Data.Nat.Init

/-! Text at its ends: whitespace that is stripped, and numbers written with a fixed width. -/

namespace OctoHubs.Library

/-- Whitespace of every script. -/
def isSpace (c : Char) : Bool :=
  let code := c.toNat
  (9 ≤ code && code ≤ 13) || (28 ≤ code && code ≤ 32) || code = 0x85 || code = 0xA0
  || code = 0x1680 || (0x2000 ≤ code && code ≤ 0x200A) || code = 0x2028 || code = 0x2029
  || code = 0x202F || code = 0x205F || code = 0x3000

/-- The text without the whitespace at its ends. -/
def strip (text : String) : String :=
  String.ofList ((text.toList.dropWhile isSpace).rdropWhile isSpace)

theorem strip_of_ends {text : String}
    (starts : ∀ c, text.toList.head? = some c → isSpace c = false)
    (ends : ∀ c, text.toList.getLast? = some c → isSpace c = false)
    : strip text = text := by
  unfold strip
  have front : text.toList.dropWhile isSpace = text.toList := by
    cases shape : text.toList with
    | nil => rfl
    | cons first rest =>
        have solid := starts first (by rw [shape]; rfl)
        rw [List.dropWhile_cons_of_neg (by simp [solid])]
  have back : text.toList.rdropWhile isSpace = text.toList := by
    rw [List.rdropWhile_eq_self_iff]
    intro some_ hidden
    exact Bool.noConfusion ((ends _ (List.getLast?_eq_some_getLast some_)).symm.trans hidden)
  rw [front, back, String.ofList_toList]

theorem strip_of_solid {text : String} (solid : ∀ c ∈ text.toList, isSpace c = false)
    : strip text = text :=
  strip_of_ends (fun c first => solid c (List.mem_of_mem_head? first))
    (fun c last => solid c (List.mem_of_mem_getLast? last))

theorem strip_starts {text : String} {c : Char}
    (first : (strip text).toList.head? = some c)
    : isSpace c = false := by
  unfold strip at first
  rw [String.toList_ofList] at first
  obtain ⟨rest, shape⟩ := List.rdropWhile_prefix isSpace (text.toList.dropWhile isSpace)
  have front : (text.toList.dropWhile isSpace).head? = some c := by
    rw [← shape, List.head?_append, first]
    rfl
  have visible := List.head?_dropWhile_not isSpace text.toList
  rw [front] at visible
  simpa using visible

theorem strip_ends {text : String} {c : Char} (last : (strip text).toList.getLast? = some c)
    : isSpace c = false := by
  unfold strip at last
  rw [String.toList_ofList] at last
  have some_ : (text.toList.dropWhile isSpace).rdropWhile isSpace ≠ [] := by
    intro bare
    rw [bare] at last
    cases last
  rw [List.getLast?_eq_some_getLast some_] at last
  have visible := List.rdropWhile_last_not isSpace _ some_
  rw [Option.some.inj last] at visible
  exact Bool.not_eq_true _ ▸ visible

theorem strip_strip (text : String) : strip (strip text) = strip text :=
  strip_of_ends (fun _ => strip_starts) (fun _ => strip_ends)

theorem strip_append {lead tail : String} (visible : ∃ c ∈ lead.toList, isSpace c = false)
    (ends : ∃ c, tail.toList.getLast? = some c ∧ isSpace c = false)
    : strip (lead ++ tail) = String.ofList (lead.toList.dropWhile isSpace) ++ tail := by
  obtain ⟨last, found, solid⟩ := ends
  obtain ⟨front, shape⟩ := List.getLast?_eq_some_iff.mp found
  have kept : lead.toList.dropWhile isSpace ≠ [] := by
    obtain ⟨c, member, shown⟩ := visible
    intro dropped
    have hidden := List.dropWhile_eq_nil_iff.mp dropped c member
    exact Bool.noConfusion (shown.symm.trans hidden)
  have front_kept
      : (lead ++ tail).toList.dropWhile isSpace
        = lead.toList.dropWhile isSpace ++ front ++ [last] := by
    rw [String.toList_append, List.dropWhile_append, shape]
    simp only [List.isEmpty_iff, kept, if_false, List.append_assoc]
  unfold strip
  rw [front_kept, List.rdropWhile_concat_neg _ _ _ (by simp [solid])]
  apply String.ext
  rw [String.toList_append, shape]
  simp only [String.toList_ofList, List.append_assoc]

/-- The first separator tells where the front ends, by induction on it. -/
theorem append_separator_inj {α : Type*} {separator : α} {left right : List α}
    {leftRest rightRest : List α} (leftFree : separator ∉ left) (rightFree : separator ∉ right)
    (same : left ++ separator :: leftRest = right ++ separator :: rightRest)
    : left = right ∧ leftRest = rightRest := by
  induction left generalizing right with
  | nil =>
      cases right with
      | nil => exact ⟨rfl, List.tail_eq_of_cons_eq same⟩
      | cons first rest =>
          have here : separator = first := List.head_eq_of_cons_eq same
          exact absurd (here ▸ List.mem_cons_self) rightFree
  | cons first rest ih =>
      cases right with
      | nil =>
          have here : first = separator := List.head_eq_of_cons_eq same
          exact absurd (here ▸ List.mem_cons_self) leftFree
      | cons other others =>
          obtain ⟨fronts, rests⟩ :=
            ih (fun member => leftFree (List.mem_cons_of_mem _ member))
              (fun member => rightFree (List.mem_cons_of_mem _ member))
              (List.tail_eq_of_cons_eq same)
          have here : first = other := List.head_eq_of_cons_eq same
          exact ⟨by rw [here, fronts], rests⟩

/-- The last digits of a number, with leading zeros. -/
def paddedDigits : Nat → Nat → List Char
  | 0, _ => []
  | width + 1, value => paddedDigits width (value / 10) ++ [Nat.digitChar (value % 10)]

@[simp] theorem paddedDigits_length (width value : Nat)
    : (paddedDigits width value).length = width := by
  induction width generalizing value with
  | zero => rfl
  | succ width ih => simp [paddedDigits, ih]

theorem digitChar_inj {left right : Nat} (leftSmall : left < 10) (rightSmall : right < 10)
    (same : Nat.digitChar left = Nat.digitChar right)
    : left = right := by
  have table
      : ∀ left < 10, ∀ right < 10,
          Nat.digitChar left = Nat.digitChar right → left = right := by decide
  exact table left leftSmall right rightSmall same

theorem digitChar_visible {digit : Nat} (small : digit < 10)
    : isSpace (Nat.digitChar digit) = false ∧ Nat.digitChar digit ≠ ':' := by
  have table
      : ∀ digit < 10,
          isSpace (Nat.digitChar digit) = false ∧ Nat.digitChar digit ≠ ':' := by decide
  exact table digit small

theorem paddedDigits_inj {width left right : Nat} (leftFits : left < 10 ^ width)
    (rightFits : right < 10 ^ width) (same : paddedDigits width left = paddedDigits width right)
    : left = right := by
  induction width generalizing left right with
  | zero => omega
  | succ width ih =>
      rw [Nat.pow_succ] at leftFits rightFits
      obtain ⟨front, last⟩ := List.append_inj' same rfl
      have tens := ih (by omega) (by omega) front
      have unit
          := digitChar_inj (Nat.mod_lt _ (by omega)) (Nat.mod_lt _ (by omega))
            (List.singleton_inj.mp last)
      omega

theorem paddedDigits_visible {width value : Nat} {c : Char}
    (member : c ∈ paddedDigits width value)
    : isSpace c = false ∧ c ≠ ':' := by
  induction width generalizing value with
  | zero => cases member
  | succ width ih =>
      rw [paddedDigits, List.mem_append, List.mem_singleton] at member
      rcases member with front | rfl
      · exact ih front
      · exact digitChar_visible (Nat.mod_lt _ (by omega))

end OctoHubs.Library
