import Mathlib.Data.List.Basic
import Mathlib.Data.Nat.Init

/-! Numbers at the front of a text, in the decimal digits of every script, and the text that a
number is printed as.
-/

namespace OctoHubs.Library

/-- The decimal digits, with their values. Of the ASCII characters only ten are digits. -/
structure DecimalDigits where
  value : Char → Option Nat
  latin : ∀ digit < 10, value (Nat.digitChar digit) = some digit
  plain : ∀ c : Char, c.toNat < 128 → c.isDigit = false → value c = none

def DecimalDigits.ascii : DecimalDigits where
  value c := if c.isDigit then some (c.toNat - 48) else none
  latin := by decide
  plain := by
    intro c _ other
    simp [other]

namespace DecimalDigits

variable (digits : DecimalDigits)

/-- The number of a row of digits, the value of the digits before them included. -/
def number (sofar : Nat) (row : List Char) : Nat :=
  row.foldl (fun sofar c => 10 * sofar + (digits.value c).getD 0) sofar

/-- The number at the front of a text, and the text after its last digit. -/
def takeNumber (text : List Char) : Option (Nat × List Char) :=
  let row := text.takeWhile (fun c => (digits.value c).isSome)
  if row = [] then none
  else some (digits.number 0 row, text.dropWhile (fun c => (digits.value c).isSome))

end DecimalDigits

def twoDigits (number : Nat) : List Char :=
  if number < 10 then '0' :: Nat.toDigits 10 number else Nat.toDigits 10 number

namespace DecimalDigits

variable {digits : DecimalDigits}

theorem number_append (sofar : Nat) (row more : List Char)
    : digits.number sofar (row ++ more) = digits.number (digits.number sofar row) more :=
  List.foldl_append

theorem number_toDigits (number : Nat) : digits.number 0 (Nat.toDigits 10 number) = number := by
  induction number using Nat.strongRecOn with
  | ind number ih =>
      rw [Nat.toDigits_eq_if (by decide)]
      split
      · next small =>
          simp [DecimalDigits.number, digits.latin number small]
      · next large =>
          have last := digits.latin (number % 10) (Nat.mod_lt _ (by decide))
          rw [number_append, ih (number / 10) (by omega)]
          simp only [DecimalDigits.number, List.foldl_cons, List.foldl_nil, last,
            Option.getD_some]
          omega

theorem isSome_of_isDigit {c : Char} (digit : c.isDigit = true)
    : (digits.value c).isSome = true := by
  have bounds : 48 ≤ c.toNat ∧ c.toNat ≤ 57 := by
    simpa [Char.isDigit, UInt32.le_iff_toNat_le] using digit
  have same : c = Nat.digitChar (c.toNat - 48) := by
    apply Char.toNat_inj.mp
    rw [Nat.toNat_digitChar_of_lt_ten (by omega)]
    omega
  rw [same, digits.latin _ (by omega)]
  rfl

theorem isSome_toDigits {number : Nat} {c : Char} (member : c ∈ Nat.toDigits 10 number)
    : (digits.value c).isSome = true :=
  isSome_of_isDigit (Nat.isDigit_of_mem_toDigits (by decide) (by decide) member)

theorem isSome_twoDigits {number : Nat} {c : Char} (member : c ∈ twoDigits number)
    : (digits.value c).isSome = true := by
  unfold twoDigits at member
  split at member
  · obtain rfl | later := List.mem_cons.mp member
    · exact isSome_of_isDigit (by decide)
    · exact isSome_toDigits later
  · exact isSome_toDigits member

theorem number_twoDigits (number : Nat) : digits.number 0 (twoDigits number) = number := by
  unfold twoDigits
  split
  · have zero := digits.latin 0 (by decide)
    have shape : '0' :: Nat.toDigits 10 number = [Nat.digitChar 0] ++ Nat.toDigits 10 number := rfl
    rw [shape, number_append]
    simp only [DecimalDigits.number, List.foldl_cons, List.foldl_nil, zero, Option.getD_some]
    exact number_toDigits number
  · exact number_toDigits number

theorem twoDigits_ne_nil (number : Nat) : twoDigits number ≠ [] := by
  unfold twoDigits
  split
  · exact List.cons_ne_nil _ _
  · exact Nat.toDigits_ne_nil

theorem takeNumber_twoDigits (number : Nat) {rest : List Char}
    (ends : ∀ c, rest.head? = some c → digits.value c = none)
    : digits.takeNumber (twoDigits number ++ rest) = some (number, rest) := by
  have all : ∀ c ∈ twoDigits number, (digits.value c).isSome = true :=
    fun _ member => isSome_twoDigits member
  have stop : rest.takeWhile (fun c => (digits.value c).isSome) = [] := by
    cases rest with
    | nil => rfl
    | cons c rest => simp [ends c rfl]
  have kept : rest.dropWhile (fun c => (digits.value c).isSome) = rest := by
    cases rest with
    | nil => rfl
    | cons c rest => simp [ends c rfl]
  unfold takeNumber
  simp only [List.takeWhile_append_of_pos all, List.dropWhile_append_of_pos all, stop, kept,
    List.append_nil, if_neg (twoDigits_ne_nil number), number_twoDigits]

end DecimalDigits

-- Whole numbers, with a sign in front of those below zero

/-- A whole number read from its digits and its sign. -/
def readDigits (text : String) : Option Int :=
  match text.toList with
  | '-' :: digits => some (-(DecimalDigits.ascii.number 0 digits : Int))
  | digits => some (DecimalDigits.ascii.number 0 digits)

theorem readDigits_toString (number : Int) : readDigits (toString number) = some number := by
  cases number with
  | ofNat number =>
      have shape : (toString (Int.ofNat number)).toList = Nat.toDigits 10 number := by
        show (Nat.repr number).toList = _
        simp [Nat.repr]
      cases digits : Nat.toDigits 10 number with
      | nil => exact absurd digits Nat.toDigits_ne_nil
      | cons first rest =>
          have digit : first.isDigit = true :=
            Nat.isDigit_of_mem_toDigits (by decide) (by decide) (digits ▸ List.mem_cons_self)
          have plain : first ≠ '-' := by
            rintro rfl
            cases digit
          have read := @DecimalDigits.number_toDigits DecimalDigits.ascii number
          rw [digits] at shape read
          rw [readDigits, shape]
          split
          · next others same =>
              cases same
              exact absurd rfl plain
          · rw [read]
            rfl
  | negSucc number =>
      have shape
          : (toString (Int.negSucc number)).toList = '-' :: Nat.toDigits 10 (number + 1) := by
        show ("-" ++ Nat.repr (number + 1)).toList = _
        simp [Nat.repr]
      have read := @DecimalDigits.number_toDigits DecimalDigits.ascii (number + 1)
      simp only [readDigits, shape, read]
      rfl

theorem toString_int_injective {left right : Int} (same : toString left = toString right)
    : left = right := by
  have read := readDigits_toString left
  rw [same, readDigits_toString] at read
  exact (Option.some.inj read).symm

theorem isDigit_or_sign_of_mem_toString {number : Int} {c : Char}
    (member : c ∈ (toString number).toList)
    : c.isDigit = true ∨ c = '-' := by
  have digit {value : Nat} (listed : c ∈ Nat.toDigits 10 value) : c.isDigit = true :=
    Nat.isDigit_of_mem_toDigits (by decide) (by decide) listed
  cases number with
  | ofNat number =>
      have listed : c ∈ (Nat.repr number).toList := member
      exact .inl (digit (by simpa [Nat.repr] using listed))
  | negSucc number =>
      have listed : c ∈ ("-" ++ Nat.repr (number + 1)).toList := member
      rw [String.toList_append] at listed
      rcases List.mem_append.mp listed with sign | rest
      · exact .inr (by simpa using sign)
      · exact .inl (digit (by simpa [Nat.repr] using rest))

end OctoHubs.Library
