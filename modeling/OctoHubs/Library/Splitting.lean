import Mathlib.Data.List.Infix
import Mathlib.Tactic.Common
import OctoHubs.Library.Text

/-! Splitting a text at a separator of several characters, from the front or from the back. -/

namespace OctoHubs.Library

variable {α : Type*} [DecidableEq α]

def splitFirst (separator : List α) : List α → Option (List α × List α)
  | [] => none
  | c :: rest =>
      if separator.isPrefixOf (c :: rest) then some ([], (c :: rest).drop separator.length)
      else (splitFirst separator rest).map (fun (lead, tail) => (c :: lead, tail))

attribute [local simp] splitFirst

def splitLast (separator text : List α) : Option (List α × List α) :=
  (splitFirst separator.reverse text.reverse).map (fun (tail, lead) =>
    (lead.reverse, tail.reverse))

theorem eq_of_splitFirst {separator text lead tail : List α}
    (split : splitFirst separator text = some (lead, tail))
    : text = lead ++ separator ++ tail := by
  induction text generalizing lead with
  | nil => cases split
  | cons c rest ih =>
      rw [splitFirst] at split
      split at split
      · next starts =>
          cases split
          rw [List.nil_append]
          exact (List.prefix_iff_eq_append.mp (List.isPrefixOf_iff_prefix.mp starts)).symm
      · obtain ⟨⟨front, back⟩, found, same⟩ := Option.map_eq_some_iff.mp split
        cases same
        rw [ih found]
        rfl

theorem splitFirst_self (separator : α) (rest : List α)
    : splitFirst [separator] (separator :: rest) = some ([], rest) := by
  simp [splitFirst, List.isPrefixOf]

theorem splitFirst_ne {separator c : α} (differ : c ≠ separator) (rest : List α)
    : splitFirst [separator] (c :: rest)
      = (splitFirst [separator] rest).map (fun (lead, tail) => (c :: lead, tail)) := by
  simp [splitFirst, List.isPrefixOf, Ne.symm differ]

/-- One character splits a text where it first stands, by induction on the text. -/
theorem splitFirst_single_iff {separator : α} {text lead tail : List α}
    : splitFirst [separator] text = some (lead, tail)
      ↔ text = lead ++ separator :: tail ∧ separator ∉ lead := by
  induction text generalizing lead with
  | nil => simp [splitFirst]
  | cons c rest ih =>
      by_cases here : c = separator
      · rw [here, splitFirst_self]
        cases lead with
        | nil => simp [eq_comm]
        | cons d lead =>
            simp only [List.cons_append, List.cons.injEq, List.mem_cons, not_or]
            constructor
            · intro impossible
              cases impossible
            · rintro ⟨⟨same, -⟩, differ, -⟩
              exact absurd same differ
      · rw [splitFirst_ne here, Option.map_eq_some_iff]
        constructor
        · rintro ⟨⟨front, back⟩, found, same⟩
          cases same
          obtain ⟨whole, absent⟩ := ih.mp found
          exact ⟨congrArg (c :: ·) whole, by simp [Ne.symm here, absent]⟩
        · rintro ⟨whole, absent⟩
          cases lead with
          | nil => exact absurd (List.cons.inj whole).1 here
          | cons d lead =>
              obtain ⟨same, whole⟩ := List.cons.inj whole
              rw [List.mem_cons, not_or] at absent
              exact ⟨(lead, tail), ih.mpr ⟨whole, absent.2⟩, by rw [same]⟩

/-- A separator of two different characters that follows is not completed by what comes before it,
so that only a separator inside can be split at earlier.
-/
theorem splitFirst_pair_iff {first second : α} (differ : first ≠ second) (lead tail : List α)
    : splitFirst [first, second] (lead ++ ([first, second] ++ tail)) = some (lead, tail)
      ↔ ¬[first, second] <:+: lead := by
  induction lead with
  | nil => simp [splitFirst]
  | cons c lead ih =>
      have starts
          : [first, second].isPrefixOf (c :: (lead ++ ([first, second] ++ tail)))
            = [first, second].isPrefixOf (c :: lead) := by
        cases lead with
        | nil => simp [List.isPrefixOf, differ.symm]
        | cons d lead => simp [List.isPrefixOf]
      rw [List.cons_append, splitFirst, starts, List.infix_cons_iff, not_or, ← ih]
      by_cases here : [first, second].isPrefixOf (c :: lead) = true
      · rw [if_pos here]
        exact ⟨fun same => (nomatch same),
          fun none_ => absurd (List.isPrefixOf_iff_prefix.mp here) none_.1⟩
      · rw [if_neg here, Option.map_eq_some_iff]
        constructor
        · rintro ⟨⟨_, _⟩, found, same⟩
          cases same
          exact ⟨fun first => here (List.isPrefixOf_iff_prefix.mpr first), found⟩
        · exact fun none_ => ⟨_, none_.2, rfl⟩

theorem splitLast_pair {first second : α} (differ : first ≠ second) (lead : List α) {tail : List α}
    (absent : ¬[first, second] <:+: tail)
    : splitLast [first, second] (lead ++ ([first, second] ++ tail)) = some (lead, tail) := by
  have reversed : ¬[second, first] <:+: tail.reverse := fun inside =>
    absent (List.reverse_infix.mp (by simpa using inside))
  have split := (splitFirst_pair_iff differ.symm _ lead.reverse).mpr reversed
  unfold splitLast
  rw [List.reverse_append, List.reverse_append, List.append_assoc]
  have shape : [first, second].reverse = [second, first] := rfl
  rw [shape, split]
  simp

theorem pair_absent {β : Type*} {first second : β} {text : List β} (absent : first ∉ text)
    : ¬[first, second] <:+: text :=
  fun inside => absent (inside.subset List.mem_cons_self)

theorem pair_absent_of_once {first second other : α} (differ : other ≠ second)
    {lead tail : List α} (noneBefore : first ∉ lead) (noneAfter : first ∉ other :: tail)
    : ¬[first, second] <:+: lead ++ first :: other :: tail := by
  rintro ⟨front, back, same⟩
  have counted := congrArg (List.count first) same
  simp only [List.count_append, List.count_cons_self, List.count_eq_zero.mpr noneBefore,
    List.count_eq_zero.mpr noneAfter] at counted
  have frontFree : first ∉ front := by
    refine List.count_eq_zero.mp ?_
    omega
  rw [List.append_assoc, List.cons_append] at same
  obtain ⟨-, rests⟩ := append_separator_inj frontFree noneBefore same
  exact differ (List.cons.inj rests).1.symm

end OctoHubs.Library
