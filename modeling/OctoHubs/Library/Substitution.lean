import Mathlib.Data.List.DropRight
import Mathlib.Tactic.Common

/-! Replacing what a pattern finds, from left to right, and folding runs of separators. What a
pattern finds at a place may depend on the element before it.
-/

namespace OctoHubs.Library

variable {α : Type*}

/-- Put the replacement for what is found, whose length is known, and go on after it. -/
def substitute (find : Option α → List α → Option (Nat × List α))
    : Nat → Option α → List α → List α
  | _, _, [] => []
  | skip + 1, _, c :: rest => substitute find skip (some c) rest
  | 0, before, c :: rest =>
      match find before (c :: rest) with
      | some (length, replacement) =>
          replacement ++ substitute find (length - 1) (some c) rest
      | none => c :: substitute find 0 (some c) rest

variable {find : Option α → List α → Option (Nat × List α)} {before : Option α}

theorem substitute_cons_none {c : α} {rest : List α} (none_ : find before (c :: rest) = none)
    : substitute find 0 before (c :: rest) = c :: substitute find 0 (some c) rest := by
  rw [substitute, none_]

theorem substitute_skip (lead rest : List α)
    : substitute find lead.length before (lead ++ rest)
      = substitute find 0 (lead.getLast?.or before) rest := by
  induction lead generalizing before with
  | nil => rfl
  | cons c lead ih =>
      rw [List.cons_append, List.length_cons, substitute, ih, List.getLast?_cons]
      cases lead.getLast? <;> rfl

theorem substitute_found {lead rest replacement : List α} (some_ : lead ≠ [])
    (found : find before (lead ++ rest) = some (lead.length, replacement))
    : substitute find 0 before (lead ++ rest)
      = replacement ++ substitute find 0 lead.getLast? rest := by
  cases lead with
  | nil => exact absurd rfl some_
  | cons c lead =>
      rw [List.cons_append] at found ⊢
      rw [substitute, found]
      dsimp only
      rw [List.length_cons, Nat.add_sub_cancel, substitute_skip, List.getLast?_cons]
      cases lead.getLast? <;> rfl

/-- Where nothing is found within the first part, it stays; by induction on it. -/
theorem substitute_pass {lead rest : List α}
    (none_
      : ∀ front c back,
          lead = front ++ c :: back →
            find (front.getLast?.or before) (c :: (back ++ rest)) = none)
    : substitute find 0 before (lead ++ rest)
      = lead ++ substitute find 0 (lead.getLast?.or before) rest := by
  induction lead generalizing before with
  | nil => rfl
  | cons c lead ih =>
      have here : find before (c :: (lead ++ rest)) = none := none_ [] c lead rfl
      have later := @ih (some c) (fun front d back shape => by
        have there := none_ (c :: front) d back (by rw [shape, List.cons_append])
        rw [List.getLast?_cons] at there
        cases last : front.getLast? <;> simpa [last] using there)
      rw [List.cons_append, substitute_cons_none here, later, List.getLast?_cons, List.cons_append]
      cases lead.getLast? <;> rfl

/-- A pattern whose replacement is what it finds changes nothing, by induction on the text. -/
theorem substitute_self
    (same
      : ∀ before text length replacement,
          find before text = some (length, replacement) →
            replacement = text.take length ∧ 0 < length ∧ length ≤ text.length)
    (skip : Nat) (text : List α)
    : substitute find skip before text = text.drop skip := by
  induction text generalizing skip before with
  | nil => rw [substitute, List.drop_nil]
  | cons c rest ih =>
      cases skip with
      | succ skip => rw [substitute, ih, List.drop_succ_cons]
      | zero =>
          rw [substitute]
          split
          · next length replacement found =>
              obtain ⟨rfl, shown, fits⟩ := same _ _ _ _ found
              obtain ⟨length, rfl⟩ := Nat.exists_eq_succ_of_ne_zero (Nat.ne_of_gt shown)
              rw [ih, Nat.succ_sub_one, List.take_succ_cons, List.cons_append, List.take_append_drop]
              rfl
          · rw [ih]
            rfl

-- Runs of separators

def foldRuns (separates : α → Bool) (separator : α) : Bool → List α → List α
  | _, [] => []
  | inRun, c :: rest =>
      if separates c then
        if inRun then foldRuns separates separator true rest
        else separator :: foldRuns separates separator true rest
      else c :: foldRuns separates separator false rest

/-- Runs of two kinds are folded as runs of one, where the separator itself is of the second
kind; by induction on the text.
-/
theorem foldRuns_foldRuns {first second : α → Bool} {separator : α}
    (own : second separator = true) (text : List α) (inRun outer : Bool)
    (sound : inRun = true → outer = true)
    : foldRuns second separator outer (foldRuns first separator inRun text)
      = foldRuns (fun c => first c || second c) separator outer text := by
  induction text generalizing inRun outer with
  | nil => rfl
  | cons c rest ih =>
      have folded := ih true true (fun _ => rfl)
      have apart := ih false false (fun impossible => nomatch impossible)
      have half := ih false true (fun _ => rfl)
      cases one : first c with
      | true =>
          cases inRun with
          | true => simp [foldRuns, one, sound rfl, folded]
          | false => cases outer <;> simp [foldRuns, one, own, folded]
      | false =>
          cases two : second c <;> cases outer <;> simp [foldRuns, one, two, half, apart]

theorem foldRuns_solid {separates : α → Bool} {separator : α} {lead : List α}
    (solid : ∀ c ∈ lead, separates c = false) (rest : List α)
    : foldRuns separates separator false (lead ++ rest)
      = lead ++ foldRuns separates separator false rest := by
  induction lead with
  | nil => rfl
  | cons c lead ih =>
      have later := ih (fun d member => solid d (List.mem_cons_of_mem c member))
      simp [foldRuns, solid c List.mem_cons_self, later]

theorem foldRuns_run {separates : α → Bool} {separator : α} {run rest : List α} (some_ : run ≠ [])
    (all : run.all separates = true)
    (ends : ∀ c, rest.head? = some c → separates c = false)
    : foldRuns separates separator false (run ++ rest)
      = separator :: foldRuns separates separator false rest := by
  have goesOn (run : List α) (all : run.all separates = true)
      : foldRuns separates separator true (run ++ rest)
        = foldRuns separates separator false rest := by
    induction run with
    | nil =>
        cases rest with
        | nil => rfl
        | cons c rest => simp [foldRuns, ends c rfl]
    | cons c run ih =>
        rw [List.all_cons, Bool.and_eq_true] at all
        simp [foldRuns, all.1, ih all.2]
  obtain ⟨c, run, rfl⟩ := List.exists_cons_of_ne_nil some_
  rw [List.all_cons, Bool.and_eq_true] at all
  simp [foldRuns, all.1, goesOn run all.2]

end OctoHubs.Library
