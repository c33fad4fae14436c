import Mathlib.Algebra.GroupWithZero.Nat
import OctoHubs.Library.Sealing
import OctoHubs.TranscodeGuard.SettledRules

/-! The sizes that settings are checked for: what the check measures in a rule, and what it takes
of a list of rules without groups.
-/

namespace OctoHubs.TranscodeGuard

open OctoHubs.Library

section Measures

def textSize : Json → Nat
  | .text value => value.utf8ByteSize
  | _ => 0

def listSize (texts : List String) : Nat := (texts.map String.utf8ByteSize).sum

/-- A list that is short enough, with texts that are. -/
structure ListFits (texts : List String) : Prop where
  items : texts.length ≤ maxTranscodeGuardListItems
  texts : ∀ text ∈ texts, text.utf8ByteSize ≤ maxTranscodeGuardIdentifierLength

theorem textBytes_ok_iff {value : Json} {maximum total : Nat} {field : String}
    : textBytes value maximum field = .ok total
      ↔ textSize value ≤ maximum ∧ total = textSize value := by
  cases value with
  | text value =>
      simp only [textBytes, textSize]
      split
      · next large => simp [large]
      · next small =>
          rw [Except.ok.injEq]
          constructor
          · rintro rfl
            exact ⟨Nat.not_lt.mp small, rfl⟩
          · exact fun measured => measured.2.symm
  | _ => simp [textBytes, textSize, eq_comm]

theorem sumBytes_ok_iff {α : Type} {measure : α → Except String Nat} {fits : α → Prop}
    {size : α → Nat} {values : List α} {total : Nat}
    (measured
      : ∀ value ∈ values, ∀ found, measure value = .ok found ↔ fits value ∧ found = size value)
    : sumBytes measure values = .ok total
      ↔ (∀ value ∈ values, fits value) ∧ total = (values.map size).sum := by
  have from_ (start : Nat)
      : values.foldlM (fun total value => (total + ·) <$> measure value) start
          = Except.ok (ε := String) total
        ↔ (∀ value ∈ values, fits value) ∧ total = start + (values.map size).sum := by
    induction values generalizing start with
    | nil => simp [pure, Except.pure, eq_comm]
    | cons value rest ih =>
        have later := fun start =>
          ih (fun other member => measured other (List.mem_cons_of_mem value member)) start
        have own := measured value List.mem_cons_self
        rw [List.foldlM_cons, List.forall_mem_cons, List.map_cons, List.sum_cons]
        cases found : measure value with
        | error message =>
            have unfit : ¬fits value := by
              intro fit
              cases found.symm.trans ((own (size value)).mpr ⟨fit, rfl⟩)
            constructor
            · intro impossible
              cases impossible
            · rintro ⟨⟨fit, -⟩, -⟩
              exact absurd fit unfit
        | ok size_ =>
            rcases (own size_).mp found with ⟨fit, rfl⟩
            refine (later (start + size value)).trans ?_
            rw [Nat.add_assoc]
            exact and_congr_left' (iff_and_self.mpr (fun _ => fit))
  simpa [sumBytes] using from_ 0

theorem sequenceTextBytes_textList {texts : List String} {field : String} {total : Nat}
    : sequenceTextBytes (textList texts) field = .ok total
      ↔ ListFits texts ∧ total = listSize texts := by
  have items : (textList texts).asList? = some (texts.map .text) := asList?_ofList _
  have summed
      : sumBytes (textBytes · maxTranscodeGuardIdentifierLength field) (texts.map .text)
          = .ok total
        ↔ (∀ text ∈ texts, text.utf8ByteSize ≤ maxTranscodeGuardIdentifierLength)
          ∧ total = listSize texts := by
    rw [sumBytes_ok_iff (fun _ _ _ => textBytes_ok_iff)]
    simp [listSize, textSize, Function.comp_def]
  unfold sequenceTextBytes
  rw [show textList texts = .list _ _ from rfl] at items ⊢
  dsimp only
  rw [items, Option.map_some, Option.getD_some, List.length_map]
  split
  · next long =>
      constructor
      · intro impossible
        cases impossible
      · rintro ⟨fit, -⟩
        exact absurd fit.items (Nat.not_le.mpr long)
  · next short =>
      rw [summed]
      constructor
      · rintro ⟨each, rfl⟩
        exact ⟨⟨Nat.not_lt.mp short, each⟩, rfl⟩
      · rintro ⟨fit, rfl⟩
        exact ⟨fit.texts, rfl⟩

def messageFields : List String := ["message_header", "message_text"]

/-- The fields of a rule that are measured, within their limits; `scopes` are its lists. -/
structure NodeFits (node : Document) (scopes : String → List String) : Prop where
  short
    : ∀ field ∈ shortTextFields,
        textSize (node.field field) ≤ maxTranscodeGuardIdentifierLength
  name : textSize (node.field "name") ≤ maxTranscodeGuardNameLength
  messages
    : ∀ field ∈ messageFields,
        textSize (node.field field) ≤ maxTranscodeGuardMessageLength
  scopes : ∀ field ∈ scopeFields, ListFits (scopes field)

def nodeSize (node : Document) (scopes : String → List String) : Nat :=
  (shortTextFields.map (fun field => textSize (node.field field))).sum
    + textSize (node.field "name")
    + (messageFields.map (fun field => textSize (node.field field))).sum
    + (scopeFields.map (fun field => listSize (scopes field))).sum

theorem nodeTextBytes_ok_iff {node : Document} {scopes : String → List String} {total : Nat}
    (lists : ∀ field ∈ scopeFields, node.field field = textList (scopes field))
    : nodeTextBytes node = .ok total ↔ NodeFits node scopes ∧ total = nodeSize node scopes := by
  have shortIff (total : Nat)
      : sumBytes
            (fun field => textBytes (node.field field) maxTranscodeGuardIdentifierLength field)
            shortTextFields
          = .ok total
        ↔ (∀ field ∈ shortTextFields,
            textSize (node.field field) ≤ maxTranscodeGuardIdentifierLength)
          ∧ total = (shortTextFields.map (fun field => textSize (node.field field))).sum :=
    sumBytes_ok_iff (fun _ _ _ => textBytes_ok_iff)
  have messagesIff (total : Nat)
      : sumBytes
            (fun field => textBytes (node.field field) maxTranscodeGuardMessageLength field)
            ["message_header", "message_text"]
          = .ok total
        ↔ (∀ field ∈ messageFields,
            textSize (node.field field) ≤ maxTranscodeGuardMessageLength)
          ∧ total = (messageFields.map (fun field => textSize (node.field field))).sum :=
    sumBytes_ok_iff (fun _ _ _ => textBytes_ok_iff)
  have scopesIff (total : Nat)
      : sumBytes (fun field => sequenceTextBytes (node.field field) field) scopeFields
          = .ok total
        ↔ (∀ field ∈ scopeFields, ListFits (scopes field))
          ∧ total = (scopeFields.map (fun field => listSize (scopes field))).sum := by
    refine sumBytes_ok_iff ?_
    intro field member found
    rw [lists field member]
    exact sequenceTextBytes_textList
  unfold nodeTextBytes
  simp only [bind_eq_ok_iff, shortIff, messagesIff, scopesIff, textBytes_ok_iff]
  constructor
  · rintro ⟨_, ⟨short, rfl⟩, _, ⟨name, rfl⟩, _, ⟨messages, rfl⟩, _, ⟨fits, rfl⟩, sum⟩
    exact ⟨⟨short, name, messages, fits⟩, (Except.ok.inj sum).symm⟩
  · rintro ⟨fits, rfl⟩
    exact
      ⟨_, ⟨fits.short, rfl⟩, _, ⟨fits.name, rfl⟩, _, ⟨fits.messages, rfl⟩, _,
        ⟨fits.scopes, rfl⟩, rfl⟩

theorem messages_of_measured {node : Document} {total : Nat}
    (measured : nodeTextBytes node = .ok total)
    : ∀ field ∈ messageFields,
        textSize (node.field field) ≤ maxTranscodeGuardMessageLength := by
  rcases bind_eq_ok_iff.mp measured with ⟨_, -, rest⟩
  rcases bind_eq_ok_iff.mp rest with ⟨_, -, rest⟩
  rcases bind_eq_ok_iff.mp rest with ⟨_, messages, -⟩
  exact ((sumBytes_ok_iff (fun _ _ _ => textBytes_ok_iff)).mp messages).1

end Measures

section Visits

variable {alphabet : Alphabet}

/-- What goes on unless it is refused. -/
theorem throw_unless_iff {refused : Prop} [Decidable refused] {message : String}
    {next : Unit → Except String Unit}
    : (if refused then (do let done ← throw message; next done) else next ()) = .ok ()
      ↔ ¬refused ∧ next () = .ok () := by
  split
  · next refused =>
      constructor
      · intro impossible
        cases impossible
      · exact fun goes => absurd refused goes.1
  · next goes => exact (and_iff_right goes).symm

theorem visitRules_cons_iff {rulesLeft leafCount textBytes depth : Nat} {rule : Document}
    {stack : List (Document × Nat)}
    : visitRules alphabet (rulesLeft + 1) leafCount textBytes ((rule, depth) :: stack) = .ok ()
      ↔ depth ≤ maxTranscodeGuardRuleDepth
        ∧ ∃ size,
            nodeTextBytes rule = .ok size
            ∧ textBytes + size ≤ maxTranscodeGuardTextBytes
            ∧ match groupChildren? alphabet rule with
              | none =>
                  leafCount + 1 ≤ maxTranscodeGuardRules
                  ∧ visitRules alphabet rulesLeft (leafCount + 1) (textBytes + size) stack
                    = .ok ()
              | some children =>
                  children.length ≤ maxTranscodeGuardGroupChildren
                  ∧ visitRules alphabet rulesLeft leafCount (textBytes + size)
                      ((children.filterMap Json.asDict?).map (·, depth + 1) ++ stack)
                    = .ok () := by
  rw [visitRules, throw_unless_iff, bind_eq_ok_iff, Nat.not_lt]
  refine and_congr_right' (exists_congr (fun size => and_congr_right' ?_))
  rw [throw_unless_iff, Nat.not_lt]
  refine and_congr_right' ?_
  cases groupChildren? alphabet rule with
  | none =>
      dsimp only
      rw [throw_unless_iff, Nat.not_lt]
  | some children =>
      dsimp only
      rw [throw_unless_iff, Nat.not_lt]

/-- Rules without groups, each of its own size, by induction on the rules. -/
theorem visitRules_flat_iff {α : Type} {items : List α} {document : α → Document}
    {fits : α → Prop} {size : α → Nat} {rulesLeft leafCount bytes : Nat}
    (flat : ∀ item ∈ items, groupChildren? alphabet (document item) = none)
    (measured
      : ∀ item ∈ items, ∀ found,
          nodeTextBytes (document item) = .ok found ↔ fits item ∧ found = size item)
    (few : items.length ≤ rulesLeft)
    (leaves : leafCount + items.length ≤ maxTranscodeGuardRules)
    : visitRules alphabet rulesLeft leafCount bytes (items.map (fun item => (document item, 1)))
        = .ok ()
      ↔ (∀ item ∈ items, fits item)
        ∧ (items ≠ [] → bytes + (items.map size).sum ≤ maxTranscodeGuardTextBytes) := by
  induction items generalizing rulesLeft leafCount bytes with
  | nil => cases rulesLeft <;> simp [visitRules]
  | cons item rest ih =>
      cases rulesLeft with
      | zero => exact absurd few (Nat.not_succ_le_zero _)
      | succ rulesLeft =>
          have restLeaves : leafCount + 1 + rest.length ≤ maxTranscodeGuardRules := by
            rw [List.length_cons] at leaves
            omega
          have later (bytes : Nat) :=
            @ih rulesLeft (leafCount + 1) bytes
              (fun other member => flat other (List.mem_cons_of_mem _ member))
              (fun other member => measured other (List.mem_cons_of_mem _ member))
              (Nat.le_of_succ_le_succ few) restLeaves
          have oneLeaf : leafCount + 1 ≤ maxTranscodeGuardRules := by omega
          rw [List.map_cons, visitRules_cons_iff, flat item List.mem_cons_self]
          simp only [measured item List.mem_cons_self, later, List.forall_mem_cons,
            List.map_cons, List.sum_cons, oneLeaf, true_and]
          constructor
          · rintro ⟨-, _, ⟨fit, rfl⟩, within, fits, sum⟩
            refine ⟨⟨fit, fits⟩, fun _ => ?_⟩
            by_cases more : rest = []
            · simpa [more] using within
            · rw [← Nat.add_assoc]
              exact sum more
          · rintro ⟨⟨fit, fits⟩, sum⟩
            have total := sum (List.cons_ne_nil _ _)
            refine ⟨by decide, _, ⟨fit, rfl⟩, by omega, fits, fun _ => by omega⟩

end Visits

end OctoHubs.TranscodeGuard
