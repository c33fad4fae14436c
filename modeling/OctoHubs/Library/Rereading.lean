import OctoHubs.Library.TextParts

/-! Values that are read as what they were written from: letters that stay small, lists whose
texts stand once and alone, and numbers that are within their bounds.
-/

namespace OctoHubs.Library

/-- A letter that is its own small letter. -/
def Alphabet.Settled (alphabet : Alphabet) (c : Char) : Prop :=
  alphabet.lower (String.singleton c) = String.singleton c

/-- What holds of the letters of every script. -/
structure Alphabet.Lawful (alphabet : Alphabet) : Prop where
  lower_settles : ∀ (text : String), ∀ c ∈ (alphabet.lower text).toList, alphabet.Settled c
  lower_of_settled
    : ∀ text : String, (∀ c ∈ text.toList, alphabet.Settled c) → alphabet.lower text = text
  settled_plain
    : ∀ c : Char,
        c.isLower = true ∨ c.isDigit = true ∨ c = '-' ∨ c = '_' → alphabet.Settled c
  plain : ∀ c : Char, c.isLower = true ∨ c.isDigit = true → alphabet.isAlphanumeric c = true
  visible : ∀ c : Char, alphabet.isAlphanumeric c = true → isSpace c = false

def textList (texts : List String) : Json := .ofList (texts.map .text)

/-- Texts that a list keeps: each once, and without whitespace at its ends. -/
structure ListedTexts (texts : List String) : Prop where
  unique : texts.Nodup
  solid : ∀ text ∈ texts, text ≠ "" ∧ strip text = text

theorem utf8ByteSize_strip_le (text : String) : (strip text).utf8ByteSize ≤ text.utf8ByteSize := by
  rcases List.dropWhile_suffix (l := text.toList) isSpace with ⟨front, whole⟩
  rcases List.rdropWhile_prefix isSpace (text.toList.dropWhile isSpace) with ⟨back, rest⟩
  have split_ : text = String.ofList front ++ (strip text ++ String.ofList back) := by
    apply String.toList_injective
    simp only [String.toList_append, String.toList_ofList, strip]
    rw [rest, whole]
  have sizes := congrArg String.utf8ByteSize split_
  rw [String.utf8ByteSize_append, String.utf8ByteSize_append] at sizes
  omega

variable {alphabet : Alphabet}

theorem Alphabet.lawful_of_letters {small : Char → Char}
    (letterwise : ∀ text, (alphabet.lower text).toList = text.toList.map small)
    (again : ∀ c, small (small c) = small c)
    (settled_plain
      : ∀ c : Char, c.isLower = true ∨ c.isDigit = true ∨ c = '-' ∨ c = '_' → small c = c)
    (plain : ∀ c : Char, c.isLower = true ∨ c.isDigit = true → alphabet.isAlphanumeric c = true)
    (visible : ∀ c : Char, alphabet.isAlphanumeric c = true → isSpace c = false)
    : alphabet.Lawful := by
  have settled_iff (c : Char) : alphabet.Settled c ↔ small c = c := by
    simp [Alphabet.Settled, letterwise, ← String.toList_inj]
  refine ⟨?_, ?_, ?_, plain, visible⟩
  · intro text c member
    rw [letterwise] at member
    rcases List.mem_map.mp member with ⟨before, -, rfl⟩
    exact (settled_iff _).mpr (again before)
  · intro text settled
    apply String.toList_injective
    rw [letterwise]
    have same : ∀ c ∈ text.toList, small c = c :=
      fun c member => (settled_iff c).mp (settled c member)
    exact (List.map_congr_left same).trans (List.map_id _)
  · intro c known
    exact (settled_iff c).mpr (settled_plain c known)

theorem isAlphanum_of_plain {c : Char} (plain : c.isLower = true ∨ c.isDigit = true)
    : c.isAlphanum = true := by
  show (c.isUpper || c.isLower || c.isDigit) = true
  rcases plain with lower | digit
  · simp [lower]
  · simp [digit]

theorem toLower_of_not_capital {c : Char} (small : c.isUpper = false) : c.toLower = c := by
  delta Char.isUpper at small
  delta Char.toLower
  simp_all [UInt32.le_iff_toNat_le]

theorem not_capital_toLower (c : Char) : c.toLower.isUpper = false := by
  delta Char.isUpper Char.toLower
  split <;> grind [UInt32.toNat_add, Char.toNat_val]

theorem Alphabet.lawful_of_ascii
    (letterwise : ∀ text, (alphabet.lower text).toList = text.toList.map Char.toLower)
    (alphanumeric : ∀ c, alphabet.isAlphanumeric c = c.isAlphanum)
    : alphabet.Lawful := by
  apply Alphabet.lawful_of_letters letterwise
  · exact fun c => toLower_of_not_capital (not_capital_toLower c)
  · intro c known
    apply toLower_of_not_capital
    delta Char.isLower Char.isDigit at known
    delta Char.isUpper
    rcases known with lower | digit | rfl | rfl
    · simp [UInt32.le_iff_toNat_le] at lower ⊢
      omega
    · simp [UInt32.le_iff_toNat_le] at digit ⊢
      omega
    · rfl
    · rfl
  · exact fun c known => (alphanumeric c).trans (isAlphanum_of_plain known)
  · exact fun c known => isSpace_of_isAlphanum (alphanumeric c ▸ known)

theorem textOr_text {text default_ : String} (named : text ≠ "")
    : (Json.text text).textOr alphabet default_ = text := by
  simp [Json.textOr, Json.truthy, Json.asText, named]

theorem asList?_ofList (items : List Json) : (Json.ofList items).asList? = some items := by
  simp [Json.ofList, Json.asList?]

/-- By induction on the parts. -/
theorem listedTexts_foldl (parts : List Json) {texts : List String} (listed : ListedTexts texts)
    : ListedTexts
        (parts.foldl
          (fun result part =>
            let text := strip (part.textOr alphabet "")
            if text ≠ "" ∧ text ∉ result then result ++ [text] else result)
          texts) := by
  induction parts generalizing texts with
  | nil => exact listed
  | cons part rest ih =>
      refine ih ?_
      dsimp only
      split
      · next fresh =>
          refine ⟨listed.unique.append (List.nodup_singleton _) ?_, ?_⟩
          · simpa using fresh.2
          · intro text member
            rcases List.mem_append.mp member with old | new
            · exact listed.solid text old
            · rw [List.mem_singleton.mp new]
              exact ⟨fresh.1, strip_strip _⟩
      · exact listed

theorem listedTexts_stringList (value : Json) : ListedTexts (value.stringList alphabet) :=
  listedTexts_foldl _ ⟨List.nodup_nil, fun _ member => by cases member⟩

/-- By induction on the texts that are left. -/
theorem stringList_foldl {done texts : List String} (listed : ListedTexts (done ++ texts))
    : (texts.map Json.text).foldl
        (fun result part =>
          let text := strip (part.textOr alphabet "")
          if text ≠ "" ∧ text ∉ result then result ++ [text] else result)
        done
      = done ++ texts := by
  induction texts generalizing done with
  | nil => simp
  | cons text rest ih =>
      have solid := listed.solid text (by simp)
      have fresh : text ∉ done := by
        intro member
        have apart := (List.nodup_append.mp listed.unique).2.2
        exact apart text member text (by simp) rfl
      rw [List.map_cons, List.foldl_cons]
      dsimp only
      rw [textOr_text solid.1, solid.2, if_pos ⟨solid.1, fresh⟩, ih (by simpa using listed)]
      simp

theorem stringList_textList {texts : List String} (listed : ListedTexts texts)
    : (textList texts).stringList alphabet = texts := by
  have read := @stringList_foldl alphabet [] texts listed
  have parts : (textList texts).asList? = some (texts.map .text) := asList?_ofList _
  unfold Json.stringList
  rw [show textList texts = .list _ _ from rfl] at parts ⊢
  dsimp only
  rw [parts]
  exact read

theorem boundedInt_int {value minimum maximum default_ : Int} (above : minimum ≤ value)
    (below : value ≤ maximum)
    : (Json.int value).boundedInt alphabet minimum maximum default_ = value := by
  simp [Json.boundedInt, Json.toInt?, above, below]

theorem boundedInt_mem {value : Json} {minimum maximum default_ : Int}
    (ordered : minimum ≤ maximum) (above : minimum ≤ default_) (below : default_ ≤ maximum)
    : minimum ≤ value.boundedInt alphabet minimum maximum default_
      ∧ value.boundedInt alphabet minimum maximum default_ ≤ maximum := by
  unfold Json.boundedInt
  cases value.toInt? alphabet with
  | none => exact ⟨above, below⟩
  | some number =>
      simp only [Option.elim_some]
      omega

theorem toBool_bool (value default_ : Bool) : (Json.bool value).toBool alphabet default_ = value :=
  rfl

end OctoHubs.Library
