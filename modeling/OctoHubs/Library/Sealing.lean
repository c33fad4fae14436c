import Mathlib.Data.List.Basic

/-! Sealed payloads: an authenticated cipher opens only what it has sealed, and no two sealed
payloads have the same token.
-/

namespace OctoHubs.Library

theorem bind_eq_ok_iff {ε : Type*} {α β : Type} {first : Except ε α} {next : α → Except ε β}
    {result : β}
    : first >>= next = .ok result ↔ ∃ value, first = .ok value ∧ next value = .ok result := by
  cases first with
  | error failure =>
      constructor
      · intro impossible
        cases impossible
      · rintro ⟨value, impossible, -⟩
        cases impossible
  | ok value =>
      constructor
      · exact fun second => ⟨value, rfl, second⟩
      · rintro ⟨value', same, second⟩
        cases same
        exact second

/-- The token of each payload in the order in which they are sealed. -/
structure Cipher where
  token : Nat → String
  token_injective : Function.Injective token

namespace Cipher

variable {π : Type*} (cipher : Cipher)

/-- Open a token: the number and the payload of what was sealed with it. -/
def unseal? (sealed : List π) (token : String) : Option (Nat × π) :=
  sealed.zipIdx.findSome? (fun (payload, number) =>
    if cipher.token number = token then some (number, payload) else none)

variable {cipher} {sealed : List π} {token : String} {number : Nat} {payload : π}

theorem unseal?_eq_some_iff
    : cipher.unseal? sealed token = some (number, payload)
      ↔ cipher.token number = token ∧ sealed[number]? = some payload := by
  constructor
  · intro opened
    obtain ⟨⟨found, index⟩, member, same⟩ := List.exists_of_findSome?_eq_some opened
    dsimp only at same
    split at same
    · next own =>
        cases same
        exact ⟨own, List.mk_mem_zipIdx_iff_getElem?.mp member⟩
    · cases same
  · rintro ⟨rfl, present⟩
    have member := List.mk_mem_zipIdx_iff_getElem?.mpr present
    cases opened : cipher.unseal? sealed (cipher.token number) with
    | none =>
        have missed := List.findSome?_eq_none_iff.mp opened _ member
        simp at missed
    | some result =>
        obtain ⟨⟨found, index⟩, member', same⟩ := List.exists_of_findSome?_eq_some opened
        dsimp only at same
        split at same
        · next own =>
            cases cipher.token_injective own
            have present' := List.mk_mem_zipIdx_iff_getElem?.mp member'
            rw [present] at present'
            cases present'
            exact same.symm
        · cases same

end Cipher

/-- A payload is made for a given value, or from an earlier one by its number. -/
inductive Origin (ι : Type*)
  | issued (given : ι)
  | reissued (source : Nat)

/-- A payload, the time at which it was sealed and where it comes from. -/
structure Minted (ι π : Type*) where
  sealedAt : Nat
  payload : π
  origin : Origin ι

section Roots

variable {ι π γ : Type*}

/-- The first payload that another one leads back to, and the value that it was made for. -/
inductive RootOf (minted : List (Minted ι π)) : Nat → Minted ι π → ι → Prop
  | issued {number : Nat} {root : Minted ι π} {given : ι}
      (present : minted[number]? = some root) (origin : root.origin = .issued given)
      : RootOf minted number root given
  | reissued {number source : Nat} {entry root : Minted ι π} {given : ι}
      (present : minted[number]? = some entry) (origin : entry.origin = .reissued source)
      (further : RootOf minted source root given)
      : RootOf minted number root given

/-- Payloads that are sealed by the given time, each one made as `begins` says of its value or
as `passes` says of an earlier payload.
-/
structure Traced (begins : ι → Minted ι π → Prop) (passes : π → π → Prop) (clock : Nat)
    (minted : List (Minted ι π))
    : Prop where
  sealedBefore
    : ∀ (number : Nat) (entry : Minted ι π),
        minted[number]? = some entry → entry.sealedAt ≤ clock
  begun
    : ∀ (number : Nat) (entry : Minted ι π) (given : ι),
        minted[number]? = some entry → entry.origin = .issued given → begins given entry
  passed
    : ∀ (number : Nat) (entry : Minted ι π) (source : Nat),
        minted[number]? = some entry
        → entry.origin = .reissued source
        → source < number
          ∧ ∃ from_ : Minted ι π,
              minted[source]? = some from_ ∧ passes from_.payload entry.payload

namespace Traced

variable {begins : ι → Minted ι π → Prop} {passes : π → π → Prop} {clock : Nat}
  {minted : List (Minted ι π)}

theorem nil : Traced begins passes clock [] where
  sealedBefore _ _ impossible := by cases impossible
  begun _ _ _ impossible := by cases impossible
  passed _ _ _ impossible := by cases impossible

theorem advance {later : Nat} (traced : Traced begins passes clock minted)
    (order : clock ≤ later)
    : Traced begins passes later minted where
  sealedBefore number entry present := Nat.le_trans (traced.sealedBefore number entry present) order
  begun := traced.begun
  passed := traced.passed

theorem getElem?_concat {number : Nat} {entry last : Minted ι π}
    (present : (minted ++ [last])[number]? = some entry)
    : minted[number]? = some entry ∨ number = minted.length ∧ entry = last := by
  rw [List.getElem?_append] at present
  split at present
  · exact Or.inl present
  · next bound =>
      right
      obtain ⟨fits, same⟩ := List.getElem?_eq_some_iff.mp present
      rw [List.length_singleton] at fits
      refine ⟨by omega, ?_⟩
      rw [← same, List.getElem_singleton]

theorem getElem?_of_concat {number : Nat} {entry last : Minted ι π}
    (present : minted[number]? = some entry)
    : (minted ++ [last])[number]? = some entry := by
  rw [List.getElem?_append_left (List.getElem?_eq_some_iff.mp present).1, present]

theorem concat {entry : Minted ι π} (traced : Traced begins passes clock minted)
    (now : entry.sealedAt ≤ clock)
    (begins_ : ∀ given, entry.origin = .issued given → begins given entry)
    (passes_
      : ∀ source,
          entry.origin = .reissued source
          → ∃ from_ : Minted ι π,
              minted[source]? = some from_ ∧ passes from_.payload entry.payload)
    : Traced begins passes clock (minted ++ [entry]) where
  sealedBefore number found present := by
    obtain earlier | ⟨-, rfl⟩ := getElem?_concat present
    · exact traced.sealedBefore number found earlier
    · exact now
  begun number found given present made := by
    obtain earlier | ⟨-, rfl⟩ := getElem?_concat present
    · exact traced.begun number found given earlier made
    · exact begins_ given made
  passed number found source present made := by
    obtain earlier | ⟨rfl, rfl⟩ := getElem?_concat present
    · obtain ⟨order, from_, known, step⟩ := traced.passed number found source earlier made
      exact ⟨order, from_, getElem?_of_concat known, step⟩
    · obtain ⟨from_, known, step⟩ := passes_ source made
      have order := (List.getElem?_eq_some_iff.mp known).1
      exact ⟨order, from_, getElem?_of_concat known, step⟩

theorem exists_root (traced : Traced begins passes clock minted) (content : π → γ)
    (same : ∀ from_ to_, passes from_ to_ → content from_ = content to_) {number : Nat}
    {entry : Minted ι π} (present : minted[number]? = some entry)
    : ∃ root given,
        RootOf minted number root given ∧ begins given root
        ∧ content root.payload = content entry.payload := by
  induction number using Nat.strongRecOn generalizing entry with
  | ind number ih =>
      cases made : entry.origin with
      | issued given =>
          exact ⟨entry, given, .issued present made, traced.begun _ _ _ present made, rfl⟩
      | reissued source =>
          obtain ⟨order, from_, known, step⟩ := traced.passed _ _ _ present made
          obtain ⟨root, given, further, begins_, agree⟩ := ih source order known
          exact ⟨root, given, .reissued present made further, begins_,
            agree.trans (same _ _ step)⟩

end Traced

end Roots

end OctoHubs.Library
