import Mathlib.Data.Rat.Cast.Order
import Mathlib.Tactic.Linarith

/-! Quotas that grant a cost as a whole or not at all. -/

namespace OctoHubs.Library

/-- A quota grants every cost that what is available covers, and takes it from that. -/
structure Quota (σ : Type*) where
  consume : Nat → σ → Bool × σ
  available : σ → ℚ
  available_nonneg : ∀ state, 0 ≤ available state
  granted_iff
    : ∀ cost state, 0 < cost → ((consume cost state).1 = true ↔ (cost : ℚ) ≤ available state)
  available_granted
    : ∀ cost state,
        0 < cost → (consume cost state).1 = true →
          available (consume cost state).2 = available state - cost

def Quota.counter : Quota Nat where
  consume cost left := if cost ≤ left then (true, left - cost) else (false, left)
  available left := left
  available_nonneg left := by positivity
  granted_iff cost left _ := by
    split
    · next covered => simpa using covered
    · next short => simpa using short
  available_granted cost left _ granted := by
    split at granted
    · next covered => simp [covered]
    · cases granted

variable {σ : Type*}

/-- A cost is charged only if there is one, and only where there is a quota. -/
def charge (consume? : Option (Nat → σ → Bool × σ)) (cost : Nat) (state : σ) : Bool × σ :=
  match consume? with
  | none => (true, state)
  | some consume => if cost = 0 then (true, state) else consume cost state

theorem charge_granted_iff (quota : Quota σ) (cost : Nat) (state : σ)
    : (charge (some quota.consume) cost state).1 = true
      ↔ (cost : ℚ) ≤ quota.available state := by
  unfold charge
  dsimp only
  split
  · next free =>
      have left := quota.available_nonneg state
      simpa [free] using left
  · next some_ => exact quota.granted_iff cost state (Nat.pos_of_ne_zero some_)

theorem available_charge (quota : Quota σ) {cost : Nat} {state : σ}
    (granted : (charge (some quota.consume) cost state).1 = true)
    : quota.available (charge (some quota.consume) cost state).2
      = quota.available state - cost := by
  unfold charge at granted ⊢
  dsimp only at granted ⊢
  split
  · next free => simp [free]
  · next some_ =>
      rw [if_neg some_] at granted
      exact quota.available_granted cost state (Nat.pos_of_ne_zero some_) granted

end OctoHubs.Library
