import Mathlib.Tactic.Positivity
import MonitorOperator.Proofs.Decimal.Canonical

/-!
# The order of binary numbers

Binary numbers are compared by bringing their significands to one exponent. This is the order of
their exact values (`less_finite_iff`), so a number that is not less than a finite bound is at least
as great as it, or no number at all (`not_less_finite_iff`).
-/

namespace MonitorOperator.Decimal.Binary64

/-- The exact value of a finite number. -/
def exactValue (negative : Bool) (significand : Nat) (exponent : Int) : ℚ :=
  (if negative then -(significand : ℚ) else significand) * 2 ^ exponent

/-- The number is at least as great as a bound. Positive infinity exceeds every bound; what is no
number exceeds none. -/
def IsAtLeast (bound : ℚ) : Binary64 → Prop
  | finite negative significand exponent => bound ≤ exactValue negative significand exponent
  | infinite negative => negative = false
  | undefined => False

variable {negative negative' : Bool} {significand significand' : Nat} {exponent exponent' : Int}

/-- A significand that is brought to a smaller exponent keeps its value. -/
theorem signedAt_mul {smaller : Int} (h : smaller ≤ exponent) :
    (signedAt negative significand exponent smaller : ℚ) * 2 ^ smaller =
      exactValue negative significand exponent := by
  obtain ⟨shift, rfl⟩ : ∃ shift : ℕ, exponent = smaller + shift :=
    ⟨(exponent - smaller).toNat, by omega⟩
  have hshift : (smaller + shift - smaller).toNat = shift := by omega
  have hpow : (2 : ℚ) ^ (smaller + shift) = 2 ^ shift * 2 ^ smaller := by
    rw [zpow_add₀ two_ne_zero, zpow_natCast, mul_comm]
  unfold signedAt exactValue
  rw [hshift, hpow, ← mul_assoc, Nat.shiftLeft_eq]
  cases negative <;> push_cast <;> simp

/-- Finite numbers are ordered by their exact values. -/
theorem less_finite_iff :
    (finite negative significand exponent).less (finite negative' significand' exponent') = true ↔
      exactValue negative significand exponent < exactValue negative' significand' exponent' := by
  have hscale : (0 : ℚ) < 2 ^ min exponent exponent' := by positivity
  rw [← signedAt_mul (min_le_left exponent exponent'), ← signedAt_mul (min_le_right exponent exponent'),
    mul_lt_mul_iff_left₀ hscale, Int.cast_lt]
  exact decide_eq_true_iff

/-- What is not less than a finite bound is at least as great as it, or no number. -/
theorem not_less_finite_iff {number : Binary64} :
    number.less (finite negative significand exponent) = false ↔
      number.IsAtLeast (exactValue negative significand exponent) ∨ number = undefined := by
  cases number with
  | finite => rw [← Bool.not_eq_true, less_finite_iff]; simp [IsAtLeast]
  | infinite => simp [less, IsAtLeast]
  | undefined => simp [less]

end MonitorOperator.Decimal.Binary64
