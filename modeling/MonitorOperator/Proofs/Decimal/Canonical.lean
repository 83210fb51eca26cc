import Mathlib.Algebra.Order.Field.Power
import Mathlib.Data.Rat.Defs
import Mathlib.Tactic.Linarith
import Mathlib.Tactic.Positivity
import Mathlib.Tactic.Ring
import MonitorOperator.Decimal.Binary64

/-!
# Canonical forms and rounding intervals

A `Binary64` may write one number in several ways, `2 * 2 ^ 0` and `1 * 2 ^ 1` among them. The
format holds each number in one form: its significand has full width, or its exponent is the least.
The values that round to such a number lie between the points halfway to its neighbours. No value
rounds to two of them (`Rounds.unique`), so a value that rounds to a number tells it.
-/

namespace MonitorOperator.Decimal.Binary64

/-- The number is as the format holds it. -/
def IsCanonical : Binary64 → Prop
  | finite _ significand exponent =>
      leastExponent ≤ exponent ∧ exponent ≤ greatestExponent ∧ significand < 2 * leastFull ∧
        (leastFull ≤ significand ∨ exponent = leastExponent)
  | infinite _ => True
  | undefined => True

/-- How many quarters of a unit lie between a number and the point halfway to the one below. Below a
power of two numbers are twice as dense. -/
def gapBelow (significand : Nat) (exponent : Int) : Nat :=
  if significand = leastFull ∧ leastExponent < exponent then 1 else 2

/-- The point halfway to the number below. -/
def lowerBound (significand : Nat) (exponent : Int) : ℚ :=
  (4 * significand - gapBelow significand exponent) * 2 ^ (exponent - 2)

/-- The point halfway to the number above. -/
def upperBound (significand : Nat) (exponent : Int) : ℚ :=
  (4 * significand + 2) * 2 ^ (exponent - 2)

/-- The value rounds to `significand * 2 ^ exponent`. Points halfway between two numbers round to
the one whose significand is even. -/
def Rounds (significand : Nat) (exponent : Int) (value : ℚ) : Prop :=
  if significand % 2 = 0 then
    lowerBound significand exponent ≤ value ∧ value ≤ upperBound significand exponent
  else lowerBound significand exponent < value ∧ value < upperBound significand exponent

/-- The least significand of full width in decimal notation. -/
theorem leastFull_eq : leastFull = 4503599627370496 := rfl

/-- The gap below a number is one or two quarters. -/
theorem gapBelow_cases (significand : Nat) (exponent : Int) :
    (gapBelow significand exponent = 1 ∧ significand = leastFull ∧ leastExponent < exponent) ∨
      (gapBelow significand exponent = 2 ∧
        (significand ≠ leastFull ∨ exponent ≤ leastExponent)) := by
  unfold gapBelow
  split
  · next h => exact .inl ⟨rfl, h⟩
  · next h => exact .inr ⟨rfl, by omega⟩

variable {significand other : Nat} {exponent next : Int} {value : ℚ}

/-- A value that rounds to a number lies between the points halfway to its neighbours. -/
theorem Rounds.between (h : Rounds significand exponent value) :
    lowerBound significand exponent ≤ value ∧ value ≤ upperBound significand exponent := by
  unfold Rounds at h
  split at h
  · exact h
  · exact ⟨h.1.le, h.2.le⟩

/-- A value at the upper end of an interval and the lower end of another one needs both to be
closed. -/
theorem Rounds.both_even (h : Rounds significand exponent value) (hnext : Rounds other next value)
    (hends : upperBound significand exponent = lowerBound other next) :
    significand % 2 = 0 ∧ other % 2 = 0 := by
  have hvalue : value = upperBound significand exponent :=
    le_antisymm h.between.2 (hends ▸ hnext.between.1)
  constructor
  · by_contra hodd
    rw [Rounds, if_neg hodd] at h
    exact absurd hvalue h.2.ne
  · by_contra hodd
    rw [Rounds, if_neg hodd] at hnext
    exact absurd (hvalue.trans hends) hnext.1.ne'

/-- Intervals of numbers with one exponent meet in a point at most, which belongs to one of them. -/
theorem Rounds.not_both_of_lt (hlt : significand < other) (h : Rounds significand exponent value) :
    ¬ Rounds other exponent value := by
  intro hnext
  have hunit : (0 : ℚ) < 2 ^ (exponent - 2) := by positivity
  have hmeet : lowerBound other exponent ≤ upperBound significand exponent :=
    hnext.between.1.trans h.between.2
  have hquarters : (4 * other : ℚ) - gapBelow other exponent ≤ 4 * significand + 2 :=
    le_of_mul_le_mul_right hmeet hunit
  have hnarrow : 4 * other ≤ 4 * significand + 2 + gapBelow other exponent := by
    have hcast : ((4 * other : ℕ) : ℚ) ≤
        ((4 * significand + 2 + gapBelow other exponent : ℕ) : ℚ) := by
      push_cast
      linarith
    exact_mod_cast hcast
  have hsame : gapBelow other exponent = 2 ∧ other = significand + 1 := by
    rcases gapBelow_cases other exponent with ⟨hgap, -⟩ | ⟨hgap, -⟩ <;> omega
  have hends : upperBound significand exponent = lowerBound other exponent := by
    rw [upperBound, lowerBound, hsame.1, hsame.2]
    push_cast
    ring
  have heven := h.both_even hnext hends
  omega

/-- An interval with a larger exponent lies above, and may meet the other one in a point that
belongs to one of them. -/
theorem Rounds.not_both_of_exponent_lt (hwidth : significand < 2 * leastFull)
    (hfull : leastFull ≤ other) (hleast : leastExponent ≤ exponent) (hlt : exponent < next)
    (h : Rounds significand exponent value) : ¬ Rounds other next value := by
  intro hnext
  have hunit : (0 : ℚ) < 2 ^ (exponent - 2) := by positivity
  have hdouble : (2 : ℚ) * 2 ^ (exponent - 2) ≤ 2 ^ (next - 2) := by
    rw [← zpow_one_add₀ (by norm_num)]
    exact zpow_le_zpow_right₀ (by norm_num) (by omega)
  have hmeet : lowerBound other next ≤ upperBound significand exponent :=
    hnext.between.1.trans h.between.2
  -- The unit is twice as large at least, and the significands leave no room but for one point.
  have hquarters : 4 * significand + 2 + 2 * gapBelow other next ≤ 8 * other := by
    rcases gapBelow_cases other next with ⟨hgap, -⟩ | ⟨hgap, hother⟩ <;>
      rw [leastFull_eq] at * <;> omega
  have hcast : (4 * significand + 2 : ℚ) ≤ 2 * (4 * other - gapBelow other next) := by
    have hquarters' : ((4 * significand + 2 + 2 * gapBelow other next : ℕ) : ℚ) ≤
        ((8 * other : ℕ) : ℚ) := by exact_mod_cast hquarters
    push_cast at hquarters'
    linarith
  have hpositive : (0 : ℚ) ≤ 4 * other - gapBelow other next := by
    have : (0 : ℚ) ≤ 4 * significand + 2 := by positivity
    linarith
  have hlower : upperBound significand exponent ≤
      2 * (4 * other - gapBelow other next) * 2 ^ (exponent - 2) :=
    mul_le_mul_of_nonneg_right hcast hunit.le
  have hupper : 2 * (4 * other - gapBelow other next) * 2 ^ (exponent - 2) ≤
      lowerBound other next := by
    calc 2 * (4 * other - gapBelow other next) * 2 ^ (exponent - 2)
        = (4 * other - gapBelow other next) * (2 * 2 ^ (exponent - 2) : ℚ) := by ring
      _ ≤ lowerBound other next := mul_le_mul_of_nonneg_left hdouble hpositive
  have heven := h.both_even hnext (le_antisymm (hlower.trans hupper) hmeet)
  have hequal : (4 * significand + 2 : ℚ) = 2 * (4 * other - gapBelow other next) :=
    mul_right_cancel₀ hunit.ne' (le_antisymm hlower (hupper.trans hmeet))
  have hparity : 4 * significand + 2 + 2 * gapBelow other next = 8 * other := by
    have hsum : ((4 * significand + 2 + 2 * gapBelow other next : ℕ) : ℚ) =
        ((8 * other : ℕ) : ℚ) := by
      push_cast
      linarith
    exact_mod_cast hsum
  rcases gapBelow_cases other next with ⟨hgap, -⟩ | ⟨hgap, -⟩ <;> omega

/-- No value rounds to two numbers. -/
theorem Rounds.unique {negative negative' : Bool}
    (hleft : IsCanonical (finite negative significand exponent))
    (hright : IsCanonical (finite negative' other next)) (h : Rounds significand exponent value)
    (hnext : Rounds other next value) : significand = other ∧ exponent = next := by
  obtain ⟨hleast, -, hwidth, hform⟩ := hleft
  obtain ⟨hleast', -, hwidth', hform'⟩ := hright
  rcases lt_trichotomy exponent next with hlt | rfl | hgt
  · have hfull : leastFull ≤ other := hform'.resolve_right (by omega)
    exact absurd hnext (h.not_both_of_exponent_lt hwidth hfull hleast hlt)
  · rcases lt_trichotomy significand other with hlt | rfl | hgt
    · exact absurd hnext (h.not_both_of_lt hlt)
    · exact ⟨rfl, rfl⟩
    · exact absurd h (hnext.not_both_of_lt hgt)
  · have hfull : leastFull ≤ significand := hform.resolve_right (by omega)
    exact absurd h (hnext.not_both_of_exponent_lt hwidth' hfull hleast' hgt)

/-- What rounds to a number other than zero is positive. -/
theorem Rounds.pos (h : Rounds significand exponent value) (hsignificand : significand ≠ 0) :
    0 < value := by
  refine lt_of_lt_of_le ?_ h.between.1
  have hgap : (gapBelow significand exponent : ℚ) ≤ 2 := by
    rcases gapBelow_cases significand exponent with ⟨hgap, -⟩ | ⟨hgap, -⟩ <;> norm_num [hgap]
  have hone : (1 : ℚ) ≤ significand := by exact_mod_cast Nat.pos_of_ne_zero hsignificand
  exact mul_pos (by linarith) (by positivity)

end MonitorOperator.Decimal.Binary64
