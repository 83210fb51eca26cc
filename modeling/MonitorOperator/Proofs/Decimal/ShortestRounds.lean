import Mathlib.Tactic.FieldSimp
import MonitorOperator.Decimal.Shortest
import MonitorOperator.Proofs.Decimal.Canonical

/-!
# Shortest decimals round back

The decimal that `shortest` finds for a canonical number rounds to this number
(`shortest_rounds`). On the grid with seventeen digits the point nearest to the number is nearer
than those halfway to its neighbours, so the search always ends with a hit.
-/

namespace MonitorOperator.Decimal

open Binary64 (gapBelow lowerBound upperBound Rounds leastFull leastFull_eq gapBelow_cases)

/-- The value of a decimal numeral. -/
def Numeral.value (numeral : Numeral) : ℚ :=
  numeral.digits * 10 ^ numeral.exponent

/-- A power with an integer exponent is a quotient of natural numbers. -/
theorem zpow_eq_div (base : Nat) (exponent : Int) :
    (base : ℚ) ^ exponent =
      if exponent < 0 then 1 / ((base ^ exponent.natAbs : ℕ) : ℚ)
      else ((base ^ exponent.natAbs : ℕ) : ℚ) := by
  split
  · next h =>
      obtain ⟨size, rfl⟩ := Int.eq_negSucc_of_lt_zero h
      simp [zpow_negSucc]
  · next h =>
      obtain ⟨size, rfl⟩ := Int.eq_ofNat_of_zero_le (Int.not_lt.1 h)
      simp

/-- Scaling by a power of two multiplies by a numerator and a denominator of this power. -/
theorem Binary64.exists_scaled (exponent : Int) :
    ∃ unit denominator : Nat, 0 < unit ∧ 0 < denominator ∧
      (unit / denominator : ℚ) = 2 ^ exponent ∧
      ∀ number, scaled number exponent = (number * unit, denominator) := by
  have hpow := zpow_eq_div 2 exponent
  by_cases h : exponent < 0
  · refine ⟨1, 2 ^ exponent.natAbs, one_pos, by positivity, ?_, fun number => ?_⟩
    · rw [if_pos h] at hpow
      simpa using hpow.symm
    · simp [scaled, h, Nat.one_shiftLeft]
  · refine ⟨2 ^ exponent.natAbs, 1, by positivity, one_pos, ?_, fun number => ?_⟩
    · rw [if_neg h] at hpow
      simpa using hpow.symm
    · simp [scaled, h, Nat.shiftLeft_eq]

/-- Scaling to a decimal grid multiplies by a numerator and a denominator of its unit. -/
theorem exists_gridScale (denominator : Nat) (exponent : Int) :
    ∃ unit factor : Nat, 0 < unit ∧ 0 < factor ∧ (unit / factor : ℚ) = 10 ^ exponent ∧
      gridScale denominator exponent = (denominator * unit, factor) := by
  have hpow := zpow_eq_div 10 exponent
  by_cases h : exponent < 0
  · refine ⟨1, 10 ^ exponent.natAbs, one_pos, by positivity, ?_, ?_⟩
    · rw [if_pos h] at hpow
      simpa using hpow.symm
    · simp [gridScale, h]
  · refine ⟨10 ^ exponent.natAbs, 1, by positivity, one_pos, ?_, ?_⟩
    · rw [if_neg h] at hpow
      simpa using hpow.symm
    · simp [gridScale, h]

namespace Neighbourhood

/-- The neighbourhood of a number, in quarters of its unit. -/
theorem exists_of (significand : Nat) (exponent : Int) :
    ∃ unit denominator : Nat, 0 < unit ∧ 0 < denominator ∧
      (unit / denominator : ℚ) = 2 ^ (exponent - 2) ∧
      Neighbourhood.of significand exponent =
        { value := 4 * significand * unit
          lower := (4 * significand - gapBelow significand exponent) * unit
          upper := (4 * significand + 2) * unit
          denominator
          closed := significand % 2 == 0 } := by
  obtain ⟨unit, denominator, hunit, hdenominator, hquotient, hscaled⟩ :=
    Binary64.exists_scaled (exponent - 2)
  refine ⟨unit, denominator, hunit, hdenominator, hquotient, ?_⟩
  have hgap : (if (significand == leastFull && decide (Binary64.leastExponent < exponent)) = true
      then unit else 2 * unit) = gapBelow significand exponent * unit := by
    simp only [gapBelow, Bool.and_eq_true, beq_iff_eq, decide_eq_true_eq]
    split
    · rw [one_mul]
    · rfl
  simp only [Neighbourhood.of, hscaled, one_mul, hgap, Neighbourhood.mk.injEq, and_true, true_and]
  exact ⟨(Nat.sub_mul _ _ _).symm, (Nat.add_mul _ _ _).symm⟩

/-- The neighbourhood holds the grid points that round to the number. -/
theorem holds_iff {significand : Nat} (hsignificand : significand ≠ 0) (exponent : Int)
    (digits : Nat) (power : Int) :
    (Neighbourhood.of significand exponent).holds digits power = true ↔
      Rounds significand exponent (digits * 10 ^ power) := by
  obtain ⟨unit, denominator, hunit, hdenominator, hquotient, haround⟩ :=
    exists_of significand exponent
  obtain ⟨tens, factor, -, hfactor, htens, hgrid⟩ := exists_gridScale denominator power
  have hgap : gapBelow significand exponent ≤ 4 * significand := by
    rcases gapBelow_cases significand exponent with ⟨hgap, -⟩ | ⟨hgap, -⟩ <;> omega
  have hscale : (0 : ℚ) < denominator * factor := by positivity
  have hlower : (((4 * significand - gapBelow significand exponent) * unit * factor : ℕ) : ℚ) =
      lowerBound significand exponent * (denominator * factor) := by
    rw [lowerBound, ← hquotient]
    push_cast [hgap]
    field_simp
  have hupper : (((4 * significand + 2) * unit * factor : ℕ) : ℚ) =
      upperBound significand exponent * (denominator * factor) := by
    rw [upperBound, ← hquotient]
    push_cast
    field_simp
  have hpoint : ((digits * (denominator * tens) : ℕ) : ℚ) =
      digits * 10 ^ power * (denominator * factor) := by
    rw [← htens]
    push_cast
    field_simp
  simp only [holds, haround, hgrid, Rounds, beq_iff_eq]
  split
  · rw [Bool.and_eq_true, decide_eq_true_eq, decide_eq_true_eq, ← @Nat.cast_le ℚ, ← @Nat.cast_le ℚ,
      hlower, hupper, hpoint, mul_le_mul_iff_left₀ hscale, mul_le_mul_iff_left₀ hscale]
  · rw [Bool.and_eq_true, decide_eq_true_eq, decide_eq_true_eq, ← @Nat.cast_lt ℚ, ← @Nat.cast_lt ℚ,
      hlower, hupper, hpoint, mul_lt_mul_iff_left₀ hscale, mul_lt_mul_iff_left₀ hscale]

variable {around : Neighbourhood}

/-- A point strictly between the halfway points rounds to the number. -/
theorem holds_of_between {digits unit factor : Nat} {power : Int}
    (hgrid : gridScale around.denominator power = (unit, factor))
    (hlower : around.lower * factor < digits * unit)
    (hupper : digits * unit < around.upper * factor) : around.holds digits power = true := by
  simp only [holds, hgrid]
  split
  · simp [hlower.le, hupper.le]
  · simp [hlower, hupper]

/-- The first of two candidates that passes a test passes it. -/
theorem passes_of_first_hit (test : Nat → Bool) {first second hit : Nat}
    (h : (if test first then some first else if test second then some second else none) =
      some hit) : test hit = true := by
  split at h
  · next hfirst =>
      obtain rfl := Option.some.inj h
      exact hfirst
  · split at h
    · next hsecond =>
        obtain rfl := Option.some.inj h
        exact hsecond
    · cases h

/-- The nearest point of a grid is one that rounds to the number. -/
theorem holds_of_nearest? {power : Int} {digits : Nat} (h : around.nearest? power = some digits) :
    around.holds digits power = true :=
  passes_of_first_hit (around.holds · power) h

/-- A grid whose unit is less than twice the distance to either halfway point has a point that
rounds to the number. -/
theorem nearest?_isSome {power : Int} {unit factor : Nat} (hunit : 0 < unit)
    (hgrid : gridScale around.denominator power = (unit, factor))
    (hlower : unit + 2 * (around.lower * factor) < 2 * (around.value * factor))
    (hupper : 2 * (around.value * factor) + unit < 2 * (around.upper * factor)) :
    ∃ digits, around.nearest? power = some digits := by
  have hbelow := Nat.div_mul_le_self (around.value * factor) unit
  have habove : around.value * factor < around.value * factor / unit * unit + unit :=
    Nat.lt_div_mul_add hunit
  simp only [nearest?, hgrid]
  generalize around.value * factor / unit = below at *
  generalize hfirst : (if (decide (around.value * factor - below * unit <
      (below + 1) * unit - around.value * factor) || (around.value * factor - below * unit ==
      (below + 1) * unit - around.value * factor && below % 2 == 0)) = true
    then below else below + 1) = first
  -- The nearer neighbour of the exact value is no farther than half the grid's unit.
  have hnear : around.lower * factor < first * unit ∧ first * unit < around.upper * factor := by
    rw [Nat.succ_mul] at hfirst
    split at hfirst
    · next h =>
        subst hfirst
        simp only [Bool.or_eq_true, Bool.and_eq_true, decide_eq_true_eq, beq_iff_eq] at h
        omega
    · next h =>
        subst hfirst
        simp only [Bool.or_eq_true, Bool.and_eq_true, decide_eq_true_eq, beq_iff_eq, not_or] at h
        rw [Nat.succ_mul]
        omega
  exact ⟨first, by rw [if_pos (holds_of_between hgrid hnear.1 hnear.2)]⟩

/-- The decimals that a search tries round to the number, if it stops at them. -/
theorem holds_of_search {magnitude : Int} {fuel count : Nat} {numeral : Numeral}
    (h : around.search magnitude fuel count = some numeral) :
    around.holds numeral.digits numeral.exponent = true := by
  induction fuel generalizing count with
  | zero => cases h
  | succ fuel ih =>
      simp only [search] at h
      split at h
      · next digits hnearest =>
          obtain rfl := Option.some.inj h
          exact holds_of_nearest? hnearest
      · exact ih h

/-- A search that reaches a grid with a hit stops at one. -/
theorem search_isSome {magnitude : Int} {fuel count later digits : Nat} (hcount : count ≤ later)
    (hfuel : later < count + fuel)
    (h : around.nearest? (magnitude - later) = some digits) :
    ∃ numeral, around.search magnitude fuel count = some numeral := by
  induction fuel generalizing count with
  | zero => omega
  | succ fuel ih =>
      simp only [search]
      split
      · exact ⟨_, rfl⟩
      · next hmiss =>
          have hne : count ≠ later := by
            rintro rfl
            rw [h] at hmiss
            cases hmiss
          exact ih (by omega) (by omega)

/-- A positive number lies between two powers of ten that its digits tell. -/
theorem between_powers {number : Nat} (h : 0 < number) :
    10 ^ ((Text.decimalDigits number).length - 1) ≤ number ∧
      number < 10 ^ (Text.decimalDigits number).length := by
  have hlength : 0 < (Text.decimalDigits number).length := Nat.length_toDigits_pos
  have hiff : ∀ size, 0 < size → ((Text.decimalDigits number).length ≤ size ↔ number < 10 ^ size) :=
    fun size => Nat.length_toDigits_le_iff (by decide)
  refine ⟨?_, (hiff _ hlength).1 le_rfl⟩
  rcases Nat.eq_or_lt_of_le hlength with hone | hmore
  · rw [← hone]
    exact h
  · refine Nat.not_lt.1 fun hsmall => ?_
    have := (hiff _ (by omega)).2 hsmall
    omega

/-- The power of ten below the magnitude does not exceed the value. -/
theorem pow_magnitude_le (around : Neighbourhood) (hvalue : 0 < around.value)
    (hdenominator : 0 < around.denominator) :
    (10 : ℚ) ^ (around.magnitude - 1) ≤ around.value / around.denominator := by
  simp only [magnitude]
  generalize hestimate : ((Text.decimalDigits around.value).length : Int) -
    (Text.decimalDigits around.denominator).length = estimate
  obtain ⟨tens, factor, -, hfactor, htens, hgrid⟩ :=
    exists_gridScale around.denominator estimate
  have hpositive : (0 : ℚ) < around.denominator := by exact_mod_cast hdenominator
  simp only [hgrid]
  split
  · -- The digits alone tell the lower bound.
    obtain ⟨hleast, -⟩ := between_powers hvalue
    obtain ⟨-, hlimit⟩ := between_powers hdenominator
    have hlength : 0 < (Text.decimalDigits around.value).length := Nat.length_toDigits_pos
    generalize (Text.decimalDigits around.value).length = above at *
    generalize (Text.decimalDigits around.denominator).length = below at *
    have hleast' : ((10 ^ (above - 1) : ℕ) : ℚ) ≤ around.value := by exact_mod_cast hleast
    have hlimit' : (around.denominator : ℚ) ≤ ((10 ^ below : ℕ) : ℚ) := by exact_mod_cast hlimit.le
    rw [le_div_iff₀ hpositive]
    calc (10 : ℚ) ^ (estimate - 1) * around.denominator
        ≤ 10 ^ (estimate - 1) * ((10 ^ below : ℕ) : ℚ) := by gcongr
      _ = ((10 ^ (above - 1) : ℕ) : ℚ) := by
          push_cast
          rw [← zpow_natCast, ← zpow_natCast, ← zpow_add₀ (by norm_num)]
          congr 1
          omega
      _ ≤ around.value := hleast'
  · next hlarge =>
      rw [add_sub_cancel_right, ← htens, div_le_div_iff₀ (by exact_mod_cast hfactor) hpositive]
      have hcast : ((around.denominator * tens : ℕ) : ℚ) ≤ ((around.value * factor : ℕ) : ℚ) := by
        exact_mod_cast Nat.not_lt.1 hlarge
      push_cast at hcast
      linarith

end Neighbourhood

/-- Stripping zeroes keeps the value of a numeral. -/
theorem Numeral.value_stripped (fuel : Nat) (numeral : Numeral) :
    (numeral.stripped fuel).value = numeral.value := by
  induction fuel generalizing numeral with
  | zero => rfl
  | succ fuel ih =>
      simp only [stripped]
      split
      · next h =>
          simp only [Bool.and_eq_true, bne_iff_ne, beq_iff_eq] at h
          rw [ih, value, value, zpow_add_one₀ (by norm_num)]
          have hdigits : (numeral.digits : ℚ) = ((numeral.digits / 10 : ℕ) : ℚ) * 10 := by
            exact_mod_cast (Nat.div_mul_cancel (Nat.dvd_of_mod_eq_zero h.2)).symm
          rw [hdigits]
          ring
      · rfl

/-- The grid with seventeen digits has a point that rounds to a canonical number. -/
theorem Neighbourhood.nearest?_seventeen {negative : Bool} {significand : Nat} {exponent : Int}
    (hcanonical : (Binary64.finite negative significand exponent).IsCanonical)
    (hsignificand : significand ≠ 0) :
    ∃ digits, (Neighbourhood.of significand exponent).nearest?
      ((Neighbourhood.of significand exponent).magnitude - (17 : Nat)) = some digits := by
  obtain ⟨unit, denominator, hunit, hdenominator, -, haround⟩ := exists_of significand exponent
  obtain ⟨tens, factor, htens, hfactor, hpow, hgrid⟩ := exists_gridScale denominator
    ((Neighbourhood.of significand exponent).magnitude - (17 : Nat))
  have hvalue : (0 : Nat) < 4 * significand * unit := by positivity
  have hmagnitude := pow_magnitude_le (Neighbourhood.of significand exponent)
    (by rw [haround]; exact hvalue) (by rw [haround]; exact hdenominator)
  -- The grid is finer than the number by sixteen digits.
  have hfine : denominator * tens * 10 ^ 16 ≤ 4 * significand * (unit * factor) := by
    have hcoarse : (10 : ℚ) ^ ((Neighbourhood.of significand exponent).magnitude - 1) =
        tens / factor * 10 ^ 16 := by
      rw [hpow, ← zpow_natCast, ← zpow_add₀ (by norm_num)]
      congr 1
      push_cast
      ring
    rw [hcoarse, haround, div_mul_eq_mul_div,
      div_le_div_iff₀ (by exact_mod_cast hfactor) (by exact_mod_cast hdenominator)] at hmagnitude
    have hcast : ((denominator * tens * 10 ^ 16 : ℕ) : ℚ) ≤
        ((4 * significand * (unit * factor) : ℕ) : ℚ) := by
      push_cast at hmagnitude ⊢
      linarith
    exact_mod_cast hcast
  obtain ⟨-, -, hwidth, -⟩ := hcanonical
  have hpositive : 0 < unit * factor := by positivity
  have hbound : 4 * significand * (unit * factor) ≤ 4 * 9007199254740992 * (unit * factor) :=
    Nat.mul_le_mul_right _ (by rw [leastFull_eq] at hwidth; omega)
  -- Below a power of two the halfway point is nearer, but so is the grid finer.
  have hgap : denominator * tens < 2 * gapBelow significand exponent * (unit * factor) := by
    rcases gapBelow_cases significand exponent with ⟨hgap, hfull, -⟩ | ⟨hgap, -⟩
    · rw [hgap]
      rw [hfull, leastFull_eq] at hfine
      omega
    · rw [hgap]
      omega
  have hnarrow : gapBelow significand exponent ≤ 2 := by
    rcases gapBelow_cases significand exponent with ⟨hgap, -⟩ | ⟨hgap, -⟩ <;> omega
  have hgrid' : gridScale (Neighbourhood.of significand exponent).denominator
      ((Neighbourhood.of significand exponent).magnitude - (17 : Nat)) =
        (denominator * tens, factor) := by
    rwa [show (Neighbourhood.of significand exponent).denominator = denominator by rw [haround]]
  have hvalue' : 4 * significand * unit * factor = 4 * significand * (unit * factor) :=
    Nat.mul_assoc _ _ _
  rw [Nat.mul_assoc 2] at hgap
  refine nearest?_isSome (Nat.mul_pos hdenominator htens) hgrid' ?_ ?_
  · have hlower : (4 * significand - gapBelow significand exponent) * unit * factor =
        4 * significand * (unit * factor) - gapBelow significand exponent * (unit * factor) := by
      rw [Nat.mul_assoc, Nat.sub_mul]
    have hleft : gapBelow significand exponent * (unit * factor) ≤
        4 * significand * (unit * factor) := Nat.mul_le_mul_right _ (by omega)
    rw [haround, hlower, hvalue']
    omega
  · have hupper : (4 * significand + 2) * unit * factor =
        4 * significand * (unit * factor) + 2 * (unit * factor) := by
      rw [Nat.mul_assoc, Nat.add_mul]
    have hright : gapBelow significand exponent * (unit * factor) ≤ 2 * (unit * factor) :=
      Nat.mul_le_mul_right _ hnarrow
    rw [haround, hupper, hvalue']
    omega

/-- The shortest decimal of a canonical number rounds to it. -/
theorem shortest_rounds {negative : Bool} {significand : Nat} {exponent : Int}
    (hcanonical : (Binary64.finite negative significand exponent).IsCanonical)
    (hsignificand : significand ≠ 0) :
    Rounds significand exponent (shortest significand exponent).value := by
  obtain ⟨digits, hnearest⟩ := Neighbourhood.nearest?_seventeen hcanonical hsignificand
  obtain ⟨numeral, hsearch⟩ :=
    Neighbourhood.search_isSome (show 1 ≤ 17 by decide) (show 17 < 1 + 17 by decide) hnearest
  rw [shortest, if_neg hsignificand]
  simp only [hsearch, Numeral.value_stripped]
  exact (Neighbourhood.holds_iff hsignificand exponent numeral.digits numeral.exponent).1
    (Neighbourhood.holds_of_search hsearch)

end MonitorOperator.Decimal
