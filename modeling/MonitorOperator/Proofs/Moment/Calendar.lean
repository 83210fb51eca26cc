import MonitorOperator.Moment

/-!
# The calendar by ordinals

The date that a number of days comes before is a date of the calendar, and has exactly that many days
before it (`Date.ofOrdinal_isValid`, `Date.ordinal_ofOrdinal`). A year begins with as many days
before it as its cycles of four hundred years, centuries, four years and single years have, and a
month with as many as the months before it have.
-/

namespace MonitorOperator

namespace Date

/-- The date is a day of a month of its year. -/
structure IsValid (date : Date) : Prop where
  month_pos : 1 ≤ date.month
  month_le : date.month ≤ 12
  day_pos : 1 ≤ date.day
  day_le : date.day ≤ daysInMonth date.year date.month

/-- The number of days of a year. -/
def yearLength (year : Nat) : Nat :=
  if isLeap year then 366 else 365

/-- A leap year can be divided by four, and not by a hundred unless by four hundred. -/
theorem isLeap_iff (year : Nat) :
    isLeap year = true ↔ year % 4 = 0 ∧ (year % 100 ≠ 0 ∨ year % 400 = 0) := by
  simp [isLeap]

section Year

variable {cycles centuries quads years : Nat}

/-- Cycles, centuries, four years and single years have all the days before the next year. -/
theorem daysBeforeYear_succ (hcenturies : centuries ≤ 3) (hquads : quads ≤ 24) (hyears : years ≤ 3) :
    daysBeforeYear (400 * cycles + 100 * centuries + 4 * quads + years + 1) =
      146097 * cycles + 36524 * centuries + 1461 * quads + 365 * years := by
  show 365 * (400 * cycles + 100 * centuries + 4 * quads + years) +
      (400 * cycles + 100 * centuries + 4 * quads + years) / 4 -
      (400 * cycles + 100 * centuries + 4 * quads + years) / 100 +
      (400 * cycles + 100 * centuries + 4 * quads + years) / 400 = _
  omega

/-- The last of four years is a leap year, but for the last four years of a century that does not end
its cycle. -/
theorem isLeap_succ_iff (hcenturies : centuries ≤ 3) (hquads : quads ≤ 24) (hyears : years ≤ 3) :
    isLeap (400 * cycles + 100 * centuries + 4 * quads + years + 1) = true ↔
      years = 3 ∧ (quads ≠ 24 ∨ centuries = 3) := by
  rw [isLeap_iff]
  omega

/-- The year of an ordinal has that day. -/
theorem yearOf_spec (ordinal : Nat) :
    (yearOf ordinal).2 < yearLength (yearOf ordinal).1 ∧
      daysBeforeYear (yearOf ordinal).1 + (yearOf ordinal).2 = ordinal := by
  obtain ⟨cycles, hcycles⟩ : ∃ cycles, cycles = ordinal / 146097 := ⟨_, rfl⟩
  obtain ⟨centuries, hcenturies⟩ : ∃ centuries, centuries = min (ordinal % 146097 / 36524) 3 :=
    ⟨_, rfl⟩
  obtain ⟨rest, hrest⟩ : ∃ rest, rest = ordinal % 146097 - centuries * 36524 := ⟨_, rfl⟩
  obtain ⟨years, hyears⟩ : ∃ years, years = min (rest % 1461 / 365) 3 := ⟨_, rfl⟩
  have heq : yearOf ordinal =
      (400 * cycles + 100 * centuries + 4 * (rest / 1461) + years + 1,
        rest % 1461 - years * 365) := by
    rw [hyears, hrest, hcenturies, hcycles]
    rfl
  -- Only the last century of a cycle has one day more than the others.
  have hlast : rest < 36524 ∨ centuries = 3 ∧ rest ≤ 36524 := by omega
  have hquads : rest / 1461 ≤ 24 := by omega
  have hleap := @isLeap_succ_iff cycles centuries (rest / 1461) years (by omega) hquads (by omega)
  rw [heq]
  refine ⟨?_, ?_⟩
  · show rest % 1461 - years * 365 < yearLength _
    unfold yearLength
    split
    · omega
    · next hnot =>
        rw [hleap] at hnot
        omega
  · show daysBeforeYear _ + (rest % 1461 - years * 365) = ordinal
    rw [daysBeforeYear_succ (by omega) hquads (by omega)]
    omega

end Year

section Month

variable {year : Nat}

/-- No month has more than thirty-one days. -/
theorem daysInMonth_le (year month : Nat) : daysInMonth year month ≤ 31 := by
  unfold daysInMonth
  split
  · split <;> decide
  all_goals decide

/-- A month begins as many days later than the one before as that has. -/
theorem daysBeforeMonth_succ {month : Nat} (h : 1 ≤ month) :
    daysBeforeMonth year (month + 1) = daysBeforeMonth year month + daysInMonth year month := by
  obtain ⟨before, rfl⟩ := Nat.exists_eq_add_of_le' h
  rfl

/-- Twelve months have all the days of a year. -/
theorem daysBeforeMonth_thirteen (year : Nat) : daysBeforeMonth year 13 = yearLength year := by
  cases h : isLeap year <;> simp [daysBeforeMonth, daysInMonth, yearLength, h]

/-- A day of a month is in that month. -/
theorem monthOf_of_lt {month rest : Nat} (fuel : Nat) (h : rest < daysInMonth year month) :
    monthOf year fuel month rest = (month, rest + 1) := by
  cases fuel with
  | zero => rfl
  | succ fuel => exact if_pos h

/-- A day after a month is in one of the later months. -/
theorem monthOf_of_le {month rest : Nat} (fuel : Nat) (h : daysInMonth year month ≤ rest) :
    monthOf year (fuel + 1) month rest =
      monthOf year fuel (month + 1) (rest - daysInMonth year month) :=
  if_neg (Nat.not_lt.2 h)

/-- Among the months that are left of a year is the one of a day that is left. -/
theorem monthOf_spec (fuel : Nat) {month rest : Nat} (hfuel : fuel + month = 12)
    (hmonth : 1 ≤ month) (hrest : daysBeforeMonth year month + rest < yearLength year) :
    ∃ found day, monthOf year fuel month rest = (found, day) ∧ IsValid ⟨year, found, day⟩ ∧
      daysBeforeMonth year found + (day - 1) = daysBeforeMonth year month + rest := by
  induction fuel generalizing month rest with
  | zero =>
      -- No month is left but the last, which reaches to the end of the year.
      obtain rfl : month = 12 := by omega
      rw [← daysBeforeMonth_thirteen, daysBeforeMonth_succ hmonth] at hrest
      have hlt : rest < daysInMonth year 12 := Nat.lt_of_add_lt_add_left hrest
      exact ⟨12, rest + 1, rfl, ⟨hmonth, Nat.le_refl 12, Nat.succ_pos rest, hlt⟩, rfl⟩
  | succ fuel ih =>
      by_cases hlt : rest < daysInMonth year month
      · have hle : month ≤ 12 := by omega
        exact ⟨month, rest + 1, monthOf_of_lt _ hlt, ⟨hmonth, hle, Nat.succ_pos rest, hlt⟩, rfl⟩
      · have hle : daysInMonth year month ≤ rest := Nat.not_lt.1 hlt
        have hsum : daysBeforeMonth year (month + 1) + (rest - daysInMonth year month) =
            daysBeforeMonth year month + rest := by
          rw [daysBeforeMonth_succ hmonth]
          omega
        rw [monthOf_of_le fuel hle, ← hsum]
        rw [← hsum] at hrest
        exact ih (by omega) (by omega) hrest

end Month

/-- The date of an ordinal is a day of the calendar, and has that many days before it. -/
theorem ofOrdinal_spec (ordinal : Nat) :
    (ofOrdinal ordinal).IsValid ∧ (ofOrdinal ordinal).ordinal = ordinal := by
  obtain ⟨hrest, hsum⟩ := yearOf_spec ordinal
  have hfirst : daysBeforeMonth (yearOf ordinal).1 1 + (yearOf ordinal).2 = (yearOf ordinal).2 :=
    Nat.zero_add _
  rw [← hfirst] at hrest
  obtain ⟨month, day, hmonth, hvalid, hday⟩ := monthOf_spec 11 rfl (Nat.le_refl 1) hrest
  have hdate : ofOrdinal ordinal = ⟨(yearOf ordinal).1, month, day⟩ := by
    show Date.mk (yearOf ordinal).1 (monthOf (yearOf ordinal).1 11 1 (yearOf ordinal).2).1
      (monthOf (yearOf ordinal).1 11 1 (yearOf ordinal).2).2 = _
    rw [hmonth]
  rw [hdate]
  refine ⟨hvalid, ?_⟩
  show daysBeforeYear (yearOf ordinal).1 + daysBeforeMonth (yearOf ordinal).1 month + (day - 1) =
    ordinal
  rw [Nat.add_assoc, hday, hfirst, hsum]

/-- The date of an ordinal is a day of its month. -/
theorem ofOrdinal_isValid (ordinal : Nat) : (ofOrdinal ordinal).IsValid :=
  (ofOrdinal_spec ordinal).1

/-- As many days are before the date of an ordinal as the ordinal says. -/
@[simp] theorem ordinal_ofOrdinal (ordinal : Nat) : (ofOrdinal ordinal).ordinal = ordinal :=
  (ofOrdinal_spec ordinal).2

end Date

end MonitorOperator
