import MonitorOperator.Proofs.Decimal.WrittenNumber
import MonitorOperator.Proofs.Moment.Calendar

/-!
# Timestamps read back

A timestamp is written in UTC and to the second. If its year has four digits it reads back as the
moment in UTC at which the second began that it was written in (`Moment.ofTimestamp_timestamp`), and
two moments have the same timestamp exactly if they are in the same second
(`Moment.timestamp_eq_iff`). What follows the year is written and read part by part, each part up to
its mark.
-/

namespace MonitorOperator

open Document (AllDigits)

namespace Moment

/-- The moment is one that a clock and a calendar show. -/
structure IsValid (moment : Moment) : Prop where
  date : moment.date.IsValid
  hour : moment.hour < 24
  minute : moment.minute < 60
  second : moment.second < 60
  microsecond : moment.microsecond < 1000000

/-- The year has four digits in UTC. -/
def HasFourDigitYear (moment : Moment) : Prop :=
  ∃ utc, moment.toUtc = .ok utc ∧ 1000 ≤ utc.date.year ∧ utc.date.year ≤ 9999

/-- A moment in UTC at which the second of another one began. -/
structure IsSecondOf (kept moment : Moment) : Prop where
  isValid : kept.IsValid
  offset : kept.fullOffset = 0
  microsecond : kept.microsecond = 0
  sinceStart : kept.sinceStart = moment.sinceStart / 1000000 * 1000000

section Utc

/-- The moment of a number of seconds is one that a clock and a calendar show. -/
theorem ofInstant_isValid (instant : Nat) {microsecond : Nat} (h : microsecond < 1000000) :
    (ofInstant instant microsecond).IsValid where
  date := Date.ofOrdinal_isValid (instant / 86400)
  hour := by show instant % 86400 / 3600 < 24; omega
  minute := by show instant % 86400 / 60 % 60 < 60; omega
  second := by show instant % 86400 % 60 < 60; omega
  microsecond := h

/-- The moment of a number of seconds is as much later than the start of the calendar. -/
theorem sinceStart_ofInstant (instant microsecond : Nat) :
    (ofInstant instant microsecond).sinceStart = instant * 1000000 + microsecond := by
  have hday : (ofInstant instant microsecond).secondOfDay = instant % 86400 := by
    show instant % 86400 / 3600 * 3600 + instant % 86400 / 60 % 60 * 60 + instant % 86400 % 60 = _
    omega
  have hdate : (ofInstant instant microsecond).date.ordinal = instant / 86400 :=
    Date.ordinal_ofOrdinal _
  show (((_ * 86400 + _) * 1000000 + microsecond : Nat) : Int) - 0 = _
  rw [hdate, hday]
  omega

/-- The moment of a number of seconds is in that second. -/
theorem instant_ofInstant (instant : Nat) : (ofInstant instant 0).instant = instant := by
  unfold Moment.instant
  rw [sinceStart_ofInstant]
  omega

/-- A moment has a second in UTC if that is in the calendar. -/
theorem toUtc_eq_ok_iff {moment utc : Moment} :
    moment.toUtc = .ok utc ↔
      (0 ≤ moment.instant ∧ moment.instant < (Date.calendarLength * 86400 : Nat)) ∧
        utc = ofInstant moment.instant.toNat (moment.sinceStart % 1000000).toNat := by
  unfold toUtc
  simp only [Bool.or_eq_true, decide_eq_true_eq]
  split
  · next hout =>
      have hnot : ¬ (0 ≤ moment.instant ∧ moment.instant < (Date.calendarLength * 86400 : Nat)) := by
        omega
      rw [iff_false_intro hnot, false_and, iff_false]
      simp
  · next hin =>
      have hrange : 0 ≤ moment.instant ∧ moment.instant < (Date.calendarLength * 86400 : Nat) := by
        omega
      rw [and_iff_right hrange, Except.ok.injEq, eq_comm]

/-- The whole second of a moment in the calendar is a moment in UTC. -/
theorem isSecondOf_ofInstant {moment : Moment} (h : 0 ≤ moment.instant) :
    (ofInstant moment.instant.toNat 0).IsSecondOf moment where
  isValid := ofInstant_isValid _ (by decide)
  offset := rfl
  microsecond := rfl
  sinceStart := by
    rw [sinceStart_ofInstant, Int.toNat_of_nonneg h, Int.natCast_zero, Int.add_zero]
    rfl

end Utc

section Parts

/-- A digit has no other case. -/
theorem toUpper_of_isDigit {character : Char} (h : character.isDigit = true) :
    character.toUpper = character := by
  simp only [Char.isDigit, Bool.and_eq_true, decide_eq_true_eq] at h
  unfold Char.toUpper
  rw [dif_neg]
  rintro ⟨hletter, -⟩
  exact absurd (UInt32.le_trans hletter h.2) (by decide)

/-- The digits of a number filled with zeroes are digits. -/
theorem allDigits_padded (width number : Nat) : AllDigits (Text.padded width number) :=
  Decimal.allDigits_append (Decimal.allDigits_replicate _) (Decimal.allDigits_decimalDigits _)

/-- A part of digits is read up to its mark. -/
theorem readPart?_padded {read : List Char → Option Nat} {mark : Char} {width number : Nat}
    (hmark : mark.isDigit = false) (hread : read (Text.padded width number) = some number)
    (rest : List Char) :
    readPart? read mark (Text.padded width number ++ mark :: rest) = some (number, rest) := by
  -- A part ends at its mark in either case; a digit is neither.
  obtain ⟨isPart, hisPart⟩ : ∃ isPart : Char → Bool,
      isPart = fun character => !(character == mark || character.toUpper == mark) := ⟨_, rfl⟩
  have hstop : ¬ isPart mark = true := by simp [hisPart]
  have hpart : ∀ character ∈ Text.padded width number, isPart character = true := by
    intro character hmem
    have hdigit := allDigits_padded width number character hmem
    have hne : character ≠ mark := fun heq => by simp [← heq, hdigit] at hmark
    simp [hisPart, toUpper_of_isDigit hdigit, hne]
  have htake : (Text.padded width number ++ mark :: rest).takeWhile isPart =
      Text.padded width number := by
    rw [List.takeWhile_append_of_pos hpart, List.takeWhile_cons_of_neg hstop, List.append_nil]
  have hdrop : (Text.padded width number ++ mark :: rest).dropWhile isPart = mark :: rest := by
    rw [List.dropWhile_append_of_pos hpart, List.dropWhile_cons_of_neg hstop]
  unfold readPart?
  simp only [← hisPart, htake, hdrop, hread, Option.map_some]

/-- A month is read back from two digits. -/
theorem readMonth?_padded :
    ∀ month < 13, 1 ≤ month → readMonth? (Text.padded 2 month) = some month := by
  decide

/-- A day is read back from two digits. -/
theorem readDay?_padded : ∀ day < 32, 1 ≤ day → readDay? (Text.padded 2 day) = some day := by
  decide

/-- An hour is read back from two digits. -/
theorem readHour?_padded : ∀ hour < 24, readHour? (Text.padded 2 hour) = some hour := by
  decide

/-- A minute is read back from two digits. -/
theorem readMinute?_padded :
    ∀ minute < 60, readMinute? (Text.padded 2 minute) = some minute := by
  decide

/-- A second is read back from two digits. -/
theorem readSecond?_padded :
    ∀ second < 60, readSecond? (Text.padded 2 second) = some second := by
  decide

/-- Digits of ASCII have their values. -/
theorem digitValues?_of_allDigits {digits : List Char} (h : AllDigits digits) :
    digitValues? digits = some (digits.map fun digit => digit.toNat - '0'.toNat) := by
  induction digits with
  | nil => rfl
  | cons digit digits ih =>
      obtain ⟨hdigit, hrest⟩ := List.forall_mem_cons.1 h
      unfold digitValues? at ih ⊢
      rw [List.mapM_cons, ih hrest, Text.digitValue?_of_isDigit hdigit, Text.asciiDigitValue?,
        if_pos hdigit]
      rfl

/-- A number from a thousand on and below ten thousand has four digits. -/
theorem length_decimalDigits_eq_four {number : Nat} (hleast : 1000 ≤ number)
    (hgreatest : number ≤ 9999) : (Text.decimalDigits number).length = 4 := by
  have hle : (Nat.toDigits 10 number).length ≤ 4 ↔ number < 10 ^ 4 :=
    Nat.length_toDigits_le_iff (by decide) (by decide)
  have hge : (Nat.toDigits 10 number).length ≤ 3 ↔ number < 10 ^ 3 :=
    Nat.length_toDigits_le_iff (by decide) (by decide)
  show (Nat.toDigits 10 number).length = 4
  omega

/-- A year of four digits is read back. -/
theorem readYear?_decimalDigits {year : Nat} (hleast : 1000 ≤ year) (hgreatest : year ≤ 9999)
    (rest : List Char) : readYear? (Text.decimalDigits year ++ rest) = some (year, rest) := by
  have hlength := length_decimalDigits_eq_four hleast hgreatest
  have hdigits := digitValues?_of_allDigits (Decimal.allDigits_decimalDigits year)
  have hvalue : Nat.ofDigitChars 10 (Text.decimalDigits year) 0 = year :=
    Nat.ofDigitChars_ten_toDigits
  match hyear : Text.decimalDigits year, hlength with
  | [first, second, third, fourth], _ =>
      rw [hyear] at hdigits hvalue
      show (digitValues? [first, second, third, fourth]).map _ = _
      rw [hdigits, ← hvalue]
      rfl

/-- The parts of a timestamp are read back from it. -/
theorem readParts?_written {moment : Moment} (hvalid : moment.IsValid)
    (hleast : 1000 ≤ moment.date.year) (hgreatest : moment.date.year ≤ 9999) :
    readParts? (Text.decimalDigits moment.date.year ++ moment.afterYear ++ ['Z']) =
      some ({ moment with microsecond := 0, offset := 0, offsetExcess := 0 }, []) := by
  have hdays : moment.date.day < 32 :=
    Nat.lt_succ_of_le (hvalid.date.day_le.trans (Date.daysInMonth_le _ _))
  have hmonth := readPart?_padded (by decide : Char.isDigit '-' = false)
    (readMonth?_padded moment.date.month (Nat.lt_succ_of_le hvalid.date.month_le)
      hvalid.date.month_pos)
  have hday := readPart?_padded (by decide : Char.isDigit 'T' = false)
    (readDay?_padded moment.date.day hdays hvalid.date.day_pos)
  have hhour := readPart?_padded (by decide : Char.isDigit ':' = false)
    (readHour?_padded moment.hour hvalid.hour)
  have hminute := readPart?_padded (by decide : Char.isDigit ':' = false)
    (readMinute?_padded moment.minute hvalid.minute)
  have hsecond := readPart?_padded (by decide : Char.isDigit 'Z' = false)
    (readSecond?_padded moment.second hvalid.second)
  simp only [readParts?, afterYear, List.append_assoc, List.cons_append,
    readYear?_decimalDigits hleast hgreatest, Option.bind_eq_bind, Option.bind_some, hmonth, hday,
    hhour, hminute, hsecond]
  rfl

end Parts

section Written

variable {moment left right : Moment}

/-- A timestamp is the text of the second in UTC. -/
theorem timestamp_eq_ok {utc : Moment} (h : moment.toUtc = .ok utc) :
    moment.timestamp =
      .ok (String.ofList (Text.decimalDigits utc.date.year ++ utc.afterYear ++ ['Z'])) := by
  unfold timestamp
  rw [h]
  rfl

/-- What follows the year does not show parts of a second. -/
theorem afterYear_ofInstant (instant microsecond : Nat) :
    (ofInstant instant microsecond).afterYear = (ofInstant instant 0).afterYear :=
  rfl

/-- The timestamp of a moment shows only its second. -/
theorem timestamp_congr (h : left.instant = right.instant) : left.timestamp = right.timestamp := by
  unfold timestamp toUtc
  rw [h]
  dsimp only
  split
  · rfl
  · show Except.ok (String.ofList (_ ++ afterYear (ofInstant _ _) ++ _)) =
      Except.ok (String.ofList (_ ++ afterYear (ofInstant _ _) ++ _))
    rw [afterYear_ofInstant, afterYear_ofInstant _ (right.sinceStart % 1000000).toNat]
    rfl

/-- The text of a moment in UTC is read back to the second. -/
theorem ofTimestamp_written (hvalid : moment.IsValid) (hleast : 1000 ≤ moment.date.year)
    (hgreatest : moment.date.year ≤ 9999) :
    ofTimestamp
        (String.ofList (Text.decimalDigits moment.date.year ++ moment.afterYear ++ ['Z'])) =
      .ok { moment with microsecond := 0, offset := 0, offsetExcess := 0 } := by
  have hyear : ¬ moment.date.year = 0 := by omega
  have hday : ¬ Date.daysInMonth moment.date.year moment.date.month < moment.date.day :=
    Nat.not_lt.2 hvalid.date.day_le
  have hsecond : ¬ 60 ≤ moment.second := Nat.not_le.2 hvalid.second
  unfold ofTimestamp
  rw [String.toList_ofList, readParts?_written hvalid hleast hgreatest]
  simp only [List.isEmpty_nil, Bool.not_true, Bool.false_eq_true, ↓reduceIte, hyear, hday, hsecond]

/-- A timestamp with a year of four digits reads back as the whole second of its moment. -/
theorem ofTimestamp_timestamp (h : moment.HasFourDigitYear) :
    0 ≤ moment.instant ∧ ∃ text, moment.timestamp = .ok text ∧
      ofTimestamp text = .ok (ofInstant moment.instant.toNat 0) := by
  obtain ⟨utc, hutc, hleast, hgreatest⟩ := h
  obtain ⟨⟨hstart, -⟩, rfl⟩ := toUtc_eq_ok_iff.1 hutc
  have hvalid : (ofInstant moment.instant.toNat (moment.sinceStart % 1000000).toNat).IsValid :=
    ofInstant_isValid _ (by omega)
  exact ⟨hstart, _, timestamp_eq_ok hutc, ofTimestamp_written hvalid hleast hgreatest⟩

/-- Two moments have the same timestamp exactly if they are in the same second. -/
theorem timestamp_eq_iff (hleft : left.HasFourDigitYear) (hright : right.HasFourDigitYear) :
    left.timestamp = right.timestamp ↔ left.instant = right.instant := by
  refine ⟨fun heq => ?_, timestamp_congr⟩
  obtain ⟨hleast, text, htext, hread⟩ := ofTimestamp_timestamp hleft
  obtain ⟨hleast', text', htext', hread'⟩ := ofTimestamp_timestamp hright
  rw [htext, htext', Except.ok.injEq] at heq
  rw [heq, hread', Except.ok.injEq] at hread
  have hinstant := congrArg Moment.instant hread
  rw [instant_ofInstant, instant_ofInstant, Int.toNat_of_nonneg hleast,
    Int.toNat_of_nonneg hleast'] at hinstant
  exact hinstant.symm

end Written

end Moment

end MonitorOperator
