import MonitorOperator.Decimal.Layout
import MonitorOperator.Document.Reader
import MonitorOperator.Proofs.Decimal.ShortestRounds

/-!
# Numbers are told by their text

The digits, point and exponent that a number is written with spell the decimal that `shortest` found
for it, and this decimal rounds to the number. So canonical numbers with one text are one number
(`write_finite_injective`).
-/

namespace MonitorOperator

open Decimal (Numeral)
open Text (decimalDigits)

namespace Document

/-- The characters are digits of ASCII. -/
def AllDigits (characters : List Char) : Prop :=
  ∀ character ∈ characters, character.isDigit = true

/-- The text does not begin with a digit of ASCII. -/
def NoDigitFirst : List Char → Prop
  | [] => True
  | character :: _ => character.isDigit = false

/-- Digits are read up to what follows them. -/
theorem asciiDigits_append {digits rest : List Char} (hdigits : AllDigits digits)
    (hrest : NoDigitFirst rest) :
    asciiDigits (digits ++ rest) = (digits.map (·.toNat - 48), rest) := by
  induction digits with
  | nil =>
      cases rest with
      | nil => rfl
      | cons character rest =>
          have hcharacter : character.isDigit = false := hrest
          simp [asciiDigits, Text.asciiDigitValue?, hcharacter]
  | cons digit digits ih =>
      obtain ⟨hdigit, hlater⟩ := List.forall_mem_cons.1 hdigits
      simp [asciiDigits, Text.asciiDigitValue?, hdigit, ih hlater]

/-- The value of digits is that of their characters. -/
theorem ofDigits_map (digits : List Char) :
    Text.ofDigits (digits.map (·.toNat - 48)) = Nat.ofDigitChars 10 digits 0 := by
  rw [Text.ofDigits, List.foldl_map, Nat.ofDigitChars_eq_foldl]
  rfl

/-- The numeral that digits with a fraction and an exponent spell, as the reader of JSON takes
them. -/
def spelled (characters : List Char) : Numeral :=
  let (whole, rest) := asciiDigits characters
  let (fraction, rest) := readFraction rest
  let (exponent, _) := readExponent rest
  ⟨Text.ofDigits (whole ++ fraction.getD []), exponent.getD 0 - (fraction.getD []).length⟩

/-- A fraction is read as its digits. -/
theorem readFraction_append {fraction rest : List Char} (hfraction : AllDigits fraction)
    (hsome : fraction ≠ []) (hrest : NoDigitFirst rest) :
    readFraction ('.' :: (fraction ++ rest)) =
      (some (fraction.map (·.toNat - 48)), rest) := by
  have hread := asciiDigits_append hfraction hrest
  cases fraction with
  | nil => exact absurd rfl hsome
  | cons digit digits => rw [readFraction, hread]; rfl

/-- An exponent is read as its sign and digits tell. -/
theorem readExponent_eq {digits : List Char} (negative : Bool) (hdigits : AllDigits digits)
    (hsome : digits ≠ []) :
    readExponent ('e' :: (if negative then '-' else '+') :: digits) =
      (some (if negative then -(Nat.ofDigitChars 10 digits 0 : Int)
        else Nat.ofDigitChars 10 digits 0), []) := by
  have hread : asciiDigits digits = (digits.map (·.toNat - 48), []) := by
    simpa using asciiDigits_append hdigits (show NoDigitFirst [] from trivial)
  cases digits with
  | nil => exact absurd rfl hsome
  | cons digit digits =>
      cases negative <;>
        simp [readExponent, Decimal.signOf, hread, Decimal.WrittenInteger.value, ← ofDigits_map]

/-- Digits on both sides of a point spell them all, at the place of the point. -/
theorem spelled_point {whole fraction : List Char} (hwhole : AllDigits whole)
    (hfraction : AllDigits fraction) (hsome : fraction ≠ []) :
    spelled (whole ++ '.' :: fraction) =
      ⟨Nat.ofDigitChars 10 (whole ++ fraction) 0, -fraction.length⟩ := by
  have hpoint : NoDigitFirst ('.' :: fraction) := rfl
  have hread : readFraction ('.' :: fraction) = (some (fraction.map (·.toNat - 48)), []) := by
    simpa using readFraction_append hfraction hsome (show NoDigitFirst [] from trivial)
  simp [spelled, asciiDigits_append hwhole hpoint, hread, readExponent, ← List.map_append,
    ofDigits_map]

/-- Digits with a fraction, if there is one, and an exponent spell what stands before the exponent
at the place that it tells. -/
theorem spelled_exponent {whole fraction power : List Char} (negative : Bool)
    (hwhole : AllDigits whole) (hfraction : AllDigits fraction) (hpower : AllDigits power)
    (hsome : power ≠ []) :
    spelled (whole ++ (if fraction.isEmpty then [] else '.' :: fraction) ++
        'e' :: (if negative then '-' else '+') :: power) =
      ⟨Nat.ofDigitChars 10 (whole ++ fraction) 0,
        (if negative then -(Nat.ofDigitChars 10 power 0 : Int) else Nat.ofDigitChars 10 power 0) -
          fraction.length⟩ := by
  have hmark : NoDigitFirst ('e' :: (if negative then '-' else '+') :: power) := rfl
  have hexponent := readExponent_eq negative hpower hsome
  cases hempty : fraction.isEmpty with
  | true =>
      obtain rfl := List.isEmpty_iff.1 hempty
      have hread : readFraction ('e' :: (if negative then '-' else '+') :: power) =
          (none, 'e' :: (if negative then '-' else '+') :: power) := rfl
      simp [spelled, asciiDigits_append hwhole hmark, hread, hexponent, ofDigits_map]
  | false =>
      have hfilled : fraction ≠ [] := by simpa using hempty
      have hpoint : NoDigitFirst ('.' :: (fraction ++
        'e' :: (if negative then '-' else '+') :: power)) := rfl
      simp [spelled, asciiDigits_append hwhole hpoint, readFraction_append hfraction hfilled hmark,
        hexponent, ← List.map_append, ofDigits_map]

end Document

namespace Decimal

open Document (AllDigits NoDigitFirst spelled spelled_point spelled_exponent)

/-- The value of a numeral is known from its digits and its exponent. -/
theorem Numeral.value_mk (digits : Nat) {exponent power : Int} (h : exponent = power) :
    Numeral.value ⟨digits, exponent⟩ = digits * 10 ^ power := by
  rw [Numeral.value, h]

/-- Zeroes are digits. -/
theorem allDigits_replicate (count : Nat) : AllDigits (List.replicate count '0') := by
  intro character hcharacter
  rw [List.eq_of_mem_replicate hcharacter]
  rfl

/-- Digits with digits after them are digits. -/
theorem allDigits_append {first second : List Char} (hfirst : AllDigits first)
    (hsecond : AllDigits second) : AllDigits (first ++ second) :=
  List.forall_mem_append.2 ⟨hfirst, hsecond⟩

/-- The digits of a number are digits. -/
theorem allDigits_decimalDigits (number : Nat) : AllDigits (decimalDigits number) :=
  fun _ hcharacter => Nat.isDigit_of_mem_toDigits (by decide) (by decide) hcharacter

/-- Leading zeroes do not count. -/
theorem ofDigitChars_replicate_append (count : Nat) (digits : List Char) :
    Nat.ofDigitChars 10 (List.replicate count '0' ++ digits) 0 =
      Nat.ofDigitChars 10 digits 0 := by
  rw [Nat.ofDigitChars_append, Nat.ofDigitChars_replicate_zero, Nat.mul_zero]

/-- A number written positionally spells its digits at their place. -/
theorem value_spelled_positional {digits : List Char} (hdigits : AllDigits digits)
    (hsome : digits ≠ []) (position : Int) :
    (spelled (positional digits position)).value =
      Nat.ofDigitChars 10 digits 0 * 10 ^ (position - digits.length) := by
  unfold positional
  split
  · next hsmall =>
      have hzeroes := allDigits_append (allDigits_replicate position.natAbs) hdigits
      have hspelled := spelled_point (allDigits_replicate 1) hzeroes (by simp [hsome])
      rw [ofDigitChars_replicate_append, ofDigitChars_replicate_append] at hspelled
      rw [show '0' :: '.' :: List.replicate position.natAbs '0' ++ digits =
        List.replicate 1 '0' ++ '.' :: (List.replicate position.natAbs '0' ++ digits) from rfl,
        hspelled]
      refine Numeral.value_mk _ ?_
      rw [List.length_append, List.length_replicate]
      omega
  · next hlarge =>
      have htake : AllDigits (digits.take position.toNat) :=
        fun character hcharacter => hdigits character (List.mem_of_mem_take hcharacter)
      have hdrop : AllDigits (digits.drop position.toNat) :=
        fun character hcharacter => hdigits character (List.mem_of_mem_drop hcharacter)
      have hwhole := allDigits_append htake
        (allDigits_replicate (position.toNat - digits.length))
      simp only
      split
      · next hempty =>
          -- All digits stand before the point, with zeroes up to it.
          have hlength : digits.length ≤ position.toNat := by simpa using hempty
          rw [List.take_of_length_le hlength] at hwhole ⊢
          have hspelled := spelled_point hwhole (allDigits_replicate 1) (by simp)
          rw [Nat.ofDigitChars_append, Nat.ofDigitChars_append, Nat.ofDigitChars_replicate_zero,
            Nat.ofDigitChars_replicate_zero, ← Nat.mul_assoc, ← Nat.pow_add] at hspelled
          rw [show ['.', '0'] = '.' :: List.replicate 1 '0' from rfl, hspelled, Numeral.value]
          push_cast
          rw [mul_comm ((10 : ℚ) ^ _) _, mul_assoc, ← zpow_natCast, ← zpow_add₀ (by norm_num)]
          congr 2
          push_cast [hlength, List.length_singleton]
          omega
      · next hfilled =>
          have hlength : position.toNat < digits.length := by simpa using hfilled
          have hspelled := spelled_point hwhole hdrop (by simpa using hlength)
          rw [Nat.sub_eq_zero_of_le hlength.le, List.replicate_zero, List.append_nil] at hspelled ⊢
          rw [List.take_append_drop] at hspelled
          rw [hspelled, List.length_drop]
          exact Numeral.value_mk _ (by omega)

/-- A number written with an exponent spells its digits at their place. -/
theorem value_spelled_scientific (layout : Layout) {digits : List Char} (hdigits : AllDigits digits)
    (hsome : digits ≠ []) (exponent : Int) :
    (spelled (scientific layout digits exponent)).value =
      Nat.ofDigitChars 10 digits 0 * 10 ^ (exponent + 1 - digits.length) := by
  have hfirst : AllDigits (digits.take 1) :=
    fun character hcharacter => hdigits character (List.mem_of_mem_take hcharacter)
  have hlater : AllDigits (digits.drop 1) :=
    fun character hcharacter => hdigits character (List.mem_of_mem_drop hcharacter)
  have hpower : AllDigits (Text.padded layout.exponentWidth exponent.natAbs) :=
    allDigits_append (allDigits_replicate _) (allDigits_decimalDigits _)
  have hfilled : Text.padded layout.exponentWidth exponent.natAbs ≠ [] := by
    simp [Text.padded, decimalDigits]
  have hsize : Nat.ofDigitChars 10 (Text.padded layout.exponentWidth exponent.natAbs) 0 =
      exponent.natAbs := by
    rw [Text.padded, ofDigitChars_replicate_append, decimalDigits, Nat.ofDigitChars_ten_toDigits]
  have hspelled := spelled_exponent (decide (exponent < 0)) hfirst hlater hpower hfilled
  rw [List.take_append_drop, hsize] at hspelled
  simp only [decide_eq_true_eq] at hspelled
  have hlength := List.length_pos_iff.2 hsome
  rw [scientific, hspelled, List.length_drop]
  refine Numeral.value_mk _ ?_
  split <;> omega

/-- The size of a finite number as text. -/
def sizeText (significand : Nat) (exponent : Int) : List Char :=
  let decimal := shortest significand exponent
  let digits := decimalDigits decimal.digits
  let position := digits.length + decimal.exponent
  if significand = 0 then ['0', '.', '0']
  else if documentLayout.least < position && position ≤ documentLayout.limit then
    positional digits position
  else scientific documentLayout digits (position - 1)

/-- A finite number is its size after its sign. -/
theorem write_finite (negative : Bool) (significand : Nat) (exponent : Int) :
    documentLayout.write (.finite negative significand exponent) =
      String.ofList (if negative then '-' :: sizeText significand exponent
        else sizeText significand exponent) := rfl

/-- The size of a number other than zero spells the shortest decimal. -/
theorem value_spelled_sizeText {significand : Nat} (hsignificand : significand ≠ 0)
    (exponent : Int) :
    (spelled (sizeText significand exponent)).value = (shortest significand exponent).value := by
  have hdigits := allDigits_decimalDigits (shortest significand exponent).digits
  have hsome : decimalDigits (shortest significand exponent).digits ≠ [] := Nat.toDigits_ne_nil
  have hvalue : ∀ power, power = (shortest significand exponent).exponent →
      (Nat.ofDigitChars 10 (decimalDigits (shortest significand exponent).digits) 0 : ℚ) *
        10 ^ power = (shortest significand exponent).value := by
    rintro power rfl
    rw [decimalDigits, Nat.ofDigitChars_ten_toDigits, Numeral.value]
  unfold sizeText
  simp only [hsignificand, ↓reduceIte]
  split
  · rw [value_spelled_positional hdigits hsome]
    exact hvalue _ (by omega)
  · rw [value_spelled_scientific _ hdigits hsome]
    exact hvalue _ (by omega)

/-- The character may stand in a number. -/
def IsNumeric (character : Char) : Prop :=
  character.isDigit = true ∨ character ∈ ['.', 'e', '+', '-']

/-- The text begins with a digit, goes on with digits and marks, and has a point or an exponent. -/
structure IsSizeText (characters : List Char) : Prop where
  first : ∃ digit rest, characters = digit :: rest ∧ digit.isDigit = true
  numeric : ∀ character ∈ characters, IsNumeric character
  marked : '.' ∈ characters ∨ 'e' ∈ characters

/-- Digits may stand in a number. -/
theorem numeric_of_allDigits {digits : List Char} (h : AllDigits digits) :
    ∀ character ∈ digits, IsNumeric character :=
  fun character hcharacter => .inl (h character hcharacter)

/-- Digits that are written positionally have a point. -/
theorem isSizeText_positional {digits : List Char} (hdigits : AllDigits digits)
    (hsome : digits ≠ []) (position : Int) : IsSizeText (positional digits position) := by
  have hzeroes : ∀ count, ∀ character ∈ List.replicate count '0', IsNumeric character :=
    fun count => numeric_of_allDigits (allDigits_replicate count)
  have hnumeric := numeric_of_allDigits hdigits
  obtain ⟨digit, others, rfl⟩ := List.exists_cons_of_ne_nil hsome
  unfold positional
  split
  · refine ⟨⟨'0', _, rfl, rfl⟩, ?_, by simp⟩
    exact List.forall_mem_cons.2 ⟨.inl rfl, List.forall_mem_cons.2 ⟨.inr (by decide),
      List.forall_mem_append.2 ⟨hzeroes _, hnumeric⟩⟩⟩
  · next hlarge =>
      obtain ⟨size, hsize⟩ : ∃ size, position.toNat = size + 1 :=
        Nat.exists_eq_succ_of_ne_zero (by omega)
      refine ⟨⟨digit, _, by rw [hsize]; rfl, hdigits digit List.mem_cons_self⟩, ?_, by simp⟩
      refine List.forall_mem_append.2 ⟨List.forall_mem_append.2 ⟨?_, hzeroes _⟩,
        List.forall_mem_cons.2 ⟨.inr (by decide), ?_⟩⟩
      · exact fun character hcharacter => hnumeric character (List.mem_of_mem_take hcharacter)
      · split
        · exact hzeroes 1
        · exact fun character hcharacter => hnumeric character (List.mem_of_mem_drop hcharacter)

/-- Digits that are written with an exponent have one. -/
theorem isSizeText_scientific (layout : Layout) {digits : List Char} (hdigits : AllDigits digits)
    (hsome : digits ≠ []) (exponent : Int) : IsSizeText (scientific layout digits exponent) := by
  have hpower : AllDigits (Text.padded layout.exponentWidth exponent.natAbs) :=
    allDigits_append (allDigits_replicate _) (allDigits_decimalDigits _)
  obtain ⟨digit, others, rfl⟩ := List.exists_cons_of_ne_nil hsome
  obtain ⟨hdigit, hothers⟩ := List.forall_mem_cons.1 (numeric_of_allDigits hdigits)
  refine ⟨⟨digit, _, rfl, hdigits digit List.mem_cons_self⟩, ?_, by simp [scientific]⟩
  refine List.forall_mem_append.2 ⟨List.forall_mem_append.2 ⟨by simpa using hdigit, ?_⟩,
    List.forall_mem_cons.2 ⟨.inr (by decide), List.forall_mem_cons.2 ⟨?_, ?_⟩⟩⟩
  · split
    · simp
    · exact List.forall_mem_cons.2 ⟨.inr (by decide), hothers⟩
  · split <;> exact .inr (by decide)
  · exact numeric_of_allDigits hpower

/-- The size of a finite number begins with a digit and has a point or an exponent. -/
theorem isSizeText_sizeText (significand : Nat) (exponent : Int) :
    IsSizeText (sizeText significand exponent) := by
  have hdigits := allDigits_decimalDigits (shortest significand exponent).digits
  have hsome : decimalDigits (shortest significand exponent).digits ≠ [] := Nat.toDigits_ne_nil
  simp only [sizeText]
  split
  · exact ⟨⟨'0', _, rfl, rfl⟩, by simp [IsNumeric, Char.isDigit], by decide⟩
  · split
    · exact isSizeText_positional hdigits hsome _
    · exact isSizeText_scientific _ hdigits hsome _

/-- The size of a canonical number spells a value that rounds to it, and zero spells zero. -/
theorem rounds_sizeText {negative : Bool} {significand : Nat} {exponent : Int}
    (hcanonical : (Binary64.finite negative significand exponent).IsCanonical) :
    (significand = 0 ∧ exponent = Binary64.leastExponent ∧
        (spelled (sizeText significand exponent)).value = 0) ∨
      (significand ≠ 0 ∧
        Binary64.Rounds significand exponent (spelled (sizeText significand exponent)).value) := by
  by_cases h : significand = 0
  · subst h
    obtain ⟨-, -, -, hform⟩ := hcanonical
    refine .inl ⟨rfl, hform.resolve_left (by decide), ?_⟩
    have hspelled : spelled (sizeText 0 exponent) = ⟨0, -1⟩ := rfl
    simp [hspelled, Numeral.value]
  · refine .inr ⟨h, ?_⟩
    rw [value_spelled_sizeText h]
    exact shortest_rounds hcanonical h

/-- Canonical numbers with one size as text are one number but for the sign. -/
theorem sizeText_injective {negative negative' : Bool} {significand other : Nat}
    {exponent next : Int}
    (hleft : (Binary64.finite negative significand exponent).IsCanonical)
    (hright : (Binary64.finite negative' other next).IsCanonical)
    (h : sizeText significand exponent = sizeText other next) :
    significand = other ∧ exponent = next := by
  rcases rounds_sizeText hleft with ⟨rfl, rfl, hzero⟩ | ⟨hsome, hrounds⟩
  · rcases rounds_sizeText hright with ⟨rfl, rfl, -⟩ | ⟨hother, hnext⟩
    · exact ⟨rfl, rfl⟩
    · rw [← h, hzero] at hnext
      exact absurd (hnext.pos hother) (lt_irrefl 0)
  · rcases rounds_sizeText hright with ⟨rfl, rfl, hzero⟩ | ⟨-, hnext⟩
    · rw [h, hzero] at hrounds
      exact absurd (hrounds.pos hsome) (lt_irrefl 0)
    · rw [← h] at hnext
      exact hrounds.unique hleft hright hnext

/-- Canonical numbers with one text are one number. -/
theorem write_finite_injective {negative negative' : Bool} {significand other : Nat}
    {exponent next : Int}
    (hleft : (Binary64.finite negative significand exponent).IsCanonical)
    (hright : (Binary64.finite negative' other next).IsCanonical)
    (h : documentLayout.write (.finite negative significand exponent) =
      documentLayout.write (.finite negative' other next)) :
    Binary64.finite negative significand exponent = .finite negative' other next := by
  rw [write_finite, write_finite, String.ofList_inj] at h
  obtain ⟨digit, rest, hfirst, hdigit⟩ := (isSizeText_sizeText significand exponent).first
  obtain ⟨digit', rest', hfirst', hdigit'⟩ := (isSizeText_sizeText other next).first
  have hsame : negative = negative' ∧ sizeText significand exponent = sizeText other next := by
    cases negative <;> cases negative'
    · exact ⟨rfl, h⟩
    · rw [if_neg (by decide), if_pos rfl, hfirst] at h
      obtain ⟨rfl, -⟩ := List.cons.inj h
      cases hdigit
    · rw [if_pos rfl, if_neg (by decide), hfirst'] at h
      obtain ⟨rfl, -⟩ := List.cons.inj h
      cases hdigit'
    · exact ⟨rfl, List.tail_eq_of_cons_eq h⟩
  obtain ⟨rfl, hsize⟩ := hsame
  obtain ⟨rfl, rfl⟩ := sizeText_injective hleft hright hsize
  rfl

end Decimal

end MonitorOperator
