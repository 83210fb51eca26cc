import MonitorOperator.Document.Reader
import MonitorOperator.Document.Writer

/-!
# JSON strings

What the reader makes of a string that the writer wrote: the same text, and all that follows its
closing mark (`Document.readString_escaped`). So a string tells its text, and where it ends.
-/

namespace MonitorOperator

namespace Text

/-- A hexadecimal digit has its value. -/
theorem hexDigitValue?_hexDigit {value : Nat} (h : value < 16) :
    hexDigitValue? (hexDigit value) = some value := by
  have hall : ∀ value : Fin 16, hexDigitValue? (hexDigit value) = some value.val := by decide
  exact hall ⟨value, h⟩

/-- The characters of a pair of surrogates is the one that was split into them. -/
theorem ofSurrogates_split {character : Char} (h : 0x10000 ≤ character.toNat) :
    ofSurrogates (0xD800 + (character.toNat - 0x10000) / 0x400)
      (0xDC00 + (character.toNat - 0x10000) % 0x400) = character := by
  have hcode : 0x10000 + (0xD800 + (character.toNat - 0x10000) / 0x400 - 0xD800) * 0x400 +
      (0xDC00 + (character.toNat - 0x10000) % 0x400 - 0xDC00) = character.toNat := by
    omega
  rw [ofSurrogates, hcode, Char.ofNat_toNat]

end Text

namespace Document

open Text (isHighSurrogate isLowSurrogate)

/-- Four hexadecimal digits have the number that they were written for. -/
theorem hexUnit?_hexDigits {unit : Nat} (h : unit < 0x10000) :
    ∃ first second third fourth, Text.hexDigits 4 unit = [first, second, third, fourth] ∧
      hexUnit? first second third fourth = some unit := by
  refine ⟨_, _, _, _, rfl, ?_⟩
  have hvalue : ∀ number : Nat, Text.hexDigitValue? (Text.hexDigit (number % 16)) =
      some (number % 16) := fun number => Text.hexDigitValue?_hexDigit (Nat.mod_lt _ (by decide))
  simp only [hexUnit?, hvalue, Option.pure_def, Option.bind_eq_bind, Option.bind_some,
    Option.some.injEq]
  omega

/-- An escaped unit reads as its character, or waits for the other half of a pair. -/
theorem readString_escapedUnit {unit : Nat} (h : unit < 0x10000) (rest : List Char) :
    readString none (escapedUnit unit ++ rest) =
      if isHighSurrogate unit then readString (some unit) rest
      else prepend (Text.Utf8.character unit) (readString none rest) := by
  obtain ⟨first, second, third, fourth, hdigits, hunit⟩ := hexUnit?_hexDigits h
  simp only [escapedUnit, hdigits, List.cons_append, List.nil_append, Text.backslash]
  rw [show Char.ofNat 92 = '\\' from rfl, readString, hunit]

/-- An escaped low surrogate completes a pair. -/
theorem readString_pair {upper unit : Nat} (h : unit < 0x10000) (hlow : isLowSurrogate unit)
    (rest : List Char) :
    readString (some upper) (escapedUnit unit ++ rest) =
      prepend (Text.ofSurrogates upper unit) (readString none rest) := by
  obtain ⟨first, second, third, fourth, hdigits, hunit⟩ := hexUnit?_hexDigits h
  simp only [escapedUnit, hdigits, List.cons_append, List.nil_append, Text.backslash]
  rw [show Char.ofNat 92 = '\\' from rfl, readString, hunit]
  simp only [hlow, ↓reduceIte]

/-- A letter after a backslash reads as what it stands for. -/
theorem readString_letter {letter character : Char} (hletter : letter ≠ 'u')
    (h : escapedLetter? letter = some character) (rest : List Char) :
    readString none (Text.backslash :: letter :: rest) =
      prepend character (readString none rest) := by
  rw [show Text.backslash = '\\' from rfl, readString, h]
  rintro first second third fourth after ⟨⟩ -
  exact hletter rfl

/-- A character that needs no escape reads as itself. -/
theorem readString_plain {character : Char} (hmark : character ≠ Text.quotationMark)
    (hescape : character ≠ Text.backslash) (hprintable : 0x20 ≤ character.toNat)
    (rest : List Char) :
    readString none (character :: rest) = prepend character (readString none rest) := by
  rw [readString]
  · simp [hmark, hescape, Nat.not_lt.2 hprintable]
  all_goals
    intros
    exact hescape ‹_›

/-- An escaped character reads as itself. -/
theorem readString_escapedCharacter (character : Char) (rest : List Char) :
    readString none (escapedCharacter character ++ rest) =
      prepend character (readString none rest) := by
  have hcode : ∀ {code : Nat}, character.toNat = code → character = Char.ofNat code := by
    rintro code rfl
    rw [Char.ofNat_toNat]
  have hvalid : character.toNat.isValidChar := character.valid
  have hrange := hvalid
  simp only [Nat.isValidChar] at hrange
  simp only [escapedCharacter]
  split
  · next hescaped =>
      simp only [Bool.or_eq_true, decide_eq_true_eq] at hescaped
      rcases hescaped with rfl | rfl <;> exact readString_letter (by decide) (by decide) rest
  split
  · next h => rw [hcode h]; exact readString_letter (by decide) (by decide) rest
  split
  · next h => rw [hcode h]; exact readString_letter (by decide) (by decide) rest
  split
  · next h => rw [hcode h]; exact readString_letter (by decide) (by decide) rest
  split
  · next h => rw [hcode h]; exact readString_letter (by decide) (by decide) rest
  split
  · next h => rw [hcode h]; exact readString_letter (by decide) (by decide) rest
  next hescaped _ _ _ _ _ =>
  simp only [Bool.or_eq_true, decide_eq_true_eq, not_or] at hescaped
  split
  · next hprintable =>
      simp only [Bool.and_eq_true, decide_eq_true_eq] at hprintable
      exact readString_plain hescaped.1 hescaped.2 hprintable.1 rest
  split
  · next hsmall =>
      have hunit : isHighSurrogate character.toNat = false := by
        simp only [isHighSurrogate, Bool.and_eq_false_iff, decide_eq_false_iff_not]
        omega
      rw [readString_escapedUnit hsmall, hunit, if_neg (by decide), Text.Utf8.character,
        if_pos hvalid, Char.ofNat_toNat]
  · next hlarge =>
      have hupper : isHighSurrogate (0xD800 + (character.toNat - 0x10000) / 0x400) = true := by
        simp only [isHighSurrogate, Bool.and_eq_true, decide_eq_true_eq]
        omega
      have hlower : isLowSurrogate (0xDC00 + (character.toNat - 0x10000) % 0x400) = true := by
        simp only [isLowSurrogate, Bool.and_eq_true, decide_eq_true_eq]
        omega
      rw [List.append_assoc, readString_escapedUnit (by omega), if_pos hupper,
        readString_pair (by omega) hlower, Text.ofSurrogates_split (by omega)]

/-- A string that was written is read up to its closing mark. -/
theorem readString_escaped (characters rest : List Char) :
    readString none (characters.flatMap escapedCharacter ++ Text.quotationMark :: rest) =
      .ok (characters, rest) := by
  induction characters with
  | nil => rfl
  | cons character characters ih =>
      rw [List.flatMap_cons, List.append_assoc, readString_escapedCharacter, ih]
      rfl

/-- A string tells its text, and where it ends. -/
theorem jsonString_append_inj {left right : String} {lefts rights : List Char}
    (h : (jsonString left).toList ++ lefts = (jsonString right).toList ++ rights) :
    left = right ∧ lefts = rights := by
  simp only [jsonString, String.toList_ofList, List.cons_append, List.append_assoc,
    List.nil_append, List.cons.injEq, true_and] at h
  have hread := congrArg (readString none) h
  rw [readString_escaped, readString_escaped] at hread
  obtain ⟨htext, hrest⟩ := Prod.mk.inj (Except.ok.inj hread)
  exact ⟨String.toList_inj.1 htext, hrest⟩

end Document

end MonitorOperator
