import MonitorOperator.Document.Writer
import MonitorOperator.Proofs.Decimal.WrittenNumber
import MonitorOperator.Proofs.Document.Reordering

/-!
# The texts of scalars

A scalar other than a text is written without marks, in characters that nothing after it begins
with, and its text tells it (`Scalar.keyText_injective`): the words begin with letters of their own,
and a number with a point or an exponent is no integer.
-/

namespace MonitorOperator

open Decimal (Binary64 IsNumeric documentLayout sizeText isSizeText_sizeText write_finite
  write_finite_injective)
open Text (decimalDigits)

namespace Text

/-- Integers are told by their digits and their sign. -/
theorem ofInt_injective : Function.Injective ofInt := by
  have hdigits : ∀ left right : Nat, decimalDigits left = decimalDigits right → left = right := by
    intro left right h
    have hvalue := congrArg (Nat.ofDigitChars 10 · 0) h
    simpa [decimalDigits] using hvalue
  have hsign : ∀ number rest, decimalDigits number ≠ '-' :: rest := by
    intro number rest h
    have hdigit := Decimal.allDigits_decimalDigits number '-' (h ▸ List.mem_cons_self)
    cases hdigit
  intro left right h
  unfold ofInt at h
  split at h <;> split at h <;> rw [String.ofList_inj] at h
  · have := hdigits _ _ (List.cons.inj h).2
    omega
  · exact absurd h.symm (hsign _ _)
  · exact absurd h (hsign _ _)
  · have := hdigits _ _ h
    omega

end Text

namespace Scalar

/-- The character may stand in a scalar without marks. -/
def IsBare (character : Char) : Prop :=
  character.isAlphanum = true ∨ character ∈ ['.', '+', '-']

instance : DecidablePred IsBare := fun character =>
  inferInstanceAs (Decidable (character.isAlphanum = true ∨ character ∈ ['.', '+', '-']))

/-- What may stand in a number may stand in a scalar without marks. -/
theorem isBare_of_isNumeric {character : Char} (h : IsNumeric character) : IsBare character := by
  rcases h with hdigit | hmark
  · exact .inl (by simp [Char.isAlphanum, hdigit])
  · rcases List.mem_cons.1 hmark with rfl | hmark
    · exact .inr (by decide)
    rcases List.mem_cons.1 hmark with rfl | hmark
    · exact .inl (by decide)
    · exact .inr (List.mem_cons_of_mem _ hmark)

/-- The scalar is a text. -/
def IsText : Scalar → Prop
  | .text _ => True
  | _ => False

/-- What kind of scalar a text is: the words by their first letters, then numbers with a point or an
exponent, and integers. -/
def kindOfText : List Char → Nat
  | 'n' :: _ => 0
  | 't' :: _ => 1
  | 'f' :: _ => 2
  | 'N' :: _ => 3
  | 'I' :: _ => 4
  | '-' :: 'I' :: _ => 5
  | characters => if '.' ∈ characters ∨ 'e' ∈ characters then 6 else 7

/-- What kind of scalar a scalar is. -/
def kind : Scalar → Nat
  | .null => 0
  | .boolean true => 1
  | .boolean false => 2
  | .real .undefined => 3
  | .real (.infinite false) => 4
  | .real (.infinite true) => 5
  | .real (.finite ..) => 6
  | .integer _ => 7
  | .text _ => 8

/-- A text with a digit in front, maybe after a minus sign, is that of a number. -/
theorem kindOfText_number {digit : Char} {rest characters : List Char}
    (hdigit : digit.isDigit = true)
    (h : characters = digit :: rest ∨ characters = '-' :: digit :: rest) :
    kindOfText characters =
      if '.' ∈ digit :: rest ∨ 'e' ∈ digit :: rest then 6 else 7 := by
  have hletter : ∀ letter : Char, letter.isDigit = false → digit ≠ letter := by
    rintro letter hletter rfl
    simp [hletter] at hdigit
  rcases h with rfl | rfl
  · unfold kindOfText
    split
    all_goals first
      | rfl
      | next heq => exact absurd (List.cons.inj heq).1 (hletter _ rfl)
  · unfold kindOfText
    split
    all_goals first
      | next heq => exact absurd (List.cons.inj heq).1 (by decide)
      | next heq => exact absurd (List.cons.inj (List.cons.inj heq).2).1 (hletter _ rfl)
      | simp

/-- Integers and finite numbers are written with a digit in front, maybe after a minus sign, and
only finite numbers have a point or an exponent. -/
theorem keyText_number {value : Scalar} (h : value.kind = 6 ∨ value.kind = 7) :
    ∃ digit rest,
      (value.keyText.toList = digit :: rest ∨ value.keyText.toList = '-' :: digit :: rest) ∧
      digit.isDigit = true ∧ (∀ character ∈ digit :: rest, IsNumeric character) ∧
      (('.' ∈ digit :: rest ∨ 'e' ∈ digit :: rest) ↔ value.kind = 6) := by
  match value, h with
  | .integer value, _ =>
      have hdigits := Decimal.allDigits_decimalDigits value.natAbs
      obtain ⟨digit, rest, hfirst⟩ : ∃ digit rest, decimalDigits value.natAbs = digit :: rest :=
        List.exists_cons_of_ne_nil Nat.toDigits_ne_nil
      rw [hfirst] at hdigits
      refine ⟨digit, rest, ?_, hdigits digit List.mem_cons_self,
        fun character hcharacter => .inl (hdigits character hcharacter), ?_⟩
      · rw [keyText, Text.ofInt, hfirst]
        split
        · exact .inr String.toList_ofList
        · exact .inl String.toList_ofList
      · refine iff_of_false ?_ (by simp [kind])
        rintro (hmark | hmark) <;> cases hdigits _ hmark
  | .real (.finite negative significand exponent), _ =>
      have hsize := isSizeText_sizeText significand exponent
      obtain ⟨digit, rest, hfirst, hdigit⟩ := hsize.first
      rw [hfirst] at hsize
      refine ⟨digit, rest, ?_, hdigit, hsize.numeric, iff_of_true hsize.marked rfl⟩
      rw [keyText, write_finite, String.toList_ofList, hfirst]
      cases negative
      · exact .inl rfl
      · exact .inr rfl

/-- The text of a scalar tells its kind. -/
theorem kindOfText_keyText {value : Scalar} (h : ¬ value.IsText) :
    kindOfText value.keyText.toList = value.kind := by
  by_cases hnumber : value.kind = 6 ∨ value.kind = 7
  · obtain ⟨digit, rest, htext, hdigit, -, hmark⟩ := keyText_number hnumber
    rw [kindOfText_number hdigit htext]
    split <;> grind
  · match value, h with
    | .null, _ | .boolean true, _ | .boolean false, _ => simp [keyText, kindOfText, kind]
    | .real .undefined, _ | .real (.infinite false), _ | .real (.infinite true), _ =>
        simp [keyText, documentLayout, Decimal.Layout.write, kindOfText, kind]
    | .real (.finite ..), _ | .integer _, _ => simp [kind] at hnumber
    | .text _, h => exact absurd trivial h

/-- Scalars other than texts are written in bare characters. -/
theorem isBare_keyText {value : Scalar} (h : ¬ value.IsText) :
    ∀ character ∈ value.keyText.toList, IsBare character := by
  by_cases hnumber : value.kind = 6 ∨ value.kind = 7
  · obtain ⟨digit, rest, htext, -, hnumeric, -⟩ := keyText_number hnumber
    have hbare : ∀ character ∈ digit :: rest, IsBare character :=
      fun character hcharacter => isBare_of_isNumeric (hnumeric character hcharacter)
    rcases htext with heq | heq <;> rw [heq]
    · exact hbare
    · exact List.forall_mem_cons.2 ⟨.inr (by decide), hbare⟩
  · match value, h with
    | .null, _ | .boolean true, _ | .boolean false, _ => simp [keyText, IsBare]
    | .real .undefined, _ | .real (.infinite false), _ | .real (.infinite true), _ =>
        simp [keyText, documentLayout, Decimal.Layout.write, IsBare]
    | .real (.finite ..), _ | .integer _, _ => simp [kind] at hnumber
    | .text _, h => exact absurd trivial h

/-- Scalars other than texts begin with a bare character. -/
theorem exists_keyText {value : Scalar} (h : ¬ value.IsText) :
    ∃ character rest, value.keyText.toList = character :: rest ∧ IsBare character := by
  have hbare := isBare_keyText h
  cases htext : value.keyText.toList with
  | nil =>
      have hkind : value.kind = 7 := by
        rw [← kindOfText_keyText h, htext]
        rfl
      obtain ⟨digit, rest, hnumber, -⟩ := keyText_number (.inr hkind)
      rw [htext] at hnumber
      rcases hnumber with heq | heq <;> cases heq
  | cons character rest =>
      rw [htext] at hbare
      exact ⟨character, rest, rfl, hbare character List.mem_cons_self⟩

/-- Scalars other than texts are told by their text. -/
theorem keyText_injective {left right : Scalar} (hleft : ¬ left.IsText) (hright : ¬ right.IsText)
    (hleft_json : left.IsJson) (hright_json : right.IsJson) (h : left.keyText = right.keyText) :
    left = right := by
  have hkind : left.kind = right.kind := by
    rw [← kindOfText_keyText hleft, ← kindOfText_keyText hright, h]
  rcases left with _ | (_ | _) | value | (⟨negative, magnitude, exponent⟩ | (_ | _) | _) | text <;>
    rcases right with _ | (_ | _) | other | (⟨_, _, _⟩ | (_ | _) | _) | text <;>
    first
    | rfl
    | exact absurd trivial hleft
    | cases hkind
  · rw [Text.ofInt_injective h]
  · exact congrArg real (write_finite_injective hleft_json hright_json h)

end Scalar

end MonitorOperator
