import MonitorOperator.Text.Base64

/-!
# Reading Base64 back

Three bytes are one number of 24 bits, and four characters are its parts of six bits. A group of
characters is read as the bytes that it was written for, with its padding if it stands for one or two
bytes, so bytes are read back from their text (`decode?_encode`).
-/

namespace MonitorOperator.Text.Base64

open Utf8 (Bytes)

/-- A character of the alphabet is read as its six bits. -/
theorem sextet?_letter {value : Nat} (h : value < 64) : sextet? (letter value) = some value := by
  have hall : ∀ value < 64, sextet? (letter value) = some value := by
    decide
  exact hall value h

/-- A character of the alphabet is no padding. -/
theorem letter_ne_padding {value : Nat} (h : value < 64) : letter value ≠ '=' := by
  have hall : ∀ value < 64, letter value ≠ '=' := by
    decide
  exact hall value h

/-- A character of the alphabet is ASCII. -/
theorem toNat_letter_lt {value : Nat} (h : value < 64) : (letter value).toNat < 128 := by
  have hall : ∀ value < 64, (letter value).toNat < 128 := by
    decide
  exact hall value h

section Groups

variable {first second third fourth : Nat}

/-- Four characters are three bytes. -/
theorem decodeGroups?_four (hfirst : first < 64) (hsecond : second < 64) (hthird : third < 64)
    (hfourth : fourth < 64) (rest : List Char) :
    decodeGroups? (letter first :: letter second :: letter third :: letter fourth :: rest) =
      (decodeGroups? rest).map fun bytes =>
        byteAt (first * 262144 + second * 4096 + third * 64 + fourth) 16 ::
          byteAt (first * 262144 + second * 4096 + third * 64 + fourth) 8 ::
          byteAt (first * 262144 + second * 4096 + third * 64 + fourth) 0 :: bytes := by
  rw [decodeGroups?]
  simp only [List.all_cons, beq_eq_false_iff_ne.2 (letter_ne_padding hfirst), Bool.false_and,
    sextet?_letter, hfirst, hsecond, hthird, hfourth, letter_ne_padding, Bool.false_eq_true, if_false]
  cases decodeGroups? rest <;> rfl

/-- Three characters and padding are two bytes. -/
theorem decodeGroups?_three (hfirst : first < 64) (hsecond : second < 64) (hthird : third < 64) :
    decodeGroups? [letter first, letter second, letter third, '='] =
      some [byteAt (first * 262144 + second * 4096 + third * 64) 16,
        byteAt (first * 262144 + second * 4096 + third * 64) 8] := by
  simp [decodeGroups?, letter_ne_padding, sextet?_letter, hfirst, hsecond, hthird]

/-- Two characters and padding are one byte. -/
theorem decodeGroups?_two (hfirst : first < 64) (hsecond : second < 64) :
    decodeGroups? [letter first, letter second, '=', '='] =
      some [byteAt (first * 262144 + second * 4096) 16] := by
  simp [decodeGroups?, letter_ne_padding, sextet?_letter, hfirst, hsecond]

end Groups

section Numbers

variable (first second third : UInt8)

/-- A number of three bytes has its bytes. -/
theorem byteAt_join :
    byteAt (join first second third) 16 = first ∧ byteAt (join first second third) 8 = second ∧
      byteAt (join first second third) 0 = third := by
  have hfirst := first.toNat_lt
  have hsecond := second.toNat_lt
  have hthird := third.toNat_lt
  unfold byteAt join
  simp only [← UInt8.toNat_inj, UInt8.toNat_ofNat', Nat.shiftRight_eq_div_pow]
  omega

/-- A number of three bytes is made up of four parts of six bits. -/
theorem sextets_join :
    join first second third >>> 18 % 64 * 262144 + join first second third >>> 12 % 64 * 4096 +
      join first second third >>> 6 % 64 * 64 + join first second third >>> 0 % 64 =
      join first second third := by
  have hfirst := first.toNat_lt
  have hsecond := second.toNat_lt
  have hthird := third.toNat_lt
  unfold join
  simp only [Nat.shiftRight_eq_div_pow]
  omega

/-- Without a third byte, the first three parts make up the number. -/
theorem sextets_join_two :
    join first second 0 >>> 18 % 64 * 262144 + join first second 0 >>> 12 % 64 * 4096 +
      join first second 0 >>> 6 % 64 * 64 = join first second 0 := by
  have hfirst := first.toNat_lt
  have hsecond := second.toNat_lt
  unfold join
  simp only [Nat.shiftRight_eq_div_pow, UInt8.toNat_zero]
  omega

/-- Without a second byte, the first two parts make up the number. -/
theorem sextets_join_one :
    join first 0 0 >>> 18 % 64 * 262144 + join first 0 0 >>> 12 % 64 * 4096 = join first 0 0 := by
  have hfirst := first.toNat_lt
  unfold join
  simp only [Nat.shiftRight_eq_div_pow, UInt8.toNat_zero]
  omega

end Numbers

/-- The parts of six bits of a number are letters. -/
theorem sextet_lt (number shift : Nat) : number >>> shift % 64 < 64 :=
  Nat.mod_lt _ (by decide)

/-- Groups of characters are read as the bytes that they were written for. -/
theorem decodeGroups?_encode (bytes : Bytes) : decodeGroups? (encode bytes) = some bytes := by
  -- All cases but the first are about one group of characters, for one, two or three bytes.
  fun_induction encode bytes with
  | case1 => rfl
  | case2 first number =>
      unfold letterAt
      rw [decodeGroups?_two (sextet_lt _ _) (sextet_lt _ _), sextets_join_one,
        (byteAt_join first 0 0).1]
  | case3 first second number =>
      obtain ⟨hfirst, hsecond, _⟩ := byteAt_join first second 0
      unfold letterAt
      rw [decodeGroups?_three (sextet_lt _ _) (sextet_lt _ _) (sextet_lt _ _),
        sextets_join_two, hfirst, hsecond]
  | case4 first second third rest number ih =>
      obtain ⟨hfirst, hsecond, hthird⟩ := byteAt_join first second third
      unfold letterAt
      rw [decodeGroups?_four (sextet_lt _ _) (sextet_lt _ _) (sextet_lt _ _) (sextet_lt _ _),
        sextets_join, ih, hfirst, hsecond, hthird, Option.map_some]

/-- No text of bytes begins with padding. -/
theorem head?_encode_ne (bytes : Bytes) : (encode bytes).head? ≠ some '=' := by
  fun_cases encode bytes with
  | case1 => nofun
  | case2 | case3 | case4 =>
      rw [List.head?_cons, ne_eq, Option.some.injEq]
      exact letter_ne_padding (sextet_lt _ _)

/-- Bytes are read back from their text. -/
theorem decode?_encode (bytes : Bytes) : decode? (encode bytes) = some bytes := by
  rw [decode?, if_neg (head?_encode_ne bytes), decodeGroups?_encode]

/-- The text of bytes is ASCII. -/
theorem toNat_lt_of_mem_encode (bytes : Bytes) :
    ∀ character ∈ encode bytes, character.toNat < 128 := by
  have hletter (number shift : Nat) : (letterAt number shift).toNat < 128 :=
    toNat_letter_lt (sextet_lt _ _)
  have hpadding : ('=' : Char).toNat < 128 := by
    decide
  fun_induction encode bytes with
  | case1 => exact List.forall_mem_nil _
  | case2 | case3 =>
      simp only [List.forall_mem_cons, hletter, hpadding, true_and]
      exact List.forall_mem_nil _
  | case4 first second third rest number ih =>
      simp only [List.forall_mem_cons, hletter, true_and]
      exact ih

end MonitorOperator.Text.Base64
