import MonitorOperator.Text.Utf8

/-!
# Reading UTF-8 back

Each character is written as one to four bytes, by its code. Read again, these bytes are the
character, whatever follows them (`decode_utf8EncodeChar`), so a text is read back from its bytes
(`read?_encode`).
-/

namespace MonitorOperator.Text.Utf8

/-- The character of a character's code. -/
theorem character_toNat (character : Char) : Utf8.character character.toNat = character := by
  have hvalid : character.toNat.isValidChar := character.valid
  unfold Utf8.character
  rw [if_pos hvalid, Char.ofNat_toNat]

section Bytes

variable {surrogates : Bool} {first second third fourth : UInt8} {rest : Bytes}

/-- A byte is in a range if its value is. -/
theorem inRange_iff (low high byte : UInt8) :
    (decide (low ≤ byte) && decide (byte ≤ high)) = true ↔
      low.toNat ≤ byte.toNat ∧ byte.toNat ≤ high.toNat := by
  simp [UInt8.le_iff_toNat_le]

/-- A continuation byte is told by its value. -/
theorem isContinuation_iff (byte : UInt8) :
    isContinuation byte = true ↔ 128 ≤ byte.toNat ∧ byte.toNat ≤ 191 :=
  inRange_iff 0x80 0xBF byte

/-- One byte is a character of its own. -/
theorem decode_one (hfirst : first.toNat < 128) :
    decode surrogates (first :: rest) =
      some (Utf8.character first.toNat) :: decode surrogates rest := by
  have hone : first < 0x80 := UInt8.lt_iff_toNat_lt.2 hfirst
  rw [decode.eq_def]
  dsimp only
  rw [if_pos hone]

/-- Two bytes are a character. -/
theorem decode_two (hfirst : 194 ≤ first.toNat ∧ first.toNat ≤ 223)
    (hsecond : isContinuation second = true) :
    decode surrogates (first :: second :: rest) =
      some (Utf8.character (first.toNat % 32 * 64 + payload second)) :: decode surrogates rest := by
  have hone : ¬ first < 0x80 := by
    rw [UInt8.lt_iff_toNat_lt]
    change ¬ first.toNat < 128
    omega
  have htwo := (inRange_iff 0xC2 0xDF first).2 hfirst
  rw [decode.eq_def]
  dsimp only
  rw [if_neg hone, if_pos htwo, if_pos hsecond]

/-- Three bytes are a character. -/
theorem decode_three (hfirst : 224 ≤ first.toNat ∧ first.toNat ≤ 239)
    (hsecond : allowsSecondOfThree surrogates first second = true)
    (hthird : isContinuation third = true) :
    decode surrogates (first :: second :: third :: rest) =
      some (Utf8.character (first.toNat % 16 * 4096 + payload second * 64 + payload third)) ::
        decode surrogates rest := by
  have hone : ¬ first < 0x80 := by
    rw [UInt8.lt_iff_toNat_lt]
    change ¬ first.toNat < 128
    omega
  have htwo : ¬ (decide (0xC2 ≤ first) && decide (first ≤ 0xDF)) = true := by
    rw [inRange_iff]
    change ¬ (194 ≤ first.toNat ∧ first.toNat ≤ 223)
    omega
  have hthree := (inRange_iff 0xE0 0xEF first).2 hfirst
  rw [decode.eq_def]
  dsimp only
  rw [if_neg hone, if_neg htwo, if_pos hthree, if_pos hsecond, if_pos hthird]

/-- Four bytes are a character. -/
theorem decode_four (hfirst : 240 ≤ first.toNat ∧ first.toNat ≤ 244)
    (hsecond : allowsSecondOfFour first second = true) (hthird : isContinuation third = true)
    (hfourth : isContinuation fourth = true) :
    decode surrogates (first :: second :: third :: fourth :: rest) =
      some (Utf8.character (first.toNat % 8 * 262144 + payload second * 4096 +
        payload third * 64 + payload fourth)) :: decode surrogates rest := by
  have hone : ¬ first < 0x80 := by
    rw [UInt8.lt_iff_toNat_lt]
    change ¬ first.toNat < 128
    omega
  have htwo : ¬ (decide (0xC2 ≤ first) && decide (first ≤ 0xDF)) = true := by
    rw [inRange_iff]
    change ¬ (194 ≤ first.toNat ∧ first.toNat ≤ 223)
    omega
  have hthree : ¬ (decide (0xE0 ≤ first) && decide (first ≤ 0xEF)) = true := by
    rw [inRange_iff]
    change ¬ (224 ≤ first.toNat ∧ first.toNat ≤ 239)
    omega
  have hfour := (inRange_iff 0xF0 0xF4 first).2 hfirst
  rw [decode.eq_def]
  dsimp only
  rw [if_neg hone, if_neg htwo, if_neg hthree, if_pos hfour, if_pos hsecond, if_pos hthird,
    if_pos hfourth]

/-- A second byte of three may not begin a character that fewer bytes could write, or a surrogate. -/
theorem allowsSecondOfThree_of (hsecond : 128 ≤ second.toNat ∧ second.toNat ≤ 191)
    (hleast : first.toNat = 224 → 160 ≤ second.toNat)
    (hgreatest : first.toNat = 237 → second.toNat ≤ 159) :
    allowsSecondOfThree surrogates first second = true := by
  unfold allowsSecondOfThree
  split
  · next hfirst =>
      have hfirst : first.toNat = 224 := congrArg UInt8.toNat hfirst
      exact (inRange_iff 0xA0 0xBF second).2 ⟨hleast hfirst, hsecond.2⟩
  split
  · next hfirst =>
      have hfirst : first.toNat = 237 := congrArg UInt8.toNat hfirst
      cases surrogates with
      | false => exact (inRange_iff 0x80 0x9F second).2 ⟨hsecond.1, hgreatest hfirst⟩
      | true => exact (inRange_iff 0x80 0xBF second).2 hsecond
  · exact (isContinuation_iff second).2 hsecond

/-- A second byte of four may not begin a character that fewer bytes could write, or one beyond the
last. -/
theorem allowsSecondOfFour_of (hsecond : 128 ≤ second.toNat ∧ second.toNat ≤ 191)
    (hleast : first.toNat = 240 → 144 ≤ second.toNat)
    (hgreatest : first.toNat = 244 → second.toNat ≤ 143) :
    allowsSecondOfFour first second = true := by
  unfold allowsSecondOfFour
  split
  · next hfirst =>
      have hfirst : first.toNat = 240 := congrArg UInt8.toNat hfirst
      exact (inRange_iff 0x90 0xBF second).2 ⟨hleast hfirst, hsecond.2⟩
  split
  · next hfirst =>
      have hfirst : first.toNat = 244 := congrArg UInt8.toNat hfirst
      exact (inRange_iff 0x80 0x8F second).2 ⟨hsecond.1, hgreatest hfirst⟩
  · exact (isContinuation_iff second).2 hsecond

end Bytes

/-- The value of a byte. -/
theorem toNat_byte {value : Nat} (h : value < 256) : (UInt8.ofNat value).toNat = value := by
  rw [UInt8.toNat_ofNat', Nat.mod_eq_of_lt h]

/-- A continuation byte carries six bits. -/
theorem payload_byte (value : Nat) : payload (UInt8.ofNat (value % 64 + 128)) = value % 64 := by
  unfold payload
  rw [toNat_byte (by omega)]
  omega

/-- The byte for six bits is a continuation byte. -/
theorem isContinuation_byte (value : Nat) :
    isContinuation (UInt8.ofNat (value % 64 + 128)) = true := by
  rw [isContinuation_iff, toNat_byte (by omega)]
  omega

section Codes

variable {surrogates : Bool} {code : Nat} {rest : Bytes}

/-- A code of two bytes is read back. -/
theorem decode_code_two (h : 128 ≤ code ∧ code ≤ 2047) :
    decode surrogates (UInt8.ofNat (code / 64 % 32 + 192) :: UInt8.ofNat (code % 64 + 128) :: rest) =
      some (Utf8.character code) :: decode surrogates rest := by
  have hfirst : (UInt8.ofNat (code / 64 % 32 + 192)).toNat = code / 64 % 32 + 192 :=
    toNat_byte (by omega)
  have hvalue : (code / 64 % 32 + 192) % 32 * 64 + code % 64 = code := by
    omega
  rw [decode_two (by omega) (isContinuation_byte code), payload_byte, hfirst, hvalue]

/-- A code of three bytes is read back, if it is not that of a surrogate. -/
theorem decode_code_three (h : 2048 ≤ code ∧ code ≤ 65535) (hvalid : code.isValidChar) :
    decode surrogates (UInt8.ofNat (code / 4096 % 16 + 224) ::
        UInt8.ofNat (code / 64 % 64 + 128) :: UInt8.ofNat (code % 64 + 128) :: rest) =
      some (Utf8.character code) :: decode surrogates rest := by
  have hfirst : (UInt8.ofNat (code / 4096 % 16 + 224)).toNat = code / 4096 % 16 + 224 :=
    toNat_byte (by omega)
  have hsecond : (UInt8.ofNat (code / 64 % 64 + 128)).toNat = code / 64 % 64 + 128 :=
    toNat_byte (by omega)
  have hallowed : allowsSecondOfThree surrogates (UInt8.ofNat (code / 4096 % 16 + 224))
      (UInt8.ofNat (code / 64 % 64 + 128)) = true := by
    unfold Nat.isValidChar at hvalid
    refine allowsSecondOfThree_of ?_ ?_ ?_ <;> omega
  have hvalue : (code / 4096 % 16 + 224) % 16 * 4096 + code / 64 % 64 * 64 + code % 64 = code := by
    omega
  rw [decode_three (by omega) hallowed (isContinuation_byte code), payload_byte, payload_byte,
    hfirst, hvalue]

/-- A code of four bytes is read back. -/
theorem decode_code_four (h : 65536 ≤ code ∧ code < 1114112) :
    decode surrogates (UInt8.ofNat (code / 262144 % 8 + 240) ::
        UInt8.ofNat (code / 4096 % 64 + 128) :: UInt8.ofNat (code / 64 % 64 + 128) ::
        UInt8.ofNat (code % 64 + 128) :: rest) =
      some (Utf8.character code) :: decode surrogates rest := by
  have hfirst : (UInt8.ofNat (code / 262144 % 8 + 240)).toNat = code / 262144 % 8 + 240 :=
    toNat_byte (by omega)
  have hsecond : (UInt8.ofNat (code / 4096 % 64 + 128)).toNat = code / 4096 % 64 + 128 :=
    toNat_byte (by omega)
  have hallowed : allowsSecondOfFour (UInt8.ofNat (code / 262144 % 8 + 240))
      (UInt8.ofNat (code / 4096 % 64 + 128)) = true := by
    refine allowsSecondOfFour_of ?_ ?_ ?_ <;> omega
  have hvalue : (code / 262144 % 8 + 240) % 8 * 262144 + code / 4096 % 64 * 4096 +
      code / 64 % 64 * 64 + code % 64 = code := by
    omega
  rw [decode_four (by omega) hallowed (isContinuation_byte _) (isContinuation_byte code),
    payload_byte, payload_byte, payload_byte, hfirst, hvalue]

end Codes

/-- The bytes of a character are read as this character. -/
theorem decode_utf8EncodeChar (surrogates : Bool) (character : Char) (rest : Bytes) :
    decode surrogates (String.utf8EncodeChar character ++ rest) =
      some character :: decode surrogates rest := by
  have hvalid : character.toNat.isValidChar := character.valid
  have hread : decode surrogates (String.utf8EncodeChar character ++ rest) =
      some (Utf8.character character.toNat) :: decode surrogates rest := by
    have hcode : character.val.toNat = character.toNat := rfl
    unfold String.utf8EncodeChar
    dsimp only
    rw [hcode]
    split
    · next hone =>
        have hfirst : (UInt8.ofNat character.toNat).toNat = character.toNat :=
          toNat_byte (by omega)
        rw [List.singleton_append, decode_one (by omega), hfirst]
    split
    · exact decode_code_two (by omega)
    split
    · exact decode_code_three (by omega) hvalid
    · refine decode_code_four ?_
      unfold Nat.isValidChar at hvalid
      omega
  rw [hread, character_toNat]

/-- Values that are there are all present. -/
theorem allPresent_map_some {α : Type} (values : List α) :
    allPresent (values.map some) = some values := by
  induction values with
  | nil => rfl
  | cons value values ih => simp [allPresent, ih]

/-- The bytes of a text are read as its characters. -/
theorem decode_encode (surrogates : Bool) (text : String) :
    decode surrogates (encode text) = text.toList.map some := by
  unfold encode
  induction text.toList with
  | nil => rfl
  | cons character characters ih =>
      rw [List.flatMap_cons, decode_utf8EncodeChar, ih, List.map_cons]

/-- A text is read back from its bytes. -/
theorem read?_encode (text : String) : read? (encode text) = some text := by
  rw [read?, decode_encode, allPresent_map_some, Option.map_some, String.ofList_toList]

/-- A text is read back from its bytes where none of them is refused. -/
theorem readLossy_encode (text : String) : readLossy (encode text) = text := by
  rw [readLossy, decode_encode, List.map_map]
  exact (congrArg String.ofList (List.map_id _)).trans String.ofList_toList

end MonitorOperator.Text.Utf8
