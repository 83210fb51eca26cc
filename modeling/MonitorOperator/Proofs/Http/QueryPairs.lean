import MonitorOperator.Http.Url
import MonitorOperator.Proofs.Text.Cut
import MonitorOperator.Proofs.Text.Utf8

/-!
# Names and values of a query

The names and values that a query was made of are read back from it, whatever texts they are
(`Percent.decodePairs_encodePairs`): what is written of a text holds none of the marks between names
and values, and the escapes stand for the bytes of its characters.
-/

namespace MonitorOperator

namespace Text

variable {separator : Char}

/-- Without the separator there is one piece. -/
theorem splitOn_of_notMem {piece : List Char} (h : separator ∉ piece) :
    splitOn separator piece = [piece] := by
  induction piece with
  | nil => rfl
  | cons character piece ih =>
      obtain ⟨hne, hrest⟩ := List.ne_and_not_mem_of_not_mem_cons h
      rw [splitOn, if_neg hne.symm, ih hrest]

/-- A piece ends at the separator. -/
theorem splitOn_append {piece : List Char} (h : separator ∉ piece) (rest : List Char) :
    splitOn separator (piece ++ separator :: rest) = piece :: splitOn separator rest := by
  induction piece with
  | nil => exact if_pos rfl
  | cons character piece ih =>
      obtain ⟨hne, hrest⟩ := List.ne_and_not_mem_of_not_mem_cons h
      rw [List.cons_append, splitOn, if_neg hne.symm, ih hrest]

/-- Pieces without the separator are cut apart where they were joined. -/
theorem splitOn_joinWith {pieces : List (List Char)} (hsome : pieces ≠ [])
    (h : ∀ piece ∈ pieces, separator ∉ piece) :
    splitOn separator (joinWith [separator] pieces) = pieces := by
  induction pieces with
  | nil => exact absurd rfl hsome
  | cons piece pieces ih =>
      obtain ⟨hpiece, hrest⟩ := List.forall_mem_cons.1 h
      cases pieces with
      | nil => exact splitOn_of_notMem hpiece
      | cons next pieces =>
          rw [joinWith, List.append_assoc, List.singleton_append, splitOn_append hpiece,
            ih (List.cons_ne_nil _ _) hrest]

/-- What is joined is as long as each of its pieces at least. -/
theorem length_le_joinWith (between : List Char) {pieces : List (List Char)} {piece : List Char}
    (h : piece ∈ pieces) : piece.length ≤ (joinWith between pieces).length := by
  induction pieces with
  | nil => cases h
  | cons first pieces ih =>
      cases pieces with
      | nil =>
          rw [List.mem_singleton.1 h]
          exact Nat.le_refl _
      | cons next pieces =>
          rw [joinWith, List.length_append, List.length_append]
          rcases List.mem_cons.1 h with rfl | hlater
          · omega
          · have hrest := ih hlater
            omega

end Text

namespace Http

namespace Percent

/-- The value of a digit in upper case is read back. -/
theorem hexDigitValue?_upperHexDigit :
    ∀ value < 16, Text.hexDigitValue? (upperHexDigit value) = some value := by
  decide

/-- An escape stands for its byte. -/
theorem toBytes_escape (byte : UInt8) (rest : List Char) :
    toBytes (escape byte ++ rest) = byte :: toBytes rest := by
  have hbyte := byte.toNat_lt
  have hhigh := hexDigitValue?_upperHexDigit (byte.toNat / 16) (by omega)
  have hlow := hexDigitValue?_upperHexDigit (byte.toNat % 16) (by omega)
  have hsum : 16 * (byte.toNat / 16) + byte.toNat % 16 = byte.toNat := Nat.div_add_mod _ _
  show toBytes ('%' :: upperHexDigit (byte.toNat / 16) :: upperHexDigit (byte.toNat % 16) :: rest) = _
  rw [toBytes, hhigh, hlow]
  dsimp only
  rw [hsum, UInt8.ofNat_toNat]

/-- Escapes stand for their bytes. -/
theorem toBytes_flatMap_escape (bytes : List UInt8) (rest : List Char) :
    toBytes (bytes.flatMap escape ++ rest) = bytes ++ toBytes rest := by
  induction bytes with
  | nil => rfl
  | cons byte bytes ih =>
      rw [List.flatMap_cons, List.append_assoc, toBytes_escape, ih, List.cons_append]

/-- Any other character than the mark of escapes stands for itself. -/
theorem toBytes_cons {character : Char} (h : character ≠ '%') (rest : List Char) :
    toBytes (character :: rest) = String.utf8EncodeChar character ++ toBytes rest := by
  rw [toBytes]
  intro high low more hcharacter
  exact absurd hcharacter h

/-- What is written of a text is a plus sign, an unreserved character or the mark of an escape. -/
def IsWritten (character : Char) : Prop :=
  character = '+' ∨ character = '%' ∨ isUnreserved character = true

/-- What may be written is decided by these comparisons. -/
instance (character : Char) : Decidable (IsWritten character) :=
  inferInstanceAs (Decidable (_ ∨ _ ∨ _))

/-- An escape consists of its mark and of unreserved characters. -/
theorem eq_or_isUnreserved_of_mem_escape {byte : UInt8} {character : Char}
    (h : character ∈ escape byte) : character = '%' ∨ isUnreserved character = true := by
  have hdigit : ∀ value < 16, isUnreserved (upperHexDigit value) = true := by decide
  have hbyte := byte.toNat_lt
  simp only [escape, List.mem_cons, List.not_mem_nil, or_false] at h
  rcases h with rfl | rfl | rfl
  · exact .inl rfl
  · exact .inr (hdigit _ (by omega))
  · exact .inr (hdigit _ (by omega))

/-- What is written of a text consists of what may be written. -/
theorem isWritten_of_mem_encodeComponent {text : String} {character : Char}
    (h : character ∈ encodeComponent text) : IsWritten character := by
  obtain ⟨source, -, hmem⟩ := List.mem_flatMap.1 h
  split at hmem
  · exact .inl (List.mem_singleton.1 hmem)
  split at hmem
  · next hunreserved => exact .inr (.inr (List.mem_singleton.1 hmem ▸ hunreserved))
  · obtain ⟨byte, -, hescape⟩ := List.mem_flatMap.1 hmem
    exact .inr (eq_or_isUnreserved_of_mem_escape hescape)

/-- The marks of a query are not written of a text. -/
theorem notMem_encodeComponent {mark : Char} (h : ¬ IsWritten mark) (text : String) :
    mark ∉ encodeComponent text :=
  fun hmem => h (isWritten_of_mem_encodeComponent hmem)

/-- Escapes have no plus sign. -/
theorem map_plus_escapeCharacter (character : Char) :
    (escapeCharacter character).map (fun written => if written = '+' then ' ' else written) =
      escapeCharacter character := by
  have hsame : ∀ written ∈ escapeCharacter character,
      (if written = '+' then ' ' else written) = id written := by
    intro written hmem
    refine if_neg ?_
    rintro rfl
    obtain ⟨byte, -, hescape⟩ := List.mem_flatMap.1 hmem
    exact absurd (eq_or_isUnreserved_of_mem_escape hescape) (by decide)
  rw [List.map_congr_left hsame, List.map_id]

/-- What is written of a text stands for its bytes, with a space for each plus sign. -/
theorem toBytes_encodeComponent (text : String) :
    toBytes ((encodeComponent text).map fun written => if written = '+' then ' ' else written) =
      Text.Utf8.encode text := by
  unfold encodeComponent Text.Utf8.encode
  induction text.toList with
  | nil => rfl
  | cons character characters ih =>
      rw [List.flatMap_cons, List.flatMap_cons, List.map_append, ← ih]
      split
      · next hspace =>
          rw [hspace]
          exact toBytes_cons (by decide) _
      split
      · next hunreserved =>
          have hplus : character ≠ '+' := by
            rintro rfl
            exact absurd hunreserved (by decide)
          have hmark : character ≠ '%' := by
            rintro rfl
            exact absurd hunreserved (by decide)
          rw [List.map_singleton, if_neg hplus]
          exact toBytes_cons hmark _
      · rw [map_plus_escapeCharacter]
        exact toBytes_flatMap_escape _ _

/-- A text is read back from what is written of it. -/
theorem decodeComponent_encodeComponent (text : String) :
    decodeComponent (encodeComponent text) = text := by
  rw [decodeComponent, decode, toBytes_encodeComponent, Text.Utf8.readLossy_encode]

/-- A name and a value are read back from a part of a query. -/
theorem decodePair_encoded (pair : String × String) :
    decodePair (encodeComponent pair.1 ++ '=' :: encodeComponent pair.2) = pair := by
  unfold decodePair
  rw [Text.cutAt_mark (notMem_encodeComponent (by decide) pair.1)]
  dsimp only
  rw [decodeComponent_encodeComponent, decodeComponent_encodeComponent]

/-- Names and values are read back from the query that they make. -/
theorem decodePairs_encodePairs {pairs : List (String × String)} (hsome : pairs ≠ []) :
    decodePairs (encodePairs pairs) = pairs := by
  have hnone : ∀ pair ∈ pairs,
      '&' ∉ encodeComponent pair.1 ++ '=' :: encodeComponent pair.2 := by
    intro pair _
    simp only [List.mem_append, List.mem_cons, not_or]
    exact ⟨notMem_encodeComponent (by decide) pair.1, by decide,
      notMem_encodeComponent (by decide) pair.2⟩
  have hfilled : ∀ part ∈ pairs.map fun pair =>
      encodeComponent pair.1 ++ '=' :: encodeComponent pair.2, (!part.isEmpty) = true :=
    List.forall_mem_map.2 fun pair _ => by simp
  unfold decodePairs encodePairs
  rw [Text.splitOn_joinWith (by simpa using hsome) (List.forall_mem_map.2 hnone),
    List.filter_eq_self.2 hfilled, List.map_map]
  exact (List.map_congr_left fun pair _ => decodePair_encoded pair).trans (List.map_id _)

/-- Something is written of every character. -/
theorem escapeCharacter_ne_nil (character : Char) : escapeCharacter character ≠ [] := by
  unfold escapeCharacter
  cases hbytes : String.utf8EncodeChar character with
  | nil =>
      have hsize := String.length_utf8EncodeChar character
      rw [hbytes] at hsize
      exact absurd hsize.symm (Nat.pos_iff_ne_zero.1 character.utf8Size_pos)
  | cons byte bytes => exact List.cons_ne_nil _ _

/-- What is written of a text is as long as the text at least. -/
theorem length_le_encodeComponent (text : String) :
    text.toList.length ≤ (encodeComponent text).length := by
  unfold encodeComponent
  induction text.toList with
  | nil => exact Nat.zero_le _
  | cons character characters ih =>
      have hone : 1 ≤ (if character = ' ' then ['+'] else if isUnreserved character then [character]
          else escapeCharacter character).length := by
        split
        · exact Nat.le_refl 1
        split
        · exact Nat.le_refl 1
        · exact List.length_pos_iff.2 (escapeCharacter_ne_nil character)
      rw [List.flatMap_cons, List.length_append, List.length_cons]
      omega

/-- A query is as long as each of its values at least. -/
theorem length_le_encodePairs {pairs : List (String × String)} {pair : String × String}
    (h : pair ∈ pairs) : pair.2.toList.length ≤ (encodePairs pairs).length := by
  have hvalue := length_le_encodeComponent pair.2
  have hpiece : encodeComponent pair.1 ++ '=' :: encodeComponent pair.2 ∈
      pairs.map fun pair => encodeComponent pair.1 ++ '=' :: encodeComponent pair.2 :=
    List.mem_map_of_mem h
  have hjoined := Text.length_le_joinWith ['&'] hpiece
  rw [List.length_append, List.length_cons] at hjoined
  unfold encodePairs
  omega

end Percent

namespace Url

/-- No part of the URL is longer than a URL may be. -/
def Fits (url : Url) : Prop :=
  ∀ part ∈ [url.scheme, url.authority, url.path, url.query.getD "", url.fragment.getD ""],
    part.toList.length ≤ lengthLimit

/-- Whether a URL fits is decided part by part. -/
instance (url : Url) : Decidable url.Fits :=
  inferInstanceAs (Decidable (∀ part ∈ _, _))

/-- The URL with the query that names and values make. -/
def queried (url : Url) (pairs : List (String × String)) : Url :=
  { url with query := some (String.ofList (Percent.encodePairs pairs)) }

/-- The names and values that the query was made of are read back from the URL. -/
theorem queryPairs_queried (url : Url) {pairs : List (String × String)} (hsome : pairs ≠ []) :
    (url.queried pairs).queryPairs = pairs := by
  show Percent.decodePairs (String.ofList (Percent.encodePairs pairs)).toList = pairs
  rw [String.toList_ofList, Percent.decodePairs_encodePairs hsome]

/-- Some part of a URL is too long if the URL does not fit. -/
theorem any_tooLong_iff (url : Url) :
    ([url.scheme, url.authority, url.path, url.query.getD "", url.fragment.getD ""].any
      fun part => lengthLimit < part.toList.length) = true ↔ ¬ url.Fits := by
  simp only [Fits, List.any_eq_true, decide_eq_true_eq, Classical.not_forall, Nat.not_le,
    exists_prop]

/-- A URL whose parts are short enough passes the check of their lengths. -/
theorem Fits.checkLengths_eq {url : Url} (h : url.Fits) :
    checkLengths url.scheme url.authority url.path url.query url.fragment = .ok () :=
  if_neg fun hlong => url.any_tooLong_iff.1 hlong h

/-- A URL with a part that is too long does not pass the check of their lengths. -/
theorem checkLengths_of_not_fits {url : Url} (h : ¬ url.Fits) :
    checkLengths url.scheme url.authority url.path url.query url.fragment = .error .tooLong :=
  if_pos (url.any_tooLong_iff.2 h)

section WithQuery

variable {url : Url} {pairs : List (String × String)}

/-- A query is taken up once the lengths are checked. -/
theorem withQuery_eq (url : Url) (hsome : pairs ≠ []) :
    url.withQuery pairs =
      (checkLengths url.scheme url.authority url.path (url.queried pairs).query url.fragment).map
        fun _ => url.queried pairs := by
  have hempty : pairs.isEmpty = false := by simpa using hsome
  unfold withQuery
  rw [hempty]
  rfl

/-- A URL does not fit with a query that has a value longer than a URL may be. -/
theorem not_fits_queried {pair : String × String} (h : pair ∈ pairs)
    (hlong : lengthLimit < pair.2.toList.length) : ¬ (url.queried pairs).Fits := by
  intro hfits
  have hquery : (String.ofList (Percent.encodePairs pairs)).toList.length ≤ lengthLimit :=
    hfits _ (by simp [queried])
  rw [String.toList_ofList] at hquery
  have hvalue := Percent.length_le_encodePairs h
  omega

/-- A URL takes names and values as its query if no part is too long then. -/
theorem Fits.withQuery_eq (h : (url.queried pairs).Fits) (hsome : pairs ≠ []) :
    url.withQuery pairs = .ok (url.queried pairs) := by
  rw [Url.withQuery_eq url hsome]
  exact congrArg (Except.map fun _ => url.queried pairs) h.checkLengths_eq

/-- A URL does not take names and values as its query if some part is too long then. -/
theorem withQuery_of_not_fits (h : ¬ (url.queried pairs).Fits) (hsome : pairs ≠ []) :
    url.withQuery pairs = .error .tooLong := by
  rw [withQuery_eq url hsome]
  exact congrArg (Except.map fun _ => url.queried pairs) (checkLengths_of_not_fits h)

end WithQuery

end Url

end Http

end MonitorOperator
