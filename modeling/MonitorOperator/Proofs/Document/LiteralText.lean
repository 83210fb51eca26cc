import MonitorOperator.Document.Display
import MonitorOperator.Proofs.Document.ReorderedFields
import MonitorOperator.Proofs.Document.StringText

/-!
# Literals

The literal of a JSON document tells the order of its fields: of all reorderings of a document, no
two have the same literal (`Document.Reordered.tells_literal`). A text between marks is read back
character by character, and ends at the mark that it began with (`Text.quoted_append_inj`).
-/

namespace MonitorOperator

namespace Text

/-- The number that hexadecimal digits spell, most significant first. -/
def ofHexDigits (digits : List Char) : Nat :=
  digits.foldl (fun number digit => 16 * number + (hexDigitValue? digit).getD 0) 0

/-- Hexadecimal digits spell the number that they were written for, if there are enough of them. -/
theorem ofHexDigits_hexDigits (width number : Nat) :
    ofHexDigits (hexDigits width number) = number % 16 ^ width := by
  induction width generalizing number with
  | zero => rw [Nat.pow_zero, Nat.mod_one]; rfl
  | succ width ih =>
      have hlast := hexDigitValue?_hexDigit (Nat.mod_lt number (by decide : 0 < 16))
      rw [hexDigits, ofHexDigits, List.foldl_append, ← ofHexDigits, ih, List.foldl_cons,
        List.foldl_nil, hlast, Option.getD_some, Nat.pow_succ, Nat.mul_comm (16 ^ width),
        Nat.mod_mul]
      omega

/-- There are as many hexadecimal digits as were asked for. -/
@[simp] theorem length_hexDigits (width number : Nat) :
    (hexDigits width number).length = width := by
  induction width generalizing number with
  | zero => rfl
  | succ width ih => simp [hexDigits, ih]

/-- How many hexadecimal digits come after the letter of an escape. -/
def hexWidth? : Char → Option Nat
  | 'x' => some 2
  | 'u' => some 4
  | 'U' => some 8
  | _ => none

/-- The character that a letter stands for behind a backslash. -/
def unescapedLetter : Char → Char
  | 't' => Char.ofNat 9
  | 'n' => Char.ofNat 10
  | 'r' => Char.ofNat 13
  | letter => letter

/-- The character behind a backslash, and what comes after it. -/
def unescape? : List Char → Option (Char × List Char)
  | [] => none
  | letter :: rest =>
    match hexWidth? letter with
    | some width => some (Char.ofNat (ofHexDigits (rest.take width)), rest.drop width)
    | none => some (unescapedLetter letter, rest)

/-- The first character of a text between marks, and what comes after it. -/
def unquote? : List Char → Option (Char × List Char)
  | [] => none
  | first :: rest => if first = backslash then unescape? rest else some (first, rest)

/-- A character that is written by its code is read back. -/
theorem unquote?_hexDigits {letter character : Char} {width : Nat}
    (hwidth : hexWidth? letter = some width) (hsmall : character.toNat < 16 ^ width)
    (rest : List Char) :
    unquote? (backslash :: letter :: (hexDigits width character.toNat ++ rest)) =
      some (character, rest) := by
  rw [unquote?, if_pos rfl, unescape?, hwidth]
  simp only [List.take_left' (length_hexDigits _ _), List.drop_left' (length_hexDigits _ _)]
  rw [ofHexDigits_hexDigits, Nat.mod_eq_of_lt hsmall, Char.ofNat_toNat]

/-- A character that is written by a letter is read back. -/
theorem unquote?_letter {letter : Char} (hletter : hexWidth? letter = none) (rest : List Char) :
    unquote? (backslash :: letter :: rest) = some (unescapedLetter letter, rest) := by
  rw [unquote?, if_pos rfl, unescape?, hletter]

/-- The mark is one that a text may be put between. -/
def IsMark (mark : Char) : Prop := mark = apostrophe ∨ mark = quotationMark

/-- A text is put between marks. -/
theorem isMark_markOf (characters : List Char) : IsMark (markOf characters) := by
  unfold markOf
  split
  · exact .inr rfl
  · exact .inl rfl

/-- What is written of a character between marks is read back. -/
theorem unquote?_quotedCharacter {mark : Char} (hmark : IsMark mark) (character : Char)
    (rest : List Char) :
    unquote? (quotedCharacter mark character ++ rest) = some (character, rest) := by
  have hcode : ∀ {code : Nat}, character.toNat = code → character = Char.ofNat code := by
    intro code h
    rw [← h, Char.ofNat_toNat]
  have hrange : character.toNat < 16 ^ 8 := by
    have hvalid : character.toNat.isValidChar := character.valid
    simp only [Nat.isValidChar] at hvalid
    omega
  simp only [quotedCharacter]
  split
  · next hescaped =>
      simp only [Bool.or_eq_true, decide_eq_true_eq] at hescaped
      have hletter : hexWidth? character = none ∧ unescapedLetter character = character := by
        rcases hescaped with rfl | rfl
        · rcases hmark with rfl | rfl <;> decide
        · decide
      rw [List.cons_append, List.cons_append, unquote?_letter hletter.1, hletter.2]
      rfl
  split
  · next h => rw [hcode h]; exact unquote?_letter (by decide) rest
  split
  · next h => rw [hcode h]; exact unquote?_letter (by decide) rest
  split
  · next h => rw [hcode h]; exact unquote?_letter (by decide) rest
  next hescaped _ _ _ =>
  simp only [Bool.or_eq_true, decide_eq_true_eq, not_or] at hescaped
  split
  · rw [List.cons_append, unquote?, if_neg hescaped.2]
    rfl
  split
  · next hsmall => exact unquote?_hexDigits rfl hsmall rest
  split
  · next hsmall => exact unquote?_hexDigits rfl hsmall rest
  · exact unquote?_hexDigits rfl hrange rest

/-- What is written of a character does not begin with the mark. -/
theorem quotedCharacter_append_ne {mark : Char} (hmark : IsMark mark) (character : Char)
    (rest after : List Char) : quotedCharacter mark character ++ rest ≠ mark :: after := by
  have hbackslash : backslash ≠ mark := by
    rcases hmark with rfl | rfl <;> decide
  intro h
  have hread := congrArg unquote? h
  rw [unquote?_quotedCharacter hmark, unquote?, if_neg hbackslash.symm] at hread
  obtain ⟨rfl, -⟩ := Prod.mk.inj (Option.some.inj hread)
  rw [quotedCharacter, if_pos (by simp)] at h
  exact hbackslash (List.cons.inj h).1

/-- Characters up to a closing mark are told by what is written of them. -/
theorem flatMap_quotedCharacter_append_inj {mark : Char} (hmark : IsMark mark)
    {characters others lefts rights : List Char}
    (h : characters.flatMap (quotedCharacter mark) ++ mark :: lefts =
      others.flatMap (quotedCharacter mark) ++ mark :: rights) :
    characters = others ∧ lefts = rights := by
  induction characters generalizing others with
  | nil =>
      cases others with
      | nil => exact ⟨rfl, (List.cons.inj h).2⟩
      | cons other others =>
          rw [List.flatMap_cons, List.append_assoc] at h
          exact absurd h.symm (quotedCharacter_append_ne hmark _ _ _)
  | cons character characters ih =>
      cases others with
      | nil =>
          rw [List.flatMap_cons, List.append_assoc] at h
          exact absurd h (quotedCharacter_append_ne hmark _ _ _)
      | cons other others =>
          rw [List.flatMap_cons, List.flatMap_cons, List.append_assoc, List.append_assoc] at h
          have hread := congrArg unquote? h
          rw [unquote?_quotedCharacter hmark, unquote?_quotedCharacter hmark] at hread
          obtain ⟨rfl, hrest⟩ := Prod.mk.inj (Option.some.inj hread)
          obtain ⟨rfl, hafter⟩ := ih hrest
          exact ⟨rfl, hafter⟩

/-- A text between marks tells the text, and where it ends. -/
theorem quoted_append_inj {left right : String} {lefts rights : List Char}
    (h : (quoted left).toList ++ lefts = (quoted right).toList ++ rights) :
    left = right ∧ lefts = rights := by
  simp only [quoted, String.toList_ofList, List.cons_append, List.append_assoc, List.nil_append,
    List.cons.injEq] at h
  obtain ⟨hmark, hrest⟩ := h
  rw [← hmark] at hrest
  obtain ⟨htext, hafter⟩ := flatMap_quotedCharacter_append_inj (isMark_markOf _) hrest
  exact ⟨String.toList_inj.1 htext, hafter⟩

end Text

namespace Document

/-- What is written of two items, with anything after it, is the same only if they are one. -/
def Tells {α : Type} (write : α → List Char) (left right : α) : Prop :=
  ∀ lefts rights, write left ++ lefts = write right ++ rights → left = right ∧ lefts = rights

/-- Joined items tell the items if they do at each position. -/
theorem Tells.intercalate {α : Type} {write : α → List Char} {separator : List Char}
    {items others : List α} (hitems : List.Forall₂ (Tells write) items others) :
    Tells (fun items => separator.intercalate (items.map write)) items others := by
  induction hitems with
  | nil => exact fun lefts rights h => ⟨rfl, h⟩
  | @cons item other items others hfirst hlater ih =>
      intro lefts rights h
      cases hlater with
      | nil =>
          obtain ⟨rfl, hrest⟩ := hfirst lefts rights (by simpa using h)
          exact ⟨rfl, hrest⟩
      | cons _ _ =>
          simp only [List.map_cons, List.intercalate_cons_cons, List.append_assoc] at h
          obtain ⟨rfl, hrest⟩ := hfirst _ _ h
          obtain ⟨hsame, hafter⟩ := ih lefts rights (List.append_cancel_left hrest)
          exact ⟨by rw [hsame], hafter⟩

/-- The characters of a literal. -/
def literalText (document : Document) : List Char :=
  document.literal.toList

/-- The characters of an entry of an object in its literal. -/
def literalEntry (entry : String × Document) : List Char :=
  (Text.quoted entry.1).toList ++ ([':', ' '] ++ entry.2.literalText)

/-- Entries are told if their values are, once their keys are the same. -/
theorem Tells.literalEntry {left right : String × Document}
    (hvalue : left.1 = right.1 → Tells literalText left.2 right.2) :
    Tells literalEntry left right := by
  intro lefts rights h
  simp only [Document.literalEntry, List.append_assoc] at h
  obtain ⟨hkey, hrest⟩ := Text.quoted_append_inj h
  obtain ⟨hsame, hafter⟩ := hvalue hkey lefts rights (List.append_cancel_left hrest)
  exact ⟨Prod.ext hkey hsame, hafter⟩

/-- The literal of a list is its items with commas between them. -/
theorem literalText_list (items : List Document) :
    (list items).literalText =
      '[' :: ([',', ' '].intercalate (items.map literalText) ++ [']']) := by
  have hitems : (itemLiterals items).map String.toList = items.map literalText := by
    induction items with
    | nil => rfl
    | cons item items ih => rw [itemLiterals, List.map_cons, ih, List.map_cons, literalText]
  rw [literalText, literal]
  simp only [String.toList_append, String.toList_intercalate, hitems]
  rfl

/-- The literal of an object is its entries with commas between them. -/
theorem literalText_ofFields (entries : Keyed Document) :
    (ofFields entries).literalText =
      '\x7b' :: ([',', ' '].intercalate (entries.map literalEntry) ++ ['\x7d']) := by
  have hentries : (fieldLiterals (entries.map fieldOf)).map String.toList =
      entries.map literalEntry := by
    induction entries with
    | nil => rfl
    | cons entry entries ih =>
        simp only [List.map_cons, fieldOf, fieldLiterals, String.toList_append, ih, literalEntry,
          List.append_assoc]
        rfl
  show (literal (object (entries.map fieldOf))).toList = _
  rw [literal]
  simp only [String.toList_append, String.toList_intercalate, hentries]
  rfl

/-- Reorderings of JSON are told apart by their literals. -/
theorem Reordered.tells_literal {left right : Document} (h : Reordered left right)
    (hleft : left.IsJson) (hright : right.IsJson) : Tells literalText left right := by
  intro lefts rights htext
  induction hleft generalizing right lefts rights with
  | scalar _ =>
      obtain rfl := reordered_scalar_iff.1 h
      exact ⟨rfl, List.append_cancel_left htext⟩
  | @list items _ ih =>
      obtain ⟨others, rfl, hitems⟩ := reordered_list_iff.1 h
      have hothers := isJson_list_iff.1 hright
      have htells : List.Forall₂ (Tells literalText) items others :=
        forall₂_imp_mem hitems fun item hitem other hother hpair lefts rights =>
          ih item hitem hpair (hothers other hother) lefts rights
      rw [literalText_list, literalText_list] at htext
      simp only [List.cons_append, List.append_assoc, List.cons.injEq, true_and] at htext
      obtain ⟨hsame, hrest⟩ := Tells.intercalate htells _ _ htext
      exact ⟨by rw [hsame], (List.cons.inj hrest).2⟩
  | @object entries hdistinct _ ih =>
      obtain ⟨permuted, others, rfl, hperm, hvalues⟩ := reordered_ofFields_iff.1 h
      obtain ⟨hother_distinct, hothers⟩ := isJson_ofFields_iff.1 hright
      have htells : ∀ entry ∈ entries, ∀ other ∈ others, Tells literalEntry entry other := by
        intro entry hentry other hother
        refine Tells.literalEntry fun hkey lefts rights => ?_
        -- Keys are distinct, so the values under one key are reorderings of each other.
        have hfound := (reordered_ofFields_iff_get? hdistinct hother_distinct).1 h entry.1
        rw [(Keyed.get?_eq_some_iff hdistinct).2 hentry, hkey,
          (Keyed.get?_eq_some_iff hother_distinct).2 hother] at hfound
        cases hfound with
        | some hvalue => exact ih entry hentry hvalue (hothers other hother) lefts rights
      have hlength : entries.length = others.length := hperm.length_eq.trans hvalues.length_eq
      have hentries : List.Forall₂ (Tells literalEntry) entries others := by
        refine List.forall₂_iff_zip.2 ⟨hlength, fun hpair => ?_⟩
        obtain ⟨hentry, hother⟩ := List.of_mem_zip hpair
        exact htells _ hentry _ hother
      rw [literalText_ofFields, literalText_ofFields] at htext
      simp only [List.cons_append, List.append_assoc, List.cons.injEq, true_and] at htext
      obtain ⟨hsame, hrest⟩ := Tells.intercalate hentries _ _ htext
      exact ⟨by rw [hsame], (List.cons.inj hrest).2⟩

/-- Reorderings of JSON that are displayed in the same way are one document. -/
theorem Reordered.eq_of_display {left right : Document} (h : Reordered left right)
    (hleft : left.IsJson) (hright : right.IsJson) (hdisplay : left.display = right.display) :
    left = right := by
  have hliteral : left.literalText = right.literalText → left = right := by
    intro hsame
    exact (h.tells_literal hleft hright [] [] (by rw [hsame])).1
  cases h with
  | scalar _ => rfl
  | list _ _ => exact hliteral (congrArg String.toList hdisplay)
  | object _ _ _ => exact hliteral (congrArg String.toList hdisplay)

end Document

end MonitorOperator
