import MonitorOperator.Proofs.Document.ScalarText
import MonitorOperator.Proofs.Document.StringText

/-!
# Canonical texts

The text of JSON without spaces tells the document (`IsJson.json_injective`): what begins like a
value is read up to the end of this value, whatever comes after it, as long as that begins with a
mark. So the canonical text, which sorts the fields first, tells the document up to the order of
fields, and depends on nothing else (`IsJson.canonicalText?_eq_iff`).
-/

namespace MonitorOperator

open Scalar (IsBare keyText_injective isBare_keyText)

namespace Document

/-- The characters of a document without spaces. -/
def written (document : Document) : List Char :=
  (document.json compact).toList

/-- The characters of an entry of an object without spaces. -/
def writtenEntry (entry : String × Document) : List Char :=
  (jsonString entry.1).toList ++ ':' :: entry.2.written

/-- What follows a value: nothing, or a comma or a closing mark first. -/
def Delimited : List Char → Prop
  | [] => True
  | character :: _ => character ∈ [',', ']', '\x7d']

/-- A closing mark may follow a value. -/
theorem delimited_close {close : Char} (h : close ∈ [']', '\x7d']) (rest : List Char) :
    Delimited (close :: rest) :=
  List.mem_cons_of_mem _ h

/-- Texts with commas between them. -/
def joined {α : Type} (write : α → List Char) (items : List α) : List Char :=
  [','].intercalate (items.map write)

/-- A text is a JSON string. -/
theorem written_text (value : String) :
    (scalar (.text value)).written = (jsonString value).toList := by
  rw [written, json, Scalar.json]

/-- A list is its items with commas between them. -/
theorem written_list (items : List Document) :
    (list items).written = '[' :: (joined written items ++ [']']) := by
  have hitems : jsonItems compact items = items.map (json compact) := by
    induction items with
    | nil => rfl
    | cons item items ih => rw [jsonItems, ih, List.map_cons]
  rw [written, json, hitems]
  simp only [String.toList_append, String.toList_intercalate, List.map_map]
  rfl

/-- An object is its entries with commas between them. -/
theorem written_ofFields (entries : Keyed Document) :
    (ofFields entries).written = '\x7b' :: (joined writtenEntry entries ++ ['\x7d']) := by
  have hentries : (jsonFields compact (entries.map fieldOf)).map String.toList =
      entries.map writtenEntry := by
    induction entries with
    | nil => rfl
    | cons entry entries ih =>
        simp only [List.map_cons, fieldOf, jsonFields, String.toList_append, ih, writtenEntry]
        simp [compact, written, Scalar.keyText]
  show (json compact (object (entries.map fieldOf))).toList = _
  rw [json]
  simp only [String.toList_append, String.toList_intercalate, hentries]
  rfl

section Joined

variable {α : Type} {write : α → List Char} {close : Char}

/-- What follows the first of joined items up to a closing mark. -/
def followed (write : α → List Char) (close : Char) (items : List α) (rest : List Char) :
    List Char :=
  if items.isEmpty then close :: rest else ',' :: (joined write items ++ close :: rest)

/-- Joined items are the first and what follows it. -/
theorem joined_cons (item : α) (items : List α) (rest : List Char) :
    joined write (item :: items) ++ close :: rest =
      write item ++ followed write close items rest := by
  cases items with
  | nil => simp [joined, followed]
  | cons next items =>
      simp [joined, followed, List.intercalate_cons_cons]

/-- What follows an item begins with a comma or the closing mark. -/
theorem delimited_followed (hclose : close ∈ [']', '\x7d']) (items : List α) (rest : List Char) :
    Delimited (followed write close items rest) := by
  unfold followed
  split
  · exact delimited_close hclose rest
  · exact List.mem_cons_self

/-- Joined items tell the items if each item is told by what begins with it. -/
theorem joined_append_inj {items others : List α} {lefts rights : List Char}
    (hclose : close ∈ [']', '\x7d'])
    (hopen : ∀ item, ∃ character rest, write item = character :: rest ∧ character ≠ close)
    (hwrite : ∀ item ∈ items, ∀ other ∈ others, ∀ lefts rights, Delimited lefts →
      Delimited rights → write item ++ lefts = write other ++ rights →
      item = other ∧ lefts = rights)
    (h : joined write items ++ close :: lefts = joined write others ++ close :: rights) :
    items = others ∧ lefts = rights := by
  have hfirst : ∀ {item : α} {rest after : List Char},
      write item ++ rest ≠ close :: after := by
    intro item rest after heq
    obtain ⟨character, later, hitem, hne⟩ := hopen item
    rw [hitem] at heq
    exact hne (List.cons.inj heq).1
  have hcomma : close ≠ ',' := by
    rintro rfl
    revert hclose
    decide
  induction items generalizing others with
  | nil =>
      cases others with
      | nil => exact ⟨rfl, (List.cons.inj h).2⟩
      | cons other others =>
          rw [joined_cons] at h
          exact absurd h.symm hfirst
  | cons item items ih =>
      cases others with
      | nil =>
          rw [joined_cons] at h
          exact absurd h hfirst
      | cons other others =>
          rw [joined_cons, joined_cons] at h
          obtain ⟨rfl, hrest⟩ := hwrite item List.mem_cons_self other List.mem_cons_self _ _
            (delimited_followed hclose _ _) (delimited_followed hclose _ _) h
          unfold followed at hrest
          have hlater := fun other hother => hwrite other (List.mem_cons_of_mem _ hother)
          split at hrest <;> split at hrest
          · next hitems hothers =>
              obtain rfl := List.isEmpty_iff.1 hitems
              obtain rfl := List.isEmpty_iff.1 hothers
              exact ⟨rfl, (List.cons.inj hrest).2⟩
          · exact absurd (List.cons.inj hrest).1 hcomma
          · exact absurd (List.cons.inj hrest).1.symm hcomma
          · obtain ⟨rfl, hsame⟩ := ih (fun first hfirst second hsecond =>
              hlater first hfirst second (List.mem_cons_of_mem _ hsecond)) (List.cons.inj hrest).2
            exact ⟨rfl, hsame⟩

end Joined

/-- The mark that a document of each kind begins with; a scalar without marks begins with a bare
character. -/
def Begins : Document → Char → Prop
  | .scalar (.text _), character => character = Text.quotationMark
  | .scalar _, character => IsBare character
  | .list _, character => character = '['
  | .object _, character => character = '\x7b'

/-- A scalar other than a text is written as the text of a key. -/
theorem written_scalar {value : Scalar} (h : ¬ value.IsText) :
    (scalar value).written = value.keyText.toList := by
  cases value with
  | text value => exact absurd trivial h
  | null | boolean _ | integer _ | real _ => rfl

/-- A document begins with a mark of its kind, or with a bare character. -/
theorem exists_written (document : Document) :
    ∃ character rest, document.written = character :: rest ∧ document.Begins character := by
  match document with
  | .list items => exact ⟨_, _, written_list items, rfl⟩
  | .object fields =>
      have hwritten : (object fields).written =
          '\x7b' :: (String.intercalate compact.separator (jsonFields compact fields) ++
            "\x7d").toList := by
        rw [written, json, String.append_assoc, String.toList_append]
        rfl
      exact ⟨_, _, hwritten, rfl⟩
  | .scalar (.text value) =>
      have hwritten : (scalar (.text value)).written =
          Text.quotationMark ::
            (value.toList.flatMap escapedCharacter ++ [Text.quotationMark]) := by
        rw [written, json, Scalar.json, jsonString, String.toList_ofList, List.cons_append]
      exact ⟨_, _, hwritten, rfl⟩
  | .scalar .null | .scalar (.boolean _) | .scalar (.integer _) | .scalar (.real _) =>
      rw [written_scalar id]
      exact Scalar.exists_keyText id

/-- Which of the four ways to begin a document has. -/
def shape : Document → Nat
  | .scalar (.text _) => 1
  | .scalar _ => 0
  | .list _ => 2
  | .object _ => 3

/-- Texts have a shape of their own among scalars. -/
theorem isText_iff {value : Scalar} : value.IsText ↔ (scalar value).shape = 1 := by
  cases value <;> simp [Scalar.IsText, shape]

/-- A scalar that is a text is one. -/
theorem exists_of_isText {value : Scalar} (h : value.IsText) : ∃ text, value = .text text := by
  cases value with
  | text text => exact ⟨text, rfl⟩
  | null | boolean _ | integer _ | real _ => cases h

/-- A first character tells the shape of a document. -/
theorem shape_of_begins {document : Document} {character : Char} (h : document.Begins character) :
    document.shape = if character = Text.quotationMark then 1 else if character = '[' then 2
      else if character = '\x7b' then 3 else 0 := by
  match document, h with
  | .scalar (.text _), h | .list _, h | .object _, h =>
      rw [show character = _ from h]
      rfl
  | .scalar .null, h | .scalar (.boolean _), h | .scalar (.integer _), h | .scalar (.real _), h =>
      have hbare : IsBare character := h
      have hmarks : ¬ IsBare Text.quotationMark ∧ ¬ IsBare '[' ∧ ¬ IsBare '\x7b' := by decide
      rw [if_neg, if_neg, if_neg]
      · rfl
      all_goals
        rintro rfl
        simp [hbare] at hmarks

/-- Documents that begin with the same text are of one shape. -/
theorem shape_eq {left right : Document} {lefts rights : List Char}
    (h : left.written ++ lefts = right.written ++ rights) : left.shape = right.shape := by
  obtain ⟨character, rest, hleft, hbegins⟩ := left.exists_written
  obtain ⟨other, rest', hright, hbegins'⟩ := right.exists_written
  rw [hleft, hright] at h
  obtain ⟨rfl, -⟩ := List.cons.inj h
  rw [shape_of_begins hbegins, shape_of_begins hbegins']

/-- A closing mark is no bare character. -/
theorem not_isBare_close {close : Char} (h : close ∈ [']', '\x7d']) : ¬ IsBare close := by
  rcases List.mem_cons.1 h with rfl | hbrace
  · decide
  · rw [List.mem_singleton.1 hbrace]
    decide

/-- No document begins with a closing mark. -/
theorem not_begins_close {close : Char} (hclose : close ∈ [']', '\x7d']) (document : Document) :
    ¬ document.Begins close := by
  have hmarks : ∀ mark ∈ [Text.quotationMark, '[', '\x7b'], close ≠ mark := by
    intro mark hmark heq
    subst heq
    simp only [List.mem_cons, List.not_mem_nil, or_false] at hmark hclose
    rcases hmark with rfl | rfl | rfl <;> exact absurd hclose (by decide)
  match document with
  | .scalar (.text _) => exact hmarks _ (by decide)
  | .list _ => exact hmarks _ (by decide)
  | .object _ => exact hmarks _ (by decide)
  | .scalar .null | .scalar (.boolean _) | .scalar (.integer _) | .scalar (.real _) =>
      exact not_isBare_close hclose

/-- A document begins with no closing mark. -/
theorem exists_written_ne_close {close : Char} (hclose : close ∈ [']', '\x7d'])
    (document : Document) :
    ∃ character rest, document.written = character :: rest ∧ character ≠ close := by
  obtain ⟨character, rest, hwritten, hbegins⟩ := document.exists_written
  refine ⟨character, rest, hwritten, ?_⟩
  rintro rfl
  exact not_begins_close hclose document hbegins

/-- An entry begins with no closing mark. -/
theorem exists_writtenEntry_ne_close {close : Char} (hclose : close ∈ [']', '\x7d'])
    (entry : String × Document) :
    ∃ character rest, writtenEntry entry = character :: rest ∧ character ≠ close := by
  obtain ⟨character, rest, hwritten, hne⟩ :=
    exists_written_ne_close hclose (scalar (.text entry.1))
  rw [written_text] at hwritten
  exact ⟨character, _, by rw [writtenEntry, hwritten, List.cons_append], hne⟩

/-- Texts of bare characters end before the first other character. -/
theorem bare_append_inj {left right lefts rights : List Char}
    (hleft : ∀ character ∈ left, IsBare character) (hright : ∀ character ∈ right, IsBare character)
    (hlefts : Delimited lefts) (hrights : Delimited rights) (h : left ++ lefts = right ++ rights) :
    left = right ∧ lefts = rights := by
  have hend : ∀ {character : Char} {rest after : List Char}, IsBare character → Delimited after →
      after ≠ character :: rest := by
    rintro character rest _ hbare hdelimited rfl
    have hmark : character ∈ [',', ']', '\x7d'] := hdelimited
    simp only [List.mem_cons, List.not_mem_nil, or_false] at hmark
    rcases hmark with rfl | rfl | rfl <;> revert hbare <;> decide
  induction left generalizing right with
  | nil =>
      cases right with
      | nil => exact ⟨rfl, h⟩
      | cons character right =>
          exact absurd h (hend (hright character List.mem_cons_self) hlefts)
  | cons character left ih =>
      obtain ⟨hcharacter, hleft⟩ := List.forall_mem_cons.1 hleft
      cases right with
      | nil => exact absurd h.symm (hend hcharacter hrights)
      | cons other right =>
          obtain ⟨rfl, hrest⟩ := List.cons.inj h
          obtain ⟨rfl, hsame⟩ := ih hleft (List.forall_mem_cons.1 hright).2 hrest
          exact ⟨rfl, hsame⟩

/-- A scalar is told by what begins with it, and so is what follows it. -/
theorem scalar_append_inj {value other : Scalar} (hvalue : value.IsJson) (hother : other.IsJson)
    {lefts rights : List Char} (hlefts : Delimited lefts) (hrights : Delimited rights)
    (h : (scalar value).written ++ lefts = (scalar other).written ++ rights) :
    value = other ∧ lefts = rights := by
  have hshape := shape_eq h
  have hsame_text : value.IsText ↔ other.IsText := by
    rw [isText_iff, isText_iff, hshape]
  by_cases htext : value.IsText
  · obtain ⟨text, rfl⟩ := exists_of_isText htext
    obtain ⟨other, rfl⟩ := exists_of_isText (hsame_text.1 htext)
    rw [written_text, written_text] at h
    obtain ⟨rfl, hrest⟩ := jsonString_append_inj h
    exact ⟨rfl, hrest⟩
  · have hother_text : ¬ other.IsText := mt hsame_text.2 htext
    rw [written_scalar htext, written_scalar hother_text] at h
    obtain ⟨hsame, hrest⟩ :=
      bare_append_inj (isBare_keyText htext) (isBare_keyText hother_text) hlefts hrights h
    have hkey := String.toList_inj.1 hsame
    rw [keyText_injective htext hother_text hvalue hother hkey]
    exact ⟨rfl, hrest⟩

/-- An entry is told by what begins with it if its value is. -/
theorem writtenEntry_append_inj {left right : String × Document} {lefts rights : List Char}
    (hvalue : left.2.written ++ lefts = right.2.written ++ rights →
      left.2 = right.2 ∧ lefts = rights)
    (h : writtenEntry left ++ lefts = writtenEntry right ++ rights) :
    left = right ∧ lefts = rights := by
  simp only [writtenEntry, List.append_assoc] at h
  obtain ⟨hkey, hrest⟩ := jsonString_append_inj h
  rw [List.cons_append, List.cons_append] at hrest
  obtain ⟨hsame, hafter⟩ := hvalue (List.cons.inj hrest).2
  exact ⟨Prod.ext hkey hsame, hafter⟩

/-- A document is told by what begins with it, and so is what follows it. -/
theorem IsJson.written_append_inj {left right : Document} (hleft : left.IsJson)
    (hright : right.IsJson) {lefts rights : List Char} (hlefts : Delimited lefts)
    (hrights : Delimited rights) (h : left.written ++ lefts = right.written ++ rights) :
    left = right ∧ lefts = rights := by
  -- The first character tells which kind of document it is, so both are of one kind.
  have hshape := shape_eq h
  induction hleft generalizing right lefts rights with
  | @scalar value hvalue =>
      cases hright with
      | @scalar other hother =>
          obtain ⟨rfl, hrest⟩ := scalar_append_inj hvalue hother hlefts hrights h
          exact ⟨rfl, hrest⟩
      | list _ => cases value <;> cases hshape
      | object _ _ => cases value <;> cases hshape
  | @list items hitems ih =>
      cases hright with
      | @scalar other _ => cases other <;> cases hshape
      | @list others hothers =>
          rw [written_list, written_list, List.cons_append, List.cons_append, List.append_assoc,
            List.append_assoc] at h
          obtain ⟨rfl, hrest⟩ :=
            joined_append_inj (by decide) (exists_written_ne_close (by decide))
              (fun item hitem other hother lefts rights hlefts hrights hsame =>
                ih item hitem (hothers other hother) hlefts hrights hsame (shape_eq hsame))
              (List.cons.inj h).2
          exact ⟨rfl, hrest⟩
      | object _ _ => cases hshape
  | @object entries hdistinct hvalues ih =>
      cases hright with
      | @scalar other _ => cases other <;> cases hshape
      | list _ => cases hshape
      | @object others _ hothers =>
          rw [written_ofFields, written_ofFields, List.cons_append, List.cons_append,
            List.append_assoc, List.append_assoc] at h
          obtain ⟨rfl, hrest⟩ :=
            joined_append_inj (by decide) (exists_writtenEntry_ne_close (by decide))
              (fun entry hentry other hother lefts rights hlefts hrights hsame =>
                writtenEntry_append_inj (fun hvalue =>
                  ih entry hentry (hothers other hother) hlefts hrights hvalue (shape_eq hvalue))
                  hsame)
              (List.cons.inj h).2
          exact ⟨rfl, hrest⟩

/-- The text of JSON tells the document. -/
theorem IsJson.json_injective {left right : Document} (hleft : left.IsJson)
    (hright : right.IsJson) (h : left.json compact = right.json compact) : left = right := by
  have hwritten : left.written ++ [] = right.written ++ [] := by
    rw [written, written, h]
  have hend : Delimited [] := trivial
  exact (hleft.written_append_inj hright hend hend hwritten).1

/-- JSON has a canonical text. -/
theorem IsJson.canonicalText?_eq {document : Document} (h : document.IsJson) :
    document.canonicalText? = some (document.arranged.json compact) := by
  rw [canonicalText?, sortedText?, h.sorted?_eq, Option.map_some]

/-- JSON has one canonical text exactly if it is the same up to the order of fields. -/
theorem IsJson.canonicalText?_eq_iff {left right : Document} (hleft : left.IsJson)
    (hright : right.IsJson) :
    left.canonicalText? = right.canonicalText? ↔ Reordered left right := by
  rw [hleft.canonicalText?_eq, hright.canonicalText?_eq, Option.some.injEq,
    hleft.reordered_iff hright]
  exact ⟨hleft.arranged.json_injective hright.arranged, congrArg (json compact)⟩

end Document

end MonitorOperator
