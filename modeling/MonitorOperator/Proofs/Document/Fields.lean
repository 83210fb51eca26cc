import Mathlib.Data.List.Nodup
import MonitorOperator.Document.Access
import MonitorOperator.Text.Keyed

/-!
# Looking up fields

What is found under a text key after fields were put, merged, removed or appended, and what these
operations do to the keys. An object with text keys is the one that `Document.ofFields` makes of a
list of texts and values, and is looked up like one (`Fields.get?_ofKeyed`). `Document.under?` looks
up fields of fields.
-/

namespace MonitorOperator

/-- Something that may fail and what follows it succeed if both do. -/
theorem bind_eq_ok_iff {ε α β : Type} {first : Except ε α} {rest : α → Except ε β} {last : β} :
    (first >>= rest) = .ok last ↔ ∃ result, first = .ok result ∧ rest result = .ok last := by
  cases first <;> simp [bind, Except.bind]

/-- Something that may fail and what follows it fail if one of both does. -/
theorem bind_eq_error_iff {ε α β : Type} {first : Except ε α} {rest : α → Except ε β} {fault : ε} :
    (first >>= rest) = .error fault ↔
      first = .error fault ∨ ∃ result, first = .ok result ∧ rest result = .error fault := by
  cases first <;> simp [bind, Except.bind]

/-- A change of the result leaves a fault as it is. -/
theorem map_eq_error_iff {ε α β : Type} {result : Except ε α} {change : α → β} {fault : ε} :
    result.map change = .error fault ↔ result = .error fault := by
  cases result <;> simp [Except.map]

/-- Only a text agrees with a text. -/
theorem Scalar.agrees_text_iff (scalar : Scalar) (key : String) :
    scalar.agrees (.text key) = true ↔ scalar = .text key := by
  cases scalar <;> simp [Scalar.agrees, Scalar.number?]

/-- Another scalar does not agree with a text. -/
theorem Scalar.agrees_text_of_ne {scalar : Scalar} {key : String} (h : scalar ≠ .text key) :
    scalar.agrees (.text key) = false := by
  rw [← Bool.not_eq_true, agrees_text_iff]
  exact h

/-- Only a text agrees with a text. -/
theorem Document.agrees_text_iff (document : Document) (text : String) :
    document.agrees (.text text) = true ↔ document = .text text := by
  cases document with
  | scalar value => simp [Document.agrees, Document.text, Scalar.agrees_text_iff]
  | list | object => simp [Document.agrees, Document.text]

namespace Fields

/-- Nothing is found among no fields. -/
@[simp] theorem get?_nil (key : Scalar) : get? [] key = none := rfl

/-- The first field counts if it has the key. -/
theorem get?_cons (field : Scalar × Document) (fields : Fields) (key : String) :
    get? (field :: fields) (.text key) =
      if field.1 = .text key then some field.2 else get? fields (.text key) := by
  by_cases h : field.1 = .text key
  · simp [get?, h]
  · simp [get?, h, Scalar.agrees_text_of_ne h]

/-- After a field was put, it is found, and nothing else has changed. -/
theorem get?_put (fields : Fields) (key other : String) (value : Document) :
    get? (put fields (.text key) value) (.text other) =
      if key = other then some value else get? fields (.text other) := by
  induction fields with
  | nil => simp [put, get?_cons]
  | cons field fields ih =>
      unfold put
      by_cases h : field.1 = .text key
      · simp only [h, get?_cons, Scalar.agrees_text, beq_self_eq_true, ↓reduceIte,
          Scalar.text.injEq]
        split <;> rfl
      · simp only [Scalar.agrees_text_of_ne h, get?_cons, ih, Bool.false_eq_true, ↓reduceIte]
        by_cases hother : field.1 = .text other
        · have hne : key ≠ other := fun heq => h (heq ▸ hother)
          simp [hother, hne]
        · simp [hother]

/-- After a field was removed, it is not found, and nothing else has changed. -/
theorem get?_remove (fields : Fields) (key other : String) :
    get? (remove fields (.text key)) (.text other) =
      if key = other then none else get? fields (.text other) := by
  induction fields with
  | nil => simp [remove]
  | cons field fields ih =>
      have hcons : remove (field :: fields) (.text key) =
          if field.1 = .text key then remove fields (.text key)
          else field :: remove fields (.text key) := by
        by_cases h : field.1 = .text key
        · simp [remove, h]
        · simp [remove, h, Scalar.agrees_text_of_ne h]
      by_cases h : field.1 = .text key
      · simp only [hcons, h, ↓reduceIte, ih, get?_cons, Scalar.text.injEq]
        split <;> rfl
      · simp only [hcons, h, ↓reduceIte, ih, get?_cons]
        by_cases hother : field.1 = .text other
        · have hne : key ≠ other := fun heq => h (heq ▸ hother)
          simp [hother, hne]
        · simp [hother]

/-- What was put under a key is removed with it. -/
theorem remove_put (fields : Fields) (key : String) (value : Document) :
    remove (put fields (.text key) value) (.text key) = remove fields (.text key) := by
  induction fields with
  | nil => simp [put, remove]
  | cons field fields ih =>
      unfold put
      cases h : field.1.agrees (.text key) with
      | true => simp [remove, h]
      | false => simpa [remove, h] using ih

/-- Nothing is removed with a key that is not there. -/
theorem remove_eq_self {fields : Fields} {key : Scalar} (h : get? fields key = none) :
    remove fields key = fields := by
  simp only [get?, Option.map_eq_none_iff, List.find?_eq_none, Bool.not_eq_true] at h
  exact List.filter_eq_self.2 fun field hmem => by simp [h field hmem]

/-- An object made of texts and values is looked up like the list of them. -/
@[simp] theorem get?_ofKeyed (entries : Keyed Document) (key : String) :
    get? (entries.map fun entry => (.text entry.1, entry.2)) (.text key) =
      Keyed.get? entries key := by
  induction entries with
  | nil => rfl
  | cons entry entries ih =>
      rw [List.map_cons, get?_cons, Keyed.get?_cons, ih]
      simp

/-- Merging texts and values over fields puts those that are given. -/
theorem get?_merge_ofKeyed (fields : Fields) (entries : Keyed Document) (key : String)
    (hdistinct : (entries.map (·.1)).Nodup) :
    get? (merge fields (entries.map fun entry => (.text entry.1, entry.2))) (.text key) =
      (Keyed.get? entries key).or (get? fields (.text key)) := by
  induction entries generalizing fields with
  | nil => simp [merge]
  | cons entry entries ih =>
      obtain ⟨hnew, hrest⟩ := List.nodup_cons.1 hdistinct
      have hmerge := ih (put fields (.text entry.1) entry.2) hrest
      simp only [merge, List.map_cons, List.foldl_cons] at hmerge ⊢
      rw [hmerge, get?_put, Keyed.get?_cons]
      by_cases h : entry.1 = key
      · have hmissing : Keyed.get? entries key = none := by
          simp only [Keyed.get?, Option.map_eq_none_iff, List.find?_eq_none, beq_iff_eq]
          intro other hother heq
          exact hnew (List.mem_map.2 ⟨other, hother, heq.trans h.symm⟩)
        simp [h, hmissing]
      · simp [h]

end Fields

namespace Document

/-- Looking up a field of an object, with a default. -/
@[simp] theorem lookupOr_object (fields : Fields) (key : String) (fallback : Document) :
    (object fields).lookupOr key fallback = .ok ((Fields.get? fields (.text key)).getD fallback) :=
  rfl

/-- Looking up a field of an object that may be missing. -/
@[simp] theorem lookupOrNull_object (fields : Fields) (key : String) :
    (object fields).lookupOrNull key = .ok ((Fields.get? fields (.text key)).getD null) :=
  rfl

/-- An object is its own default for the empty object. -/
@[simp] theorem orElse_object (fields : Fields) :
    (object fields).orElse (object []) = object fields := by
  cases fields <;> rfl

/-- A list is its own default for the empty list. -/
@[simp] theorem orElse_list (items : List Document) :
    (list items).orElse (list []) = list items := by
  cases items <;> rfl

/-- A default for what counts as nothing has no use for the same default. -/
@[simp] theorem orElse_orElse (document other : Document) :
    (document.orElse other).orElse other = document.orElse other := by
  unfold orElse
  split
  · rfl
  · exact ite_self other

/-- What is null, or counts as present, is its own default for null. -/
theorem orNull_eq_self {document : Document} (h : document = null ∨ document.truthy = true) :
    document.orNull = document := by
  rcases h with rfl | htruthy
  · rfl
  · exact if_pos htruthy

/-- What does not count as present is null by default. -/
theorem orNull_eq_null {document : Document} (h : document.truthy = false) :
    document.orNull = null :=
  if_neg (by simp [h])

/-- Null counts as present no more than what it is the default for. -/
@[simp] theorem truthy_orNull (document : Document) : document.orNull.truthy = document.truthy := by
  cases h : document.truthy with
  | true => rw [orNull_eq_self (.inr h), h]
  | false => rw [orNull_eq_null h]; rfl

@[simp] theorem toFields_object (fields : Fields) : (object fields).toFields = .ok fields := rfl

@[simp] theorem elements_list (items : List Document) : (list items).elements = .ok items := rfl

/-- What a document holds under a chain of names, if each is a field of an object. -/
def under? (document : Document) : List String → Option Document
  | [] => some document
  | name :: rest =>
      match document.lookup (.text name) with
      | .ok (some value) => value.under? rest
      | _ => none

/-- What an object of texts and values holds under a chain of names. -/
theorem under?_ofFields (entries : Keyed Document) (name : String) (rest : List String) :
    (ofFields entries).under? (name :: rest) =
      (entries.get? name).bind fun value => value.under? rest := by
  rw [under?, ofFields, lookup, Fields.get?_ofKeyed]
  cases entries.get? name <;> rfl

/-- What an object holds under a name is its field. -/
theorem under?_singleton (fields : Fields) (name : String) :
    (object fields).under? [name] = Fields.get? fields (.text name) := by
  rw [under?, lookup]
  cases Fields.get? fields (.text name) <;> rfl

/-- What an object holds in a field that is an object is a field of that. -/
theorem under?_pair {fields inner : Fields} {name : String}
    (h : Fields.get? fields (.text name) = some (.object inner)) (next : String) :
    (object fields).under? [name, next] = Fields.get? inner (.text next) := by
  rw [under?, lookup, h, ← under?_singleton inner next]

/-- What holds something in a field of a field is an object, and so is the field. -/
theorem exists_of_under?_pair {document value : Document} {name next : String}
    (h : document.under? [name, next] = some value) :
    ∃ fields inner, document = .object fields ∧
      Fields.get? fields (.text name) = some (.object inner) := by
  cases document with
  | scalar | list => cases h
  | object fields =>
      rw [under?, lookup] at h
      cases hinner : Fields.get? fields (.text name) with
      | none => rw [hinner] at h; cases h
      | some inner =>
          rw [hinner] at h
          cases inner with
          | scalar | list => cases h
          | object inner => exact ⟨fields, inner, rfl, hinner⟩

/-- A field that is looked up, or null, holds what the object holds further down. -/
theorem under?_of_lookupOrNull {document value : Document} {key next : String} {rest : List String}
    (h : document.lookupOrNull key = .ok value) :
    document.under? (key :: next :: rest) = value.under? (next :: rest) := by
  cases document with
  | object fields =>
      rw [lookupOrNull_object] at h
      cases h
      rw [under?, lookup]
      cases Fields.get? fields (.text key) <;> rfl
  | scalar | list => cases h

/-- A field that is looked up is the one that is there, or null. -/
theorem getD_under?_of_lookupOrNull {document value : Document} {key : String}
    (h : document.lookupOrNull key = .ok value) : (document.under? [key]).getD null = value := by
  cases document with
  | object fields =>
      rw [lookupOrNull_object] at h
      cases h
      rw [under?, lookup]
      cases Fields.get? fields (.text key) <;> rfl
  | scalar | list => cases h

/-- A text that is looked up is there. -/
theorem eq_text_iff_under? {document value : Document} {key text : String}
    (h : document.lookupOrNull key = .ok value) :
    value = .text text ↔ document.under? [key] = some (.text text) := by
  rw [← getD_under?_of_lookupOrNull h]
  cases document.under? [key] <;> simp [null, Document.text]

/-- A field that must be there holds what the object holds further down. -/
theorem under?_of_field {document value : Document} {key : String} (rest : List String)
    (h : document.field key = .ok value) : document.under? (key :: rest) = value.under? rest := by
  unfold field at h
  split at h
  · split at h
    · next hget =>
        cases h
        rw [under?, lookup, hget]
    · cases h
  · cases h

/-- The empty object in place of what counts as nothing holds nothing either. -/
theorem under?_orElse (value : Document) (key : String) (rest : List String) :
    (value.orElse (.object [])).under? (key :: rest) = value.under? (key :: rest) := by
  unfold orElse
  split
  · rfl
  · next hfalsy =>
      cases value with
      | object fields =>
          cases fields with
          | nil => rfl
          | cons => simp [truthy] at hfalsy
      | scalar | list => rfl

end Document

end MonitorOperator
