import MonitorOperator.Proofs.Document.ReorderedFields
import MonitorOperator.Workload.Fingerprint

/-!
# Two readings of one document

Taking apart two documents that are the same JSON up to the order of fields (`SameJson`) ends in one
fault or in parts that are the same again (`Matched`). The fields that are made of pairs may have
keys that are no texts, and then stand in one order (`FieldsAlike`). What is put together of such
parts has one sorted form, if it has any, and so one fingerprint (`Alike`).
-/

namespace MonitorOperator

/-- Both results are values that are related, or both are faults that are. -/
inductive Matched {α β : Type} (faults : Fault → Fault → Prop) (values : α → β → Prop) :
    Except Fault α → Except Fault β → Prop where
  | ok {left : α} {right : β} : values left right → Matched faults values (.ok left) (.ok right)
  | error {fault other : Fault} :
      faults fault other → Matched faults values (.error fault) (.error other)

namespace Matched

variable {α β γ δ : Type} {faults : Fault → Fault → Prop} {values : α → β → Prop}
  {results : γ → δ → Prop} {left : Except Fault α} {right : Except Fault β}

/-- What is done with related values has related results if each pair of values leads to them. -/
theorem bind {first : α → Except Fault γ} {second : β → Except Fault δ}
    (h : Matched faults values left right)
    (hrest : ∀ value other, values value other →
      Matched faults results (first value) (second other)) :
    Matched faults results (left >>= first) (right >>= second) := by
  cases h with
  | ok hvalues => exact hrest _ _ hvalues
  | error hfaults => exact .error hfaults

/-- Results are also related by what follows from their relation. -/
theorem mono {more : Fault → Fault → Prop} {wider : α → β → Prop}
    (h : Matched faults values left right)
    (hfaults : ∀ fault other, faults fault other → more fault other)
    (hvalues : ∀ value other, values value other → wider value other) :
    Matched more wider left right := by
  cases h with
  | ok hrelated => exact .ok (hvalues _ _ hrelated)
  | error hrelated => exact .error (hfaults _ _ hrelated)

/-- A value stands beside a value. -/
theorem exists_ok {value : α} (h : Matched faults values left right) (hleft : left = .ok value) :
    ∃ other, right = .ok other ∧ values value other := by
  subst hleft
  cases h with
  | ok hvalues => exact ⟨_, rfl, hvalues⟩

/-- Equal results are related if each value is related to itself. -/
theorem of_eq {same : α → α → Prop} {result other : Except Fault α} (h : result = other)
    (hsame : ∀ value, result = .ok value → same value value) : Matched Eq same result other := by
  subst h
  cases result with
  | ok value => exact .ok (hsame value rfl)
  | error fault => exact .error rfl

end Matched

/-- What stands on the right of a pairing has a partner on the left. -/
theorem exists_of_forall₂_of_mem {α β : Type} {related : α → β → Prop} {lefts : List α}
    {rights : List β} (h : List.Forall₂ related lefts rights) {right : β} (hright : right ∈ rights) :
    ∃ left ∈ lefts, related left right := by
  induction h with
  | nil => cases hright
  | cons hfirst _ ih =>
      rcases List.mem_cons.1 hright with rfl | hlater
      · exact ⟨_, List.mem_cons_self, hfirst⟩
      · obtain ⟨left, hleft, hrelated⟩ := ih hlater
        exact ⟨left, List.mem_cons_of_mem _ hleft, hrelated⟩

namespace Document

section Reordering

variable {left right : Document}

/-- A reordering counts as present if the document does. -/
theorem Reordered.truthy_eq (h : Reordered left right) : left.truthy = right.truthy := by
  have hempty : ∀ {α β : Type} {items : List α} {others : List β},
      items.length = others.length → items.isEmpty = others.isEmpty := by
    intro α β items others hlength
    cases items <;> cases others <;> simp_all
  cases h with
  | scalar value => rfl
  | list hlength _ => rw [truthy, truthy, hempty hlength]
  | @object fields permuted others hperm hkeys _ =>
      have hlength : permuted.length = others.length := by
        simpa using congrArg List.length hkeys
      rw [truthy, truthy, hempty (hperm.length_eq.trans hlength)]

/-- A reordering of JSON is JSON. -/
theorem Reordered.isJson (h : Reordered left right) (hleft : left.IsJson) : right.IsJson := by
  induction hleft generalizing right with
  | scalar hvalue =>
      obtain rfl := reordered_scalar_iff.1 h
      exact .scalar hvalue
  | @list items hitems ih =>
      obtain ⟨others, rfl, hpairs⟩ := reordered_list_iff.1 h
      refine .list fun other hother => ?_
      obtain ⟨item, hitem, hsame⟩ := exists_of_forall₂_of_mem hpairs hother
      exact ih item hitem hsame
  | @object entries hdistinct hvalues ih =>
      obtain ⟨permuted, others, rfl, hperm, hpairs⟩ := reordered_ofFields_iff.1 h
      refine .object ?_ fun other hother => ?_
      · rw [← hpairs.keys]
        exact (hperm.map _).nodup_iff.1 hdistinct
      · obtain ⟨entry, hentry, -, hsame⟩ := exists_of_forall₂_of_mem hpairs hother
        exact ih entry (hperm.symm.subset hentry) hsame

/-- A reordering is converted to the same integer. -/
theorem Reordered.toInteger_eq (h : Reordered left right) : left.toInteger = right.toInteger := by
  cases h with
  | scalar | list | object => rfl

/-- A reordering is converted to the same key. -/
theorem Reordered.toKey_eq (h : Reordered left right) : left.toKey = right.toKey := by
  cases h with
  | scalar | list | object => rfl

end Reordering

/-- Null is JSON. -/
theorem isJson_null : IsJson .null := .scalar trivial

/-- A text is JSON. -/
theorem isJson_text (value : String) : IsJson (.text value) := .scalar trivial

/-- The empty object is JSON. -/
theorem isJson_empty : IsJson (.object []) :=
  isJson_object_iff.2 ⟨[], rfl, List.nodup_nil, by simp⟩

/-- What is found in a JSON object is JSON. -/
theorem IsJson.of_get? {fields : Fields} {key : String} {value : Document}
    (h : IsJson (.object fields)) (hvalue : Fields.get? fields (.text key) = some value) :
    value.IsJson := by
  obtain ⟨entries, rfl, hdistinct, hvalues⟩ := isJson_object_iff.1 h
  rw [show Fields.get? (entries.map fieldOf) (.text key) = Keyed.get? entries key from
    Fields.get?_ofKeyed entries key, Keyed.get?_eq_some_iff hdistinct] at hvalue
  exact hvalues _ hvalue

/-- The documents are JSON and the same up to the order of fields. -/
structure SameJson (left right : Document) : Prop where
  isJson : left.IsJson
  reordered : Reordered left right

/-- Two objects have their keys in one order. -/
def KeepsOrder (left right : Document) : Prop :=
  ∀ fields others, left = .object fields → right = .object others →
    fields.map (·.1) = others.map (·.1)

/-- The fields have the same keys in one order, and their values are related. -/
def Fieldwise (related : Document → Document → Prop) : Fields → Fields → Prop :=
  List.Forall₂ fun field other => field.1 = other.1 ∧ related field.2 other.2

/-- The fields make the same object: one of JSON up to their order, or one with the same keys in one
order and values that are the same JSON. -/
inductive FieldsAlike (left right : Fields) : Prop where
  | json : SameJson (.object left) (.object right) → FieldsAlike left right
  | inOrder : Fieldwise SameJson left right → FieldsAlike left right

/-- Two objects consist of the same elements if they have their keys in one order. -/
theorem elements_object_eq {fields others : Fields} (h : fields.map (·.1) = others.map (·.1)) :
    (object fields).elements = (object others).elements := by
  have hscalars := congrArg (List.map Document.scalar) h
  rw [List.map_map, List.map_map] at hscalars
  exact congrArg Except.ok hscalars

namespace SameJson

variable {left right : Document}

/-- JSON is the same as itself. -/
theorem refl (h : left.IsJson) : SameJson left left := ⟨h, .refl left⟩

/-- The document on the right is JSON, too. -/
theorem isJson_right (h : SameJson left right) : right.IsJson := h.reordered.isJson h.isJson

/-- The items of two lists are the same. -/
theorem items {items others : List Document} (h : SameJson (.list items) (.list others)) :
    List.Forall₂ SameJson items others := by
  obtain ⟨_, ⟨⟩, hpairs⟩ := reordered_list_iff.1 h.reordered
  exact forall₂_imp_mem hpairs fun item hitem _ _ hsame =>
    ⟨isJson_list_iff.1 h.isJson item hitem, hsame⟩

/-- What is found under a text in two objects is the same. -/
theorem get? {fields others : Fields} (h : SameJson (.object fields) (.object others))
    (key : String) :
    Option.Rel SameJson (Fields.get? fields (.text key)) (Fields.get? others (.text key)) := by
  have hfound := (h.isJson.reordered_object_iff h.isJson_right).1 h.reordered key
  have hjson : ∀ value, Fields.get? fields (.text key) = some value → value.IsJson :=
    fun value hvalue => h.isJson.of_get? hvalue
  generalize Fields.get? fields (.text key) = value at *
  generalize Fields.get? others (.text key) = other at *
  cases hfound with
  | none => exact .none
  | some hsame => exact .some ⟨hjson _ rfl, hsame⟩

/-- Defaults for what counts as nothing are the same if they are. -/
theorem orElse {fallback : Document} (h : SameJson left right) (hfallback : fallback.IsJson) :
    SameJson (left.orElse fallback) (right.orElse fallback) := by
  unfold Document.orElse
  rw [h.reordered.truthy_eq]
  split
  · exact h
  · exact .refl hfallback

/-- What is found under a text in two objects, or the same default, is the same. -/
theorem getD_get? {fields others : Fields} {fallback : Document}
    (h : SameJson (.object fields) (.object others)) (key : String) (hfallback : fallback.IsJson) :
    SameJson ((Fields.get? fields (.text key)).getD fallback)
      ((Fields.get? others (.text key)).getD fallback) := by
  have hfound := h.get? key
  generalize Fields.get? fields (.text key) = value at *
  generalize Fields.get? others (.text key) = other at *
  cases hfound with
  | none => exact .refl hfallback
  | some hsame => exact hsame

/-- Two documents are looked up alike. -/
theorem lookupOr {fallback : Document} (h : SameJson left right) (key : String)
    (hfallback : fallback.IsJson) :
    Matched Eq SameJson (left.lookupOr key fallback) (right.lookupOr key fallback) := by
  obtain ⟨hjson, hreordered⟩ := h
  cases hreordered with
  | scalar | list => exact .error rfl
  | object hperm hkeys hvalues =>
      exact .ok (getD_get? ⟨hjson, .object hperm hkeys hvalues⟩ key hfallback)

/-- What is the same as an object is one. -/
theorem exists_object {fields : Fields} (h : SameJson (.object fields) right) :
    ∃ others, right = .object others := by
  obtain ⟨-, hreordered⟩ := h
  cases hreordered with
  | object => exact ⟨_, rfl⟩

/-- Two documents consist of the same elements, unless they are objects with their keys in another
order. -/
theorem elements (h : SameJson left right) (hobject : KeepsOrder left right) :
    Matched Eq (List.Forall₂ SameJson) left.elements right.elements := by
  have hjson := h.isJson
  have hself : ∀ {elements : List Document}, (∀ element ∈ elements, element.IsJson) →
      List.Forall₂ SameJson elements elements :=
    fun helements => List.forall₂_same.2 fun element helement => .refl (helements element helement)
  cases hjson with
  | @scalar value _ =>
      obtain rfl := reordered_scalar_iff.1 h.reordered
      refine .of_eq rfl fun elements helements => hself ?_
      cases value with
      | text characters =>
          obtain rfl := Except.ok.inj helements
          simp
      | null | boolean | integer | real => cases helements
  | list _ =>
      obtain ⟨others, rfl, -⟩ := reordered_list_iff.1 h.reordered
      exact .ok h.items
  | object _ _ =>
      obtain ⟨others, rfl⟩ := h.exists_object
      refine .of_eq (elements_object_eq (hobject _ _ rfl rfl)) fun elements helements => hself ?_
      obtain rfl := Except.ok.inj helements
      simp only [List.map_map, List.mem_map]
      rintro _ ⟨entry, -, rfl⟩
      exact .scalar (Scalar.isJson_text entry.1)

/-- Two elements stand for the same field, unless they are objects with their keys in another
order. -/
theorem toField (h : SameJson left right) (hobject : KeepsOrder left right) (index : Nat) :
    Matched Eq (fun field other => field.1 = other.1 ∧ SameJson field.2 other.2)
      (left.toField index) (right.toField index) := by
  refine (h.elements hobject).bind fun parts others hparts => ?_
  match hparts with
  | .nil => exact .error rfl
  | .cons _ .nil => exact .error rfl
  | .cons hkey (.cons hvalue .nil) =>
      refine Matched.bind (.of_eq hkey.reordered.toKey_eq fun _ _ => rfl) ?_
      rintro key _ rfl
      exact .ok ⟨rfl, hvalue⟩
  | .cons _ (.cons _ (.cons _ hrest)) =>
      refine .error ?_
      simp [hrest.length_eq]

end SameJson

section Pairs

/-- A field put among the same keys leaves them the same. -/
theorem Fieldwise.put {related : Document → Document → Prop} {lefts rights : Fields}
    {value other : Document} (h : Fieldwise related lefts rights) (key : Scalar)
    (hvalue : related value other) :
    Fieldwise related (Fields.put lefts key value) (Fields.put rights key other) := by
  induction h with
  | nil => exact .cons ⟨rfl, hvalue⟩ .nil
  | cons hfirst hrest ih =>
      unfold Fields.put
      rw [hfirst.1]
      split
      · exact .cons ⟨rfl, hvalue⟩ hrest
      · exact .cons hfirst ih

/-- Two lists of pairs stand for the same fields, unless a pair is an object with its keys in
another order. -/
theorem collectFields_matched {items others : List Document} {lefts rights : Fields}
    (hitems : List.Forall₂ (fun item other => SameJson item other ∧ KeepsOrder item other)
      items others)
    (hfields : Fieldwise SameJson lefts rights) (index : Nat) :
    Matched Eq FieldsAlike (collectFields index lefts items) (collectFields index rights others) := by
  induction hitems generalizing lefts rights index with
  | nil => exact .ok (.inOrder hfields)
  | cons hfirst _ ih =>
      refine (hfirst.1.toField hfirst.2 index).bind ?_
      rintro ⟨key, value⟩ ⟨_, other⟩ ⟨rfl, hvalue⟩
      exact ih (hfields.put key hvalue) (index + 1)

/-- Two documents are converted to the same fields, unless one of the pairs in a list is an object
with its keys in another order. -/
theorem SameJson.toFields {left right : Document} (h : SameJson left right)
    (hpairs : ∀ items others, left = .list items → right = .list others →
      List.Forall₂ KeepsOrder items others) :
    Matched Eq FieldsAlike left.toFields right.toFields := by
  have hjson := h.isJson
  cases hjson with
  | @scalar value _ =>
      obtain rfl := reordered_scalar_iff.1 h.reordered
      cases value with
      | text characters =>
          refine collectFields_matched (List.forall₂_same.2 fun element helement => ?_) .nil 0
          obtain ⟨character, -, rfl⟩ := List.mem_map.1 helement
          exact ⟨.refl (.scalar trivial), fun fields _ hfields => by cases hfields⟩
      | null | boolean | integer | real => exact .error rfl
  | @list items _ =>
      obtain ⟨others, rfl, -⟩ := reordered_list_iff.1 h.reordered
      obtain ⟨hlength, hsame⟩ := List.forall₂_iff_zip.1 h.items
      obtain ⟨-, hunchanged⟩ := List.forall₂_iff_zip.1 (hpairs items others rfl rfl)
      have hitems := List.forall₂_iff_zip.2
        ⟨hlength, fun hpair => And.intro (hsame hpair) (hunchanged hpair)⟩
      exact collectFields_matched hitems .nil 0
  | object _ _ =>
      obtain ⟨_, others, rfl, -⟩ := reordered_ofFields_iff.1 h.reordered
      exact .ok (.json h)

/-- A field that is put among two lists of fields leaves them alike. -/
theorem FieldsAlike.put {lefts rights : Fields} {value other : Document}
    (h : FieldsAlike lefts rights) (key : String) (hvalue : SameJson value other) :
    FieldsAlike (Fields.put lefts (.text key) value) (Fields.put rights (.text key) other) := by
  cases h with
  | inOrder hfields => exact .inOrder (hfields.put _ hvalue)
  | json hsame =>
      have hleft : IsJson (.object (Fields.put lefts (.text key) value)) :=
        isJson_put hsame.isJson hvalue.isJson
      have hright : IsJson (.object (Fields.put rights (.text key) other)) :=
        isJson_put hsame.isJson_right hvalue.isJson_right
      refine .json ⟨hleft, (hleft.reordered_object_iff hright).2 fun name => ?_⟩
      rw [Fields.get?_put, Fields.get?_put]
      split
      · exact .some hvalue.reordered
      · exact (hsame.isJson.reordered_object_iff hsame.isJson_right).1 hsame.reordered name

end Pairs

/-- The documents are the same up to the order of fields, and they have one sorted form or none. -/
structure Alike (left right : Document) : Prop where
  reordered : Reordered left right
  sorted?_eq : left.sorted? = right.sorted?

namespace Alike

variable {left right : Document}

/-- A document is as it is. -/
@[simp] theorem refl (document : Document) : Alike document document := ⟨.refl document, rfl⟩

/-- What is the same JSON has one sorted form. -/
theorem of_sameJson (h : SameJson left right) : Alike left right := by
  refine ⟨h.reordered, ?_⟩
  rw [h.isJson.sorted?_eq, h.isJson_right.sorted?_eq,
    (h.isJson.reordered_iff h.isJson_right).1 h.reordered]

/-- Lists are alike if their items are. -/
theorem list {items others : List Document} (h : List.Forall₂ Alike items others) :
    Alike (.list items) (.list others) := by
  constructor
  · exact reordered_list_iff.2 ⟨others, rfl, h.imp fun _ _ hitem => hitem.reordered⟩
  · have hsorted : sortedItems? items = sortedItems? others := by
      induction h with
      | nil => rfl
      | cons hfirst _ ih => rw [sortedItems?, sortedItems?, hfirst.sorted?_eq, ih]
    rw [sorted?, sorted?, hsorted]

/-- Objects with the same keys in one order are alike if their values are. -/
theorem object {fields others : Fields} (h : Fieldwise Alike fields others) :
    Alike (.object fields) (.object others) := by
  constructor
  · refine .object (.refl fields) ?_ fun pair hpair => ?_
    · exact map_eq_map_iff_forall₂.2 (h.imp fun _ _ hfield => hfield.1)
    · exact ((List.forall₂_iff_zip.1 h).2 hpair).2.reordered
  · have hsorted : sortedFields? fields = sortedFields? others := by
      induction h with
      | nil => rfl
      | @cons field other _ _ hfirst _ ih =>
          obtain ⟨hkey, hvalue⟩ := hfirst
          obtain ⟨key, value⟩ := field
          obtain ⟨key', value'⟩ := other
          obtain rfl : key = key' := hkey
          rw [sortedFields?, sortedFields?, hvalue.sorted?_eq, ih]
    rw [sorted?, sorted?, hsorted]

/-- Objects made of entries with the same keys are alike if their values are. -/
theorem ofFields {entries others : Keyed Document} (h : Entrywise Alike entries others) :
    Alike (.ofFields entries) (.ofFields others) := by
  refine object ?_
  rw [Fieldwise, List.forall₂_map_left_iff, List.forall₂_map_right_iff]
  exact h.imp fun _ _ hentry => ⟨congrArg Scalar.text hentry.1, hentry.2⟩

/-- Fields that are alike make objects that are. -/
theorem of_fieldsAlike {fields others : Fields} (h : FieldsAlike fields others) :
    Alike (.object fields) (.object others) := by
  cases h with
  | json hsame => exact of_sameJson hsame
  | inOrder hfields => exact object (hfields.imp fun _ _ hfield => ⟨hfield.1, of_sameJson hfield.2⟩)

/-- Documents that are alike have one fingerprint, or none for the same reason. -/
theorem fingerprint_eq (h : Alike left right) : left.fingerprint = right.fingerprint := by
  rw [fingerprint, fingerprint, canonicalText?, canonicalText?, sortedText?, sortedText?,
    h.sorted?_eq]

end Alike

end Document

end MonitorOperator
