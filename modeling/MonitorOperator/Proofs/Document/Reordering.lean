import Mathlib.Data.List.Forall2
import Mathlib.Data.List.Nodup
import Mathlib.Data.List.Perm.Basic
import MonitorOperator.Document.Sorted
import MonitorOperator.Proofs.Decimal.Canonical
import MonitorOperator.Proofs.Document.Fields

/-!
# Documents up to the order of fields

`Document.Reordered` relates documents that differ only in the order of the fields of their objects.
Documents that are JSON, with distinct texts as keys, can be sorted, and they have one sorted form
exactly if they are reordered (`Document.IsJson.reordered_iff`).
-/

namespace MonitorOperator

/-- The scalar has a JSON form of its own. -/
def Scalar.IsJson : Scalar → Prop
  | .real value => value.IsCanonical
  | _ => True

@[simp] theorem Scalar.isJson_text (value : String) : (Scalar.text value).IsJson := trivial

@[simp] theorem Scalar.isJson_integer (value : Int) : (Scalar.integer value).IsJson := trivial

@[simp] theorem Scalar.isJson_boolean (value : Bool) : (Scalar.boolean value).IsJson := trivial

namespace Document

/-- The document is JSON: the keys of its objects are texts and distinct. -/
inductive IsJson : Document → Prop where
  | scalar {value : Scalar} : value.IsJson → IsJson (.scalar value)
  | list {items : List Document} : (∀ item ∈ items, IsJson item) → IsJson (.list items)
  | object {entries : Keyed Document} :
      (entries.map (·.1)).Nodup → (∀ entry ∈ entries, IsJson entry.2) → IsJson (.ofFields entries)

/-- The documents are the same but for the order of the fields of objects. -/
inductive Reordered : Document → Document → Prop where
  | scalar (value : Scalar) : Reordered (.scalar value) (.scalar value)
  | list {lefts rights : List Document} :
      lefts.length = rights.length → (∀ pair ∈ lefts.zip rights, Reordered pair.1 pair.2) →
      Reordered (.list lefts) (.list rights)
  | object {fields permuted others : Fields} :
      fields.Perm permuted → permuted.map (·.1) = others.map (·.1) →
      (∀ pair ∈ permuted.zip others, Reordered pair.1.2 pair.2.2) →
      Reordered (.object fields) (.object others)

/-- Two lists have the same image if the items at each position have. -/
theorem map_eq_map_iff_forall₂ {α β γ : Type} {left : α → γ} {right : β → γ} {lefts : List α}
    {rights : List β} :
    lefts.map left = rights.map right ↔
      List.Forall₂ (fun first second => left first = right second) lefts rights := by
  rw [← List.forall₂_eq_eq_eq, List.forall₂_map_left_iff, List.forall₂_map_right_iff]

/-- A relation between the items of two lists may use that they are items. -/
theorem forall₂_imp_mem {α β : Type} {old new : α → β → Prop} {lefts : List α} {rights : List β}
    (h : List.Forall₂ old lefts rights)
    (himp : ∀ left ∈ lefts, ∀ right ∈ rights, old left right → new left right) :
    List.Forall₂ new lefts rights := by
  obtain ⟨hlength, hpairs⟩ := List.forall₂_iff_zip.1 h
  refine List.forall₂_iff_zip.2 ⟨hlength, fun hpair => ?_⟩
  obtain ⟨hleft, hright⟩ := List.of_mem_zip hpair
  exact himp _ hleft _ hright (hpairs hpair)

section Sorting

/-- An entry of an object as a field. -/
def fieldOf (entry : String × Document) : Scalar × Document :=
  (.text entry.1, entry.2)

/-- Entries are told apart as fields. -/
theorem fieldOf_injective : Function.Injective fieldOf := by
  rintro ⟨key, value⟩ ⟨other, another⟩ h
  simpa [fieldOf] using h

/-- The entries in the order of their keys. -/
def inOrder (entries : Keyed Document) : Keyed Document :=
  entries.mergeSort fun left right => !decide (right.1 < left.1)

/-- The order of entries does not change which there are. -/
theorem inOrder_perm (entries : Keyed Document) : (inOrder entries).Perm entries :=
  List.mergeSort_perm _ _

/-- Entries with distinct keys have one order. -/
theorem inOrder_eq_of_perm {entries others : Keyed Document} (hperm : entries.Perm others)
    (hdistinct : (entries.map (·.1)).Nodup) : inOrder entries = inOrder others := by
  have hsorted : ∀ entries : Keyed Document,
      (inOrder entries).Pairwise fun left right => !decide (right.1 < left.1) := by
    refine List.pairwise_mergeSort ?_ ?_
    · intro first second third
      simp only [Bool.not_eq_eq_eq_not, Bool.not_true, decide_eq_false_iff_not]
      intro hfirst hsecond hless
      exact String.le_trans (String.not_lt.1 hfirst) (String.not_lt.1 hsecond) hless
    · intro left right
      simp only [Bool.or_eq_true, Bool.not_eq_eq_eq_not, Bool.not_true, decide_eq_false_iff_not]
      exact (String.le_total left.1 right.1).imp String.not_lt.2 String.not_lt.2
  have hsame := (inOrder_perm entries).trans (hperm.trans (inOrder_perm others).symm)
  refine hsame.eq_of_pairwise ?_ (hsorted entries) (hsorted others)
  intro left right hleft hright hle hge
  have hkeys : left.1 = right.1 := by
    simp only [Bool.not_eq_eq_eq_not, Bool.not_true, decide_eq_false_iff_not] at hle hge
    exact String.le_antisymm (String.not_lt.1 hle) (String.not_lt.1 hge)
  refine List.inj_on_of_nodup_map hdistinct ?_ ?_ hkeys
  · exact (inOrder_perm entries).subset hleft
  · exact (hperm.trans (inOrder_perm others).symm).symm.subset hright

/-- Fields with text keys can be put in order. -/
theorem sort?_map_fieldOf (entries : Keyed Document) :
    Fields.sort? (entries.map fieldOf) = some ((inOrder entries).map fieldOf) := by
  have hsortable : Fields.sortable (entries.map fieldOf) = true := by
    match entries with
    | [] | [_] => rfl
    | first :: second :: rest => simp [Fields.sortable, fieldOf, Scalar.comparable]
  rw [Fields.sort?, if_pos hsortable, inOrder, List.map_mergeSort]
  exact fun _ _ _ _ => rfl

/-- The document with its fields in the order of their keys, if it can be sorted. -/
def arranged (document : Document) : Document :=
  document.sorted?.getD .null

/-- Entries with their values arranged. -/
def arrangedValues (entries : Keyed Document) : Keyed Document :=
  entries.map fun entry => (entry.1, entry.2.arranged)

/-- Arranging values leaves the keys alone. -/
@[simp] theorem keys_arrangedValues (entries : Keyed Document) :
    (arrangedValues entries).map (·.1) = entries.map (·.1) := by
  rw [arrangedValues, List.map_map]
  rfl

/-- A list can be sorted if its items can. -/
theorem sorted?_list {items : List Document}
    (h : ∀ item ∈ items, item.sorted? = some item.arranged) :
    (list items).sorted? = some (.list (items.map arranged)) := by
  have hitems : sortedItems? items = some (items.map arranged) := by
    induction items with
    | nil => rfl
    | cons item items ih =>
        obtain ⟨hfirst, hrest⟩ := List.forall_mem_cons.1 h
        simp [sortedItems?, ih hrest, hfirst]
  rw [sorted?, hitems, Option.map_some]

/-- An object with text keys can be sorted if its values can. -/
theorem sorted?_ofFields {entries : Keyed Document}
    (h : ∀ entry ∈ entries, entry.2.sorted? = some entry.2.arranged) :
    (ofFields entries).sorted? = some (ofFields (inOrder (arrangedValues entries))) := by
  have hfields : sortedFields? (entries.map fieldOf) =
      some ((arrangedValues entries).map fieldOf) := by
    induction entries with
    | nil => rfl
    | cons entry entries ih =>
        obtain ⟨hfirst, hrest⟩ := List.forall_mem_cons.1 h
        simp only [List.map_cons, fieldOf, sortedFields?, hfirst, ih hrest]
        rfl
  show (sortedFields? (entries.map fieldOf)).bind _ = _
  rw [hfields, Option.bind_some, sort?_map_fieldOf]
  rfl

/-- JSON can be sorted. -/
theorem IsJson.sorted?_eq {document : Document} (h : document.IsJson) :
    document.sorted? = some document.arranged := by
  induction h with
  | scalar _ => rfl
  | list _ ih => rw [arranged, sorted?_list ih, Option.getD_some]
  | object _ _ ih => rw [arranged, sorted?_ofFields ih, Option.getD_some]

/-- A JSON list is arranged item by item. -/
theorem arranged_list {items : List Document} (h : ∀ item ∈ items, item.IsJson) :
    (list items).arranged = .list (items.map arranged) := by
  rw [arranged, sorted?_list fun item hitem => (h item hitem).sorted?_eq, Option.getD_some]

/-- A JSON object is arranged value by value, and its fields are put in order. -/
theorem arranged_ofFields {entries : Keyed Document} (h : ∀ entry ∈ entries, entry.2.IsJson) :
    (ofFields entries).arranged = ofFields (inOrder (arrangedValues entries)) := by
  rw [arranged, sorted?_ofFields fun entry hentry => (h entry hentry).sorted?_eq, Option.getD_some]

end Sorting

section Inversion

/-- The entries on both sides have the same keys, and their values are related. -/
def Entrywise (related : Document → Document → Prop) : Keyed Document → Keyed Document → Prop :=
  List.Forall₂ fun left right => left.1 = right.1 ∧ related left.2 right.2

/-- Entries on both sides have the same keys. -/
theorem Entrywise.keys {related : Document → Document → Prop} {lefts rights : Keyed Document}
    (h : Entrywise related lefts rights) : lefts.map (·.1) = rights.map (·.1) := by
  induction h with
  | nil => rfl
  | cons hfirst _ ih => rw [List.map_cons, List.map_cons, hfirst.1, ih]

/-- A list is a reordering of a list, item by item. -/
theorem reordered_list_iff {items : List Document} {other : Document} :
    Reordered (.list items) other ↔
      ∃ others, other = .list others ∧ List.Forall₂ Reordered items others := by
  constructor
  · intro h
    cases h with
    | list hlength hitems =>
        exact ⟨_, rfl, List.forall₂_iff_zip.2 ⟨hlength, fun hpair => hitems _ hpair⟩⟩
  · rintro ⟨others, rfl, hitems⟩
    obtain ⟨hlength, hpairs⟩ := List.forall₂_iff_zip.1 hitems
    exact .list hlength fun _ hpair => hpairs hpair

/-- Lists of one item each are reorderings if the items are. -/
@[simp] theorem reordered_singleton_iff {item other : Document} :
    Reordered (.list [item]) (.list [other]) ↔ Reordered item other := by
  simp [reordered_list_iff]

/-- A document is a reordering of itself. -/
@[simp] theorem Reordered.refl (document : Document) : Reordered document document := by
  match document with
  | .scalar value => exact .scalar value
  | .list items =>
      refine reordered_list_iff.2 ⟨items, rfl, List.forall₂_same.2 fun item hitem => ?_⟩
      exact Reordered.refl item
  | .object fields =>
      have hvalues : List.Forall₂ (fun field other => Reordered field.2 other.2) fields fields :=
        List.forall₂_same.2 fun field hfield => Reordered.refl field.2
      exact .object (.refl fields) rfl fun pair hpair => (List.forall₂_iff_zip.1 hvalues).2 hpair
termination_by sizeOf document
decreasing_by
  · have hsmall := List.sizeOf_lt_of_mem hitem
    simp only [list.sizeOf_spec]
    omega
  · obtain ⟨key, value⟩ := field
    have hsmall := List.sizeOf_lt_of_mem hfield
    simp only [Prod.mk.sizeOf_spec, object.sizeOf_spec] at hsmall ⊢
    omega

/-- Fields under the keys of entries are entries, too. -/
theorem exists_entrywise {related : Document → Document → Prop} {entries : Keyed Document}
    {fields : Fields} (hkeys : (entries.map fieldOf).map (·.1) = fields.map (·.1))
    (hvalues : ∀ pair ∈ (entries.map fieldOf).zip fields, related pair.1.2 pair.2.2) :
    ∃ others, fields = others.map fieldOf ∧ Entrywise related entries others := by
  induction entries generalizing fields with
  | nil =>
      cases fields with
      | nil => exact ⟨[], rfl, .nil⟩
      | cons field fields => cases hkeys
  | cons entry entries ih =>
      cases fields with
      | nil => cases hkeys
      | cons field fields =>
          simp only [List.map_cons, List.cons.injEq, List.zip_cons_cons, List.forall_mem_cons]
            at hkeys hvalues
          obtain ⟨others, rfl, hothers⟩ := ih hkeys.2 hvalues.2
          refine ⟨(entry.1, field.2) :: others, ?_, .cons ⟨rfl, hvalues.1⟩ hothers⟩
          rw [List.map_cons, fieldOf, show Scalar.text entry.1 = field.1 from hkeys.1]

/-- Entries that are related have related values at each position. -/
theorem Entrywise.zip {related : Document → Document → Prop} {lefts rights : Keyed Document}
    (h : Entrywise related lefts rights) :
    ∀ pair ∈ (lefts.map fieldOf).zip (rights.map fieldOf), related pair.1.2 pair.2.2 := by
  induction h with
  | nil => simp
  | cons hfirst _ ih =>
      simp only [List.map_cons, List.zip_cons_cons, List.forall_mem_cons]
      exact ⟨hfirst.2, ih⟩

/-- An object with text keys is a reordering of another one if their entries, once in the same
order, are reorderings of each other. -/
theorem reordered_ofFields_iff {entries : Keyed Document} {other : Document} :
    Reordered (ofFields entries) other ↔
      ∃ permuted others, other = ofFields others ∧ entries.Perm permuted ∧
        Entrywise Reordered permuted others := by
  constructor
  · intro h
    generalize hdocument : ofFields entries = document at h
    cases h with
    | scalar _ | list _ _ => cases hdocument
    | @object fields permuted others hperm hkeys hvalues =>
        obtain rfl : entries.map fieldOf = fields := object.inj hdocument
        obtain ⟨permuted, rfl, hpermuted⟩ :=
          (congrFun₂ (List.eq_map_comp_perm fieldOf) permuted entries).mpr hperm.symm
        obtain ⟨others, rfl, hothers⟩ := exists_entrywise hkeys hvalues
        exact ⟨permuted, others, rfl, hpermuted.symm, hothers⟩
  · rintro ⟨permuted, others, rfl, hperm, hothers⟩
    refine .object (hperm.map fieldOf) ?_ hothers.zip
    have hkeys := congrArg (List.map Scalar.text) hothers.keys
    simpa [List.map_map, Function.comp_def, fieldOf] using hkeys

/-- Only a scalar is a reordering of itself. -/
theorem reordered_scalar_iff {value : Scalar} {other : Document} :
    Reordered (.scalar value) other ↔ other = .scalar value := by
  constructor
  · intro h
    cases h
    rfl
  · rintro rfl
    exact .scalar value

/-- Texts are reorderings only of themselves. -/
@[simp] theorem reordered_text_iff {value other : String} :
    Reordered (.text value) (.text other) ↔ value = other := by
  rw [text, reordered_scalar_iff]
  simp [text, eq_comm]

/-- Integers are reorderings only of themselves. -/
@[simp] theorem reordered_integer_iff {value other : Int} :
    Reordered (.integer value) (.integer other) ↔ value = other := by
  rw [integer, reordered_scalar_iff]
  simp [integer, eq_comm]

/-- A scalar document is JSON if the scalar is. -/
@[simp] theorem isJson_scalar_iff {value : Scalar} : IsJson (.scalar value) ↔ value.IsJson := by
  constructor
  · intro h
    cases h with
    | scalar hvalue => exact hvalue
  · exact .scalar

/-- The items of a JSON list are JSON. -/
@[simp] theorem isJson_list_iff {items : List Document} :
    IsJson (.list items) ↔ ∀ item ∈ items, IsJson item := by
  constructor
  · intro h
    cases h with
    | list hitems => exact hitems
  · exact .list

/-- A JSON object has distinct texts as keys and JSON as values. -/
theorem isJson_object_iff {fields : Fields} :
    IsJson (.object fields) ↔
      ∃ entries : Keyed Document, fields = entries.map fieldOf ∧ (entries.map (·.1)).Nodup ∧
        ∀ entry ∈ entries, IsJson entry.2 := by
  constructor
  · intro h
    generalize hdocument : object fields = document at h
    cases h with
    | scalar _ | list _ => cases hdocument
    | object hdistinct hvalues => exact ⟨_, object.inj hdocument, hdistinct, hvalues⟩
  · rintro ⟨entries, rfl, hdistinct, hvalues⟩
    exact .object hdistinct hvalues

/-- An object made of distinct texts and JSON is JSON. -/
@[simp] theorem isJson_ofFields_iff {entries : Keyed Document} :
    IsJson (ofFields entries) ↔
      (entries.map (·.1)).Nodup ∧ ∀ entry ∈ entries, IsJson entry.2 := by
  constructor
  · intro h
    obtain ⟨others, hsame, hothers⟩ := isJson_object_iff.1 h
    obtain rfl : entries = others := fieldOf_injective.list_map hsame
    exact hothers
  · exact fun ⟨hdistinct, hvalues⟩ => .object hdistinct hvalues

end Inversion

section Canonical

/-- Arranged JSON is JSON. -/
theorem IsJson.arranged {document : Document} (h : document.IsJson) : document.arranged.IsJson := by
  induction h with
  | scalar hvalue => exact .scalar hvalue
  | list hitems ih =>
      rw [arranged_list hitems]
      exact .list (List.forall_mem_map.2 ih)
  | @object entries hdistinct hvalues ih =>
      rw [arranged_ofFields hvalues]
      refine .object ?_ ?_
      · rw [((inOrder_perm _).map _).nodup_iff, keys_arrangedValues]
        exact hdistinct
      · intro entry hentry
        obtain ⟨value, hvalue, rfl⟩ := List.mem_map.1 ((inOrder_perm _).subset hentry)
        exact ih value hvalue

/-- Reordered JSON is arranged in the same way. -/
theorem Reordered.arranged_eq {left right : Document} (h : Reordered left right)
    (hleft : left.IsJson) (hright : right.IsJson) : left.arranged = right.arranged := by
  induction hleft generalizing right with
  | scalar _ => rw [reordered_scalar_iff.1 h]
  | @list items hitems ih =>
      obtain ⟨others, rfl, hpairs⟩ := reordered_list_iff.1 h
      have hothers := isJson_list_iff.1 hright
      rw [arranged_list hitems, arranged_list hothers]
      refine congrArg Document.list (map_eq_map_iff_forall₂.2 (forall₂_imp_mem hpairs ?_))
      exact fun item hitem other hother hsame => ih item hitem hsame (hothers other hother)
  | @object entries hdistinct hvalues ih =>
      obtain ⟨permuted, others, rfl, hperm, hpairs⟩ := reordered_ofFields_iff.1 h
      obtain ⟨-, hothers⟩ := isJson_ofFields_iff.1 hright
      have hsame : arrangedValues permuted = arrangedValues others := by
        refine map_eq_map_iff_forall₂.2 (forall₂_imp_mem hpairs ?_)
        rintro entry hentry other hother ⟨hkey, hvalue⟩
        exact Prod.ext hkey (ih entry (hperm.symm.subset hentry) hvalue (hothers other hother))
      rw [arranged_ofFields hvalues, arranged_ofFields hothers, ← hsame]
      exact congrArg ofFields (inOrder_eq_of_perm (hperm.map _) (by rwa [keys_arrangedValues]))

/-- JSON that is arranged in the same way is reordered. -/
theorem reordered_of_arranged_eq {left right : Document} (hleft : left.IsJson)
    (hright : right.IsJson) (h : left.arranged = right.arranged) : Reordered left right := by
  induction hleft generalizing right with
  | @scalar value _ =>
      cases hright with
      | scalar _ => exact reordered_scalar_iff.2 h.symm
      | list hothers => rw [arranged_list hothers] at h; cases h
      | object _ hothers => rw [arranged_ofFields hothers] at h; cases h
  | @list items hitems ih =>
      rw [arranged_list hitems] at h
      cases hright with
      | scalar _ => cases h
      | @list others hothers =>
          rw [arranged_list hothers, list.injEq, map_eq_map_iff_forall₂] at h
          refine reordered_list_iff.2 ⟨others, rfl, forall₂_imp_mem h ?_⟩
          exact fun item hitem other hother hsame => ih item hitem (hothers other hother) hsame
      | object _ hothers => rw [arranged_ofFields hothers] at h; cases h
  | @object entries _ hvalues ih =>
      rw [arranged_ofFields hvalues] at h
      cases hright with
      | scalar _ => cases h
      | list hothers => rw [arranged_list hothers] at h; cases h
      | @object others _ hothers =>
          rw [arranged_ofFields hothers] at h
          have horder : inOrder (arrangedValues entries) = inOrder (arrangedValues others) :=
            fieldOf_injective.list_map (object.inj h)
          have hperm : (arrangedValues others).Perm (arrangedValues entries) :=
            (inOrder_perm _).symm.trans (horder ▸ inOrder_perm _)
          -- The entries on the left can be put in the order of those on the right.
          obtain ⟨permuted, hsame, hpermuted⟩ :=
            (congrFun₂ (List.eq_map_comp_perm _) (arrangedValues others) entries).mpr hperm
          refine reordered_ofFields_iff.2 ⟨permuted, others, rfl, hpermuted.symm, ?_⟩
          refine forall₂_imp_mem (map_eq_map_iff_forall₂.1 hsame.symm) ?_
          intro entry hentry other hother hpair
          obtain ⟨hkey, hvalue⟩ := Prod.mk.inj hpair
          exact ⟨hkey, ih entry (hpermuted.subset hentry) (hothers other hother) hvalue⟩

/-- JSON is reordered exactly if it is arranged in the same way. -/
theorem IsJson.reordered_iff {left right : Document} (hleft : left.IsJson)
    (hright : right.IsJson) : Reordered left right ↔ left.arranged = right.arranged :=
  ⟨fun h => h.arranged_eq hleft hright, reordered_of_arranged_eq hleft hright⟩

end Canonical

end Document

end MonitorOperator
