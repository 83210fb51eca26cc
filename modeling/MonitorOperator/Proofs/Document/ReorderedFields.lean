import MonitorOperator.Proofs.Document.Reordering

/-!
# Reordered objects, field by field

Whether two objects with distinct texts as keys are reorderings of each other is decided by what is
found under each key (`reordered_ofFields_iff_get?`), and for objects with the same list of keys by
their values in order (`reordered_ofFields_iff_entrywise`).
-/

namespace MonitorOperator

namespace Keyed

variable {α : Type} {entries others : Keyed α}

/-- Entries in front hide those behind them. -/
theorem get?_append (entries others : Keyed α) (key : String) :
    get? (entries ++ others) key = (get? entries key).or (get? others key) := by
  induction entries with
  | nil => rfl
  | cons entry entries ih =>
      rw [List.cons_append, get?_cons, get?_cons, ih]
      split <;> rfl

/-- An entry that there may be. -/
def optional (key : String) : Option α → Keyed α
  | some value => [(key, value)]
  | none => []

/-- An optional entry is found under its key. -/
theorem get?_optional (key other : String) (value : Option α) :
    get? (optional key value) other = if key = other then value else none := by
  cases value <;> simp [optional, get?_cons]

/-- An optional entry has no other key than its own. -/
theorem notMem_keys_optional {key other : String} (h : other ≠ key) (value : Option α) :
    other ∉ (optional key value).map (·.1) := by
  cases value <;> simp [optional, h]

/-- The keys of entries and an optional one are distinct if those of the entries are and the other
is new. -/
theorem nodup_keys_append_optional {key : String} (hdistinct : (entries.map (·.1)).Nodup)
    (hnew : key ∉ entries.map (·.1)) (value : Option α) :
    ((entries ++ optional key value).map (·.1)).Nodup := by
  cases value with
  | none => simpa [optional] using hdistinct
  | some value =>
      rw [List.map_append, List.nodup_append]
      refine ⟨hdistinct, List.nodup_singleton key, ?_⟩
      rintro other hother _ hmem rfl
      obtain rfl := List.mem_singleton.1 hmem
      exact hnew hother

/-- Among entries with distinct keys, each is found under its key. -/
theorem get?_eq_some_iff (hdistinct : (entries.map (·.1)).Nodup) {key : String} {value : α} :
    get? entries key = some value ↔ (key, value) ∈ entries := by
  induction entries with
  | nil => simp
  | cons entry entries ih =>
      obtain ⟨hnew, hrest⟩ := List.nodup_cons.1 hdistinct
      rw [get?_cons, List.mem_cons]
      split
      · next h =>
          subst h
          constructor
          · rintro ⟨⟩
            exact .inl rfl
          · rintro (heq | hmem)
            · rw [← heq]
            · exact absurd (List.mem_map_of_mem hmem) hnew
      · next h =>
          rw [ih hrest]
          refine ⟨.inr, fun hmem => hmem.resolve_left ?_⟩
          rintro rfl
          exact h rfl

/-- Nothing is found under what is no key. -/
theorem get?_eq_none_iff {key : String} : get? entries key = none ↔ key ∉ entries.map (·.1) := by
  simp only [get?, Option.map_eq_none_iff, List.find?_eq_none, beq_iff_eq, List.mem_map, not_exists,
    not_and]

/-- The order of entries with distinct keys does not matter for what is found. -/
theorem get?_eq_of_perm (hperm : entries.Perm others) (hdistinct : (entries.map (·.1)).Nodup)
    (key : String) : get? entries key = get? others key := by
  refine Option.ext fun value => ?_
  rw [get?_eq_some_iff hdistinct, get?_eq_some_iff ((hperm.map _).nodup_iff.1 hdistinct),
    hperm.mem_iff]

/-- Entries with distinct keys are known from their set and the order of their keys. -/
theorem eq_of_perm_of_keys (hperm : entries.Perm others)
    (hkeys : entries.map (·.1) = others.map (·.1)) (hdistinct : (entries.map (·.1)).Nodup) :
    entries = others := by
  induction entries generalizing others with
  | nil => rw [List.nil_perm.1 hperm]
  | cons entry entries ih =>
      cases others with
      | nil => cases hkeys
      | cons other others =>
          obtain ⟨hkey, hrest⟩ := List.cons.inj hkeys
          obtain rfl : other = entry := by
            refine List.inj_on_of_nodup_map hdistinct ?_ List.mem_cons_self hkey.symm
            exact hperm.symm.subset List.mem_cons_self
          rw [ih (List.perm_cons _ |>.1 hperm) hrest (List.nodup_cons.1 hdistinct).2]

/-- What is there after a value was put was put or was there before. -/
theorem mem_put {key : String} {value : α} {entry : String × α}
    (h : entry ∈ put entries key value) : entry = (key, value) ∨ entry ∈ entries := by
  induction entries with
  | nil => exact .inl (List.mem_singleton.1 h)
  | cons first entries ih =>
      unfold put at h
      split at h
      · exact (List.mem_cons.1 h).imp_right (List.mem_cons_of_mem _)
      · rcases List.mem_cons.1 h with rfl | hlater
        · exact .inr List.mem_cons_self
        · exact (ih hlater).imp_right (List.mem_cons_of_mem _)

/-- Keys stay distinct when a value is put. -/
theorem nodup_keys_put (hdistinct : (entries.map (·.1)).Nodup) (key : String) (value : α) :
    ((put entries key value).map (·.1)).Nodup := by
  induction entries with
  | nil => exact List.nodup_singleton key
  | cons first entries ih =>
      obtain ⟨hnew, hrest⟩ := List.nodup_cons.1 hdistinct
      unfold put
      split
      · next h => exact List.nodup_cons.2 ⟨h ▸ hnew, hrest⟩
      · next h =>
          refine List.nodup_cons.2 ⟨?_, ih hrest⟩
          intro hmem
          obtain ⟨entry, hentry, hkey⟩ := List.mem_map.1 hmem
          rcases mem_put hentry with rfl | hold
          · exact h hkey.symm
          · exact hnew (List.mem_map.2 ⟨entry, hold, hkey⟩)

end Keyed

namespace Document

variable {entries others : Keyed Document}

/-- Objects are told apart by their entries. -/
theorem ofFields_injective : Function.Injective ofFields :=
  fun _ _ h => fieldOf_injective.list_map (object.inj h)

/-- Objects with the same distinct keys are reorderings exactly if their values are. -/
theorem reordered_ofFields_iff_entrywise (hkeys : entries.map (·.1) = others.map (·.1))
    (hdistinct : (entries.map (·.1)).Nodup) :
    Reordered (ofFields entries) (ofFields others) ↔ Entrywise Reordered entries others := by
  rw [reordered_ofFields_iff]
  constructor
  · rintro ⟨permuted, found, hsame, hperm, hvalues⟩
    obtain rfl := ofFields_injective hsame
    rwa [Keyed.eq_of_perm_of_keys hperm (hkeys.trans hvalues.keys.symm) hdistinct]
  · exact fun hvalues => ⟨entries, others, rfl, .refl _, hvalues⟩

/-- Objects with one field each are reorderings if the values are. -/
@[simp] theorem reordered_ofFields_singleton_iff {key : String} {value other : Document} :
    Reordered (ofFields [(key, value)]) (ofFields [(key, other)]) ↔ Reordered value other := by
  refine (reordered_ofFields_iff_entrywise ?_ ?_).trans ?_
  · rfl
  · simp
  · simp [Entrywise]

/-- Related entries are found under the same keys. -/
theorem Entrywise.get? {related : Document → Document → Prop} (h : Entrywise related entries others)
    (key : String) :
    Option.Rel related (Keyed.get? entries key) (Keyed.get? others key) := by
  induction h with
  | nil => exact .none
  | cons hfirst _ ih =>
      rw [Keyed.get?_cons, Keyed.get?_cons, ← hfirst.1]
      split
      · exact .some hfirst.2
      · exact ih

/-- Entries that are found under the same keys can be put in the same order. -/
theorem exists_perm_entrywise {related : Document → Document → Prop}
    (hdistinct : (entries.map (·.1)).Nodup) (hother_distinct : (others.map (·.1)).Nodup)
    (h : ∀ key, Option.Rel related (Keyed.get? entries key) (Keyed.get? others key)) :
    ∃ permuted, entries.Perm permuted ∧ Entrywise related permuted others := by
  induction others generalizing entries with
  | nil =>
      cases entries with
      | nil => exact ⟨[], .refl _, .nil⟩
      | cons entry entries =>
          have hfirst := h entry.1
          rw [Keyed.get?_cons, if_pos rfl] at hfirst
          cases hfirst
  | cons other others ih =>
      obtain ⟨hnew, hothers⟩ := List.nodup_cons.1 hother_distinct
      have hfirst := h other.1
      rw [Keyed.get?_cons other, if_pos rfl] at hfirst
      generalize hfound : Keyed.get? entries other.1 = found at hfirst
      cases hfirst with
      | @some value _ hvalue =>
          -- The entry found under the first key comes first, and the others are as before.
          obtain ⟨before, after, rfl⟩ :=
            List.append_of_mem ((Keyed.get?_eq_some_iff hdistinct).1 hfound)
          have hperm : (before ++ (other.1, value) :: after).Perm
              ((other.1, value) :: (before ++ after)) := List.perm_middle
          have hdistinct' := (hperm.map (·.1)).nodup_iff.1 hdistinct
          obtain ⟨habsent, hrest⟩ := List.nodup_cons.1 hdistinct'
          obtain ⟨permuted, hpermuted, hvalues⟩ := ih hrest hothers (by
            intro key
            have hkey := h key
            rw [Keyed.get?_eq_of_perm hperm hdistinct, Keyed.get?_cons, Keyed.get?_cons] at hkey
            by_cases hsame : other.1 = key
            · rw [Keyed.get?_eq_none_iff.2 (hsame ▸ habsent),
                Keyed.get?_eq_none_iff.2 (hsame ▸ hnew)]
              exact .none
            · rwa [if_neg hsame, if_neg hsame] at hkey)
          exact ⟨(other.1, value) :: permuted, hperm.trans (hpermuted.cons _),
            .cons ⟨rfl, hvalue⟩ hvalues⟩

/-- Objects with distinct keys are reorderings exactly if reorderings are found under each key. -/
theorem reordered_ofFields_iff_get? (hdistinct : (entries.map (·.1)).Nodup)
    (hother_distinct : (others.map (·.1)).Nodup) :
    Reordered (ofFields entries) (ofFields others) ↔
      ∀ key, Option.Rel Reordered (Keyed.get? entries key) (Keyed.get? others key) := by
  rw [reordered_ofFields_iff]
  constructor
  · rintro ⟨permuted, found, hsame, hperm, hvalues⟩ key
    obtain rfl := ofFields_injective hsame
    rw [Keyed.get?_eq_of_perm hperm hdistinct]
    exact hvalues.get? key
  · intro h
    obtain ⟨permuted, hperm, hvalues⟩ := exists_perm_entrywise hdistinct hother_distinct h
    exact ⟨permuted, others, rfl, hperm, hvalues⟩

/-- JSON objects are reorderings exactly if reorderings are found under each key. -/
theorem IsJson.reordered_object_iff {fields permuted : Fields} (h : IsJson (.object fields))
    (hother : IsJson (.object permuted)) :
    Reordered (.object fields) (.object permuted) ↔
      ∀ key : String, Option.Rel Reordered (Fields.get? fields (.text key))
        (Fields.get? permuted (.text key)) := by
  obtain ⟨entries, rfl, hdistinct, -⟩ := isJson_object_iff.1 h
  obtain ⟨others, rfl, hother_distinct, -⟩ := isJson_object_iff.1 hother
  have hfound : ∀ (entries : Keyed Document) (key : String),
      Fields.get? (entries.map fieldOf) (.text key) = Keyed.get? entries key := Fields.get?_ofKeyed
  simp only [hfound]
  exact reordered_ofFields_iff_get? hdistinct hother_distinct

/-- Fields that are left of a JSON object are a JSON object. -/
theorem IsJson.filter {fields : Fields} (h : IsJson (.object fields))
    (keep : Scalar × Document → Bool) : IsJson (.object (fields.filter keep)) := by
  obtain ⟨entries, rfl, hdistinct, hvalues⟩ := isJson_object_iff.1 h
  rw [List.filter_map]
  refine isJson_object_iff.2 ⟨_, rfl, ?_, ?_⟩
  · exact hdistinct.sublist (List.filter_sublist.map _)
  · exact fun entry hentry => hvalues entry (List.mem_of_mem_filter hentry)

/-- Objects with an optional entry under a new key are reorderings exactly if they are without it,
and the optional values are. -/
theorem reordered_append_optional_iff {key : String} {left right : Option Document}
    (hdistinct : (entries.map (·.1)).Nodup) (hother_distinct : (others.map (·.1)).Nodup)
    (hnew : key ∉ entries.map (·.1)) (hother_new : key ∉ others.map (·.1)) :
    Reordered (ofFields (entries ++ Keyed.optional key left))
        (ofFields (others ++ Keyed.optional key right)) ↔
      Reordered (ofFields entries) (ofFields others) ∧ Option.Rel Reordered left right := by
  rw [reordered_ofFields_iff_get? (Keyed.nodup_keys_append_optional hdistinct hnew left)
      (Keyed.nodup_keys_append_optional hother_distinct hother_new right),
    reordered_ofFields_iff_get? hdistinct hother_distinct]
  have hnone := Keyed.get?_eq_none_iff.2 hnew
  have hother_none := Keyed.get?_eq_none_iff.2 hother_new
  simp only [Keyed.get?_append, Keyed.get?_optional]
  constructor
  · intro h
    refine ⟨fun other => ?_, by simpa [hnone, hother_none] using h key⟩
    by_cases hsame : key = other
    · rw [← hsame, hnone, hother_none]
      exact .none
    · simpa [hsame] using h other
  · rintro ⟨hentries, hoptional⟩ other
    by_cases hsame : key = other
    · simpa [← hsame, hnone, hother_none] using hoptional
    · simpa [hsame] using hentries other

/-- Putting a field under a text is putting an entry. -/
theorem put_map_fieldOf (entries : Keyed Document) (key : String) (value : Document) :
    Fields.put (entries.map fieldOf) (.text key) value =
      (Keyed.put entries key value).map fieldOf := by
  induction entries with
  | nil => rfl
  | cons entry entries ih =>
      simp only [List.map_cons, fieldOf, Fields.put, Keyed.put, Scalar.agrees_text, beq_iff_eq]
      by_cases h : entry.1 = key
      · simp [h, fieldOf]
      · simp only [h, ↓reduceIte, List.map_cons, fieldOf]
        rw [← ih]

/-- A field put into a JSON object leaves it JSON if its value is. -/
theorem isJson_put {fields : Fields} {key : String} {value : Document}
    (h : IsJson (.object fields)) (hvalue : value.IsJson) :
    IsJson (.object (Fields.put fields (.text key) value)) := by
  obtain ⟨entries, rfl, hdistinct, hvalues⟩ := isJson_object_iff.1 h
  rw [put_map_fieldOf]
  refine isJson_object_iff.2 ⟨_, rfl, Keyed.nodup_keys_put hdistinct key value, ?_⟩
  intro entry hentry
  rcases Keyed.mem_put hentry with rfl | hold
  · exact hvalue
  · exact hvalues entry hold

end Document

end MonitorOperator
