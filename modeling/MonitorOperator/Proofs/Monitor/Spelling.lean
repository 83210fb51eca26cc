import Mathlib.Logic.Relation
import MonitorOperator.Proofs.Document.Alike
import MonitorOperator.Proofs.Monitor.Reading

/-!
# Edits that are not read

An optional field of a manifest is left at its default in several ways: it is missing, null or empty,
or the default is written out (`MonitorSpec.LeavesDefault`). `Monitor.Edit` changes one of these into
another, or sets a field that is not read. A manifest describes the same monitor after any number of
edits (`Monitor.Describes.of_edits`).
-/

namespace MonitorOperator

open Document (IsJson)
open Fields (given part)

namespace Fields

/-- Give a field a value, or take it out. -/
def set (fields : Fields) (key : String) : Option Document → Fields
  | some value => put fields (.text key) value
  | none => remove fields (.text key)

/-- What is found after a field was set. -/
theorem get?_set (fields : Fields) (key other : String) (value : Option Document) :
    get? (fields.set key value) (.text other) =
      if key = other then value else get? fields (.text other) := by
  cases value with
  | some value => exact get?_put fields key other value
  | none => exact get?_remove fields key other

/-- What is given after a field was set. -/
theorem given_set (fields : Fields) (key other : String) (value : Option Document) :
    given (fields.set key value) other =
      if key = other then value.getD .null else given fields other := by
  rw [given, get?_set]
  split <;> rfl

/-- A part after an object was put under a name. -/
theorem part_put (fields inner : Fields) (name other : String) :
    part (put fields (.text name) (.object inner)) other =
      if name = other then .object inner else part fields other := by
  rw [part, given, get?_put]
  split
  · exact Document.orElse_object inner
  · rfl

/-- An object under a name is a part. -/
theorem part_eq_of_get? {fields inner : Fields} {name : String}
    (h : get? fields (.text name) = some (.object inner)) : part fields name = .object inner := by
  rw [part, given, h]
  exact Document.orElse_object inner

/-- A field that is set in a JSON object leaves it JSON if its value is. -/
theorem isJson_set {fields : Fields} {key : String} {value : Option Document}
    (h : IsJson (.object fields)) (hvalue : ∀ document ∈ value, document.IsJson) :
    IsJson (.object (fields.set key value)) := by
  cases value with
  | some value => exact Document.isJson_put h (hvalue value rfl)
  | none => exact h.filter _

end Fields

namespace MonitorSpec

/-- The optional fields that are left at their defaults only by being missing, null or empty. -/
def plainKeys : List String :=
  ["kubernetesApiEndpoint", "labels", "nodeSelector", "tolerations", "resources", "env",
    "priorityClassName"]

/-- The optional fields that may be null or empty. -/
def optionalKeys : List String := "customProperties" :: "serviceAccountName" :: plainKeys

/-- The fields of a specification that are read. -/
def readKeys : List String := "image" :: "replicas" :: optionalKeys

/-- What is given for an optional field leaves it at its default: nothing, something empty, or the
default itself. -/
inductive LeavesDefault (key : String) : Option Document → Prop where
  | missing : LeavesDefault key none
  | empty {value : Document} :
      key ∈ optionalKeys → value.truthy = false → LeavesDefault key (some value)
  | emptyProperties {fields : Fields} :
      key = "customProperties" → (given fields "value").truthy = false →
      (given fields "valueFrom").truthy = false → LeavesDefault key (some (.object fields))
  | oneReplica : key = "replicas" → LeavesDefault key (some (.integer 1))
  | serviceAccount :
      key = "serviceAccountName" → LeavesDefault key (some defaultServiceAccount)

/-- One edit of a specification that does not change what should run. -/
inductive Edit (fields : Fields) : Fields → Prop where
  /-- A field is left at its default in another way. -/
  | respell {key : String} {value : Option Document} :
      key ∈ "replicas" :: optionalKeys → LeavesDefault key (Fields.get? fields (.text key)) →
      LeavesDefault key value → (∀ document ∈ value, document.IsJson) →
      Edit fields (fields.set key value)
  /-- A field is set that is not read. -/
  | unread {key : String} {value : Option Document} :
      key ∉ readKeys → (∀ document ∈ value, document.IsJson) → Edit fields (fields.set key value)
  /-- A field of the custom properties is set that is not read. -/
  | unreadProperty {inner : Fields} {key : String} {value : Option Document} :
      Fields.get? fields (.text "customProperties") = some (.object inner) →
      key ∉ ["value", "valueFrom"] → (∀ document ∈ value, document.IsJson) →
      Edit fields (Fields.put fields (.text "customProperties") (.object (inner.set key value)))

namespace LeavesDefault

variable {key : String} {value : Option Document}

/-- What is given for a plain field that is left at its default counts as nothing. -/
theorem truthy_eq {value : Document} (h : LeavesDefault key (some value))
    (hkey : key ∈ plainKeys) : value.truthy = false := by
  cases h with
  | empty _ hvalue => exact hvalue
  | emptyProperties hsame | oneReplica hsame | serviceAccount hsame =>
      exact absurd (hsame ▸ hkey) (by decide)

/-- The default of a plain field is used, whatever it is. -/
theorem orElse_eq (h : LeavesDefault key value) (hkey : key ∈ plainKeys) (fallback : Document) :
    (value.getD .null).orElse fallback = fallback := by
  cases value with
  | none => rfl
  | some value => exact if_neg (by simp [h.truthy_eq hkey])

/-- The default service account is used. -/
theorem serviceAccount_eq (h : LeavesDefault "serviceAccountName" value) :
    (value.getD .null).orElse defaultServiceAccount = defaultServiceAccount := by
  cases h with
  | missing => rfl
  | empty _ hvalue => simp [Document.orElse, hvalue]
  | serviceAccount => exact ite_self defaultServiceAccount
  | emptyProperties hsame | oneReplica hsame => simp at hsame

/-- The default number of replicas is used. -/
theorem replicas_eq (h : LeavesDefault "replicas" value) :
    value.getD (.integer 1) = .integer 1 := by
  cases h with
  | missing | oneReplica => rfl
  | empty hkey => exact absurd hkey (by decide)
  | emptyProperties hsame | serviceAccount hsame => simp at hsame

/-- There are no custom properties. -/
theorem customProperties_eq (h : LeavesDefault "customProperties" value) :
    CustomProperties.ofManifest (value.getD .null) = .ok none := by
  cases h with
  | missing => rfl
  | empty _ hvalue =>
      simp only [CustomProperties.ofManifest, Option.getD_some, hvalue]
      rfl
  | emptyProperties _ hvalue hfrom =>
      simp [CustomProperties.ofManifest_object, hvalue, hfrom]
  | oneReplica hsame | serviceAccount hsame => simp at hsame

end LeavesDefault

/-- The two lists of fields give the same for everything that should run. -/
structure GiveAlike (fields others : Fields) : Prop where
  image : given others "image" = given fields "image"
  customProperties :
    CustomProperties.ofManifest (given others "customProperties") =
      CustomProperties.ofManifest (given fields "customProperties")
  replicas :
    (Fields.get? others (.text "replicas")).getD (.integer 1) =
      (Fields.get? fields (.text "replicas")).getD (.integer 1)
  serviceAccountName :
    (given others "serviceAccountName").orElse defaultServiceAccount =
      (given fields "serviceAccountName").orElse defaultServiceAccount
  plain : ∀ key ∈ plainKeys, ∀ fallback,
    (given others key).orElse fallback = (given fields key).orElse fallback

variable {image : Document} {fields others : Fields} {spec : MonitorSpec}

/-- What is read of fields is also read of others that give the same. -/
theorem IsRead.of_giveAlike (h : IsRead image fields spec) (hsame : GiveAlike fields others) :
    IsRead image others spec where
  image := h.image
  customProperties := hsame.customProperties.trans h.customProperties
  endpoint := h.endpoint.trans (hsame.plain _ (by decide) _).symm
  replicas := by rw [hsame.replicas, h.replicas]
  labels := by rw [part, hsame.plain _ (by decide), ← part, h.labels]
  nodeSelector := by rw [part, hsame.plain _ (by decide), ← part, h.nodeSelector]
  tolerations := by rw [hsame.plain _ (by decide), h.tolerations]
  resources := by rw [part, hsame.plain _ (by decide), ← part, h.resources]
  env := by rw [hsame.plain _ (by decide), h.env]
  serviceAccountName := h.serviceAccountName.trans hsame.serviceAccountName.symm
  priorityClassName := h.priorityClassName.trans (hsame.plain _ (by decide) _).symm

/-- Fields give the same if their custom properties do, and for every other key that is read the same
is found, or something on both sides that leaves the field at its default. -/
theorem giveAlike_of_get? (himage : given others "image" = given fields "image")
    (hproperties : CustomProperties.ofManifest (given others "customProperties") =
      CustomProperties.ofManifest (given fields "customProperties"))
    (h : ∀ key ∈ "replicas" :: optionalKeys, key ≠ "customProperties" →
      Fields.get? others (.text key) = Fields.get? fields (.text key) ∨
        LeavesDefault key (Fields.get? others (.text key)) ∧
          LeavesDefault key (Fields.get? fields (.text key))) :
    GiveAlike fields others where
  image := himage
  customProperties := hproperties
  replicas := by
    rcases h "replicas" (by decide) (by decide) with hsame | ⟨hother, hfield⟩
    · rw [hsame]
    · rw [hother.replicas_eq, hfield.replicas_eq]
  serviceAccountName := by
    rcases h "serviceAccountName" (by decide) (by decide) with hsame | ⟨hother, hfield⟩
    · rw [given, hsame, ← given]
    · rw [given, hother.serviceAccount_eq, given, hfield.serviceAccount_eq]
  plain := by
    intro key hkey fallback
    have hoptional : ∀ key ∈ plainKeys, key ∈ "replicas" :: optionalKeys := by decide
    have hproperties : "customProperties" ∉ plainKeys := by decide
    rcases h key (hoptional key hkey) (fun hname => hproperties (hname ▸ hkey)) with
      hsame | ⟨hother, hfield⟩
    · rw [given, hsame, ← given]
    · rw [given, hother.orElse_eq hkey, given, hfield.orElse_eq hkey]

/-- An edit changes nothing of what is given. -/
theorem Edit.giveAlike (h : Edit fields others) : GiveAlike fields others := by
  cases h with
  | @respell key value hkey hold hnew _ =>
      have himage : key ≠ "image" := by
        rintro rfl
        exact absurd hkey (by decide)
      refine giveAlike_of_get? (by rw [Fields.given_set, if_neg himage]) ?_ fun name _ _ => ?_
      · rw [Fields.given_set]
        split
        · next hname =>
            subst hname
            rw [hnew.customProperties_eq, given, hold.customProperties_eq]
        · rfl
      · rw [Fields.get?_set]
        split
        · next hname =>
            subst hname
            exact .inr ⟨hnew, hold⟩
        · exact .inl rfl
  | @unread key value hkey _ =>
      have hne : ∀ name ∈ readKeys, key ≠ name := fun name hname h => hkey (h ▸ hname)
      refine giveAlike_of_get? ?_ ?_ fun name hname _ => .inl ?_
      · rw [Fields.given_set, if_neg (hne _ (by decide))]
      · rw [Fields.given_set, if_neg (hne _ (by decide))]
      · rw [Fields.get?_set, if_neg (hne name (List.mem_cons_of_mem _ hname))]
  | @unreadProperty inner key value hinner hkey _ =>
      have hne : ∀ name ∈ ["value", "valueFrom"], key ≠ name := fun name hname h => hkey (h ▸ hname)
      refine giveAlike_of_get? ?_ ?_ fun name _ hname => .inl ?_
      · rw [given, Fields.get?_put, if_neg (by decide), ← given]
      · rw [given, Fields.get?_put, if_pos rfl, given, hinner, Option.getD_some, Option.getD_some,
          CustomProperties.ofManifest_object, CustomProperties.ofManifest_object]
        simp only [Fields.given_set, if_neg (hne "value" (by decide)),
          if_neg (hne "valueFrom" (by decide))]
      · rw [Fields.get?_put, if_neg hname.symm]

/-- A specification is JSON after an edit. -/
theorem Edit.isJson (h : Edit fields others) (hfields : IsJson (.object fields)) :
    IsJson (.object others) := by
  cases h with
  | respell _ _ _ hvalue | unread _ hvalue => exact Fields.isJson_set hfields hvalue
  | unreadProperty hinner _ hvalue =>
      exact Document.isJson_put hfields (Fields.isJson_set (hfields.of_get? hinner) hvalue)

/-- What an edit leaves for the tolerations or the environment was there before, or counts as
nothing. -/
theorem Edit.get?_eq_or (h : Edit fields others) {key : String} (hkey : key ∈ ["tolerations", "env"])
    {value : Document} (hvalue : Fields.get? others (.text key) = some value) :
    value.truthy = false ∨ Fields.get? fields (.text key) = some value := by
  have hplain : ∀ key ∈ ["tolerations", "env"], key ∈ plainKeys := by decide
  have hread : ∀ key ∈ ["tolerations", "env"], key ∈ readKeys := by decide
  cases h with
  | @respell name given _ _ hnew _ =>
      rw [Fields.get?_set] at hvalue
      split at hvalue
      · next hsame =>
          subst hsame hvalue
          exact .inl (hnew.truthy_eq (hplain name hkey))
      · exact .inr hvalue
  | @unread name given hname _ =>
      rw [Fields.get?_set, if_neg (fun h : name = key => hname (h ▸ hread key hkey))] at hvalue
      exact .inr hvalue
  | unreadProperty _ _ _ =>
      have hne : "customProperties" ≠ key := by
        rintro rfl
        exact absurd (hplain _ hkey) (by decide)
      rw [Fields.get?_put, if_neg hne] at hvalue
      exact .inr hvalue

end MonitorSpec

namespace Monitor

/-- The fields of the metadata that are read. -/
def metadataKeys : List String := ["name", "namespace", "uid", "resourceVersion"]

/-- The fields of the status that are read. -/
def statusKeys : List String := ["imageVersion", "imageHash", "updatedTimestamp"]

/-- One edit of a manifest that does not change the monitor that it describes. -/
inductive Edit (body : Fields) : Fields → Prop where
  /-- The specification is edited. -/
  | spec {fields others : Fields} :
      Fields.get? body (.text "spec") = some (.object fields) → MonitorSpec.Edit fields others →
      Edit body (Fields.put body (.text "spec") (.object others))
  /-- A field of the metadata or of the status is set that is not read. -/
  | unreadWithin {name : String} {keys : List String} {fields : Fields} {key : String}
      {value : Option Document} :
      (name, keys) ∈ [("metadata", metadataKeys), ("status", statusKeys)] →
      Fields.get? body (.text name) = some (.object fields) →
      key ∉ keys → (∀ document ∈ value, document.IsJson) →
      Edit body (Fields.put body (.text name) (.object (fields.set key value)))
  /-- A field is set that is not read. -/
  | unread {key : String} {value : Option Document} :
      key ∉ ["metadata", "spec", "status"] → (∀ document ∈ value, document.IsJson) →
      Edit body (body.set key value)

variable {body other metadata spec status others : Fields} {monitor : Monitor}

/-- No other fields of the metadata are read. -/
theorem IsRead.of_metadata (h : IsRead metadata spec status monitor)
    (hsame : ∀ key ∈ metadataKeys,
      Fields.get? others (.text key) = Fields.get? metadata (.text key)) :
    IsRead others spec status monitor :=
  { h with
    name := by rw [hsame _ (by decide), h.name]
    scope := by rw [hsame _ (by decide), h.scope]
    uid := by rw [hsame _ (by decide), h.uid]
    resourceVersion := by rw [given, hsame _ (by decide), ← given, h.resourceVersion] }

/-- No other fields of the status are read. -/
theorem IsRead.of_status (h : IsRead metadata spec status monitor)
    (hsame : ∀ key ∈ statusKeys,
      Fields.get? others (.text key) = Fields.get? status (.text key)) :
    IsRead metadata spec others monitor := by
  refine { h with status := MonitorStatus.ofManifest_object_eq_ok_iff.2 ?_ }
  rw [hsame _ (by decide), hsame _ (by decide), given, hsame _ (by decide), ← given]
  exact MonitorStatus.ofManifest_object_eq_ok_iff.1 h.status

/-- A manifest describes the same monitor after an edit. -/
theorem Edit.ofManifest_eq_ok (h : Edit body other)
    (haccepted : ofManifest (.object body) = .ok monitor) :
    ofManifest (.object other) = .ok monitor := by
  obtain ⟨_, metadata, spec, status, ⟨⟩, hmetadata, hspec, hstatus, hread⟩ :=
    exists_isRead haccepted
  cases h with
  | @spec fields others hfields hedit =>
      obtain rfl : fields = spec :=
        Document.object.inj ((Fields.part_eq_of_get? hfields).symm.trans hspec)
      have hgiven := hedit.giveAlike
      have hother : IsRead metadata others status monitor := by
        refine { hread with image := ?_, spec := ?_ }
        · rw [hgiven.image, hread.image]
        · rw [hgiven.image]
          exact hread.spec.of_giveAlike hgiven
      refine hother.ofManifest_eq_ok ?_ ?_ ?_ <;> simp [Fields.part_put, hmetadata, hstatus]
  | @unreadWithin name keys fields key value hname hfields hkey _ =>
      have hne : ∀ read ∈ keys, key ≠ read := fun read hread h => hkey (h ▸ hread)
      have hpart := Fields.part_eq_of_get? hfields
      simp only [List.mem_cons, Prod.mk.injEq, List.not_mem_nil, or_false] at hname
      obtain ⟨rfl, rfl⟩ | ⟨rfl, rfl⟩ := hname
      · obtain rfl : fields = metadata := Document.object.inj (hpart.symm.trans hmetadata)
        have hother : IsRead (fields.set key value) spec status monitor :=
          hread.of_metadata fun name hname => by rw [Fields.get?_set, if_neg (hne name hname)]
        refine hother.ofManifest_eq_ok ?_ ?_ ?_ <;> simp [Fields.part_put, hspec, hstatus]
      · obtain rfl : fields = status := Document.object.inj (hpart.symm.trans hstatus)
        have hother : IsRead metadata spec (fields.set key value) monitor :=
          hread.of_status fun name hname => by rw [Fields.get?_set, if_neg (hne name hname)]
        refine hother.ofManifest_eq_ok ?_ ?_ ?_ <;> simp [Fields.part_put, hmetadata, hspec]
  | @unread key value hkey _ =>
      have hpart : ∀ name ∈ ["metadata", "spec", "status"],
          part (body.set key value) name = part body name := by
        intro name hname
        rw [part, Fields.given_set, if_neg (fun h : key = name => hkey (h ▸ hname)), ← part]
      refine hread.ofManifest_eq_ok ?_ ?_ ?_ <;> simp [hpart, hmetadata, hspec, hstatus]

/-- A manifest is JSON after an edit. -/
theorem Edit.isJson (h : Edit body other) (hbody : IsJson (.object body)) :
    IsJson (.object other) := by
  cases h with
  | spec hfields hedit => exact Document.isJson_put hbody (hedit.isJson (hbody.of_get? hfields))
  | unreadWithin _ hfields _ hvalue =>
      exact Document.isJson_put hbody (Fields.isJson_set (hbody.of_get? hfields) hvalue)
  | unread _ hvalue => exact Fields.isJson_set hbody hvalue

/-- A manifest gives lists after an edit. -/
theorem Edit.givesLists (h : Edit body other) (hbody : GivesLists body) : GivesLists other := by
  intro key hkey value hvalue
  rw [Fields.under?_part] at hvalue
  cases h with
  | @spec fields others hfields hedit =>
      rw [Fields.part_put, if_pos rfl, Document.under?_singleton] at hvalue
      rcases hedit.get?_eq_or hkey hvalue with hempty | hold
      · exact .inl hempty
      · refine hbody key hkey value ?_
        rw [Fields.under?_of_part (Fields.part_eq_of_get? hfields), hold]
  | @unreadWithin name keys fields _ _ hname _ _ _ =>
      have hne : name ≠ "spec" := by
        rintro rfl
        simp at hname
      rw [Fields.part_put, if_neg hne, ← Fields.under?_part] at hvalue
      exact hbody key hkey value hvalue
  | @unread name _ hname _ =>
      have hne : name ≠ "spec" := by
        rintro rfl
        simp at hname
      rw [part, Fields.given_set, if_neg hne, ← part, ← Fields.under?_part] at hvalue
      exact hbody key hkey value hvalue

/-- A manifest describes the same monitor after an edit. -/
theorem Edit.describes (h : Edit body other) (hbody : Describes body monitor) :
    Describes other monitor where
  isJson := h.isJson hbody.isJson
  givesLists := h.givesLists hbody.givesLists
  accepted := h.ofManifest_eq_ok hbody.accepted

/-- A manifest describes the same monitor after any number of edits. -/
theorem Describes.of_edits (hbody : Describes body monitor)
    (h : Relation.ReflTransGen Edit body other) : Describes other monitor := by
  induction h with
  | refl => exact hbody
  | tail _ hlast ih => exact hlast.describes ih

end Monitor

end MonitorOperator
