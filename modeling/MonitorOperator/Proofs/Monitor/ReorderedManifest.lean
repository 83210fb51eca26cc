import MonitorOperator.Proofs.Document.Alike
import MonitorOperator.Proofs.Monitor.Reading

/-!
# Reordered manifests

The order of fields in a manifest is read in two places only: in the name of the monitor, which other
names show, and in an object that stands for a pair in a list of labels. When these are left alone
(`Monitor.Reorders`), a manifest with its fields in another order describes a monitor that is the same
up to the order of fields (`Monitor.Reorders.exists_same`).
-/

namespace MonitorOperator

open Document (IsJson Reordered SameJson FieldsAlike Alike KeepsOrder)
open Fields (given part)

/-- The properties have related values and secrets. -/
def CustomProperties.SameBy (values : Document → Document → Prop)
    (left right : CustomProperties) : Prop :=
  values left.value right.value ∧ values left.valueFrom right.valueFrom

/-- The specifications have as many replicas, and related values and fields elsewhere. -/
structure MonitorSpec.SameBy (values : Document → Document → Prop) (fields : Fields → Fields → Prop)
    (left right : MonitorSpec) : Prop where
  image : values left.image right.image
  customProperties :
    Option.Rel (CustomProperties.SameBy values) left.customProperties right.customProperties
  endpoint : values left.endpoint right.endpoint
  replicas : left.replicas = right.replicas
  labels : fields left.labels right.labels
  nodeSelector : fields left.nodeSelector right.nodeSelector
  tolerations : List.Forall₂ values left.tolerations right.tolerations
  resources : fields left.resources right.resources
  env : List.Forall₂ values left.env right.env
  serviceAccountName : values left.serviceAccountName right.serviceAccountName
  priorityClassName : values left.priorityClassName right.priorityClassName

/-- The statuses have one moment and related values elsewhere. -/
structure MonitorStatus.SameBy (values : Document → Document → Prop)
    (left right : MonitorStatus) : Prop where
  imageVersion : values left.imageVersion right.imageVersion
  imageHash : values left.imageHash right.imageHash
  updated : left.updated = right.updated

namespace Monitor

/-- The monitors have related values and fields. -/
structure SameBy (values : Document → Document → Prop) (fields : Fields → Fields → Prop)
    (left right : Monitor) : Prop where
  name : values left.name right.name
  scope : values left.scope right.scope
  uid : values left.uid right.uid
  resourceVersion : values left.resourceVersion right.resourceVersion
  spec : MonitorSpec.SameBy values fields left.spec right.spec
  status : MonitorStatus.SameBy values left.status right.status

/-- The monitors have one name and are the same up to the order of fields. -/
def Same (left right : Monitor) : Prop :=
  left.name = right.name ∧
    SameBy Reordered (fun fields others => Reordered (.object fields) (.object others)) left right

/-- The manifests are the same up to the order of fields, and where that order is read it is the
same: in the name, and in objects among the items of a list in place of fields. -/
structure Reorders (body other : Fields) : Prop where
  reordered : Reordered (.object body) (.object other)
  name :
    (Document.object body).under? ["metadata", "name"] =
      (Document.object other).under? ["metadata", "name"]
  pairs : ∀ key ∈ ["labels", "nodeSelector", "resources"], ∀ items others,
    (Document.object body).under? ["spec", key] = some (.list items) →
    (Document.object other).under? ["spec", key] = some (.list others) →
    List.Forall₂ KeepsOrder items others

end Monitor

section Given

variable {fields others : Fields}

/-- What is given by the same objects is the same. -/
theorem Document.SameJson.given (h : SameJson (.object fields) (.object others)) (key : String) :
    SameJson (Fields.given fields key) (Fields.given others key) :=
  h.getD_get? key isJson_null

/-- The parts of the same objects are the same. -/
theorem Document.SameJson.part (h : SameJson (.object fields) (.object others)) (key : String) :
    SameJson (Fields.part fields key) (Fields.part others key) :=
  (h.given key).orElse isJson_empty

end Given

/-- The same properties are read of the same JSON. -/
theorem CustomProperties.ofManifest_matched {left right : Document} (h : SameJson left right) :
    Matched Eq (Option.Rel (SameBy SameJson)) (ofManifest left) (ofManifest right) := by
  unfold ofManifest
  rw [h.reordered.truthy_eq]
  split
  · exact .ok .none
  · refine (h.lookupOr "value" Document.isJson_null).bind fun value other hvalue => ?_
    refine (h.lookupOr "valueFrom" Document.isJson_null).bind fun source another hsource => ?_
    simp only [Document.truthy_orNull, hvalue.reordered.truthy_eq, hsource.reordered.truthy_eq]
    split
    · exact .ok (.some ⟨hvalue.orElse Document.isJson_null, hsource.orElse Document.isJson_null⟩)
    · exact .ok .none

/-- The same moment is read of a reordering. -/
theorem MonitorStatus.readUpdated_eq {left right : Document} (h : Reordered left right) :
    readUpdated left = readUpdated right := by
  unfold readUpdated
  rw [h.truthy_eq]
  cases h with
  | scalar | list | object => rfl

namespace MonitorSpec

variable {fields others : Fields}

/-- The same fields are read of labels, if the pairs in a list keep their order. -/
theorem exists_toFields {key : String} {labels : Fields}
    (hsame : SameJson (.object fields) (.object others))
    (hpairs : ∀ items items', Fields.get? fields (.text key) = some (.list items) →
      Fields.get? others (.text key) = some (.list items') → List.Forall₂ KeepsOrder items items')
    (h : (part fields key).toFields = .ok labels) :
    ∃ twins, (part others key).toFields = .ok twins ∧ FieldsAlike labels twins := by
  -- The default for labels is an object, so a list among the parts was given.
  have hlist : ∀ {fields : Fields} {items : List Document}, part fields key = .list items →
      Fields.get? fields (.text key) = some (.list items) := by
    intro fields items hpart
    rw [part, Document.orElse] at hpart
    split at hpart
    · rw [given] at hpart
      generalize Fields.get? fields (.text key) = found at *
      cases found with
      | none => cases hpart
      | some value => rw [← hpart]; rfl
    · cases hpart
  refine ((hsame.part key).toFields fun items items' hitems hitems' => ?_).exists_ok h
  exact hpairs items items' (hlist hitems) (hlist hitems')

/-- The same list is read of tolerations or an environment that is given as a list. -/
theorem exists_elements {key : String} {elements : List Document}
    (hsame : SameJson (.object fields) (.object others))
    (hlist : ∀ value, Fields.get? fields (.text key) = some value →
      value.truthy = false ∨ ∃ items, value = .list items)
    (h : ((given fields key).orElse (.list [])).elements = .ok elements) :
    ∃ twins, ((given others key).orElse (.list [])).elements = .ok twins ∧
      List.Forall₂ SameJson elements twins := by
  have hempty : IsJson (.list []) := .list (by simp)
  refine (((hsame.given key).orElse hempty).elements fun inner _ hinner _ => ?_).exists_ok h
  have hvalue : ∃ items, (given fields key).orElse (.list []) = .list items := by
    rw [given]
    generalize Fields.get? fields (.text key) = found at *
    cases found with
    | none => exact ⟨[], rfl⟩
    | some value =>
        rcases hlist value rfl with hfalsy | ⟨items, rfl⟩
        · exact ⟨[], by simp [Document.orElse, hfalsy]⟩
        · exact ⟨items, Document.orElse_list items⟩
  obtain ⟨items, hitems⟩ := hvalue
  cases hitems.symm.trans hinner

/-- What is read of a specification with its fields in another order is the same. -/
theorem IsRead.exists_same {image other : Document} {spec : MonitorSpec}
    (h : IsRead image fields spec) (hsame : SameJson (.object fields) (.object others))
    (himage : SameJson image other)
    (hpairs : ∀ key ∈ ["labels", "nodeSelector", "resources"], ∀ items items',
      Fields.get? fields (.text key) = some (.list items) →
      Fields.get? others (.text key) = some (.list items') → List.Forall₂ KeepsOrder items items')
    (hlists : ∀ key ∈ ["tolerations", "env"], ∀ value,
      Fields.get? fields (.text key) = some value →
      value.truthy = false ∨ ∃ items, value = .list items) :
    ∃ twin, IsRead other others twin ∧ SameBy SameJson FieldsAlike spec twin := by
  obtain ⟨properties, hproperties, hproperties_same⟩ :=
    (CustomProperties.ofManifest_matched (hsame.given "customProperties")).exists_ok
      h.customProperties
  have hone : IsJson (.integer 1) := .scalar trivial
  have hreplicas := hsame.getD_get? "replicas" hone
  obtain ⟨labels, hlabels, hlabels_same⟩ :=
    exists_toFields hsame (hpairs _ (by decide)) h.labels
  obtain ⟨nodes, hnodes, hnodes_same⟩ :=
    exists_toFields hsame (hpairs _ (by decide)) h.nodeSelector
  obtain ⟨tolerations, htolerations, htolerations_same⟩ :=
    exists_elements hsame (hlists _ (by decide)) h.tolerations
  obtain ⟨resources, hresources, hresources_same⟩ :=
    exists_toFields hsame (hpairs _ (by decide)) h.resources
  obtain ⟨env, henv, henv_same⟩ := exists_elements hsame (hlists _ (by decide)) h.env
  let twin : MonitorSpec :=
    { image := other
      customProperties := properties
      endpoint := (given others "kubernetesApiEndpoint").orNull
      replicas := spec.replicas
      labels
      nodeSelector := nodes
      tolerations
      resources
      env
      serviceAccountName := (given others "serviceAccountName").orElse defaultServiceAccount
      priorityClassName := (given others "priorityClassName").orNull }
  refine ⟨twin, ⟨rfl, hproperties, rfl, ?_, hlabels, hnodes, htolerations, hresources, henv, rfl,
    rfl⟩, ⟨?_, hproperties_same, ?_, rfl, hlabels_same, hnodes_same, htolerations_same,
    hresources_same, henv_same, ?_, ?_⟩⟩
  · rw [← hreplicas.reordered.toInteger_eq, h.replicas]
  · rw [h.image]
    exact himage
  · rw [h.endpoint]
    exact (hsame.given _).orElse Document.isJson_null
  · rw [h.serviceAccountName]
    exact (hsame.given _).orElse (.scalar trivial)
  · rw [h.priorityClassName]
    exact (hsame.given _).orElse Document.isJson_null

end MonitorSpec

/-- What is read of a status with its fields in another order is the same. -/
theorem MonitorStatus.exists_same {fields others : Fields} {status : MonitorStatus}
    (h : ofManifest (.object fields) = .ok status)
    (hsame : SameJson (.object fields) (.object others)) :
    ∃ twin, ofManifest (.object others) = .ok twin ∧ SameBy SameJson status twin := by
  obtain ⟨hversion, hhash, hupdated⟩ := ofManifest_object_eq_ok_iff.1 h
  let twin : MonitorStatus :=
    { imageVersion := (Fields.get? others (.text "imageVersion")).getD (.text "")
      imageHash := (Fields.get? others (.text "imageHash")).getD (.text "")
      updated := status.updated }
  refine ⟨twin, ofManifest_object_eq_ok_iff.2 ⟨rfl, rfl, ?_⟩, ⟨?_, ?_, rfl⟩⟩
  · rw [← readUpdated_eq (hsame.given "updatedTimestamp").reordered, hupdated]
  · rw [hversion]
    exact hsame.getD_get? _ (Document.isJson_text "")
  · rw [hhash]
    exact hsame.getD_get? _ (Document.isJson_text "")

/-- Specifications are also related by what follows from their relation. -/
theorem MonitorSpec.SameBy.mono {values wider : Document → Document → Prop}
    {fields widerFields : Fields → Fields → Prop} {left right : MonitorSpec}
    (h : SameBy values fields left right)
    (hvalues : ∀ {value other : Document}, values value other → wider value other)
    (hfields : ∀ {entries others : Fields}, fields entries others → widerFields entries others) :
    SameBy wider widerFields left right where
  image := hvalues h.image
  customProperties := by
    have hproperties := h.customProperties
    generalize left.customProperties = properties at hproperties ⊢
    generalize right.customProperties = others at hproperties ⊢
    cases hproperties with
    | none => exact .none
    | some hsame => exact .some ⟨hvalues hsame.1, hvalues hsame.2⟩
  endpoint := hvalues h.endpoint
  replicas := h.replicas
  labels := hfields h.labels
  nodeSelector := hfields h.nodeSelector
  tolerations := h.tolerations.imp fun _ _ => hvalues
  resources := hfields h.resources
  env := h.env.imp fun _ _ => hvalues
  serviceAccountName := hvalues h.serviceAccountName
  priorityClassName := hvalues h.priorityClassName

namespace Monitor

variable {body other : Fields} {monitor : Monitor}

/-- Monitors that are the same JSON are the same up to the order of fields. -/
theorem SameBy.same {left right : Monitor} (h : SameBy SameJson FieldsAlike left right)
    (hname : left.name = right.name) : left.Same right := by
  refine ⟨hname, h.name.reordered, h.scope.reordered, h.uid.reordered, h.resourceVersion.reordered,
    h.spec.mono SameJson.reordered fun hfields => (Alike.of_fieldsAlike hfields).reordered,
    h.status.imageVersion.reordered, h.status.imageHash.reordered, h.status.updated⟩

/-- A manifest with its fields in another order describes a monitor that is the same. -/
theorem Reorders.exists_same (h : Reorders body other) (hbody : Describes body monitor) :
    ∃ twin, ofManifest (.object other) = .ok twin ∧ monitor.name = twin.name ∧
      SameBy SameJson FieldsAlike monitor twin := by
  have hsame_body : SameJson (.object body) (.object other) := ⟨hbody.isJson, h.reordered⟩
  obtain ⟨_, metadata, spec, status, ⟨⟩, hmetadata, hspec, hstatus, hread⟩ :=
    exists_isRead hbody.accepted
  -- The parts of the other manifest are objects, because those of this one are.
  have hparts : ∀ {name : String} {inner : Fields}, part body name = .object inner →
      ∃ others, part other name = .object others ∧ SameJson (.object inner) (.object others) := by
    intro name inner hinner
    have hsame := hsame_body.part name
    rw [hinner] at hsame
    obtain ⟨others, hothers⟩ := hsame.exists_object
    exact ⟨others, hothers, hothers ▸ hsame⟩
  obtain ⟨metadata', hmetadata', hmetadata_same⟩ := hparts hmetadata
  obtain ⟨spec', hspec', hspec_same⟩ := hparts hspec
  obtain ⟨status', hstatus', hstatus_same⟩ := hparts hstatus
  have himage := hspec_same.given "image"
  obtain ⟨read, hread_spec, hspec_twin⟩ := hread.spec.exists_same hspec_same himage
    (fun key hkey items items' hitems hitems' => h.pairs key hkey items items'
      (by rw [Fields.under?_of_part hspec, hitems]) (by rw [Fields.under?_of_part hspec', hitems']))
    (fun key hkey value hvalue => hbody.givesLists key hkey value
      (by rw [Fields.under?_of_part hspec, hvalue]))
  obtain ⟨recorded, hrecorded, hstatus_twin⟩ := MonitorStatus.exists_same hread.status hstatus_same
  have hname := h.name
  rw [Fields.under?_of_part hmetadata, Fields.under?_of_part hmetadata'] at hname
  let twin : Monitor :=
    { name := (Fields.get? metadata' (.text "name")).getD (.text "")
      scope := (Fields.get? metadata' (.text "namespace")).getD (.text "")
      uid := (Fields.get? metadata' (.text "uid")).getD (.text "")
      resourceVersion := given metadata' "resourceVersion"
      spec := read
      status := recorded }
  have htwin : IsRead metadata' spec' status' twin :=
    ⟨rfl, rfl, rfl, rfl, by rw [← himage.reordered.truthy_eq, hread.image], hread_spec, hrecorded⟩
  refine ⟨twin, htwin.ofManifest_eq_ok hmetadata' hspec' hstatus', ?_,
    ⟨?_, ?_, ?_, ?_, hspec_twin, hstatus_twin⟩⟩
  · rw [hread.name, hname]
  · rw [hread.name]
    exact hmetadata_same.getD_get? _ (Document.isJson_text "")
  · rw [hread.scope]
    exact hmetadata_same.getD_get? _ (Document.isJson_text "")
  · rw [hread.uid]
    exact hmetadata_same.getD_get? _ (Document.isJson_text "")
  · rw [hread.resourceVersion]
    exact hmetadata_same.given _

end Monitor

end MonitorOperator
