import MonitorOperator.Monitor.Manifest
import MonitorOperator.Proofs.Document.Reordering

/-!
# What is read of a manifest

A manifest that describes a monitor is an object whose metadata, specification and status are objects
or count as nothing (`Monitor.exists_isRead`). What the monitor has of each is looked up under
the keys that `MonitorSpec.IsRead` and `Monitor.IsRead` name.
-/

namespace MonitorOperator

open Document (IsJson)

/-- What an object has under a name, or null. -/
def Fields.given (fields : Fields) (key : String) : Document :=
  (get? fields (.text key)).getD .null

/-- What an object has under a name, or the empty object in place of what counts as nothing. -/
def Fields.part (fields : Fields) (key : String) : Document :=
  (fields.given key).orElse (.object [])

open Fields (given part)

/-- What a part has is what its object has further down. -/
theorem Fields.under?_part (fields : Fields) (name key : String) :
    (Document.object fields).under? [name, key] = (part fields name).under? [key] := by
  have hgiven : (Document.object fields).lookupOrNull name = .ok (given fields name) := rfl
  rw [Document.under?_of_lookupOrNull hgiven, part, Document.under?_orElse]

/-- What a part that is an object has is what is found in it. -/
theorem Fields.under?_of_part {fields inner : Fields} {name : String}
    (h : part fields name = .object inner) (key : String) :
    (Document.object fields).under? [name, key] = get? inner (.text key) := by
  rw [under?_part, h, Document.under?_singleton]

/-- Only an object has something looked up. -/
theorem Document.exists_of_lookupOr {document fallback value : Document} {key : String}
    (h : document.lookupOr key fallback = .ok value) :
    ∃ fields, document = .object fields ∧
      value = (Fields.get? fields (.text key)).getD fallback := by
  cases document with
  | scalar | list => cases h
  | object fields => exact ⟨fields, rfl, (Except.ok.inj h).symm⟩

/-- The properties that an object gives are its fields, unless both count as nothing. -/
theorem CustomProperties.ofManifest_object (fields : Fields) :
    ofManifest (.object fields) =
      .ok (if (given fields "value").truthy || (given fields "valueFrom").truthy then
          some ⟨(given fields "value").orNull, (given fields "valueFrom").orNull⟩
        else none) := by
  cases fields with
  | nil => rfl
  | cons field fields =>
      have htruthy : (Document.object (field :: fields)).truthy = true := rfl
      simp only [ofManifest, htruthy, Bool.not_true, Bool.false_eq_true, ↓reduceIte,
        Document.lookupOrNull_object, bind, Except.bind, Document.truthy_orNull, given]
      exact (apply_ite Except.ok _ _ _).symm

namespace MonitorSpec

/-- What should run is what the fields give, with this image. -/
structure IsRead (image : Document) (fields : Fields) (spec : MonitorSpec) : Prop where
  image : spec.image = image
  customProperties :
    CustomProperties.ofManifest (given fields "customProperties") = .ok spec.customProperties
  endpoint : spec.endpoint = (given fields "kubernetesApiEndpoint").orNull
  replicas :
    ((Fields.get? fields (.text "replicas")).getD (.integer 1)).toInteger = .ok spec.replicas
  labels : (part fields "labels").toFields = .ok spec.labels
  nodeSelector : (part fields "nodeSelector").toFields = .ok spec.nodeSelector
  tolerations : ((given fields "tolerations").orElse (.list [])).elements = .ok spec.tolerations
  resources : (part fields "resources").toFields = .ok spec.resources
  env : ((given fields "env").orElse (.list [])).elements = .ok spec.env
  serviceAccountName :
    spec.serviceAccountName = (given fields "serviceAccountName").orElse defaultServiceAccount
  priorityClassName : spec.priorityClassName = (given fields "priorityClassName").orNull

/-- What should run is read of an object under its names. -/
theorem ofManifest_object_eq_ok_iff {image : Document} {fields : Fields} {spec : MonitorSpec} :
    ofManifest image (.object fields) = .ok spec ↔ IsRead image fields spec := by
  simp only [ofManifest, Document.lookupOrNull_object, Document.lookupOr_object, bind_eq_ok_iff,
    Except.ok.injEq, exists_eq_left']
  constructor
  · rintro ⟨properties, hproperties, replicas, hreplicas, labels, hlabels, nodes, hnodes,
      tolerations, htolerations, resources, hresources, env, henv, hspec⟩
    obtain rfl := Except.ok.inj hspec
    exact ⟨rfl, hproperties, rfl, hreplicas, hlabels, hnodes, htolerations, hresources, henv, rfl,
      rfl⟩
  · obtain ⟨image', properties, endpoint, replicas, labels, nodes, tolerations, resources, env,
      account, priority⟩ := spec
    rintro ⟨rfl, hproperties, rfl, hreplicas, hlabels, hnodes, htolerations, hresources, henv, rfl,
      rfl⟩
    exact ⟨properties, hproperties, replicas, hreplicas, labels, hlabels, nodes, hnodes,
      tolerations, htolerations, resources, hresources, env, henv, rfl⟩

end MonitorSpec

/-- What has been recorded is read of an object under its names. -/
theorem MonitorStatus.ofManifest_object_eq_ok_iff {fields : Fields} {status : MonitorStatus} :
    ofManifest (.object fields) = .ok status ↔
      status.imageVersion = (Fields.get? fields (.text "imageVersion")).getD (.text "") ∧
        status.imageHash = (Fields.get? fields (.text "imageHash")).getD (.text "") ∧
        readUpdated (given fields "updatedTimestamp") = .ok status.updated := by
  simp only [ofManifest, Document.lookupOrNull_object, Document.lookupOr_object, bind_eq_ok_iff,
    Except.ok.injEq, exists_eq_left']
  constructor
  · rintro ⟨updated, hupdated, hstatus⟩
    obtain rfl := Except.ok.inj hstatus
    exact ⟨rfl, rfl, hupdated⟩
  · obtain ⟨version, hash, updated⟩ := status
    rintro ⟨rfl, rfl, hupdated⟩
    exact ⟨updated, hupdated, rfl⟩

namespace Monitor

/-- The monitor is what its metadata, specification and status give. -/
structure IsRead (metadata spec status : Fields) (monitor : Monitor) : Prop where
  name : monitor.name = (Fields.get? metadata (.text "name")).getD (.text "")
  scope : monitor.scope = (Fields.get? metadata (.text "namespace")).getD (.text "")
  uid : monitor.uid = (Fields.get? metadata (.text "uid")).getD (.text "")
  resourceVersion : monitor.resourceVersion = given metadata "resourceVersion"
  image : (given spec "image").truthy = true
  spec : MonitorSpec.IsRead (given spec "image") spec monitor.spec
  status : MonitorStatus.ofManifest (.object status) = .ok monitor.status

/-- The tolerations and the environment that a manifest gives are lists, unless they count as
nothing. -/
def GivesLists (body : Fields) : Prop :=
  ∀ key ∈ ["tolerations", "env"], ∀ value,
    (Document.object body).under? ["spec", key] = some value →
    value.truthy = false ∨ ∃ items, value = .list items

/-- The manifest is JSON, gives lists where lists should be, and describes the monitor. -/
structure Describes (body : Fields) (monitor : Monitor) : Prop where
  isJson : IsJson (.object body)
  givesLists : GivesLists body
  accepted : ofManifest (.object body) = .ok monitor

/-- A manifest that describes a monitor is an object, as are its parts, and the monitor is read of
these. -/
theorem exists_isRead {body : Document} {monitor : Monitor} (h : ofManifest body = .ok monitor) :
    ∃ fields metadata spec status, body = .object fields ∧
      part fields "metadata" = .object metadata ∧ part fields "spec" = .object spec ∧
      part fields "status" = .object status ∧ IsRead metadata spec status monitor := by
  simp only [ofManifest, bind_eq_ok_iff] at h
  obtain ⟨_, hmetadata, _, hspec, _, hstatus, image, himage, h⟩ := h
  obtain ⟨fields, rfl, rfl⟩ := Document.exists_of_lookupOr hmetadata
  obtain rfl := Except.ok.inj hspec
  obtain rfl := Except.ok.inj hstatus
  obtain ⟨spec, hspec_part, rfl⟩ := Document.exists_of_lookupOr himage
  rw [← given] at h
  cases himage_truthy : (given spec "image").truthy with
  | false =>
      have hdefault : (given spec "image").orElse (.text "") = .text "" := by
        simp [Document.orElse, himage_truthy]
      have hempty : (Document.text "").truthy = false := rfl
      simp only [hdefault, hempty, Bool.not_false, ↓reduceIte, bind_eq_ok_iff] at h
      obtain ⟨_, -, _, hthrow, -⟩ := h
      cases hthrow
  | true =>
      have hdefault : (given spec "image").orElse (.text "") = given spec "image" :=
        if_pos himage_truthy
      simp only [hdefault, himage_truthy, Bool.not_true, Bool.false_eq_true, ↓reduceIte,
        bind_eq_ok_iff] at h
      obtain ⟨read, hread, recorded, hrecorded, _, hname, _, hscope, _, huid, _, hversion,
        hmonitor⟩ := h
      obtain rfl := Except.ok.inj hmonitor
      obtain ⟨metadata, hmetadata_part, rfl⟩ := Document.exists_of_lookupOr hname
      have hlooked := hrecorded
      simp only [MonitorStatus.ofManifest, bind_eq_ok_iff] at hlooked
      obtain ⟨_, hlooked, -⟩ := hlooked
      obtain ⟨status, hstatus_part, -⟩ := Document.exists_of_lookupOr hlooked
      rw [hmetadata_part] at hscope huid hversion
      rw [hspec_part] at hread
      rw [hstatus_part] at hrecorded
      exact ⟨fields, metadata, spec, status, rfl, hmetadata_part, hspec_part, hstatus_part,
        ⟨rfl, (Except.ok.inj hscope).symm, (Except.ok.inj huid).symm, (Except.ok.inj hversion).symm,
          himage_truthy, MonitorSpec.ofManifest_object_eq_ok_iff.1 hread, hrecorded⟩⟩

/-- A monitor that is read of the parts of an object is the one that it describes. -/
theorem IsRead.ofManifest_eq_ok {fields metadata spec status : Fields} {monitor : Monitor}
    (hread : IsRead metadata spec status monitor)
    (hmetadata : part fields "metadata" = .object metadata)
    (hspec : part fields "spec" = .object spec) (hstatus : part fields "status" = .object status) :
    ofManifest (.object fields) = .ok monitor := by
  have hdefault : (given spec "image").orElse (.text "") = given spec "image" :=
    if_pos hread.image
  obtain ⟨name, scope, uid, version, read, recorded⟩ := monitor
  obtain ⟨rfl, rfl, rfl, rfl, himage, hspec_read, hstatus_read⟩ := hread
  rw [part, given] at hmetadata hspec hstatus
  simp only [ofManifest, Document.lookupOrNull_object, hmetadata, hspec, hstatus, bind_eq_ok_iff,
    Except.ok.injEq, exists_eq_left']
  rw [← given, hdefault]
  simp only [himage, Bool.not_true, Bool.false_eq_true, ↓reduceIte, bind_eq_ok_iff,
    Document.lookupOr_object, Except.ok.injEq, exists_eq_left']
  exact ⟨read, MonitorSpec.ofManifest_object_eq_ok_iff.2 hspec_read, recorded, hstatus_read, rfl⟩

end Monitor

end MonitorOperator
