import MonitorOperator.Proofs.Document.Fields
import MonitorOperator.Workload.Manifest

/-!
# Reading workloads back

What `Workload.ofManifest` makes of a manifest that `Workload.manifest` wrote, also after the
cluster gave it a version. Everything comes back but for what a workload may say in two ways: the
fingerprint is an annotation of the manifest, and an empty specification is an empty object.
-/

namespace MonitorOperator

namespace OwnerReference

/-- A reference is read back as it was written. -/
@[simp] theorem ofManifest_manifest (owner : OwnerReference) :
    ofManifest owner.manifest = .ok owner := rfl

/-- References are read back as they were written. -/
@[simp] theorem ofManifests_map_manifest (owners : List OwnerReference) :
    ofManifests (owners.map manifest) = .ok owners := by
  induction owners with
  | nil => rfl
  | cons owner owners ih =>
      simp only [List.map_cons, ofManifests, ofManifest_manifest, ih]
      rfl

end OwnerReference

namespace Workload

/-- A workload as it is read back when the cluster keeps it at a version. -/
def readBack (workload : Workload) (version : Document) : Workload :=
  { workload with
    spec := workload.spec.orElse (.object [])
    annotations := Fields.remove workload.storedAnnotations fingerprintKey
    fingerprint := ((Fields.get? workload.storedAnnotations fingerprintKey).getD .null).orNull
    resourceVersion := version }

/-- The annotation that holds the fingerprint, as it is stored. -/
theorem get?_storedAnnotations (workload : Workload) :
    Fields.get? workload.storedAnnotations fingerprintKey =
      if workload.fingerprint.truthy then some workload.fingerprint
      else Fields.get? workload.annotations fingerprintKey := by
  unfold storedAnnotations
  split
  · exact (Fields.get?_put _ _ _ _).trans (if_pos rfl)
  · rfl

/-- The other annotations, as they are stored. -/
theorem remove_storedAnnotations (workload : Workload) :
    Fields.remove workload.storedAnnotations fingerprintKey =
      Fields.remove workload.annotations fingerprintKey := by
  unfold storedAnnotations
  split
  · exact Fields.remove_put _ _ _
  · rfl

/-- The workload says what it says in the way in which it is read: an empty specification as an
empty object, and the fingerprint, if it has one, apart from the annotations. -/
structure Normal (workload : Workload) : Prop where
  spec : workload.spec.orElse (.object []) = workload.spec
  fingerprint : workload.fingerprint = .null ∨ workload.fingerprint.truthy = true
  annotations : Fields.get? workload.annotations fingerprintKey = none

/-- What was read is normal. -/
theorem normal_of_ofManifest {body : Document} {workload : Workload}
    (h : ofManifest body = .ok workload) : workload.Normal := by
  simp only [ofManifest, bind_eq_ok_iff] at h
  obtain ⟨_, -, _, -, annotations, -, _, -, _, -, spec, -, _, -, _, -, _, -, _, -, _, -, _, -,
    hworkload⟩ := h
  obtain rfl := Except.ok.inj hworkload
  refine ⟨Document.orElse_orElse _ _, ?_, (Fields.get?_remove _ _ _).trans (if_pos rfl)⟩
  generalize (Fields.get? annotations fingerprintKey).getD .null = value
  cases h : value.truthy with
  | true => exact .inr (by simp [h])
  | false => exact .inl (Document.orNull_eq_null h)

/-- A normal workload is read back as it is, at the version that the cluster keeps it at. -/
theorem Normal.readBack_eq {workload : Workload} (h : workload.Normal) (version : Document) :
    workload.readBack version = { workload with resourceVersion := version } := by
  have hfingerprint :
      ((Fields.get? workload.storedAnnotations fingerprintKey).getD .null).orNull =
        workload.fingerprint := by
    rw [get?_storedAnnotations, h.annotations]
    rcases h.fingerprint with hnull | htruthy
    · rw [hnull]
      rfl
    · rw [if_pos htruthy]
      exact Document.orNull_eq_self h.fingerprint
  rw [readBack, h.spec, hfingerprint, remove_storedAnnotations,
    Fields.remove_eq_self h.annotations]

/-- An object whose fields are those of a workload's manifest is read as that workload, at the
version that its metadata tell. -/
theorem ofManifest_of_fields (workload : Workload) {fields metadata : Fields}
    (hmetadata : Fields.get? fields (.text "metadata") = some (.object metadata))
    (hspec : Fields.get? fields (.text "spec") = some workload.spec)
    (hname : Fields.get? metadata (.text "name") = some workload.name)
    (hscope : Fields.get? metadata (.text "namespace") = some workload.scope)
    (hlabels : Fields.get? metadata (.text "labels") = some (.object workload.labels))
    (hannotations :
      Fields.get? metadata (.text "annotations") = some (.object workload.storedAnnotations))
    (howners : Fields.get? metadata (.text "ownerReferences") =
      some (.list (workload.owners.map OwnerReference.manifest))) :
    ofManifest (.object fields) =
      .ok (workload.readBack ((Fields.get? metadata (.text "resourceVersion")).getD .null)) := by
  simp [ofManifest, hmetadata, hspec, hname, hscope, hlabels, hannotations, howners, readBack,
    bind, Except.bind, pure, Except.pure]

/-- The metadata that a manifest writes, by key. -/
theorem get?_metadata (workload : Workload) :
    ∃ metadata, workload.metadata = .object metadata ∧
      Fields.get? metadata (.text "name") = some workload.name ∧
      Fields.get? metadata (.text "namespace") = some workload.scope ∧
      Fields.get? metadata (.text "labels") = some (.object workload.labels) ∧
      Fields.get? metadata (.text "annotations") = some (.object workload.storedAnnotations) ∧
      Fields.get? metadata (.text "ownerReferences") =
        some (.list (workload.owners.map OwnerReference.manifest)) ∧
      Fields.get? metadata (.text "resourceVersion") =
        if workload.resourceVersion.truthy then some workload.resourceVersion else none := by
  refine ⟨_, rfl, ?_⟩
  by_cases h : workload.resourceVersion.truthy <;> simp [h, Fields.get?_cons]

/-- The parts that a manifest writes, by key. -/
theorem get?_manifest (workload : Workload) :
    ∃ fields, workload.manifest = .object fields ∧
      Fields.get? fields (.text "metadata") = some workload.metadata ∧
      Fields.get? fields (.text "spec") = some workload.spec :=
  ⟨_, rfl, by simp [Fields.get?_cons], by simp [Fields.get?_cons]⟩

/-- A workload is read back from its own manifest, at its own version if that counts as one. -/
theorem ofManifest_manifest (workload : Workload) :
    ofManifest workload.manifest = .ok (workload.readBack workload.resourceVersion.orNull) := by
  obtain ⟨fields, hfields, hmetadata, hspec⟩ := workload.get?_manifest
  obtain ⟨metadata, heq, hname, hscope, hlabels, hannotations, howners, hversion⟩ :=
    workload.get?_metadata
  rw [heq] at hmetadata
  rw [hfields, workload.ofManifest_of_fields hmetadata hspec hname hscope hlabels hannotations
    howners, hversion, Document.orNull, Document.orElse]
  split <;> rfl

/-- A workload that was read has the version that the metadata of its object tell. -/
theorem resourceVersion_of_ofManifest {fields metadata : Fields} {workload : Workload}
    (hmetadata : Fields.get? fields (.text "metadata") = some (.object metadata))
    (hread : ofManifest (.object fields) = .ok workload) :
    workload.resourceVersion = (Fields.get? metadata (.text "resourceVersion")).getD .null := by
  simp only [ofManifest, bind_eq_ok_iff, Document.lookupOrNull_object, hmetadata,
    Except.ok.injEq] at hread
  obtain ⟨-, rfl, hread⟩ := hread
  simp only [Option.getD_some, Document.orElse_object, Document.lookupOrNull_object,
    Except.ok.injEq] at hread
  obtain ⟨_, -, _, -, _, -, _, -, _, -, _, -, _, -, _, -, _, -, _, -, _, rfl, hread⟩ := hread
  exact (congrArg resourceVersion (Except.ok.inj hread)).symm

end Workload

end MonitorOperator
