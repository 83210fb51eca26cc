import MonitorOperator.Proofs.Workload.ReadBack

/-!
# Versions of objects

The API server keeps an object as it came, but for the version in its metadata: `versioned?` puts a
version there. The manifest of a workload is read back from what the server keeps of it
(`ofManifest_versioned?`), and a workload that was read has the version that its object carries.
-/

namespace MonitorOperator.Cluster

/-- The fields of an object's metadata, if it has metadata that are an object. -/
def metadataOf? : Document → Option Fields
  | .object fields =>
      match Fields.get? fields (.text "metadata") with
      | some (.object metadata) => some metadata
      | _ => none
  | _ => none

/-- The name in an object's metadata. -/
def nameOf? (body : Document) : Option Document :=
  (metadataOf? body).bind (Fields.get? · (.text "name"))

/-- The version that an object carries. -/
def versionOf? (body : Document) : Option Document :=
  (metadataOf? body).bind (Fields.get? · (.text "resourceVersion"))

/-- An object as the server keeps it: as it came, but for the version. A body without metadata is
not well-formed and is not kept. -/
def versioned? (body : Document) (version : String) : Option Document :=
  match body with
  | .object fields =>
      (metadataOf? body).map fun metadata =>
        .object (Fields.put fields (.text "metadata")
          (.object (Fields.put metadata (.text "resourceVersion") (.text version))))
  | _ => none

/-- Metadata that are an object are found in an object. -/
theorem metadataOf?_eq_some {body : Document} {metadata : Fields}
    (h : metadataOf? body = some metadata) :
    ∃ fields, body = .object fields ∧
      Fields.get? fields (.text "metadata") = some (.object metadata) := by
  cases body with
  | object fields =>
      refine ⟨fields, rfl, ?_⟩
      simp only [metadataOf?] at h
      split at h
      · next found => simpa [found] using h
      · cases h
  | scalar value => cases h
  | list items => cases h

/-- What the server keeps carries the version that it was given. -/
theorem versionOf?_versioned? {body stored : Document} {version : String}
    (h : versioned? body version = some stored) : versionOf? stored = some (.text version) := by
  cases body with
  | object fields =>
      simp only [versioned?, Option.map_eq_some_iff] at h
      obtain ⟨metadata, -, rfl⟩ := h
      simp [versionOf?, metadataOf?, Fields.get?_put]
  | scalar value => cases h
  | list items => cases h

/-- The manifest of a workload names it. -/
theorem nameOf?_manifest (workload : Workload) :
    nameOf? workload.manifest = some workload.name := by
  obtain ⟨fields, hfields, hmetadata, -⟩ := workload.get?_manifest
  obtain ⟨metadata, heq, hname, -⟩ := workload.get?_metadata
  simp [nameOf?, metadataOf?, hfields, hmetadata, heq, hname]

/-- The manifest of a workload carries the version that the workload has, if it has one. -/
theorem versionOf?_manifest (workload : Workload) :
    versionOf? workload.manifest =
      if workload.resourceVersion.truthy then some workload.resourceVersion else none := by
  obtain ⟨fields, hfields, hmetadata, -⟩ := workload.get?_manifest
  obtain ⟨metadata, heq, -, -, -, -, -, hversion⟩ := workload.get?_metadata
  simp [versionOf?, metadataOf?, hfields, hmetadata, heq, hversion]

/-- The manifest of a workload can be kept, as an object. -/
theorem exists_versioned?_manifest (workload : Workload) (version : String) :
    ∃ stored, versioned? workload.manifest version = some (.object stored) := by
  obtain ⟨fields, hfields, hmetadata, -⟩ := workload.get?_manifest
  obtain ⟨metadata, heq, -⟩ := workload.get?_metadata
  simp [versioned?, metadataOf?, hfields, hmetadata, heq]

/-- What the server keeps of a workload's manifest is read back as the workload. -/
theorem ofManifest_versioned? {workload : Workload} {version : String} {stored : Document}
    (h : versioned? workload.manifest version = some stored) :
    Workload.ofManifest stored = .ok (workload.readBack (.text version)) := by
  obtain ⟨fields, hfields, hmetadata, hspec⟩ := workload.get?_manifest
  obtain ⟨metadata, heq, hname, hscope, hlabels, hannotations, howners, -⟩ :=
    workload.get?_metadata
  simp only [versioned?, metadataOf?, hfields, hmetadata, heq, Option.map_some,
    Option.some.injEq] at h
  subst h
  rw [workload.ofManifest_of_fields (by rw [Fields.get?_put, if_pos rfl])]
  all_goals simp [Fields.get?_put, *]

/-- A workload that was read has the version that its object carries. -/
theorem resourceVersion_of_versionOf? {body version : Document} {workload : Workload}
    (hread : Workload.ofManifest body = .ok workload) (hversion : versionOf? body = some version) :
    workload.resourceVersion = version := by
  simp only [versionOf?, Option.bind_eq_some_iff] at hversion
  obtain ⟨metadata, hmetadata, hversion⟩ := hversion
  obtain ⟨fields, rfl, hfields⟩ := metadataOf?_eq_some hmetadata
  rw [Workload.resourceVersion_of_ofManifest hfields hread, hversion, Option.getD_some]

end MonitorOperator.Cluster
