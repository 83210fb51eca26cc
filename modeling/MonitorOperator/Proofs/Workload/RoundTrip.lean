import MonitorOperator.Proofs.Workload.Built

/-!
# Manifests lose nothing

A workload is read from its own manifest as it is, and what was read from any manifest is written in
one way from then on (`manifest_lossless`). A server may revise the manifest of a workload: it sets
a version and changes labels, annotations and the specification (`Workload.IsRevisedTo`). A built
workload is current in a revision exactly if the annotation with its fingerprint is as it was.
-/

namespace MonitorOperator

/-- The object that a document holds under a chain of names. What is missing or null counts as an
empty one. -/
def Document.Holds (document : Document) (names : List String) (fields : Fields) : Prop :=
  ((document.under? names).getD .null).orElse (.object []) = .object fields

namespace Workload

/-- What a server makes of those parts of a manifest that it may change. -/
structure Revision where
  version : Document
  labels : Fields
  annotations : Fields
  spec : Fields

/-- The stored document is the manifest of the workload in a revision. It may hold more than that,
and its fields may come in any order. -/
structure IsRevisedTo (workload : Workload) (revision : Revision) (stored : Document) : Prop where
  name : stored.under? ["metadata", "name"] = some workload.name
  scope : stored.under? ["metadata", "namespace"] = some workload.scope
  owners : stored.under? ["metadata", "ownerReferences"] =
    some (.list (workload.owners.map OwnerReference.manifest))
  version : (stored.under? ["metadata", "resourceVersion"]).getD .null = revision.version
  labels : stored.Holds ["metadata", "labels"] revision.labels
  annotations : stored.Holds ["metadata", "annotations"] revision.annotations
  spec : stored.Holds ["spec"] revision.spec

/-- The workload with the parts that the server may change as the revision has them. -/
def revised (workload : Workload) (revision : Revision) : Workload :=
  { workload with
    spec := .object revision.spec
    labels := revision.labels
    annotations := Fields.remove revision.annotations fingerprintKey
    fingerprint := ((Fields.get? revision.annotations fingerprintKey).getD .null).orNull
    resourceVersion := revision.version }

/-- A workload of which a version, if it has one, counts as present keeps it in its manifest. -/
theorem Normal.ofManifest_eq {workload : Workload} (h : workload.Normal)
    (hversion : workload.resourceVersion = .null ∨ workload.resourceVersion.truthy = true) :
    ofManifest workload.manifest = .ok workload := by
  rw [ofManifest_manifest, h.readBack_eq, Document.orNull_eq_self hversion]

/-- A version that does not count as present is not in the manifest. -/
theorem manifest_orNull (workload : Workload) :
    ({ workload with resourceVersion := workload.resourceVersion.orNull } : Workload).manifest =
      workload.manifest := by
  cases h : workload.resourceVersion.truthy with
  | true => rw [Document.orNull_eq_self (.inr h)]
  | false => simp [manifest, metadata, storedAnnotations, h]

/-- Every workload has its manifest in every revision. -/
theorem exists_isRevisedTo (workload : Workload) (revision : Revision) :
    ∃ stored, workload.IsRevisedTo revision stored := by
  let metadata : Fields :=
    [(.text "name", workload.name), (.text "namespace", workload.scope),
      (.text "ownerReferences", .list (workload.owners.map OwnerReference.manifest)),
      (.text "resourceVersion", revision.version), (.text "labels", .object revision.labels),
      (.text "annotations", .object revision.annotations)]
  refine ⟨.object [(.text "metadata", .object metadata), (.text "spec", .object revision.spec)], ?_⟩
  constructor <;>
    simp [Document.Holds, Document.under?, Document.lookup, metadata, Fields.get?_cons]

/-- A manifest in a revision is read as the workload in that revision. -/
theorem IsRevisedTo.ofManifest_eq {workload : Workload} {revision : Revision} {stored : Document}
    (h : workload.IsRevisedTo revision stored) :
    ofManifest stored = .ok (workload.revised revision) := by
  obtain ⟨hname, hscope, howners, hversion, hlabels, hannotations, hspec⟩ := h
  obtain ⟨fields, metadata, rfl, hmetadata⟩ := Document.exists_of_under?_pair hname
  simp only [Document.Holds, Document.under?_pair hmetadata, Document.under?_singleton] at *
  simp [ofManifest, *, revised, bind, Except.bind, pure, Except.pure]

section Fingerprint

variable {workload : Workload} {revision : Revision} {fingerprint : String}

/-- A workload with a fingerprint is unchanged in a revision exactly if the annotation is. -/
theorem hasChanged_revised_iff (hfingerprint : workload.fingerprint = .text fingerprint)
    (hnonempty : fingerprint ≠ "") :
    (workload.revised revision).hasChanged workload = false ↔
      Fields.get? revision.annotations fingerprintKey = some workload.fingerprint := by
  have htruthy : (Document.text fingerprint).truthy = true := by
    simpa [Document.truthy, Scalar.truthy] using hnonempty
  have hlive : (workload.revised revision).fingerprint =
      ((Fields.get? revision.annotations fingerprintKey).getD .null).orNull := rfl
  rw [hasChanged, hfingerprint, htruthy, hlive, Document.truthy_orNull]
  cases Fields.get? revision.annotations fingerprintKey with
  | none => simp [Document.truthy, Scalar.truthy]
  | some value =>
      rw [Option.getD_some, Option.some.injEq, Bool.and_true]
      cases hvalue : value.truthy with
      | true => simp [Document.orNull_eq_self (.inr hvalue), Document.agrees_text_iff]
      | false =>
          have hne : value ≠ .text fingerprint := by
            rintro rfl
            simp [htruthy] at hvalue
          simpa using hne

end Fingerprint

/-- A workload that was built is current as long as the annotation with its fingerprint is. -/
structure StaysCurrent (desired : Workload) : Prop where
  /-- It is read from its manifest as it was built. -/
  same : ofManifest desired.manifest = .ok desired
  /-- What is read from its manifest is current. -/
  current : classify (some desired) desired = .current
  /-- Every revision of its manifest can be read, and is current exactly if the annotation with the
  fingerprint is intact. Where that is missing or blank, the workload is stale. -/
  revised : ∀ revision stored, desired.IsRevisedTo revision stored →
    ∃ live, ofManifest stored = .ok live ∧
      (classify (some live) desired = .current ↔
        Fields.get? revision.annotations fingerprintKey = some desired.fingerprint) ∧
      (((Fields.get? revision.annotations fingerprintKey).getD .null).truthy = false →
        classify (some live) desired = .stale)

/-- Every built workload stays current. -/
theorem staysCurrent_of_desiredWorkload {monitor : Monitor} {clusterId : String}
    {desired : Workload} (h : monitor.desiredWorkload clusterId = .ok desired) :
    StaysCurrent desired := by
  obtain ⟨fingerprint, hnonempty, hfingerprint, -⟩ := Monitor.fingerprint_of_desiredWorkload h
  have hversion : desired.resourceVersion = .null := by
    obtain ⟨-, _, _, -, -, rfl⟩ := Monitor.desiredWorkload_eq_ok_iff.1 h
    rfl
  have hnormal := Monitor.normal_of_desiredWorkload h desired.resourceVersion
  refine ⟨hnormal.ofManifest_eq (.inl hversion), ?_, ?_⟩
  · rw [classify, Monitor.hasChanged_of_desiredWorkload h desired.resourceVersion]
    rfl
  · intro revision stored hrevised
    have hiff : (desired.revised revision).hasChanged desired = false ↔
        Fields.get? revision.annotations fingerprintKey = some desired.fingerprint :=
      hasChanged_revised_iff hfingerprint hnonempty
    refine ⟨_, hrevised.ofManifest_eq, ?_, fun hblank => ?_⟩
    · rw [← hiff, classify]
      cases (desired.revised revision).hasChanged desired <;> simp
    · have hchanged : (desired.revised revision).hasChanged desired = true := by
        rw [← Bool.not_eq_false, hiff]
        intro hintact
        simp [hintact, hfingerprint, Document.truthy, Scalar.truthy, hnonempty] at hblank
      rw [classify, hchanged]
      rfl

/-- Manifests lose nothing: of a workload whose fingerprint and version, if it has them, are not
empty, and whose annotations leave the fingerprint out, and of what was read from a manifest. A
built workload stays current as long as its fingerprint is kept. -/
theorem manifest_lossless :
    (∀ (workload : Workload) (spec : Fields), workload.spec = .object spec →
      (workload.fingerprint = .null ∨ workload.fingerprint.truthy = true) →
      (workload.resourceVersion = .null ∨ workload.resourceVersion.truthy = true) →
      Fields.get? workload.annotations fingerprintKey = none →
      ofManifest workload.manifest = .ok workload) ∧
    (∀ (body : Document) (workload : Workload), ofManifest body = .ok workload →
      ∃ again, ofManifest workload.manifest = .ok again ∧ again.manifest = workload.manifest) ∧
    ∀ (monitor : Monitor) (clusterId : String) (desired : Workload),
      monitor.desiredWorkload clusterId = .ok desired → StaysCurrent desired := by
  refine ⟨fun workload spec hspec hfingerprint hversion hannotations => ?_,
    fun body workload h => ?_, fun monitor clusterId desired h => staysCurrent_of_desiredWorkload h⟩
  · have hnormal : workload.Normal :=
      ⟨by rw [hspec, Document.orElse_object], hfingerprint, hannotations⟩
    exact hnormal.ofManifest_eq hversion
  · refine ⟨_, ofManifest_manifest workload, ?_⟩
    rw [(normal_of_ofManifest h).readBack_eq, manifest_orNull]

/-- The workload of the plain monitor is read as it was built. It is current in a revision that
keeps its fingerprint next to another annotation, and stale in one that blanks it. -/
theorem manifest_lossless_plain :
    ∃ desired stored live blanked other,
      Monitor.plain.desiredWorkload "c" = .ok desired ∧
      ofManifest desired.manifest = .ok desired ∧
      desired.IsRevisedTo ⟨.text "7", [], [(.text "note", .text "n"),
        (fingerprintKey, desired.fingerprint)], []⟩ stored ∧
      ofManifest stored = .ok live ∧ classify (some live) desired = .current ∧
      desired.IsRevisedTo ⟨.text "8", [], [(fingerprintKey, .text "")], []⟩ blanked ∧
      ofManifest blanked = .ok other ∧ classify (some other) desired = .stale := by
  obtain ⟨-, -, hbuilt⟩ := manifest_lossless
  obtain ⟨desired, hdesired⟩ := Monitor.exists_desiredWorkload_plain "c"
  have hstays := hbuilt Monitor.plain "c" desired hdesired
  obtain ⟨stored, hstored⟩ := desired.exists_isRevisedTo
    ⟨.text "7", [], [(.text "note", .text "n"), (fingerprintKey, desired.fingerprint)], []⟩
  obtain ⟨blanked, hblanked⟩ := desired.exists_isRevisedTo
    ⟨.text "8", [], [(fingerprintKey, .text "")], []⟩
  obtain ⟨live, hlive, hcurrent, -⟩ := hstays.revised _ stored hstored
  obtain ⟨other, hother, -, hstale⟩ := hstays.revised _ blanked hblanked
  exact ⟨desired, stored, live, blanked, other, hdesired, hstays.same, hstored, hlive,
    hcurrent.2 rfl, hblanked, hother, hstale rfl⟩

end Workload

end MonitorOperator
