import MonitorOperator.Proofs.Cluster.Versioned
import MonitorOperator.Proofs.Document.CanonicalText
import MonitorOperator.Proofs.Document.ReorderedFields
import MonitorOperator.Workload.Build

/-!
# Built workloads

What `Monitor.desiredWorkload` returns (`desiredWorkload_eq_ok_iff`): a workload whose fingerprint
is that of its other fields, and stays so when the cluster keeps it at any version and it is read
back. Monitors of JSON build workloads of JSON. What a fingerprint hashes are the fields that `Same`
compares.
-/

namespace MonitorOperator

open Document (IsJson Reordered ofFields Entrywise)

/-- A hash has digits. -/
theorem Text.Sha256.hexHash_ne_empty (message : Utf8.Bytes) : hexHash message ≠ "" := by
  intro h
  have hdigits := congrArg String.toList h
  rw [hexHash, String.toList_ofList] at hdigits
  simp [hash, hexDigits] at hdigits

namespace Workload

/-- The workloads are the same in all that the operator decides, up to the order of fields. -/
structure Same (left right : Workload) : Prop where
  name : Reordered left.name right.name
  scope : Reordered left.scope right.scope
  labels : Reordered (.object left.labels) (.object right.labels)
  owners : Reordered (.list (left.owners.map OwnerReference.manifest))
    (.list (right.owners.map OwnerReference.manifest))
  spec : Reordered left.spec right.spec

/-- What the fingerprint hashes is the same exactly if the workloads are. -/
theorem reordered_identity_iff {left right : Workload} :
    Reordered left.identity right.identity ↔ Same left right := by
  refine (Document.reordered_ofFields_iff_entrywise ?_ ?_).trans ?_
  · rfl
  · simp
  simp only [Entrywise, List.forall₂_cons, List.forall₂_nil_right_iff, true_and, and_true]
  constructor
  · rintro ⟨hname, hscope, hlabels, howners, hspec⟩
    exact ⟨hname, hscope, hlabels, howners, hspec⟩
  · rintro ⟨hname, hscope, hlabels, howners, hspec⟩
    exact ⟨hname, hscope, hlabels, howners, hspec⟩

/-- The canonical texts of two workloads are told apart by their hashes. -/
def CollisionFree (left right : Workload) : Prop :=
  ∀ text other, left.identity.canonicalText? = some text →
    right.identity.canonicalText? = some other →
    Text.Sha256.hexHash (Text.Utf8.encode text) = Text.Sha256.hexHash (Text.Utf8.encode other) →
    text = other

/-- The live workload is what is read of what the server keeps of a workload, at whatever version
that was written over. -/
def IsKeptAs (workload live : Workload) : Prop :=
  ∃ carried version stored, Cluster.versioned?
      ({ workload with resourceVersion := carried } : Workload).manifest version = some stored ∧
    ofManifest stored = .ok live

/-- A fingerprint is the hash of the canonical text. -/
theorem computeFingerprint_eq_ok_iff {workload : Workload} {fingerprint : String} :
    workload.computeFingerprint = .ok fingerprint ↔
      ∃ text, workload.identity.canonicalText? = some text ∧
        Text.Sha256.hexHash (Text.Utf8.encode text) = fingerprint := by
  unfold computeFingerprint Document.fingerprint
  cases workload.identity.canonicalText? <;> simp

/-- Workloads of JSON with one fingerprint are the same if their texts do not collide. -/
theorem same_of_fingerprint {left right : Workload} {fingerprint : String}
    (hleft : left.identity.IsJson) (hright : right.identity.IsJson)
    (hfree : CollisionFree left right) (hleft_hash : left.computeFingerprint = .ok fingerprint)
    (hright_hash : right.computeFingerprint = .ok fingerprint) : Same left right := by
  obtain ⟨text, htext, hhash⟩ := computeFingerprint_eq_ok_iff.1 hleft_hash
  obtain ⟨other, hother, hhash'⟩ := computeFingerprint_eq_ok_iff.1 hright_hash
  have hsame := hfree text other htext hother (hhash.trans hhash'.symm)
  rw [← reordered_identity_iff, ← hleft.canonicalText?_eq_iff hright, htext, hother, hsame]

end Workload

namespace Monitor

/-- The fields of the monitor that its workload is built from are JSON. -/
structure IsJson (monitor : Monitor) : Prop where
  name : monitor.name.IsJson
  scope : monitor.scope.IsJson
  uid : monitor.uid.IsJson
  image : monitor.spec.image.IsJson
  labels : (Document.object monitor.spec.labels).IsJson
  nodeSelector : (Document.object monitor.spec.nodeSelector).IsJson
  tolerations : (Document.list monitor.spec.tolerations).IsJson
  resources : (Document.object monitor.spec.resources).IsJson
  env : (Document.list monitor.spec.env).IsJson
  serviceAccountName : monitor.spec.serviceAccountName.IsJson
  priorityClassName : monitor.spec.priorityClassName.IsJson
  valueFrom : ∀ properties, monitor.spec.customProperties = some properties →
    properties.valueFrom.IsJson

/-- The workload that the monitor asks for, before it gets its fingerprint. -/
def unmarkedWorkload (monitor : Monitor) (clusterId : String) (env : List Document) : Workload :=
  { name := .text monitor.workloadName
    scope := monitor.scope
    spec := monitor.statefulSetSpec (monitor.reservedEnv clusterId ++ env)
    labels := monitor.labels
    owners := [monitor.ownerReference] }

/-- A build succeeds if the monitor has an owner's identity, its environment can be read, and what
is built has a fingerprint. -/
theorem desiredWorkload_eq_ok_iff {monitor : Monitor} {clusterId : String} {workload : Workload} :
    monitor.desiredWorkload clusterId = .ok workload ↔
      monitor.uid.truthy = true ∧ ∃ env fingerprint, userEnv monitor.spec.env = .ok env ∧
        (monitor.unmarkedWorkload clusterId env).computeFingerprint = .ok fingerprint ∧
        workload =
          { monitor.unmarkedWorkload clusterId env with fingerprint := .text fingerprint } := by
  unfold desiredWorkload
  cases monitor.uid.truthy
  · simp [bind, Except.bind, throw, throwThe, MonadExceptOf.throw]
  · simp only [Bool.not_true, Bool.false_eq_true, ↓reduceIte, bind_eq_ok_iff, true_and]
    constructor
    · rintro ⟨env, henv, fingerprint, hfingerprint, hworkload⟩
      exact ⟨env, fingerprint, henv, hfingerprint, (Except.ok.inj hworkload).symm⟩
    · rintro ⟨env, fingerprint, henv, hfingerprint, rfl⟩
      exact ⟨env, henv, fingerprint, hfingerprint, rfl⟩

/-- The user's entries that are kept are among those that were given. -/
theorem mem_of_mem_userEnv {given kept : List Document} (h : userEnv given = .ok kept) :
    ∀ entry ∈ kept, entry ∈ given := by
  induction given generalizing kept with
  | nil =>
      obtain rfl := Except.ok.inj h
      simp
  | cons first given ih =>
      simp only [userEnv, bind_eq_ok_iff] at h
      obtain ⟨_, -, name, -, later, hlater, hkept⟩ := h
      obtain rfl := Except.ok.inj hkept
      intro entry hentry
      split at hentry
      · exact List.mem_cons_of_mem _ (ih hlater entry hentry)
      · rcases List.mem_cons.1 hentry with rfl | hrest
        · exact List.mem_cons_self
        · exact List.mem_cons_of_mem _ (ih hlater entry hrest)

namespace IsJson

variable {monitor : Monitor}

/-- The labels of a workload are JSON. -/
theorem labels_isJson (h : monitor.IsJson) : (Document.object monitor.labels).IsJson :=
  Document.isJson_put (Document.isJson_put (Document.isJson_put h.labels (by simp)) h.name)
    (by simp)

/-- The specification of a pod is JSON. -/
theorem podSpec_isJson (h : monitor.IsJson) {env : List Document}
    (henv : (Document.list env).IsJson) : (monitor.podSpec env).IsJson := by
  have hcontainer : (monitor.container env).IsJson := by
    unfold container
    split <;> simp [volumeMounts, volumeName, h.image, h.resources, henv]
  have hsecret : ∀ properties, monitor.spec.customProperties = some properties →
      (monitor.secretName properties).IsJson := by
    intro properties hproperties
    unfold secretName
    split
    · exact h.valueFrom properties hproperties
    · simp
  have hnodes := h.nodeSelector
  have htolerations := h.tolerations
  unfold podSpec
  cases hproperties : monitor.spec.customProperties with
  | none =>
      split <;>
        simp_all [h.serviceAccountName, h.priorityClassName]
  | some properties =>
      have hname := hsecret properties hproperties
      split <;>
        simp_all [h.serviceAccountName, h.priorityClassName, volumes, volumeName]

/-- The environment of a container is JSON. -/
theorem env_isJson (h : monitor.IsJson) (clusterId : String) {env : List Document}
    (henv : userEnv monitor.spec.env = .ok env) :
    (Document.list (monitor.reservedEnv clusterId ++ env)).IsJson := by
  refine .list fun entry hentry => ?_
  rcases List.mem_append.1 hentry with hreserved | huser
  · have hscope := h.scope
    simp only [reservedEnv, List.mem_cons, List.not_mem_nil, or_false] at hreserved
    rcases hreserved with rfl | rfl | rfl <;> simp [variableEntry, hscope]
  · exact Document.isJson_list_iff.1 h.env entry (mem_of_mem_userEnv henv entry huser)

/-- What is built from a monitor of JSON is JSON. -/
theorem identity_isJson (h : monitor.IsJson) (clusterId : String) {env : List Document}
    (henv : userEnv monitor.spec.env = .ok env) :
    (monitor.unmarkedWorkload clusterId env).identity.IsJson := by
  have hlabels := h.labels_isJson
  have hpod := h.podSpec_isJson (h.env_isJson clusterId henv)
  have hselector : (Document.object monitor.selectorLabels).IsJson := by
    rw [show Document.object monitor.selectorLabels =
      ofFields [("app.kubernetes.io/name", .text "kubemon"),
        ("app.kubernetes.io/instance", monitor.name),
        ("app.kubernetes.io/component", .text workloadSuffix)] from rfl]
    simp [h.name]
  simp [Workload.identity, unmarkedWorkload, statefulSetSpec, ownerReference,
    OwnerReference.manifest, h.scope, h.name, h.uid, hlabels, hpod, hselector]

end IsJson

section Built

variable {monitor : Monitor} {clusterId : String} {desired : Workload}

/-- A built workload carries its own fingerprint. -/
theorem fingerprint_of_desiredWorkload (h : monitor.desiredWorkload clusterId = .ok desired) :
    ∃ fingerprint, fingerprint ≠ "" ∧ desired.fingerprint = .text fingerprint ∧
      desired.computeFingerprint = .ok fingerprint := by
  obtain ⟨-, env, fingerprint, -, hfingerprint, rfl⟩ := desiredWorkload_eq_ok_iff.1 h
  obtain ⟨text, -, hhash⟩ := Workload.computeFingerprint_eq_ok_iff.1 hfingerprint
  exact ⟨fingerprint, hhash ▸ Text.Sha256.hexHash_ne_empty _, rfl, hfingerprint⟩

/-- A built workload is normal, whatever version it is given. -/
theorem normal_of_desiredWorkload (h : monitor.desiredWorkload clusterId = .ok desired)
    (version : Document) : ({ desired with resourceVersion := version } : Workload).Normal := by
  obtain ⟨fingerprint, hnonempty, hfingerprint, -⟩ := fingerprint_of_desiredWorkload h
  have htruthy : desired.fingerprint.truthy = true := by
    simpa [hfingerprint, Document.truthy, Scalar.truthy] using hnonempty
  obtain ⟨-, env, _, -, -, rfl⟩ := desiredWorkload_eq_ok_iff.1 h
  exact ⟨rfl, .inr htruthy, rfl⟩

/-- A built workload is read back as it was built, at the version that the cluster keeps it at. -/
theorem readBack_of_desiredWorkload (h : monitor.desiredWorkload clusterId = .ok desired)
    (carried kept : Document) :
    ({ desired with resourceVersion := carried } : Workload).readBack kept =
      { desired with resourceVersion := kept } :=
  (normal_of_desiredWorkload h carried).readBack_eq kept

/-- What the server keeps of a built workload, at whatever version it was written over, is read back
as it was built. -/
theorem ofManifest_of_desiredWorkload (h : monitor.desiredWorkload clusterId = .ok desired)
    {carried stored : Document} {version : String}
    (hstored : Cluster.versioned?
      ({ desired with resourceVersion := carried } : Workload).manifest version = some stored) :
    Workload.ofManifest stored = .ok { desired with resourceVersion := .text version } := by
  rw [Cluster.ofManifest_versioned? hstored, readBack_of_desiredWorkload h]

/-- A built workload has not changed, at whatever version it is kept. -/
theorem hasChanged_of_desiredWorkload (h : monitor.desiredWorkload clusterId = .ok desired)
    (version : Document) :
    ({ desired with resourceVersion := version } : Workload).hasChanged desired = false := by
  obtain ⟨fingerprint, hnonempty, hfingerprint, -⟩ := fingerprint_of_desiredWorkload h
  simp [Workload.hasChanged, hfingerprint, Document.truthy, Scalar.truthy, hnonempty,
    Document.agrees]

/-- What is built from a monitor of JSON is JSON. -/
theorem IsJson.desiredWorkload_isJson (hjson : monitor.IsJson)
    (h : monitor.desiredWorkload clusterId = .ok desired) : desired.identity.IsJson := by
  obtain ⟨-, env, fingerprint, henv, -, rfl⟩ := desiredWorkload_eq_ok_iff.1 h
  exact hjson.identity_isJson clusterId henv

/-- A monitor of JSON with an owner's identity has a workload if its environment can be read. -/
theorem IsJson.exists_desiredWorkload (hjson : monitor.IsJson) (huid : monitor.uid.truthy = true)
    {env : List Document} (henv : userEnv monitor.spec.env = .ok env) (clusterId : String) :
    ∃ desired, monitor.desiredWorkload clusterId = .ok desired := by
  have htext := (hjson.identity_isJson clusterId henv).canonicalText?_eq
  have hfingerprint := Workload.computeFingerprint_eq_ok_iff.2 ⟨_, htext, rfl⟩
  exact ⟨_, desiredWorkload_eq_ok_iff.2 ⟨huid, env, _, henv, hfingerprint, rfl⟩⟩

end Built

section Plain

/-- A monitor that asks for as little as it can. -/
def plain : Monitor where
  name := .text "mon"
  scope := .text "prod"
  uid := .text "u"
  resourceVersion := .null
  spec :=
    { image := .text "i"
      customProperties := none
      endpoint := .null
      replicas := 1
      labels := []
      nodeSelector := []
      tolerations := []
      resources := []
      env := []
      serviceAccountName := .text "s"
      priorityClassName := .null }
  status := { imageVersion := .null, imageHash := .null, updated := none }

/-- The plain monitor is one of JSON. -/
theorem isJson_plain : plain.IsJson := by
  have hempty : (Document.object []).IsJson :=
    Document.isJson_object_iff.2 ⟨[], rfl, List.nodup_nil, by simp⟩
  constructor <;> first | exact hempty | simp [plain, Scalar.IsJson]

/-- The plain monitor has a workload. -/
theorem exists_desiredWorkload_plain (clusterId : String) :
    ∃ desired, plain.desiredWorkload clusterId = .ok desired :=
  isJson_plain.exists_desiredWorkload (by decide) rfl clusterId

end Plain

end Monitor

end MonitorOperator
