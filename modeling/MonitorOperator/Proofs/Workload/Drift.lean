import MonitorOperator.Proofs.Document.LiteralText
import MonitorOperator.Proofs.Workload.Built

/-!
# Drift

What of a monitor its workload is made of is its `Essence`. `drift_exact` says that two monitors
have workloads with one canonical text exactly if their essences are the same up to the order of
fields. Their names are then equal even in that order, since the name of a workload shows the name
of the monitor. A live workload is then stale exactly after a change of the essence, as long as
hashes do not collide.
-/

namespace MonitorOperator

open Document (Reordered ofFields Entrywise)

/-- What of a monitor and its cluster a workload is made of. -/
structure Essence where
  name : Document
  scope : Document
  uid : Document
  clusterId : String
  image : Document
  replicas : Int
  /-- The labels of the user that the operator does not override. -/
  labels : Fields
  nodeSelector : Fields
  tolerations : List Document
  resources : Fields
  /-- The entries of the user's environment that the operator does not override. -/
  env : List Document
  serviceAccountName : Document
  /-- The name of the priority class, unless it is empty. -/
  priorityClassName : Option Document
  /-- The name of the secret with the custom properties, if there are any. -/
  secretName : Option Document

/-- The essences are the same up to the order of fields. The names, which other names are made of,
are equal. -/
structure Essence.Same (left right : Essence) : Prop where
  name : left.name = right.name
  scope : Reordered left.scope right.scope
  uid : Reordered left.uid right.uid
  clusterId : left.clusterId = right.clusterId
  image : Reordered left.image right.image
  replicas : left.replicas = right.replicas
  labels : Reordered (.object left.labels) (.object right.labels)
  nodeSelector : Reordered (.object left.nodeSelector) (.object right.nodeSelector)
  tolerations : Reordered (.list left.tolerations) (.list right.tolerations)
  resources : Reordered (.object left.resources) (.object right.resources)
  env : Reordered (.list left.env) (.list right.env)
  serviceAccountName : Reordered left.serviceAccountName right.serviceAccountName
  priorityClassName : Option.Rel Reordered left.priorityClassName right.priorityClassName
  secretName : Option.Rel Reordered left.secretName right.secretName

/-- An essence is the same as itself. -/
theorem Essence.Same.refl (essence : Essence) : Same essence essence where
  name := rfl
  scope := .refl _
  uid := .refl _
  clusterId := rfl
  image := .refl _
  replicas := rfl
  labels := .refl _
  nodeSelector := .refl _
  tolerations := .refl _
  resources := .refl _
  env := .refl _
  serviceAccountName := .refl _
  priorityClassName := by cases essence.priorityClassName <;> simp
  secretName := by cases essence.secretName <;> simp

namespace Monitor

/-- The keys of the labels that select the pods. -/
def selectorKeys : List String :=
  ["app.kubernetes.io/name", "app.kubernetes.io/instance", "app.kubernetes.io/component"]

/-- The labels that select the pods of a monitor with a name. -/
def selectorEntries (name : Document) : Keyed Document :=
  [("app.kubernetes.io/name", .text "kubemon"), ("app.kubernetes.io/instance", name),
    ("app.kubernetes.io/component", .text workloadSuffix)]

/-- The key of a label belongs to the operator. -/
def isSelectorKey (key : Scalar) : Bool :=
  selectorKeys.any fun selector => key.agrees (.text selector)

/-- The labels that the operator does not override. -/
def ownLabels (labels : Fields) : Fields :=
  labels.filter fun label => !isSelectorKey label.1

/-- The entry of an environment has a name that belongs to the operator. -/
def hasReservedName (entry : Document) : Bool :=
  match entry.lookupOrNull "name" with
  | .ok (.scalar name) => isReserved name
  | _ => false

/-- The entries of an environment that the operator does not override. -/
def ownEnv (env : List Document) : List Document :=
  env.filter fun entry => !hasReservedName entry

/-- The name of the priority class of the pod, unless it is empty. -/
def priorityClass? (monitor : Monitor) : Option Document :=
  if monitor.spec.priorityClassName.truthy then some monitor.spec.priorityClassName else none

/-- The name of the secret that the pod mounts, if the monitor has custom properties. -/
def secretName? (monitor : Monitor) : Option Document :=
  monitor.spec.customProperties.map monitor.secretName

/-- What of a monitor and its cluster the workload is made of. -/
def essence (monitor : Monitor) (clusterId : String) : Essence where
  name := monitor.name
  scope := monitor.scope
  uid := monitor.uid
  clusterId := clusterId
  image := monitor.spec.image
  replicas := monitor.spec.replicas
  labels := ownLabels monitor.spec.labels
  nodeSelector := monitor.spec.nodeSelector
  tolerations := monitor.spec.tolerations
  resources := monitor.spec.resources
  env := ownEnv monitor.spec.env
  serviceAccountName := monitor.spec.serviceAccountName
  priorityClassName := monitor.priorityClass?
  secretName := monitor.secretName?

/-- The monitor with another status, version and endpoint, with another value among its custom
properties, if it has any, and with other labels and another environment. -/
def edited (monitor : Monitor) (status : MonitorStatus) (resourceVersion endpoint value : Document)
    (labels : Fields) (env : List Document) : Monitor where
  name := monitor.name
  scope := monitor.scope
  uid := monitor.uid
  resourceVersion := resourceVersion
  spec :=
    { monitor.spec with
      endpoint
      labels
      env
      customProperties := monitor.spec.customProperties.map ({ · with value }) }
  status := status

/-- An edit that leaves alone what is not overridden does not touch the essence. -/
theorem essence_edited {monitor : Monitor} {labels : Fields} {env : List Document}
    (hlabels : ownLabels labels = ownLabels monitor.spec.labels)
    (henv : ownEnv env = ownEnv monitor.spec.env) (status : MonitorStatus)
    (resourceVersion endpoint value : Document) (clusterId : String) :
    (monitor.edited status resourceVersion endpoint value labels env).essence clusterId =
      monitor.essence clusterId := by
  have hsecret : (monitor.edited status resourceVersion endpoint value labels env).secretName? =
      monitor.secretName? := by
    simp only [secretName?, edited, Option.map_map]
    rfl
  rw [essence, hsecret]
  simp only [edited, hlabels, henv]
  rfl

/-- What is kept of a user's environment are the entries that the operator does not override. -/
theorem userEnv_eq {given kept : List Document} (h : userEnv given = .ok kept) :
    kept = ownEnv given := by
  induction given generalizing kept with
  | nil => exact (Except.ok.inj h).symm
  | cons entry given ih =>
      simp only [userEnv, bind_eq_ok_iff] at h
      obtain ⟨found, hfound, name, hname, later, hlater, hkept⟩ := h
      obtain rfl := Except.ok.inj hkept
      have hreserved : hasReservedName entry = isReserved name := by
        cases found with
        | scalar value =>
            obtain rfl := Except.ok.inj hname
            rw [hasReservedName, hfound]
        | list _ | object _ => cases hname
      rw [ih hlater, ownEnv, ownEnv, List.filter_cons, hreserved]
      cases isReserved name <;> rfl

variable {left right : Monitor}

/-- Environments are the same if the operator's entries are and the user's are. -/
theorem reordered_env_iff {leftId rightId : String} {leftEnv rightEnv : List Document} :
    Reordered (.list (left.reservedEnv leftId ++ leftEnv))
        (.list (right.reservedEnv rightId ++ rightEnv)) ↔
      Reordered left.scope right.scope ∧ leftId = rightId ∧
        Reordered (.list leftEnv) (.list rightEnv) := by
  have hentry : ∀ (name : String) (value other : Document),
      Reordered (variableEntry name value) (variableEntry name other) ↔ Reordered value other := by
    intro name value other
    refine (Document.reordered_ofFields_iff_entrywise ?_ ?_).trans ?_
    · rfl
    · simp
    · simp [Entrywise]
  simp only [Document.reordered_list_iff, Document.list.injEq, exists_eq_left', reservedEnv,
    List.cons_append, List.nil_append, List.forall₂_cons, hentry, Document.reordered_text_iff]
  simp

/-- Owners are the same if their names and identities are. -/
theorem reordered_ownerReference_iff :
    Reordered left.ownerReference.manifest right.ownerReference.manifest ↔
      Reordered left.name right.name ∧ Reordered left.uid right.uid := by
  refine (Document.reordered_ofFields_iff_entrywise ?_ ?_).trans ?_
  · rfl
  · simp
  · simp [Entrywise, ownerReference]

/-- Containers are the same if their images, environments and resources are, and both have
properties or none. -/
theorem reordered_container_iff {leftEnv rightEnv : List Document} :
    Reordered (left.container leftEnv) (right.container rightEnv) ↔
      (Reordered left.spec.image right.spec.image ∧
        Reordered (.list leftEnv) (.list rightEnv) ∧
        Reordered (.object left.spec.resources) (.object right.spec.resources)) ∧
        left.hasCustomProperties = right.hasCustomProperties := by
  have hform : ∀ (monitor : Monitor) (env : List Document), monitor.container env =
      ofFields
        ([("name", .text "kubemon"), ("image", monitor.spec.image),
            ("imagePullPolicy", .text "Always"), ("env", .list env),
            ("resources", .object monitor.spec.resources)] ++
          Keyed.optional "volumeMounts"
            (if monitor.hasCustomProperties then some volumeMounts else none)) := by
    intro monitor env
    unfold container
    cases monitor.hasCustomProperties <;> rfl
  rw [hform, hform, Document.reordered_append_optional_iff (by simp) (by simp) (by simp) (by simp)]
  refine and_congr ((Document.reordered_ofFields_iff_entrywise ?_ ?_).trans ?_) ?_
  · rfl
  · simp
  · simp [Entrywise]
  · cases left.hasCustomProperties <;> cases right.hasCustomProperties <;> simp

/-- Volumes are the same if their secrets are. -/
theorem reordered_volumes_iff {secret other : Document} :
    Reordered (volumes secret) (volumes other) ↔ Reordered secret other := by
  have hsecret : ∀ items : Document,
      Reordered (ofFields [("secretName", secret), ("items", items)])
          (ofFields [("secretName", other), ("items", items)]) ↔ Reordered secret other := by
    intro items
    refine (Document.reordered_ofFields_iff_entrywise ?_ ?_).trans ?_
    · rfl
    · simp
    · simp [Entrywise]
  rw [volumes, volumes, Document.reordered_singleton_iff]
  refine (Document.reordered_ofFields_iff_entrywise ?_ ?_).trans ?_
  · rfl
  · simp
  · simp [Entrywise, hsecret]

/-- Pods are the same if all that they are made of is. -/
theorem reordered_podSpec_iff {leftEnv rightEnv : List Document} :
    Reordered (left.podSpec leftEnv) (right.podSpec rightEnv) ↔
      ((Reordered left.spec.serviceAccountName right.spec.serviceAccountName ∧
          left.pullSecretName = right.pullSecretName ∧
          Reordered (left.container leftEnv) (right.container rightEnv) ∧
          Reordered (.object left.spec.nodeSelector) (.object right.spec.nodeSelector) ∧
          Reordered (.list left.spec.tolerations) (.list right.spec.tolerations)) ∧
        Option.Rel Reordered left.priorityClass? right.priorityClass?) ∧
        Option.Rel Reordered left.secretName? right.secretName? := by
  have hform : ∀ (monitor : Monitor) (env : List Document), monitor.podSpec env =
      ofFields
        ([("serviceAccountName", monitor.spec.serviceAccountName),
            ("imagePullSecrets", .list [.ofFields [("name", .text monitor.pullSecretName)]]),
            ("containers", .list [monitor.container env]),
            ("nodeSelector", .object monitor.spec.nodeSelector),
            ("tolerations", .list monitor.spec.tolerations)] ++
          Keyed.optional "priorityClassName" monitor.priorityClass? ++
          Keyed.optional "volumes" (monitor.secretName?.map volumes)) := by
    intro monitor env
    unfold podSpec priorityClass? secretName?
    cases monitor.spec.customProperties <;> cases monitor.spec.priorityClassName.truthy <;> rfl
  -- The optional fields are taken off one by one, from the last.
  rw [hform, hform, Document.reordered_append_optional_iff]
  · refine and_congr ?_ ?_
    · rw [Document.reordered_append_optional_iff (by simp) (by simp) (by simp) (by simp)]
      refine and_congr_left fun _ => (Document.reordered_ofFields_iff_entrywise ?_ ?_).trans ?_
      · rfl
      · simp
      · simp [Entrywise]
    · cases left.secretName? <;> cases right.secretName? <;> simp [reordered_volumes_iff]
  · exact Keyed.nodup_keys_append_optional (by simp) (by simp) _
  · exact Keyed.nodup_keys_append_optional (by simp) (by simp) _
  · rw [List.map_append, List.mem_append, not_or]
    exact ⟨by simp, Keyed.notMem_keys_optional (by decide) _⟩
  · rw [List.map_append, List.mem_append, not_or]
    exact ⟨by simp, Keyed.notMem_keys_optional (by decide) _⟩

/-- The labels that select pods are the same if the names are. -/
theorem entrywise_selectorEntries_iff {name other : Document} :
    Entrywise Reordered (selectorEntries name) (selectorEntries other) ↔ Reordered name other := by
  simp [Entrywise, selectorEntries]

/-- What is found among the labels of a workload is what selects the pods, or a label of the
user. -/
theorem get?_labels (monitor : Monitor) (key : String) :
    Fields.get? monitor.labels (.text key) =
      (Keyed.get? (selectorEntries monitor.name) key).or
        (Fields.get? monitor.spec.labels (.text key)) :=
  Fields.get?_merge_ofKeyed monitor.spec.labels (selectorEntries monitor.name) key
    (by simp [selectorEntries])

/-- A text belongs to the operator if it is one of its keys. -/
theorem isSelectorKey_text (key : String) :
    isSelectorKey (.text key) = decide (key ∈ selectorKeys) := by
  simp [isSelectorKey, List.any_beq]

/-- What is found among the labels that are not overridden is a label under another key. -/
theorem get?_ownLabels (labels : Fields) (key : String) :
    Fields.get? (ownLabels labels) (.text key) =
      if key ∈ selectorKeys then none else Fields.get? labels (.text key) := by
  induction labels with
  | nil => simp [ownLabels]
  | cons label labels ih =>
      rw [ownLabels, List.filter_cons, ← ownLabels, Fields.get?_cons]
      by_cases hkey : label.1 = .text key
      · by_cases hmem : key ∈ selectorKeys <;>
          simp [hkey, isSelectorKey_text, hmem, ih, Fields.get?_cons]
      · split <;> simp [ih, Fields.get?_cons, hkey]

/-- Labels of workloads with the same name are the same if those are that are not overridden. -/
theorem reordered_labels_iff (hleft : left.IsJson) (hright : right.IsJson)
    (hname : Reordered left.name right.name) :
    Reordered (.object left.labels) (.object right.labels) ↔
      Reordered (.object (ownLabels left.spec.labels)) (.object (ownLabels right.spec.labels)) := by
  have hown : ∀ {monitor : Monitor}, monitor.IsJson →
      (Document.object (ownLabels monitor.spec.labels)).IsJson := fun h => h.labels.filter _
  rw [hleft.labels_isJson.reordered_object_iff hright.labels_isJson,
    (hown hleft).reordered_object_iff (hown hright)]
  -- What selects the pods overrides the labels of both users, so only other keys can differ.
  refine forall_congr' fun key => ?_
  have hselector := (entrywise_selectorEntries_iff.2 hname).get? key
  have hkeys : key ∈ selectorKeys ↔ Keyed.get? (selectorEntries left.name) key ≠ none := by
    rw [ne_eq, Keyed.get?_eq_none_iff, not_not]
    rfl
  rw [get?_labels, get?_labels, get?_ownLabels, get?_ownLabels]
  generalize Keyed.get? (selectorEntries left.name) key = found at *
  generalize Keyed.get? (selectorEntries right.name) key = other at *
  cases hselector with
  | none => simp [hkeys]
  | some hvalue => simp [hkeys, hvalue]

/-- Specifications are the same if all that they are made of is. -/
theorem reordered_statefulSetSpec_iff {leftEnv rightEnv : List Document} :
    Reordered (left.statefulSetSpec leftEnv) (right.statefulSetSpec rightEnv) ↔
      left.spec.replicas = right.spec.replicas ∧ left.workloadName = right.workloadName ∧
        Reordered left.name right.name ∧
        Reordered (.object left.labels) (.object right.labels) ∧
        Reordered (left.podSpec leftEnv) (right.podSpec rightEnv) := by
  have hselector : Reordered (.object left.selectorLabels) (.object right.selectorLabels) ↔
      Reordered left.name right.name := by
    refine (Document.reordered_ofFields_iff_entrywise ?_ ?_).trans entrywise_selectorEntries_iff
    · rfl
    · simp [selectorEntries]
  have htemplate : Reordered
      (ofFields [("metadata", ofFields [("labels", .object left.labels)]),
        ("spec", left.podSpec leftEnv)])
      (ofFields [("metadata", ofFields [("labels", .object right.labels)]),
        ("spec", right.podSpec rightEnv)]) ↔
      Reordered (.object left.labels) (.object right.labels) ∧
        Reordered (left.podSpec leftEnv) (right.podSpec rightEnv) := by
    refine (Document.reordered_ofFields_iff_entrywise ?_ ?_).trans ?_
    · rfl
    · simp
    · simp [Entrywise]
  refine (Document.reordered_ofFields_iff_entrywise ?_ ?_).trans ?_
  · rfl
  · simp
  · simp [Entrywise, hselector, htemplate]

/-- The name of a workload shows the name of the monitor. -/
theorem display_name_eq_of_workloadName_eq (h : left.workloadName = right.workloadName) :
    left.name.display = right.name.display := by
  have hcharacters := congrArg String.toList h
  simp only [workloadName, String.toList_append, List.append_assoc] at hcharacters
  exact String.toList_inj.1 (List.append_cancel_right hcharacters)

/-- A monitor has custom properties exactly if its pod mounts a secret. -/
theorem hasCustomProperties_eq (monitor : Monitor) :
    monitor.hasCustomProperties = monitor.secretName?.isSome := by
  rw [hasCustomProperties, secretName?, Option.isSome_map]

/-- Workloads are the same exactly if the essences of their monitors are. -/
theorem same_iff_essence {leftId rightId : String} {leftEnv rightEnv : List Document}
    (hleft : left.IsJson) (hright : right.IsJson)
    (hleft_env : userEnv left.spec.env = .ok leftEnv)
    (hright_env : userEnv right.spec.env = .ok rightEnv) :
    Workload.Same (left.unmarkedWorkload leftId leftEnv)
        (right.unmarkedWorkload rightId rightEnv) ↔
      Essence.Same (left.essence leftId) (right.essence rightId) := by
  rw [userEnv_eq hleft_env, userEnv_eq hright_env]
  constructor
  · rintro ⟨-, hscope, hlabels, howners, hspec⟩
    obtain ⟨hreplicas, hworkload, -, -, hpod⟩ := reordered_statefulSetSpec_iff.1 hspec
    obtain ⟨⟨⟨haccount, -, hcontainer, hnodes, htolerations⟩, hpriority⟩, hsecret⟩ :=
      reordered_podSpec_iff.1 hpod
    obtain ⟨⟨himage, henv, hresources⟩, -⟩ := reordered_container_iff.1 hcontainer
    obtain ⟨-, hcluster, henv⟩ := reordered_env_iff.1 henv
    obtain ⟨hname, huid⟩ :=
      reordered_ownerReference_iff.1 (Document.reordered_singleton_iff.1 howners)
    -- The workload's name displays the monitor's, which leaves no room for reordering it.
    have hdisplay := display_name_eq_of_workloadName_eq hworkload
    exact ⟨hname.eq_of_display hleft.name hright.name hdisplay, hscope, huid, hcluster, himage,
      hreplicas, (reordered_labels_iff hleft hright hname).1 hlabels, hnodes, htolerations,
      hresources, henv, haccount, hpriority, hsecret⟩
  · intro h
    have hname : left.name = right.name := h.name
    have hnames : Reordered left.name right.name := hname ▸ .refl _
    have hworkload : left.workloadName = right.workloadName := by
      rw [workloadName, workloadName, hname]
    have hpull : left.pullSecretName = right.pullSecretName := by
      rw [pullSecretName, pullSecretName, hname]
    have hproperties : left.hasCustomProperties = right.hasCustomProperties := by
      have hsecret : Option.Rel Reordered left.secretName? right.secretName? := h.secretName
      rw [hasCustomProperties_eq, hasCustomProperties_eq]
      generalize left.secretName? = secret, right.secretName? = other at hsecret
      cases hsecret <;> rfl
    have hlabels := (reordered_labels_iff hleft hright hnames).2 h.labels
    have henv := reordered_env_iff.2 ⟨h.scope, h.clusterId, h.env⟩
    have hcontainer := reordered_container_iff.2 ⟨⟨h.image, henv, h.resources⟩, hproperties⟩
    have hpod := reordered_podSpec_iff.2 ⟨⟨⟨h.serviceAccountName, hpull, hcontainer,
      h.nodeSelector, h.tolerations⟩, h.priorityClassName⟩, h.secretName⟩
    have howners := reordered_ownerReference_iff.2 ⟨hnames, h.uid⟩
    exact ⟨Document.reordered_text_iff.2 hworkload, h.scope, hlabels,
      Document.reordered_singleton_iff.2 howners,
      reordered_statefulSetSpec_iff.2 ⟨h.replicas, hworkload, hnames, hlabels, hpod⟩⟩

section Live

variable {leftId rightId : String} {leftWorkload rightWorkload : Workload}

/-- Canonical texts are the same exactly if the essences are. -/
theorem canonicalText?_eq_iff_essence (hleft : left.IsJson) (hright : right.IsJson)
    (hleft_built : left.desiredWorkload leftId = .ok leftWorkload)
    (hright_built : right.desiredWorkload rightId = .ok rightWorkload) :
    leftWorkload.identity.canonicalText? = rightWorkload.identity.canonicalText? ↔
      Essence.Same (left.essence leftId) (right.essence rightId) := by
  rw [(hleft.desiredWorkload_isJson hleft_built).canonicalText?_eq_iff
    (hright.desiredWorkload_isJson hright_built)]
  obtain ⟨-, leftEnv, _, hleft_env, -, rfl⟩ := desiredWorkload_eq_ok_iff.1 hleft_built
  obtain ⟨-, rightEnv, _, hright_env, -, rfl⟩ := desiredWorkload_eq_ok_iff.1 hright_built
  show Reordered (left.unmarkedWorkload leftId leftEnv).identity
    (right.unmarkedWorkload rightId rightEnv).identity ↔ _
  rw [Workload.reordered_identity_iff]
  exact same_iff_essence hleft hright hleft_env hright_env

/-- A built workload that is kept has not changed exactly if the other one has its fingerprint. -/
theorem classify_eq_current_iff {live : Workload}
    (hleft_built : left.desiredWorkload leftId = .ok leftWorkload)
    (hright_built : right.desiredWorkload rightId = .ok rightWorkload)
    (hlive : leftWorkload.IsKeptAs live) :
    Workload.classify (some live) rightWorkload = .current ↔
      ∃ text other, leftWorkload.identity.canonicalText? = some text ∧
        rightWorkload.identity.canonicalText? = some other ∧
        Text.Sha256.hexHash (Text.Utf8.encode text) =
          Text.Sha256.hexHash (Text.Utf8.encode other) := by
  obtain ⟨carried, version, stored, hstored, hread⟩ := hlive
  obtain rfl := Except.ok.inj
    ((ofManifest_of_desiredWorkload hleft_built hstored).symm.trans hread)
  obtain ⟨fingerprint, hnonempty, hfingerprint, hcompute⟩ :=
    fingerprint_of_desiredWorkload hleft_built
  obtain ⟨another, hother_nonempty, hother_fingerprint, hother_compute⟩ :=
    fingerprint_of_desiredWorkload hright_built
  obtain ⟨text, htext, rfl⟩ := Workload.computeFingerprint_eq_ok_iff.1 hcompute
  obtain ⟨other, hother, rfl⟩ := Workload.computeFingerprint_eq_ok_iff.1 hother_compute
  simp [Workload.classify, Workload.hasChanged, hfingerprint, hother_fingerprint, Document.truthy,
    Scalar.truthy, hnonempty, hother_nonempty, Document.agrees, htext, hother]

/-- A live workload is stale if it is not current. -/
theorem classify_eq_stale_iff {live desired : Workload} :
    Workload.classify (some live) desired = .stale ↔
      Workload.classify (some live) desired ≠ .current := by
  rw [Workload.classify]
  split <;> simp

end Live

/-- Two monitors have workloads with one canonical text exactly if their essences are the same. A
live workload is current after a change of anything else, and stale after a change of the essence
unless hashes collide. Status, version, endpoint, the value among the custom properties and what the
operator overrides are not part of the essence. -/
theorem drift_exact (left right : Monitor) (leftId rightId : String)
    (leftWorkload rightWorkload : Workload) (hleft : left.IsJson) (hright : right.IsJson)
    (hleft_built : left.desiredWorkload leftId = .ok leftWorkload)
    (hright_built : right.desiredWorkload rightId = .ok rightWorkload) :
    (leftWorkload.identity.canonicalText? = rightWorkload.identity.canonicalText? ↔
        Essence.Same (left.essence leftId) (right.essence rightId)) ∧
      (∀ live, leftWorkload.IsKeptAs live →
        (Essence.Same (left.essence leftId) (right.essence rightId) →
          Workload.classify (some live) rightWorkload = .current) ∧
        (Workload.CollisionFree leftWorkload rightWorkload →
          ¬ Essence.Same (left.essence leftId) (right.essence rightId) →
          Workload.classify (some live) rightWorkload = .stale)) ∧
      ∀ live, leftWorkload.IsKeptAs live →
        ∀ status version endpoint value labels env,
        right = left.edited status version endpoint value labels env → leftId = rightId →
        ownLabels labels = ownLabels left.spec.labels → ownEnv env = ownEnv left.spec.env →
        Workload.classify (some live) rightWorkload = .current := by
  have htexts := canonicalText?_eq_iff_essence hleft hright hleft_built hright_built
  have hcurrent : ∀ live, leftWorkload.IsKeptAs live →
      Essence.Same (left.essence leftId) (right.essence rightId) →
      Workload.classify (some live) rightWorkload = .current := by
    intro live hlive hsame
    obtain ⟨_, -, -, hcompute⟩ := fingerprint_of_desiredWorkload hleft_built
    obtain ⟨text, htext, -⟩ := Workload.computeFingerprint_eq_ok_iff.1 hcompute
    refine (classify_eq_current_iff hleft_built hright_built hlive).2 ⟨text, text, htext, ?_, rfl⟩
    rw [← htexts.2 hsame, htext]
  refine ⟨htexts, fun live hlive => ⟨hcurrent live hlive, fun hfree hdiffers => ?_⟩, ?_⟩
  · refine classify_eq_stale_iff.2 fun hsame => hdiffers (htexts.1 ?_)
    obtain ⟨text, other, htext, hother, hhash⟩ :=
      (classify_eq_current_iff hleft_built hright_built hlive).1 hsame
    rw [htext, hother, hfree text other htext hother hhash]
  · rintro live hlive status version endpoint value labels env rfl rfl hlabels henv
    refine hcurrent live hlive ?_
    rw [essence_edited hlabels henv]
    exact .refl _

/-- A live workload of the plain monitor is stale when the monitor asks for another replica, and not
when its status and a reserved label change. -/
theorem drift_exact_plain :
    ∃ (more touched : Monitor) (live desired other : Workload),
      more = { plain with spec := { plain.spec with replicas := 2 } } ∧
      touched.status ≠ plain.status ∧ touched.spec.labels ≠ plain.spec.labels ∧
      more.desiredWorkload "c" = .ok desired ∧ touched.desiredWorkload "c" = .ok other ∧
      (Workload.CollisionFree live desired → Workload.classify (some live) desired = .stale) ∧
      Workload.classify (some live) other = .current := by
  let more : Monitor := { plain with spec := { plain.spec with replicas := 2 } }
  let touched : Monitor :=
    plain.edited { plain.status with imageVersion := .text "1" } .null .null .null
      [(.text "app.kubernetes.io/name", .text "mine")] []
  have hplain := isJson_plain
  have hmore : more.IsJson := by
    cases hplain
    constructor <;> assumption
  have hlabels : (Document.object [(.text "app.kubernetes.io/name", .text "mine")]).IsJson :=
    Document.isJson_object_iff.2
      ⟨[("app.kubernetes.io/name", .text "mine")], rfl, by simp, by simp⟩
  have htouched : touched.IsJson := by
    cases hplain
    constructor <;> first | exact hlabels | assumption
  obtain ⟨workload, hworkload⟩ := exists_desiredWorkload_plain "c"
  obtain ⟨desired, hdesired⟩ := hmore.exists_desiredWorkload (by decide) rfl "c"
  obtain ⟨other, hother⟩ := htouched.exists_desiredWorkload (by decide) rfl "c"
  obtain ⟨stored, hstored⟩ := Cluster.exists_versioned?_manifest workload "1"
  let live : Workload := { workload with resourceVersion := .text "1" }
  have hlive : workload.IsKeptAs live :=
    ⟨workload.resourceVersion, "1", .object stored, hstored,
      ofManifest_of_desiredWorkload hworkload hstored⟩
  obtain ⟨-, hmore_classified, -⟩ := drift_exact plain more "c" "c" workload desired hplain hmore
    hworkload hdesired
  obtain ⟨-, -, htouched_current⟩ := drift_exact plain touched "c" "c" workload other hplain
    htouched hworkload hother
  have hreplicas : ¬ Essence.Same (plain.essence "c") (more.essence "c") := by
    intro hsame
    have hsame_replicas : (1 : Int) = 2 := hsame.replicas
    omega
  refine ⟨more, touched, live, desired, other, rfl, ?_, by simp [touched, edited, plain], hdesired,
    hother, fun hfree => (hmore_classified live hlive).2 hfree hreplicas,
    htouched_current live hlive _ _ _ _ _ _ rfl rfl rfl rfl⟩
  intro hsame
  cases congrArg MonitorStatus.imageVersion hsame

end Monitor

end MonitorOperator
