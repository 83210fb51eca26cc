import MonitorOperator.Proofs.Workload.Drift

/-!
# Workloads that can be updated in place

Labels and environment of a workload are the operator's and the user's together. Whatever the user
gives, the selector matches the pods of the template, the operator's own variables are set once and
as it wants them, and nothing else of the user is lost (`Monitor.SoundlyBuilt`). The API server lets
an update change only some fields of a StatefulSet; the other ones depend on nothing but the name of
the monitor, so each workload of a monitor can be put in the place of any other
(`built_updatable`).
-/

namespace MonitorOperator

open Document (ofFields)

/-- The fields of a StatefulSet's specification that an update may change. -/
def updatableFields : List String := ["replicas", "template"]

/-- The fields that an update must leave as they are. -/
def Fields.fixed (fields : Fields) : Fields :=
  fields.filter fun field => !updatableFields.any fun name => field.1.agrees (.text name)

/-- The specifications have the same fields, except for those that an update may change. -/
def Document.UpdatableTo (spec other : Document) : Prop :=
  ∃ fields others, spec = .object fields ∧ other = .object others ∧
    Fields.fixed fields = Fields.fixed others

/-- The parts of a specification that have to fit together. -/
structure PodParts where
  /-- The labels that the selector wants. -/
  matchLabels : Fields
  /-- The labels of the pods. -/
  podLabels : Fields
  pod : Document
  /-- The one container of the pods. -/
  container : Document
  env : List Document

/-- The specification has these parts at their places. -/
structure Document.MadeOf (spec : Document) (parts : PodParts) : Prop where
  matchLabels : spec.under? ["selector", "matchLabels"] = some (.object parts.matchLabels)
  podLabels : spec.under? ["template", "metadata", "labels"] = some (.object parts.podLabels)
  pod : spec.under? ["template", "spec"] = some parts.pod
  container : parts.pod.under? ["containers"] = some (.list [parts.container])
  env : parts.container.under? ["env"] = some (.list parts.env)

/-- The entry of an environment sets the variable of a name. -/
def Document.setsVariable (name : String) (entry : Document) : Bool :=
  match entry.lookupOrNull "name" with
  | .ok found => found.agrees (.text name)
  | .error _ => false

/-- The documents are one mount and one volume, and the mount is of the volume. -/
def MountsVolume (mounts volumes : Document) : Prop :=
  ∃ mount volume name, mounts = .list [mount] ∧ volumes = .list [volume] ∧
    mount.under? ["name"] = some name ∧ volume.under? ["name"] = some name

namespace Monitor

/-- The variables that the operator sets, with its values for them. -/
def operatorVariables (monitor : Monitor) (clusterId : String) : Keyed Document :=
  [("KUBEMON_CAPABILITIES", .text "kubernetes_monitoring"),
    ("KUBEMON_ID_SEED_NAMESPACE", monitor.scope),
    ("KUBEMON_ID_SEED_CLUSTER_ID", .text clusterId)]

/-- The parts fit together, as the operator wants them and with all that the user may add. -/
structure SoundlyBuilt (monitor : Monitor) (clusterId : String) (labels : Fields)
    (parts : PodParts) : Prop where
  /-- The selector matches the pods. -/
  selected : ∀ label ∈ parts.matchLabels, Fields.get? parts.podLabels label.1 = some label.2
  podLabels : parts.podLabels = labels
  /-- The user's labels are all there, but for those that select pods. -/
  ownLabels : ownLabels labels = ownLabels monitor.spec.labels
  /-- The operator's variables come first, and all that the user adds follows. -/
  env : parts.env =
    ((monitor.operatorVariables clusterId).map fun setting => variableEntry setting.1 setting.2) ++
      ownEnv monitor.spec.env
  /-- No other entry sets a variable of the operator. -/
  setOnce : ∀ setting ∈ monitor.operatorVariables clusterId,
    parts.env.filter (Document.setsVariable setting.1) = [variableEntry setting.1 setting.2]
  mounts : (parts.container.under? ["volumeMounts"]).isSome = monitor.hasCustomProperties
  volumes : (parts.pod.under? ["volumes"]).isSome = monitor.hasCustomProperties
  mountsVolume : ∀ mounts volumes, parts.container.under? ["volumeMounts"] = some mounts →
    parts.pod.under? ["volumes"] = some volumes → MountsVolume mounts volumes

variable {monitor : Monitor}

section Labels

/-- Putting a label under a key that selects pods leaves the others alone. -/
theorem ownLabels_put (labels : Fields) {key : String} (hkey : key ∈ selectorKeys)
    (value : Document) : ownLabels (Fields.put labels (.text key) value) = ownLabels labels := by
  have hselector : isSelectorKey (.text key) = true := by
    rw [isSelectorKey_text]
    exact decide_eq_true hkey
  induction labels with
  | nil => simp [Fields.put, ownLabels, hselector]
  | cons label labels ih =>
      unfold Fields.put
      split
      · next hagrees =>
          have hsame : label.1 = .text key := (Scalar.agrees_text_iff _ _).1 hagrees
          simp [ownLabels, hsame, hselector]
      · rw [ownLabels, List.filter_cons, ← ownLabels, ih, ownLabels, ownLabels, List.filter_cons]

/-- The labels of a workload are those of the user, but for those that select pods. -/
theorem ownLabels_labels (monitor : Monitor) :
    ownLabels monitor.labels = ownLabels monitor.spec.labels := by
  show ownLabels (Fields.put (Fields.put (Fields.put monitor.spec.labels _ _) _ _) _ _) = _
  rw [ownLabels_put _ (by simp [selectorKeys]), ownLabels_put _ (by simp [selectorKeys]),
    ownLabels_put _ (by simp [selectorKeys])]

/-- The labels of a workload are those that the selector wants, and more. -/
theorem get?_labels_of_mem {label : Scalar × Document} (h : label ∈ monitor.selectorLabels) :
    Fields.get? monitor.labels label.1 = some label.2 := by
  have hentries : monitor.selectorLabels =
      (selectorEntries monitor.name).map fun entry => (.text entry.1, entry.2) := rfl
  rw [hentries] at h
  obtain ⟨entry, hentry, rfl⟩ := List.mem_map.1 h
  have hdistinct : ((selectorEntries monitor.name).map (·.1)).Nodup := by
    simp [selectorEntries]
  rw [get?_labels, (Keyed.get?_eq_some_iff hdistinct).2 hentry]
  rfl

end Labels

section Environment

/-- An entry has a name that belongs to the operator if it sets one of its variables. -/
theorem hasReservedName_eq (entry : Document) :
    hasReservedName entry = reservedNames.any fun name => entry.setsVariable name := by
  unfold hasReservedName Document.setsVariable
  cases entry.lookupOrNull "name" with
  | error fault => rfl
  | ok found => cases found <;> rfl

/-- The user's part of an environment sets none of the operator's variables. -/
theorem filter_ownEnv (given : List Document) {name : String} (hname : name ∈ reservedNames) :
    (ownEnv given).filter (Document.setsVariable name) = [] := by
  refine List.filter_eq_nil_iff.2 fun entry hentry hsets => ?_
  have hown : ¬ hasReservedName entry = true := by
    simpa using (List.mem_filter.1 hentry).2
  refine hown ?_
  rw [hasReservedName_eq]
  exact List.any_eq_true.2 ⟨name, hname, hsets⟩

/-- An entry of the operator sets the variable of its name. -/
theorem setsVariable_variableEntry (name other : String) (value : Document) :
    Document.setsVariable name (variableEntry other value) = decide (other = name) := by
  show (Document.text other).agrees (.text name) = _
  rw [Bool.eq_iff_iff, Document.agrees_text_iff]
  simp

/-- The operator sets each of its variables once. -/
theorem filter_reservedEnv {clusterId : String} {setting : String × Document}
    (h : setting ∈ monitor.operatorVariables clusterId) :
    (monitor.reservedEnv clusterId).filter (Document.setsVariable setting.1) =
      [variableEntry setting.1 setting.2] := by
  simp only [operatorVariables, List.mem_cons, List.not_mem_nil, or_false] at h
  rcases h with rfl | rfl | rfl <;> simp [reservedEnv, setsVariable_variableEntry]

end Environment

section Specification

variable {clusterId : String} {desired : Workload}

/-- The parts that the specification of a monitor's workload has. -/
def podParts (monitor : Monitor) (clusterId : String) : PodParts :=
  let env := monitor.reservedEnv clusterId ++ ownEnv monitor.spec.env
  { matchLabels := monitor.selectorLabels
    podLabels := monitor.labels
    pod := monitor.podSpec env
    container := monitor.container env
    env }

/-- A pod has the one container of its parts. -/
theorem containers_podSpec (monitor : Monitor) (env : List Document) :
    (monitor.podSpec env).under? ["containers"] = some (.list [monitor.container env]) := by
  unfold podSpec
  dsimp only
  rw [List.append_assoc, Document.under?_ofFields, Keyed.get?_append]
  rfl

/-- The volumes of a pod are those of its properties. -/
theorem volumes_podSpec (monitor : Monitor) (env : List Document) :
    (monitor.podSpec env).under? ["volumes"] = monitor.secretName?.map Monitor.volumes := by
  unfold podSpec secretName?
  -- Whether the pods have a priority does not matter here.
  cases monitor.spec.customProperties with
  | none => split <;> rfl
  | some properties => split <;> rfl

/-- A container has an environment. -/
theorem env_container (monitor : Monitor) (env : List Document) :
    (monitor.container env).under? ["env"] = some (.list env) := by
  unfold container
  split <;> rfl

/-- The mounts of a container are those of the volume with the properties. -/
theorem volumeMounts_container (monitor : Monitor) (env : List Document) :
    (monitor.container env).under? ["volumeMounts"] =
      if monitor.hasCustomProperties then some volumeMounts else none := by
  unfold container
  split <;> rfl

/-- The specification of a built workload has the parts of its monitor. -/
theorem madeOf_podParts (h : monitor.desiredWorkload clusterId = .ok desired) :
    desired.spec.MadeOf (monitor.podParts clusterId) := by
  obtain ⟨-, env, _, henv, -, rfl⟩ := desiredWorkload_eq_ok_iff.1 h
  obtain rfl := userEnv_eq henv
  exact ⟨rfl, rfl, rfl, containers_podSpec _ _, env_container _ _⟩

/-- The parts of a monitor's workload fit together. -/
theorem soundlyBuilt_podParts (monitor : Monitor) (clusterId : String) :
    monitor.SoundlyBuilt clusterId monitor.labels (monitor.podParts clusterId) where
  selected := fun label hlabel => get?_labels_of_mem hlabel
  podLabels := rfl
  ownLabels := ownLabels_labels monitor
  env := rfl
  setOnce := by
    intro setting hsetting
    have hkeys : (monitor.operatorVariables clusterId).map (·.1) = reservedNames := rfl
    have hreserved : setting.1 ∈ reservedNames := hkeys ▸ List.mem_map_of_mem hsetting
    show (monitor.reservedEnv clusterId ++ ownEnv monitor.spec.env).filter _ = _
    rw [List.filter_append, filter_ownEnv _ hreserved, List.append_nil,
      filter_reservedEnv hsetting]
  mounts := by
    show ((monitor.container _).under? ["volumeMounts"]).isSome = _
    rw [volumeMounts_container]
    cases monitor.hasCustomProperties <;> rfl
  volumes := by
    show ((monitor.podSpec _).under? ["volumes"]).isSome = _
    rw [volumes_podSpec, hasCustomProperties_eq, Option.isSome_map]
  mountsVolume := by
    intro mounts volumes hmounts hvolumes
    have hmounts : (monitor.container _).under? ["volumeMounts"] = some mounts := hmounts
    have hvolumes : (monitor.podSpec _).under? ["volumes"] = some volumes := hvolumes
    rw [volumeMounts_container] at hmounts
    rw [volumes_podSpec] at hvolumes
    split at hmounts
    · obtain rfl := Option.some.inj hmounts
      obtain ⟨secret, -, rfl⟩ := Option.map_eq_some_iff.1 hvolumes
      exact ⟨_, _, volumeName, rfl, rfl, rfl, rfl⟩
    · cases hmounts

/-- What an update must leave as it is depends on the name of the monitor alone. -/
theorem fixed_statefulSetSpec (monitor : Monitor) (env : List Document) :
    ∃ fields, monitor.statefulSetSpec env = .object fields ∧
      Fields.fixed fields =
        [(.text "serviceName", .text monitor.workloadName),
          (.text "podManagementPolicy", .text "Parallel"),
          (.text "selector", ofFields [("matchLabels", .object monitor.selectorLabels)])] :=
  ⟨_, rfl, rfl⟩

/-- Specifications of monitors with one name can be updated to each other. -/
theorem updatableTo_of_name_eq {other : Monitor} (hname : other.name = monitor.name)
    (env otherEnv : List Document) :
    (monitor.statefulSetSpec env).UpdatableTo (other.statefulSetSpec otherEnv) := by
  obtain ⟨fields, hspec, hfixed⟩ := monitor.fixed_statefulSetSpec env
  obtain ⟨others, hother_spec, hother_fixed⟩ := other.fixed_statefulSetSpec otherEnv
  have hworkload : other.workloadName = monitor.workloadName := by
    rw [workloadName, workloadName, hname]
  have hselector : other.selectorLabels = monitor.selectorLabels := by
    rw [selectorLabels, selectorLabels, hname]
  refine ⟨fields, others, hspec, hother_spec, ?_⟩
  rw [hfixed, hother_fixed, hworkload, hselector]

end Specification

/-- Whatever a monitor asks for, the parts of its workload fit together, and all that the user gives
is there unless it belongs to the operator. Each workload of a monitor with the same name can be put
in the place of it, since it differs in nothing that an update must leave as it is. -/
theorem built_updatable (monitor : Monitor) (clusterId : String) (desired : Workload)
    (h : monitor.desiredWorkload clusterId = .ok desired) :
    (∃ parts, desired.spec.MadeOf parts ∧
        monitor.SoundlyBuilt clusterId desired.labels parts) ∧
      ∀ (other : Monitor) (otherId : String) (revised : Workload), other.name = monitor.name →
        other.desiredWorkload otherId = .ok revised → desired.spec.UpdatableTo revised.spec := by
  refine ⟨⟨monitor.podParts clusterId, madeOf_podParts h, ?_⟩, ?_⟩
  · obtain ⟨-, env, _, -, -, rfl⟩ := desiredWorkload_eq_ok_iff.1 h
    exact monitor.soundlyBuilt_podParts clusterId
  · intro other otherId revised hname hrevised
    obtain ⟨-, env, _, -, -, rfl⟩ := desiredWorkload_eq_ok_iff.1 h
    obtain ⟨-, otherEnv, _, -, -, rfl⟩ := desiredWorkload_eq_ok_iff.1 hrevised
    exact updatableTo_of_name_eq hname _ _

/-- A monitor with properties, whose user sets a label and a variable of the operator, a label of
their own, and a variable without a name. -/
def demanding : Monitor :=
  { plain with
    spec :=
      { plain.spec with
        customProperties := some ⟨.text "a=b", .null⟩
        labels := [(.text "app.kubernetes.io/name", .text "mine"), (.text "team", .text "blue")]
        env := [variableEntry "KUBEMON_CAPABILITIES" (.text "none"), ofFields [("value", .null)]] } }

/-- The demanding monitor is one of JSON. -/
theorem isJson_demanding : demanding.IsJson := by
  have hplain := isJson_plain
  have hlabels : (Document.object demanding.spec.labels).IsJson :=
    Document.isJson_object_iff.2
      ⟨[("app.kubernetes.io/name", .text "mine"), ("team", .text "blue")], rfl, by simp, by simp⟩
  have henv : (Document.list demanding.spec.env).IsJson := by
    simp [demanding, variableEntry, Scalar.IsJson]
  have hvalueFrom : ∀ properties, demanding.spec.customProperties = some properties →
      properties.valueFrom.IsJson := by
    rintro _ ⟨⟩
    simp [Scalar.IsJson]
  cases hplain
  constructor <;> assumption

/-- The workload of the demanding monitor can take the place of the plain one's. -/
theorem built_updatable_demanding :
    ∃ desired revised : Workload, plain.desiredWorkload "c" = .ok revised ∧
      demanding.desiredWorkload "d" = .ok desired ∧ plain.name = demanding.name ∧
      (∃ parts, desired.spec.MadeOf parts ∧
        demanding.SoundlyBuilt "d" desired.labels parts) ∧
      desired.spec.UpdatableTo revised.spec := by
  obtain ⟨revised, hrevised⟩ := exists_desiredWorkload_plain "c"
  obtain ⟨desired, hdesired⟩ := isJson_demanding.exists_desiredWorkload (by decide) rfl "d"
  obtain ⟨hparts, hupdatable⟩ := built_updatable demanding "d" desired hdesired
  exact ⟨desired, revised, hrevised, hdesired, rfl, hparts,
    hupdatable plain "c" revised rfl hrevised⟩

end Monitor

end MonitorOperator
