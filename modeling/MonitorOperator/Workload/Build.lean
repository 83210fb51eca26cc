import MonitorOperator.Monitor.Manifest
import MonitorOperator.Workload.Fingerprint

/-!
# Building workloads

`Monitor.desiredWorkload` builds the StatefulSet of a monitor. The result depends on the monitor and
the cluster's identifier alone, so equal specifications have equal fingerprints. The labels that
select the pods and three variables of the environment belong to the operator and override what the
user gives for them.
-/

namespace MonitorOperator.Monitor

/-- The labels that select the pods of the workload. -/
def selectorLabels (monitor : Monitor) : Fields :=
  [(.text "app.kubernetes.io/name", .text "kubemon"),
    (.text "app.kubernetes.io/instance", monitor.name),
    (.text "app.kubernetes.io/component", .text workloadSuffix)]

/-- The labels of the workload and its pods. -/
def labels (monitor : Monitor) : Fields :=
  Fields.merge monitor.spec.labels monitor.selectorLabels

/-- The variables that belong to the operator. -/
def reservedNames : List String :=
  ["KUBEMON_CAPABILITIES", "KUBEMON_ID_SEED_NAMESPACE", "KUBEMON_ID_SEED_CLUSTER_ID"]

/-- The value of a variable as the environment of a container has it. -/
def variableEntry (name : String) (value : Document) : Document :=
  .ofFields [("name", .text name), ("value", value)]

/-- The operator's own entries of the environment. -/
def reservedEnv (monitor : Monitor) (clusterId : String) : List Document :=
  [variableEntry "KUBEMON_CAPABILITIES" (.text "kubernetes_monitoring"),
    variableEntry "KUBEMON_ID_SEED_NAMESPACE" monitor.scope,
    variableEntry "KUBEMON_ID_SEED_CLUSTER_ID" (.text clusterId)]

/-- The name of an entry belongs to the operator. -/
def isReserved (name : Scalar) : Bool :=
  reservedNames.any fun reserved => name.agrees (.text reserved)

/-- The entries of the user's environment whose names do not belong to the operator. -/
def userEnv : List Document → Except Fault (List Document)
  | [] => .ok []
  | entry :: rest => do
      let name ← (← entry.lookupOrNull "name").toKey
      let kept ← userEnv rest
      pure (if isReserved name then kept else entry :: kept)

/-- The name of the volume with the custom properties. -/
def volumeName : Document := .text "custom-properties"

/-- The mounts of the container. -/
def volumeMounts : Document :=
  .list
    [.ofFields
      [("name", volumeName), ("mountPath", .text "/var/lib/kubemon/config"),
        ("readOnly", .boolean true)]]

/-- The volumes of the pod. -/
def volumes (secretName : Document) : Document :=
  .list
    [.ofFields
      [("name", volumeName),
        ("secret", .ofFields
          [("secretName", secretName),
            ("items", .list
              [.ofFields
                [("key", .text "customProperties"), ("path", .text "custom.properties")]])])]]

/-- The container of the pod. -/
def container (monitor : Monitor) (env : List Document) : Document :=
  let fields :=
    [("name", .text "kubemon"), ("image", monitor.spec.image),
      ("imagePullPolicy", .text "Always"), ("env", .list env),
      ("resources", .object monitor.spec.resources)]
  .ofFields
    (if monitor.hasCustomProperties then fields ++ [("volumeMounts", volumeMounts)] else fields)

/-- The specification of the pod. -/
def podSpec (monitor : Monitor) (env : List Document) : Document :=
  let fields :=
    [("serviceAccountName", monitor.spec.serviceAccountName),
      ("imagePullSecrets", .list [.ofFields [("name", .text monitor.pullSecretName)]]),
      ("containers", .list [monitor.container env]),
      ("nodeSelector", .object monitor.spec.nodeSelector),
      ("tolerations", .list monitor.spec.tolerations)]
  let priority :=
    if monitor.spec.priorityClassName.truthy then
      [("priorityClassName", monitor.spec.priorityClassName)]
    else []
  let mounted :=
    match monitor.spec.customProperties with
    | some properties => [("volumes", volumes (monitor.secretName properties))]
    | none => []
  .ofFields (fields ++ priority ++ mounted)

/-- The specification of the StatefulSet. -/
def statefulSetSpec (monitor : Monitor) (env : List Document) : Document :=
  .ofFields
    [("replicas", .integer monitor.spec.replicas),
      ("serviceName", .text monitor.workloadName),
      ("podManagementPolicy", .text "Parallel"),
      ("selector", .ofFields [("matchLabels", .object monitor.selectorLabels)]),
      ("template", .ofFields
        [("metadata", .ofFields [("labels", .object monitor.labels)]),
          ("spec", monitor.podSpec env)])]

/-- The link from the workload to the monitor. -/
def ownerReference (monitor : Monitor) : OwnerReference :=
  { apiVersion := .text groupVersion
    kind := .text kind
    name := monitor.name
    uid := monitor.uid }

/-- The workload that the monitor asks for, with its fingerprint. -/
def desiredWorkload (monitor : Monitor) (clusterId : String) : Except Fault Workload := do
  if !monitor.uid.truthy then
    throw (.missingOwner monitor.scope.display monitor.name.display)
  let env := monitor.reservedEnv clusterId ++ (← userEnv monitor.spec.env)
  let workload : Workload :=
    { name := .text monitor.workloadName
      scope := monitor.scope
      spec := monitor.statefulSetSpec env
      labels := monitor.labels
      owners := [monitor.ownerReference] }
  let fingerprint ← workload.computeFingerprint
  pure { workload with fingerprint := .text fingerprint }

end MonitorOperator.Monitor
