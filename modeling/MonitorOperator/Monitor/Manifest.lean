import MonitorOperator.Document.Access
import MonitorOperator.Monitor.Basic

/-!
# Manifests of monitors

`ofManifest` reads a monitor from its manifest. An optional field counts as absent also when it is
null or empty. `MonitorStatus.manifest` writes the status as the manifest has it.
-/

namespace MonitorOperator

/-- The properties that a manifest gives, if it gives any. -/
def CustomProperties.ofManifest (raw : Document) : Except Fault (Option CustomProperties) := do
  if !raw.truthy then return none
  let value := (← raw.lookupOrNull "value").orNull
  let valueFrom := (← raw.lookupOrNull "valueFrom").orNull
  if value.truthy || valueFrom.truthy then return some ⟨value, valueFrom⟩ else return none

namespace MonitorSpec

/-- The service account of a workload that is given none. -/
def defaultServiceAccount : Document := .text "kubemon-kubernetes-monitoring"

/-- What should run, from a manifest that names an image. -/
def ofManifest (image raw : Document) : Except Fault MonitorSpec := do
  let customProperties ← CustomProperties.ofManifest (← raw.lookupOrNull "customProperties")
  let endpoint := (← raw.lookupOrNull "kubernetesApiEndpoint").orNull
  let replicas ← (← raw.lookupOr "replicas" (.integer 1)).toInteger
  let labels ← ((← raw.lookupOrNull "labels").orElse (.object [])).toFields
  let nodeSelector ← ((← raw.lookupOrNull "nodeSelector").orElse (.object [])).toFields
  let tolerations ← ((← raw.lookupOrNull "tolerations").orElse (.list [])).elements
  let resources ← ((← raw.lookupOrNull "resources").orElse (.object [])).toFields
  let env ← ((← raw.lookupOrNull "env").orElse (.list [])).elements
  let serviceAccountName :=
    (← raw.lookupOrNull "serviceAccountName").orElse defaultServiceAccount
  let priorityClassName := (← raw.lookupOrNull "priorityClassName").orNull
  pure
    { image, customProperties, endpoint, replicas, labels, nodeSelector, tolerations, resources,
      env, serviceAccountName, priorityClassName }

end MonitorSpec

namespace MonitorStatus

/-- The moment that a manifest gives, if it gives one. -/
def readUpdated (value : Document) : Except Fault (Option Moment) :=
  if !value.truthy then .ok none
  else
    match value with
    | .scalar (.text text) =>
        match Moment.ofTimestamp text with
        | .ok moment => .ok (some moment)
        | .error problem => .error (.value problem)
    | _ => .error .wrongKind

/-- What a manifest has recorded. -/
def ofManifest (raw : Document) : Except Fault MonitorStatus := do
  let imageVersion ← raw.lookupOr "imageVersion" (.text "")
  let imageHash ← raw.lookupOr "imageHash" (.text "")
  let updated ← readUpdated (← raw.lookupOrNull "updatedTimestamp")
  pure { imageVersion, imageHash, updated }

/-- The status as a manifest has it. -/
def manifest (status : MonitorStatus) : Except Fault Document := do
  let version := [("imageVersion", status.imageVersion), ("imageHash", status.imageHash)]
  match status.updated with
  | none => pure (.ofFields version)
  | some moment =>
      pure (.ofFields (version ++ [("updatedTimestamp", .text (← moment.timestamp))]))

end MonitorStatus

namespace Monitor

/-- The monitor that a manifest describes. -/
def ofManifest (body : Document) : Except Fault Monitor := do
  let metadata := (← body.lookupOrNull "metadata").orElse (.object [])
  let rawSpec := (← body.lookupOrNull "spec").orElse (.object [])
  let rawStatus := (← body.lookupOrNull "status").orElse (.object [])
  let image := (← rawSpec.lookupOrNull "image").orElse (.text "")
  if !image.truthy then
    throw (.value (.missingImage (← metadata.lookupOr "name" (.text "<unnamed>"))))
  let spec ← MonitorSpec.ofManifest image rawSpec
  let status ← MonitorStatus.ofManifest rawStatus
  pure
    { name := ← metadata.lookupOr "name" (.text "")
      scope := ← metadata.lookupOr "namespace" (.text "")
      uid := ← metadata.lookupOr "uid" (.text "")
      resourceVersion := ← metadata.lookupOrNull "resourceVersion"
      spec
      status }

end Monitor

end MonitorOperator
