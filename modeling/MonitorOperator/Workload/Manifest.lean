import MonitorOperator.Document.Access
import MonitorOperator.Workload.Basic

/-!
# Manifests of workloads

`manifest` writes a workload as the StatefulSet that the API server stores, its fingerprint among
the annotations, and `ofManifest` reads it back, taking the fingerprint out of them again.
-/

namespace MonitorOperator

namespace OwnerReference

/-- The reference as a manifest has it. -/
def manifest (owner : OwnerReference) : Document :=
  .ofFields
    [("apiVersion", owner.apiVersion), ("kind", owner.kind), ("name", owner.name),
      ("uid", owner.uid), ("controller", .boolean owner.controller),
      ("blockOwnerDeletion", .boolean owner.blockOwnerDeletion)]

/-- The reference that a manifest gives. -/
def ofManifest (raw : Document) : Except Fault OwnerReference := do
  pure
    { apiVersion := ← raw.lookupOr "apiVersion" (.text "")
      kind := ← raw.lookupOr "kind" (.text "")
      name := ← raw.lookupOr "name" (.text "")
      uid := ← raw.lookupOr "uid" (.text "")
      controller := (← raw.lookupOr "controller" (.boolean false)).truthy
      blockOwnerDeletion := (← raw.lookupOr "blockOwnerDeletion" (.boolean false)).truthy }

/-- The references that manifests give. -/
def ofManifests : List Document → Except Fault (List OwnerReference)
  | [] => .ok []
  | raw :: rest => do
      let owner ← ofManifest raw
      let owners ← ofManifests rest
      pure (owner :: owners)

end OwnerReference

namespace Workload

/-- The annotation that holds the fingerprint. -/
def fingerprintKey : Scalar := .text "internal.kubemon.io/template-hash"

/-- The annotations with the fingerprint, if there is one. -/
def storedAnnotations (workload : Workload) : Fields :=
  if workload.fingerprint.truthy then
    Fields.put workload.annotations fingerprintKey workload.fingerprint
  else workload.annotations

/-- The metadata of the workload's manifest. -/
def metadata (workload : Workload) : Document :=
  let fields :=
    [("name", workload.name), ("namespace", workload.scope),
      ("labels", .object workload.labels), ("annotations", .object workload.storedAnnotations),
      ("ownerReferences", .list (workload.owners.map OwnerReference.manifest))]
  .ofFields
    (if workload.resourceVersion.truthy then
      fields ++ [("resourceVersion", workload.resourceVersion)]
    else fields)

/-- The workload as a StatefulSet. -/
def manifest (workload : Workload) : Document :=
  .ofFields
    [("apiVersion", .text "apps/v1"), ("kind", .text "StatefulSet"),
      ("metadata", workload.metadata), ("spec", workload.spec)]

/-- The workload that a StatefulSet describes. -/
def ofManifest (body : Document) : Except Fault Workload := do
  let metadata := (← body.lookupOrNull "metadata").orElse (.object [])
  let annotations ← ((← metadata.lookupOrNull "annotations").orElse (.object [])).toFields
  let fingerprint := ((Fields.get? annotations fingerprintKey).getD .null).orNull
  let name ← metadata.lookupOr "name" (.text "")
  let scope ← metadata.lookupOr "namespace" (.text "")
  let spec := (← body.lookupOrNull "spec").orElse (.object [])
  let labels ← ((← metadata.lookupOrNull "labels").orElse (.object [])).toFields
  let rawOwners ← ((← metadata.lookupOrNull "ownerReferences").orElse (.list [])).elements
  let owners ← OwnerReference.ofManifests rawOwners
  let resourceVersion ← metadata.lookupOrNull "resourceVersion"
  pure
    { name, scope, spec, labels, annotations := Fields.remove annotations fingerprintKey, owners,
      fingerprint, resourceVersion }

end Workload

end MonitorOperator
