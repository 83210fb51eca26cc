import MonitorOperator.Document.Basic

/-!
# Workloads

A workload is the StatefulSet of a monitor, freshly built or read from the cluster. What compares
the two is the fingerprint, which the cluster keeps as an annotation.
-/

namespace MonitorOperator

/-- The link from a workload to the object that owns it. -/
structure OwnerReference where
  apiVersion : Document
  kind : Document
  name : Document
  uid : Document
  controller : Bool := true
  blockOwnerDeletion : Bool := true
  deriving Repr

/-- A StatefulSet. Fingerprint and resource version are null when there is none. -/
structure Workload where
  name : Document
  /-- The namespace of the workload. -/
  scope : Document
  spec : Document
  labels : Fields := []
  annotations : Fields := []
  owners : List OwnerReference := []
  fingerprint : Document := .null
  resourceVersion : Document := .null
  deriving Repr

/-- Where the live workload stands relative to the desired one. -/
inductive WorkloadState where
  | absent
  | current
  | stale
  deriving DecidableEq, Repr

/-- The write that a convergence issued. -/
inductive WorkloadAction where
  | created
  | updated
  | unchanged
  deriving DecidableEq, Repr

namespace OwnerReference

/-- The two references are one value. -/
def agrees (left right : OwnerReference) : Bool :=
  left.apiVersion.agrees right.apiVersion && left.kind.agrees right.kind &&
    left.name.agrees right.name && left.uid.agrees right.uid &&
    left.controller == right.controller && left.blockOwnerDeletion == right.blockOwnerDeletion

/-- The references agree one by one. -/
def allAgree : List OwnerReference → List OwnerReference → Bool
  | [], [] => true
  | left :: lefts, right :: rights => left.agrees right && allAgree lefts rights
  | _, _ => false

end OwnerReference

namespace Workload

/-- The two workloads are one value. -/
def agrees (left right : Workload) : Bool :=
  left.name.agrees right.name && left.scope.agrees right.scope && left.spec.agrees right.spec &&
    (Document.object left.labels).agrees (.object right.labels) &&
    (Document.object left.annotations).agrees (.object right.annotations) &&
    OwnerReference.allAgree left.owners right.owners &&
    left.fingerprint.agrees right.fingerprint &&
    left.resourceVersion.agrees right.resourceVersion

/-- The live workload must be overwritten: one of the fingerprints is missing, or they differ. -/
def hasChanged (live desired : Workload) : Bool :=
  if live.fingerprint.truthy && desired.fingerprint.truthy then
    !live.fingerprint.agrees desired.fingerprint
  else true

/-- Where a live workload, if there is one, stands relative to the desired one. -/
def classify (live : Option Workload) (desired : Workload) : WorkloadState :=
  match live with
  | none => .absent
  | some live => if live.hasChanged desired then .stale else .current

end Workload

end MonitorOperator
