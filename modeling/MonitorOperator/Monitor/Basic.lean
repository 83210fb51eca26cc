import MonitorOperator.Moment

/-!
# Monitors

A monitor is the custom resource that asks for a monitoring workload: what should run, and what the
last reconciliation recorded. Fields that a manifest may fill with any value are documents, with
null for what is not given.
-/

namespace MonitorOperator

/-- Properties for the monitoring process: a value of their own, or the name of a secret. -/
structure CustomProperties where
  value : Document
  valueFrom : Document
  deriving Repr

/-- What should run. -/
structure MonitorSpec where
  image : Document
  customProperties : Option CustomProperties
  /-- The endpoint to register with the dashboard. -/
  endpoint : Document
  replicas : Int
  labels : Fields
  nodeSelector : Fields
  tolerations : List Document
  resources : Fields
  env : List Document
  serviceAccountName : Document
  priorityClassName : Document
  deriving Repr

/-- What the last successful reconciliation recorded. -/
structure MonitorStatus where
  imageVersion : Document
  imageHash : Document
  updated : Option Moment
  deriving Repr

/-- A monitor as one reconciliation sees it. -/
structure Monitor where
  name : Document
  /-- The namespace that the monitor and its workload live in. -/
  scope : Document
  uid : Document
  resourceVersion : Document
  spec : MonitorSpec
  status : MonitorStatus
  deriving Repr

namespace Monitor

/-- The group of the custom resource's API. -/
def apiGroup : String := "kubemon.io"

/-- The version of the custom resource's API. -/
def apiVersion : String := "v1alpha1"

/-- The group and version that a manifest names. -/
def groupVersion : String := apiGroup ++ "/" ++ apiVersion

/-- The kind of the custom resource. -/
def kind : String := "KubeMon"

/-- The name of the custom resource in paths. -/
def plural : String := "kubemons"

/-- The last part of the name of every workload. -/
def workloadSuffix : String := "kubernetes-monitoring"

/-- The name of the monitor's workload. -/
def workloadName (monitor : Monitor) : String :=
  s!"{monitor.name.display}-{workloadSuffix}"

/-- The name of the secret that its images are pulled with. -/
def pullSecretName (monitor : Monitor) : String :=
  s!"{monitor.name.display}-pull-secret"

/-- The monitor has properties of its own. -/
def hasCustomProperties (monitor : Monitor) : Bool :=
  monitor.spec.customProperties.isSome

/-- The monitor has an endpoint to register. -/
def hasEndpoint (monitor : Monitor) : Bool :=
  monitor.spec.endpoint.truthy

/-- The name of the secret that holds its properties. -/
def secretName (monitor : Monitor) (properties : CustomProperties) : Document :=
  if properties.valueFrom.truthy then properties.valueFrom
  else .text s!"{monitor.name.display}-{workloadSuffix}-custom-properties"

end Monitor

end MonitorOperator
