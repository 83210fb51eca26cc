import MonitorOperator.Monitor.Manifest
import MonitorOperator.System
import MonitorOperator.Workload.Manifest

/-!
# The objects of the cluster

Workloads, the status of monitors and the identity of the cluster, read and written through the API
server. A refusal becomes a fault of the engine: what is missing is absent, a write on an old version
is stale, and any other refusal is a rejection of the class that fits the object.
-/

namespace MonitorOperator.Cluster

/-- The fault of a refusal, about an object. -/
def ofRefusal (what : String) (otherwise : FaultKind) (code reason : Document) : Fault :=
  let reason := (reason.orElse (.text (Fault.refused code reason).message)).display
  if code.agrees (.integer 404) then .absent what
  else if code.agrees (.integer 409) then .stale what reason
  else .rejected otherwise what code reason

/-- The fault of a call about an object. Only refusals take another form. -/
def explain (what : String) (otherwise : FaultKind) : Fault → Fault
  | .refused code reason => ofRefusal what otherwise code reason
  | fault => fault

/-- Call the API server about an object. -/
def callAbout (what : String) (otherwise : FaultKind) (call : ApiCall) : Task system ApiReply :=
  (System.api call).mapFault (explain what otherwise)

/-- The logger of the workloads. -/
def workloadLogger : Logger := .of "workload.store"

/-- The name of an object with its namespace. -/
def path (scope name : Document) : String := s!"{scope.display}/{name.display}"

/-- The workload that a reply stands for. -/
def workloadOf (reply : ApiReply) : Except Fault Workload := do
  Workload.ofManifest (← reply.toObject)

/-- Read a workload. -/
def getWorkload (name scope : Document) : Task system Workload := do
  let reply ← callAbout s!"statefulset {path scope name}" .workload (.readWorkload name scope)
  liftM (workloadOf reply)

/-- Log that a workload was written. -/
def logWritten (event : String) (workload : Workload) : Task system Unit :=
  liftM (System.log (workloadLogger.event .debug event
    [("name", workload.name), ("namespace", workload.scope)]))

/-- Create a workload, and return it as the server has it. -/
def createWorkload (workload : Workload) : Task system Workload := do
  let reply ← callAbout s!"create statefulset {path workload.scope workload.name}" .workload
    (.createWorkload workload.scope workload.manifest)
  logWritten "statefulset_created" workload
  liftM (workloadOf reply)

/-- Overwrite a workload, and return it as the server has it. -/
def updateWorkload (workload : Workload) : Task system Workload := do
  let reply ← callAbout s!"update statefulset {path workload.scope workload.name}" .workload
    (.replaceWorkload workload.name workload.scope workload.manifest)
  logWritten "statefulset_replaced" workload
  liftM (workloadOf reply)

/-- The body that writes the status of a monitor. It holds the version that the monitor was read
at, so that the server rejects a write on an older one. -/
def statusBody (monitor : Monitor) : Except Fault Document := do
  let names := [("name", monitor.name), ("namespace", monitor.scope)]
  let metadata :=
    if monitor.resourceVersion.truthy then
      names ++ [("resourceVersion", monitor.resourceVersion)]
    else names
  pure (.ofFields
    [("apiVersion", .text Monitor.groupVersion), ("kind", .text Monitor.kind),
      ("metadata", .ofFields metadata), ("status", ← monitor.status.manifest)])

/-- Write the status of a monitor, and return its new version if the server tells it. -/
def updateStatus (monitor : Monitor) : Task system Document := do
  let body ← liftM (statusBody monitor)
  let reply ← callAbout s!"status of KubeMon {path monitor.scope monitor.name}" .statusPersist
    (.replaceStatus monitor.name monitor.scope body)
  liftM reply.newVersion

/-- The namespace whose identity is that of the cluster: it lives as long as the cluster does. -/
def identityNamespace : String := "kube-system"

/-- The identifier of the cluster. -/
def clusterId : Task system String := do
  let reply ← callAbout s!"namespace {identityNamespace}" .engine
    (.readNamespace identityNamespace)
  let uid ← liftM reply.namespaceUid
  if uid.truthy then pure uid.display else throw (.missingClusterId identityNamespace)

end MonitorOperator.Cluster
