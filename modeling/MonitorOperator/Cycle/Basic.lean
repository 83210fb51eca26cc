import MonitorOperator.Log.Event
import MonitorOperator.Metrics
import MonitorOperator.Monitor.Basic
import MonitorOperator.Process
import MonitorOperator.Registry.Credentials
import MonitorOperator.Registry.Version
import MonitorOperator.Workload.Basic

/-!
# The collaborators of a cycle

A reconciliation cycle does nothing itself: it asks collaborators for credentials, properties, the
cluster's identifier, workloads, versions, the status and registrations. Each may reply with a
fault. The requests of the interface `collaborators` are all that a cycle does.
-/

namespace MonitorOperator.Cycle

/-- A request of a cycle. -/
inductive CycleRequest where
  /-- Make the secret that images are pulled with current, and return its credentials. -/
  | provisionCredentials (monitor : Monitor)
  /-- Make the secret with the custom properties current. -/
  | provisionProperties (monitor : Monitor) (properties : CustomProperties)
  /-- Tell the identifier of the cluster. -/
  | clusterId
  /-- Read a workload by its name and namespace. -/
  | getWorkload (name scope : Document)
  /-- Create a workload. -/
  | createWorkload (workload : Workload)
  /-- Overwrite a workload. -/
  | updateWorkload (workload : Workload)
  /-- Tell the published version of an image. -/
  | resolveVersion (image : Document) (credentials : Option Credentials)
  /-- Write the status of a monitor, and return the monitor's new version if there is one. -/
  | updateStatus (monitor : Monitor)
  /-- Register an endpoint with the dashboard, and return the dashboard's identifier for it. -/
  | register (endpoint : Document)
  /-- Log an event. -/
  | log (event : LogEvent)
  /-- Increment a counter. -/
  | count (counter : Counter)
  /-- Read the clock. -/
  | now

/-- The reply to each request. -/
abbrev CycleRequest.Reply : CycleRequest → Type
  | provisionCredentials _ => Except Fault (Option Credentials)
  | provisionProperties _ _ => Except Fault Unit
  | clusterId => Except Fault String
  | getWorkload _ _ => Except Fault Workload
  | createWorkload _ => Except Fault Workload
  | updateWorkload _ => Except Fault Workload
  | resolveVersion _ _ => Except Fault VersionRecord
  | updateStatus _ => Except Fault Document
  | register _ => Except Fault String
  | log _ => Unit
  | count _ => Unit
  | now => Moment

/-- The collaborators of a cycle. -/
abbrev collaborators : Interface := ⟨CycleRequest, CycleRequest.Reply⟩

/-- Provision the credentials of a monitor. -/
def provisionCredentials (monitor : Monitor) : Task collaborators (Option Credentials) :=
  Task.ofProcess (.call (.provisionCredentials monitor) .done)

/-- Provision the properties of a monitor. -/
def provisionProperties (monitor : Monitor) (properties : CustomProperties) :
    Task collaborators Unit :=
  Task.ofProcess (.call (.provisionProperties monitor properties) .done)

/-- The identifier of the cluster. -/
def clusterId : Task collaborators String :=
  Task.ofProcess (.call .clusterId .done)

/-- Read a workload. -/
def getWorkload (name scope : Document) : Task collaborators Workload :=
  Task.ofProcess (.call (.getWorkload name scope) .done)

/-- Create a workload. -/
def createWorkload (workload : Workload) : Task collaborators Workload :=
  Task.ofProcess (.call (.createWorkload workload) .done)

/-- Overwrite a workload. -/
def updateWorkload (workload : Workload) : Task collaborators Workload :=
  Task.ofProcess (.call (.updateWorkload workload) .done)

/-- The published version of an image. -/
def resolveVersion (image : Document) (credentials : Option Credentials) :
    Task collaborators VersionRecord :=
  Task.ofProcess (.call (.resolveVersion image credentials) .done)

/-- Write the status of a monitor. -/
def updateStatus (monitor : Monitor) : Task collaborators Document :=
  Task.ofProcess (.call (.updateStatus monitor) .done)

/-- Register an endpoint. -/
def register (endpoint : Document) : Task collaborators String :=
  Task.ofProcess (.call (.register endpoint) .done)

/-- Log an event. -/
def log (event : LogEvent) : Process collaborators Unit :=
  .call (.log event) .done

/-- Increment a counter. -/
def count (counter : Counter) : Process collaborators Unit :=
  .call (.count counter) .done

/-- Read the clock. -/
def now : Process collaborators Moment :=
  .call .now .done

/-- Run a step of a cycle. If it fails, log that and give the fault another form. -/
def attempt {α : Type} (step : Task collaborators α) (report : Fault → LogEvent)
    (raise : Fault → Fault) : Task collaborators α :=
  Task.ofProcess do
    match ← step.outcome with
    | .ok result => return .ok result
    | .error fault =>
        log (report fault)
        return .error (raise fault)

end MonitorOperator.Cycle
