import MonitorOperator.Cycle.Converge
import MonitorOperator.Cycle.Status
import MonitorOperator.Workload.Build

/-!
# The reconciliation cycle

One call of `reconcile` takes a monitor through the whole cycle, in this order: credentials, custom
properties if it has any, workload, version of the image, status, and registration with the
dashboard if it has an endpoint. The first step that fails ends the cycle, and its fault is what the
caller gets. Two failures do not end it: a version that cannot be looked up leaves the version as it
was, and a registration that fails is tried again in the next cycle.

Every fault that leaves a cycle is a conflict, a provisioning fault, a workload fault or a status
fault, by the step that failed.
-/

namespace MonitorOperator.Cycle

/-- What is fixed for all cycles. -/
structure Settings where
  /-- Versions are not looked up. -/
  disableVersionUpdates : Bool := false
  /-- There is a dashboard to register endpoints with. -/
  hasDashboard : Bool := false
  deriving DecidableEq, Repr

/-- What a successful cycle did. -/
structure Outcome where
  action : WorkloadAction
  lookup : VersionLookup
  version : Option VersionRecord := none
  dashboardId : Option String := none
  deriving Repr

/-- The cycle wrote the workload. -/
def Outcome.changed (outcome : Outcome) : Bool :=
  outcome.action != .unchanged

/-- The logger of a cycle of a monitor. -/
def cycleLogger (monitor : Monitor) : Logger :=
  (Logger.of "reconciler").bind
    [(.text "instance", monitor.name), (.text "namespace", monitor.scope)]

/-- An event of a cycle that reports a fault. -/
def faultEvent (monitor : Monitor) (event : String) (fields : List (String × Document))
    (fault : Fault) : LogEvent :=
  (cycleLogger monitor).event .error event (fields ++ [("error", .text fault.message)])

/-- The event that a provisioning step failed. A conflict has an event of its own. -/
def provisioningEvent (monitor : Monitor) (what : String) (fault : Fault) : LogEvent :=
  if fault.kind = .conflict then (cycleLogger monitor).event .error s!"{what}_conflict" []
  else faultEvent monitor s!"{what}_reconcile_failed" [] fault

/-- The fault of a provisioning step that failed. -/
def provisioningFault (step : String) (fault : Fault) : Fault :=
  if fault.kind = .conflict then fault else .provisioning step fault

/-- The fault of a workload step that failed. -/
def workloadFault (fault : Fault) : Fault :=
  if fault.kind = .conflict || fault.kind = .workload then fault else .workload fault

/-- The fault of a status step that failed. -/
def statusFault (fault : Fault) : Fault :=
  if fault.kind = .conflict || fault.kind = .statusPersist then fault else .status fault

/-- The credentials step. -/
def credentialsStep (monitor : Monitor) : Task collaborators (Option Credentials) :=
  attempt (provisionCredentials monitor) (provisioningEvent monitor "pull_secret")
    (provisioningFault "credentials")

/-- The properties step, for a monitor that has custom properties. -/
def propertiesStep (monitor : Monitor) : Task collaborators Unit :=
  match monitor.spec.customProperties with
  | none => pure ()
  | some properties =>
      attempt (provisionProperties monitor properties)
        (provisioningEvent monitor "custom_properties") (provisioningFault "custom_properties")

/-- The workload step. -/
def workloadStep (monitor : Monitor) : Task collaborators WorkloadAction :=
  attempt
    (do
      let desired ← liftM (monitor.desiredWorkload (← clusterId))
      return (← converge desired).action)
    (faultEvent monitor "statefulset_reconcile_failed" []) workloadFault

/-- The event that an image has another hash than the one recorded. -/
def updateFoundEvent (monitor : Monitor) (record : VersionRecord) : LogEvent :=
  (cycleLogger monitor).event .info "image_update_found"
    [("old_version", monitor.status.imageVersion), ("new_version", record.version),
      ("old_hash", monitor.status.imageHash), ("new_hash", record.hash)]

/-- The version step. It does not fail. -/
def versionStep (settings : Settings) (monitor : Monitor) (credentials : Option Credentials) :
    Process collaborators (VersionLookup × Option VersionRecord) := do
  if settings.disableVersionUpdates then
    count (.lookups .disabled)
    return (.disabled, none)
  match ← (resolveVersion monitor.spec.image credentials).outcome with
  | .error fault =>
      log (faultEvent monitor "image_version_lookup_failed" [("image", monitor.spec.image)] fault)
      count (.lookups .degraded)
      return (.degraded, none)
  | .ok record =>
      if !monitor.status.imageHash.agrees record.hash then log (updateFoundEvent monitor record)
      count (.lookups .resolved)
      return (.resolved, some record)

/-- The status step. Returns the monitor afterwards. -/
def statusStep (monitor : Monitor) (version : Option VersionRecord) :
    Process collaborators (Monitor × Except Fault Unit) := do
  match ← record monitor version with
  | (monitor, .ok ()) => return (monitor, .ok ())
  | (monitor, .error fault) =>
      log (faultEvent monitor "status_update_failed" [] fault)
      return (monitor, .error (statusFault fault))

/-- Register the endpoint of a monitor. This does not fail. -/
def registration (monitor : Monitor) : Process collaborators (Option String) := do
  let endpoint := monitor.spec.endpoint
  match ← (register endpoint).outcome with
  | .ok dashboardId =>
      log ((cycleLogger monitor).event .info "dashboard_registered"
        [("endpoint", endpoint), ("dashboard_id", .text dashboardId)])
      count (.registrations .registered)
      return some dashboardId
  | .error fault =>
      if fault.kind = .dashboardAlreadyRegistered then
        log ((cycleLogger monitor).event .info "dashboard_already_registered"
          [("endpoint", endpoint)])
        count (.registrations .alreadyRegistered)
      else
        log (faultEvent monitor "dashboard_registration_failed" [("endpoint", endpoint)] fault)
        count (.registrations .failed)
      return none

/-- The dashboard step, for a monitor that has an endpoint. It does not fail. -/
def dashboardStep (settings : Settings) (monitor : Monitor) :
    Process collaborators (Option String) := do
  if !monitor.hasEndpoint then return none
  if settings.hasDashboard then registration monitor
  else
    log ((cycleLogger monitor).event .debug "dashboard_registration_skipped"
      [("reason", .text "no registrar configured")])
    return none

/-- The steps before the version step, which leave the monitor as it is. -/
def provisionAndConverge (monitor : Monitor) :
    Task collaborators (Option Credentials × WorkloadAction) := do
  let credentials ← credentialsStep monitor
  propertiesStep monitor
  return (credentials, ← workloadStep monitor)

/-- The steps from the version step on. Returns the monitor afterwards. -/
def recordAndRegister (settings : Settings) (monitor : Monitor) (credentials : Option Credentials)
    (action : WorkloadAction) : Process collaborators (Monitor × Except Fault Outcome) := do
  let (lookup, version) ← versionStep settings monitor credentials
  match ← statusStep monitor version with
  | (monitor, .error fault) => return (monitor, .error fault)
  | (monitor, .ok ()) =>
      let dashboardId ← dashboardStep settings monitor
      return (monitor, .ok { action, lookup, version, dashboardId })

/-- All steps of a cycle. Returns the monitor afterwards. -/
def steps (settings : Settings) (monitor : Monitor) :
    Process collaborators (Monitor × Except Fault Outcome) := do
  match ← (provisionAndConverge monitor).outcome with
  | .error fault => return (monitor, .error fault)
  | .ok (credentials, action) => recordAndRegister settings monitor credentials action

/-- The counter of an outcome; a fault that is not the engine's own is not counted. -/
def counterOf : Except Fault Outcome → Option Counter
  | .ok _ => some (.cycles .success)
  | .error fault =>
      if fault.kind = .conflict then some (.cycles .conflict)
      else if fault.kind.isEngine then some (.cycles .error)
      else none

/-- Take a monitor through a cycle. Returns the monitor afterwards, and what the cycle did or why it
failed. -/
def reconcile (settings : Settings) (monitor : Monitor) :
    Process collaborators (Monitor × Except Fault Outcome) := do
  let (monitor, outcome) ← steps settings monitor
  match counterOf outcome with
  | some counter => count counter
  | none => pure ()
  return (monitor, outcome)

end MonitorOperator.Cycle
