import MonitorOperator.Cluster.Store
import MonitorOperator.Cycle.Reconcile
import MonitorOperator.Dashboard
import MonitorOperator.Registry.Lookup

/-!
# The operator

Workloads, status and identity of the cluster go through the API server; what else a cycle needs is
its `Backend`: provisioners of secrets, a resolver of versions, and perhaps a dashboard.
`Backend.serve` answers every request of a cycle by calls to the world outside. `Operator.build` puts
an operator together from its configuration.
-/

namespace MonitorOperator

/-- What stands behind the requests of a cycle, besides the API server. -/
structure Backend where
  /-- Make the pull secret of a monitor current and return the credentials in it. -/
  provisionCredentials : Monitor → Task system (Option Credentials)
  /-- Make the secret with the custom properties current. -/
  provisionProperties : Monitor → CustomProperties → Task system Unit
  /-- Tell the published version of an image. -/
  resolveVersion : Document → Option Credentials → Task system VersionRecord
  /-- Register an endpoint, if there is a dashboard. -/
  register : Option (Document → Task system String)

namespace Backend

/-- Answer a request of a cycle. -/
def serve (backend : Backend) : (request : Cycle.CycleRequest) → Process system request.Reply
  | .provisionCredentials monitor => (backend.provisionCredentials monitor).outcome
  | .provisionProperties monitor properties =>
      (backend.provisionProperties monitor properties).outcome
  | .clusterId => Cluster.clusterId.outcome
  | .getWorkload name scope => (Cluster.getWorkload name scope).outcome
  | .createWorkload workload => (Cluster.createWorkload workload).outcome
  | .updateWorkload workload => (Cluster.updateWorkload workload).outcome
  | .resolveVersion image credentials => (backend.resolveVersion image credentials).outcome
  | .updateStatus monitor => (Cluster.updateStatus monitor).outcome
  | .register endpoint =>
      match backend.register with
      | some register => (register endpoint).outcome
      | none => .done (.error (.lower .brokenAssumption))
  | .log event => System.log event
  | .count counter => System.count counter
  | .now => System.now

/-- What is fixed for all cycles with a backend. -/
def settings (backend : Backend) (disableVersionUpdates : Bool) : Cycle.Settings :=
  { disableVersionUpdates, hasDashboard := backend.register.isSome }

/-- Take a monitor through a cycle in the world outside. -/
def reconcile (backend : Backend) (disableVersionUpdates : Bool) (monitor : Monitor) :
    Process system (Monitor × Except Fault Cycle.Outcome) :=
  (Cycle.reconcile (backend.settings disableVersionUpdates) monitor).interpret backend.serve

end Backend

/-- Where versions are looked up. -/
inductive Resolver where
  /-- The registries of the images, asked as a configuration says. -/
  | registry (config : RegistryConfig) (settings : Registry.LookupSettings)
  /-- A fixed table. -/
  | fixed (table : VersionTable)

namespace Resolver

/-- The resolver that asks the registries as a configuration says. -/
def ofConfig (config : RegistryConfig) : Resolver :=
  .registry config { versionLabel := config.versionLabel }

/-- The published version of an image. -/
def resolve (resolver : Resolver) (image : Document) (credentials : Option Credentials) :
    Task system VersionRecord :=
  match resolver with
  | registry _ settings => Registry.resolve settings image credentials
  | fixed table => liftM (table.resolve image)

end Resolver

/-- An operator, without the provisioners of its secrets. -/
structure Operator where
  disableVersionUpdates : Bool
  resolver : Resolver
  dashboard : Option Dashboard

namespace Operator

/-- The backend of an operator with provisioners. -/
def backend (operator : Operator)
    (provisionCredentials : Monitor → Task system (Option Credentials))
    (provisionProperties : Monitor → CustomProperties → Task system Unit) : Backend :=
  { provisionCredentials
    provisionProperties
    resolveVersion := operator.resolver.resolve
    register := operator.dashboard.map Dashboard.register }

/-- The logger of the operator. -/
def logger : Logger := .of "reconciler"

/-- The event that tells whether there is a dashboard. -/
def dashboardEvent (config : DashboardConfig) : LogEvent :=
  if config.apiUrl = "" then
    logger.event .debug "dashboard_registration_disabled"
      [("reason", .text "no api url configured")]
  else logger.event .info "dashboard_registration_enabled" [("api_url", .text config.apiUrl)]

/-- The dashboard of a configuration, if it has an address. -/
def dashboardOf (config : Config) (environment : Environment) :
    Except Fault (Option Dashboard) :=
  if config.dashboard.apiUrl = "" then .ok none
  else
    match Dashboard.ofConfig config.dashboard environment config.operatorNamespace with
    | .ok dashboard => .ok (some dashboard)
    | .error problem => .error (.value problem)

/-- Put an operator together from its configuration. A resolver that is given takes the place of the
registries. -/
def build (config : Config) (environment : Environment) (resolver : Option Resolver) :
    Task system Operator := do
  let dashboard ← liftM (dashboardOf config environment)
  liftM (System.log (dashboardEvent config.dashboard))
  if config.disableVersionUpdates then
    liftM (System.log (logger.event .info "image_version_updates_disabled" []))
  return {
    disableVersionUpdates := config.disableVersionUpdates
    resolver := resolver.getD (.ofConfig config.registry)
    dashboard }

end Operator

end MonitorOperator
