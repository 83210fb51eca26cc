/-!
# Counters

What the operator counts: the cycles by their result, the writes of workloads by their action, the
lookups of versions and the registrations with the dashboard by how they went.
-/

namespace MonitorOperator

/-- How a cycle ended. -/
inductive CycleResult where
  | success
  | conflict
  | error
  deriving DecidableEq, Repr

/-- What a write did to a workload. -/
inductive WriteAction where
  | created
  | updated
  deriving DecidableEq, Repr

/-- How the lookup of a version went. -/
inductive VersionLookup where
  /-- The registry told the version. -/
  | resolved
  /-- Lookups are switched off. -/
  | disabled
  /-- The lookup failed, and the version before stays. -/
  | degraded
  deriving DecidableEq, Repr

/-- How a registration with the dashboard went. -/
inductive RegistrationResult where
  | registered
  | alreadyRegistered
  | failed
  deriving DecidableEq, Repr

/-- A counter. -/
inductive Counter where
  | cycles (result : CycleResult)
  | writes (action : WriteAction)
  | lookups (lookup : VersionLookup)
  | registrations (result : RegistrationResult)
  deriving DecidableEq, Repr

/-- The public name of a result. -/
def CycleResult.name : CycleResult → String
  | success => "success"
  | conflict => "conflict"
  | error => "error"

/-- The public name of an action. -/
def WriteAction.name : WriteAction → String
  | created => "created"
  | updated => "updated"

/-- The public name of the outcome of a lookup. -/
def VersionLookup.name : VersionLookup → String
  | resolved => "resolved"
  | disabled => "disabled"
  | degraded => "degraded"

/-- The public name of a result. -/
def RegistrationResult.name : RegistrationResult → String
  | registered => "registered"
  | alreadyRegistered => "already_registered"
  | failed => "failed"

/-- The public name of a counter, with its label. -/
def Counter.name : Counter → String
  | cycles result => "kubemon_reconcile_total\x7bresult=" ++ result.name ++ "\x7d"
  | writes action => "kubemon_workload_writes_total\x7baction=" ++ action.name ++ "\x7d"
  | lookups lookup => "kubemon_version_lookups_total\x7bresult=" ++ lookup.name ++ "\x7d"
  | registrations result =>
      "kubemon_dashboard_registrations_total\x7bresult=" ++ result.name ++ "\x7d"

end MonitorOperator
