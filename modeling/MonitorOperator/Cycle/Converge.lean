import MonitorOperator.Cycle.Basic

/-!
# Convergence of workloads

`converge` brings the live workload to the desired one with at most one write: it creates a workload
that is absent and overwrites one that has changed. Whether it has changed is decided by the
fingerprints alone. An overwrite carries the version that was read, so that it fails if someone else
has written in between.
-/

namespace MonitorOperator.Cycle

/-- What a convergence did, and the desired workload with the version that it was written over. -/
structure Convergence where
  action : WorkloadAction
  desired : Workload
  deriving Repr

/-- The logger of convergences. -/
def convergeLogger : Logger := .of "workload.converge"

/-- An event about a workload. -/
def workloadEvent (level : LogLevel) (event : String) (workload : Workload)
    (fields : List (String × Document)) : LogEvent :=
  convergeLogger.event level event
    ([("name", workload.name), ("namespace", workload.scope)] ++ fields)

/-- The live workload of a desired one, if it exists. -/
def liveWorkload (desired : Workload) : Task collaborators (Option Workload) :=
  Task.ofProcess do
    match ← (getWorkload desired.name desired.scope).outcome with
    | .ok live => return .ok (some live)
    | .error fault => return if fault.kind = .notFound then .ok none else .error fault

/-- Create the desired workload. -/
def create (desired : Workload) : Task collaborators Convergence := do
  liftM (log (workloadEvent .info "creating_statefulset" desired []))
  let _ ← createWorkload desired
  liftM (count (.writes .created))
  return ⟨.created, desired⟩

/-- Overwrite the live workload with the desired one. -/
def overwrite (live desired : Workload) : Task collaborators Convergence := do
  liftM (log (workloadEvent .info "updating_statefulset" desired
    [("live_fingerprint", live.fingerprint), ("desired_fingerprint", desired.fingerprint)]))
  let desired := { desired with resourceVersion := live.resourceVersion }
  let _ ← updateWorkload desired
  liftM (count (.writes .updated))
  return ⟨.updated, desired⟩

/-- Leave the live workload as it is. -/
def leave (desired : Workload) : Task collaborators Convergence := do
  liftM (log (workloadEvent .debug "statefulset_current" desired []))
  return ⟨.unchanged, desired⟩

/-- Bring the live workload to the desired one. -/
def converge (desired : Workload) : Task collaborators Convergence := do
  match ← liveWorkload desired with
  | none => create desired
  | some live => if live.hasChanged desired then overwrite live desired else leave desired

end MonitorOperator.Cycle
