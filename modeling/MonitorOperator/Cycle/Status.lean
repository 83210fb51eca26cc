import MonitorOperator.Cycle.Basic

/-!
# Recording the status

`record` stamps the outcome of a cycle onto the monitor and writes its status. Without a version
record the version and hash stay as they are, and only the time moves. The monitor keeps the stamp
also when the write fails; its own version moves only with a successful write.
-/

namespace MonitorOperator

namespace Monitor

/-- The monitor with a time and, if there is one, a version stamped on it. -/
def stamped (monitor : Monitor) (version : Option VersionRecord) (time : Moment) : Monitor :=
  let status :=
    match version with
    | some record => { monitor.status with imageVersion := record.version, imageHash := record.hash }
    | none => monitor.status
  { monitor with status := { status with updated := some time } }

/-- The monitor with the version that a write returned, if it returned one. -/
def adopting (monitor : Monitor) (version : Document) : Monitor :=
  if version.truthy then { monitor with resourceVersion := version } else monitor

end Monitor

namespace Cycle

/-- The logger of the status. -/
def statusLogger : Logger := .of "status"

/-- The event that the status of a monitor was recorded. -/
def recordedEvent (monitor : Monitor) : LogEvent :=
  statusLogger.event .debug "status_recorded"
    [("instance", monitor.name), ("namespace", monitor.scope),
      ("image_version", monitor.status.imageVersion), ("image_hash", monitor.status.imageHash)]

/-- Write the status of a monitor as it is. Returns the monitor afterwards. -/
def writeStatus (monitor : Monitor) : Process collaborators (Monitor × Except Fault Unit) := do
  match ← (updateStatus monitor).outcome with
  | .ok version => return (monitor.adopting version, .ok ())
  | .error fault => return (monitor, .error fault)

/-- Stamp the outcome of a cycle onto a monitor and write its status. Returns the monitor
afterwards. -/
def record (monitor : Monitor) (version : Option VersionRecord) :
    Process collaborators (Monitor × Except Fault Unit) := do
  let time ← now
  match ← writeStatus (monitor.stamped version time) with
  | (monitor, .ok ()) =>
      log (recordedEvent monitor)
      return (monitor, .ok ())
  | (monitor, .error fault) => return (monitor, .error fault)

end Cycle

end MonitorOperator
