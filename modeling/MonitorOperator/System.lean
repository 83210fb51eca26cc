import MonitorOperator.Cluster.Api
import MonitorOperator.Http.Message
import MonitorOperator.Log.Event
import MonitorOperator.Metrics
import MonitorOperator.Moment
import MonitorOperator.Process

/-!
# The operator's surroundings

All that the operator does to the world and learns from it goes through the requests of `system`:
calls to the API server, HTTP requests, log events, counters and the time.
-/

namespace MonitorOperator

/-- A request to the world outside. -/
inductive SystemRequest where
  /-- Call the API server. -/
  | api (call : Cluster.ApiCall)
  /-- Send one HTTP request, and do not follow a redirect. -/
  | send (request : Http.Request)
  /-- Log an event. -/
  | log (event : LogEvent)
  /-- Increment a counter. -/
  | count (counter : Counter)
  /-- Read the clock. -/
  | now

/-- The reply to each request. -/
abbrev SystemRequest.Reply : SystemRequest → Type
  | api _ => Except Fault Cluster.ApiReply
  | send _ => Except Fault Http.Response
  | log _ => Unit
  | count _ => Unit
  | now => Moment

/-- The world outside. -/
abbrev system : Interface := ⟨SystemRequest, SystemRequest.Reply⟩

namespace System

/-- Call the API server. -/
def api (call : Cluster.ApiCall) : Task system Cluster.ApiReply :=
  Task.ofProcess (.call (.api call) .done)

/-- Send an HTTP request. -/
def send (request : Http.Request) : Task system Http.Response :=
  Task.ofProcess (.call (.send request) .done)

/-- Log an event. -/
def log (event : LogEvent) : Process system Unit :=
  .call (.log event) .done

/-- Increment a counter. -/
def count (counter : Counter) : Process system Unit :=
  .call (.count counter) .done

/-- Read the clock. -/
def now : Process system Moment :=
  .call .now .done

end System

end MonitorOperator
