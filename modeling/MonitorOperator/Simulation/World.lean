import MonitorOperator.Operator
import MonitorOperator.Simulation.Peer
import MonitorOperator.Simulation.Server

/-!
# A simulated world

A `World` answers all that an operator asks of its surroundings: a simulated API server, whose answers
to single calls can be scripted, simulated HTTP peers for registries and for the dashboard, and a
clock. It keeps what the operator did: calls, log events and counts. `World.run` runs a process in it.
-/

namespace MonitorOperator.Simulation

open Cluster (ApiCall ApiReply)

/-- The methods of the API server. -/
inductive ApiMethod where
  | read
  | create
  | replace
  | status
  | namespaceOf
  deriving DecidableEq, Repr

/-- The method of a call. -/
def methodOf : ApiCall → ApiMethod
  | .readWorkload .. => .read
  | .createWorkload .. => .create
  | .replaceWorkload .. => .replace
  | .replaceStatus .. => .status
  | .readNamespace _ => .namespaceOf

/-- The scripted answer to one call. -/
inductive ScriptedReply where
  /-- The server answers as usual. -/
  | usual
  /-- The call fails and changes nothing. -/
  | fault (fault : Fault)
  /-- The call returns this and changes nothing. -/
  | reply (reply : ApiReply)
  deriving Repr

/-- The peer that HTTP requests go to. -/
inductive PeerName where
  | registry
  | dashboard
  deriving DecidableEq, Repr

/-- What an operator did, each list with the latest first. -/
structure Record where
  calls : List ApiCall := []
  events : List LogEvent := []
  counts : List Counter := []
  credentialCalls : Nat := 0
  propertyCalls : List CustomProperties := []
  endpoints : List Document := []
  deriving Repr

/-- The state of a simulated world. -/
structure World where
  server : Server := {}
  /-- The answers to come, with the methods that they are for. -/
  script : List (ApiMethod × ScriptedReply) := []
  namespaceReply : ApiReply
  registry : Peer := {}
  dashboard : Peer := {}
  /-- The peer that the operator talks to. -/
  partner : PeerName := .registry
  clock : Moment
  done : Record := {}
  deriving Repr

namespace World

/-- The next scripted answer for a method, and the script after it. -/
def takeScripted (method : ApiMethod) :
    List (ApiMethod × ScriptedReply) → Option (ScriptedReply × List (ApiMethod × ScriptedReply))
  | [] => none
  | entry :: rest =>
      if entry.1 = method then some (entry.2, rest)
      else (takeScripted method rest).map fun (reply, rest) => (reply, entry :: rest)

/-- The world with a call noted. -/
def noting (world : World) (call : ApiCall) : World :=
  { world with done := { world.done with calls := call :: world.done.calls } }

/-- Let the server answer a call as usual. -/
def answerUsual (world : World) (call : ApiCall) : Except Fault ApiReply × World :=
  let (reply, server) := world.server.answer world.namespaceReply call
  (reply, { world with server })

/-- Answer a call. -/
def answerCall (call : ApiCall) (world : World) : Except Fault ApiReply × World :=
  let world := world.noting call
  match takeScripted (methodOf call) world.script with
  | none => world.answerUsual call
  | some (scripted, script) =>
      let world := { world with script }
      match scripted with
      | .usual => world.answerUsual call
      | .fault fault => (.error fault, world)
      | .reply reply => (.ok reply, world)

/-- Answer an HTTP request. -/
def answerRequest (request : Http.Request) (world : World) :
    Except Fault Http.Response × World :=
  match world.partner with
  | .registry =>
      let (response, registry) := world.registry.receive request
      (response, { world with registry })
  | .dashboard =>
      let (response, dashboard) := world.dashboard.receive request
      (response, { world with dashboard })

/-- The world with a log event noted. -/
def logging (world : World) (event : LogEvent) : World :=
  { world with done := { world.done with events := event :: world.done.events } }

/-- The world with a count noted. -/
def counting (world : World) (counter : Counter) : World :=
  { world with done := { world.done with counts := counter :: world.done.counts } }

/-- Answer a request to the world. -/
def serve : (request : SystemRequest) → StateM World request.Reply
  | .api call => fun world => answerCall call world
  | .send request => fun world => answerRequest request world
  | .log event => fun world => ((), world.logging event)
  | .count counter => fun world => ((), world.counting counter)
  | .now => fun world => (world.clock, world)

/-- The world with a request of a cycle noted. -/
def notingRequest (world : World) : Cycle.CycleRequest → World
  | .provisionCredentials _ =>
      { world with
        done := { world.done with credentialCalls := world.done.credentialCalls + 1 } }
  | .provisionProperties _ properties =>
      { world with
        done := { world.done with propertyCalls := properties :: world.done.propertyCalls } }
  | .resolveVersion .. => { world with partner := .registry }
  | .register endpoint =>
      { world with
        partner := .dashboard
        done := { world.done with endpoints := endpoint :: world.done.endpoints } }
  | _ => world

/-- Answer a request of a cycle by a backend in the world. -/
def serveCycle (backend : Backend) (request : Cycle.CycleRequest) : StateM World request.Reply :=
  fun world => Process.run serve (backend.serve request) (world.notingRequest request)

/-- Run a process in the world. -/
def run {α : Type} (process : Process system α) : StateM World α :=
  Process.run serve process

/-- Run a process of a cycle by a backend in the world. -/
def runCycle {α : Type} (backend : Backend) (process : Process Cycle.collaborators α) :
    StateM World α :=
  Process.run (serveCycle backend) process

/-- Forget what the operator did. -/
def forgetting (world : World) : World :=
  { world with
    done := {}
    registry := world.registry.forgetting
    dashboard := world.dashboard.forgetting }

end World

end MonitorOperator.Simulation
