import MonitorOperator.Simulation.World

/-!
# Sessions in a simulated world

A session takes monitors through cycles in a simulated world, one step after the other. A `Plan` says
how the collaborators of the operator behave; a step may change the plan, script the API server or
edit its objects from outside. `Session.perform` answers a step with a `Report` of its result and of
all that the operator did.
-/

namespace MonitorOperator.Simulation

open Cluster (ApiReply)

/-- How credentials are provisioned. -/
inductive CredentialsPlan where
  | given (credentials : Option Credentials)
  | ofConfig (config : DockerConfig)
  | failing (fault : Fault)

/-- How versions are resolved. -/
inductive ResolverPlan where
  | fixed (table : VersionTable)
  | registry (settings : Registry.LookupSettings) (answers : List Answer)
  | failing (fault : Fault)

/-- How endpoints are registered. -/
inductive DashboardPlan where
  | missing
  | registering (identifier : String)
  | failing (fault : Fault)
  | http (apiUrl token label : String) (answers : List Answer)

/-- How the collaborators of an operator behave. -/
structure Plan where
  namespaceReply : ApiReply
  credentials : CredentialsPlan
  /-- The fault of provisioning properties, if it fails. -/
  properties : Option Fault
  resolver : ResolverPlan
  dashboard : DashboardPlan
  disableVersionUpdates : Bool

/-- Parts of a plan to change. -/
structure PlanChange where
  namespaceReply : Option ApiReply := none
  credentials : Option CredentialsPlan := none
  properties : Option (Option Fault) := none
  resolver : Option ResolverPlan := none
  dashboard : Option DashboardPlan := none
  disableVersionUpdates : Option Bool := none

namespace Plan

/-- The plan before any change. -/
def initial : Plan :=
  { namespaceReply := .document
      (.ofFields [("metadata", .ofFields [("uid", .text "cluster-uid")])])
    credentials := .given (some {})
    properties := none
    resolver := .fixed { fallback := some ⟨.text "1.2.3", .text "sha256:aaa"⟩ }
    dashboard := .missing
    disableVersionUpdates := false }

/-- The plan with parts changed. -/
def changed (plan : Plan) (change : PlanChange) : Plan :=
  { namespaceReply := change.namespaceReply.getD plan.namespaceReply
    credentials := change.credentials.getD plan.credentials
    properties := change.properties.getD plan.properties
    resolver := change.resolver.getD plan.resolver
    dashboard := change.dashboard.getD plan.dashboard
    disableVersionUpdates := change.disableVersionUpdates.getD plan.disableVersionUpdates }

/-- Provision credentials as planned. -/
def provisionCredentials (plan : Plan) : Task system (Option Credentials) :=
  match plan.credentials with
  | .given credentials => pure credentials
  | .ofConfig config => do return some (← liftM (Credentials.ofDockerConfig config))
  | .failing fault => throw fault

/-- Provision properties as planned. -/
def provisionProperties (plan : Plan) : Task system Unit :=
  match plan.properties with
  | none => pure ()
  | some fault => throw fault

/-- Resolve a version as planned. -/
def resolveVersion (plan : Plan) (image : Document) (credentials : Option Credentials) :
    Task system VersionRecord :=
  match plan.resolver with
  | .fixed table => liftM (table.resolve image)
  | .registry settings _ => Registry.resolve settings image credentials
  | .failing fault => throw fault

/-- The way to register an endpoint as planned, if there is one. -/
def register (plan : Plan) : Except Fault (Option (Document → Task system String)) :=
  match plan.dashboard with
  | .missing => .ok none
  | .registering identifier => .ok (some fun _ => pure identifier)
  | .failing fault => .ok (some fun _ => throw fault)
  | .http apiUrl token label _ =>
      match Dashboard.at? apiUrl token label with
      | .ok dashboard => .ok (some dashboard.register)
      | .error problem => .error (.value problem)

/-- The backend that behaves as planned. -/
def backend (plan : Plan) : Except Fault Backend := do
  return {
    provisionCredentials := fun _ => plan.provisionCredentials
    provisionProperties := fun _ _ => plan.provisionProperties
    resolveVersion := plan.resolveVersion
    register := ← plan.register }

/-- The peer of the planned resolver. -/
def registryPeer (plan : Plan) : Peer :=
  match plan.resolver with
  | .registry _ answers => { answers }
  | _ => {}

/-- The peer of the planned dashboard. -/
def dashboardPeer (plan : Plan) : Peer :=
  match plan.dashboard with
  | .http _ _ _ answers => { answers }
  | _ => {}

/-- The world with peers that behave as planned. -/
def applyTo (plan : Plan) (world : World) : World :=
  { world with
    namespaceReply := plan.namespaceReply
    registry := plan.registryPeer
    dashboard := plan.dashboardPeer }

end Plan

/-- What a step does. Monitors go by handles. -/
inductive Action where
  /-- Read a monitor from its manifest. -/
  | load (handle : String) (body : Document)
  /-- Give a monitor another specification. -/
  | respecify (handle : String) (spec : Document)
  /-- Take a monitor through a cycle. -/
  | reconcile (handle : String)
  /-- Record a version, if one is given, in the status of a monitor. -/
  | record (handle : String) (version : Option VersionRecord)
  /-- Write the status of a monitor as it is. -/
  | updateStatus (handle : String)
  /-- Read a workload. -/
  | get (name scope : Document)
  /-- Create a workload. -/
  | create (body : Document)
  /-- Overwrite a workload. -/
  | update (body : Document)
  /-- Bring the live workload to a desired one. -/
  | converge (body : Document)
  /-- Tell the identifier of the cluster. -/
  | clusterId
  /-- Change the plan. -/
  | configure (change : PlanChange)
  /-- Script answers of the API server. -/
  | script (method : ApiMethod) (replies : List ScriptedReply)
  /-- Store an object from outside. -/
  | serverPut (body : Document)
  /-- Delete an object from outside. -/
  | serverDelete (key : String)
  /-- Edit an object from outside. -/
  | serverEdit (key : String) (labels annotations spec : Option Server.Changes)
  /-- Show the state of the API server. -/
  | serverState

/-- A step, with the moment that the clock is set to first, if there is one. -/
structure Step where
  action : Action
  clock : Option Moment := none

/-- The result of a step. -/
inductive Result where
  | nothing
  | outcome (outcome : Cycle.Outcome)
  | workload (workload : Workload)
  | convergence (convergence : Cycle.Convergence)
  | document (value : Document)
  | server (server : Server)

/-- What the dashboard got in a cycle. -/
inductive DashboardRecord where
  | missing
  | endpoints (endpoints : List Document)
  | requests (requests : List Http.Request)

/-- What a cycle asked of its collaborators besides the API server. -/
structure CycleReport where
  credentialCalls : Nat
  propertyCalls : List CustomProperties
  registryRequests : Option (List Http.Request)
  dashboard : DashboardRecord

/-- The answer to a step. -/
structure Report where
  result : Except Fault Result
  calls : List Cluster.ApiCall
  events : List LogEvent
  /-- The counters that moved, with how often they did. -/
  counts : List (Counter × Nat)
  /-- The monitor of the step's handle afterwards. -/
  monitor : Option Monitor
  /-- What a cycle asked, if the step was one. -/
  cycle : Option CycleReport

/-- A session. -/
structure Session where
  plan : Plan
  backend : Backend
  world : World
  monitors : Keyed Monitor := []

namespace Session

/-- The moment that the clock shows at first. -/
def firstMoment : Moment :=
  { date := ⟨2026, 10, 19⟩, hour := 12, minute := 0, second := 0, microsecond := 0, offset := 0 }

/-- Start a session with a plan. -/
def start (plan : Plan) : Except Fault Session := do
  return {
    plan
    backend := ← plan.backend
    world := plan.applyTo { namespaceReply := plan.namespaceReply, clock := firstMoment } }

/-- Run a computation of the world. -/
def inWorld {α : Type} (computation : StateM World α) : StateM Session α := fun session =>
  let (result, world) := computation session.world
  (result, { session with world })

/-- Run a process of a cycle. -/
def runCycle {α : Type} (process : Process Cycle.collaborators α) : StateM Session α := fun session =>
  inWorld (World.runCycle session.backend process) session

/-- Run a task of a cycle. -/
def runTask {α : Type} (task : Task Cycle.collaborators α) :
    ExceptT Fault (StateM Session) α :=
  ExceptT.mk (runCycle task.outcome)

/-- Change the API server from outside. -/
def onServer {α : Type} (change : Server → Except Fault (α × Server)) :
    ExceptT Fault (StateM Session) α :=
  ExceptT.mk fun session =>
    match change session.world.server with
    | .ok (result, server) => (.ok result, { session with world.server := server })
    | .error fault => (.error fault, session)

/-- The monitor of a handle. -/
def monitorOf (handle : String) : ExceptT Fault (StateM Session) Monitor := do
  match Keyed.get? (← get).monitors handle with
  | some monitor => return monitor
  | none => throw (.missingKey (.text handle))

/-- Keep a monitor under a handle. -/
def keep (handle : String) (monitor : Monitor) : ExceptT Fault (StateM Session) Unit :=
  modify fun session => { session with monitors := Keyed.put session.monitors handle monitor }

/-- Take the monitor of a handle through a process that returns it with an outcome. -/
def takeThrough {α : Type} (handle : String)
    (process : Monitor → Process Cycle.collaborators (Monitor × Except Fault α)) :
    ExceptT Fault (StateM Session) α := do
  let (monitor, outcome) ← ExceptT.lift (runCycle (process (← monitorOf handle)))
  keep handle monitor
  liftM outcome

/-- Change the plan. The operator is built anew, and with it the peers; the API server stays. -/
def reconfigure (change : PlanChange) : ExceptT Fault (StateM Session) Unit := do
  let plan := (← get).plan.changed change
  modify fun session => { session with plan }
  let backend ← liftM plan.backend
  modify fun session => { session with backend, world := plan.applyTo session.world }

/-- Do what a step does. -/
def act : Action → ExceptT Fault (StateM Session) Result
  | .load handle body => do
      keep handle (← liftM (Monitor.ofManifest body))
      return .nothing
  | .respecify handle spec => do
      let monitor ← monitorOf handle
      let parsed ← liftM (Monitor.ofManifest (.ofFields [("spec", spec)]))
      keep handle { monitor with spec := parsed.spec }
      return .nothing
  | .reconcile handle => do
      let session ← get
      let settings := session.backend.settings session.plan.disableVersionUpdates
      return .outcome (← takeThrough handle (Cycle.reconcile settings))
  | .record handle version => do
      takeThrough handle fun monitor => Cycle.record monitor version
      return .nothing
  | .updateStatus handle => do
      takeThrough handle Cycle.writeStatus
      return .nothing
  | .get name scope => return .workload (← runTask (Cycle.getWorkload name scope))
  | .create body => do
      return .workload (← runTask (Cycle.createWorkload (← liftM (Workload.ofManifest body))))
  | .update body => do
      return .workload (← runTask (Cycle.updateWorkload (← liftM (Workload.ofManifest body))))
  | .converge body => do
      return .convergence (← runTask (Cycle.converge (← liftM (Workload.ofManifest body))))
  | .clusterId => return .document (.text (← runTask Cycle.clusterId))
  | .configure change => do
      reconfigure change
      return .nothing
  | .script method replies => do
      modify fun session =>
        { session with
          world.script := session.world.script ++ replies.map fun reply => (method, reply) }
      return .nothing
  | .serverPut body => return .document (← onServer fun server => server.putBody body)
  | .serverDelete key => do
      let existed ← onServer fun server => .ok (server.delete key)
      return .document (.boolean existed)
  | .serverEdit key labels annotations spec =>
      return .document (← onServer fun server => server.edit key labels annotations spec)
  | .serverState => return .server (← get).world.server

/-- The handle of an action. -/
def handleOf? : Action → Option String
  | .load handle _ => some handle
  | .respecify handle _ => some handle
  | .reconcile handle => some handle
  | .record handle _ => some handle
  | .updateStatus handle => some handle
  | _ => none

/-- How often each counter moved, in the order in which they first did. -/
def tally (counters : List Counter) : List (Counter × Nat) :=
  counters.eraseDups.map fun counter => (counter, counters.count counter)

/-- What the dashboard got. -/
def dashboardRecord (session : Session) : DashboardRecord :=
  match session.plan.dashboard with
  | .missing => .missing
  | .http .. => .requests session.world.dashboard.requests
  | _ => .endpoints session.world.done.endpoints.reverse

/-- What a cycle asked. -/
def cycleReport (session : Session) : CycleReport :=
  { credentialCalls := session.world.done.credentialCalls
    propertyCalls := session.world.done.propertyCalls.reverse
    registryRequests :=
      match session.plan.resolver with
      | .registry .. => some session.world.registry.requests
      | _ => none
    dashboard := session.dashboardRecord }

/-- The report of an action that has been done. -/
def report (session : Session) (action : Action) (result : Except Fault Result) : Report :=
  { result
    calls := session.world.done.calls.reverse
    events := session.world.done.events.reverse
    counts := tally session.world.done.counts.reverse
    monitor := (handleOf? action).bind (Keyed.get? session.monitors)
    cycle :=
      match action with
      | .reconcile _ => some session.cycleReport
      | _ => none }

/-- The session before a step, with its clock set and nothing done. -/
def prepared (session : Session) (step : Step) : Session :=
  let world := session.world.forgetting
  { session with world := { world with clock := step.clock.getD world.clock } }

/-- Perform a step. -/
def perform (step : Step) (session : Session) : Report × Session :=
  let (result, session) := (act step.action).run (session.prepared step)
  (session.report step.action result, session)

/-- Perform steps one after the other. -/
def performAll (session : Session) : List Step → List Report
  | [] => []
  | step :: steps =>
      let (report, session) := perform step session
      report :: performAll session steps

end Session

end MonitorOperator.Simulation
