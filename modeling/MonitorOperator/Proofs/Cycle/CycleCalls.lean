import MonitorOperator.Proofs.Cycle.Phases

/-!
# The requests of a cycle

Only the convergence in a cycle asks for workloads: `reconcile_path` cuts the path of a cycle into
its first steps, which end with the convergence, and the others, which are apart from workloads. What
a cycle leaves of its monitor differs in status and version alone (`Monitor.Follows`).
-/

namespace MonitorOperator

open Process (Path Only Returns)

/-- The monitor went through cycles, which change its status and its version alone. -/
def Monitor.Follows (monitor next : Monitor) : Prop :=
  ∃ status version, next = { monitor with status := status, resourceVersion := version }

namespace Monitor.Follows

variable {monitor next last : Monitor}

/-- A monitor follows itself. -/
theorem refl (monitor : Monitor) : Follows monitor monitor :=
  ⟨monitor.status, monitor.resourceVersion, rfl⟩

/-- Cycles come one after the other. -/
theorem trans (hnext : Follows monitor next) (hlast : Follows next last) :
    Follows monitor last := by
  obtain ⟨_, _, rfl⟩ := hnext
  obtain ⟨status, version, rfl⟩ := hlast
  exact ⟨status, version, rfl⟩

/-- Cycles do not change which workload a monitor asks for. -/
theorem desiredWorkload_eq (h : Follows monitor next) (clusterId : String) :
    next.desiredWorkload clusterId = monitor.desiredWorkload clusterId := by
  obtain ⟨_, _, rfl⟩ := h
  rfl

/-- A stamp changes the status alone. -/
theorem stamped (monitor : Monitor) (version : Option VersionRecord) (time : Moment) :
    Follows monitor (monitor.stamped version time) :=
  ⟨_, monitor.resourceVersion, rfl⟩

/-- A version that is adopted changes the version alone. -/
theorem adopting (monitor : Monitor) (version : Document) :
    Follows monitor (monitor.adopting version) := by
  unfold Monitor.adopting
  split
  · exact ⟨monitor.status, version, rfl⟩
  · exact refl monitor

end Monitor.Follows

namespace Cycle

/-- The request is about a workload. -/
def CycleRequest.isAboutWorkload : CycleRequest → Bool
  | .getWorkload .. => true
  | .createWorkload _ => true
  | .updateWorkload _ => true
  | .provisionCredentials _ => false
  | .provisionProperties .. => false
  | .clusterId => false
  | .resolveVersion .. => false
  | .updateStatus _ => false
  | .register _ => false
  | .log _ => false
  | .count _ => false
  | .now => false

/-- A process that asks for no workloads. -/
abbrev AsksApart {α : Type} (process : Process collaborators α) : Prop :=
  Only (fun request : CycleRequest => request.isAboutWorkload = false) process

/-- None of the events is about a workload. -/
def Apart (events : List (Event collaborators)) : Prop :=
  ∀ event ∈ events, event.request.isAboutWorkload = false

/-- The events that are about workloads. -/
def aboutWorkload (events : List (Event collaborators)) : List (Event collaborators) :=
  events.filter fun event => event.request.isAboutWorkload

section Apart

variable {before later : List (Event collaborators)}

/-- Events are apart from workloads if none of them is left of those about workloads. -/
theorem aboutWorkload_eq_nil_iff : aboutWorkload later = [] ↔ Apart later := by
  simp [aboutWorkload, Apart, List.filter_eq_nil_iff]

/-- An event is left if it is about a workload. -/
theorem aboutWorkload_cons (event : Event collaborators) :
    aboutWorkload (event :: later) =
      if event.request.isAboutWorkload then event :: aboutWorkload later
      else aboutWorkload later :=
  List.filter_cons ..

/-- Events about workloads are those before and those after a cut. -/
theorem aboutWorkload_append :
    aboutWorkload (before ++ later) = aboutWorkload before ++ aboutWorkload later :=
  List.filter_append ..

/-- Events without workloads stay so when others follow that have none. -/
theorem Apart.append (hbefore : Apart before) (hlater : Apart later) : Apart (before ++ later) := by
  rw [← aboutWorkload_eq_nil_iff, aboutWorkload_append, aboutWorkload_eq_nil_iff.2 hbefore,
    aboutWorkload_eq_nil_iff.2 hlater, List.append_nil]

end Apart

section Steps

variable (settings : Settings) (monitor : Monitor)

/-- After the early steps no workloads are asked for. -/
theorem Asks.asksApart {α : Type} {phase : Phase} {process : Process collaborators α}
    (h : Asks phase process) (hphase : phase ≠ .early) : AsksApart process := by
  refine h.mono fun request hasks => ?_
  cases request with
  | getWorkload | createWorkload | updateWorkload => exact absurd hasks hphase
  | _ => rfl

/-- The steps from the version step on ask for no workloads. -/
theorem asksApart_recordAndRegister (credentials : Option Credentials) (action : WorkloadAction) :
    AsksApart (recordAndRegister settings monitor credentials action) := by
  have hversion := (asks_versionStep settings monitor credentials).asksApart (by decide)
  refine hversion.bind fun (lookup, version) => ?_
  refine ((asks_statusStep monitor version).asksApart (by decide)).bind fun recorded => ?_
  match recorded with
  | (_, .error fault) => trivial
  | (next, .ok ()) =>
      exact ((asks_dashboardStep settings next).asksApart (by decide)).bind fun _ => trivial

/-- The status step returns a monitor that follows. -/
theorem returns_statusStep (version : Option VersionRecord) :
    Returns (fun recorded => monitor.Follows recorded.1) (statusStep monitor version) := by
  rw [statusStep_eq]
  intro time reply _
  have hstamped := Monitor.Follows.stamped monitor version time
  cases reply with
  | ok adopted => exact hstamped.trans (.adopting _ adopted)
  | error fault => exact hstamped

/-- The steps from the version step on return a monitor that follows. -/
theorem returns_recordAndRegister (credentials : Option Credentials) (action : WorkloadAction) :
    Returns (fun result => monitor.Follows result.1)
      (recordAndRegister settings monitor credentials action) := by
  refine Returns.bind_of_forall fun (lookup, version) => ?_
  refine (returns_statusStep monitor version).bind fun recorded hfollows => ?_
  match recorded with
  | (_, .error fault) => exact hfollows
  | (next, .ok ()) => exact Returns.bind_of_forall fun _ => hfollows

end Steps

/-- What follows the first steps of a cycle asks for no workloads. -/
theorem asksApart_concluding (settings : Settings) (monitor : Monitor)
    (result : Except Fault (Option Credentials × WorkloadAction)) :
    AsksApart ((concluding settings monitor result).bind counting) := by
  refine Only.bind ?_ fun counted => ?_
  · match result with
    | .error fault => trivial
    | .ok (credentials, action) =>
        exact asksApart_recordAndRegister settings monitor credentials action
  · exact (asks_counting .version counted).asksApart (by decide)

/-- What follows the first steps of a cycle returns a monitor that follows. -/
theorem returns_concluding (settings : Settings) (monitor : Monitor)
    (result : Except Fault (Option Credentials × WorkloadAction)) :
    Returns (fun result => monitor.Follows result.1)
      ((concluding settings monitor result).bind counting) := by
  have hconcluding : Returns (fun result => monitor.Follows result.1)
      (concluding settings monitor result) := by
    match result with
    | .error fault => exact .refl monitor
    | .ok (credentials, action) =>
        exact returns_recordAndRegister settings monitor credentials action
  refine hconcluding.bind fun counted hfollows => ?_
  unfold counting
  split
  · exact fun _ => hfollows
  · exact hfollows

/-- A cycle first provisions and converges, and asks for no workloads after that. -/
theorem reconcile_path {settings : Settings} {monitor next : Monitor}
    {events : List (Event collaborators)} {outcome : Except Fault Outcome}
    (h : Path (reconcile settings monitor) events (.done (next, outcome))) :
    monitor.Follows next ∧ ∃ result first rest, events = first ++ rest ∧ Apart rest ∧
      Path (provisionAndConverge monitor).outcome first (.done result) := by
  rw [reconcile_eq] at h
  obtain ⟨result, first, rest, rfl, hfirst, hrest⟩ := Path.bind_done_iff.1 h
  exact ⟨hrest.returns (returns_concluding settings monitor result), result, first, rest, rfl,
    hrest.only (asksApart_concluding settings monitor result), hfirst⟩

/-- What a cycle logs after its convergence. -/
def loggedAfter (monitor : Monitor) : Except Fault Convergence → List (Event collaborators)
  | .ok _ => []
  | .error fault => [⟨.log (faultEvent monitor "statefulset_reconcile_failed" [] fault), ()⟩]

/-- A cycle of a monitor without properties of its own comes to its convergence by two requests. -/
theorem path_provisionAndConverge {monitor : Monitor} {clusterId : String} {desired : Workload}
    {core : List (Event collaborators)} {result : Except Fault Convergence}
    (hproperties : monitor.spec.customProperties = none)
    (hbuilt : monitor.desiredWorkload clusterId = .ok desired)
    (credentials : Option Credentials)
    (h : Path (converge desired).outcome core (.done result)) :
    Path (provisionAndConverge monitor).outcome
      (⟨.provisionCredentials monitor, .ok credentials⟩ :: ⟨.clusterId, .ok clusterId⟩ ::
        (core ++ loggedAfter monitor result))
      (.done (((result.map (·.action)).mapError workloadFault).map (credentials, ·))) := by
  have hstep : Path (workloadStep monitor).outcome
      (⟨.clusterId, .ok clusterId⟩ :: (core ++ loggedAfter monitor result))
      (.done ((result.map (·.action)).mapError workloadFault)) := by
    refine Path.bind_done_iff.2 ⟨result.map (·.action), _ :: core, _, rfl, ?_, ?_⟩
    · refine Task.path_bind_done_iff.2 (.inr ⟨clusterId, [_], core, rfl, .cons (.nil _), ?_⟩)
      rw [hbuilt]
      exact Task.path_map_done_iff.2 ⟨result, rfl, h⟩
    · cases result with
      | ok convergence => exact .nil _
      | error fault => exact .cons (.nil _)
  refine Task.path_bind_done_iff.2 (.inr ⟨credentials, [_], _, rfl, .cons (.nil _), ?_⟩)
  rw [propertiesStep, hproperties]
  exact Task.path_map_done_iff.2 ⟨_, rfl, hstep⟩

end Cycle

end MonitorOperator
