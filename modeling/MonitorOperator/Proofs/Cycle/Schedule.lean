import MonitorOperator.Proofs.Cycle.CallSequence

/-!
# The schedule of a cycle

`schedule` is the order in which a cycle that nothing stops makes its calls. The calls of every
course are the beginning of it, and all of it if the cycle returns (`Course.keepsTo`).
-/

namespace MonitorOperator.Cycle

/-- What the calls are for, in order. -/
def kinds (calls : List (Event collaborators)) : List CallKind :=
  calls.filterMap fun event => event.request.call?

/-- The write that belongs to an action on the workload. -/
def writeKinds : WorkloadAction → List CallKind
  | .unchanged => []
  | .created => [.create]
  | .updated => [.update]

/-- The calls of the properties step, if there is nothing that stops it. -/
def propertiesSchedule (monitor : Monitor) : List CallKind :=
  if monitor.hasCustomProperties then [.properties] else []

/-- The calls of the workload step that does an action, if there is nothing that stops it. -/
def workloadSchedule (action : WorkloadAction) : List CallKind :=
  .identity :: .read :: writeKinds action

/-- The calls of the version step. -/
def versionSchedule (settings : Settings) : List CallKind :=
  if settings.disableVersionUpdates then [] else [.resolve]

/-- The calls of the dashboard step. -/
def dashboardSchedule (settings : Settings) (monitor : Monitor) : List CallKind :=
  if monitor.hasEndpoint && settings.hasDashboard then [.register] else []

/-- The calls of a cycle that does an action on the workload, if there is nothing that stops it. -/
def schedule (settings : Settings) (monitor : Monitor) (action : WorkloadAction) : List CallKind :=
  .credentials :: (propertiesSchedule monitor ++ (workloadSchedule action ++
    (versionSchedule settings ++ .status :: dashboardSchedule settings monitor)))

/-- Nothing is scheduled twice. -/
theorem nodup_schedule (settings : Settings) (monitor : Monitor) (action : WorkloadAction) :
    (schedule settings monitor action).Nodup := by
  unfold schedule propertiesSchedule workloadSchedule versionSchedule dashboardSchedule
  cases monitor.hasCustomProperties <;> cases settings.disableVersionUpdates <;>
    cases monitor.hasEndpoint && settings.hasDashboard <;> cases action <;> decide

section Kinds

variable {settings : Settings} {monitor : Monitor} {calls : List (Event collaborators)}

@[simp] theorem kinds_nil : kinds [] = [] := rfl

@[simp] theorem kinds_append (later : List (Event collaborators)) :
    kinds (calls ++ later) = kinds calls ++ kinds later :=
  List.filterMap_append

/-- The first call comes first. -/
theorem kinds_cons {event : Event collaborators} {kind : CallKind}
    (h : event.request.call? = some kind) : kinds (event :: calls) = kind :: kinds calls :=
  List.filterMap_cons_some h

/-- The properties step makes its call if it has one. -/
theorem PropertiesCalls.kinds_eq {result : Except Fault Unit}
    (h : PropertiesCalls monitor calls result) : kinds calls = propertiesSchedule monitor := by
  cases h with
  | skipped hnone => simp [propertiesSchedule, Monitor.hasCustomProperties, hnone]
  | asked _ hsome => simp [propertiesSchedule, Monitor.hasCustomProperties, hsome, kinds,
      CycleRequest.call?]

/-- The version step makes its call if it has one. -/
theorem VersionCalls.kinds_eq {credentials : Option Credentials}
    {result : VersionLookup × Option VersionRecord}
    (h : VersionCalls settings monitor credentials calls result) :
    kinds calls = versionSchedule settings := by
  cases h with
  | skipped hdisabled => simp [versionSchedule, hdisabled]
  | asked _ henabled => simp [versionSchedule, henabled, kinds, CycleRequest.call?]

/-- The dashboard step makes its call if it has one. -/
theorem DashboardCalls.kinds_eq {result : Option String}
    (h : DashboardCalls settings monitor calls result) :
    kinds calls = dashboardSchedule settings monitor := by
  cases h with
  | skipped hskips => rw [dashboardSchedule, hskips]; rfl
  | asked _ hasks => rw [dashboardSchedule, hasks]; rfl

/-- The calls follow a plan for an action: to its end if the action was done, and as far as they go
otherwise. -/
def KeepsTo (plan : WorkloadAction → List CallKind) (calls : List (Event collaborators)) :
    Except Fault WorkloadAction → Prop
  | .ok action => kinds calls = plan action
  | .error _ => ∃ action, kinds calls <+: plan action

/-- Calls that keep to a plan are the beginning of it. -/
theorem KeepsTo.begins {plan : WorkloadAction → List CallKind}
    {result : Except Fault WorkloadAction} (h : KeepsTo plan calls result) :
    ∃ action, kinds calls <+: plan action := by
  cases result with
  | ok action => exact ⟨action, h ▸ List.prefix_refl _⟩
  | error fault => exact h

/-- A convergence reads, and makes the write of its action. -/
theorem ConvergeCalls.keepsTo {desired : Workload} {result : Except Fault Convergence}
    (h : ConvergeCalls desired calls result) :
    KeepsTo (fun action => .read :: writeKinds action) calls (result.map (·.action)) := by
  cases h with
  | unreadable => exact ⟨.unchanged, List.prefix_refl _⟩
  | left => rfl
  | created reply =>
      cases reply with
      | ok => rfl
      | error => exact ⟨.created, List.prefix_refl _⟩
  | overwritten reply =>
      cases reply with
      | ok => rfl
      | error => exact ⟨.updated, List.prefix_refl _⟩

/-- The workload step asks for the cluster's identifier and converges. -/
theorem WorkloadCalls.keepsTo {result : Except Fault WorkloadAction}
    (h : WorkloadCalls monitor calls result) : KeepsTo workloadSchedule calls result := by
  cases h with
  | unidentified | unbuilt => exact ⟨.unchanged, List.prefix_append [_] [_]⟩
  | @built _ _ core converged hbuilt hconverge =>
      have hkeeps := hconverge.keepsTo
      cases converged with
      | ok convergence => exact congrArg (CallKind.identity :: ·) hkeeps
      | error fault =>
          obtain ⟨action, hbegins⟩ := hkeeps
          exact ⟨action, List.cons_prefix_cons.2 ⟨rfl, hbegins⟩⟩

/-- A cycle keeps to its schedule. -/
theorem Course.keepsTo {next : Monitor} {outcome : Except Fault Outcome}
    (h : Course settings monitor calls next outcome) :
    KeepsTo (schedule settings monitor) calls (outcome.map (·.action)) := by
  cases h with
  | withoutCredentials => exact ⟨.unchanged, List.prefix_append [_] _⟩
  | withoutProperties _ hproperties =>
      refine ⟨.unchanged, ?_⟩
      rw [kinds_cons rfl, hproperties.kinds_eq]
      exact List.prefix_append (_ :: _) _
  | unconverged _ hproperties hworkload =>
      obtain ⟨action, later, hlater⟩ := hworkload.keepsTo
      refine ⟨action, later ++ (versionSchedule settings ++
        .status :: dashboardSchedule settings monitor), ?_⟩
      rw [kinds_cons rfl, kinds_append, hproperties.kinds_eq, schedule, ← hlater]
      simp
  | @unrecorded _ _ _ action _ _ _ _ _ hproperties hworkload hversion =>
      have hkeeps : kinds _ = workloadSchedule action := hworkload.keepsTo
      refine ⟨action, dashboardSchedule settings monitor, ?_⟩
      rw [kinds_cons rfl, kinds_append, kinds_append, kinds_append, hproperties.kinds_eq, hkeeps,
        hversion.kinds_eq, kinds_cons rfl]
      simp [schedule]
  | @completed _ _ _ _ action _ _ _ _ _ _ hproperties hworkload hversion hdashboard =>
      have hkeeps : kinds _ = workloadSchedule action := hworkload.keepsTo
      show kinds _ = schedule settings monitor action
      rw [kinds_cons rfl, kinds_append, kinds_append, kinds_append, hproperties.kinds_eq, hkeeps,
        hversion.kinds_eq, kinds_cons rfl, hdashboard.kinds_eq, schedule]

/-- A call whose kind is not among the kinds is not among the calls. -/
theorem notMem_of_notMem_kinds {event : Event collaborators} {kind : CallKind}
    (hkind : event.request.call? = some kind) (h : kind ∉ kinds calls) : event ∉ calls :=
  fun hmem => h (List.mem_filterMap.2 ⟨event, hmem, hkind⟩)

/-- The workload step does not write a status. -/
theorem WorkloadCalls.status_notMem {result : Except Fault WorkloadAction}
    (h : WorkloadCalls monitor calls result) : .status ∉ kinds calls := by
  obtain ⟨action, hbegins⟩ := h.keepsTo.begins
  intro hmem
  have hscheduled := hbegins.subset hmem
  cases action <;> simp [workloadSchedule, writeKinds] at hscheduled

/-- The steps that have one call at most do not write a status. -/
theorem status_notMem_schedules :
    .status ∉ propertiesSchedule monitor ∧ .status ∉ versionSchedule settings ∧
      .status ∉ dashboardSchedule settings monitor := by
  unfold propertiesSchedule versionSchedule dashboardSchedule
  refine ⟨?_, ?_, ?_⟩ <;> split <;> simp

end Kinds

end MonitorOperator.Cycle
