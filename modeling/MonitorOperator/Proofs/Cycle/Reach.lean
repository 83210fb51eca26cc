import MonitorOperator.Proofs.Cycle.Succession

/-!
# How far a cycle comes

A cycle comes to its version step exactly if its workload converged, and past its status step
exactly if the status could be recorded. `Reaches` tells these three ways to end apart by what the
calls show, and `Reaches.count_eq` how often each of the last three kinds of calls is made then.
-/

namespace MonitorOperator.Cycle

/-- The calls of the kind come after the workload step. -/
def CallKind.isLate (kind : CallKind) : Bool :=
  kind = .resolve || kind = .status || kind = .register

/-- A status was written, and the write was accepted. -/
def Recorded (events : List (Event collaborators)) : Prop :=
  ∃ written adopted, ⟨.updateStatus written, .ok adopted⟩ ∈ events

/-- How far the cycle comes that makes the calls. -/
inductive Reaches (settings : Settings) (monitor : Monitor) (calls : List (Event collaborators)) :
    Prop where
  | unconverged :
      (∀ kind ∈ kinds calls, kind.isLate = false) → ¬ Converged monitor calls →
      Reaches settings monitor calls
  | unrecorded (early : List CallKind) :
      (∀ kind ∈ early, kind.isLate = false) →
      kinds calls = early ++ (versionSchedule settings ++ [.status]) →
      Converged monitor calls → ¬ Recorded calls → Reaches settings monitor calls
  | completed (early : List CallKind) :
      (∀ kind ∈ early, kind.isLate = false) →
      kinds calls =
        early ++ (versionSchedule settings ++ .status :: dashboardSchedule settings monitor) →
      Converged monitor calls → Recorded calls → Reaches settings monitor calls

section Early

variable {monitor : Monitor} {calls : List (Event collaborators)}

/-- The properties step is early. -/
theorem PropertiesCalls.isLate_eq_false {result : Except Fault Unit}
    (h : PropertiesCalls monitor calls result) : ∀ kind ∈ kinds calls, kind.isLate = false := by
  rw [h.kinds_eq, propertiesSchedule]
  split <;> simp [CallKind.isLate]

/-- The workload step is early. -/
theorem WorkloadCalls.isLate_eq_false {result : Except Fault WorkloadAction}
    (h : WorkloadCalls monitor calls result) : ∀ kind ∈ kinds calls, kind.isLate = false := by
  obtain ⟨action, hbegins⟩ := h.keepsTo.begins
  have hscheduled : ∀ kind ∈ workloadSchedule action, kind.isLate = false := by
    cases action <;> simp [workloadSchedule, writeKinds, CallKind.isLate]
  exact fun kind hmem => hscheduled kind (hbegins.subset hmem)

/-- The steps up to the workload step are early. -/
theorem isLate_eq_false_of_early {properties : List (Event collaborators)}
    {provisioned : Except Fault Unit} {converged : Except Fault WorkloadAction}
    (credentials : Except Fault (Option Credentials))
    (hproperties : PropertiesCalls monitor properties provisioned)
    (hworkload : WorkloadCalls monitor calls converged) :
    ∀ kind ∈ kinds (⟨.provisionCredentials monitor, credentials⟩ :: (properties ++ calls)),
      kind.isLate = false := by
  rw [kinds_cons rfl, kinds_append]
  exact List.forall_mem_cons.2 ⟨rfl, List.forall_mem_append.2
    ⟨hproperties.isLate_eq_false, hworkload.isLate_eq_false⟩⟩

/-- The properties step does not show that the workload has converged. -/
theorem PropertiesCalls.not_converged {result : Except Fault Unit}
    (h : PropertiesCalls monitor calls result)
    (credentials : Except Fault (Option Credentials)) :
    ¬ Converged monitor (⟨.provisionCredentials monitor, credentials⟩ :: calls) := by
  cases h <;> simp [Converged]

/-- A workload step that fails does not show that the workload has converged. -/
theorem WorkloadCalls.not_converged {properties : List (Event collaborators)}
    {provisioned : Except Fault Unit} {fault : Fault}
    (h : WorkloadCalls monitor calls (.error fault))
    (hproperties : PropertiesCalls monitor properties provisioned)
    (credentials : Except Fault (Option Credentials)) :
    ¬ Converged monitor
      (⟨.provisionCredentials monitor, credentials⟩ :: (properties ++ calls)) := by
  generalize hresult : Except.error fault = result at h
  cases h with
  | unidentified | unbuilt => cases hproperties <;> simp [Converged]
  | built hbuilt hconverge =>
      cases hconverge with
      | unreadable => cases hproperties <;> simp [Converged]
      | left => cases hresult
      | created reply =>
          cases reply with
          | ok => cases hresult
          | error => cases hproperties <;> simp [Converged]
      | overwritten reply hchanged =>
          cases reply with
          | ok => cases hresult
          | error => cases hproperties <;> simp +contextual [Converged, hbuilt, hchanged]

/-- What was recorded was written. -/
theorem Recorded.status_mem (h : Recorded calls) : .status ∈ kinds calls := by
  obtain ⟨written, adopted, hmem⟩ := h
  exact List.mem_filterMap.2 ⟨_, hmem, rfl⟩

/-- Early calls record nothing. -/
theorem not_recorded_of_early (h : ∀ kind ∈ kinds calls, kind.isLate = false) : ¬ Recorded calls :=
  fun hrecorded => Bool.noConfusion (h _ hrecorded.status_mem)

end Early

section Reaches

variable {settings : Settings} {monitor next : Monitor} {calls : List (Event collaborators)}
  {outcome : Except Fault Outcome}

/-- How far a course comes. -/
theorem Course.reaches (h : Course settings monitor calls next outcome) :
    Reaches settings monitor calls := by
  cases h with
  | withoutCredentials =>
      refine .unconverged ?_ (by simp [Converged])
      simp [kinds, CycleRequest.call?, CallKind.isLate]
  | withoutProperties _ hproperties =>
      refine .unconverged ?_ (hproperties.not_converged _)
      rw [kinds_cons rfl]
      exact List.forall_mem_cons.2 ⟨rfl, hproperties.isLate_eq_false⟩
  | unconverged _ hproperties hworkload =>
      exact .unconverged (isLate_eq_false_of_early _ hproperties hworkload)
        (hworkload.not_converged hproperties _)
  | @unrecorded _ _ _ _ _ _ credentials _ _ hproperties hworkload hversion =>
      refine .unrecorded _ (isLate_eq_false_of_early (.ok credentials) hproperties hworkload) ?_
        (hworkload.converged.mono (by intro event; simp +contextual)) ?_
      · rw [kinds_cons rfl, kinds_cons rfl, kinds_append, kinds_append, kinds_append, kinds_append,
          kinds_cons rfl, hversion.kinds_eq]
        simp
      · rintro ⟨written, adopted, hmem⟩
        simp [hproperties.quiet.updateStatus_notMem, hworkload.quiet.updateStatus_notMem,
          hversion.updateStatus_notMem] at hmem
  | @completed _ _ _ _ _ _ record credentials _ time adopted hproperties hworkload hversion
      hdashboard =>
      refine .completed _ (isLate_eq_false_of_early (.ok credentials) hproperties hworkload) ?_
        (hworkload.converged.mono (by intro event; simp +contextual))
        ⟨monitor.stamped record time, adopted, by simp⟩
      rw [kinds_cons rfl, kinds_cons rfl, kinds_append, kinds_append, kinds_append, kinds_append,
        kinds_cons rfl, hversion.kinds_eq, hdashboard.kinds_eq]
      simp

open scoped Classical in
/-- The calls after the workload step are made once if the cycle comes to them, and if the settings
and the monitor call for them. -/
theorem Reaches.count_eq (h : Reaches settings monitor calls) :
    (kinds calls).count .resolve =
        (if Converged monitor calls ∧ settings.disableVersionUpdates = false then 1 else 0) ∧
      (kinds calls).count .status = (if Converged monitor calls then 1 else 0) ∧
      (kinds calls).count .register =
        if Recorded calls ∧ monitor.hasEndpoint ∧ settings.hasDashboard then 1 else 0 := by
  have hlate {early : List CallKind} (h : ∀ kind ∈ early, kind.isLate = false) :
      early.count .resolve = 0 ∧ early.count .status = 0 ∧ early.count .register = 0 := by
    have hcount (kind : CallKind) (hkind : kind.isLate = true) : early.count kind = 0 :=
      List.count_eq_zero_of_not_mem fun hmem => by simp [h kind hmem] at hkind
    exact ⟨hcount .resolve rfl, hcount .status rfl, hcount .register rfl⟩
  cases h with
  | unconverged hearly hconverged =>
      obtain ⟨hresolve, hstatus, hregister⟩ := hlate hearly
      simp [hconverged, not_recorded_of_early hearly, hresolve, hstatus, hregister]
  | unrecorded early hearly hkinds hconverged hrecorded =>
      obtain ⟨hresolve, hstatus, hregister⟩ := hlate hearly
      cases hdisabled : settings.disableVersionUpdates <;>
        simp [hkinds, hconverged, hrecorded, versionSchedule, hdisabled, hresolve, hstatus,
          hregister]
  | completed early hearly hkinds hconverged hrecorded =>
      obtain ⟨hresolve, hstatus, hregister⟩ := hlate hearly
      cases hdisabled : settings.disableVersionUpdates <;>
        cases hendpoint : monitor.hasEndpoint <;>
        cases hdashboard : settings.hasDashboard <;>
        simp [hkinds, hconverged, hrecorded, versionSchedule, dashboardSchedule, hdisabled,
          hendpoint, hdashboard, hresolve, hstatus, hregister]

/-- How far a cycle comes. -/
theorem CycleHistory.reaches (cycle : CycleHistory) :
    Reaches cycle.settings cycle.monitor cycle.run.calls :=
  (calls_reconcile cycle.run.made).reaches

end Reaches

end MonitorOperator.Cycle
