import MonitorOperator.Proofs.Cycle.Schedule
import MonitorOperator.Proofs.Workload.Built

/-!
# The faults that leave a cycle

Any call of a cycle may fail with any fault, and the monitor's workload may not be buildable. `Fails`
says which of this is the failure of a step that ends the cycle, and `Raised` what such a failure is
raised as. The calls of every course have a `Verdict`: none of them fails, or the last one does and
its fault is what leaves the cycle. A cycle that returns has taken all its steps. So the faults that
leave a cycle are of four classes, and the first step that fails decides which
(`reconcile_classifies`).
-/

namespace MonitorOperator.Cycle

/-- A step whose failure ends the cycle. -/
inductive FatalStep where
  | credentials
  | properties
  | workload
  | status
  deriving DecidableEq, Repr

/-- The class that the failures of a step are raised in. -/
def FatalStep.kind : FatalStep → FaultKind
  | credentials => .provisioning
  | properties => .provisioning
  | workload => .workload
  | status => .statusPersist

/-- The name that the failures of a provisioning step carry. -/
def FatalStep.name? : FatalStep → Option String
  | credentials => some "credentials"
  | properties => some "custom_properties"
  | workload => none
  | status => none

/-- The calls of a monitor's cycle without which a step does not succeed. -/
def FatalStep.needs (monitor : Monitor) : FatalStep → List CallKind
  | credentials => [.credentials]
  | properties => propertiesSchedule monitor
  | workload => [.identity, .read]
  | status => [.status]

/-- `Fails monitor event step cause` says that a step of the cycle fails with the reply to a call:
the reply is a fault, or the workload cannot be built for the cluster that the reply names. It is no
failure if there is no workload to read. -/
inductive Fails (monitor : Monitor) : Event collaborators → FatalStep → Fault → Prop where
  | credentials {asked : Monitor} (cause : Fault) :
      Fails monitor ⟨.provisionCredentials asked, .error cause⟩ .credentials cause
  | properties {asked : Monitor} {properties : CustomProperties} (cause : Fault) :
      Fails monitor ⟨.provisionProperties asked properties, .error cause⟩ .properties cause
  | identity (cause : Fault) : Fails monitor ⟨.clusterId, .error cause⟩ .workload cause
  | build {clusterId : String} {cause : Fault} :
      monitor.desiredWorkload clusterId = .error cause →
      Fails monitor ⟨.clusterId, .ok clusterId⟩ .workload cause
  | read {name scope : Document} {cause : Fault} :
      cause.kind ≠ .notFound →
      Fails monitor ⟨.getWorkload name scope, .error cause⟩ .workload cause
  | create {workload : Workload} (cause : Fault) :
      Fails monitor ⟨.createWorkload workload, .error cause⟩ .workload cause
  | update {workload : Workload} (cause : Fault) :
      Fails monitor ⟨.updateWorkload workload, .error cause⟩ .workload cause
  | status {written : Monitor} (cause : Fault) :
      Fails monitor ⟨.updateStatus written, .error cause⟩ .status cause

/-- A call is the failure of one step at most, with one cause. -/
theorem Fails.unique {monitor : Monitor} {event : Event collaborators} {step other : FatalStep}
    {cause others : Fault} (h : Fails monitor event step cause)
    (hother : Fails monitor event other others) : step = other ∧ cause = others := by
  cases h with
  | build hbuild =>
      cases hother with
      | build hsame => exact ⟨rfl, Except.error.inj (hbuild.symm.trans hsame)⟩
  | _ =>
      cases hother
      exact ⟨rfl, rfl⟩

/-- What the failure of a step is raised as. -/
structure Raised (step : FatalStep) (cause fault : Fault) : Prop where
  /-- A conflict passes unchanged. -/
  conflict : cause.kind = .conflict → fault = cause
  /-- Any other fault is raised in the class of the step. -/
  kind : cause.kind ≠ .conflict → fault.kind = step.kind
  /-- A provisioning step gives its name to the fault. -/
  named : cause.kind ≠ .conflict → ∀ name, step.name? = some name → fault = .provisioning name cause

/-- A provisioning step raises its failures under its name. -/
theorem raised_provisioningFault {step : FatalStep} {name : String}
    (hkind : step.kind = .provisioning) (hname : step.name? = some name) (cause : Fault) :
    Raised step cause (provisioningFault name cause) := by
  unfold provisioningFault
  by_cases hconflict : cause.kind = .conflict
  · rw [if_pos hconflict]
    exact ⟨fun _ => rfl, fun h => absurd hconflict h, fun h => absurd hconflict h⟩
  · rw [if_neg hconflict]
    refine ⟨fun h => absurd h hconflict, fun _ => hkind.symm, fun _ other hother => ?_⟩
    obtain rfl := Option.some.inj (hname.symm.trans hother)
    rfl

/-- A step that gives no name raises a fault of its own class unchanged, and wraps any other. -/
theorem raised_unnamed {step : FatalStep} {cause wrapped : Fault} (hname : step.name? = none)
    (hkind : wrapped.kind = step.kind) :
    Raised step cause
      (if cause.kind = .conflict || cause.kind = step.kind then cause else wrapped) := by
  by_cases hconflict : cause.kind = .conflict
  · rw [if_pos (by simp [hconflict])]
    exact ⟨fun _ => rfl, fun h => absurd hconflict h, fun h => absurd hconflict h⟩
  refine ⟨fun h => absurd h hconflict, fun _ => ?_, fun _ name h => by simp [hname] at h⟩
  by_cases hown : cause.kind = step.kind
  · rw [if_pos (by simp [hown]), hown]
  · rw [if_neg (by simp [hconflict, hown]), hkind]

/-- The workload step raises its failures as faults of the workload. -/
theorem raised_workloadFault (cause : Fault) : Raised .workload cause (workloadFault cause) :=
  raised_unnamed rfl rfl

/-- The status step raises its failures as faults of the status. -/
theorem raised_statusFault (cause : Fault) : Raised .status cause (statusFault cause) :=
  raised_unnamed rfl rfl

/-- No step fails with one of the calls. -/
def Passes (monitor : Monitor) (calls : List (Event collaborators)) : Prop :=
  ∀ event ∈ calls, ∀ step cause, ¬ Fails monitor event step cause

/-- No step fails with the calls, or one does with the last call and this is what is raised. -/
inductive Verdict (monitor : Monitor) {α : Type} :
    List (Event collaborators) → Except Fault α → Prop where
  | passed {calls : List (Event collaborators)} (result : α) :
      Passes monitor calls → Verdict monitor calls (.ok result)
  | failed {before : List (Event collaborators)} {last : Event collaborators} {step : FatalStep}
      {cause fault : Fault} :
      Passes monitor before → Fails monitor last step cause → Raised step cause fault →
      Verdict monitor (before ++ [last]) (.error fault)

section Verdicts

variable {settings : Settings} {monitor : Monitor} {calls : List (Event collaborators)}

@[simp] theorem passes_nil : Passes monitor [] := by
  simp [Passes]

@[simp] theorem passes_cons_iff {event : Event collaborators} :
    Passes monitor (event :: calls) ↔
      (∀ step cause, ¬ Fails monitor event step cause) ∧ Passes monitor calls := by
  simp [Passes]

@[simp] theorem passes_append_iff {later : List (Event collaborators)} :
    Passes monitor (calls ++ later) ↔ Passes monitor calls ∧ Passes monitor later := by
  simp [Passes, or_imp, forall_and]

/-- What passed before does not matter for the verdict. -/
theorem Verdict.append {α : Type} {later : List (Event collaborators)} {result : Except Fault α}
    (hpasses : Passes monitor calls) (h : Verdict monitor later result) :
    Verdict monitor (calls ++ later) result := by
  cases h with
  | passed result hlater => exact .passed result (passes_append_iff.2 ⟨hpasses, hlater⟩)
  | failed hbefore hfails hraised =>
      rw [← List.append_assoc]
      exact .failed (passes_append_iff.2 ⟨hpasses, hbefore⟩) hfails hraised

/-- A first call that does not fail does not matter for the verdict. -/
theorem Verdict.cons {α : Type} {event : Event collaborators} {result : Except Fault α}
    (hpasses : ∀ step cause, ¬ Fails monitor event step cause)
    (h : Verdict monitor calls result) : Verdict monitor (event :: calls) result :=
  h.append (passes_cons_iff.2 ⟨hpasses, passes_nil⟩)

/-- A single call that fails decides. -/
theorem Verdict.of_fails {α : Type} {event : Event collaborators} {step : FatalStep}
    {cause fault : Fault} (hfails : Fails monitor event step cause)
    (hraised : Raised step cause fault) :
    Verdict monitor [event] (.error fault : Except Fault α) :=
  .failed passes_nil hfails hraised

/-- No calls, no failure. -/
theorem Verdict.nil {α : Type} (result : α) : Verdict monitor [] (.ok result) :=
  .passed result passes_nil

/-- The calls of what succeeds pass. -/
theorem Verdict.passes {α : Type} {result : α} (h : Verdict monitor calls (.ok result)) :
    Passes monitor calls := by
  cases h with
  | passed _ hpasses => exact hpasses

/-- Nothing follows the call with which a step fails, and its failure is raised. -/
theorem Verdict.raises {α : Type} {result : Except Fault α} {later : List (Event collaborators)}
    {event : Event collaborators} {step : FatalStep} {cause : Fault}
    (h : Verdict monitor (calls ++ event :: later) result) (hfails : Fails monitor event step cause) :
    later = [] ∧ ∃ fault, result = .error fault ∧ Raised step cause fault := by
  generalize hall : calls ++ event :: later = all at h
  cases h with
  | passed _ hpasses => exact absurd hfails (hpasses event (by simp [← hall]) step cause)
  | @failed before last _ _ fault hbefore hlast hraised =>
      rcases List.eq_nil_or_concat later with rfl | ⟨rest, final, rfl⟩
      · obtain ⟨-, hsame⟩ := List.append_inj' hall rfl
        obtain rfl := List.singleton_inj.1 hsame
        obtain ⟨rfl, rfl⟩ := hfails.unique hlast
        exact ⟨rfl, fault, rfl, hraised⟩
      · have hends : (calls ++ event :: rest) ++ [final] = before ++ [last] := by simpa using hall
        obtain ⟨rfl, -⟩ := List.append_inj' hends rfl
        exact absurd hfails (hbefore event (by simp) step cause)

/-- The verdict on the properties step. -/
theorem PropertiesCalls.verdict {result : Except Fault Unit}
    (h : PropertiesCalls monitor calls result) : Verdict monitor calls result := by
  cases h with
  | skipped => exact .nil ()
  | asked reply =>
      cases reply with
      | ok => exact .cons nofun (.nil ())
      | error cause => exact .of_fails (.properties cause) (raised_provisioningFault rfl rfl cause)

/-- The verdict on a convergence, whose failures are those of the workload step. -/
theorem ConvergeCalls.verdict {desired : Workload} {result : Except Fault Convergence}
    (h : ConvergeCalls desired calls result) :
    Verdict monitor calls ((result.map (·.action)).mapError workloadFault) := by
  cases h with
  | unreadable hkind => exact .of_fails (.read hkind) (raised_workloadFault _)
  | left => exact .cons nofun (.nil WorkloadAction.unchanged)
  | created reply hkind =>
      -- That there is nothing to read is not a failure.
      refine .cons (by rintro _ _ ⟨⟩; contradiction) ?_
      cases reply with
      | ok => exact .cons nofun (.nil WorkloadAction.created)
      | error cause => exact .of_fails (.create cause) (raised_workloadFault cause)
  | overwritten reply =>
      refine .cons nofun ?_
      cases reply with
      | ok => exact .cons nofun (.nil WorkloadAction.updated)
      | error cause => exact .of_fails (.update cause) (raised_workloadFault cause)

/-- The verdict on the workload step. -/
theorem WorkloadCalls.verdict {result : Except Fault WorkloadAction}
    (h : WorkloadCalls monitor calls result) : Verdict monitor calls result := by
  cases h with
  | unidentified cause => exact .of_fails (.identity cause) (raised_workloadFault cause)
  | unbuilt hbuild => exact .of_fails (.build hbuild) (raised_workloadFault _)
  | built hbuilt hconverge =>
      refine .cons ?_ hconverge.verdict
      rintro _ cause ⟨⟩
      next hbuild => cases hbuild.symm.trans hbuilt

/-- The version step does not fail. -/
theorem VersionCalls.passes {credentials : Option Credentials}
    {result : VersionLookup × Option VersionRecord}
    (h : VersionCalls settings monitor credentials calls result) : Passes monitor calls := by
  cases h with
  | skipped => exact passes_nil
  | asked reply => exact passes_cons_iff.2 ⟨nofun, passes_nil⟩

/-- The dashboard step does not fail. -/
theorem DashboardCalls.passes {result : Option String}
    (h : DashboardCalls settings monitor calls result) : Passes monitor calls := by
  cases h with
  | skipped => exact passes_nil
  | asked reply => exact passes_cons_iff.2 ⟨nofun, passes_nil⟩

/-- The verdict on a cycle. -/
theorem Course.verdict {next : Monitor} {outcome : Except Fault Outcome}
    (h : Course settings monitor calls next outcome) : Verdict monitor calls outcome := by
  cases h with
  | withoutCredentials cause =>
      exact .of_fails (.credentials cause) (raised_provisioningFault rfl rfl cause)
  | withoutProperties _ hproperties =>
      refine .cons nofun ?_
      cases hproperties.verdict with
      | failed hbefore hfails hraised => exact .failed hbefore hfails hraised
  | unconverged _ hproperties hworkload =>
      refine .cons nofun (.append hproperties.verdict.passes ?_)
      cases hworkload.verdict with
      | failed hbefore hfails hraised => exact .failed hbefore hfails hraised
  | unrecorded _ cause hproperties hworkload hversion =>
      exact .cons nofun (.append hproperties.verdict.passes (.append hworkload.verdict.passes
        (.append hversion.passes (.of_fails (.status cause) (raised_statusFault cause)))))
  | completed _ _ hproperties hworkload hversion hdashboard =>
      exact .cons nofun (.append hproperties.verdict.passes (.append hworkload.verdict.passes
        (.append hversion.passes (.cons nofun (.passed _ hdashboard.passes)))))

end Verdicts

section Placing

variable {α : Type} {before after rest : List α} {event first only : α}

/-- Where an event stands in a list that is not empty. -/
theorem append_cons_eq_cons_iff :
    before ++ event :: after = first :: rest ↔
      before = [] ∧ event = first ∧ after = rest ∨
        ∃ later, before = first :: later ∧ later ++ event :: after = rest := by
  simp only [List.append_eq_cons_iff, List.cons.injEq, @eq_comm _ rest]

/-- The list of a single event has one place for an event. -/
theorem append_cons_eq_singleton_iff :
    before ++ event :: after = [only] ↔ before = [] ∧ event = only ∧ after = [] := by
  simp [append_cons_eq_cons_iff]

end Placing

section Creation

variable {desired : Workload} {before after : List (Event collaborators)}
  {converged : Except Fault Convergence}

/-- A convergence creates right after a read that found nothing. -/
theorem ConvergeCalls.of_create {workload : Workload} {reply : Except Fault Workload}
    (h : ConvergeCalls desired (before ++ ⟨.createWorkload workload, reply⟩ :: after) converged) :
    ∃ fault, before = [⟨.getWorkload workload.name workload.scope, .error fault⟩] ∧
      fault.kind = .notFound := by
  generalize hcalls : before ++ ⟨.createWorkload workload, reply⟩ :: after = calls at h
  cases h with
  | unreadable | left =>
      obtain ⟨-, ⟨⟩, -⟩ := append_cons_eq_singleton_iff.1 hcalls
  | overwritten =>
      rcases append_cons_eq_cons_iff.1 hcalls with ⟨-, ⟨⟩, -⟩ | ⟨_, -, hlater⟩
      obtain ⟨-, ⟨⟩, -⟩ := append_cons_eq_singleton_iff.1 hlater
  | @created fault _ hkind =>
      rcases append_cons_eq_cons_iff.1 hcalls with ⟨-, ⟨⟩, -⟩ | ⟨_, rfl, hlater⟩
      obtain ⟨rfl, ⟨⟩, rfl⟩ := append_cons_eq_singleton_iff.1 hlater
      exact ⟨fault, rfl, hkind⟩

/-- A read that finds nothing is followed by the creation of what was read. -/
theorem ConvergeCalls.of_not_found {name scope : Document} {fault : Fault}
    (h : ConvergeCalls desired (before ++ ⟨.getWorkload name scope, .error fault⟩ :: after)
      converged) (hkind : fault.kind = .notFound) :
    ∃ reply, name = desired.name ∧ scope = desired.scope ∧
      after = [⟨.createWorkload desired, reply⟩] := by
  generalize hcalls : before ++ ⟨.getWorkload name scope, .error fault⟩ :: after = calls at h
  cases h with
  | unreadable hreadable =>
      obtain ⟨-, ⟨⟩, -⟩ := append_cons_eq_singleton_iff.1 hcalls
      contradiction
  | left =>
      obtain ⟨-, ⟨⟩, -⟩ := append_cons_eq_singleton_iff.1 hcalls
  | overwritten =>
      rcases append_cons_eq_cons_iff.1 hcalls with ⟨-, ⟨⟩, -⟩ | ⟨_, -, hlater⟩
      obtain ⟨-, ⟨⟩, -⟩ := append_cons_eq_singleton_iff.1 hlater
  | created reply =>
      rcases append_cons_eq_cons_iff.1 hcalls with ⟨-, ⟨⟩, rfl⟩ | ⟨_, -, hlater⟩
      · exact ⟨reply, rfl, rfl, rfl⟩
      · obtain ⟨-, ⟨⟩, -⟩ := append_cons_eq_singleton_iff.1 hlater

end Creation

/-- What can be said about the faults of a cycle of a monitor, by its calls. -/
structure Classified (monitor : Monitor) (calls : List (Event collaborators))
    (outcome : Except Fault Outcome) : Prop where
  /-- The faults that leave a cycle are of four classes. -/
  closed : ∀ fault, outcome = .error fault →
    fault.kind ∈ [.conflict, .provisioning, .workload, .statusPersist]
  /-- A fault that leaves a cycle is raised for the first failure of a step, which nothing
  follows. -/
  decided : ∀ fault, outcome = .error fault →
    ∃ before last step cause, calls = before ++ [last] ∧ Passes monitor before ∧
      Fails monitor last step cause ∧ Raised step cause fault
  /-- The failure of a step leaves the cycle as what it is raised as, and nothing follows it. -/
  raises : ∀ before event after step cause, calls = before ++ event :: after →
    Fails monitor event step cause →
    after = [] ∧ ∃ fault, outcome = .error fault ∧ Raised step cause fault
  /-- A cycle without such a failure returns what it did. -/
  returned : Passes monitor calls → ∃ result, outcome = .ok result
  /-- A cycle that returns has made the calls that its steps need. -/
  taken : ∀ result, outcome = .ok result → ∀ step : FatalStep, step.needs monitor ⊆ kinds calls
  /-- A workload is created right after a read of it that found nothing. -/
  created : ∀ before workload reply after,
    calls = before ++ ⟨.createWorkload workload, reply⟩ :: after →
    ∃ earlier fault, fault.kind = .notFound ∧
      before = earlier ++ [⟨.getWorkload workload.name workload.scope, .error fault⟩]
  /-- A read that found nothing is followed by the creation of what was read. -/
  creates : ∀ before name scope fault after,
    calls = before ++ ⟨.getWorkload name scope, .error fault⟩ :: after → fault.kind = .notFound →
    ∃ workload reply later, workload.name = name ∧ workload.scope = scope ∧
      after = ⟨.createWorkload workload, reply⟩ :: later

/-- What is raised is of one of four classes. -/
theorem Raised.kind_mem {step : FatalStep} {cause fault : Fault} (h : Raised step cause fault) :
    fault.kind ∈ [.conflict, .provisioning, .workload, .statusPersist] := by
  by_cases hconflict : cause.kind = .conflict
  · simp [h.conflict hconflict, hconflict]
  · rw [h.kind hconflict]
    cases step <;> simp [FatalStep.kind]

/-- The faults of a course are classified. -/
theorem Course.classified {settings : Settings} {monitor next : Monitor}
    {calls : List (Event collaborators)} {outcome : Except Fault Outcome}
    (h : Course settings monitor calls next outcome) : Classified monitor calls outcome where
  closed := by
    rintro fault rfl
    cases h.verdict with
    | failed _ _ hraised => exact hraised.kind_mem
  decided := by
    rintro fault rfl
    cases h.verdict with
    | failed hbefore hfails hraised => exact ⟨_, _, _, _, rfl, hbefore, hfails, hraised⟩
  raises := by
    rintro before event after step cause rfl hfails
    exact h.verdict.raises hfails
  returned := by
    intro hpasses
    cases h.verdict with
    | passed result => exact ⟨result, rfl⟩
    | @failed _ last step cause _ _ hfails =>
        exact absurd hfails (hpasses last (by simp) step cause)
  taken := by
    rintro result rfl step kind hneeded
    have hkinds : kinds calls = schedule settings monitor result.action := h.keepsTo
    rw [hkinds, schedule, workloadSchedule]
    cases step with
    | properties => simp [show kind ∈ propertiesSchedule monitor from hneeded]
    | credentials | status =>
        obtain rfl := List.mem_singleton.1 hneeded
        simp
    | workload =>
        obtain rfl | rfl := List.mem_pair.1 hneeded <;> simp
  created := by
    rintro before workload reply after rfl
    obtain ⟨_, _, _, _, _, _, _, _, rfl, -, -, -, hconverge⟩ := h.convergent.of_workload_call rfl
    obtain ⟨fault, rfl, hkind⟩ := hconverge.of_create
    exact ⟨_, fault, hkind, (List.append_assoc (_ :: _) [_] [_]).symm⟩
  creates := by
    rintro before name scope fault after rfl hkind
    obtain ⟨_, _, _, _, _, _, _, _, -, rfl, -, -, hconverge⟩ := h.convergent.of_workload_call rfl
    obtain ⟨reply, rfl, rfl, rfl⟩ := hconverge.of_not_found hkind
    exact ⟨_, reply, _, rfl, rfl, rfl⟩

/-- Whatever the collaborators reply, a cycle takes all its steps and returns what it did, or the
first step that fails ends it with a fault of one of four classes. -/
theorem reconcile_classifies {σ : Type} (settings : Settings) (monitor : Monitor)
    (serve : (request : collaborators.Request) → StateM σ (collaborators.Reply request)) (start : σ) :
    Classified monitor (cycleCalls settings monitor serve start)
      (Process.run serve (reconcile settings monitor) start).1.2 :=
  (course_cycleCalls settings monitor serve start).classified

/-- Collaborators that find no workload and accept everything. The resolver has its own reply. -/
def obliging (version : Except Fault VersionRecord) :
    (request : collaborators.Request) → StateM Unit (collaborators.Reply request)
  | .provisionCredentials _ => pure (.ok none)
  | .provisionProperties _ _ => pure (.ok ())
  | .clusterId => pure (.ok "c")
  | .getWorkload _ _ => pure (.error (.absent "workload"))
  | .createWorkload workload => pure (.ok workload)
  | .updateWorkload workload => pure (.ok workload)
  | .resolveVersion _ _ => pure version
  | .updateStatus _ => pure (.ok .null)
  | .register _ => pure (.ok "d")
  | .log _ => pure ()
  | .count _ => pure ()
  | .now => pure default

/-- Obliging collaborators with a store that does not know the monitor, and tells no version. -/
def forgetful : (request : collaborators.Request) → StateM Unit (collaborators.Reply request)
  | .updateStatus _ => pure (.error (.absent "monitor"))
  | request => obliging (.error (.absent "version")) request

/-- Only the status step fails with forgetful collaborators. -/
theorem status_of_fails_forgetful {event : Event collaborators} {step : FatalStep} {cause : Fault}
    (hmem : event ∈ cycleCalls {} Monitor.plain forgetful ())
    (hfails : Fails Monitor.plain event step cause) :
    step = .status ∧ cause = .absent "monitor" := by
  have hevent : event ∈ Process.transcript _ _ _ := List.mem_of_mem_filter hmem
  obtain ⟨_, hreply⟩ := Process.exists_of_mem_transcript _ hevent
  obtain ⟨desired, hbuilt⟩ := Monitor.exists_desiredWorkload_plain "c"
  cases hfails with
  | build hunbuilt =>
      cases hreply
      cases hbuilt.symm.trans hunbuilt
  | read hkind =>
      cases hreply
      exact absurd rfl hkind
  | status =>
      cases hreply
      exact ⟨rfl, rfl⟩
  | _ => cases hreply

/-- The cycle ends with the write of the status to a store that does not know the monitor, and this
leaves it as a fault of the status. -/
theorem reconcile_classifies_forgetful :
    ∃ before written fault,
      cycleCalls {} Monitor.plain forgetful () =
        before ++ [⟨.updateStatus written, .error (.absent "monitor")⟩] ∧
      (Process.run forgetful (reconcile {} Monitor.plain) ()).1.2 = .error fault ∧
      fault.kind = .statusPersist := by
  have h := reconcile_classifies {} Monitor.plain forgetful ()
  -- Without a failure the cycle would have returned, and so have written the status.
  have hnot : ¬ Passes Monitor.plain (cycleCalls {} Monitor.plain forgetful ()) := by
    intro hpasses
    obtain ⟨result, hreturned⟩ := h.returned hpasses
    have hstatus : .status ∈ kinds (cycleCalls {} Monitor.plain forgetful ()) :=
      h.taken result hreturned .status (List.mem_singleton.2 rfl)
    obtain ⟨⟨request, reply⟩, hmem, hkind⟩ := List.mem_filterMap.1 hstatus
    have hevent : ⟨request, reply⟩ ∈ Process.transcript _ _ _ := List.mem_of_mem_filter hmem
    obtain ⟨_, hreply⟩ := Process.exists_of_mem_transcript _ hevent
    cases request with
    | updateStatus written =>
        cases hreply
        exact hpasses _ hmem _ _ (.status _)
    | _ => cases hkind
  obtain ⟨event, hmem, step, cause, hfails⟩ :
      ∃ event ∈ cycleCalls {} Monitor.plain forgetful (), ∃ step cause,
        Fails Monitor.plain event step cause := by
    simpa [Passes] using hnot
  obtain ⟨rfl, rfl⟩ := status_of_fails_forgetful hmem hfails
  obtain ⟨before, after, hcalls⟩ := List.append_of_mem hmem
  obtain ⟨rfl, fault, hraised, hclass⟩ := h.raises before event after _ _ hcalls hfails
  cases hfails with
  | status => exact ⟨before, _, fault, hcalls, hraised, hclass.kind nofun⟩

end MonitorOperator.Cycle
