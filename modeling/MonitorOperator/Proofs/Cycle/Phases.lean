import MonitorOperator.Cycle.Reconcile
import MonitorOperator.Proofs.Process.Path

/-!
# The phases of a cycle

A cycle provisions and converges first, and then looks the version up, writes the status and
registers the monitor with a dashboard. `Phase.asks` says what each of these may ask for, and there is
one lemma for each step. That a step stays away from some requests follows by going through the
requests, without looking at the step again.
-/

namespace MonitorOperator.Cycle

open Process (Only)

/-- The parts of a cycle. Those up to the workload step are early. -/
inductive Phase where
  | early
  | version
  | status
  | dashboard
  deriving DecidableEq

/-- What is asked for in a phase. All of them log and count, but only the version step tells of an
update of the image. -/
def Phase.asks (phase : Phase) : collaborators.Request → Prop
  | .provisionCredentials _ => phase = .early
  | .provisionProperties _ _ => phase = .early
  | .clusterId => phase = .early
  | .getWorkload _ _ => phase = .early
  | .createWorkload _ => phase = .early
  | .updateWorkload _ => phase = .early
  | .resolveVersion _ _ => phase = .version
  | .now => phase = .status
  | .updateStatus _ => phase = .status
  | .register _ => phase = .dashboard
  | .log event => event.event = "image_update_found" → phase = .version
  | .count _ => True

/-- A process that belongs to a phase. -/
abbrev Asks {α : Type} (phase : Phase) (process : Process collaborators α) : Prop :=
  Only phase.asks process

/-- Everything but an update of the image may be logged in any phase. -/
theorem Phase.asks_log {event : LogEvent} (phase : Phase) (h : event.event ≠ "image_update_found") :
    phase.asks (.log event) :=
  fun hname => absurd hname h

/-- What follows the first steps of a cycle. -/
def concluding (settings : Settings) (monitor : Monitor) :
    Except Fault (Option Credentials × WorkloadAction) →
      Process collaborators (Monitor × Except Fault Outcome)
  | .error fault => .done (monitor, .error fault)
  | .ok (credentials, action) => recordAndRegister settings monitor credentials action

/-- Count the outcome of a cycle, if it is to be counted. -/
def counting (result : Monitor × Except Fault Outcome) :
    Process collaborators (Monitor × Except Fault Outcome) :=
  match counterOf result.2 with
  | some counter => .call (.count counter) fun _ => .done result
  | none => .done result

/-- A cycle first provisions and converges, and then goes on as the result calls for. -/
theorem reconcile_eq (settings : Settings) (monitor : Monitor) :
    reconcile settings monitor =
      (provisionAndConverge monitor).outcome.bind fun result =>
        (concluding settings monitor result).bind counting := by
  refine Eq.trans ?_ (Process.bind_assoc _ _ _)
  refine congr (congrArg Process.bind (congrArg (Process.bind _) (funext fun result => ?_)))
    (funext fun result => ?_)
  · match result with
    | .error fault => rfl
    | .ok (credentials, action) => rfl
  · obtain ⟨next, outcome⟩ := result
    simp only [counting]
    cases counterOf outcome <;> rfl

/-- The monitor after the status step and what the step returns, by the reply to the write. -/
def recorded (stamped : Monitor) : Except Fault Document → Monitor × Except Fault Unit
  | .ok version => (stamped.adopting version, .ok ())
  | .error fault => (stamped, .error (statusFault fault))

/-- What the status step logs, by the reply to the write. -/
def statusReport (stamped : Monitor) : Except Fault Document → LogEvent
  | .ok version => recordedEvent (stamped.adopting version)
  | .error fault => faultEvent stamped "status_update_failed" [] fault

/-- The status step reads the time, writes the status and reports how that went. -/
theorem statusStep_eq (monitor : Monitor) (version : Option VersionRecord) :
    statusStep monitor version =
      .call .now fun time =>
        .call (.updateStatus (monitor.stamped version time)) fun reply =>
          .call (.log (statusReport (monitor.stamped version time) reply)) fun _ =>
            .done (recorded (monitor.stamped version time) reply) := by
  refine congrArg (Process.call _) (funext fun time => ?_)
  refine congrArg (Process.call _) (funext fun reply => ?_)
  cases reply with
  | ok adopted => rfl
  | error fault => rfl

/-- An attempt makes the requests of the step, and reports the fault if there is one. -/
theorem only_attempt {α : Type} {good : collaborators.Request → Prop} {step : Task collaborators α}
    {report : Fault → LogEvent} (raise : Fault → Fault) (hstep : Only good step.outcome)
    (hreport : ∀ fault, good (.log (report fault))) :
    Only good (attempt step report raise).outcome := by
  refine Only.bind hstep fun tried => ?_
  cases tried with
  | ok value => trivial
  | error fault => exact ⟨hreport fault, fun _ => trivial⟩

variable (settings : Settings) (monitor : Monitor)

section Early

/-- A report of a failed provisioning may come early. -/
theorem asks_provisioningEvent {what : String}
    (hconflict : s!"{what}_conflict" ≠ "image_update_found")
    (hfailed : s!"{what}_reconcile_failed" ≠ "image_update_found") (fault : Fault) :
    Phase.early.asks (.log (provisioningEvent monitor what fault)) := by
  refine Phase.asks_log _ ?_
  unfold provisioningEvent
  split
  · exact hconflict
  · exact hfailed

/-- The credentials step is early. -/
theorem asks_credentialsStep : Asks .early (credentialsStep monitor).outcome :=
  only_attempt _ ⟨rfl, fun _ => trivial⟩ (asks_provisioningEvent monitor (by decide) (by decide))

/-- The properties step is early. -/
theorem asks_propertiesStep : Asks .early (propertiesStep monitor).outcome := by
  unfold propertiesStep
  split
  · trivial
  · exact only_attempt _ ⟨rfl, fun _ => trivial⟩
      (asks_provisioningEvent monitor (by decide) (by decide))

/-- A read is early. -/
theorem asks_liveWorkload (desired : Workload) : Asks .early (liveWorkload desired).outcome := by
  refine ⟨rfl, fun reply => ?_⟩
  cases reply with
  | ok live => trivial
  | error fault => trivial

/-- A creation is early. -/
theorem asks_create (desired : Workload) : Asks .early (create desired).outcome := by
  refine ⟨?announced, fun _ => ⟨rfl, fun reply => ?written⟩⟩
  case announced => exact Phase.asks_log _ (by decide : "creating_statefulset" ≠ _)
  case written =>
    cases reply with
    | ok created => exact ⟨trivial, fun _ => trivial⟩
    | error fault => trivial

/-- An overwrite is early. -/
theorem asks_overwrite (live desired : Workload) :
    Asks .early (overwrite live desired).outcome := by
  refine ⟨?announced, fun _ => ⟨rfl, fun reply => ?written⟩⟩
  case announced => exact Phase.asks_log _ (by decide : "updating_statefulset" ≠ _)
  case written =>
    cases reply with
    | ok updated => exact ⟨trivial, fun _ => trivial⟩
    | error fault => trivial

/-- A convergence is early. -/
theorem asks_converge (desired : Workload) : Asks .early (converge desired).outcome := by
  refine Task.only_bind (asks_liveWorkload desired) fun found => ?_
  cases found with
  | none => exact asks_create desired
  | some live =>
      dsimp only
      split
      · exact asks_overwrite live desired
      · exact ⟨Phase.asks_log _ (by decide : "statefulset_current" ≠ _), fun _ => trivial⟩

/-- The workload step is early. -/
theorem asks_workloadStep : Asks .early (workloadStep monitor).outcome := by
  refine only_attempt _ (Task.only_bind ⟨rfl, fun _ => trivial⟩ fun clusterId => ?_)
    fun _ => Phase.asks_log _ (by decide : "statefulset_reconcile_failed" ≠ _)
  refine Task.only_bind ?_ fun desired => Task.only_bind (asks_converge desired) fun _ => trivial
  rw [Task.outcome_liftM_except]
  trivial

/-- The steps up to the workload step are early. -/
theorem asks_provisionAndConverge : Asks .early (provisionAndConverge monitor).outcome := by
  refine Task.only_bind (asks_credentialsStep monitor) fun credentials => ?_
  refine Task.only_bind (asks_propertiesStep monitor) fun _ => ?_
  exact Task.only_bind (asks_workloadStep monitor) fun _ => trivial

end Early

/-- The version step asks for the version. -/
theorem asks_versionStep (credentials : Option Credentials) :
    Asks .version (versionStep settings monitor credentials) := by
  have hlog (event : LogEvent) : Phase.version.asks (.log event) := fun _ => rfl
  unfold versionStep
  split
  · exact ⟨trivial, fun _ => trivial⟩
  refine ⟨rfl, fun reply => ?_⟩
  cases reply with
  | error fault => exact ⟨hlog _, fun _ => ⟨trivial, fun _ => trivial⟩⟩
  | ok record =>
      show Asks .version (ite _ _ _)
      split
      · exact ⟨hlog _, fun _ => ⟨trivial, fun _ => trivial⟩⟩
      · exact ⟨trivial, fun _ => trivial⟩

/-- The status step asks for the time, and for the status to be written. -/
theorem asks_statusStep (version : Option VersionRecord) :
    Asks .status (statusStep monitor version) := by
  rw [statusStep_eq]
  refine ⟨rfl, fun time => ⟨rfl, fun reply => ⟨Phase.asks_log _ ?_, fun _ => trivial⟩⟩⟩
  cases reply with
  | ok adopted => exact (by decide : "status_recorded" ≠ "image_update_found")
  | error fault => exact (by decide : "status_update_failed" ≠ "image_update_found")

/-- A registration asks the dashboard. -/
theorem asks_registration : Asks .dashboard (registration monitor) := by
  refine ⟨rfl, fun reply => ?_⟩
  cases reply with
  | ok dashboardId =>
      exact ⟨Phase.asks_log _ (by decide : "dashboard_registered" ≠ _),
        fun _ => ⟨trivial, fun _ => trivial⟩⟩
  | error fault =>
      show Asks .dashboard (ite _ _ _)
      split
      · exact ⟨Phase.asks_log _ (by decide : "dashboard_already_registered" ≠ _),
          fun _ => ⟨trivial, fun _ => trivial⟩⟩
      · exact ⟨Phase.asks_log _ (by decide : "dashboard_registration_failed" ≠ _),
          fun _ => ⟨trivial, fun _ => trivial⟩⟩

/-- The dashboard step asks the dashboard. -/
theorem asks_dashboardStep : Asks .dashboard (dashboardStep settings monitor) := by
  unfold dashboardStep
  split
  · trivial
  split
  · exact asks_registration monitor
  · exact ⟨Phase.asks_log _ (by decide : "dashboard_registration_skipped" ≠ _), fun _ => trivial⟩

/-- The count at the end of a cycle belongs to any phase. -/
theorem asks_counting (phase : Phase) (result : Monitor × Except Fault Outcome) :
    Asks phase (counting result) := by
  unfold counting
  split
  · exact ⟨trivial, fun _ => trivial⟩
  · trivial

end MonitorOperator.Cycle
