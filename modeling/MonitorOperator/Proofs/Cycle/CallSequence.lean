import MonitorOperator.Proofs.Cycle.CycleCalls
import MonitorOperator.Proofs.Process.Trace

/-!
# The calls of a cycle

A cycle calls collaborators, and besides that it logs, counts and reads the clock. `Calls` leaves
only the calls of a process. There is one inductive type for the calls of each step, with a
constructor for each way that the step can go, and `Course` puts them together: a cycle of a monitor
makes the calls of one of its courses, and ends as the course says (`calls_reconcile`), whatever the
collaborators reply (`course_cycleCalls`). Its calls about workloads are those of one convergence, to
the workload that could be built after everything was provisioned (`Course.convergent`).
-/

namespace MonitorOperator.Cycle

open Process (Trace trace_ask_iff trace_bind_iff trace_call_iff trace_call_iff_of_not
  trace_done_iff)

/-- What a call is for. -/
inductive CallKind where
  | credentials
  | properties
  | identity
  | read
  | create
  | update
  | resolve
  | status
  | register
  deriving DecidableEq, Repr

/-- What a request is for, if it is a call of a collaborator. -/
def CycleRequest.call? : CycleRequest → Option CallKind
  | provisionCredentials _ => some .credentials
  | provisionProperties _ _ => some .properties
  | clusterId => some .identity
  | getWorkload _ _ => some .read
  | createWorkload _ => some .create
  | updateWorkload _ => some .update
  | resolveVersion _ _ => some .resolve
  | updateStatus _ => some .status
  | register _ => some .register
  | log _ => none
  | count _ => none
  | now => none

/-- The request is a call of a collaborator. -/
def CycleRequest.isCall (request : CycleRequest) : Bool :=
  request.call?.isSome

/-- What is about workloads is found among the calls. -/
theorem aboutWorkload_calls (events : List (Event collaborators)) :
    aboutWorkload (events.filter fun event => CycleRequest.isCall event.request) =
      aboutWorkload events := by
  rw [aboutWorkload, List.filter_filter]
  refine List.filter_congr fun event _ => ?_
  cases event.request <;> rfl

/-- `Calls process calls result` says that a process may make these calls and end with this
result. -/
abbrev Calls {α : Type} (process : Process collaborators α) (calls : List (Event collaborators))
    (result : α) : Prop :=
  Trace CycleRequest.isCall process calls result

/-- The calls of the properties step. -/
inductive PropertiesCalls (monitor : Monitor) :
    List (Event collaborators) → Except Fault Unit → Prop where
  | skipped : monitor.spec.customProperties = none → PropertiesCalls monitor [] (.ok ())
  | asked {properties : CustomProperties} (reply : Except Fault Unit) :
      monitor.spec.customProperties = some properties →
      PropertiesCalls monitor [⟨.provisionProperties monitor properties, reply⟩]
        (reply.mapError (provisioningFault "custom_properties"))

/-- The desired workload at the version of the live one. -/
def writtenOver (live desired : Workload) : Workload :=
  { desired with resourceVersion := live.resourceVersion }

/-- The calls of a convergence. -/
inductive ConvergeCalls (desired : Workload) :
    List (Event collaborators) → Except Fault Convergence → Prop where
  | unreadable {fault : Fault} :
      fault.kind ≠ .notFound →
      ConvergeCalls desired [⟨.getWorkload desired.name desired.scope, .error fault⟩] (.error fault)
  | left {live : Workload} :
      live.hasChanged desired = false →
      ConvergeCalls desired [⟨.getWorkload desired.name desired.scope, .ok live⟩]
        (.ok ⟨.unchanged, desired⟩)
  | created {fault : Fault} (reply : Except Fault Workload) :
      fault.kind = .notFound →
      ConvergeCalls desired
        [⟨.getWorkload desired.name desired.scope, .error fault⟩, ⟨.createWorkload desired, reply⟩]
        (reply.map fun _ => ⟨.created, desired⟩)
  | overwritten {live : Workload} (reply : Except Fault Workload) :
      live.hasChanged desired = true →
      ConvergeCalls desired
        [⟨.getWorkload desired.name desired.scope, .ok live⟩,
          ⟨.updateWorkload (writtenOver live desired), reply⟩]
        (reply.map fun _ => ⟨.updated, writtenOver live desired⟩)

/-- The calls of the workload step. -/
inductive WorkloadCalls (monitor : Monitor) :
    List (Event collaborators) → Except Fault WorkloadAction → Prop where
  | unidentified (fault : Fault) :
      WorkloadCalls monitor [⟨.clusterId, .error fault⟩] (.error (workloadFault fault))
  | unbuilt {clusterId : String} {fault : Fault} :
      monitor.desiredWorkload clusterId = .error fault →
      WorkloadCalls monitor [⟨.clusterId, .ok clusterId⟩] (.error (workloadFault fault))
  | built {clusterId : String} {desired : Workload} {calls : List (Event collaborators)}
      {result : Except Fault Convergence} :
      monitor.desiredWorkload clusterId = .ok desired → ConvergeCalls desired calls result →
      WorkloadCalls monitor (⟨.clusterId, .ok clusterId⟩ :: calls)
        ((result.map (·.action)).mapError workloadFault)

/-- What the version step makes of the resolver's reply. -/
def lookedUp : Except Fault VersionRecord → VersionLookup × Option VersionRecord
  | .ok record => (.resolved, some record)
  | .error _ => (.degraded, none)

/-- The calls of the version step. -/
inductive VersionCalls (settings : Settings) (monitor : Monitor)
    (credentials : Option Credentials) :
    List (Event collaborators) → VersionLookup × Option VersionRecord → Prop where
  | skipped :
      settings.disableVersionUpdates = true →
      VersionCalls settings monitor credentials [] (.disabled, none)
  | asked (reply : Except Fault VersionRecord) :
      settings.disableVersionUpdates = false →
      VersionCalls settings monitor credentials
        [⟨.resolveVersion monitor.spec.image credentials, reply⟩] (lookedUp reply)

/-- The calls of the dashboard step. -/
inductive DashboardCalls (settings : Settings) (monitor : Monitor) :
    List (Event collaborators) → Option String → Prop where
  | skipped :
      (monitor.hasEndpoint && settings.hasDashboard) = false →
      DashboardCalls settings monitor [] none
  | asked (reply : Except Fault String) :
      (monitor.hasEndpoint && settings.hasDashboard) = true →
      DashboardCalls settings monitor [⟨.register monitor.spec.endpoint, reply⟩] reply.toOption

/-- The calls of a whole cycle, by how far it comes: the monitor that it leaves, and what it did or
why it failed. -/
inductive Course (settings : Settings) (monitor : Monitor) :
    List (Event collaborators) → Monitor → Except Fault Outcome → Prop where
  | withoutCredentials (fault : Fault) :
      Course settings monitor [⟨.provisionCredentials monitor, .error fault⟩] monitor
        (.error (provisioningFault "credentials" fault))
  | withoutProperties {properties : List (Event collaborators)} {fault : Fault}
      (credentials : Option Credentials) :
      PropertiesCalls monitor properties (.error fault) →
      Course settings monitor (⟨.provisionCredentials monitor, .ok credentials⟩ :: properties)
        monitor (.error fault)
  | unconverged {properties workload : List (Event collaborators)} {fault : Fault}
      (credentials : Option Credentials) :
      PropertiesCalls monitor properties (.ok ()) →
      WorkloadCalls monitor workload (.error fault) →
      Course settings monitor
        (⟨.provisionCredentials monitor, .ok credentials⟩ :: (properties ++ workload)) monitor
        (.error fault)
  | unrecorded {properties workload version : List (Event collaborators)} {action : WorkloadAction}
      {lookup : VersionLookup} {record : Option VersionRecord} {credentials : Option Credentials}
      (time : Moment) (fault : Fault) :
      PropertiesCalls monitor properties (.ok ()) →
      WorkloadCalls monitor workload (.ok action) →
      VersionCalls settings monitor credentials version (lookup, record) →
      Course settings monitor
        (⟨.provisionCredentials monitor, .ok credentials⟩ ::
          (properties ++ (workload ++ (version ++
            [⟨.updateStatus (monitor.stamped record time), .error fault⟩]))))
        (monitor.stamped record time) (.error (statusFault fault))
  | completed {properties workload version dashboard : List (Event collaborators)}
      {action : WorkloadAction} {lookup : VersionLookup} {record : Option VersionRecord}
      {credentials : Option Credentials} {dashboardId : Option String}
      (time : Moment) (adopted : Document) :
      PropertiesCalls monitor properties (.ok ()) →
      WorkloadCalls monitor workload (.ok action) →
      VersionCalls settings monitor credentials version (lookup, record) →
      DashboardCalls settings monitor dashboard dashboardId →
      Course settings monitor
        (⟨.provisionCredentials monitor, .ok credentials⟩ ::
          (properties ++ (workload ++ (version ++
            ⟨.updateStatus (monitor.stamped record time), .ok adopted⟩ :: dashboard))))
        ((monitor.stamped record time).adopting adopted)
        (.ok { action, lookup, version := record, dashboardId })

section Steps

variable {settings : Settings} {monitor : Monitor} {calls : List (Event collaborators)}

/-- What follows a log entry makes all the calls. -/
theorem calls_log_iff {α : Type} {event : LogEvent} {next : Unit → Process collaborators α}
    {result : α} : Calls (.call (.log event) next) calls result ↔ Calls (next ()) calls result :=
  (trace_call_iff_of_not rfl).trans ⟨fun ⟨_, h⟩ => h, fun h => ⟨(), h⟩⟩

/-- What follows a count makes all the calls. -/
theorem calls_count_iff {α : Type} {counter : Counter} {next : Unit → Process collaborators α}
    {result : α} :
    Calls (.call (.count counter) next) calls result ↔ Calls (next ()) calls result :=
  (trace_call_iff_of_not rfl).trans ⟨fun ⟨_, h⟩ => h, fun h => ⟨(), h⟩⟩

/-- A report, which is logged and counted before a process is done, makes no calls. -/
theorem calls_report_iff {α : Type} {event : LogEvent} {counter : Counter} {value result : α} :
    Calls (.call (.log event) fun _ => .call (.count counter) fun _ => .done value) calls result ↔
      calls = [] ∧ result = value :=
  calls_log_iff.trans (calls_count_iff.trans trace_done_iff)

/-- An attempt makes the calls of the step, and changes the fault if there is one. -/
theorem calls_attempt_iff {α : Type} {step : Task collaborators α} {report : Fault → LogEvent}
    {raise : Fault → Fault} {result : Except Fault α} :
    Calls (attempt step report raise).outcome calls result ↔
      ∃ tried, Calls step.outcome calls tried ∧ result = tried.mapError raise := by
  constructor
  · intro h
    obtain ⟨tried, first, later, rfl, hfirst, hlater⟩ := trace_bind_iff.1 h
    refine ⟨tried, ?_⟩
    -- What follows the step only logs, so all the calls are those of the step.
    cases tried with
    | ok value =>
        obtain ⟨rfl, rfl⟩ := trace_done_iff.1 hlater
        exact ⟨by simpa using hfirst, rfl⟩
    | error fault =>
        have hreturned := calls_log_iff.1 hlater
        obtain ⟨rfl, rfl⟩ := trace_done_iff.1 hreturned
        exact ⟨by simpa using hfirst, rfl⟩
  · rintro ⟨tried, htried, rfl⟩
    refine trace_bind_iff.2 ⟨tried, calls, [], by simp, htried, ?_⟩
    cases tried with
    | ok value => exact trace_done_iff.2 ⟨rfl, rfl⟩
    | error fault => exact calls_log_iff.2 (trace_done_iff.2 ⟨rfl, rfl⟩)

/-- The credentials step is one call. -/
theorem calls_credentialsStep_iff {result : Except Fault (Option Credentials)} :
    Calls (credentialsStep monitor).outcome calls result ↔
      ∃ reply, calls = [⟨.provisionCredentials monitor, reply⟩] ∧
        result = reply.mapError (provisioningFault "credentials") := by
  rw [credentialsStep, calls_attempt_iff]
  exact exists_congr fun reply => and_congr_left' (trace_ask_iff rfl)

/-- The properties step is one call, if there are properties. -/
theorem calls_propertiesStep {result : Except Fault Unit}
    (h : Calls (propertiesStep monitor).outcome calls result) :
    PropertiesCalls monitor calls result := by
  unfold propertiesStep at h
  split at h
  · next hnone =>
      obtain ⟨rfl, rfl⟩ := trace_done_iff.1 h
      exact .skipped hnone
  · next properties hsome =>
      obtain ⟨reply, hreply, rfl⟩ := calls_attempt_iff.1 h
      obtain rfl := (trace_ask_iff rfl).1 hreply
      exact .asked reply hsome

/-- The read of a convergence is one call. -/
theorem calls_liveWorkload {desired : Workload} {found : Except Fault (Option Workload)}
    (h : Calls (liveWorkload desired).outcome calls found) :
    ∃ reply, calls = [⟨.getWorkload desired.name desired.scope, reply⟩] ∧
      found = match reply with
        | .ok live => .ok (some live)
        | .error fault => if fault.kind = .notFound then .ok none else .error fault := by
  obtain ⟨reply, later, rfl, hlater⟩ := (trace_call_iff rfl).1 h
  refine ⟨reply, ?_⟩
  cases reply with
  | ok live =>
      obtain ⟨rfl, rfl⟩ := trace_done_iff.1 hlater
      exact ⟨rfl, rfl⟩
  | error fault =>
      obtain ⟨rfl, rfl⟩ := trace_done_iff.1 hlater
      exact ⟨rfl, rfl⟩

/-- A write that is announced before and counted after it makes the calls of the write. -/
theorem calls_write {announcement : LogEvent} {write : Task collaborators Workload}
    {counter : Counter} {convergence : Convergence} {result : Except Fault Convergence}
    (h : Calls
      (do
        liftM (log announcement)
        let _ ← write
        liftM (count counter)
        return convergence : Task collaborators Convergence).outcome calls result) :
    ∃ reply, Calls write.outcome calls reply ∧ result = reply.map fun _ => convergence := by
  have hwrite := calls_log_iff.1 h
  rcases Task.trace_bind_iff.1 hwrite with
    ⟨fault, rfl, hrefused⟩ | ⟨workload, first, later, rfl, haccepted, hcounted⟩
  · exact ⟨.error fault, hrefused, rfl⟩
  · have hreturned := calls_count_iff.1 hcounted
    obtain ⟨rfl, rfl⟩ := trace_done_iff.1 hreturned
    exact ⟨.ok workload, by simpa using haccepted, rfl⟩

/-- A convergence reads, and writes at most once. -/
theorem calls_converge {desired : Workload} {result : Except Fault Convergence}
    (h : Calls (converge desired).outcome calls result) : ConvergeCalls desired calls result := by
  rcases Task.trace_bind_iff.1 h with
    ⟨fault, rfl, hread⟩ | ⟨found, first, later, rfl, hread, hrest⟩
  · obtain ⟨reply, rfl, hfound⟩ := calls_liveWorkload hread
    cases reply with
    | ok live => cases hfound
    | error other =>
        dsimp only at hfound
        split at hfound
        · cases hfound
        · next hkind =>
            obtain rfl := Except.error.inj hfound
            exact .unreadable hkind
  · obtain ⟨reply, rfl, hfound⟩ := calls_liveWorkload hread
    cases reply with
    | error fault =>
        dsimp only at hfound
        split at hfound
        · next hkind =>
            obtain rfl := Except.ok.inj hfound
            obtain ⟨reply, hwrite, rfl⟩ := calls_write hrest
            obtain rfl := (trace_ask_iff rfl).1 hwrite
            exact .created reply hkind
        · cases hfound
    | ok live =>
        obtain rfl := Except.ok.inj hfound
        cases hchanged : live.hasChanged desired with
        | false =>
            simp only [hchanged, Bool.false_eq_true, ↓reduceIte] at hrest
            have hreturned := calls_log_iff.1 hrest
            obtain ⟨rfl, rfl⟩ := trace_done_iff.1 hreturned
            exact .left hchanged
        | true =>
            simp only [hchanged, ↓reduceIte] at hrest
            obtain ⟨reply, hwrite, rfl⟩ := calls_write hrest
            obtain rfl := (trace_ask_iff rfl).1 hwrite
            exact .overwritten reply hchanged

/-- The workload step asks for the cluster's identifier, and converges if it can build. -/
theorem calls_workloadStep {result : Except Fault WorkloadAction}
    (h : Calls (workloadStep monitor).outcome calls result) :
    WorkloadCalls monitor calls result := by
  obtain ⟨tried, htried, rfl⟩ := calls_attempt_iff.1 h
  rcases Task.trace_bind_iff.1 htried with
    ⟨fault, rfl, hidentify⟩ | ⟨clusterId, first, later, rfl, hidentify, hrest⟩
  · obtain rfl := (trace_ask_iff rfl).1 hidentify
    exact .unidentified fault
  obtain rfl := (trace_ask_iff rfl).1 hidentify
  cases hbuilt : monitor.desiredWorkload clusterId with
  | error fault =>
      rw [hbuilt] at hrest
      obtain ⟨rfl, rfl⟩ := trace_done_iff.1 hrest
      exact .unbuilt hbuilt
  | ok desired =>
      rw [hbuilt] at hrest
      obtain ⟨converged, rfl, hconverge⟩ := Task.trace_map_iff.1 hrest
      exact .built hbuilt (calls_converge hconverge)

/-- The version step asks the resolver, unless versions are not looked up. -/
theorem calls_versionStep {credentials : Option Credentials}
    {result : VersionLookup × Option VersionRecord}
    (h : Calls (versionStep settings monitor credentials) calls result) :
    VersionCalls settings monitor credentials calls result := by
  unfold versionStep at h
  cases hdisabled : settings.disableVersionUpdates with
  | true =>
      simp only [hdisabled, ↓reduceIte] at h
      have hreturned := calls_count_iff.1 h
      obtain ⟨rfl, rfl⟩ := trace_done_iff.1 hreturned
      exact .skipped hdisabled
  | false =>
      simp only [hdisabled, Bool.false_eq_true, ↓reduceIte] at h
      obtain ⟨reply, later, rfl, hlater⟩ := (trace_call_iff rfl).1 h
      cases reply with
      | error fault =>
          obtain ⟨rfl, rfl⟩ := calls_report_iff.1 hlater
          exact .asked (.error fault) hdisabled
      | ok record =>
          let counted : Process collaborators (VersionLookup × Option VersionRecord) :=
            .call (.count (.lookups .resolved)) fun _ => .done (.resolved, some record)
          have hbranch : Calls
              (if !monitor.status.imageHash.agrees record.hash then
                .call (.log (updateFoundEvent monitor record)) fun _ => counted
              else counted) later result := hlater
          -- An update that is found is announced, which makes no difference to the calls.
          have hcounted : Calls counted later result := by
            split at hbranch
            · exact calls_log_iff.1 hbranch
            · exact hbranch
          have hreturned := calls_count_iff.1 hcounted
          obtain ⟨rfl, rfl⟩ := trace_done_iff.1 hreturned
          exact .asked (.ok record) hdisabled

/-- The status step is one call, about the stamped monitor. -/
theorem calls_statusStep {version : Option VersionRecord} {result : Monitor × Except Fault Unit}
    (h : Calls (statusStep monitor version) calls result) :
    ∃ time reply, calls = [⟨.updateStatus (monitor.stamped version time), reply⟩] ∧
      result = recorded (monitor.stamped version time) reply := by
  rw [statusStep_eq] at h
  obtain ⟨time, hwrite⟩ := (trace_call_iff_of_not rfl).1 h
  obtain ⟨reply, later, rfl, hlater⟩ := (trace_call_iff rfl).1 hwrite
  have hreturned := calls_log_iff.1 hlater
  obtain ⟨rfl, rfl⟩ := trace_done_iff.1 hreturned
  exact ⟨time, reply, rfl, rfl⟩

/-- A registration is one call. -/
theorem calls_registration {result : Option String}
    (h : Calls (registration monitor) calls result) :
    ∃ reply : Except Fault String, calls = [⟨.register monitor.spec.endpoint, reply⟩] ∧
      result = reply.toOption := by
  obtain ⟨reply, later, rfl, hlater⟩ := (trace_call_iff rfl).1 h
  refine ⟨reply, ?_⟩
  cases reply with
  | ok dashboardId =>
      obtain ⟨rfl, rfl⟩ := calls_report_iff.1 hlater
      exact ⟨rfl, rfl⟩
  | error fault =>
      let reported (event : LogEvent) (counter : Counter) : Process collaborators (Option String) :=
        .call (.log event) fun _ => .call (.count counter) fun _ => .done none
      have hbranch : Calls
          (if fault.kind = .dashboardAlreadyRegistered then
            reported ((cycleLogger monitor).event .info "dashboard_already_registered"
              [("endpoint", monitor.spec.endpoint)]) (.registrations .alreadyRegistered)
          else
            reported (faultEvent monitor "dashboard_registration_failed"
              [("endpoint", monitor.spec.endpoint)] fault) (.registrations .failed))
          later result := hlater
      -- The branches differ in what they log and count only.
      obtain ⟨rfl, rfl⟩ : later = [] ∧ result = none := by
        split at hbranch
        · exact calls_report_iff.1 hbranch
        · exact calls_report_iff.1 hbranch
      exact ⟨rfl, rfl⟩

/-- The dashboard step is one call, if there is an endpoint and a dashboard. -/
theorem calls_dashboardStep {result : Option String}
    (h : Calls (dashboardStep settings monitor) calls result) :
    DashboardCalls settings monitor calls result := by
  unfold dashboardStep at h
  cases hendpoint : monitor.hasEndpoint with
  | false =>
      simp only [hendpoint, Bool.not_false, ↓reduceIte] at h
      obtain ⟨rfl, rfl⟩ := trace_done_iff.1 h
      exact .skipped (by simp [hendpoint])
  | true =>
      simp only [hendpoint, Bool.not_true, Bool.false_eq_true, ↓reduceIte] at h
      cases hdashboard : settings.hasDashboard with
      | false =>
          simp only [hdashboard, Bool.false_eq_true, ↓reduceIte] at h
          have hreturned := calls_log_iff.1 h
          obtain ⟨rfl, rfl⟩ := trace_done_iff.1 hreturned
          exact .skipped (by simp [hdashboard])
      | true =>
          simp only [hdashboard, ↓reduceIte] at h
          obtain ⟨reply, rfl, rfl⟩ := calls_registration h
          exact .asked reply (by simp [hendpoint, hdashboard])

/-- What a cycle changes of the monitor does not matter for the dashboard. -/
theorem DashboardCalls.of_follows {next : Monitor} {dashboardId : Option String}
    (h : DashboardCalls settings next calls dashboardId) (hfollows : monitor.Follows next) :
    DashboardCalls settings monitor calls dashboardId := by
  obtain ⟨status, version, rfl⟩ := hfollows
  cases h with
  | skipped hskips => exact .skipped hskips
  | asked reply hasks => exact .asked reply hasks

/-- The count at the end of a cycle is no call. -/
theorem calls_counting_iff {counted result : Monitor × Except Fault Outcome} :
    Calls (counting counted) calls result ↔ calls = [] ∧ result = counted := by
  unfold counting
  split
  · exact calls_count_iff.trans trace_done_iff
  · exact trace_done_iff

/-- The steps from the version step on look the version up, write the status, and register the
endpoint if the status could be written. -/
theorem calls_recordAndRegister {credentials : Option Credentials} {action : WorkloadAction}
    {result : Monitor × Except Fault Outcome}
    (h : Calls (recordAndRegister settings monitor credentials action) calls result) :
    ∃ version lookup record time,
      VersionCalls settings monitor credentials version (lookup, record) ∧
      ((∃ fault,
          calls = version ++ [⟨.updateStatus (monitor.stamped record time), .error fault⟩] ∧
          result = (monitor.stamped record time, .error (statusFault fault))) ∨
        ∃ adopted dashboard dashboardId,
          calls = version ++
            ⟨.updateStatus (monitor.stamped record time), .ok adopted⟩ :: dashboard ∧
          DashboardCalls settings monitor dashboard dashboardId ∧
          result = ((monitor.stamped record time).adopting adopted,
            .ok { action, lookup, version := record, dashboardId })) := by
  obtain ⟨⟨lookup, record⟩, version, rest, rfl, hversion, hrest⟩ := trace_bind_iff.1 h
  obtain ⟨written, status, last, rfl, hstatus, hlast⟩ := trace_bind_iff.1 hrest
  obtain ⟨time, reply, rfl, rfl⟩ := calls_statusStep hstatus
  refine ⟨version, lookup, record, time, calls_versionStep hversion, ?_⟩
  cases reply with
  | error fault =>
      obtain ⟨rfl, rfl⟩ := trace_done_iff.1 hlast
      exact .inl ⟨fault, rfl, rfl⟩
  | ok adopted =>
      obtain ⟨dashboardId, dashboard, ending, rfl, hdashboard, hending⟩ := trace_bind_iff.1 hlast
      obtain ⟨rfl, rfl⟩ := trace_done_iff.1 hending
      have hfollows : monitor.Follows ((monitor.stamped record time).adopting adopted) :=
        (Monitor.Follows.stamped monitor record time).trans (.adopting _ adopted)
      refine .inr ⟨adopted, dashboard, dashboardId, ?_,
        (calls_dashboardStep hdashboard).of_follows hfollows, rfl⟩
      simp

/-- The steps before the version step provision the credentials, then the properties, and converge
if both could be provisioned. -/
theorem calls_provisionAndConverge
    {result : Except Fault (Option Credentials × WorkloadAction)}
    (h : Calls (provisionAndConverge monitor).outcome calls result) :
    (∃ fault, calls = [⟨.provisionCredentials monitor, .error fault⟩] ∧
        result = .error (provisioningFault "credentials" fault)) ∨
      ∃ credentials properties rest,
        calls = ⟨.provisionCredentials monitor, .ok credentials⟩ :: (properties ++ rest) ∧
        ((∃ fault, PropertiesCalls monitor properties (.error fault) ∧ rest = [] ∧
            result = .error fault) ∨
          ∃ action, PropertiesCalls monitor properties (.ok ()) ∧
            WorkloadCalls monitor rest action ∧ result = action.map (credentials, ·)) := by
  rcases Task.trace_bind_iff.1 h with
    ⟨fault, rfl, hcredentials⟩ | ⟨credentials, first, later, rfl, hcredentials, hlater⟩
  · obtain ⟨reply, rfl, hreply⟩ := calls_credentialsStep_iff.1 hcredentials
    cases reply with
    | ok credentials => cases hreply
    | error cause =>
        obtain rfl := Except.error.inj hreply
        exact .inl ⟨cause, rfl, rfl⟩
  obtain ⟨reply, rfl, hreply⟩ := calls_credentialsStep_iff.1 hcredentials
  cases reply with
  | error cause => cases hreply
  | ok provisioned =>
      obtain rfl := Except.ok.inj hreply
      rcases Task.trace_bind_iff.1 hlater with
        ⟨fault, rfl, hproperties⟩ | ⟨⟨⟩, properties, workload, rfl, hproperties, hpaired⟩
      · exact .inr ⟨credentials, later, [], by simp,
          .inl ⟨fault, calls_propertiesStep hproperties, rfl, rfl⟩⟩
      · obtain ⟨action, rfl, hworkload⟩ := Task.trace_map_iff.1 hpaired
        exact .inr ⟨credentials, properties, workload, rfl,
          .inr ⟨action, calls_propertiesStep hproperties, calls_workloadStep hworkload, rfl⟩⟩

/-- The calls of a cycle are those of one of its courses. -/
theorem calls_reconcile {next : Monitor} {outcome : Except Fault Outcome}
    (h : Calls (reconcile settings monitor) calls (next, outcome)) :
    Course settings monitor calls next outcome := by
  rw [reconcile_eq] at h
  obtain ⟨converged, first, rest, rfl, hfirst, hrest⟩ := trace_bind_iff.1 h
  obtain ⟨concluded, middle, last, rfl, hmiddle, hlast⟩ := trace_bind_iff.1 hrest
  obtain ⟨rfl, rfl⟩ := calls_counting_iff.1 hlast
  rw [List.append_nil]
  rcases calls_provisionAndConverge hfirst with ⟨fault, rfl, rfl⟩ |
    ⟨credentials, properties, workload, rfl, ⟨fault, hproperties, rfl, rfl⟩ |
      ⟨action, hproperties, hworkload, rfl⟩⟩
  · -- A fault of these steps is the end of the cycle, so nothing else is called.
    obtain ⟨rfl, hconcluded⟩ := trace_done_iff.1 hmiddle
    obtain ⟨rfl, rfl⟩ := Prod.mk.inj hconcluded
    exact .withoutCredentials fault
  · obtain ⟨rfl, hconcluded⟩ := trace_done_iff.1 hmiddle
    obtain ⟨rfl, rfl⟩ := Prod.mk.inj hconcluded
    rw [List.append_nil, List.append_nil]
    exact .withoutProperties credentials hproperties
  cases action with
  | error fault =>
      obtain ⟨rfl, hconcluded⟩ := trace_done_iff.1 hmiddle
      obtain ⟨rfl, rfl⟩ := Prod.mk.inj hconcluded
      rw [List.append_nil]
      exact .unconverged credentials hproperties hworkload
  | ok action =>
      obtain ⟨version, lookup, record, time, hversion, hending⟩ := calls_recordAndRegister hmiddle
      rcases hending with
        ⟨fault, rfl, hresult⟩ | ⟨adopted, dashboard, dashboardId, rfl, hdashboard, hresult⟩
      · obtain ⟨rfl, rfl⟩ := Prod.mk.inj hresult
        have hcourse := Course.unrecorded time fault hproperties hworkload hversion
        simpa using hcourse
      · obtain ⟨rfl, rfl⟩ := Prod.mk.inj hresult
        have hcourse := Course.completed time adopted hproperties hworkload hversion hdashboard
        simpa using hcourse

end Steps

/-- The calls that a cycle makes of collaborators that serve it from a state. -/
def cycleCalls {σ : Type} (settings : Settings) (monitor : Monitor)
    (serve : (request : collaborators.Request) → StateM σ (collaborators.Reply request)) (start : σ) :
    List (Event collaborators) :=
  Process.observed serve CycleRequest.isCall (reconcile settings monitor) start

/-- Whatever the collaborators reply, a cycle takes one of its courses. -/
theorem course_cycleCalls {σ : Type} (settings : Settings) (monitor : Monitor)
    (serve : (request : collaborators.Request) → StateM σ (collaborators.Reply request)) (start : σ) :
    Course settings monitor (cycleCalls settings monitor serve start)
      (Process.run serve (reconcile settings monitor) start).1.1
      (Process.run serve (reconcile settings monitor) start).1.2 :=
  calls_reconcile (Process.trace_observed serve CycleRequest.isCall _ start)

section Convergence

variable {settings : Settings} {monitor next : Monitor} {calls : List (Event collaborators)}
  {outcome : Except Fault Outcome}

/-- A single event that is not about a workload. -/
theorem Apart.single {event : Event collaborators}
    (h : event.request.isAboutWorkload = false) : Apart [event] := by
  simpa [Apart] using h

/-- None of the calls of the properties step is about a workload. -/
theorem PropertiesCalls.apart {result : Except Fault Unit}
    (h : PropertiesCalls monitor calls result) : Apart calls := by
  cases h <;> simp [Apart, CycleRequest.isAboutWorkload]

/-- None of the calls of the version step is about a workload. -/
theorem VersionCalls.apart {credentials : Option Credentials}
    {result : VersionLookup × Option VersionRecord}
    (h : VersionCalls settings monitor credentials calls result) : Apart calls := by
  cases h <;> simp [Apart, CycleRequest.isAboutWorkload]

/-- None of the calls of the dashboard step is about a workload. -/
theorem DashboardCalls.apart {result : Option String}
    (h : DashboardCalls settings monitor calls result) : Apart calls := by
  cases h <;> simp [Apart, CycleRequest.isAboutWorkload]

/-- All calls of a convergence are about workloads. -/
theorem ConvergeCalls.aboutWorkload_eq {desired : Workload} {result : Except Fault Convergence}
    (h : ConvergeCalls desired calls result) : aboutWorkload calls = calls := by
  cases h <;> rfl

/-- The workload step fails without a call about a workload, or it converges to what it could
build. -/
theorem WorkloadCalls.apart_or_converges {result : Except Fault WorkloadAction}
    (h : WorkloadCalls monitor calls result) :
    (Apart calls ∧ ∃ fault, result = .error fault) ∨
      ∃ clusterId desired core converged, calls = ⟨.clusterId, .ok clusterId⟩ :: core ∧
        monitor.desiredWorkload clusterId = .ok desired ∧ ConvergeCalls desired core converged ∧
        result = (converged.map (·.action)).mapError workloadFault := by
  cases h with
  | unidentified fault => exact .inl ⟨.single rfl, _, rfl⟩
  | unbuilt => exact .inl ⟨.single rfl, _, rfl⟩
  | built hbuilt hconverge => exact .inr ⟨_, _, _, _, rfl, hbuilt, hconverge, rfl⟩

/-- The first steps of a cycle fail before they know what to converge to, or they converge. -/
theorem converges_of_provisionAndConverge
    {result : Except Fault (Option Credentials × WorkloadAction)}
    (h : Calls (provisionAndConverge monitor).outcome calls result) :
    (Apart calls ∧ ∃ fault, result = .error fault) ∨
      ∃ credentials clusterId desired converged, ⟨.clusterId, .ok clusterId⟩ ∈ calls ∧
        monitor.desiredWorkload clusterId = .ok desired ∧
        ConvergeCalls desired (aboutWorkload calls) converged ∧
        result = ((converged.map (·.action)).mapError workloadFault).map (credentials, ·) := by
  rcases calls_provisionAndConverge h with ⟨fault, rfl, rfl⟩ |
    ⟨credentials, properties, rest, rfl, ⟨fault, hproperties, rfl, rfl⟩ |
      ⟨action, hproperties, hworkload, rfl⟩⟩
  · exact .inl ⟨.single rfl, _, rfl⟩
  · exact .inl ⟨.append (.single rfl) (hproperties.apart.append (by simp [Apart])), fault, rfl⟩
  rcases hworkload.apart_or_converges with ⟨hapart, fault, rfl⟩ |
    ⟨clusterId, desired, core, converged, rfl, hbuilt, hconverge, rfl⟩
  · exact .inl ⟨.append (.single rfl) (hproperties.apart.append hapart), fault, rfl⟩
  · refine .inr ⟨credentials, clusterId, desired, converged, by simp, hbuilt, ?_, rfl⟩
    have hcore : aboutWorkload (⟨.provisionCredentials monitor, .ok credentials⟩ ::
        (properties ++ ⟨.clusterId, .ok clusterId⟩ :: core)) = core := by
      simp only [aboutWorkload_cons, aboutWorkload_append, CycleRequest.isAboutWorkload,
        Bool.false_eq_true, ↓reduceIte, aboutWorkload_eq_nil_iff.2 hproperties.apart,
        List.nil_append, hconverge.aboutWorkload_eq]
    rwa [hcore]

/-- An event about a workload between events that are not is one of those in the middle. -/
theorem Apart.split_append {before core after earlier later : List (Event collaborators)}
    {event : Event collaborators} (hbefore : Apart before) (hafter : Apart after)
    (habout : event.request.isAboutWorkload = true)
    (h : before ++ (core ++ after) = earlier ++ event :: later) :
    ∃ start finish, earlier = before ++ start ∧ later = finish ++ after ∧
      core = start ++ event :: finish := by
  have hnot {events : List (Event collaborators)} (hapart : Apart events) : event ∉ events := by
    intro hmem
    simp [hapart event hmem] at habout
  -- First what comes before is cut off, and then what comes after.
  obtain ⟨start, rfl, hrest⟩ :
      ∃ start, earlier = before ++ start ∧ core ++ after = start ++ event :: later := by
    rcases List.append_eq_append_iff.1 h with ⟨start, hstart, hrest⟩ | ⟨gap, rfl, hgap⟩
    · exact ⟨start, hstart, hrest⟩
    cases gap with
    | nil => exact ⟨[], by simp, by simpa using hgap.symm⟩
    | cons first gap =>
        obtain ⟨rfl, -⟩ := List.cons.inj hgap
        exact absurd (by simp) (hnot hbefore)
  rcases List.append_eq_append_iff.1 hrest with ⟨gap, -, rfl⟩ | ⟨gap, rfl, hgap⟩
  · exact absurd (by simp) (hnot hafter)
  cases gap with
  | nil =>
      obtain rfl : event :: later = after := hgap
      exact absurd (by simp) (hnot hafter)
  | cons first gap =>
      obtain ⟨rfl, rfl⟩ := List.cons.inj hgap
      exact ⟨start, gap, rfl, rfl, rfl⟩

/-- Where the calls of a cycle that are about workloads are: nowhere, or in the convergence to the
workload that could be built, after everything was provisioned. -/
inductive Convergent (monitor : Monitor) : List (Event collaborators) → Prop where
  | apart {calls : List (Event collaborators)} : Apart calls → Convergent monitor calls
  | converges {properties core after : List (Event collaborators)} {clusterId : String}
      {desired : Workload} {converged : Except Fault Convergence}
      (credentials : Option Credentials) :
      PropertiesCalls monitor properties (.ok ()) →
      monitor.desiredWorkload clusterId = .ok desired →
      ConvergeCalls desired core converged → Apart after →
      Convergent monitor
        (⟨.provisionCredentials monitor, .ok credentials⟩ ::
          (properties ++ ⟨.clusterId, .ok clusterId⟩ :: (core ++ after)))

/-- A cycle that comes to the workload step converges there or nowhere. -/
theorem WorkloadCalls.convergent {properties after : List (Event collaborators)}
    {result : Except Fault WorkloadAction} (h : WorkloadCalls monitor calls result)
    (credentials : Option Credentials) (hproperties : PropertiesCalls monitor properties (.ok ()))
    (hafter : Apart after) :
    Convergent monitor
      (⟨.provisionCredentials monitor, .ok credentials⟩ :: (properties ++ (calls ++ after))) := by
  have hfirst : Apart [⟨.provisionCredentials monitor, .ok credentials⟩] := .single rfl
  rcases h.apart_or_converges with ⟨hapart, -⟩ | ⟨_, _, _, _, rfl, hbuilt, hconverge, -⟩
  · exact .apart (hfirst.append (hproperties.apart.append (hapart.append hafter)))
  · exact .converges credentials hproperties hbuilt hconverge hafter

/-- The calls of a cycle converge once at most. -/
theorem Course.convergent (h : Course settings monitor calls next outcome) :
    Convergent monitor calls := by
  cases h with
  | withoutCredentials fault => exact .apart (.single rfl)
  | withoutProperties credentials hproperties =>
      exact .apart (.append (.single rfl) hproperties.apart)
  | @unconverged properties workload _ credentials hproperties hworkload =>
      simpa using hworkload.convergent credentials hproperties (by simp [Apart] : Apart [])
  | unrecorded time fault hproperties hworkload hversion =>
      exact hworkload.convergent _ hproperties (hversion.apart.append (.single rfl))
  | completed time adopted hproperties hworkload hversion hdashboard =>
      exact hworkload.convergent _ hproperties
        (hversion.apart.append (.append (.single rfl) hdashboard.apart))

/-- What comes before and after a call about a workload. -/
theorem Convergent.of_workload_call {earlier later : List (Event collaborators)}
    {event : Event collaborators} (h : Convergent monitor (earlier ++ event :: later))
    (habout : event.request.isAboutWorkload = true) :
    ∃ credentials properties clusterId desired start finish after converged,
      earlier = ⟨.provisionCredentials monitor, .ok credentials⟩ ::
        (properties ++ ⟨.clusterId, .ok clusterId⟩ :: start) ∧
      later = finish ++ after ∧ PropertiesCalls monitor properties (.ok ()) ∧
      monitor.desiredWorkload clusterId = .ok desired ∧
      ConvergeCalls desired (start ++ event :: finish) converged := by
  generalize hcalls : earlier ++ event :: later = calls at h
  cases h with
  | apart hapart =>
      have hevent := hapart event (by simp [← hcalls])
      simp [hevent] at habout
  | @converges properties core after clusterId desired converged credentials hproperties hbuilt
      hconverge hafter =>
      let before := ⟨.provisionCredentials monitor, .ok credentials⟩ ::
        (properties ++ [⟨.clusterId, .ok clusterId⟩])
      have hbefore : Apart before :=
        .append (.single rfl) (hproperties.apart.append (.single rfl))
      obtain ⟨start, finish, rfl, rfl, rfl⟩ := hbefore.split_append hafter habout
        (by simp [before, hcalls] : before ++ (core ++ after) = earlier ++ event :: later)
      exact ⟨credentials, properties, clusterId, desired, start, finish, after, converged,
        by simp [before], rfl, hproperties, hbuilt, hconverge⟩

end Convergence

end MonitorOperator.Cycle
