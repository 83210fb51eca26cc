import MonitorOperator.Proofs.Cycle.RecordedVersion
import MonitorOperator.Proofs.Cycle.Reach

/-!
# Best-effort steps do not interfere

The version lookup and the registration with a dashboard are made by best effort: whatever comes of
them, a cycle does to the workload what it would do otherwise, ends the same way and writes the same
status but for the version. Two cycles are compared here whose collaborators differ in the best
effort alone (`beside`). Their early steps agree, request by request (`runs_early_agree`). What
follows is summed up by `Concludes`, which speaks of the collaborators that both cycles share, and
of the best effort only as events that change nothing.
-/

namespace MonitorOperator

/-- The monitors differ in the version of the image at most. -/
def Monitor.SameButVersion (monitor other : Monitor) : Prop :=
  ∃ version hash, other =
    { monitor with status := { monitor.status with imageVersion := version, imageHash := hash } }

/-- Stamps of one time differ in the version at most. -/
theorem Monitor.sameButVersion_stamped (monitor : Monitor) (version other : Option VersionRecord)
    (time : Moment) :
    (monitor.stamped version time).SameButVersion (monitor.stamped other time) := by
  cases other with
  | none => cases version <;> exact ⟨monitor.status.imageVersion, monitor.status.imageHash, rfl⟩
  | some record => cases version <;> exact ⟨record.version, record.hash, rfl⟩

namespace Cycle

open Process (Only Path Runs)

variable {σ τ : Type}

/-- The request is made by best effort, or only reports what happens. -/
def CycleRequest.isBestEffort : CycleRequest → Bool
  | resolveVersion _ _ => true
  | register _ => true
  | log _ => true
  | count _ => true
  | provisionCredentials _ => false
  | provisionProperties _ _ => false
  | clusterId => false
  | getWorkload _ _ => false
  | createWorkload _ => false
  | updateWorkload _ => false
  | updateStatus _ => false
  | now => false

/-- The request is a call of one of the steps up to the workload step. -/
def CycleRequest.isEarlyCall (request : CycleRequest) : Bool :=
  request.call?.any fun kind => !kind.isLate

/-- The collaborators of a cycle, of which those for the best effort have a state of their own. -/
def beside (shared : (request : collaborators.Request) → StateM σ (collaborators.Reply request))
    (own : (request : collaborators.Request) → StateM τ (collaborators.Reply request))
    (request : collaborators.Request) : StateM (σ × τ) (collaborators.Reply request) :=
  fun state =>
    if request.isBestEffort then
      ((own request state.2).1, state.1, (own request state.2).2)
    else ((shared request state.1).1, (shared request state.1).2, state.2)

/-- Whether a status is accepted, and what fault there is if not, does not depend on the version of
the image. -/
def VersionBlind
    (shared : (request : collaborators.Request) → StateM σ (collaborators.Reply request)) : Prop :=
  ∀ (monitor other : Monitor) (state : σ), monitor.SameButVersion other →
    (shared (.updateStatus monitor) state).1.map (fun _ => ()) =
      (shared (.updateStatus other) state).1.map fun _ => ()

/-- What a cycle does with collaborators that serve it from a state. -/
def CycleHistory.served (settings : Settings) (monitor : Monitor)
    (serve : (request : collaborators.Request) → StateM σ (collaborators.Reply request))
    (start : σ) : CycleHistory where
  settings := settings
  monitor := monitor
  events := Process.transcript serve (reconcile settings monitor) start
  next := (Process.run serve (reconcile settings monitor) start).1.1
  outcome := (Process.run serve (reconcile settings monitor) start).1.2
  path := Process.path_transcript serve (reconcile settings monitor) start

/-- Two cycles do the same, apart from their best effort. -/
structure Undisturbed (cycle other : CycleHistory) : Prop where
  /-- They make the same calls up to the workload step, and get the same replies. -/
  called : cycle.events.filter (·.request.isEarlyCall) = other.events.filter (·.request.isEarlyCall)
  /-- They raise the same fault, or they both return and did the same to the workload. -/
  ended : cycle.outcome.map (·.action) = other.outcome.map (·.action)
  /-- They both write a status, or none. -/
  writes : (∃ written reply, ⟨.updateStatus written, reply⟩ ∈ cycle.events) ↔
    ∃ written reply, ⟨.updateStatus written, reply⟩ ∈ other.events
  /-- The statuses that they write differ in the version of the image at most. -/
  written : ∀ written reply written' reply', ⟨.updateStatus written, reply⟩ ∈ cycle.events →
    ⟨.updateStatus written', reply'⟩ ∈ other.events → written.SameButVersion written'
  /-- If neither looks a version up, they write the same. -/
  unresolved : ¬ Resolves cycle.events → ¬ Resolves other.events → ∀ written reply written' reply',
    ⟨.updateStatus written, reply⟩ ∈ cycle.events →
    ⟨.updateStatus written', reply'⟩ ∈ other.events → written = written'

/-- All the events are of best effort. -/
def Spared (events : List (Event collaborators)) : Prop :=
  ∀ event ∈ events, event.request.isBestEffort = true

/-- A process that asks by best effort only. -/
abbrev Spares {α : Type} (process : Process collaborators α) : Prop :=
  Only (fun request : CycleRequest => request.isBestEffort = true) process

/-- The version step and the dashboard step are of best effort. -/
theorem Asks.spares {α : Type} {phase : Phase} {process : Process collaborators α}
    (h : Asks phase process) (hphase : phase = .version ∨ phase = .dashboard) :
    Spares process := by
  refine h.mono fun request hasks => ?_
  cases request with
  | resolveVersion | register | log | count => rfl
  | _ =>
      obtain rfl : phase = _ := hasks
      simp at hphase

section Concluding

variable {settings : Settings} {monitor : Monitor} {credentials : Option Credentials}
  {action : WorkloadAction}
  {shared : (request : collaborators.Request) → StateM σ (collaborators.Reply request)}
  {own : (request : collaborators.Request) → StateM τ (collaborators.Reply request)}
  {start finish : σ × τ} {events : List (Event collaborators)}

/-- What is of best effort leaves the state of the other collaborators as it is. -/
theorem Spares.keeps {α : Type} {process : Process collaborators α} {result : α}
    (h : Spares process) (hruns : Runs (beside shared own) process start events result finish) :
    finish.1 = start.1 := by
  refine hruns.keeps (fun state => state.1 = start.1) h (fun request state heffort hkept => ?_) rfl
  simpa [beside, heffort] using hkept

/-- The version step goes on without a version unless it looked one up. -/
theorem resolves_of_versionStep {result : VersionLookup × Option VersionRecord}
    (hpath : Path (versionStep settings monitor credentials) events (.done result))
    (hresolves : ¬ Resolves events) : result.2 = none := by
  have hcalls := calls_versionStep ⟨events, hpath, rfl⟩
  obtain ⟨lookup, record⟩ := result
  rcases hcalls.resolved_or with ⟨found, hfound, -, -⟩ | ⟨-, -, hrecord⟩
  · refine absurd ⟨_, List.mem_of_mem_filter (hfound ▸ List.mem_singleton_self _), ?_⟩ hresolves
    exact Option.some_ne_none found
  · exact hrecord

/-- What follows the early steps, by how they ended: nothing but a count if they failed, and
otherwise a status write, with a version if one was looked up, that decides how the cycle ends. -/
inductive Concludes
    (shared : (request : collaborators.Request) → StateM σ (collaborators.Reply request))
    (state : σ) (monitor : Monitor) :
    Except Fault (Option Credentials × WorkloadAction) → List (Event collaborators) →
      Except Fault Outcome → Prop where
  | failed {fault : Fault} {after : List (Event collaborators)} :
      Spared after → Concludes shared state monitor (.error fault) after (.error fault)
  | wrote {credentials : Option Credentials} {action : WorkloadAction}
      {front after : List (Event collaborators)} {outcome : Except Fault Outcome} {time : Moment}
      {reply : Except Fault Document} (record : Option VersionRecord) :
      time = (shared .now state).1 →
      reply = (shared (.updateStatus (monitor.stamped record time)) (shared .now state).2).1 →
      Spared front → Spared after → (¬ Resolves front → record = none) →
      outcome.map (·.action) = (reply.map fun _ => action).mapError statusFault →
      Concludes shared state monitor (.ok (credentials, action))
        (front ++ ⟨.now, time⟩ :: ⟨.updateStatus (monitor.stamped record time), reply⟩ :: after)
        outcome

/-- The status step gets its replies from the shared collaborators. -/
theorem runs_statusStep {version : Option VersionRecord} {result : Monitor × Except Fault Unit}
    (h : Runs (beside shared own) (statusStep monitor version) start events result finish) :
    ∃ time reply report, time = (shared .now start.1).1 ∧
      reply = (shared (.updateStatus (monitor.stamped version time)) (shared .now start.1).2).1 ∧
      events = ⟨.now, time⟩ :: ⟨.updateStatus (monitor.stamped version time), reply⟩ :: report ∧
      Spared report ∧ result = recorded (monitor.stamped version time) reply := by
  rw [statusStep_eq] at h
  obtain ⟨_, rfl, hwrite⟩ := Runs.call_iff.1 h
  obtain ⟨_, rfl, hlog⟩ := Runs.call_iff.1 hwrite
  obtain ⟨_, rfl, hdone⟩ := Runs.call_iff.1 hlog
  obtain ⟨rfl, rfl, -⟩ := Runs.done_iff.1 hdone
  exact ⟨_, _, _, rfl, rfl, rfl, by simp [Spared, CycleRequest.isBestEffort], rfl⟩

/-- What follows the early steps is decided by the shared collaborators. -/
theorem concludes_of_runs {result : Except Fault (Option Credentials × WorkloadAction)}
    {last : Monitor × Except Fault Outcome}
    (h : Runs (beside shared own) ((concluding settings monitor result).bind counting) start events
      last finish) :
    Concludes shared start.1 monitor result events last.2 := by
  obtain ⟨concluded, before, after, middle, rfl, hconcluding, hcounting⟩ := Runs.bind_iff.1 h
  have hcounted : Spared after :=
    hcounting.path.only ((asks_counting .version concluded).spares (.inl rfl))
  -- The count does not change the result.
  obtain ⟨-, rfl⟩ := calls_counting_iff.1 ⟨after, hcounting.path, rfl⟩
  match result with
  | .error fault =>
      obtain ⟨rfl, rfl, -⟩ := Runs.done_iff.1 hconcluding
      exact .failed hcounted
  | .ok (credentials, action) =>
      have hspares := (asks_versionStep settings monitor credentials).spares (.inl rfl)
      obtain ⟨version, front, _, state, rfl, hversion, hrest⟩ := Runs.bind_iff.1 hconcluding
      obtain ⟨_, _, dashboard, _, rfl, hstatus, hdashboard⟩ := Runs.bind_iff.1 hrest
      obtain ⟨time, reply, report, htime, hreply, rfl, hreport, rfl⟩ := runs_statusStep hstatus
      rw [hspares.keeps hversion] at htime hreply
      have hends : Spared dashboard ∧
          last.2.map (·.action) = (reply.map fun _ => action).mapError statusFault := by
        cases reply with
        | error fault =>
            obtain ⟨rfl, rfl, -⟩ := Runs.done_iff.1 hdashboard
            exact ⟨by simp [Spared], rfl⟩
        | ok adopted =>
            obtain ⟨_, registering, _, _, rfl, hregistering, hdone⟩ := Runs.bind_iff.1 hdashboard
            obtain ⟨rfl, rfl, -⟩ := Runs.done_iff.1 hdone
            have hregistered :=
              hregistering.path.only ((asks_dashboardStep settings _).spares (.inr rfl))
            exact ⟨by simpa [Spared] using hregistered, rfl⟩
      have hafter : Spared (report ++ (dashboard ++ after)) :=
        List.forall_mem_append.2 ⟨hreport, List.forall_mem_append.2 ⟨hends.1, hcounted⟩⟩
      have hwrote : Concludes shared start.1 monitor (.ok (credentials, action))
          (front ++ ⟨.now, time⟩ :: ⟨.updateStatus (monitor.stamped version.2 time), reply⟩ ::
            (report ++ (dashboard ++ after))) last.2 :=
        .wrote version.2 htime hreply (hversion.path.only hspares) hafter
          (resolves_of_versionStep hversion.path) hends.2
      simpa using hwrote

end Concluding

section Concludes

variable {monitor : Monitor} {state : σ} {events others : List (Event collaborators)}
  {shared : (request : collaborators.Request) → StateM σ (collaborators.Reply request)}
  {result : Except Fault (Option Credentials × WorkloadAction)}
  {outcome other : Except Fault Outcome}

/-- What is of best effort is no early call. -/
theorem Spared.filter_eq_nil (h : Spared events) :
    events.filter (·.request.isEarlyCall) = [] := by
  refine List.filter_eq_nil_iff.2 fun event hmem => ?_
  have hlate : ∀ request : CycleRequest, request.isBestEffort = true →
      request.isEarlyCall = false := by
    intro request heffort
    cases request <;> first | rfl | cases heffort
  simp [hlate event.request (h event hmem)]

/-- What is of best effort writes no status. -/
theorem Spared.updateStatus_notMem (h : Spared events) (written : Monitor)
    (reply : Except Fault Document) : ⟨.updateStatus written, reply⟩ ∉ events :=
  fun hmem => Bool.noConfusion (h _ hmem)

/-- After the early steps there is no early call. -/
theorem Concludes.filter_eq_nil (h : Concludes shared state monitor result events outcome) :
    events.filter (·.request.isEarlyCall) = [] := by
  cases h with
  | failed hafter => exact hafter.filter_eq_nil
  | wrote record htime hreply hfront hafter =>
      rw [List.filter_append, hfront.filter_eq_nil]
      exact hafter.filter_eq_nil

/-- The status is written if the early steps succeeded. -/
theorem Concludes.writes_iff (h : Concludes shared state monitor result events outcome) :
    (∃ written reply, ⟨.updateStatus written, reply⟩ ∈ events) ↔ result.isOk = true := by
  cases h with
  | failed hafter =>
      exact iff_of_false (fun ⟨written, reply, hmem⟩ => hafter.updateStatus_notMem _ _ hmem)
        Bool.false_ne_true
  | @wrote _ _ _ _ _ time reply record =>
      exact iff_of_true ⟨monitor.stamped record time, reply, by simp⟩ rfl

/-- The status that is written is the monitor's own, stamped with the time that all cycles have
there. -/
theorem Concludes.written_eq (h : Concludes shared state monitor result events outcome)
    {written : Monitor} {reply : Except Fault Document}
    (hmem : ⟨.updateStatus written, reply⟩ ∈ events) :
    ∃ record, written = monitor.stamped record (shared .now state).1 ∧
      (¬ Resolves events → record = none) := by
  cases h with
  | failed hafter => exact absurd hmem (hafter.updateStatus_notMem _ _)
  | wrote record htime _ hfront hafter hresolves =>
      simp [hfront.updateStatus_notMem, hafter.updateStatus_notMem] at hmem
      refine ⟨record, by rw [← htime, hmem.1], fun hunresolved => hresolves fun hfound => ?_⟩
      obtain ⟨event, hevent, hresolved⟩ := hfound
      exact hunresolved ⟨event, List.mem_append_left _ hevent, hresolved⟩

/-- How a cycle ends is decided by the early steps and the reply to the status write. -/
theorem Concludes.ended (hblind : VersionBlind shared)
    (h : Concludes shared state monitor result events outcome)
    (hother : Concludes shared state monitor result others other) :
    outcome.map (·.action) = other.map (·.action) := by
  cases h with
  | failed =>
      cases hother with
      | failed => rfl
  | @wrote _ action _ _ _ time reply record htime hreply _ _ _ houtcome =>
      cases hother with
      | @wrote _ _ _ _ _ time' reply' record' htime' hreply' _ _ _ hother =>
          have hsame : reply.map (fun _ => ()) = reply'.map fun _ => () := by
            rw [hreply, hreply', htime, htime']
            exact hblind _ _ _ (monitor.sameButVersion_stamped record record' _)
          have haction : (reply.map fun _ => action) = reply'.map fun _ => action := by
            cases reply <;> cases reply' <;> cases hsame <;> rfl
          rw [houtcome, hother, haction]

/-- Cycles with the same early events, which conclude from one state of the shared collaborators, do
the same apart from the best effort. -/
theorem Concludes.undisturbed {cycle twin : CycleHistory} {first : List (Event collaborators)}
    (hblind : VersionBlind shared)
    (hunwritten : ∀ written reply, ⟨.updateStatus written, reply⟩ ∉ first)
    (hevents : cycle.events = first ++ events) (htwin : twin.events = first ++ others)
    (h : Concludes shared state monitor result events cycle.outcome)
    (hother : Concludes shared state monitor result others twin.outcome) :
    Undisturbed cycle twin := by
  have hmem_iff {later : List (Event collaborators)} (written : Monitor)
      (reply : Except Fault Document) :
      ⟨.updateStatus written, reply⟩ ∈ first ++ later ↔ ⟨.updateStatus written, reply⟩ ∈ later := by
    simp [hunwritten]
  constructor
  case called =>
    rw [hevents, htwin, List.filter_append, List.filter_append, h.filter_eq_nil,
      hother.filter_eq_nil]
  case ended => exact h.ended hblind hother
  case writes =>
    simp only [hevents, htwin, hmem_iff, h.writes_iff, hother.writes_iff]
  case written =>
    intro written reply written' reply' hmem hmem'
    rw [hevents, hmem_iff] at hmem
    rw [htwin, hmem_iff] at hmem'
    obtain ⟨record, rfl, -⟩ := h.written_eq hmem
    obtain ⟨record', rfl, -⟩ := hother.written_eq hmem'
    exact monitor.sameButVersion_stamped record record' _
  case unresolved =>
    intro hunresolved hunresolved' written reply written' reply' hmem hmem'
    rw [hevents] at hunresolved hmem
    rw [htwin] at hunresolved' hmem'
    have hlater {later : List (Event collaborators)} (hunresolved : ¬ Resolves (first ++ later)) :
        ¬ Resolves later :=
      fun ⟨event, hmem, hfound⟩ => hunresolved ⟨event, List.mem_append_right first hmem, hfound⟩
    obtain ⟨record, rfl, hrecord⟩ := h.written_eq ((hmem_iff _ _).1 hmem)
    obtain ⟨record', rfl, hrecord'⟩ := hother.written_eq ((hmem_iff _ _).1 hmem')
    rw [hrecord (hlater hunresolved), hrecord' (hlater hunresolved')]

end Concludes

section Undisturbed

variable {τ' : Type} {settings : Settings} {monitor : Monitor}
  {shared : (request : collaborators.Request) → StateM σ (collaborators.Reply request)}
  {own : (request : collaborators.Request) → StateM τ (collaborators.Reply request)}
  {own' : (request : collaborators.Request) → StateM τ' (collaborators.Reply request)}
  {start finish : σ × τ} {start' finish' : σ × τ'} {events events' : List (Event collaborators)}

/-- Early requests get the same replies, whatever is made of the best effort. -/
theorem runs_early_agree {α : Type} {process : Process collaborators α} {result result' : α}
    (hearly : Asks .early process)
    (h : Runs (beside shared own) process start events result finish)
    (h' : Runs (beside shared own') process start' events' result' finish')
    (hstart : start.1 = start'.1) :
    events = events' ∧ result = result' ∧ finish.1 = finish'.1 := by
  refine h.agree (fun state state' => state.1 = state'.1) h' hearly ?_ hstart
  intro request state state' hrequest hrelated
  cases request with
  | resolveVersion | register | updateStatus | now => cases hrequest
  | log | count => exact ⟨rfl, by simpa [beside, CycleRequest.isBestEffort] using hrelated⟩
  | _ => simp [beside, CycleRequest.isBestEffort, hrelated]

/-- A cycle goes through the early steps, and then goes on as they call for. -/
theorem runs_reconcile {last : Monitor × Except Fault Outcome}
    (h : Runs (beside shared own) (reconcile settings monitor) start events last finish) :
    ∃ result first rest middle, events = first ++ rest ∧
      Runs (beside shared own) (provisionAndConverge monitor).outcome start first result middle ∧
      Concludes shared middle.1 monitor result rest last.2 := by
  rw [reconcile_eq] at h
  obtain ⟨result, first, rest, middle, rfl, hfirst, hrest⟩ := Runs.bind_iff.1 h
  exact ⟨result, first, rest, middle, rfl, hfirst, concludes_of_runs hrest⟩

end Undisturbed

/-- Two cycles of a monitor, with collaborators that differ in the best effort at most, do the same
apart from it, if the status is accepted whatever version is in it. Versions may be looked up in one
cycle and not in the other, and there may be a dashboard in one and not in the other. -/
theorem best_effort_undisturbing {τ' : Type} (settings settings' : Settings) (monitor : Monitor)
    (shared : (request : collaborators.Request) → StateM σ (collaborators.Reply request))
    (own : (request : collaborators.Request) → StateM τ (collaborators.Reply request))
    (own' : (request : collaborators.Request) → StateM τ' (collaborators.Reply request))
    (state : σ) (side : τ) (side' : τ') (h : VersionBlind shared) :
    Undisturbed (CycleHistory.served settings monitor (beside shared own) (state, side))
      (CycleHistory.served settings' monitor (beside shared own') (state, side')) := by
  obtain ⟨result, first, rest, middle, hevents, hfirst, hrest⟩ :=
    runs_reconcile (Runs.of_run (beside shared own) (reconcile settings monitor) (state, side))
  obtain ⟨result', first', rest', middle', hevents', hfirst', hrest'⟩ :=
    runs_reconcile (Runs.of_run (beside shared own') (reconcile settings' monitor) (state, side'))
  have hearly := asks_provisionAndConverge monitor
  obtain ⟨rfl, rfl, hmiddle⟩ := runs_early_agree hearly hfirst hfirst' rfl
  rw [← hmiddle] at hrest'
  have hunwritten (written : Monitor) (reply : Except Fault Document) :
      ⟨.updateStatus written, reply⟩ ∉ first :=
    fun hmem => Phase.noConfusion (hfirst.path.only hearly _ hmem)
  exact Concludes.undisturbed h hunwritten hevents hevents' hrest hrest'

/-- A cycle returns if none of its calls fails for good. -/
theorem CycleHistory.exists_outcome {cycle : CycleHistory}
    (h : Passes cycle.monitor cycle.run.calls) : ∃ result, cycle.outcome = .ok result :=
  (calls_reconcile cycle.run.made).classified.returned h

/-- A cycle with obliging collaborators returns, whatever the resolver replies. -/
theorem exists_outcome_obliging (settings : Settings) (version other : Except Fault VersionRecord) :
    ∃ result, (CycleHistory.served settings Monitor.plain
      (beside (obliging version) (obliging other)) ((), ())).outcome = .ok result := by
  refine CycleHistory.exists_outcome fun event hmem step cause hfails => ?_
  have hevent : event ∈ Process.transcript _ _ _ := List.mem_of_mem_filter hmem
  obtain ⟨state, hreply⟩ := Process.exists_of_mem_transcript _ hevent
  obtain ⟨desired, hbuilt⟩ := Monitor.exists_desiredWorkload_plain "c"
  cases hfails with
  | build hunbuilt =>
      cases hreply
      cases hbuilt.symm.trans hunbuilt
  | read hkind =>
      cases hreply
      exact hkind rfl
  | _ => cases hreply

/-- A cycle that returns has asked for the version, unless it was told not to. -/
theorem CycleHistory.exists_resolveVersion {cycle : CycleHistory} {result : Outcome}
    (h : cycle.outcome = .ok result) (henabled : cycle.settings.disableVersionUpdates = false) :
    ∃ image credentials reply, ⟨.resolveVersion image credentials, reply⟩ ∈ cycle.events := by
  have hkeeps : KeepsTo (schedule cycle.settings cycle.monitor) cycle.run.calls
      (cycle.outcome.map (·.action)) := (calls_reconcile cycle.run.made).keepsTo
  rw [h] at hkeeps
  have hkinds : kinds cycle.run.calls =
      schedule cycle.settings cycle.monitor result.action := hkeeps
  have hresolve : .resolve ∈ kinds cycle.run.calls := by
    simp [hkinds, schedule, versionSchedule, henabled]
  obtain ⟨⟨request, reply⟩, hmem, hkind⟩ := List.mem_filterMap.1 hresolve
  cases request with
  | resolveVersion image credentials =>
      exact ⟨image, credentials, reply, List.mem_of_mem_filter hmem⟩
  | _ => cases hkind

/-- A lookup that fails leaves everything as it would be with one that finds a version. -/
theorem best_effort_undisturbing_degraded :
    ∃ resolved degraded : CycleHistory, Undisturbed resolved degraded ∧
      (∃ result, resolved.outcome = .ok result) ∧ (∃ result, degraded.outcome = .ok result) ∧
      Resolves resolved.events ∧ ¬ Resolves degraded.events := by
  let found : Except Fault VersionRecord := .ok ⟨.text "2.0", .text "sha256:new"⟩
  let failed : Except Fault VersionRecord := .error (.lower .runtime)
  have hblind : VersionBlind (obliging failed) := fun _ _ _ _ => rfl
  obtain ⟨result, hresult⟩ := exists_outcome_obliging {} failed found
  refine ⟨_, _, best_effort_undisturbing {} {} Monitor.plain (obliging failed) (obliging found)
    (obliging failed) () () () hblind, ⟨result, hresult⟩, exists_outcome_obliging {} failed failed,
    ?_, ?_⟩
  · obtain ⟨image, credentials, reply, hmem⟩ := CycleHistory.exists_resolveVersion hresult rfl
    obtain ⟨state, hreply⟩ := Process.exists_of_mem_transcript _ hmem
    refine ⟨_, hmem, ?_⟩
    cases hreply
    exact Option.some_ne_none _
  · rintro ⟨event, hmem, hfound⟩
    obtain ⟨state, hreply⟩ := Process.exists_of_mem_transcript _ hmem
    obtain ⟨request, reply⟩ := event
    cases request with
    | resolveVersion image credentials =>
        cases hreply
        exact hfound rfl
    | _ => exact hfound rfl

end Cycle

end MonitorOperator
