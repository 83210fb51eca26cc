import MonitorOperator.Proofs.Cycle.FailFast

/-!
# Cycles one after the other

A monitor goes through any number of cycles, each on the monitor that the one before it left. What a
part of the monitor is at any time is what the calls so far told of it last (`Tracks`). This is
shown of a single cycle by how it ends (`Closes`), and holds then of all of them together
(`Succession.tracks`).
-/

namespace MonitorOperator.Cycle

open Process (Path)

/-- A cycle, with what went into it, the calls that it made, and what came out of it. -/
structure CycleRun where
  settings : Settings
  monitor : Monitor
  calls : List (Event collaborators)
  next : Monitor
  outcome : Except Fault Outcome
  made : Calls (reconcile settings monitor) calls (next, outcome)

/-- A cycle, with everything that it did until it came to its end: besides its calls, what it logged
and counted. -/
structure CycleHistory where
  settings : Settings
  monitor : Monitor
  events : List (Event collaborators)
  next : Monitor
  outcome : Except Fault Outcome
  path : Path (reconcile settings monitor) events (.done (next, outcome))

/-- The cycle with its calls alone. -/
def CycleHistory.run (cycle : CycleHistory) : CycleRun where
  settings := cycle.settings
  monitor := cycle.monitor
  calls := cycle.events.filter (·.request.isCall)
  next := cycle.next
  outcome := cycle.outcome
  made := ⟨cycle.events, cycle.path, rfl⟩

/-- What the cycles did, in order. -/
def eventsOf (cycles : List CycleHistory) : List (Event collaborators) :=
  cycles.flatMap CycleHistory.events

@[simp] theorem eventsOf_nil : eventsOf [] = [] := rfl

@[simp] theorem eventsOf_cons (cycle : CycleHistory) (cycles : List CycleHistory) :
    eventsOf (cycle :: cycles) = cycle.events ++ eventsOf cycles := rfl

/-- Cycles of one monitor: each begins with what the one before it left. -/
inductive Succession : Monitor → List CycleRun → Monitor → Prop where
  | nil (monitor : Monitor) : Succession monitor [] monitor
  | cons (run : CycleRun) {runs : List CycleRun} {finish : Monitor} :
      Succession run.next runs finish → Succession run.monitor (run :: runs) finish

/-- Cycles one after the other, with their settings. Returns the monitor in the end. -/
def cycles : List Settings → Monitor → Process collaborators Monitor
  | [], monitor => .done monitor
  | settings :: others, monitor =>
      (reconcile settings monitor).bind fun result => cycles others result.1

/-- The calls of cycles, in order. -/
def callsOf (runs : List CycleRun) : List (Event collaborators) :=
  runs.flatMap CycleRun.calls

@[simp] theorem callsOf_nil : callsOf [] = [] := rfl

@[simp] theorem callsOf_cons (run : CycleRun) (runs : List CycleRun) :
    callsOf (run :: runs) = run.calls ++ callsOf runs := rfl

@[simp] theorem callsOf_append (earlier later : List CycleRun) :
    callsOf (earlier ++ later) = callsOf earlier ++ callsOf later :=
  List.flatMap_append

section Latest

variable {β : Type} {tells : Event collaborators → Option β} {known : β}

/-- What is known after events, each of which tells something new or nothing. -/
def latest (tells : Event collaborators → Option β) (known : β)
    (events : List (Event collaborators)) : β :=
  events.foldl (fun known event => (tells event).getD known) known

@[simp] theorem latest_nil : latest tells known [] = known := rfl

@[simp] theorem latest_cons (event : Event collaborators) (events : List (Event collaborators)) :
    latest tells known (event :: events) = latest tells ((tells event).getD known) events := rfl

@[simp] theorem latest_append (first second : List (Event collaborators)) :
    latest tells known (first ++ second) = latest tells (latest tells known first) second :=
  List.foldl_append

/-- Events that tell nothing but what is known leave it. -/
theorem latest_eq_of_forall {events : List (Event collaborators)}
    (h : ∀ event ∈ events, ∀ value, tells event = some value → value = known) :
    latest tells known events = known := by
  induction events with
  | nil => rfl
  | cons event events ih =>
      obtain ⟨hevent, hevents⟩ := List.forall_mem_cons.1 h
      have hsame : (tells event).getD known = known := by
        cases htold : tells event with
        | none => rfl
        | some value => exact hevent value htold
      rw [latest_cons, hsame, ih hevents]

/-- Events that tell nothing leave what is known. -/
theorem latest_of_silent {events : List (Event collaborators)}
    (h : ∀ event ∈ events, tells event = none) : latest tells known events = known :=
  latest_eq_of_forall fun event hmem value hvalue => by simp [h event hmem] at hvalue

/-- Events that are not looked at and tell nothing do not matter. -/
theorem latest_filter {looks : Event collaborators → Bool} {events : List (Event collaborators)}
    (h : ∀ event, looks event = false → tells event = none) :
    latest tells known (events.filter looks) = latest tells known events := by
  induction events generalizing known with
  | nil => rfl
  | cons event events ih =>
      cases hlooks : looks event with
      | true => simp [hlooks, ih]
      | false => simp [hlooks, h event hlooks, ih]

end Latest

/-- The calls are neither about the version of an image nor about the status. -/
def Quiet (calls : List (Event collaborators)) : Prop :=
  ∀ event ∈ calls, event.request.call? ≠ some .resolve ∧ event.request.call? ≠ some .status

/-- How a cycle ends: before the version step, with the monitor as it was, or with a status that is
written once after that step. -/
inductive Closes (settings : Settings) (monitor : Monitor) :
    List (Event collaborators) → Monitor → Except Fault Outcome → Prop where
  | unwritten {calls : List (Event collaborators)} {fault : Fault} :
      Quiet calls → Closes settings monitor calls monitor (.error fault)
  | written {front version after : List (Event collaborators)} {credentials : Option Credentials}
      {lookup : VersionLookup} {record : Option VersionRecord} {outcome : Except Fault Outcome}
      (time : Moment) (reply : Except Fault Document) :
      Quiet front → VersionCalls settings monitor credentials version (lookup, record) →
      Quiet after → outcome.map (·.lookup) = (reply.map fun _ => lookup).mapError statusFault →
      Closes settings monitor
        (front ++ (version ++ ⟨.updateStatus (monitor.stamped record time), reply⟩ :: after))
        (recorded (monitor.stamped record time) reply).1 outcome

section Cycle

variable {settings : Settings} {monitor next : Monitor} {calls : List (Event collaborators)}
  {outcome : Except Fault Outcome}

/-- Quiet calls stay so when others follow that are. -/
theorem Quiet.append {later : List (Event collaborators)} (hcalls : Quiet calls)
    (hlater : Quiet later) : Quiet (calls ++ later) :=
  List.forall_mem_append.2 ⟨hcalls, hlater⟩

/-- The first call of a cycle is quiet. -/
theorem quiet_provisionCredentials (reply : Except Fault (Option Credentials)) :
    Quiet [⟨.provisionCredentials monitor, reply⟩] := by
  simp [Quiet, CycleRequest.call?]

/-- The properties step is quiet. -/
theorem PropertiesCalls.quiet {result : Except Fault Unit}
    (h : PropertiesCalls monitor calls result) : Quiet calls := by
  cases h <;> simp [Quiet, CycleRequest.call?]

/-- A convergence is quiet. -/
theorem ConvergeCalls.quiet {desired : Workload} {result : Except Fault Convergence}
    (h : ConvergeCalls desired calls result) : Quiet calls := by
  cases h <;> simp [Quiet, CycleRequest.call?]

/-- The workload step is quiet. -/
theorem WorkloadCalls.quiet {result : Except Fault WorkloadAction}
    (h : WorkloadCalls monitor calls result) : Quiet calls := by
  cases h with
  | unidentified | unbuilt => simp [Quiet, CycleRequest.call?]
  | built _ hconverge =>
      exact List.forall_mem_cons.2 ⟨by simp [CycleRequest.call?], hconverge.quiet⟩

/-- The dashboard step is quiet. -/
theorem DashboardCalls.quiet {result : Option String}
    (h : DashboardCalls settings monitor calls result) : Quiet calls := by
  cases h <;> simp [Quiet, CycleRequest.call?]

/-- The steps before the version step are quiet. -/
theorem quiet_front (monitor : Monitor) (reply : Except Fault (Option Credentials))
    {properties workload : List (Event collaborators)} (hproperties : Quiet properties)
    (hworkload : Quiet workload) :
    Quiet (⟨.provisionCredentials monitor, reply⟩ :: (properties ++ workload)) :=
  (quiet_provisionCredentials reply).append (hproperties.append hworkload)

/-- A cycle that takes a course ends in one of the two ways. -/
theorem Course.closes (h : Course settings monitor calls next outcome) :
    Closes settings monitor calls next outcome := by
  cases h with
  | withoutCredentials fault => exact .unwritten (quiet_provisionCredentials _)
  | withoutProperties credentials hproperties =>
      exact .unwritten ((quiet_provisionCredentials _).append hproperties.quiet)
  | unconverged credentials hproperties hworkload =>
      exact .unwritten (quiet_front monitor _ hproperties.quiet hworkload.quiet)
  | @unrecorded _ _ _ _ _ _ credentials time fault hproperties hworkload hversion =>
      have hcloses : Closes settings monitor _ _ (.error (statusFault fault)) :=
        .written time (.error fault)
          (quiet_front monitor (.ok credentials) hproperties.quiet hworkload.quiet) hversion
          (by simp [Quiet] : Quiet []) rfl
      simpa [recorded] using hcloses
  | @completed _ _ _ _ action lookup record credentials dashboardId time adopted hproperties
      hworkload hversion hdashboard =>
      have hcloses : Closes settings monitor _ _
          (.ok { action, lookup, version := record, dashboardId }) :=
        .written time (.ok adopted)
          (quiet_front monitor (.ok credentials) hproperties.quiet hworkload.quiet) hversion
          hdashboard.quiet rfl
      simpa [recorded] using hcloses

/-- A cycle ends in one of the two ways. -/
theorem CycleRun.closes (run : CycleRun) :
    Closes run.settings run.monitor run.calls run.next run.outcome :=
  (calls_reconcile run.made).closes

/-- A cycle that does not write the status leaves the monitor as it was. -/
theorem Closes.next_eq (h : Closes settings monitor calls next outcome)
    (hunwritten : ∀ written reply, ⟨.updateStatus written, reply⟩ ∉ calls) : next = monitor := by
  cases h with
  | unwritten => rfl
  | written time reply =>
      exact absurd (List.mem_append_right _ (List.mem_append_right _ List.mem_cons_self))
        (hunwritten _ reply)

/-- The version step does not write the status. -/
theorem VersionCalls.updateStatus_notMem {credentials : Option Credentials}
    {result : VersionLookup × Option VersionRecord}
    (h : VersionCalls settings monitor credentials calls result) (written : Monitor)
    (reply : Except Fault Document) : ⟨.updateStatus written, reply⟩ ∉ calls := by
  cases h <;> simp

/-- Quiet calls do not write the status. -/
theorem Quiet.updateStatus_notMem (h : Quiet calls) (written : Monitor)
    (reply : Except Fault Document) : ⟨.updateStatus written, reply⟩ ∉ calls :=
  fun hmem => (h _ hmem).2 rfl

/-- A status write of a cycle is the one that it ends with. -/
theorem Closes.of_updateStatus {before after : List (Event collaborators)} {written : Monitor}
    {reply : Except Fault Document}
    (h : Closes settings monitor (before ++ ⟨.updateStatus written, reply⟩ :: after) next outcome) :
    ∃ front credentials version lookup record time,
      before = front ++ version ∧ Quiet front ∧ Quiet after ∧
      VersionCalls settings monitor credentials version (lookup, record) ∧
      written = monitor.stamped record time ∧ next = (recorded written reply).1 ∧
      outcome.map (·.lookup) = (reply.map fun _ => lookup).mapError statusFault := by
  generalize hcalls : before ++ ⟨.updateStatus written, reply⟩ :: after = calls at h
  cases h with
  | unwritten hquiet => exact absurd (by simp [← hcalls]) (hquiet.updateStatus_notMem written reply)
  | @written front version last credentials lookup record _ time other hfront hversion hlast
      houtcome =>
      have habsent : ⟨.updateStatus written, reply⟩ ∉ front ++ version := by
        simp [hfront.updateStatus_notMem, hversion.updateStatus_notMem]
      rw [← List.append_assoc] at hcalls
      obtain ⟨rfl, hevent, rfl⟩ :=
        (List.append_cons_inj_of_notMem habsent (hlast.updateStatus_notMem _ _)).1 hcalls.symm
      cases hevent
      exact ⟨front, credentials, version, lookup, record, time, rfl, hfront, hlast, hversion, rfl,
        rfl, houtcome⟩

end Cycle

/-- A part of a monitor is what the calls told of it last: when its status is written, and in the
end. -/
structure Tracks {β : Type} (part : Monitor → β) (tells : Event collaborators → Option β)
    (monitor : Monitor) (calls : List (Event collaborators)) (next : Monitor) : Prop where
  written : ∀ before written reply after, calls = before ++ ⟨.updateStatus written, reply⟩ :: after →
    part written = latest tells (part monitor) before
  left : part next = latest tells (part monitor) calls

section Tracks

variable {β : Type} {part : Monitor → β} {tells : Event collaborators → Option β}
  {settings : Settings} {monitor next finish : Monitor} {calls : List (Event collaborators)}
  {outcome : Except Fault Outcome} {runs : List CycleRun}

/-- A cycle tracks a part of its monitor if the version step does, and the reply to the status
write, and no other call tells anything. -/
theorem Closes.tracks (h : Closes settings monitor calls next outcome)
    (hquiet : ∀ calls, Quiet calls → ∀ event ∈ calls, tells event = none)
    (hversion : ∀ credentials version lookup record time,
      VersionCalls settings monitor credentials version (lookup, record) →
      part (monitor.stamped record time) = latest tells (part monitor) version)
    (hwrite : ∀ written reply,
      part (recorded written reply).1 = (tells ⟨.updateStatus written, reply⟩).getD (part written)) :
    Tracks part tells monitor calls next where
  written := by
    rintro before written reply after rfl
    obtain ⟨front, _, version, _, _, time, rfl, hfront, -, hcalls, rfl, -⟩ := h.of_updateStatus
    rw [latest_append, latest_of_silent (hquiet front hfront)]
    exact hversion _ _ _ _ time hcalls
  left := by
    cases h with
    | unwritten hsilent => rw [latest_of_silent (hquiet _ hsilent)]
    | written time reply hfront hcalls hafter =>
        rw [latest_append, latest_append, latest_cons, latest_of_silent (hquiet _ hfront),
          latest_of_silent (hquiet _ hafter), ← hversion _ _ _ _ time hcalls, hwrite]

/-- An event of two lists together is one of the first or one of the second. -/
theorem append_eq_append_cons {α : Type} {first second before after : List α} {event : α}
    (h : first ++ second = before ++ event :: after) :
    (∃ gap, first = before ++ event :: gap) ∨
      ∃ gap, before = first ++ gap ∧ second = gap ++ event :: after := by
  rcases List.append_eq_append_iff.1 h with ⟨gap, hbefore, hsecond⟩ | ⟨gap, hfirst, hgap⟩
  · exact .inr ⟨gap, hbefore, hsecond⟩
  cases gap with
  | nil => exact .inr ⟨[], by simpa using hfirst.symm, by simpa using hgap.symm⟩
  | cons head gap =>
      obtain ⟨rfl, -⟩ := List.cons.inj hgap
      exact .inl ⟨gap, hfirst⟩

/-- What each cycle tracks, all of them track together. -/
theorem Succession.tracks (h : Succession monitor runs finish)
    (hruns : ∀ run ∈ runs, Tracks part tells run.monitor run.calls run.next) :
    Tracks part tells monitor (callsOf runs) finish := by
  induction h with
  | nil => exact ⟨by simp, rfl⟩
  | cons run _ ih =>
      obtain ⟨hrun, hlater⟩ := List.forall_mem_cons.1 hruns
      have htracks := ih hlater
      refine ⟨?_, by rw [callsOf_cons, latest_append, ← hrun.left, htracks.left]⟩
      intro before written reply after hcalls
      rw [callsOf_cons] at hcalls
      rcases append_eq_append_cons hcalls with ⟨gap, hfirst⟩ | ⟨gap, rfl, hrest⟩
      · exact hrun.written before written reply gap hfirst
      · -- The write is in a later cycle.
        rw [latest_append, ← hrun.left]
        exact htracks.written gap written reply after hrest

/-- The cycles before any one of them, and those after it, are cycles of the monitor too. -/
theorem Succession.split {earlier later : List CycleRun} {run : CycleRun}
    (h : Succession monitor (earlier ++ run :: later) finish) :
    Succession monitor earlier run.monitor ∧ Succession run.next later finish := by
  induction earlier generalizing monitor with
  | nil =>
      cases h with
      | cons _ hlater => exact ⟨.nil _, hlater⟩
  | cons first earlier ih =>
      cases h with
      | cons _ hrest =>
          obtain ⟨hearlier, hlater⟩ := ih hrest
          exact ⟨.cons first hearlier, hlater⟩

end Tracks

/-- Cycles one after the other make the calls of such cycles. -/
theorem cycles_path {settings : List Settings} {monitor finish : Monitor}
    {events : List (Event collaborators)} (h : Path (cycles settings monitor) events (.done finish)) :
    ∃ runs, Succession monitor runs finish ∧ runs.map (·.settings) = settings ∧
      callsOf runs = events.filter (·.request.isCall) := by
  induction settings generalizing monitor events with
  | nil =>
      obtain ⟨rfl, hfinish⟩ := Path.done_iff.1 h
      obtain rfl := Process.done.inj hfinish
      exact ⟨[], .nil _, rfl, rfl⟩
  | cons settings others ih =>
      obtain ⟨⟨next, outcome⟩, first, second, rfl, hfirst, hsecond⟩ := Path.bind_done_iff.1 h
      obtain ⟨runs, hruns, hsettings, hcalls⟩ := ih hsecond
      let run : CycleRun := ⟨settings, monitor, _, next, outcome, first, hfirst, rfl⟩
      refine ⟨run :: runs, .cons run hruns, by simp [run, hsettings], ?_⟩
      rw [callsOf_cons, hcalls, List.filter_append]

/-- A monitor that comes from the plain one can find its workload as it should be. -/
theorem exists_path_of_plain {monitor : Monitor} (h : Monitor.plain.Follows monitor) :
    ∃ desired live, Path (provisionAndConverge monitor).outcome
      [⟨.provisionCredentials monitor, .ok none⟩, ⟨.clusterId, .ok "c"⟩,
        ⟨.getWorkload desired.name desired.scope, .ok live⟩,
        ⟨.log (workloadEvent .debug "statefulset_current" desired []), ()⟩]
      (.done (.ok (none, .unchanged))) := by
  obtain ⟨desired, hplain⟩ := Monitor.exists_desiredWorkload_plain "c"
  have hbuilt : monitor.desiredWorkload "c" = .ok desired :=
    (h.desiredWorkload_eq "c").trans hplain
  let live : Workload := { desired with resourceVersion := .text "1" }
  have hcurrent : live.hasChanged desired = false :=
    Monitor.hasChanged_of_desiredWorkload hbuilt (.text "1")
  have hleaving : Path (converge desired).outcome
      [⟨.getWorkload desired.name desired.scope, .ok live⟩,
        ⟨.log (workloadEvent .debug "statefulset_current" desired []), ()⟩]
      (.done (.ok ⟨.unchanged, desired⟩)) := by
    refine Task.path_bind_done_iff.2 (.inr ⟨some live, [_], _, rfl, .cons (.nil _), ?_⟩)
    simp only [hcurrent]
    exact .cons (.nil _)
  have hproperties : monitor.spec.customProperties = none := by
    obtain ⟨_, _, rfl⟩ := h
    rfl
  exact ⟨desired, live, path_provisionAndConverge hproperties hbuilt none hleaving⟩

end MonitorOperator.Cycle
