import MonitorOperator.Proofs.Cycle.FaultTaxonomy
import MonitorOperator.Proofs.Workload.Built

/-!
# The order of the calls of a cycle

Every cycle keeps to its `schedule` up to the first step that fails, which cuts off the rest, and a
version that cannot be looked up or an endpoint that cannot be registered cuts off nothing
(`reconcile_fails_fast`). So a workload is written with the volume of the custom properties only
after these have been provisioned, a status only after the workload has been converged, and a monitor
is changed only once its status is to be written.
-/

namespace MonitorOperator

/-- A field of the document is a list with an entry that has the name of the volume with the custom
properties. -/
def Document.ListsVolume (document : Document) (field : String) : Prop :=
  ∃ entries entry, document.under? [field] = some (.list entries) ∧ entry ∈ entries ∧
    entry.under? ["name"] = some Monitor.volumeName

/-- The pods of the workload have the volume with the custom properties, or a container of theirs
mounts it. -/
def Workload.MountsProperties (workload : Workload) : Prop :=
  ∃ pod, workload.spec.under? ["template", "spec"] = some pod ∧
    (pod.ListsVolume "volumes" ∨
      ∃ containers container, pod.under? ["containers"] = some (.list containers) ∧
        container ∈ containers ∧ container.ListsVolume "volumeMounts")

namespace Monitor

variable {monitor : Monitor}

/-- The container mounts a volume exactly if the monitor has custom properties. -/
theorem listsVolume_container_iff (env : List Document) :
    (monitor.container env).ListsVolume "volumeMounts" ↔ monitor.hasCustomProperties = true := by
  unfold container
  cases monitor.hasCustomProperties with
  | false => simp [Document.ListsVolume, Document.under?_ofFields, Keyed.get?_cons]
  | true => exact iff_of_true ⟨_, _, rfl, List.mem_singleton_self _, rfl⟩ rfl

/-- The pod has a volume exactly if the monitor has custom properties. -/
theorem listsVolume_podSpec_iff (env : List Document) :
    (monitor.podSpec env).ListsVolume "volumes" ↔ monitor.hasCustomProperties = true := by
  unfold podSpec hasCustomProperties
  -- Whether the pods have a priority does not matter here.
  cases monitor.spec.customProperties with
  | none =>
      split <;> simp [Document.ListsVolume, Document.under?_ofFields, Keyed.get?_cons]
  | some properties =>
      split <;> exact iff_of_true ⟨_, _, rfl, List.mem_singleton_self _, rfl⟩ rfl

/-- A built workload mounts the custom properties exactly if the monitor has any. -/
theorem mountsProperties_iff {clusterId : String} {desired : Workload}
    (h : monitor.desiredWorkload clusterId = .ok desired) :
    desired.MountsProperties ↔ monitor.hasCustomProperties = true := by
  obtain ⟨-, env, fingerprint, -, -, rfl⟩ := desiredWorkload_eq_ok_iff.1 h
  let env' := monitor.reservedEnv clusterId ++ env
  constructor
  · rintro ⟨pod, hpod, hmounts⟩
    obtain rfl : monitor.podSpec env' = pod := Option.some.inj hpod
    rcases hmounts with hvolume | ⟨containers, container, hcontainers, hmem, hmount⟩
    · exact (listsVolume_podSpec_iff env').1 hvolume
    · obtain rfl : [monitor.container env'] = containers :=
        Document.list.inj (Option.some.inj hcontainers)
      obtain rfl := List.mem_singleton.1 hmem
      exact (listsVolume_container_iff env').1 hmount
  · intro hproperties
    exact ⟨monitor.podSpec env', rfl, .inl ((listsVolume_podSpec_iff env').2 hproperties)⟩

end Monitor

namespace Cycle

/-- The calls show that the workload is as the monitor asks for: it could be built, and it was found
unchanged or written. -/
def Converged (monitor : Monitor) (calls : List (Event collaborators)) : Prop :=
  ∃ clusterId desired, ⟨.clusterId, .ok clusterId⟩ ∈ calls ∧
    monitor.desiredWorkload clusterId = .ok desired ∧
    ((∃ live, ⟨.getWorkload desired.name desired.scope, .ok live⟩ ∈ calls ∧
        live.hasChanged desired = false) ∨
      (∃ created, ⟨.createWorkload desired, .ok created⟩ ∈ calls) ∨
      ∃ live updated, ⟨.updateWorkload (writtenOver live desired), .ok updated⟩ ∈ calls)

section Steps

variable {settings : Settings} {monitor next : Monitor} {calls : List (Event collaborators)}
  {outcome : Except Fault Outcome}

/-- More calls show no less. -/
theorem Converged.mono {more : List (Event collaborators)} (h : Converged monitor calls)
    (hsubset : calls ⊆ more) : Converged monitor more := by
  obtain ⟨clusterId, desired, hidentity, hbuilt, hlive⟩ := h
  refine ⟨clusterId, desired, hsubset hidentity, hbuilt, ?_⟩
  rcases hlive with ⟨live, hread, hchanged⟩ | ⟨created, hcreate⟩ | ⟨live, updated, hupdate⟩
  · exact .inl ⟨live, hsubset hread, hchanged⟩
  · exact .inr (.inl ⟨created, hsubset hcreate⟩)
  · exact .inr (.inr ⟨live, updated, hsubset hupdate⟩)

/-- The calls of a workload step that succeeds show that the workload is as it should be. -/
theorem WorkloadCalls.converged {action : WorkloadAction}
    (h : WorkloadCalls monitor calls (.ok action)) : Converged monitor calls := by
  generalize hresult : Except.ok action = result at h
  cases h with
  | unidentified | unbuilt => cases hresult
  | built hbuilt hconverge =>
      refine ⟨_, _, List.mem_cons_self, hbuilt, ?_⟩
      cases hconverge with
      | unreadable => cases hresult
      | @left live hchanged => exact .inl ⟨live, by simp, hchanged⟩
      | created reply =>
          cases reply with
          | ok created => exact .inr (.inl ⟨created, by simp⟩)
          | error => cases hresult
      | @overwritten live reply =>
          cases reply with
          | ok updated => exact .inr (.inr ⟨live, updated, by simp⟩)
          | error => cases hresult

/-- The calls of a properties step that succeeds show that the properties are provisioned, if there
are any. -/
theorem PropertiesCalls.provisioned (h : PropertiesCalls monitor calls (.ok ()))
    (hproperties : monitor.hasCustomProperties = true) :
    ∃ properties, monitor.spec.customProperties = some properties ∧
      ⟨.provisionProperties monitor properties, .ok ()⟩ ∈ calls := by
  generalize hresult : Except.ok () = result at h
  cases h with
  | skipped hnone => simp [Monitor.hasCustomProperties, hnone] at hproperties
  | @asked properties reply hsome =>
      cases reply with
      | ok => exact ⟨properties, hsome, List.mem_singleton.2 rfl⟩
      | error => cases hresult

/-- A convergence writes the specification of the desired workload. -/
theorem ConvergeCalls.spec_of_write {desired written : Workload} {event : Event collaborators}
    {converged : Except Fault Convergence} (h : ConvergeCalls desired calls converged)
    (hmem : event ∈ calls)
    (hwrite : event.request = .createWorkload written ∨ event.request = .updateWorkload written) :
    written.spec = desired.spec := by
  cases h with
  | unreadable | left =>
      obtain rfl := List.mem_singleton.1 hmem
      simp at hwrite
  | created | overwritten =>
      simp only [List.mem_cons, List.not_mem_nil, or_false] at hmem
      rcases hmem with rfl | rfl
      · simp at hwrite
      · rcases hwrite with ⟨⟨⟩⟩ | ⟨⟨⟩⟩
        rfl

/-- A cycle ends before its status is to be written, and leaves the monitor as it is, or it writes
the status once after the workload was converged, and leaves the monitor as this says. -/
theorem Course.recording (h : Course settings monitor calls next outcome) :
    (.status ∉ kinds calls ∧ next = monitor ∧ ∃ fault, outcome = .error fault) ∨
      ∃ front version time reply after,
        calls = front ++ ⟨.updateStatus (monitor.stamped version time), reply⟩ :: after ∧
        .status ∉ kinds front ∧ .status ∉ kinds after ∧ Converged monitor front ∧
        next = (recorded (monitor.stamped version time) reply).1 := by
  obtain ⟨hnoProperties, hnoVersion, hnoDashboard⟩ :=
    @status_notMem_schedules settings monitor
  cases h with
  | withoutCredentials fault =>
      exact .inl ⟨by simp [kinds, CycleRequest.call?], rfl, _, rfl⟩
  | withoutProperties _ hproperties =>
      refine .inl ⟨?_, rfl, _, rfl⟩
      rw [kinds_cons rfl, hproperties.kinds_eq]
      simpa using hnoProperties
  | unconverged _ hproperties hworkload =>
      refine .inl ⟨?_, rfl, _, rfl⟩
      rw [kinds_cons rfl, kinds_append, hproperties.kinds_eq]
      simpa using ⟨hnoProperties, hworkload.status_notMem⟩
  | @unrecorded properties workload version _ _ record credentials time fault hproperties
      hworkload hversion =>
      refine .inr ⟨⟨.provisionCredentials monitor, .ok credentials⟩ ::
        (properties ++ (workload ++ version)), record, time, .error fault, [], by simp, ?_, by simp,
        hworkload.converged.mono (by intro event; simp +contextual), rfl⟩
      rw [kinds_cons rfl, kinds_append, kinds_append, hproperties.kinds_eq, hversion.kinds_eq]
      simpa using ⟨hnoProperties, hworkload.status_notMem, hnoVersion⟩
  | @completed properties workload version dashboard _ _ record credentials _ time adopted
      hproperties hworkload hversion hdashboard =>
      refine .inr ⟨⟨.provisionCredentials monitor, .ok credentials⟩ ::
        (properties ++ (workload ++ version)), record, time, .ok adopted, dashboard, by simp, ?_,
        hdashboard.kinds_eq ▸ hnoDashboard,
        hworkload.converged.mono (by intro event; simp +contextual), rfl⟩
      rw [kinds_cons rfl, kinds_append, kinds_append, hproperties.kinds_eq, hversion.kinds_eq]
      simpa using ⟨hnoProperties, hworkload.status_notMem, hnoVersion⟩

end Steps

/-- What can be said about the order of the calls of a cycle, and about the monitor that it
leaves. -/
structure FailsFast (settings : Settings) (monitor : Monitor) (calls : List (Event collaborators))
    (next : Monitor) (outcome : Except Fault Outcome) : Prop where
  /-- The calls are the beginning of the schedule. -/
  ordered : ∃ action, kinds calls <+: schedule settings monitor action
  /-- Nothing is called twice. -/
  once : (kinds calls).Nodup
  /-- Nothing follows the failure of a step. -/
  cut : ∀ before event after, calls = before ++ event :: after →
    (∃ step cause, Fails monitor event step cause) → after = []
  /-- Nothing else cuts anything off. -/
  uncut : Passes monitor calls →
    ∃ result, outcome = .ok result ∧ kinds calls = schedule settings monitor result.action
  /-- A workload that mounts the custom properties is written after they were provisioned. -/
  mounted : ∀ before event after written, calls = before ++ event :: after →
    event.request = .createWorkload written ∨ event.request = .updateWorkload written →
    written.MountsProperties →
    ∃ properties, monitor.spec.customProperties = some properties ∧
      ⟨.provisionProperties monitor properties, .ok ()⟩ ∈ before
  /-- The status is written after the workload was converged, and is all that changes of the
  monitor, with its version if there is a new one. -/
  written : ∀ before stamped reply after, calls = before ++ ⟨.updateStatus stamped, reply⟩ :: after →
    Converged monitor before ∧ (∃ version time, stamped = monitor.stamped version time) ∧
      next = (recorded stamped reply).1
  /-- A cycle that comes to no status leaves the monitor as it was, and fails. -/
  untouched : .status ∉ kinds calls → next = monitor ∧ ∃ fault, outcome = .error fault
  /-- A cycle changes nothing of a monitor but its status and its version. -/
  framed : monitor.Follows next

/-- The calls of a course are in order. -/
theorem Course.failsFast {settings : Settings} {monitor next : Monitor}
    {calls : List (Event collaborators)} {outcome : Except Fault Outcome}
    (h : Course settings monitor calls next outcome) :
    FailsFast settings monitor calls next outcome where
  ordered := h.keepsTo.begins
  once := by
    obtain ⟨action, hbegins⟩ := h.keepsTo.begins
    exact (nodup_schedule settings monitor action).sublist hbegins.sublist
  cut := by
    rintro before event after rfl ⟨step, cause, hfails⟩
    exact (h.verdict.raises hfails).1
  uncut := by
    intro hpasses
    obtain ⟨result, rfl⟩ := h.classified.returned hpasses
    exact ⟨result, rfl, h.keepsTo⟩
  mounted := by
    rintro before event after written rfl hwrite hmounts
    have habout : event.request.isAboutWorkload = true := by
      rcases hwrite with hwrite | hwrite <;> rw [hwrite] <;> rfl
    obtain ⟨_, _, _, desired, _, _, _, _, rfl, -, hproperties, hbuilt, hconverge⟩ :=
      h.convergent.of_workload_call habout
    -- What is written has the specification that was built, even over a live workload, and what
    -- was built mounts the properties if the monitor has any.
    have hspec : written.spec = desired.spec := hconverge.spec_of_write (by simp) hwrite
    have hdesired : desired.MountsProperties := by
      rwa [Workload.MountsProperties, ← hspec]
    obtain ⟨properties, hsome, hmem⟩ :=
      hproperties.provisioned ((Monitor.mountsProperties_iff hbuilt).1 hdesired)
    exact ⟨properties, hsome, by simp [hmem]⟩
  written := by
    intro before stamped reply after hcalls
    rcases h.recording with ⟨hnone, -⟩ | ⟨front, version, time, other, later, hsplit, hfront, hlater,
      hconverged, hnext⟩
    · have habsent : ⟨.updateStatus stamped, reply⟩ ∉ calls := notMem_of_notMem_kinds rfl hnone
      exact absurd (by simp [hcalls]) habsent
    · have hfront : ⟨.updateStatus stamped, reply⟩ ∉ front := notMem_of_notMem_kinds rfl hfront
      have hlater : ⟨.updateStatus stamped, reply⟩ ∉ later := notMem_of_notMem_kinds rfl hlater
      -- There is one such call only, so the two places are the same.
      obtain ⟨rfl, hevent, rfl⟩ :=
        (List.append_cons_inj_of_notMem hfront hlater).1 (hsplit.symm.trans hcalls)
      cases hevent
      exact ⟨hconverged, ⟨version, time, rfl⟩, hnext⟩
  untouched := by
    intro hnone
    rcases h.recording with ⟨-, hnext, hfault⟩ | ⟨_, _, _, _, _, rfl, -⟩
    · exact ⟨hnext, hfault⟩
    · rw [kinds_append, kinds_cons rfl] at hnone
      simp at hnone
  framed := by
    rcases h.recording with ⟨-, rfl, -⟩ | ⟨_, version, time, reply, _, -, -, -, -, rfl⟩
    · exact .refl _
    · cases reply with
      | error => exact .stamped monitor version time
      | ok adopted => exact (Monitor.Follows.stamped monitor version time).trans (.adopting _ adopted)

/-- Whatever the collaborators reply, a cycle makes its calls in order, stops at the first step that
fails, and changes nothing of the monitor before its status is to be written. -/
theorem reconcile_fails_fast {σ : Type} (settings : Settings) (monitor : Monitor)
    (serve : (request : collaborators.Request) → StateM σ (collaborators.Reply request))
    (start : σ) :
    FailsFast settings monitor (cycleCalls settings monitor serve start)
      (Process.run serve (reconcile settings monitor) start).1.1
      (Process.run serve (reconcile settings monitor) start).1.2 :=
  (course_cycleCalls settings monitor serve start).failsFast

end Cycle

end MonitorOperator
