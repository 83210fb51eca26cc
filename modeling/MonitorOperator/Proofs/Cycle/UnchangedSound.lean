import MonitorOperator.Proofs.Cycle.NoLostUpdate
import MonitorOperator.Proofs.Workload.Built

/-!
# What is unchanged is the same

Any number of workloads are built and brought to one object of the API server, interleaved call by
call, and any call may fail, before or after it has had its effect. `unchanged_sound` says that the
object always carries the fingerprint of what it describes, and that a convergence which finds
nothing to change has read the workload that it was to bring about.
-/

namespace MonitorOperator

open Cluster (ApiCall ApiReply Place versioned?)
open MonitorOperator.Cycle
open Process (Path)

/-- The object that a call writes as a workload, if it does. -/
def Cluster.ApiCall.writtenBody? : ApiCall → Option Document
  | .createWorkload _ body => some body
  | .replaceWorkload _ _ body => some body
  | .readWorkload .. => none
  | .replaceStatus .. => none
  | .readNamespace _ => none

/-- A call that writes an object as a workload writes a workload. -/
theorem Cluster.ApiCall.writesWorkload_of_writtenBody? {call : ApiCall} {body : Document}
    (h : call.writtenBody? = some body) : call.writesWorkload = true := by
  cases call <;> first | rfl | cases h

namespace Cluster.Place

/-- How requests of an operator are answered when calls may fail: as at a reliable place, with a
fault and no effect, or, for a write, with its effect but any reply. -/
inductive MayAnswer (scope name : Document) (place : Place) :
    (request : SystemRequest) → request.Reply → Place → Prop where
  | answered {request : SystemRequest} {reply : request.Reply} {after : Place} :
      place.Answers scope name request reply after → MayAnswer scope name place request reply after
  | failed {call : ApiCall} (fault : Fault) :
      MayAnswer scope name place (.api call) (.error fault) place
  | written {call : ApiCall} {body stored : Document} {after : Place}
      (reply : Except Fault ApiReply) :
      call.writtenBody? = some body → place.Stores body stored after →
      MayAnswer scope name place (.api call) reply after

/-- The live object reads as a workload that has the fingerprint it should have. -/
def Faithful (place : Place) : Prop :=
  ∀ body, place.live = some body → ∃ live fingerprint, Workload.ofManifest body = .ok live ∧
    live.computeFingerprint = .ok fingerprint ∧ live.fingerprint = .text fingerprint

/-- The live object is what the server keeps of one of the workloads, at whatever version it was
written over. -/
def Keeps (builds : Workload → Prop) (place : Place) : Prop :=
  ∀ body, place.live = some body → ∃ desired carried version, builds desired ∧
    versioned? ({ desired with resourceVersion := carried } : Workload).manifest version = some body

variable {place after : Place}

/-- A call that is served keeps the place or stores the body that it writes. -/
theorem Serves.kept_or_stores {scope name : Document} {call : ApiCall}
    {reply : Except Fault ApiReply} (h : place.Serves scope name call reply after) :
    after = place ∨ ∃ body stored, call.writtenBody? = some body ∧
      place.Stores body stored after := by
  cases h with
  | created _ _ hstores _ | replaced _ _ hstores _ => exact .inr ⟨_, _, rfl, hstores⟩
  | found | missing | existing | gone | outdated | elsewhere => exact .inl rfl

/-- A call keeps the place or stores the body that it writes, whether it fails or not. -/
theorem MayAnswer.kept_or_stores {scope name : Document} {request : SystemRequest}
    {reply : request.Reply} (h : place.MayAnswer scope name request reply after) :
    after = place ∨ ∃ call body stored, request = .api call ∧ call.writtenBody? = some body ∧
      place.Stores body stored after := by
  cases h with
  | answered hanswers =>
      cases request with
      | api call =>
          refine (Serves.kept_or_stores hanswers).imp_right ?_
          rintro ⟨body, stored, hbody, hstores⟩
          exact ⟨call, body, stored, rfl, hbody, hstores⟩
      | send _ | log _ | count _ | now => exact .inl hanswers
  | failed fault => exact .inl rfl
  | written reply hbody hstores => exact .inr ⟨_, _, _, rfl, hbody, hstores⟩

/-- A place keeps what it stores. -/
theorem Stores.keeps {builds : Workload → Prop} {desired : Workload} {carried stored : Document}
    (h : place.Stores ({ desired with resourceVersion := carried } : Workload).manifest stored
      after)
    (hbuilds : builds desired) : after.Keeps builds := by
  cases h with
  | @intro version _ _ hversioned =>
      intro manifest hlive
      cases hlive
      exact ⟨desired, carried, version, hbuilds, hversioned⟩

/-- A read at the address that tells an object tells the live one. -/
theorem MayAnswer.of_read {scope name : Document} {answer : ApiReply}
    (h : place.MayAnswer scope name (.api (.readWorkload name scope)) (.ok answer) after) :
    ∃ body, place.live = some body ∧ answer.toObject = .ok body := by
  cases h with
  | answered hanswers =>
      obtain ⟨-, ⟨body, _, hlive, ⟨⟩, hobject⟩ | ⟨-, _, ⟨⟩⟩⟩ := Serves.of_read hanswers
      exact ⟨body, hlive, hobject⟩
  | written _ hbody _ => cases hbody

end Cluster.Place

/-- The object that a planned write stores is the desired workload, at some version. -/
theorem Cycle.Plans.writtenBody? {desired : Workload} {reading : Except Fault Workload}
    {call : ApiCall} {convergence : Convergence} (h : Plans desired reading call convergence) :
    ∃ carried, call.writtenBody? =
      some ({ desired with resourceVersion := carried } : Workload).manifest := by
  cases h with
  | create _ => exact ⟨desired.resourceVersion, rfl⟩
  | @overwrite live _ => exact ⟨live.resourceVersion, rfl⟩

/-- A convergence that reports that nothing changed has read a workload without a change. -/
theorem Cycle.Stage.of_unchanged {desired : Workload} {events : List (Event system)}
    {convergence : Convergence} (h : Stage desired events (.done (.ok convergence)))
    (haction : convergence.action = .unchanged) :
    ∃ reply live, readEvent desired reply ∈ events ∧ readingOf desired reply = .ok live ∧
      live.hasChanged desired = false := by
  generalize hrest : Process.done (Except.ok convergence) = rest at h
  cases h with
  | unread hnotdone => exact absurd hrest.symm (hnotdone _)
  | unreadable _ | refused _ _ => cases hrest
  | current hread hcurrent _ _ =>
      exact ⟨_, _, List.mem_cons_self, hread, Bool.not_eq_true _ ▸ hcurrent⟩
  | pending _ hnotdone => exact absurd hrest.symm (hnotdone _)
  | @accepted _ _ planned _ _ answer _ hplans _ _ houtcome =>
      generalize readingOf desired _ = reading at hplans
      have hresult := houtcome _ hrest.symm
      cases hanswer : Cluster.workloadOf answer with
      | error fault => simp [hanswer, Except.map] at hresult
      | ok workload =>
          obtain rfl : convergence = planned := by simpa [hanswer, Except.map] using hresult
          cases hplans <;> cases haction

/-- Workloads with fingerprints that have not changed have the same one. -/
theorem Workload.fingerprint_eq_of_not_hasChanged {live desired : Workload}
    {fingerprint other : String} (hlive : live.fingerprint = .text fingerprint)
    (hdesired : desired.fingerprint = .text other) (h : live.hasChanged desired = false) :
    fingerprint = other := by
  rw [hasChanged, hlive, hdesired] at h
  split at h
  · simpa [Document.agrees] using h
  · cases h

/-- Build the workload of a monitor and bring it about through the API server. -/
def Backend.buildAndConverge (backend : Backend) (monitor : Monitor) (clusterId : String) :
    Process system (Except Fault Convergence) :=
  Process.interpret backend.serve <| Task.outcome do
    Cycle.converge (← liftM (monitor.desiredWorkload clusterId))

/-- A workload that was built is brought about. -/
theorem Backend.buildAndConverge_of_built (backend : Backend) {monitor : Monitor}
    {clusterId : String} {desired : Workload}
    (h : monitor.desiredWorkload clusterId = .ok desired) :
    backend.buildAndConverge monitor clusterId = backend.converge desired := by
  rw [buildAndConverge, h]
  rfl

/-- Nothing happens if there is no workload to bring about. -/
theorem Backend.buildAndConverge_of_error (backend : Backend) {monitor : Monitor}
    {clusterId : String} {fault : Fault} (h : monitor.desiredWorkload clusterId = .error fault) :
    backend.buildAndConverge monitor clusterId = .done (.error fault) := by
  rw [buildAndConverge, h]
  rfl

section Buildings

variable {ι : Type}

/-- Workloads of any monitors are built and brought to the object of one namespace and name, which
nobody else writes. Any call may fail. -/
def buildings (backend : ι → Backend) (monitor : ι → Monitor) (clusterId : ι → String)
    (scope name : Document) : SharedSystem ι system Place (Except Fault Convergence) where
  program index := (backend index).buildAndConverge (monitor index) (clusterId index)
  answers := Place.MayAnswer scope name
  disturbs _ _ := False

/-- The workload is built from one of the monitors. -/
def IsBuilt (monitor : ι → Monitor) (clusterId : ι → String) (workload : Workload) : Prop :=
  ∃ index, (monitor index).desiredWorkload (clusterId index) = .ok workload

variable {monitor : ι → Monitor} {clusterId : ι → String}

/-- A live object that the server keeps of a workload that was built is read back as this
workload. -/
theorem Cluster.Place.Keeps.ofManifest {place : Place} {body : Document}
    (h : place.Keeps (IsBuilt monitor clusterId)) (hlive : place.live = some body) :
    ∃ desired version, IsBuilt monitor clusterId desired ∧
      Workload.ofManifest body = .ok { desired with resourceVersion := version } := by
  obtain ⟨desired, carried, version, ⟨index, hbuilt⟩, hversioned⟩ := h body hlive
  exact ⟨desired, .text version, ⟨index, hbuilt⟩,
    Monitor.ofManifest_of_desiredWorkload hbuilt hversioned⟩

/-- A place that keeps what was built is faithful. -/
theorem Cluster.Place.Keeps.faithful {place : Place}
    (h : place.Keeps (IsBuilt monitor clusterId)) : place.Faithful := by
  intro body hlive
  obtain ⟨desired, version, ⟨index, hbuilt⟩, hread⟩ := h.ofManifest hlive
  obtain ⟨fingerprint, -, hfingerprint, hcompute⟩ := Monitor.fingerprint_of_desiredWorkload hbuilt
  exact ⟨_, fingerprint, hread, hcompute, hfingerprint⟩

variable [DecidableEq ι] {backend : ι → Backend} {scope name : Document} {start finish : Place}
  {steps : List (SharedStep ι system Place)}

namespace Execution

/-- What a process that has come to a call saw is a stage of the convergence of a workload that was
built. -/
theorem built_stage
    (h : Execution (buildings backend monitor clusterId scope name) start steps finish)
    {index : ι} {event : Event system} (hevent : event ∈ historyOf index steps) :
    ∃ desired rest, (monitor index).desiredWorkload (clusterId index) = .ok desired ∧
      Stage desired (historyOf index steps) rest := by
  obtain ⟨rest, hpath⟩ := h.path index
  change Path ((backend index).buildAndConverge _ _) _ _ at hpath
  cases hbuilt : (monitor index).desiredWorkload (clusterId index) with
  | ok desired =>
      rw [(backend index).buildAndConverge_of_built hbuilt] at hpath
      exact ⟨desired, rest, rfl, Backend.converge_stage hpath⟩
  | error fault =>
      rw [(backend index).buildAndConverge_of_error hbuilt] at hpath
      rw [(Path.done_iff.1 hpath).1] at hevent
      cases hevent

/-- Each step keeps at the place what was built. -/
theorem keeps_step
    (h : Execution (buildings backend monitor clusterId scope name) start steps finish)
    {step : SharedStep ι system Place} (hstep : step ∈ steps)
    (hkeeps : step.before.Keeps (IsBuilt monitor clusterId)) :
    step.after.Keeps (IsBuilt monitor clusterId) := by
  have hallowed := h.allowed step hstep
  obtain ⟨before, actor, after⟩ := step
  cases actor with
  | outside => exact absurd hallowed id
  | process index event =>
      obtain ⟨request, reply⟩ := event
      rcases Place.MayAnswer.kept_or_stores hallowed with
        hsame | ⟨call, body, stored, rfl, hbody, hstores⟩
      · change after = before at hsame
        rwa [hsame]
      -- What is stored is the body of a write that is planned for a workload that was built.
      have hevent : apiEvent call reply ∈ historyOf index steps := mem_historyOf.2 ⟨_, hstep, rfl⟩
      obtain ⟨desired, rest, hbuilt, hstage⟩ := h.built_stage hevent
      obtain ⟨_, _, _, _, -, -, hplans, -⟩ :=
        hstage.of_write (Cluster.ApiCall.writesWorkload_of_writtenBody? hbody) hevent
      obtain ⟨carried, hcarried⟩ := hplans.writtenBody?
      obtain rfl := Option.some.inj (hbody.symm.trans hcarried)
      exact Place.Stores.keeps hstores ⟨index, hbuilt⟩

/-- At all times the place keeps what was built, if it did at the start. -/
theorem keeps (h : Execution (buildings backend monitor clusterId scope name) start steps finish)
    (hstart : start.Keeps (IsBuilt monitor clusterId)) :
    (∀ step ∈ steps, step.before.Keeps (IsBuilt monitor clusterId)) ∧
      finish.Keeps (IsBuilt monitor clusterId) :=
  h.linked.invariant hstart fun _ hstep => h.keeps_step hstep

end Execution

/-- However workloads are built and brought about at an object that did not exist, it carries the
fingerprint of what it describes, and a convergence which reports that nothing changed has read the
workload that it was to bring about. -/
theorem unchanged_sound (backend : ι → Backend) (monitor : ι → Monitor) (clusterId : ι → String)
    (scope name : Document) (finish : Place) (steps : List (SharedStep ι system Place))
    (hjson : ∀ index, (monitor index).IsJson)
    (hexecution :
      Execution (buildings backend monitor clusterId scope name) ⟨none, []⟩ steps finish) :
    finish.Faithful ∧
      ∀ index desired convergence,
        (monitor index).desiredWorkload (clusterId index) = .ok desired →
        desired.scope = scope → desired.name = name →
        Path ((backend index).buildAndConverge (monitor index) (clusterId index))
          (historyOf index steps) (.done (.ok convergence)) →
        convergence.action = .unchanged →
        ∃ step ∈ steps, ∃ answer body live,
          step.IsOf index (readEvent desired (.ok answer)) ∧ answer.toObject = .ok body ∧
          step.before.live = some body ∧ Workload.ofManifest body = .ok live ∧
          (Workload.CollisionFree live desired → Workload.Same live desired) := by
  obtain ⟨hbefore, hfinish⟩ := hexecution.keeps (by rintro _ ⟨⟩)
  refine ⟨hfinish.faithful, ?_⟩
  rintro index desired convergence hbuilt rfl rfl hdone haction
  rw [(backend index).buildAndConverge_of_built hbuilt] at hdone
  obtain ⟨reply, live, hevent, hreading, hunchanged⟩ :=
    (Backend.converge_stage hdone).of_unchanged haction
  obtain ⟨step, hstep, hof⟩ := mem_historyOf.1 hevent
  cases reply with
  | error fault => cases hreading
  | ok answer =>
      have hallowed := hexecution.allowed step hstep
      rw [SharedSystem.Allows, hof] at hallowed
      obtain ⟨body, hlive, hobject⟩ := Place.MayAnswer.of_read hallowed
      rw [readingOf, Cluster.workloadOf, hobject] at hreading
      refine ⟨step, hstep, answer, body, live, hof, hobject, hlive, hreading, fun hfree => ?_⟩
      -- What was read is a workload that was built, with the fingerprint of the desired one.
      obtain ⟨built, version, ⟨source, hsource⟩, hread⟩ := (hbefore step hstep).ofManifest hlive
      obtain rfl := Except.ok.inj (hread.symm.trans hreading)
      obtain ⟨fingerprint, -, hfingerprint, hcompute⟩ :=
        Monitor.fingerprint_of_desiredWorkload hsource
      obtain ⟨other, -, hother, hcompute_other⟩ := Monitor.fingerprint_of_desiredWorkload hbuilt
      obtain rfl := Workload.fingerprint_eq_of_not_hasChanged hfingerprint hother hunchanged
      have hsource_json := (hjson source).desiredWorkload_isJson hsource
      have hindex_json := (hjson index).desiredWorkload_isJson hbuilt
      exact Workload.same_of_fingerprint hsource_json hindex_json hfree hcompute hcompute_other

/-- One process creates the workload of a monitor, and another one finds it unchanged. -/
theorem unchanged_sound_second :
    ∃ (backend : Backend) (monitor : Monitor) (clusterId : String) (desired : Workload)
      (finish : Place) (steps : List (SharedStep Bool system Place)),
      Execution
        (buildings (fun _ => backend) (fun _ => monitor) (fun _ => clusterId) desired.scope
          desired.name) ⟨none, []⟩ steps finish ∧
      Path (backend.buildAndConverge monitor clusterId) (historyOf true steps)
        (.done (.ok ⟨.unchanged, desired⟩)) ∧
      finish.Faithful ∧
      ∃ step ∈ steps, ∃ body live, step.before.live = some body ∧
        Workload.ofManifest body = .ok live ∧ Workload.Same live desired := by
  let backend : Backend :=
    ⟨fun _ => pure none, fun _ _ => pure (), fun _ _ => throw .noSuchMember, none⟩
  obtain ⟨desired, hbuilt⟩ := Monitor.exists_desiredWorkload_plain "c"
  obtain ⟨stored, hstored⟩ := Cluster.exists_versioned?_manifest desired "1"
  let found : Workload := { desired with resourceVersion := .text "1" }
  have hfound : Workload.ofManifest (.object stored) = .ok found :=
    Monitor.ofManifest_of_desiredWorkload hbuilt hstored
  have hcurrent : found.hasChanged desired = false :=
    Monitor.hasChanged_of_desiredWorkload hbuilt (.text "1")
  have hprogram := backend.buildAndConverge_of_built hbuilt
  let absent : Event system := readEvent desired (.error (.refused (.integer 404) .null))
  let announced : Event system := ⟨.log (workloadEvent .info "creating_statefulset" desired []), ()⟩
  let write : ApiCall := .createWorkload desired.scope desired.manifest
  let read : Event system := readEvent desired (.ok (.document (.object stored)))
  let left : Event system := ⟨.log (workloadEvent .debug "statefulset_current" desired []), ()⟩
  let start : Place := ⟨none, []⟩
  let finish : Place := ⟨some (.object stored), ["1"]⟩
  let steps : List (SharedStep Bool system Place) :=
    [⟨start, .process false absent, start⟩, ⟨start, .process false announced, start⟩,
      ⟨start, .process false (apiEvent write (.ok (.document (.object stored)))), finish⟩,
      ⟨finish, .process true read, finish⟩, ⟨finish, .process true left, finish⟩]
  let reaches (count : Nat) (state : Place) : Prop :=
    Execution
      (buildings (fun _ => backend) (fun _ => .plain) (fun _ => "c") desired.scope desired.name)
      start (steps.take count ++ (steps.drop count).take 1) state
  have hunread := backend.converge_unread desired
  have habsent : Path (backend.converge desired) [absent] (creating desired) :=
    backend.converge_read (.nil _)
  have hannounced : Path (backend.converge desired) [absent, announced] (.call (.api write) _) :=
    habsent.append (.cons (.nil _))
  have hread : Path (backend.converge desired) [read] (leaving desired) := by
    refine backend.converge_read ?_
    rw [show readingOf desired (.ok (.document (.object stored))) = .ok found from hfound,
      afterRead, hcurrent]
    exact .nil _
  have hleft : Path (backend.converge desired) [read, left] (.done (.ok ⟨.unchanged, desired⟩)) :=
    hread.append (.cons (.nil _))
  rw [← hprogram] at hunread habsent hannounced hread hleft
  have hfirst : reaches 0 start := .answered .begin hunread (.answered (.missing rfl))
  have hsecond : reaches 1 start := .answered hfirst habsent (.answered rfl)
  have hthird : reaches 2 finish := .answered hsecond hannounced
    (.written _ rfl (.intro (by decide) (by decide) hstored))
  have hfourth : reaches 3 finish := .answered hthird hunread (.answered (.found rfl rfl))
  have hfifth : reaches 4 finish := .answered hfourth hread (.answered rfl)
  obtain ⟨hfaithful, hunchanged⟩ := unchanged_sound (fun _ => backend) (fun _ => .plain)
    (fun _ => "c") desired.scope desired.name finish steps (fun _ => Monitor.isJson_plain) hfifth
  obtain ⟨step, hstep, answer, body, live, hof, hobject, hlive, hbody, hsame⟩ :=
    hunchanged true desired ⟨.unchanged, desired⟩ hbuilt rfl rfl hleft rfl
  refine ⟨backend, .plain, "c", desired, finish, steps, hfifth, hleft, hfaithful, step, hstep, body,
    live, hlive, hbody, hsame ?_⟩
  -- Only the object that was created was ever live.
  have hstored : ∀ step ∈ steps, ∀ body, step.before.live = some body → body = .object stored := by
    simp [steps, start, finish]
  obtain rfl := hstored step hstep body hlive
  obtain rfl := Except.ok.inj (hfound.symm.trans hbody)
  exact fun text other htext hother _ => Option.some.inj (htext.symm.trans hother)

end Buildings

end MonitorOperator
