import MonitorOperator.Proofs.Cycle.CallSequence
import MonitorOperator.Proofs.Workload.Built

/-!
# Cycles resume

A monitor goes through any number of cycles in which any request may fail, and a write of the
workload that fails may have had its effect. `resumes_safely` says that at most one write has an
effect, and that the cycles after it, or after one whose workload step succeeded, leave the workload
alone.
-/

namespace MonitorOperator.Cycle

open Process (Path)

/-- The workload that is kept of a monitor, if there is one, and how many writes of it have had an
effect. -/
structure Holding where
  live : Option Document
  effects : Nat

namespace Holding

/-- What a read of the workload may tell: the live one, that there is none only if there is none, or
any other fault. -/
inductive Tells (holding : Holding) : Except Fault Workload → Prop where
  | found {body : Document} {live : Workload} :
      holding.live = some body → Workload.ofManifest body = .ok live → Tells holding (.ok live)
  | missing (fault : Fault) : holding.live = none → Tells holding (.error fault)
  | failed {fault : Fault} : fault.kind ≠ .notFound → Tells holding (.error fault)

/-- What a write of a workload may do: fail without effect, or store the workload at some version
and give any reply. -/
inductive Writes (holding : Holding) (workload : Workload) :
    Except Fault Workload → Holding → Prop where
  | failed (fault : Fault) : Writes holding workload (.error fault) holding
  | stored {version : String} {stored : Document} (reply : Except Fault Workload) :
      Cluster.versioned? workload.manifest version = some stored →
      Writes holding workload reply ⟨some stored, holding.effects + 1⟩

/-- How the requests of a cycle are answered: the cluster has one identifier, the workload is what
was last written, and all other requests get any reply. -/
def Answers (clusterId : String) (holding : Holding) :
    (request : CycleRequest) → request.Reply → Holding → Prop
  | .getWorkload _ _, reply, after => after = holding ∧ holding.Tells reply
  | .createWorkload workload, reply, after => holding.Writes workload reply after
  | .updateWorkload workload, reply, after => holding.Writes workload reply after
  | .clusterId, reply, after => after = holding ∧ ∀ told, reply = .ok told → told = clusterId
  | .provisionCredentials _, _, after => after = holding
  | .provisionProperties _ _, _, after => after = holding
  | .resolveVersion _ _, _, after => after = holding
  | .updateStatus _, _, after => after = holding
  | .register _, _, after => after = holding
  | .log _, _, after => after = holding
  | .count _, _, after => after = holding
  | .now, _, after => after = holding

/-- How events that are answered one after the other lead from one holding to another. -/
inductive Through (clusterId : String) : Holding → List (Event collaborators) → Holding → Prop where
  | nil (holding : Holding) : Through clusterId holding [] holding
  | cons {holding middle after : Holding} {event : Event collaborators}
      {events : List (Event collaborators)} :
      holding.Answers clusterId event.request event.reply middle →
      Through clusterId middle events after → Through clusterId holding (event :: events) after

/-- The live workload is what the monitor asks for. -/
def Settled (monitor : Monitor) (clusterId : String) (holding : Holding) : Prop :=
  ∃ desired body live, monitor.desiredWorkload clusterId = .ok desired ∧
    holding.live = some body ∧ Workload.ofManifest body = .ok live ∧
    live.hasChanged desired = false

variable {clusterId : String} {holding after : Holding}

/-- The first event is answered first. -/
theorem through_cons_iff {event : Event collaborators} {events : List (Event collaborators)} :
    Through clusterId holding (event :: events) after ↔
      ∃ middle, holding.Answers clusterId event.request event.reply middle ∧
        Through clusterId middle events after := by
  constructor
  · intro h
    cases h with
    | cons hanswer hlater => exact ⟨_, hanswer, hlater⟩
  · rintro ⟨middle, hanswer, hlater⟩
    exact .cons hanswer hlater

/-- Requests that are not about workloads change nothing. -/
theorem Answers.of_apart {request : CycleRequest} {reply : request.Reply}
    (h : holding.Answers clusterId request reply after)
    (hapart : request.isAboutWorkload = false) : after = holding := by
  cases request with
  | getWorkload _ _ | createWorkload _ | updateWorkload _ => cases hapart
  | clusterId => exact h.1
  | provisionCredentials _ | provisionProperties _ _ | resolveVersion _ _ | updateStatus _
  | register _ | log _ | count _ | now => exact h

/-- Only the events about workloads matter for what is kept. -/
theorem Through.aboutWorkload {events : List (Event collaborators)}
    (h : Through clusterId holding events after) :
    Through clusterId holding (aboutWorkload events) after := by
  induction h with
  | nil => exact .nil _
  | @cons holding middle after event events hanswer _ ih =>
      rw [aboutWorkload_cons]
      split
      · exact .cons hanswer ih
      · next hother =>
          rw [← hanswer.of_apart (Bool.eq_false_iff.2 hother)]
          exact ih

/-- Events that are not about workloads change nothing. -/
theorem Through.of_apart {events : List (Event collaborators)}
    (h : Through clusterId holding events after) (hapart : Apart events) : after = holding := by
  have hnothing := h.aboutWorkload
  rw [aboutWorkload_eq_nil_iff.2 hapart] at hnothing
  cases hnothing
  rfl

/-- The cluster tells its one identifier. -/
theorem Through.identified {events : List (Event collaborators)} {told : String}
    (h : Through clusterId holding events after) (hmem : ⟨.clusterId, .ok told⟩ ∈ events) :
    told = clusterId := by
  induction h with
  | nil => cases hmem
  | cons hanswer _ ih =>
      rcases List.mem_cons.1 hmem with rfl | hlater
      · exact hanswer.2 told rfl
      · exact ih hlater

/-- A write has one effect, which leaves what was written, or none, if it fails. -/
theorem Writes.settled {monitor : Monitor} {desired : Workload} {carried : Document}
    {reply : Except Fault Workload}
    (h : holding.Writes { desired with resourceVersion := carried } reply after)
    (hbuilt : monitor.desiredWorkload clusterId = .ok desired) :
    (after = holding ∧ ∃ fault, reply = .error fault) ∨
      (after.effects = holding.effects + 1 ∧ after.Settled monitor clusterId) := by
  cases h with
  | failed fault => exact .inl ⟨rfl, fault, rfl⟩
  | @stored version stored _ hstored =>
      exact .inr ⟨rfl, desired, stored, _, hbuilt, rfl,
        Monitor.ofManifest_of_desiredWorkload hbuilt hstored,
        Monitor.hasChanged_of_desiredWorkload hbuilt _⟩

/-- What is settled stays so while the monitor goes through cycles. -/
theorem Settled.follows {monitor next : Monitor} (h : holding.Settled monitor clusterId)
    (hfollows : monitor.Follows next) : holding.Settled next clusterId := by
  obtain ⟨desired, body, live, hbuilt, hlive⟩ := h
  exact ⟨desired, body, live, (hfollows.desiredWorkload_eq clusterId).trans hbuilt, hlive⟩

end Holding

/-- A convergence that writes is told what is kept, and then writes. -/
theorem Holding.Through.of_write {clusterId : String} {holding after : Holding}
    {name scope : Document} {told : Except Fault Workload} {write : Event collaborators}
    (h : Through clusterId holding [⟨.getWorkload name scope, told⟩, write] after) :
    holding.Tells told ∧ holding.Answers clusterId write.request write.reply after := by
  obtain ⟨_, ⟨rfl, htells⟩, hrest⟩ := through_cons_iff.1 h
  obtain ⟨_, hanswer, hnothing⟩ := through_cons_iff.1 hrest
  cases hnothing
  exact ⟨htells, hanswer⟩

section Convergence

variable {monitor : Monitor} {clusterId : String} {desired : Workload} {holding after : Holding}
  {calls : List (Event collaborators)} {result : Except Fault Convergence}

/-- A convergence leaves what is kept alone, or one write of it has an effect. Where it succeeds the
workload is settled. -/
theorem ConvergeCalls.effect (h : ConvergeCalls desired calls result)
    (hbuilt : monitor.desiredWorkload clusterId = .ok desired)
    (hthrough : Holding.Through clusterId holding calls after) :
    (after = holding ∨
        after.effects = holding.effects + 1 ∧ after.Settled monitor clusterId) ∧
      ∀ convergence, result = .ok convergence → after.Settled monitor clusterId := by
  have hwrites : ∀ {carried : Document} {reply : Except Fault Workload} {convergence : Convergence},
      holding.Writes { desired with resourceVersion := carried } reply after →
      (after = holding ∨
          after.effects = holding.effects + 1 ∧ after.Settled monitor clusterId) ∧
        ∀ other, (reply.map fun _ => convergence) = .ok other →
          after.Settled monitor clusterId := by
    intro carried reply convergence hwrite
    rcases hwrite.settled hbuilt with ⟨hkept, fault, rfl⟩ | hsettled
    · refine ⟨.inl hkept, ?_⟩
      intro other hother
      cases hother
    · exact ⟨.inr hsettled, fun _ _ => hsettled.2⟩
  cases h with
  | unreadable _ =>
      obtain ⟨_, ⟨rfl, -⟩, hnothing⟩ := Holding.through_cons_iff.1 hthrough
      exact ⟨.inl (hnothing.of_apart (by simp [Apart])), by simp⟩
  | left hcurrent =>
      obtain ⟨_, ⟨rfl, htells⟩, hnothing⟩ := Holding.through_cons_iff.1 hthrough
      obtain rfl := hnothing.of_apart (by simp [Apart])
      cases htells with
      | found hlive hread =>
          exact ⟨.inl rfl, fun _ _ => ⟨desired, _, _, hbuilt, hlive, hread, hcurrent⟩⟩
  | created => exact hwrites hthrough.of_write.2
  | overwritten => exact hwrites hthrough.of_write.2

/-- Where the workload is settled, a convergence leaves it alone: it cannot read it, or finds it
unchanged. -/
theorem ConvergeCalls.of_settled (h : ConvergeCalls desired calls result)
    (hbuilt : monitor.desiredWorkload clusterId = .ok desired)
    (hthrough : Holding.Through clusterId holding calls after)
    (hsettled : holding.Settled monitor clusterId) :
    ∃ reply, calls = [⟨.getWorkload desired.name desired.scope, reply⟩] ∧
      ∀ live, reply = .ok live → result = .ok ⟨.unchanged, desired⟩ := by
  obtain ⟨_, body, live, hsame, hlive, hread, hcurrent⟩ := hsettled
  obtain rfl := Except.ok.inj (hbuilt.symm.trans hsame)
  cases h with
  | unreadable _ => exact ⟨_, rfl, by simp⟩
  | left _ => exact ⟨_, rfl, fun _ _ => rfl⟩
  | created _ hkind =>
      cases hthrough.of_write.1 with
      | missing _ habsent => cases habsent.symm.trans hlive
      | failed hother => exact absurd hkind hother
  | overwritten _ hchanged =>
      cases hthrough.of_write.1 with
      | found hfound hother =>
          obtain rfl := Option.some.inj (hlive.symm.trans hfound)
          obtain rfl := Except.ok.inj (hread.symm.trans hother)
          cases hchanged.symm.trans hcurrent

end Convergence

/-- The request writes a workload. -/
def CycleRequest.writesWorkload : CycleRequest → Bool
  | .createWorkload _ => true
  | .updateWorkload _ => true
  | .getWorkload .. => false
  | .provisionCredentials _ => false
  | .provisionProperties .. => false
  | .clusterId => false
  | .resolveVersion .. => false
  | .updateStatus _ => false
  | .register _ => false
  | .log _ => false
  | .count _ => false
  | .now => false

/-- A write of a workload is about a workload. -/
theorem CycleRequest.writesWorkload_of_apart {request : CycleRequest}
    (h : request.isAboutWorkload = false) : request.writesWorkload = false := by
  cases request <;> first | rfl | cases h

/-- The cycle got past its workload step, which did what the action tells. -/
def PassesWorkload (monitor : Monitor) (events : List (Event collaborators))
    (action : WorkloadAction) : Prop :=
  ∃ credentials first rest, events = first ++ rest ∧
    Path (provisionAndConverge monitor).outcome first (.done (.ok (credentials, action)))

/-- A cycle with what went into it, what it saw, and what came out of it. -/
structure CycleRecord where
  monitor : Monitor
  before : Holding
  events : List (Event collaborators)
  outcome : Except Fault Outcome
  after : Holding

/-- Cycles of one monitor, each with what the one before left of it and of its workload. -/
inductive Series (settings : Settings) (clusterId : String) :
    Monitor → Holding → List CycleRecord → Holding → Prop where
  | nil (monitor : Monitor) (holding : Holding) :
      Series settings clusterId monitor holding [] holding
  | cons {monitor next : Monitor} {before after finish : Holding}
      {events : List (Event collaborators)} {outcome : Except Fault Outcome}
      {cycles : List CycleRecord} :
      Path (reconcile settings monitor) events (.done (next, outcome)) →
      Holding.Through clusterId before events after →
      Series settings clusterId next after cycles finish →
      Series settings clusterId monitor before (⟨monitor, before, events, outcome, after⟩ :: cycles)
        finish

/-- The cycle leaves the workload alone, and finds it unchanged if it can read it. -/
structure CycleRecord.LeavesWorkload (cycle : CycleRecord) : Prop where
  kept : cycle.after = cycle.before
  silent : ∀ event ∈ cycle.events, event.request.writesWorkload = false
  unchanged : ∀ name scope live,
    (⟨.getWorkload name scope, .ok live⟩ : Event collaborators) ∈ cycle.events →
    PassesWorkload cycle.monitor cycle.events .unchanged

section Cycles

variable {settings : Settings} {clusterId : String} {monitor next : Monitor}
  {before after start finish : Holding} {events : List (Event collaborators)}
  {outcome : Except Fault Outcome} {cycles : List CycleRecord}

/-- A cycle does not ask for its workload, or it converges to it, and gets past its workload step
exactly if that succeeds. -/
theorem reconcile_core (hpath : Path (reconcile settings monitor) events (.done (next, outcome)))
    (hthrough : Holding.Through clusterId before events after) :
    (Apart events ∧ ∀ action, ¬ PassesWorkload monitor events action) ∨
      ∃ desired result, monitor.desiredWorkload clusterId = .ok desired ∧
        ConvergeCalls desired (aboutWorkload events) result ∧
        ∀ action, PassesWorkload monitor events action ↔
          ∃ convergence, result = .ok convergence ∧ convergence.action = action := by
  obtain ⟨-, result, first, rest, rfl, hrest, hfirst⟩ := reconcile_path hpath
  have hpasses : ∀ action, PassesWorkload monitor (first ++ rest) action ↔
      ∃ credentials, result = .ok (credentials, action) := by
    intro action
    constructor
    · rintro ⟨credentials, second, others, hsame, hsecond⟩
      obtain ⟨-, -, hresult⟩ := hfirst.done_unique hsecond hsame
      exact ⟨credentials, hresult⟩
    · rintro ⟨credentials, rfl⟩
      exact ⟨credentials, first, rest, rfl, hfirst⟩
  -- What is about workloads is in the first steps, and there it is among the calls.
  have habout : aboutWorkload (first ++ rest) = aboutWorkload first := by
    rw [aboutWorkload_append, aboutWorkload_eq_nil_iff.2 hrest, List.append_nil]
  rcases converges_of_provisionAndConverge ⟨first, hfirst, rfl⟩ with ⟨hapart, fault, rfl⟩ |
    ⟨credentials, told, desired, converged, hidentified, hbuilt, hconverge, rfl⟩
  · rw [← aboutWorkload_eq_nil_iff, aboutWorkload_calls] at hapart
    refine .inl ⟨?_, fun action => by simp [hpasses]⟩
    rw [← aboutWorkload_eq_nil_iff, habout, hapart]
  · rw [aboutWorkload_calls, ← habout] at hconverge
    obtain rfl := hthrough.identified (List.mem_append_left rest (List.mem_filter.1 hidentified).1)
    refine .inr ⟨desired, converged, hbuilt, hconverge, fun action => ?_⟩
    rw [hpasses]
    cases converged with
    | ok convergence =>
        show (∃ provisioned, Except.ok (credentials, convergence.action) =
          .ok (provisioned, action)) ↔ _
        simp
    | error fault =>
        show (∃ provisioned, Except.error (workloadFault fault) = .ok (provisioned, action)) ↔ _
        simp

/-- A cycle leaves what is kept alone, or one write of it has an effect. Past its workload step the
workload is settled. -/
theorem reconcile_effect (hpath : Path (reconcile settings monitor) events (.done (next, outcome)))
    (hthrough : Holding.Through clusterId before events after) :
    (after = before ∨ after.effects = before.effects + 1 ∧ after.Settled monitor clusterId) ∧
      ∀ action, PassesWorkload monitor events action → after.Settled monitor clusterId := by
  rcases reconcile_core hpath hthrough with ⟨hapart, hpasses⟩ |
    ⟨desired, result, hbuilt, hconverge, hpasses⟩
  · exact ⟨.inl (hthrough.of_apart hapart), fun action h => absurd h (hpasses action)⟩
  · obtain ⟨heffect, hsettles⟩ := hconverge.effect hbuilt hthrough.aboutWorkload
    refine ⟨heffect, fun action h => ?_⟩
    obtain ⟨convergence, hresult, -⟩ := (hpasses action).1 h
    exact hsettles convergence hresult

/-- A cycle leaves a settled workload alone. -/
theorem reconcile_of_settled
    (hpath : Path (reconcile settings monitor) events (.done (next, outcome)))
    (hthrough : Holding.Through clusterId before events after)
    (hsettled : before.Settled monitor clusterId) :
    CycleRecord.LeavesWorkload ⟨monitor, before, events, outcome, after⟩ := by
  rcases reconcile_core hpath hthrough with ⟨hapart, hpasses⟩ |
    ⟨desired, result, hbuilt, hconverge, hpasses⟩
  · refine ⟨hthrough.of_apart hapart, fun event hevent => ?_, ?_⟩
    · exact CycleRequest.writesWorkload_of_apart (hapart event hevent)
    · intro name scope live hread
      cases hapart _ hread
  · have hthrough' := hthrough.aboutWorkload
    obtain ⟨reply, habout, hunchanged⟩ := hconverge.of_settled hbuilt hthrough' hsettled
    rw [habout] at hthrough'
    obtain ⟨_, ⟨rfl, -⟩, hnothing⟩ := Holding.through_cons_iff.1 hthrough'
    -- The read is all that there is about workloads.
    have hread : ∀ event ∈ events, event.request.isAboutWorkload = true →
        event = ⟨.getWorkload desired.name desired.scope, reply⟩ := by
      intro event hevent hworkload
      have hmem : event ∈ aboutWorkload events := List.mem_filter.2 ⟨hevent, hworkload⟩
      rwa [habout, List.mem_singleton] at hmem
    refine ⟨hnothing.of_apart (by simp [Apart]), fun event hevent => ?_, ?_⟩
    · cases hworkload : event.request.isAboutWorkload with
      | false => exact CycleRequest.writesWorkload_of_apart hworkload
      | true =>
          rw [hread event hevent hworkload]
          rfl
    · intro name scope live hmem
      cases hread _ hmem rfl
      exact (hpasses _).2 ⟨_, hunchanged live rfl, rfl⟩

/-- Cycles leave a settled workload alone. -/
theorem Series.of_settled (h : Series settings clusterId monitor start cycles finish)
    (hsettled : start.Settled monitor clusterId) :
    finish = start ∧ ∀ cycle ∈ cycles, cycle.LeavesWorkload := by
  induction h with
  | nil => exact ⟨rfl, by simp⟩
  | @cons _ _ before after _ _ _ _ hpath hthrough _ ih =>
      have hleaves := reconcile_of_settled hpath hthrough hsettled
      have hkept : after = before := hleaves.kept
      rw [hkept] at ih
      obtain ⟨hfinish, hlater⟩ := ih (hsettled.follows (reconcile_path hpath).1)
      exact ⟨hfinish, List.forall_mem_cons.2 ⟨hleaves, hlater⟩⟩

/-- Over any number of cycles at most one write has an effect. -/
theorem Series.effects_le (h : Series settings clusterId monitor start cycles finish) :
    finish.effects ≤ start.effects + 1 := by
  induction h with
  | nil => exact Nat.le_succ _
  | cons hpath hthrough hlater ih =>
      rcases (reconcile_effect hpath hthrough).1 with rfl | ⟨heffects, hsettled⟩
      · exact ih
      -- The first write with an effect settles the workload, and later cycles leave it alone.
      · obtain ⟨rfl, -⟩ := hlater.of_settled (hsettled.follows (reconcile_path hpath).1)
        exact heffects.le

/-- After a cycle in which a write had an effect, or whose workload step succeeded, the others leave
the workload alone. -/
theorem Series.leaves (h : Series settings clusterId monitor start cycles finish)
    {earlier later : List CycleRecord} {cycle : CycleRecord}
    (hcycles : cycles = earlier ++ cycle :: later)
    (hdone : cycle.before.effects < cycle.after.effects ∨
      ∃ action, PassesWorkload cycle.monitor cycle.events action) :
    ∀ other ∈ later, other.LeavesWorkload := by
  induction h generalizing earlier with
  | nil => simp at hcycles
  | cons hpath hthrough hrest ih =>
      cases earlier with
      | cons first earlier => exact ih (List.cons.inj hcycles).2
      | nil =>
          obtain ⟨rfl, rfl⟩ := List.cons.inj hcycles
          obtain ⟨heffect, hpassed⟩ := reconcile_effect hpath hthrough
          refine (hrest.of_settled (.follows ?_ (reconcile_path hpath).1)).2
          rcases hdone with hless | ⟨action, hpasses⟩
          · rcases heffect with rfl | ⟨-, hsettled⟩
            · exact absurd hless (Nat.lt_irrefl _)
            · exact hsettled
          · exact hpassed action hpasses

end Cycles

/-- However requests fail in a series of cycles of one monitor, at most one write of its workload
has an effect. The cycles after it, or after one that got past its workload step, do not write the
workload, and those of them that can read it find it unchanged. -/
theorem resumes_safely (settings : Settings) (clusterId : String) (monitor : Monitor)
    (start finish : Holding) (cycles : List CycleRecord)
    (hseries : Series settings clusterId monitor start cycles finish) :
    finish.effects ≤ start.effects + 1 ∧
      ∀ earlier cycle later, cycles = earlier ++ cycle :: later →
        (cycle.before.effects < cycle.after.effects ∨
          ∃ action, PassesWorkload cycle.monitor cycle.events action) →
        ∀ other ∈ later, other.LeavesWorkload :=
  ⟨hseries.effects_le, fun _ _ _ hcycles hdone => hseries.leaves hcycles hdone⟩

/-- A cycle creates the workload and is told that this failed. The next one finds it unchanged, and
fails later on. -/
theorem resumes_safely_lost_create :
    ∃ (settings : Settings) (monitor : Monitor) (finish : Holding) (first second : CycleRecord),
      Series settings "c" monitor ⟨none, 0⟩ [first, second] finish ∧
      first.before.effects < first.after.effects ∧ (∃ fault, first.outcome = .error fault) ∧
      finish.effects ≤ 1 ∧ second.LeavesWorkload ∧
      PassesWorkload second.monitor second.events .unchanged := by
  obtain ⟨desired, hbuilt⟩ := Monitor.exists_desiredWorkload_plain "c"
  obtain ⟨stored, hstored⟩ := Cluster.exists_versioned?_manifest desired "1"
  let found : Workload := { desired with resourceVersion := .text "1" }
  have hfound : Workload.ofManifest (.object stored) = .ok found :=
    Monitor.ofManifest_of_desiredWorkload hbuilt hstored
  have hcurrent : found.hasChanged desired = false :=
    Monitor.hasChanged_of_desiredWorkload hbuilt (.text "1")
  have hidentified : ∀ told, (.ok "c" : Except Fault String) = .ok told → told = "c" := by
    intro told htold
    exact (Except.ok.inj htold).symm
  let settings : Settings := { disableVersionUpdates := true }
  let lost : Fault := .lower .brokenAssumption
  let start : Holding := ⟨none, 0⟩
  let created : Holding := ⟨some (.object stored), 1⟩
  -- The answer to the create of the first cycle is lost.
  have hcreating : Path (converge desired).outcome
      [⟨.getWorkload desired.name desired.scope, .error (.absent "")⟩,
        ⟨.log (workloadEvent .info "creating_statefulset" desired []), ()⟩,
        ⟨.createWorkload desired, .error lost⟩] (.done (.error lost)) :=
    .cons (.cons (.cons (.nil _)))
  have hcreated := path_provisionAndConverge rfl hbuilt none hcreating
  have hfirst : Path (reconcile settings .plain) (_ ++ [⟨.count (.cycles .error), ()⟩])
      (.done (.plain, .error (workloadFault lost))) :=
    reconcile_eq settings .plain ▸
      Path.bind_done_iff.2 ⟨_, _, _, rfl, hcreated, .cons (.nil _)⟩
  -- The second cycle finds the workload, and cannot write the status.
  have hleaving : Path (converge desired).outcome
      [⟨.getWorkload desired.name desired.scope, .ok found⟩,
        ⟨.log (workloadEvent .debug "statefulset_current" desired []), ()⟩]
      (.done (.ok ⟨.unchanged, desired⟩)) := by
    refine Task.path_bind_done_iff.2 (.inr ⟨some found, [_], _, rfl, .cons (.nil _), ?_⟩)
    simp only [hcurrent]
    exact .cons (.nil _)
  have hleft := path_provisionAndConverge rfl hbuilt none hleaving
  let time : Moment := default
  let stamped := Monitor.plain.stamped none time
  have hconcluding : Path ((concluding settings .plain (.ok (none, .unchanged))).bind counting)
      [⟨.count (.lookups .disabled), ()⟩, ⟨.now, time⟩, ⟨.updateStatus stamped, .error lost⟩,
        ⟨.log (faultEvent stamped "status_update_failed" [] lost), ()⟩,
        ⟨.count (.cycles .error), ()⟩] (.done (stamped, .error (statusFault lost))) :=
    .cons (.cons (.cons (.cons (.cons (.nil _)))))
  have hsecond : Path (reconcile settings .plain) _ (.done (stamped, .error (statusFault lost))) :=
    reconcile_eq settings .plain ▸ Path.bind_done_iff.2 ⟨_, _, _, rfl, hleft, hconcluding⟩
  have hfound_series := Series.cons hsecond
    (.cons rfl (.cons ⟨rfl, hidentified⟩ (.cons ⟨rfl, .found rfl hfound⟩ (.cons rfl
      (.cons rfl (.cons rfl (.cons rfl (.cons rfl (.cons rfl (.nil created))))))))))
    (.nil stamped created)
  have hseries : Series settings "c" .plain start _ created := .cons hfirst
    (.cons rfl (.cons ⟨rfl, hidentified⟩ (.cons ⟨rfl, .missing _ rfl⟩ (.cons rfl
      (.cons (.stored (.error lost) hstored) (.cons rfl (.cons rfl (.nil created))))))))
    hfound_series
  obtain ⟨heffects, hleaves⟩ := resumes_safely settings "c" .plain start created _ hseries
  have hsecond_leaves := hleaves [] _ _ rfl (.inl Nat.zero_lt_one) _ List.mem_cons_self
  exact ⟨settings, .plain, created, _, _, hseries, Nat.zero_lt_one, ⟨_, rfl⟩, heffects,
    hsecond_leaves, hsecond_leaves.unchanged _ _ found (.tail _ (.tail _ (.head _)))⟩

end MonitorOperator.Cycle
