import MonitorOperator.Operator
import MonitorOperator.Proofs.Process.Path

/-!
# The calls of a convergence

Seen from the API server, a convergence reads the live workload and then writes it at most once. The
process that does this, `Backend.converge`, is `Cycle.converge` with its requests answered through
the API server. `Backend.converge_eq` spells it out call by call, and `Backend.converge_stage` sorts
its paths by how far they have come.
-/

namespace MonitorOperator

open Cluster (ApiCall ApiReply)
open Process (Path)

namespace Cluster

/-- Issue a write, confirm it, and read the workload that the answer tells. -/
def written (what : String) (call : ApiCall) (confirmation : LogEvent) :
    Process system (Except Fault Workload) :=
  .call (.api call) fun
    | .error fault => .done (.error (explain what .workload fault))
    | .ok reply => .call (.log confirmation) fun _ => .done (workloadOf reply)

/-- The event that a workload was written. -/
def confirmation (event : String) (workload : Workload) : LogEvent :=
  workloadLogger.event .debug event [("name", workload.name), ("namespace", workload.scope)]

/-- A call about an object is one call, whose refusal is explained. -/
theorem callAbout_outcome (what : String) (otherwise : FaultKind) (call : ApiCall) :
    (callAbout what otherwise call).outcome =
      .call (.api call) fun reply => .done (reply.mapError (explain what otherwise)) :=
  rfl

/-- Creating a workload is one write. -/
theorem createWorkload_outcome (workload : Workload) :
    (createWorkload workload).outcome =
      written s!"create statefulset {path workload.scope workload.name}"
        (.createWorkload workload.scope workload.manifest)
        (confirmation "statefulset_created" workload) := by
  simp only [createWorkload, Task.outcome_bind, callAbout_outcome, Process.call_bind]
  refine congrArg (Process.call _) (funext fun reply => ?_)
  cases reply <;> rfl

/-- Overwriting a workload is one write. -/
theorem updateWorkload_outcome (workload : Workload) :
    (updateWorkload workload).outcome =
      written s!"update statefulset {path workload.scope workload.name}"
        (.replaceWorkload workload.name workload.scope workload.manifest)
        (confirmation "statefulset_replaced" workload) := by
  simp only [updateWorkload, Task.outcome_bind, callAbout_outcome, Process.call_bind]
  refine congrArg (Process.call _) (funext fun reply => ?_)
  cases reply <;> rfl

end Cluster

namespace Cycle

/-- The workload that the answer to the read of a convergence tells. -/
def readingOf (desired : Workload) : Except Fault ApiReply → Except Fault Workload
  | .ok reply => Cluster.workloadOf reply
  | .error fault =>
      .error (Cluster.explain s!"statefulset {Cluster.path desired.scope desired.name}" .workload
        fault)

/-- Announce a write, issue it, and count it if it succeeds. -/
def writing (announcement : LogEvent) (write : Process system (Except Fault Workload))
    (action : WriteAction) (convergence : Convergence) :
    Process system (Except Fault Convergence) :=
  .call (.log announcement) fun _ =>
    write.bind fun
      | .ok _ => .call (.count (.writes action)) fun _ => .done (.ok convergence)
      | .error fault => .done (.error fault)

/-- Create the desired workload through the API server. -/
def creating (desired : Workload) : Process system (Except Fault Convergence) :=
  writing (workloadEvent .info "creating_statefulset" desired [])
    (Cluster.createWorkload desired).outcome .created ⟨.created, desired⟩

/-- The desired workload at the version of the live one, as it is written over it. -/
def successor (live desired : Workload) : Workload :=
  { desired with resourceVersion := live.resourceVersion }

/-- Overwrite the live workload through the API server. -/
def overwriting (live desired : Workload) : Process system (Except Fault Convergence) :=
  writing
    (workloadEvent .info "updating_statefulset" desired
      [("live_fingerprint", live.fingerprint), ("desired_fingerprint", desired.fingerprint)])
    (Cluster.updateWorkload (successor live desired)).outcome .updated
    ⟨.updated, successor live desired⟩

/-- Leave the live workload as it is. -/
def leaving (desired : Workload) : Process system (Except Fault Convergence) :=
  .call (.log (workloadEvent .debug "statefulset_current" desired [])) fun _ =>
    .done (.ok ⟨.unchanged, desired⟩)

/-- What a convergence does after its read. -/
def afterRead (desired : Workload) :
    Except Fault Workload → Process system (Except Fault Convergence)
  | .ok live => if live.hasChanged desired then overwriting live desired else leaving desired
  | .error fault => if fault.kind = .notFound then creating desired else .done (.error fault)

/-- The read of a convergence, whose answer may be that there is nothing. -/
theorem liveWorkload_interpret (backend : Backend) (desired : Workload) :
    (liveWorkload desired).outcome.interpret backend.serve =
      .call (.api (.readWorkload desired.name desired.scope)) fun reply =>
        .done (match readingOf desired reply with
          | .ok live => .ok (some live)
          | .error fault => if fault.kind = .notFound then .ok none else .error fault) := by
  show (Cluster.getWorkload desired.name desired.scope).outcome.bind _ = _
  simp only [Cluster.getWorkload, Task.outcome_bind, Cluster.callAbout_outcome, Process.call_bind]
  refine congrArg (Process.call _) (funext fun reply => ?_)
  cases reply with
  | error fault => rfl
  | ok reply =>
      simp only [readingOf, Task.outcome_liftM_except]
      show (Process.done (Cluster.workloadOf reply)).bind _ = _
      cases Cluster.workloadOf reply <;> rfl

/-- A create of a convergence goes to the API server. -/
theorem create_interpret (backend : Backend) (desired : Workload) :
    (create desired).outcome.interpret backend.serve = creating desired := by
  refine congrArg (Process.call _) (funext fun _ => ?_)
  show (Cluster.createWorkload desired).outcome.bind _ = _
  refine congrArg (Process.bind _) (funext fun result => ?_)
  cases result <;> rfl

/-- An overwrite of a convergence goes to the API server. -/
theorem overwrite_interpret (backend : Backend) (live desired : Workload) :
    (overwrite live desired).outcome.interpret backend.serve = overwriting live desired := by
  refine congrArg (Process.call _) (funext fun _ => ?_)
  show (Cluster.updateWorkload (successor live desired)).outcome.bind _ = _
  refine congrArg (Process.bind _) (funext fun result => ?_)
  cases result <;> rfl

end Cycle

open MonitorOperator.Cycle

/-- A convergence through the API server. -/
def Backend.converge (backend : Backend) (desired : Workload) :
    Process system (Except Fault Convergence) :=
  (Cycle.converge desired).outcome.interpret backend.serve

/-- A convergence reads first and then does what the answer calls for. -/
theorem Backend.converge_eq (backend : Backend) (desired : Workload) :
    backend.converge desired =
      .call (.api (.readWorkload desired.name desired.scope)) fun reply =>
        afterRead desired (readingOf desired reply) := by
  rw [Backend.converge, Cycle.converge, Task.outcome_bind, Process.interpret_bind,
    liveWorkload_interpret, Process.call_bind]
  refine congrArg (Process.call _) (funext fun reply => ?_)
  rw [Process.done_bind]
  cases readingOf desired reply with
  | ok live =>
      by_cases h : live.hasChanged desired
      · simp only [afterRead, h, ↓reduceIte]
        exact overwrite_interpret backend live desired
      · simp only [afterRead, h, Bool.false_eq_true, ↓reduceIte]
        rfl
  | error fault =>
      by_cases h : fault.kind = .notFound
      · simp only [afterRead, h, ↓reduceIte]
        exact create_interpret backend desired
      · simp only [afterRead, h, ↓reduceIte]
        rfl

/-- The event of a call to the API server. -/
def apiEvent (call : ApiCall) (reply : Except Fault ApiReply) : Event system :=
  ⟨.api call, reply⟩

/-- Events of calls are the same if call and reply are. -/
@[simp] theorem apiEvent_inj {call other : ApiCall} {reply answer : Except Fault ApiReply} :
    apiEvent call reply = apiEvent other answer ↔ call = other ∧ reply = answer := by
  constructor
  · intro h
    cases h
    exact ⟨rfl, rfl⟩
  · rintro ⟨rfl, rfl⟩
    rfl

/-- None of the events is a call to the API server. -/
def Silent (events : List (Event system)) : Prop :=
  ∀ call reply, apiEvent call reply ∉ events

namespace Cycle

/-- The event of the read that a convergence begins with. -/
def readEvent (desired : Workload) (reply : Except Fault ApiReply) : Event system :=
  apiEvent (.readWorkload desired.name desired.scope) reply

/-- The write that a convergence issues after a reading, with the result if it is accepted. -/
inductive Plans (desired : Workload) : Except Fault Workload → ApiCall → Convergence → Prop where
  | create {fault : Fault} :
      fault.kind = .notFound →
      Plans desired (.error fault) (.createWorkload desired.scope desired.manifest)
        ⟨.created, desired⟩
  | overwrite {live : Workload} :
      live.hasChanged desired →
      Plans desired (.ok live)
        (.replaceWorkload desired.name desired.scope (successor live desired).manifest)
        ⟨.updated, successor live desired⟩

/-- How far a convergence has come: what it saw, and what is left to do. -/
inductive Stage (desired : Workload) :
    List (Event system) → Process system (Except Fault Convergence) → Prop where
  | unread {rest : Process system (Except Fault Convergence)} :
      (∀ outcome, rest ≠ .done outcome) → Stage desired [] rest
  | unreadable {reply : Except Fault ApiReply} {fault : Fault} :
      readingOf desired reply = .error fault →
      Stage desired [readEvent desired reply] (.done (.error fault))
  | current {reply : Except Fault ApiReply} {live : Workload} {later : List (Event system)}
      {rest : Process system (Except Fault Convergence)} :
      readingOf desired reply = .ok live → ¬ live.hasChanged desired → Silent later →
      (∀ outcome, rest = .done outcome → outcome = .ok ⟨.unchanged, desired⟩) →
      Stage desired (readEvent desired reply :: later) rest
  | pending {reply : Except Fault ApiReply} {later : List (Event system)}
      {rest : Process system (Except Fault Convergence)} :
      Silent later → (∀ outcome, rest ≠ .done outcome) →
      Stage desired (readEvent desired reply :: later) rest
  | refused {reply : Except Fault ApiReply} {write : ApiCall} {convergence : Convergence}
      {before : List (Event system)} {fault : Fault} {what : String} :
      Plans desired (readingOf desired reply) write convergence → Silent before →
      Stage desired (readEvent desired reply :: (before ++ [apiEvent write (.error fault)]))
        (.done (.error (Cluster.explain what .workload fault)))
  | accepted {reply : Except Fault ApiReply} {write : ApiCall} {convergence : Convergence}
      {before later : List (Event system)} {answer : ApiReply}
      {rest : Process system (Except Fault Convergence)} :
      Plans desired (readingOf desired reply) write convergence → Silent before → Silent later →
      (∀ outcome, rest = .done outcome →
        outcome = (Cluster.workloadOf answer).map fun _ => convergence) →
      Stage desired (readEvent desired reply :: (before ++ apiEvent write (.ok answer) :: later))
        rest

/-- No events are silent. -/
theorem silent_nil : Silent [] := by simp [Silent]

/-- Logging is silent, and so is counting. -/
theorem silent_cons {event : Event system} {events : List (Event system)}
    (hevent : ∀ call, event.request ≠ .api call) (hevents : Silent events) :
    Silent (event :: events) := by
  intro call reply hmem
  rcases List.mem_cons.1 hmem with rfl | hlater
  · exact hevent call rfl
  · exact hevents call reply hlater

/-- After a write was accepted nothing more is called, and the answer decides the result. -/
theorem confirming_path {confirmation : LogEvent} {answer : ApiReply} {action : WriteAction}
    {convergence : Convergence} {events : List (Event system)}
    {rest : Process system (Except Fault Convergence)}
    (h : Path
      ((.call (.log confirmation) fun _ =>
        (Process.done (Cluster.workloadOf answer)).bind fun
          | .ok _ => .call (.count (.writes action)) fun _ => .done (.ok convergence)
          | .error fault => .done (.error fault)) : Process system (Except Fault Convergence))
      events rest) :
    Silent events ∧ ∀ outcome, rest = .done outcome →
      outcome = (Cluster.workloadOf answer).map fun _ => convergence := by
  rcases Path.call_iff.1 h with ⟨rfl, rfl⟩ | ⟨_, events, rfl, hread⟩
  · exact ⟨silent_nil, by simp⟩
  rw [Process.done_bind] at hread
  cases hanswer : Cluster.workloadOf answer with
  | error fault =>
      rw [hanswer] at hread
      obtain ⟨rfl, rfl⟩ := Path.done_iff.1 hread
      refine ⟨silent_cons (by simp) silent_nil, ?_⟩
      intro outcome houtcome
      exact (Process.done.inj houtcome).symm
  | ok workload =>
      rw [hanswer] at hread
      rcases Path.call_iff.1 hread with ⟨rfl, rfl⟩ | ⟨_, events, rfl, hcount⟩
      · exact ⟨silent_cons (by simp) silent_nil, by simp⟩
      obtain ⟨rfl, rfl⟩ := Path.done_iff.1 hcount
      refine ⟨silent_cons (by simp) (silent_cons (by simp) silent_nil), ?_⟩
      intro outcome houtcome
      exact (Process.done.inj houtcome).symm

/-- A write has been issued or not; if it has, it is the last event on a refusal, and else decides
the result. -/
theorem writing_path {announcement confirmation : LogEvent} {what : String} {call : ApiCall}
    {action : WriteAction} {convergence : Convergence} {events : List (Event system)}
    {rest : Process system (Except Fault Convergence)}
    (h : Path (writing announcement (Cluster.written what call confirmation) action convergence)
      events rest) :
    (Silent events ∧ ∀ outcome, rest ≠ .done outcome) ∨
      (∃ before fault, Silent before ∧ events = before ++ [apiEvent call (.error fault)] ∧
        rest = .done (.error (Cluster.explain what .workload fault))) ∨
      ∃ before answer later, Silent before ∧ Silent later ∧
        events = before ++ apiEvent call (.ok answer) :: later ∧
        ∀ outcome, rest = .done outcome →
          outcome = (Cluster.workloadOf answer).map fun _ => convergence := by
  rcases Path.call_iff.1 h with ⟨rfl, rfl⟩ | ⟨_, events, rfl, hwrite⟩
  · exact .inl ⟨silent_nil, by simp⟩
  have hannounced : Silent [⟨.log announcement, ()⟩] := silent_cons (by simp) silent_nil
  rcases Path.call_iff.1 hwrite with ⟨rfl, rfl⟩ | ⟨reply, events, rfl, hreply⟩
  · exact .inl ⟨hannounced, by simp⟩
  cases reply with
  | error fault =>
      obtain ⟨rfl, rfl⟩ := Path.done_iff.1 hreply
      exact .inr (.inl ⟨_, fault, hannounced, rfl, rfl⟩)
  | ok answer =>
      obtain ⟨hlater, hrest⟩ := confirming_path hreply
      exact .inr (.inr ⟨_, answer, events, hannounced, hlater, rfl, hrest⟩)

/-- Once a write is planned, a path of it is a stage of the convergence. -/
theorem Stage.of_writing {desired : Workload} {reply : Except Fault ApiReply}
    {announcement confirmation : LogEvent} {what : String} {call : ApiCall} {action : WriteAction}
    {convergence : Convergence} {events : List (Event system)}
    {rest : Process system (Except Fault Convergence)}
    (hplans : Plans desired (readingOf desired reply) call convergence)
    (h : Path (writing announcement (Cluster.written what call confirmation) action convergence)
      events rest) : Stage desired (readEvent desired reply :: events) rest := by
  rcases writing_path h with ⟨hsilent, hrest⟩ | ⟨before, fault, hsilent, rfl, rfl⟩ |
    ⟨before, answer, later, hbefore, hlater, rfl, hrest⟩
  · exact .pending hsilent hrest
  · exact .refused hplans hsilent
  · exact .accepted hplans hbefore hlater hrest

end Cycle

/-- A convergence comes to its read first. -/
theorem Backend.converge_unread (backend : Backend) (desired : Workload) :
    Path (backend.converge desired) []
      (.call (.api (.readWorkload desired.name desired.scope)) fun reply =>
        afterRead desired (readingOf desired reply)) := by
  rw [Backend.converge_eq]
  exact .nil _

/-- A convergence goes on from its read as the answer tells. -/
theorem Backend.converge_read (backend : Backend) {desired : Workload}
    {reply : Except Fault ApiReply} {events : List (Event system)}
    {rest : Process system (Except Fault Convergence)}
    (h : Path (afterRead desired (readingOf desired reply)) events rest) :
    Path (backend.converge desired) (readEvent desired reply :: events) rest := by
  rw [Backend.converge_eq]
  exact .cons h

/-- Every path of a convergence is at one of its stages. -/
theorem Backend.converge_stage {backend : Backend} {desired : Workload}
    {events : List (Event system)} {rest : Process system (Except Fault Convergence)}
    (h : Path (backend.converge desired) events rest) : Stage desired events rest := by
  rw [Backend.converge_eq] at h
  rcases Path.call_iff.1 h with ⟨rfl, rfl⟩ | ⟨reply, events, rfl, hafter⟩
  · exact .unread (by simp)
  show Stage desired (readEvent desired reply :: events) rest
  cases hread : readingOf desired reply with
  | error fault =>
      simp only [hread, afterRead] at hafter
      split at hafter
      · next hmissing =>
          rw [creating, Cluster.createWorkload_outcome] at hafter
          exact .of_writing (hread ▸ .create hmissing) hafter
      · obtain ⟨rfl, rfl⟩ := Path.done_iff.1 hafter
        exact .unreadable hread
  | ok live =>
      simp only [hread, afterRead] at hafter
      split at hafter
      · next hchanged =>
          rw [overwriting, Cluster.updateWorkload_outcome] at hafter
          exact .of_writing (hread ▸ .overwrite hchanged) hafter
      · next hcurrent =>
          rcases Path.call_iff.1 hafter with ⟨rfl, rfl⟩ | ⟨_, events, rfl, hleft⟩
          · exact .current hread hcurrent silent_nil (by simp)
          obtain ⟨rfl, rfl⟩ := Path.done_iff.1 hleft
          refine .current hread hcurrent (silent_cons (by simp) silent_nil) ?_
          intro outcome houtcome
          exact (Process.done.inj houtcome).symm

end MonitorOperator
