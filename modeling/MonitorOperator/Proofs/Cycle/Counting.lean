import MonitorOperator.Proofs.Cycle.Reach
import MonitorOperator.Proofs.Process.Along

/-!
# What the counters show

The increments of a cycle are spread over its steps. Step by step, what is counted is what is due
for the replies that the step got (`Books`), so that a whole cycle counts that and how it ended
(`along_reconcile`). The counters of any number of cycles therefore account for all of them
(`counters_account`): none is left out, whatever fails, and none is counted twice.
-/

namespace MonitorOperator.Cycle

open Process (Along)

/-- The counter that is incremented. -/
def counted? : Event collaborators → Option Counter
  | ⟨.count counter, _⟩ => some counter
  | _ => none

/-- How a registration is counted that the dashboard refuses. -/
def refusal (fault : Fault) : RegistrationResult :=
  if fault.kind = .dashboardAlreadyRegistered then .alreadyRegistered else .failed

/-- The counter for the reply to a call, if such replies are counted. -/
def replied? : Event collaborators → Option Counter
  | ⟨.createWorkload _, .ok _⟩ => some (.writes .created)
  | ⟨.updateWorkload _, .ok _⟩ => some (.writes .updated)
  | ⟨.resolveVersion _ _, .ok _⟩ => some (.lookups .resolved)
  | ⟨.resolveVersion _ _, .error _⟩ => some (.lookups .degraded)
  | ⟨.register _, .ok _⟩ => some (.registrations .registered)
  | ⟨.register _, .error fault⟩ => some (.registrations (refusal fault))
  | _ => none

/-- The counter of a lookup that is switched off. -/
def switchedOff? (settings : Settings) : Option Counter :=
  if settings.disableVersionUpdates then some (.lookups .disabled) else none

/-- The counter that is due for an event: that of the reply to a call and, because the lookup comes
right before the status is written, that of a lookup that is switched off. -/
def due? (settings : Settings) : Event collaborators → Option Counter
  | ⟨.updateStatus _, _⟩ => switchedOff? settings
  | event => replied? event

/-- What the counters show. -/
abbrev Counters := Counter → Nat

/-- Counters that were never incremented. -/
def Counters.zero : Counters := fun _ => 0

/-- The counters after one of them is incremented. -/
def Counters.incremented (counters : Counters) (counter : Counter) : Counters :=
  Function.update counters counter (counters counter + 1)

/-- The counters after events. -/
def Counters.after (counters : Counters) (events : List (Event collaborators)) : Counters :=
  (events.filterMap counted?).foldl incremented counters

/-- How a cycle ended: it returned, raised a conflict, or raised something else. -/
def resultOf : Except Fault Outcome → CycleResult
  | .ok _ => .success
  | .error fault => if fault.kind = .conflict then .conflict else .error

open scoped Classical in
/-- What the counters show is what happened in the cycles. -/
structure Accounts (counters : Counters) (cycles : List CycleHistory) : Prop where
  /-- The cycles are counted by how they ended. -/
  ended : ∀ result,
    counters (.cycles result) = cycles.countP fun cycle => resultOf cycle.outcome = result
  /-- No cycle is left out or counted twice. -/
  total : counters (.cycles .success) + counters (.cycles .conflict) + counters (.cycles .error) =
    cycles.length
  /-- The writes are counted that were accepted. -/
  written : ∀ action, counters (.writes action) =
    (eventsOf cycles).countP fun event => replied? event = some (.writes action)
  /-- The lookups that were made are counted by the reply of the resolver. -/
  resolved : ∀ lookup, lookup ≠ .disabled → counters (.lookups lookup) =
    (eventsOf cycles).countP fun event => replied? event = some (.lookups lookup)
  /-- A lookup is switched off in a cycle that comes to it and has it disabled. -/
  disabled : counters (.lookups .disabled) =
    cycles.countP fun cycle =>
      Converged cycle.monitor cycle.run.calls ∧ cycle.settings.disableVersionUpdates
  /-- There is one lookup for every cycle whose workload step succeeded. -/
  lookedUp : counters (.lookups .resolved) + counters (.lookups .disabled) +
      counters (.lookups .degraded) =
    cycles.countP fun cycle => Converged cycle.monitor cycle.run.calls
  /-- The registrations are counted by the reply of the dashboard. -/
  answered : ∀ result, counters (.registrations result) =
    (eventsOf cycles).countP fun event => replied? event = some (.registrations result)
  /-- There is one registration for every cycle that recorded the status and had an endpoint and a
  dashboard. -/
  registered : counters (.registrations .registered) +
      counters (.registrations .alreadyRegistered) + counters (.registrations .failed) =
    cycles.countP fun cycle =>
      Recorded cycle.run.calls ∧ cycle.monitor.hasEndpoint ∧ cycle.settings.hasDashboard

/-- What was counted is what was due, in any order. -/
def Booked (settings : Settings) (events : List (Event collaborators)) : Prop :=
  (events.filterMap counted?).Perm (events.filterMap (due? settings))

/-- A process counts what is due, whatever the replies. -/
abbrev Books {α : Type} (settings : Settings) (process : Process collaborators α) : Prop :=
  Along (fun events _ => Booked settings events) process

section Books

variable {settings : Settings} {α β : Type}

/-- Events that follow each other are booked if both are. -/
theorem Booked.append {first second : List (Event collaborators)} (hfirst : Booked settings first)
    (hsecond : Booked settings second) : Booked settings (first ++ second) := by
  unfold Booked
  rw [List.filterMap_append, List.filterMap_append]
  exact List.Perm.append hfirst hsecond

/-- A task and what follows it count what is due. -/
theorem books_task_bind {task : Task collaborators α} {rest : α → Task collaborators β}
    (htask : Books settings task.outcome) (hrest : ∀ result, Books settings (rest result).outcome) :
    Books settings (task >>= rest).outcome :=
  Task.along_bind_events (fun _ _ => Booked.append) htask hrest

/-- An attempt counts what the step does. -/
theorem books_attempt {step : Task collaborators α} {report : Fault → LogEvent}
    {raise : Fault → Fault} (h : Books settings step.outcome) :
    Books settings (attempt step report raise).outcome := by
  refine Along.bind_events (fun _ _ => Booked.append) h fun tried => ?_
  cases tried with
  | ok result => exact .refl _
  | error fault => exact fun _ => .refl _

/-- Nothing is due for the properties. -/
theorem books_propertiesStep (monitor : Monitor) :
    Books settings (propertiesStep monitor).outcome := by
  unfold propertiesStep
  split
  · exact .refl _
  · exact books_attempt fun _ => .refl _

/-- Nothing is due for a read. -/
theorem books_liveWorkload (desired : Workload) :
    Books settings (liveWorkload desired).outcome := by
  intro reply
  cases reply with
  | ok live => exact .refl _
  | error fault => exact .refl _

/-- A creation is counted if it is accepted. -/
theorem books_create (desired : Workload) : Books settings (create desired).outcome := by
  intro _ reply
  cases reply with
  | ok created => exact fun _ => .refl _
  | error fault => exact .refl _

/-- An overwrite is counted if it is accepted. -/
theorem books_overwrite (live desired : Workload) :
    Books settings (overwrite live desired).outcome := by
  intro _ reply
  cases reply with
  | ok updated => exact fun _ => .refl _
  | error fault => exact .refl _

/-- A convergence counts its write. -/
theorem books_converge (desired : Workload) : Books settings (converge desired).outcome := by
  refine books_task_bind (books_liveWorkload desired) fun found => ?_
  cases found with
  | none => exact books_create desired
  | some live =>
      dsimp only
      split
      · exact books_overwrite live desired
      · exact fun _ => .refl _

/-- The workload step counts the write of its convergence. -/
theorem books_workloadStep (monitor : Monitor) :
    Books settings (workloadStep monitor).outcome := by
  refine books_attempt (books_task_bind (fun _ => .refl _) fun clusterId => ?_)
  refine books_task_bind ?_ fun desired => books_task_bind (books_converge desired) fun _ => .refl _
  rw [Task.outcome_liftM_except]
  exact .refl _

/-- The steps before the version step count what is due. -/
theorem books_provisionAndConverge (monitor : Monitor) :
    Books settings (provisionAndConverge monitor).outcome := by
  refine books_task_bind (books_attempt fun _ => .refl _) fun credentials => ?_
  refine books_task_bind (books_propertiesStep monitor) fun _ => ?_
  exact books_task_bind (books_workloadStep monitor) fun _ => .refl _

/-- The version step counts one lookup, also one that is switched off and not due yet. -/
theorem along_versionStep (monitor : Monitor) (credentials : Option Credentials) :
    Along (fun events _ => events.filterMap counted? =
        (switchedOff? settings).toList ++ events.filterMap (due? settings))
      (versionStep settings monitor credentials) := by
  unfold versionStep
  cases hdisabled : settings.disableVersionUpdates with
  | true =>
      have hoff : switchedOff? settings = some (.lookups .disabled) := if_pos hdisabled
      rw [hoff]
      exact fun _ => rfl
  | false =>
      have hon : switchedOff? settings = none := by simp [switchedOff?, hdisabled]
      rw [hon]
      intro reply
      cases reply with
      | error fault => exact fun _ _ => rfl
      | ok record =>
          show Along _ (ite _ _ _)
          split
          · exact fun _ _ => rfl
          · exact fun _ => rfl

/-- With the status the lookup is due that was switched off. -/
theorem along_statusStep (settings : Settings) (monitor : Monitor)
    (version : Option VersionRecord) :
    Along (fun events _ => (switchedOff? settings).toList ++ events.filterMap counted? =
        events.filterMap (due? settings))
      (statusStep monitor version) := by
  rw [statusStep_eq]
  intro time reply _
  -- Nothing is counted, and only the write makes something due.
  show _ ++ [] = List.filterMap (due? settings)
    [⟨.now, time⟩, ⟨.updateStatus (monitor.stamped version time), reply⟩, _]
  rw [List.filterMap_eq_flatMap_toList]
  rfl

/-- A registration is counted by the reply. -/
theorem books_registration (monitor : Monitor) : Books settings (registration monitor) := by
  intro reply
  cases reply with
  | ok dashboardId => exact fun _ _ => .refl _
  | error fault =>
      show Along _ (ite _ _ _)
      split
      · next hkind =>
          have hrefusal : refusal fault = .alreadyRegistered := if_pos hkind
          intro _ _
          show List.Perm [Counter.registrations .alreadyRegistered] [.registrations (refusal fault)]
          rw [hrefusal]
      · next hkind =>
          have hrefusal : refusal fault = .failed := if_neg hkind
          intro _ _
          show List.Perm [Counter.registrations .failed] [.registrations (refusal fault)]
          rw [hrefusal]

/-- The dashboard step counts its registration. -/
theorem books_dashboardStep (monitor : Monitor) :
    Books settings (dashboardStep settings monitor) := by
  unfold dashboardStep
  split
  · exact .refl _
  split
  · exact books_registration monitor
  · exact fun _ => .refl _

/-- The steps from the version step on count what is due. -/
theorem books_recordAndRegister (monitor : Monitor) (credentials : Option Credentials)
    (action : WorkloadAction) :
    Books settings (recordAndRegister settings monitor credentials action) := by
  refine Along.bind (along_versionStep monitor credentials) fun version (_, record) hversion => ?_
  refine Along.bind (along_statusStep settings monitor record) fun status written hstatus => ?_
  -- What the version step counted too early has now become due.
  have hwritten : Booked settings (version ++ status) := by
    unfold Booked
    rw [List.filterMap_append, List.filterMap_append, hversion, ← hstatus, ← List.append_assoc]
    exact List.perm_append_comm.append_right _
  match written with
  | (_, .error fault) => simpa using hwritten
  | (next, .ok ()) =>
      refine Along.bind (books_dashboardStep next) fun dashboard dashboardId hdashboard => ?_
      simpa using hwritten.append hdashboard

/-- A cycle counts what is due and how it ended. -/
theorem along_reconcile (monitor : Monitor) :
    Along (fun events result => (events.filterMap counted?).Perm
        (events.filterMap (due? settings) ++ (counterOf result.2).toList))
      (reconcile settings monitor) := by
  rw [reconcile_eq]
  have hfirst : Books settings (provisionAndConverge monitor).outcome :=
    books_provisionAndConverge monitor
  refine Along.bind hfirst fun first converged hfirst => ?_
  have hconcluding : Books settings (concluding settings monitor converged) := by
    match converged with
    | .error fault => exact List.Perm.refl _
    | .ok (credentials, action) => exact books_recordAndRegister monitor credentials action
  refine Along.bind hconcluding fun second result hsecond => ?_
  have hbooked := hfirst.append hsecond
  unfold counting
  cases hcounter : counterOf result.2 with
  | none => simpa [hcounter, Booked] using hbooked
  | some counter =>
      have hended : ((first ++ second).filterMap counted? ++ [counter]).Perm
          ((first ++ second).filterMap (due? settings) ++ [counter]) :=
        List.Perm.append_right [counter] hbooked
      intro reply
      have hcounts : counted? ⟨.count counter, reply⟩ = some counter := rfl
      have hdue : due? settings ⟨.count counter, reply⟩ = none := rfl
      simpa [hcounter, List.filterMap_cons, hcounts, hdue] using hended

end Books

section Replies

variable {settings : Settings} {event : Event collaborators}

/-- No reply is counted as the end of a cycle. -/
theorem replied?_ne_cycles (event : Event collaborators) (result : CycleResult) :
    replied? event ≠ some (.cycles result) := by
  unfold replied?
  split <;> simp

/-- No reply is counted as a lookup that is switched off. -/
theorem replied?_ne_disabled (event : Event collaborators) :
    replied? event ≠ some (.lookups .disabled) := by
  unfold replied?
  split <;> simp

/-- Apart from lookups that are switched off, what is due are the replies. -/
theorem due?_eq_some_iff {counter : Counter} (h : counter ≠ .lookups .disabled) :
    due? settings event = some counter ↔ replied? event = some counter := by
  obtain ⟨request, reply⟩ := event
  cases request with
  | updateStatus written =>
      simp only [due?, switchedOff?, replied?]
      split <;> simp [h.symm]
  | _ => rfl

/-- A lookup that is switched off is due with the status. -/
theorem due?_eq_disabled_iff :
    due? settings event = some (.lookups .disabled) ↔
      event.request.call? = some .status ∧ settings.disableVersionUpdates = true := by
  obtain ⟨request, reply⟩ := event
  cases request with
  | updateStatus written => simp [due?, switchedOff?, CycleRequest.call?]
  | _ => simp [due?, CycleRequest.call?, replied?_ne_disabled]

/-- Conditions of which one holds at most are counted one by one or together. -/
theorem sum_countP_eq {α : Type} (conditions : List (α → Bool)) (any : α → Bool)
    (h : ∀ item, (conditions.map fun holds => (holds item).toNat).sum = (any item).toNat)
    (items : List α) : (conditions.map fun holds => items.countP holds).sum = items.countP any := by
  induction items with
  | nil => simp
  | cons item items ih =>
      have hone : ∀ holds : Bool, (if holds = true then 1 else 0) = holds.toNat := by decide
      simp only [List.countP_cons, hone, List.sum_map_add, ih, h]

/-- The calls of a kind, counted among the events or among the kinds. -/
theorem countP_call?_eq (events : List (Event collaborators)) (kind : CallKind) :
    events.countP (fun event => event.request.call? = some kind) = (kinds events).count kind := by
  rw [kinds, List.count_filterMap]
  simp [beq_eq_decide]

/-- Every reply of the resolver is counted as a lookup. -/
theorem countP_resolve (events : List (Event collaborators)) :
    events.countP (fun event => replied? event = some (.lookups .resolved)) +
        events.countP (fun event => replied? event = some (.lookups .degraded)) =
      (kinds events).count .resolve := by
  rw [← countP_call?_eq]
  have hsum := sum_countP_eq
    [fun event => replied? event = some (.lookups .resolved),
      fun event => replied? event = some (.lookups .degraded)]
    (fun event => event.request.call? = some .resolve) ?_ events
  · simpa using hsum
  rintro ⟨request, reply⟩
  cases request with
  | createWorkload | updateWorkload | resolveVersion | register => cases reply <;> rfl
  | _ => rfl

/-- Every reply of the dashboard is counted as a registration. -/
theorem countP_register (events : List (Event collaborators)) :
    events.countP (fun event => replied? event = some (.registrations .registered)) +
        events.countP (fun event => replied? event = some (.registrations .alreadyRegistered)) +
        events.countP (fun event => replied? event = some (.registrations .failed)) =
      (kinds events).count .register := by
  rw [← countP_call?_eq]
  have hsum := sum_countP_eq
    [fun event => replied? event = some (.registrations .registered),
      fun event => replied? event = some (.registrations .alreadyRegistered),
      fun event => replied? event = some (.registrations .failed)]
    (fun event => event.request.call? = some .register) ?_ events
  · simpa [add_assoc] using hsum
  rintro ⟨request, reply⟩
  cases request with
  | createWorkload | updateWorkload | resolveVersion => cases reply <;> rfl
  | register endpoint =>
      cases reply with
      | ok => rfl
      | error fault =>
          have hreplied : replied? ⟨.register endpoint, .error fault⟩ =
              some (.registrations (refusal fault)) := rfl
          have hrefusal : refusal fault = .alreadyRegistered ∨ refusal fault = .failed :=
            ite_eq_or_eq _ _ _
          rcases hrefusal with hrefusal | hrefusal <;>
            simp [hreplied, hrefusal, CycleRequest.call?]
  | _ => rfl

end Replies

namespace Counters

/-- A counter moves by how often it is incremented. -/
theorem after_apply (counters : Counters) (events : List (Event collaborators))
    (counter : Counter) :
    counters.after events counter =
      counters counter + (events.filterMap counted?).count counter := by
  unfold after
  induction events.filterMap counted? generalizing counters with
  | nil => rfl
  | cons first others ih =>
      rw [List.foldl_cons, ih, incremented, List.count_cons]
      by_cases hfirst : first = counter
      · rw [hfirst, Function.update_self, beq_self_eq_true, if_pos rfl]
        omega
      · rw [Function.update_of_ne (Ne.symm hfirst), beq_false_of_ne hfirst]
        rfl

/-- What was never incremented before moves by all the events. -/
theorem zero_after_append (first second : List (Event collaborators)) (counter : Counter) :
    zero.after (first ++ second) counter =
      zero.after first counter + zero.after second counter := by
  simp [after_apply, zero]

end Counters

/-- A cycle that ends in one of the four ways of failing, or in none, is counted by how it ended. -/
theorem counterOf_eq {outcome : Except Fault Outcome}
    (h : ∀ fault, outcome = .error fault →
      fault.kind ∈ [.conflict, .provisioning, .workload, .statusPersist]) :
    counterOf outcome = some (.cycles (resultOf outcome)) := by
  cases outcome with
  | ok result => rfl
  | error fault =>
      have hkind := h fault rfl
      by_cases hconflict : fault.kind = .conflict
      · simp [counterOf, resultOf, hconflict]
      · have hengine : fault.kind.isEngine = true := by
          simp only [List.mem_cons, hconflict, List.not_mem_nil, or_false, false_or] at hkind
          rcases hkind with hkind | hkind | hkind <;> rw [hkind] <;> rfl
        simp [counterOf, resultOf, hconflict, hengine]

/-- Every cycle ends in one of three ways. -/
theorem sum_countP_resultOf (cycles : List CycleHistory) :
    cycles.countP (fun cycle => resultOf cycle.outcome = .success) +
        cycles.countP (fun cycle => resultOf cycle.outcome = .conflict) +
        cycles.countP (fun cycle => resultOf cycle.outcome = .error) =
      cycles.length := by
  rw [← List.countP_true]
  have hsum := sum_countP_eq
    [fun cycle : CycleHistory => resultOf cycle.outcome = .success,
      fun cycle => resultOf cycle.outcome = .conflict,
      fun cycle => resultOf cycle.outcome = .error]
    (fun _ => true) ?_ cycles
  · simpa [add_assoc] using hsum
  intro cycle
  cases hresult : resultOf cycle.outcome <;> simp [hresult]

namespace CycleHistory

variable (cycle : CycleHistory)

/-- Everything that has a kind is a call. -/
theorem kinds_calls : kinds cycle.run.calls = kinds cycle.events := by
  rw [kinds, kinds, run, List.filterMap_filter]
  refine List.filterMap_congr fun event _ => ?_
  cases hkind : event.request.call? <;> simp [CycleRequest.isCall, hkind]

/-- A cycle moves a counter by what was due, and by one if it ended so. -/
theorem count_eq (counter : Counter) :
    Counters.zero.after cycle.events counter =
      (cycle.events.countP fun event => due? cycle.settings event = some counter) +
        if Counter.cycles (resultOf cycle.outcome) = counter then 1 else 0 := by
  have hbooked := cycle.path.along (along_reconcile cycle.monitor)
  have hcounter : counterOf cycle.outcome = some (.cycles (resultOf cycle.outcome)) :=
    counterOf_eq (calls_reconcile cycle.run.made).classified.closed
  have hended : (some (Counter.cycles (resultOf cycle.outcome))).toList.count counter =
      if Counter.cycles (resultOf cycle.outcome) = counter then 1 else 0 := by
    simp [List.count_singleton]
  rw [Counters.after_apply, hbooked.count_eq, List.count_append, List.count_filterMap, hcounter,
    hended]
  simp [Counters.zero, beq_eq_decide]

/-- A cycle is counted by how it ended, and nothing else is. -/
theorem count_ended (result : CycleResult) :
    Counters.zero.after cycle.events (.cycles result) =
      [cycle].countP fun cycle => resultOf cycle.outcome = result := by
  rw [cycle.count_eq, List.countP_eq_zero.2]
  · simp [List.countP_cons]
  · intro event _
    simp [due?_eq_some_iff, replied?_ne_cycles]

/-- What counts replies moves by the replies. -/
theorem count_replied {counter : Counter} (hdisabled : counter ≠ .lookups .disabled)
    (hended : ∀ result, counter ≠ .cycles result) :
    Counters.zero.after cycle.events counter =
      cycle.events.countP fun event => replied? event = some counter := by
  rw [cycle.count_eq, if_neg (hended _).symm, Nat.add_zero]
  simp only [due?_eq_some_iff hdisabled]

open scoped Classical in
/-- A lookup that is switched off is counted once the workload has converged. -/
theorem count_disabled :
    Counters.zero.after cycle.events (.lookups .disabled) =
      if Converged cycle.monitor cycle.run.calls ∧ cycle.settings.disableVersionUpdates then 1
      else 0 := by
  rw [cycle.count_eq, if_neg (by simp), Nat.add_zero]
  simp only [due?_eq_disabled_iff]
  cases hdisabled : cycle.settings.disableVersionUpdates with
  | false => simp
  | true =>
      have hstatus := cycle.reaches.count_eq.2.1
      rw [cycle.kinds_calls, ← countP_call?_eq] at hstatus
      simpa using hstatus

open scoped Classical in
/-- The counters account for a single cycle. -/
theorem accounts : Accounts (Counters.zero.after cycle.events) [cycle] where
  ended := cycle.count_ended
  total := by
    rw [cycle.count_ended, cycle.count_ended, cycle.count_ended, sum_countP_resultOf]
  written := by
    intro action
    rw [cycle.count_replied (by simp) (by simp)]
    simp
  resolved := by
    intro lookup hlookup
    rw [cycle.count_replied (by simpa using hlookup) (by simp)]
    simp
  disabled := by
    rw [cycle.count_disabled]
    simp [List.countP_cons]
  lookedUp := by
    have hresolve := cycle.reaches.count_eq.1
    rw [cycle.kinds_calls, ← countP_resolve] at hresolve
    rw [cycle.count_disabled, cycle.count_replied (by simp) (by simp),
      cycle.count_replied (by simp) (by simp), Nat.add_right_comm, hresolve]
    -- The lookup is made or switched off.
    cases hdisabled : cycle.settings.disableVersionUpdates <;> simp [List.countP_cons]
  answered := by
    intro result
    rw [cycle.count_replied (by simp) (by simp)]
    simp
  registered := by
    have hregister := cycle.reaches.count_eq.2.2
    rw [cycle.kinds_calls, ← countP_register] at hregister
    rw [cycle.count_replied (by simp) (by simp), cycle.count_replied (by simp) (by simp),
      cycle.count_replied (by simp) (by simp), hregister]
    simp [List.countP_cons]

end CycleHistory

/-- Counters that account for a cycle and for those after it account for all of them. -/
theorem Accounts.cons {cycle : CycleHistory} {cycles : List CycleHistory}
    (hcycle : Accounts (Counters.zero.after cycle.events) [cycle])
    (hcycles : Accounts (Counters.zero.after (eventsOf cycles)) cycles) :
    Accounts (Counters.zero.after (eventsOf (cycle :: cycles))) (cycle :: cycles) := by
  have hsum (counter : Counter) : Counters.zero.after (eventsOf (cycle :: cycles)) counter =
      Counters.zero.after cycle.events counter + Counters.zero.after (eventsOf cycles) counter :=
    Counters.zero_after_append cycle.events (eventsOf cycles) counter
  have hevents (holds : Event collaborators → Bool) :
      (eventsOf (cycle :: cycles)).countP holds =
        (eventsOf [cycle]).countP holds + (eventsOf cycles).countP holds := by
    simp [List.countP_append]
  have hboth (holds : CycleHistory → Bool) :
      (cycle :: cycles).countP holds = [cycle].countP holds + cycles.countP holds :=
    @List.countP_append _ holds [cycle] cycles
  constructor
  case ended =>
    intro result
    rw [hsum, hcycle.ended, hcycles.ended, hboth]
  case total =>
    have hfirst := hcycle.total
    have hothers := hcycles.total
    simp only [hsum, List.length_cons, List.length_nil] at hfirst ⊢
    omega
  case written =>
    intro action
    rw [hsum, hcycle.written, hcycles.written, hevents]
  case resolved =>
    intro lookup hlookup
    rw [hsum, hcycle.resolved lookup hlookup, hcycles.resolved lookup hlookup, hevents]
  case disabled => rw [hsum, hcycle.disabled, hcycles.disabled, hboth]
  case lookedUp =>
    rw [hsum, hsum, hsum, hboth, ← hcycle.lookedUp, ← hcycles.lookedUp]
    omega
  case answered =>
    intro result
    rw [hsum, hcycle.answered, hcycles.answered, hevents]
  case registered =>
    rw [hsum, hsum, hsum, hboth, ← hcycle.registered, ← hcycles.registered]
    omega

/-- Counters that start at zero account for any number of cycles, of any monitors, whatever the
collaborators reply. -/
theorem counters_account (cycles : List CycleHistory) :
    Accounts (Counters.zero.after (eventsOf cycles)) cycles := by
  induction cycles with
  | nil => constructor <;> simp [Counters.after_apply, Counters.zero]
  | cons cycle cycles ih => exact cycle.accounts.cons ih

end MonitorOperator.Cycle
