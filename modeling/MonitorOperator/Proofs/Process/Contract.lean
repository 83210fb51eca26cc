import MonitorOperator.Proofs.Process.Path

/-!
# Processes under assumptions

What a process returns depends on the replies that it gets. `Process.Ensures` says that its results
are good as long as the replies are as granted, and `Task.Ensures` tells the results of a task apart
from its faults. Both follow the structure of a process: what it does first, what follows it, and the
interface that it is interpreted in.
-/

namespace MonitorOperator

/-- Every fault of a computation is among those that are allowed. -/
def FaultsIn {α : Type} (allowed : Fault → Prop) (result : Except Fault α) : Prop :=
  ∀ fault, result = .error fault → allowed fault

namespace FaultsIn

variable {α β : Type} {allowed : Fault → Prop}

/-- What succeeds has no fault. -/
@[simp] theorem ok (result : α) : FaultsIn allowed (.ok result) :=
  nofun

/-- What succeeds has no fault. -/
@[simp] theorem pure (result : α) : FaultsIn allowed (Pure.pure result) :=
  nofun

/-- What fails has one fault. -/
@[simp] theorem error_iff {fault : Fault} :
    FaultsIn allowed (.error fault : Except Fault α) ↔ allowed fault :=
  ⟨fun h => h fault rfl, fun h _ heq => Except.error.inj heq ▸ h⟩

/-- What throws has one fault. -/
@[simp] theorem throw_iff {fault : Fault} :
    FaultsIn allowed (throw fault : Except Fault α) ↔ allowed fault :=
  error_iff

/-- Nothing follows a fault. -/
@[simp] theorem error_bind_iff {fault : Fault} {rest : α → Except Fault β} :
    FaultsIn allowed (.error fault >>= rest) ↔ allowed fault :=
  error_iff

/-- The faults of a computation and what follows it are those of both. -/
theorem bind {first : Except Fault α} {rest : α → Except Fault β} (hfirst : FaultsIn allowed first)
    (hrest : ∀ result, first = .ok result → FaultsIn allowed (rest result)) :
    FaultsIn allowed (first >>= rest) := by
  cases first with
  | ok result => exact hrest result rfl
  | error fault => exact error_iff.2 (hfirst fault rfl)

/-- More faults may be allowed. -/
theorem mono {other : Fault → Prop} {result : Except Fault α} (h : FaultsIn allowed result)
    (hallowed : ∀ fault, allowed fault → other fault) : FaultsIn other result :=
  fun fault hfault => hallowed fault (h fault hfault)

/-- A change of the result changes no fault. -/
theorem map {change : α → β} {result : Except Fault α} (h : FaultsIn allowed result) :
    FaultsIn allowed (result.map change) := by
  cases result with
  | ok => exact ok _
  | error fault => exact error_iff.2 (h fault rfl)

/-- A change of the faults is allowed if it makes allowed ones. -/
theorem mapError {other : Fault → Prop} {change : Fault → Fault} {result : Except Fault α}
    (h : FaultsIn allowed result) (hchange : ∀ fault, allowed fault → other (change fault)) :
    FaultsIn other (result.mapError change) := by
  cases result with
  | ok => exact ok _
  | error fault => exact error_iff.2 (hchange fault (h fault rfl))

end FaultsIn

namespace Process

variable {interface below : Interface} {α β : Type}

/-- Every result of a process is good, as long as its requests get replies that are granted. -/
def Ensures (granted : (request : interface.Request) → interface.Reply request → Prop)
    (good : α → Prop) : Process interface α → Prop
  | done result => good result
  | call request next => ∀ reply, granted request reply → Ensures granted good (next reply)

namespace Ensures

variable {granted : (request : interface.Request) → interface.Reply request → Prop}
  {good : α → Prop}

/-- A process that is done has its result. -/
@[simp] theorem done_iff {result : α} :
    Ensures granted good (done result : Process interface α) ↔ good result :=
  Iff.rfl

/-- A process goes on with the replies that are granted. -/
@[simp] theorem call_iff {request : interface.Request}
    {next : interface.Reply request → Process interface α} :
    Ensures granted good (call request next) ↔
      ∀ reply, granted request reply → Ensures granted good (next reply) :=
  Iff.rfl

/-- The results of a process are what those of the rest depend on. -/
theorem bind {process : Process interface α} {rest : α → Process interface β} {better : β → Prop}
    (hprocess : Ensures granted good process)
    (hrest : ∀ result, good result → Ensures granted better (rest result)) :
    Ensures granted better (process.bind rest) := by
  induction process with
  | done result => exact hrest result hprocess
  | call request next ih => exact fun reply hreply => ih reply (hprocess reply hreply)

/-- If the replies to a process are granted when it is interpreted, its results are good. -/
theorem interpret {grantedBelow : (request : below.Request) → below.Reply request → Prop}
    {serve : (request : interface.Request) → Process below (interface.Reply request)}
    {process : Process interface α} (h : Ensures granted good process)
    (hserve : ∀ request, Ensures grantedBelow (granted request) (serve request)) :
    Ensures grantedBelow good (process.interpret serve) := by
  induction process with
  | done result => exact h
  | call request next ih => exact (hserve request).bind fun reply hreply => ih reply (h reply hreply)

end Ensures

end Process

namespace Task

variable {interface below : Interface} {α β : Type}

/-- The results of a task are good and its faults allowed, as long as its requests get replies that
are granted. -/
structure Ensures (granted : (request : interface.Request) → interface.Reply request → Prop)
    (good : α → Prop) (allowed : Fault → Prop) (task : Task interface α) : Prop where
  of_outcome ::
  outcome : Process.Ensures granted
    (fun outcome => (∀ result, outcome = .ok result → good result) ∧ FaultsIn allowed outcome)
    task.outcome

namespace Ensures

variable {granted : (request : interface.Request) → interface.Reply request → Prop}
  {good : α → Prop} {allowed : Fault → Prop}

/-- A request has the results and faults that are granted. -/
theorem call {request : interface.Request}
    {next : interface.Reply request → Process interface (Except Fault α)}
    (h : ∀ reply, granted request reply →
      Ensures granted good allowed (ofProcess (next reply))) :
    Ensures granted good allowed (ofProcess (.call request next)) :=
  ⟨fun reply hreply => (h reply hreply).outcome⟩

/-- A task that is done has its outcome. -/
theorem done {outcome : Except Fault α} (hgood : ∀ result, outcome = .ok result → good result)
    (hallowed : FaultsIn allowed outcome) :
    Ensures granted good allowed (ofProcess (.done outcome) : Task interface α) :=
  ⟨⟨hgood, hallowed⟩⟩

/-- A task that succeeds has its result. -/
theorem pure {result : α} (h : good result) :
    Ensures granted good allowed (Pure.pure result : Task interface α) :=
  ⟨⟨fun _ heq => Except.ok.inj heq ▸ h, .ok result⟩⟩

/-- A task that throws has its fault. -/
theorem throw {fault : Fault} (h : allowed fault) :
    Ensures granted good allowed (throw fault : Task interface α) :=
  ⟨⟨nofun, FaultsIn.error_iff.2 h⟩⟩

/-- A computation without requests has its own results and faults. -/
theorem lift {result : Except Fault α} (hgood : ∀ value, result = .ok value → good value)
    (hallowed : FaultsIn allowed result) :
    Ensures granted good allowed (liftM result : Task interface α) := by
  refine ⟨?_⟩
  rw [outcome_liftM_except]
  exact ⟨hgood, hallowed⟩

/-- A process that does not fail has its own results. -/
theorem ofProcess {process : Process interface α} (h : Process.Ensures granted good process) :
    Ensures granted good allowed (liftM process : Task interface α) := by
  refine ⟨h.bind fun result hresult => ?_⟩
  exact ⟨fun _ heq => Except.ok.inj heq ▸ hresult, .ok result⟩

/-- A fault of the first task ends both; otherwise the second goes on from its result. -/
theorem bind {task : Task interface α} {rest : α → Task interface β} {better : β → Prop}
    (htask : Ensures granted good allowed task)
    (hrest : ∀ result, good result → Ensures granted better allowed (rest result)) :
    Ensures granted better allowed (task >>= rest) := by
  refine ⟨?_⟩
  rw [outcome_bind]
  refine htask.outcome.bind fun outcome houtcome => ?_
  cases outcome with
  | ok result => exact (hrest result (houtcome.1 result rfl)).outcome
  | error fault => exact ⟨nofun, FaultsIn.error_iff.2 (houtcome.2 fault rfl)⟩

/-- A choice is good if both tasks are, each where it is chosen. -/
theorem ite {condition : Prop} [Decidable condition] {task other : Task interface α}
    (htask : condition → Ensures granted good allowed task)
    (hother : ¬ condition → Ensures granted good allowed other) :
    Ensures granted good allowed (if condition then task else other) := by
  by_cases h : condition
  · rw [if_pos h]
    exact htask h
  · rw [if_neg h]
    exact hother h

/-- A change of the faults is allowed if it makes allowed ones. -/
theorem mapFault {other : Fault → Prop} {change : Fault → Fault} {task : Task interface α}
    (htask : Ensures granted good allowed task)
    (hchange : ∀ fault, allowed fault → other (change fault)) :
    Ensures granted good other (task.mapFault change) := by
  refine ⟨htask.outcome.bind fun outcome houtcome => ?_⟩
  refine ⟨fun result heq => houtcome.1 result ?_, houtcome.2.mapError hchange⟩
  cases outcome with
  | ok => exact heq
  | error => cases heq

end Ensures

end Task

end MonitorOperator
