import MonitorOperator.Proofs.Process.Path

/-!
# What a process does along its paths

`Along good process` says that the events of every path to the end of a process are good together
with the result there. It follows the structure of the process (`Along.bind`), so that a property of
whole paths is shown step by step, without cutting any path by hand.
-/

namespace MonitorOperator

namespace Process

variable {interface : Interface} {α β : Type}

/-- Every path to the end of a process has good events and a good result. -/
def Along : (good : List (Event interface) → α → Prop) → Process interface α → Prop
  | good, done result => good [] result
  | good, call request next =>
      ∀ reply, Along (fun events => good (⟨request, reply⟩ :: events)) (next reply)

namespace Along

variable {good other : List (Event interface) → α → Prop}

/-- A process that is done has no events. -/
@[simp] theorem done_iff {result : α} :
    Along good (done result : Process interface α) ↔ good [] result :=
  Iff.rfl

/-- A process has its first event, with any reply, and those that follow. -/
@[simp] theorem call_iff {request : interface.Request}
    {next : interface.Reply request → Process interface α} :
    Along good (call request next) ↔
      ∀ reply, Along (fun events => good (⟨request, reply⟩ :: events)) (next reply) :=
  Iff.rfl

/-- What is good may be good in another way. -/
theorem mono {process : Process interface α} (h : Along good process)
    (hgood : ∀ events result, good events result → other events result) : Along other process := by
  induction process generalizing good other with
  | done result => exact hgood [] result h
  | call request next ih => exact fun reply => ih reply (h reply) fun _ _ => hgood _ _

/-- What follows a process goes on from its events and its result. -/
theorem bind {process : Process interface α} {rest : α → Process interface β}
    {better : List (Event interface) → β → Prop} (hprocess : Along good process)
    (hrest : ∀ events result, good events result →
      Along (fun later => better (events ++ later)) (rest result)) :
    Along better (process.bind rest) := by
  induction process generalizing good better with
  | done result => exact hrest [] result hprocess
  | call request next ih =>
      exact fun reply => ih reply (hprocess reply) fun events result => hrest (_ :: events) result

/-- A property of the events alone holds of a process and of what follows it, if it holds of both
and of events that follow each other. -/
theorem bind_events {holds : List (Event interface) → Prop} {process : Process interface α}
    {rest : α → Process interface β}
    (happend : ∀ first second, holds first → holds second → holds (first ++ second))
    (hprocess : Along (fun events _ => holds events) process)
    (hrest : ∀ result, Along (fun events _ => holds events) (rest result)) :
    Along (fun events _ => holds events) (process.bind rest) :=
  hprocess.bind fun events result hevents =>
    (hrest result).mono fun later _ hlater => happend events later hevents hlater

/-- What holds of every path to the end of a process holds along it. -/
theorem of_path {process : Process interface α}
    (h : ∀ events result, Path process events (done result) → good events result) :
    Along good process := by
  induction process generalizing good with
  | done result => exact h [] result (.nil _)
  | call request next ih =>
      exact fun reply => ih reply fun events result hpath => h _ _ (.cons hpath)

end Along

/-- The events of a path to the end of a process are good, and its result is. -/
theorem Path.along {good : List (Event interface) → α → Prop} {start : Process interface α}
    {events : List (Event interface)} {result : α} (h : Path start events (done result))
    (hgood : Along good start) : good events result := by
  generalize hfinish : done result = finish at h
  induction h generalizing good with
  | nil =>
      subst hfinish
      exact hgood
  | @cons request _ reply _ _ _ ih => exact ih (hgood reply) hfinish

end Process

namespace Task

open Process (Along)

variable {interface : Interface} {α β : Type}

/-- What follows a task goes on from its events and its result; a fault ends both. -/
theorem along_bind {good : List (Event interface) → Except Fault α → Prop}
    {better : List (Event interface) → Except Fault β → Prop} {task : Task interface α}
    {rest : α → Task interface β} (htask : Along good task.outcome)
    (hfault : ∀ events fault, good events (.error fault) → better events (.error fault))
    (hrest : ∀ events result, good events (.ok result) →
      Along (fun later => better (events ++ later)) (rest result).outcome) :
    Along better (task >>= rest).outcome := by
  rw [outcome_bind]
  refine htask.bind fun events result hgood => ?_
  cases result with
  | ok result => exact hrest events result hgood
  | error fault => simpa using hfault events fault hgood

/-- A property of the events alone holds of a task and of what follows it, if it holds of both and
of events that follow each other. -/
theorem along_bind_events {holds : List (Event interface) → Prop} {task : Task interface α}
    {rest : α → Task interface β}
    (happend : ∀ first second, holds first → holds second → holds (first ++ second))
    (htask : Along (fun events _ => holds events) task.outcome)
    (hrest : ∀ result, Along (fun events _ => holds events) (rest result).outcome) :
    Along (fun events _ => holds events) (task >>= rest).outcome :=
  along_bind htask (fun _ _ hevents => hevents) fun events result hevents =>
    (hrest result).mono fun later _ hlater => happend events later hevents hlater

end Task

end MonitorOperator
