import MonitorOperator.Fault

/-!
# Processes

A process is a computation that calls its surroundings: it is done, or it makes a request and goes
on with the reply. What a process may ask is an `Interface`. A process is a value, so it can be run
against any surroundings: `run` answers its calls from a state, and `interpret` answers them by the
calls of another interface. The main statements are the monad laws and that `run` and `interpret`
respect the order of calls (`run_bind`, `interpret_bind`).
-/

namespace MonitorOperator

/-- What may be asked, and what the reply to each request is. -/
structure Interface where
  Request : Type
  Reply : Request → Type

/-- A computation that is done, or calls its surroundings and goes on with the reply. -/
inductive Process (interface : Interface) (α : Type) where
  | done (result : α)
  | call (request : interface.Request)
      (next : interface.Reply request → Process interface α)

namespace Process

/-- Go on with the result of a process. -/
def bind {interface : Interface} {α β : Type} (process : Process interface α)
    (rest : α → Process interface β) : Process interface β :=
  match process with
  | done result => rest result
  | call request next => .call request fun reply => bind (next reply) rest

instance {interface : Interface} : Monad (Process interface) where
  pure := done
  bind := bind

/-- Run a process, answering its calls from a state. -/
def run {interface : Interface} {σ α : Type}
    (serve : (request : interface.Request) → StateM σ (interface.Reply request)) :
    Process interface α → StateM σ α
  | done result => pure result
  | call request next => do run serve (next (← serve request))

/-- Answer the calls of a process by calls of another interface. -/
def interpret {interface below : Interface} {α : Type}
    (serve : (request : interface.Request) → Process below (interface.Reply request)) :
    Process interface α → Process below α
  | done result => .done result
  | call request next => bind (serve request) fun reply => interpret serve (next reply)

section Laws

variable {interface below : Interface} {α β γ σ : Type}

@[simp] theorem pure_eq_done (result : α) :
    (pure result : Process interface α) = done result := rfl

@[simp] theorem bind_eq_bind (process : Process interface α) (rest : α → Process interface β) :
    process >>= rest = process.bind rest := rfl

@[simp] theorem done_bind (result : α) (rest : α → Process interface β) :
    (done result).bind rest = rest result := rfl

@[simp] theorem call_bind (request : interface.Request)
    (next : interface.Reply request → Process interface α) (rest : α → Process interface β) :
    (call request next).bind rest = call request fun reply => (next reply).bind rest := rfl

@[simp] theorem bind_done (process : Process interface α) : process.bind done = process := by
  induction process with
  | done result => rfl
  | call request next ih => exact congrArg (call request) (funext ih)

theorem bind_assoc (process : Process interface α) (rest : α → Process interface β)
    (last : β → Process interface γ) :
    (process.bind rest).bind last = process.bind fun result => (rest result).bind last := by
  induction process with
  | done result => rfl
  | call request next ih => exact congrArg (call request) (funext ih)

instance : LawfulMonad (Process interface) :=
  LawfulMonad.mk' (Process interface) (fun process => bind_done process) (fun _ _ => rfl)
    bind_assoc

variable (serve : (request : interface.Request) → StateM σ (interface.Reply request))

@[simp] theorem run_done (result : α) : run serve (done result) = pure result := rfl

@[simp] theorem run_call (request : interface.Request)
    (next : interface.Reply request → Process interface α) :
    run serve (call request next) = serve request >>= fun reply => run serve (next reply) := rfl

/-- Running a process and what follows it is running one after the other. -/
theorem run_bind (process : Process interface α) (rest : α → Process interface β) :
    run serve (process.bind rest) = run serve process >>= fun result => run serve (rest result) := by
  induction process with
  | done result => rfl
  | call request next ih => simp [ih]

/-- Interpreting a process and what follows it is interpreting one after the other. -/
theorem interpret_bind
    (serve : (request : interface.Request) → Process below (interface.Reply request))
    (process : Process interface α) (rest : α → Process interface β) :
    interpret serve (process.bind rest) =
      (interpret serve process).bind fun result => interpret serve (rest result) := by
  induction process with
  | done result => rfl
  | call request next ih => simp [interpret, ih, bind_assoc]

end Laws

end Process

/-- A process that may fail. -/
abbrev Task (interface : Interface) (α : Type) : Type :=
  ExceptT Fault (Process interface) α

namespace Task

/-- The task that makes a request whose reply may be a fault. -/
def ofProcess {interface : Interface} {α : Type}
    (process : Process interface (Except Fault α)) : Task interface α :=
  ExceptT.mk process

/-- The outcome of a task, which does not fail itself. -/
def outcome {interface : Interface} {α : Type} (task : Task interface α) :
    Process interface (Except Fault α) :=
  ExceptT.run task

/-- Give the fault of a task another form. -/
def mapFault {interface : Interface} {α : Type} (change : Fault → Fault)
    (task : Task interface α) : Task interface α :=
  ofProcess do return (← task.outcome).mapError change

end Task

end MonitorOperator
