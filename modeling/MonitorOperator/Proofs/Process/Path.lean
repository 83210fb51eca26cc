import MonitorOperator.Process

/-!
# Paths through processes

A process is a tree: which request comes next depends on the replies so far. `Path` follows one
branch of the tree, with the requests and replies on it as a list of events, and stops anywhere.
The main lemmas cut a path of `bind` in two (`Path.bind_done_iff`) and carry a property of all
requests in a tree to the events on every path (`Path.only`).
-/

namespace MonitorOperator

/-- A request with the reply that it got. -/
structure Event (interface : Interface) where
  request : interface.Request
  reply : interface.Reply request

namespace Process

variable {interface below : Interface} {α β : Type}

/-- `Path process events rest` says that a process which got the replies of `events` to its
requests, in this order, has `rest` still to do. -/
inductive Path : Process interface α → List (Event interface) → Process interface α → Prop where
  | nil (process : Process interface α) : Path process [] process
  | cons {request : interface.Request} {next : interface.Reply request → Process interface α}
      {reply : interface.Reply request} {events : List (Event interface)}
      {rest : Process interface α} :
      Path (next reply) events rest → Path (call request next) (⟨request, reply⟩ :: events) rest

namespace Path

/-- Nothing follows the end of a process. -/
theorem done_iff {result : α} {events : List (Event interface)} {rest : Process interface α} :
    Path (done result) events rest ↔ events = [] ∧ rest = done result := by
  constructor
  · intro h
    cases h
    exact ⟨rfl, rfl⟩
  · rintro ⟨rfl, rfl⟩
    exact .nil _

/-- A path from a request stops before it or goes on with a reply. -/
theorem call_iff {request : interface.Request}
    {next : interface.Reply request → Process interface α}
    {events : List (Event interface)} {rest : Process interface α} :
    Path (call request next) events rest ↔
      (events = [] ∧ rest = call request next) ∨
        ∃ reply later, events = ⟨request, reply⟩ :: later ∧ Path (next reply) later rest := by
  constructor
  · intro h
    cases h with
    | nil => exact .inl ⟨rfl, rfl⟩
    | cons hrest => exact .inr ⟨_, _, rfl, hrest⟩
  · rintro (⟨rfl, rfl⟩ | ⟨reply, later, rfl, hrest⟩)
    · exact .nil _
    · exact .cons hrest

/-- A path to the end of a process passes its first request. -/
theorem call_done_iff {request : interface.Request}
    {next : interface.Reply request → Process interface α}
    {events : List (Event interface)} {result : α} :
    Path (call request next) events (done result) ↔
      ∃ reply later,
        events = ⟨request, reply⟩ :: later ∧ Path (next reply) later (done result) := by
  simp [call_iff]

/-- The path of a single request. -/
theorem ask_done_iff {request : interface.Request} {events : List (Event interface)}
    {reply : interface.Reply request} :
    Path (call request done) events (done reply) ↔ events = [⟨request, reply⟩] := by
  rw [call_done_iff]
  constructor
  · rintro ⟨_, later, rfl, hlater⟩
    obtain ⟨rfl, hreply⟩ := done_iff.1 hlater
    rw [done.inj hreply]
  · rintro rfl
    exact ⟨reply, [], rfl, .nil _⟩

/-- Paths compose where one ends and the other begins. -/
theorem append {start middle finish : Process interface α} {first second : List (Event interface)}
    (hfirst : Path start first middle) (hsecond : Path middle second finish) :
    Path start (first ++ second) finish := by
  induction hfirst with
  | nil => exact hsecond
  | cons _ ih => exact .cons (ih hsecond)

/-- The replies determine when a process is done, and with what. -/
theorem done_unique {start : Process interface α} {left right : α}
    {first second rest others : List (Event interface)} (hfirst : Path start first (done left))
    (hsecond : Path start second (done right)) (hsame : first ++ rest = second ++ others) :
    first = second ∧ rest = others ∧ left = right := by
  generalize hleft : done left = finish at hfirst
  induction hfirst generalizing second with
  | nil =>
      subst hleft
      obtain ⟨rfl, hdone⟩ := done_iff.1 hsecond
      exact ⟨rfl, hsame, (done.inj hdone).symm⟩
  | cons _ ih =>
      obtain ⟨_, later, rfl, hlater⟩ := call_done_iff.1 hsecond
      obtain ⟨heq, hrest⟩ := List.cons.inj hsame
      cases heq
      obtain ⟨rfl, hothers, hresult⟩ := ih hlater hrest hleft
      exact ⟨rfl, hothers, hresult⟩

/-- A path through a process and what follows it is one through each of them. -/
theorem bind_done_iff {process : Process interface α} {rest : α → Process interface β}
    {events : List (Event interface)} {last : β} :
    Path (process.bind rest) events (done last) ↔
      ∃ result first second, events = first ++ second ∧ Path process first (done result) ∧
        Path (rest result) second (done last) := by
  constructor
  · intro h
    induction process generalizing events with
    | done result => exact ⟨result, [], events, rfl, .nil _, h⟩
    | call request next ih =>
        obtain ⟨reply, later, rfl, hlater⟩ := call_done_iff.1 h
        obtain ⟨result, first, second, rfl, hfirst, hsecond⟩ := ih reply hlater
        exact ⟨result, ⟨request, reply⟩ :: first, second, rfl, .cons hfirst, hsecond⟩
  · rintro ⟨result, first, second, rfl, hfirst, hsecond⟩
    induction first generalizing process with
    | nil =>
        cases hfirst
        exact hsecond
    | cons event first ih =>
        cases hfirst with
        | cons hfirst => exact .cons (ih hfirst)

/-- A path through a process goes as far with something to follow it. -/
theorem bind_left {process middle : Process interface α} {events : List (Event interface)}
    (h : Path process events middle) (rest : α → Process interface β) :
    Path (process.bind rest) events (middle.bind rest) := by
  induction h with
  | nil => exact .nil _
  | cons _ ih => exact .cons ih

/-- A path to the end of a process goes on through what follows it. -/
theorem bind_append {process : Process interface α} {rest : α → Process interface β}
    {first second : List (Event interface)} {result : α} {finish : Process interface β}
    (hfirst : Path process first (done result)) (hsecond : Path (rest result) second finish) :
    Path (process.bind rest) (first ++ second) finish :=
  (hfirst.bind_left rest).append hsecond

/-- A process comes to its end along some path, if every request can get a reply. -/
theorem exists_done (hreply : ∀ request, Nonempty (interface.Reply request))
    (process : Process interface α) : ∃ events result, Path process events (done result) := by
  induction process with
  | done result => exact ⟨[], result, .nil _⟩
  | call request next ih =>
      obtain ⟨reply⟩ := hreply request
      obtain ⟨events, result, hpath⟩ := ih reply
      exact ⟨⟨request, reply⟩ :: events, result, .cons hpath⟩

end Path

/-- Every request that a process may make has a property. -/
def Only (good : interface.Request → Prop) : Process interface α → Prop
  | done _ => True
  | call request next => good request ∧ ∀ reply, Only good (next reply)

namespace Only

variable {good : interface.Request → Prop}

/-- A process that is done makes no request. -/
@[simp] theorem done_iff (result : α) : Only good (done result : Process interface α) ↔ True :=
  Iff.rfl

/-- A process makes its first request and those after the reply. -/
@[simp] theorem call_iff (request : interface.Request)
    (next : interface.Reply request → Process interface α) :
    Only good (call request next) ↔ good request ∧ ∀ reply, Only good (next reply) :=
  Iff.rfl

/-- More requests may be good. -/
theorem mono {other : interface.Request → Prop} {process : Process interface α}
    (h : Only good process) (hgood : ∀ request, good request → other request) :
    Only other process := by
  induction process with
  | done result => trivial
  | call request next ih => exact ⟨hgood request h.1, fun reply => ih reply (h.2 reply)⟩

/-- A process makes its own requests and then those of what follows it. -/
theorem bind {process : Process interface α} {rest : α → Process interface β}
    (hprocess : Only good process) (hrest : ∀ result, Only good (rest result)) :
    Only good (process.bind rest) := by
  induction process with
  | done result => exact hrest result
  | call request next ih => exact ⟨hprocess.1, fun reply => ih reply (hprocess.2 reply)⟩

end Only

/-- What holds of all requests of a process holds of the events on each of its paths. -/
theorem Path.only {good : interface.Request → Prop} {start finish : Process interface α}
    {events : List (Event interface)} (h : Path start events finish) (hgood : Only good start) :
    ∀ event ∈ events, good event.request := by
  induction h with
  | nil => simp
  | cons _ ih =>
      intro event hevent
      rcases List.mem_cons.1 hevent with rfl | hlater
      · exact hgood.1
      · exact ih (hgood.2 _) event hlater

/-- Every result that a process may have has a property. -/
def Returns (good : α → Prop) : Process interface α → Prop
  | done result => good result
  | call _ next => ∀ reply, Returns good (next reply)

namespace Returns

variable {good : α → Prop}

/-- A process that is done has its result. -/
@[simp] theorem done_iff (result : α) :
    Returns good (done result : Process interface α) ↔ good result :=
  Iff.rfl

/-- A process may have the results of those that follow its first request. -/
@[simp] theorem call_iff (request : interface.Request)
    (next : interface.Reply request → Process interface α) :
    Returns good (call request next) ↔ ∀ reply, Returns good (next reply) :=
  Iff.rfl

/-- A process has the results of what follows it. -/
theorem bind {process : Process interface α} {rest : α → Process interface β} {better : β → Prop}
    (hprocess : Returns good process)
    (hrest : ∀ result, good result → Returns better (rest result)) :
    Returns better (process.bind rest) := by
  induction process with
  | done result => exact hrest result hprocess
  | call request next ih => exact fun reply => ih reply (hprocess reply)

/-- A process has the results of what follows it, whatever its own are. -/
theorem bind_of_forall {process : Process interface β} {rest : β → Process interface α}
    (hrest : ∀ result, Returns good (rest result)) : Returns good (process.bind rest) := by
  induction process with
  | done result => exact hrest result
  | call request next ih => exact ih

end Returns

/-- What holds of all results of a process holds of the one at the end of each of its paths. -/
theorem Path.returns {good : α → Prop} {start : Process interface α}
    {events : List (Event interface)} {result : α} (h : Path start events (done result))
    (hgood : Returns good start) : good result := by
  generalize hfinish : done result = finish at h
  induction h with
  | nil =>
      subst hfinish
      exact hgood
  | cons _ ih => exact ih (hgood _) hfinish

end Process

namespace Task

variable {interface : Interface} {α β : Type}

/-- The outcome of a task and what follows it: a fault ends both. -/
@[simp] theorem outcome_bind (task : Task interface α) (rest : α → Task interface β) :
    (task >>= rest).outcome =
      task.outcome.bind fun
        | .ok result => (rest result).outcome
        | .error fault => .done (.error fault) := by
  simp only [outcome, ExceptT.run_bind, Process.bind_eq_bind]
  congr 1
  funext result
  cases result <;> rfl

/-- A task makes its own requests and, unless it fails, those of what follows it. -/
theorem only_bind {good : interface.Request → Prop} {task : Task interface α}
    {rest : α → Task interface β} (htask : Process.Only good task.outcome)
    (hrest : ∀ result, Process.Only good (rest result).outcome) :
    Process.Only good (task >>= rest).outcome := by
  rw [outcome_bind]
  refine htask.bind fun outcome => ?_
  cases outcome with
  | ok result => exact hrest result
  | error fault => trivial

/-- A path through a task and what follows it ends with a fault of the task or is one through each
of them. -/
theorem path_bind_done_iff {task : Task interface α} {rest : α → Task interface β}
    {events : List (Event interface)} {last : Except Fault β} :
    Process.Path (task >>= rest).outcome events (.done last) ↔
      (∃ fault, last = .error fault ∧ Process.Path task.outcome events (.done (.error fault))) ∨
        ∃ result first second, events = first ++ second ∧
          Process.Path task.outcome first (.done (.ok result)) ∧
          Process.Path (rest result).outcome second (.done last) := by
  rw [outcome_bind, Process.Path.bind_done_iff]
  constructor
  · rintro ⟨result, first, second, rfl, hfirst, hsecond⟩
    cases result with
    | ok result => exact .inr ⟨result, first, second, rfl, hfirst, hsecond⟩
    | error fault =>
        obtain ⟨rfl, hlast⟩ := Process.Path.done_iff.1 hsecond
        exact .inl ⟨fault, Process.done.inj hlast, by simpa using hfirst⟩
  · rintro (⟨fault, rfl, htask⟩ | ⟨result, first, second, rfl, hfirst, hsecond⟩)
    · exact ⟨.error fault, events, [], by simp, htask, .nil _⟩
    · exact ⟨.ok result, first, second, rfl, hfirst, hsecond⟩

/-- A path through a task whose result is changed at the end is one through the task. -/
theorem path_map_done_iff {task : Task interface α} {change : α → β}
    {events : List (Event interface)} {last : Except Fault β} :
    Process.Path (task >>= fun result => pure (change result)).outcome events (.done last) ↔
      ∃ result, last = result.map change ∧ Process.Path task.outcome events (.done result) := by
  rw [path_bind_done_iff]
  constructor
  · rintro (⟨fault, rfl, htask⟩ | ⟨result, first, second, rfl, hfirst, hsecond⟩)
    · exact ⟨.error fault, rfl, htask⟩
    · obtain ⟨rfl, hlast⟩ := Process.Path.done_iff.1 hsecond
      exact ⟨.ok result, Process.done.inj hlast, by simpa using hfirst⟩
  · rintro ⟨result, rfl, htask⟩
    cases result with
    | error fault => exact .inl ⟨fault, rfl, htask⟩
    | ok result => exact .inr ⟨result, events, [], by simp, htask, .nil _⟩

/-- What fails or succeeds at once is a task without requests. -/
@[simp] theorem outcome_liftM_except (result : Except Fault α) :
    (liftM result : Task interface α).outcome = .done result := by
  cases result <;> rfl

end Task

end MonitorOperator
