import MonitorOperator.Proofs.Process.Path

/-!
# Runs and traces

A run of a process with collaborators that serve it from a state is one of its paths (`Runs.path`),
and runs that are served alike do the same (`Runs.agree`).

Often only some of the requests of a process matter. A `Trace` is what is left of a path to the end
of a process when all other events are dropped. What is observed of a run is a trace
(`trace_observed`), and the trace of `bind` is cut in two like its path (`trace_bind_iff`).
-/

namespace MonitorOperator.Process

variable {interface : Interface} {α β σ : Type}

/-- `Trace looks process events result` says that a process may end with a result, and that
`events` are its requests among those that are looked at, with their replies. -/
def Trace (looks : interface.Request → Bool) (process : Process interface α)
    (events : List (Event interface)) (result : α) : Prop :=
  ∃ path, Path process path (done result) ∧
    path.filter (fun event => looks event.request) = events

section Transcript

variable (serve : (request : interface.Request) → StateM σ (interface.Reply request))

/-- The requests of a run, with the replies that they get. -/
def transcript : Process interface α → σ → List (Event interface)
  | done _, _ => []
  | call request next, state =>
      ⟨request, (serve request state).1⟩ ::
        transcript (next (serve request state).1) (serve request state).2

/-- The transcript of a process and what follows it is one after the other. -/
theorem transcript_bind (process : Process interface α) (rest : α → Process interface β)
    (start : σ) :
    transcript serve (process.bind rest) start =
      transcript serve process start ++
        transcript serve (rest (run serve process start).1) (run serve process start).2 := by
  induction process generalizing start with
  | done result => rfl
  | call request next ih => exact congrArg (List.cons _) (ih _ _)

/-- Every reply in a transcript is one that is served. -/
theorem exists_of_mem_transcript {process : Process interface α} {start : σ}
    {event : Event interface} (h : event ∈ transcript serve process start) :
    ∃ state, event.reply = (serve event.request state).1 := by
  induction process generalizing start with
  | done result => simp [transcript] at h
  | call request next ih =>
      rcases List.mem_cons.1 h with rfl | hlater
      · exact ⟨start, rfl⟩
      · exact ih _ hlater

/-- `Runs serve process start events result finish` says that a run from a state has these requests
and replies, and ends with a result and in a state. -/
inductive Runs : Process interface α → σ → List (Event interface) → α → σ → Prop where
  | done (result : α) (state : σ) : Runs (done result) state [] result state
  | call {request : interface.Request} {next : interface.Reply request → Process interface α}
      {start finish : σ} {events : List (Event interface)} {result : α} :
      Runs (next (serve request start).1) (serve request start).2 events result finish →
      Runs (call request next) start (⟨request, (serve request start).1⟩ :: events) result finish

end Transcript

namespace Runs

variable {serve : (request : interface.Request) → StateM σ (interface.Reply request)}
  {process : Process interface α} {start finish : σ} {events : List (Event interface)}

/-- Every process runs. -/
theorem of_run (serve : (request : interface.Request) → StateM σ (interface.Reply request))
    (process : Process interface α) (start : σ) :
    Runs serve process start (transcript serve process start) (run serve process start).1
      (run serve process start).2 := by
  induction process generalizing start with
  | done result => exact .done result start
  | call request next ih => exact .call (ih (serve request start).1 (serve request start).2)

/-- A run follows a path. -/
theorem path {result : α} (h : Runs serve process start events result finish) :
    Path process events (Process.done result) := by
  induction h with
  | done => exact .nil _
  | call _ ih => exact .cons ih

/-- What is done makes no request. -/
theorem done_iff {last result : α} :
    Runs serve (Process.done last) start events result finish ↔
      events = [] ∧ result = last ∧ finish = start := by
  constructor
  · intro h
    cases h
    exact ⟨rfl, rfl, rfl⟩
  · rintro ⟨rfl, rfl, rfl⟩
    exact .done _ _

/-- A run goes on with the reply that is served. -/
theorem call_iff {request : interface.Request}
    {next : interface.Reply request → Process interface α} {result : α} :
    Runs serve (Process.call request next) start events result finish ↔
      ∃ later, events = ⟨request, (serve request start).1⟩ :: later ∧
        Runs serve (next (serve request start).1) (serve request start).2 later result finish := by
  constructor
  · intro h
    cases h with
    | call hlater => exact ⟨_, rfl, hlater⟩
  · rintro ⟨later, rfl, hlater⟩
    exact .call hlater

/-- A run of a process and what follows it is one of each of them. -/
theorem bind_iff {rest : α → Process interface β} {last : β} :
    Runs serve (process.bind rest) start events last finish ↔
      ∃ result first second middle, events = first ++ second ∧
        Runs serve process start first result middle ∧
        Runs serve (rest result) middle second last finish := by
  constructor
  · intro h
    induction process generalizing start events with
    | done result => exact ⟨result, [], events, start, rfl, .done result start, h⟩
    | call request next ih =>
        obtain ⟨later, rfl, hlater⟩ := call_iff.1 h
        obtain ⟨result, first, second, middle, rfl, hfirst, hsecond⟩ := ih _ hlater
        exact ⟨result, _ :: first, second, middle, rfl, .call hfirst, hsecond⟩
  · rintro ⟨result, first, second, middle, rfl, hfirst, hsecond⟩
    induction hfirst with
    | done => exact hsecond
    | call _ ih => exact .call (ih hsecond)

/-- What all requests of a process keep of the state is kept by its runs. -/
theorem keeps {good : interface.Request → Prop} (kept : σ → Prop) {result : α}
    (h : Runs serve process start events result finish) (hgood : Only good process)
    (hserve : ∀ request state, good request → kept state → kept (serve request state).2)
    (hstart : kept start) : kept finish := by
  induction h with
  | done => exact hstart
  | call _ ih => exact ih (hgood.2 _) (hserve _ _ hgood.1 hstart)

/-- Runs from states that are related, whose requests get the same replies there, do the same. -/
theorem agree {τ : Type}
    {other : (request : interface.Request) → StateM τ (interface.Reply request)}
    {good : interface.Request → Prop} (related : σ → τ → Prop) {start' finish' : τ}
    {events' : List (Event interface)} {result result' : α}
    (h : Runs serve process start events result finish)
    (h' : Runs other process start' events' result' finish') (hgood : Only good process)
    (hserve : ∀ request state state', good request → related state state' →
      (serve request state).1 = (other request state').1 ∧
        related (serve request state).2 (other request state').2)
    (hstart : related start start') :
    events = events' ∧ result = result' ∧ related finish finish' := by
  induction h generalizing start' events' with
  | done =>
      obtain ⟨rfl, rfl, rfl⟩ := done_iff.1 h'
      exact ⟨rfl, rfl, hstart⟩
  | call _ ih =>
      obtain ⟨later, rfl, hlater⟩ := call_iff.1 h'
      obtain ⟨hreply, hrelated⟩ := hserve _ _ _ hgood.1 hstart
      rw [← hreply] at hlater ⊢
      obtain ⟨rfl, rfl, hfinish⟩ := ih hlater (hgood.2 _) hrelated
      exact ⟨rfl, rfl, hfinish⟩

end Runs

section Observed

variable (serve : (request : interface.Request) → StateM σ (interface.Reply request))

/-- A run follows its transcript to its result. -/
theorem path_transcript (process : Process interface α) (start : σ) :
    Path process (transcript serve process start) (done (run serve process start).1) :=
  (Runs.of_run serve process start).path

/-- The requests of a run among those that are looked at, with the replies that they get. -/
def observed (looks : interface.Request → Bool) (process : Process interface α) (start : σ) :
    List (Event interface) :=
  (transcript serve process start).filter fun event => looks event.request

/-- What is observed of a run is a trace to its result. -/
theorem trace_observed (looks : interface.Request → Bool) (process : Process interface α)
    (start : σ) :
    Trace looks process (observed serve looks process start) (run serve process start).1 :=
  ⟨_, path_transcript serve process start, rfl⟩

end Observed

variable {looks : interface.Request → Bool} {events : List (Event interface)}

/-- A process that is done makes no request. -/
@[simp] theorem trace_done_iff {result last : α} :
    Trace looks (done result) events last ↔ events = [] ∧ last = result := by
  constructor
  · rintro ⟨path, hpath, rfl⟩
    obtain ⟨rfl, hresult⟩ := Path.done_iff.1 hpath
    exact ⟨rfl, done.inj hresult⟩
  · rintro ⟨rfl, rfl⟩
    exact ⟨[], .nil _, rfl⟩

section Call

variable {request : interface.Request} {next : interface.Reply request → Process interface α}
  {result : α}

/-- A request that is looked at comes first in the trace. -/
theorem trace_call_iff (h : looks request = true) :
    Trace looks (call request next) events result ↔
      ∃ reply later, events = ⟨request, reply⟩ :: later ∧ Trace looks (next reply) later result := by
  constructor
  · rintro ⟨path, hpath, rfl⟩
    obtain ⟨reply, later, rfl, hlater⟩ := Path.call_done_iff.1 hpath
    exact ⟨reply, _, List.filter_cons_of_pos h, later, hlater, rfl⟩
  · rintro ⟨reply, _, rfl, path, hpath, rfl⟩
    exact ⟨_, .cons hpath, List.filter_cons_of_pos h⟩

/-- A request that is not looked at leaves no mark on the trace. -/
theorem trace_call_iff_of_not (h : looks request = false) :
    Trace looks (call request next) events result ↔
      ∃ reply, Trace looks (next reply) events result := by
  have hdropped : ∀ (reply : interface.Reply request) (later : List (Event interface)),
      (⟨request, reply⟩ :: later).filter (fun event => looks event.request) =
        later.filter fun event => looks event.request := by
    intro reply later
    exact List.filter_cons_of_neg (by simp [h])
  constructor
  · rintro ⟨path, hpath, rfl⟩
    obtain ⟨reply, later, rfl, hlater⟩ := Path.call_done_iff.1 hpath
    exact ⟨reply, later, hlater, (hdropped reply later).symm⟩
  · rintro ⟨reply, path, hpath, rfl⟩
    exact ⟨_, .cons hpath, hdropped reply path⟩

/-- The trace of a single request that is looked at. -/
theorem trace_ask_iff (h : looks request = true) {reply : interface.Reply request} :
    Trace looks (call request done) events reply ↔ events = [⟨request, reply⟩] := by
  rw [trace_call_iff h]
  simp only [trace_done_iff]
  constructor
  · rintro ⟨_, _, rfl, rfl, rfl⟩
    rfl
  · rintro rfl
    exact ⟨reply, [], rfl, rfl, rfl⟩

end Call

/-- A trace of a process and what follows it is one of each of them. -/
theorem trace_bind_iff {process : Process interface α} {rest : α → Process interface β} {last : β} :
    Trace looks (process.bind rest) events last ↔
      ∃ result first second, events = first ++ second ∧ Trace looks process first result ∧
        Trace looks (rest result) second last := by
  constructor
  · rintro ⟨path, hpath, rfl⟩
    obtain ⟨result, first, second, rfl, hfirst, hsecond⟩ := Path.bind_done_iff.1 hpath
    exact ⟨result, _, _, List.filter_append .., ⟨first, hfirst, rfl⟩, second, hsecond, rfl⟩
  · rintro ⟨result, _, _, rfl, ⟨first, hfirst, rfl⟩, second, hsecond, rfl⟩
    exact ⟨first ++ second, Path.bind_done_iff.2 ⟨result, first, second, rfl, hfirst, hsecond⟩,
      List.filter_append ..⟩

end MonitorOperator.Process

namespace MonitorOperator.Task

open Process (Trace trace_bind_iff trace_done_iff)

variable {interface : Interface} {α β : Type} {looks : interface.Request → Bool}
  {events : List (Event interface)} {task : Task interface α}

/-- A trace of a task and what follows it ends with a fault of the task or is one of each of
them. -/
theorem trace_bind_iff {rest : α → Task interface β} {last : Except Fault β} :
    Trace looks (task >>= rest).outcome events last ↔
      (∃ fault, last = .error fault ∧ Trace looks task.outcome events (.error fault)) ∨
        ∃ result first second, events = first ++ second ∧
          Trace looks task.outcome first (.ok result) ∧
          Trace looks (rest result).outcome second last := by
  rw [outcome_bind, Process.trace_bind_iff]
  constructor
  · rintro ⟨result, first, second, rfl, hfirst, hsecond⟩
    cases result with
    | ok result => exact .inr ⟨result, first, second, rfl, hfirst, hsecond⟩
    | error fault =>
        obtain ⟨rfl, rfl⟩ := trace_done_iff.1 hsecond
        exact .inl ⟨fault, rfl, by simpa using hfirst⟩
  · rintro (⟨fault, rfl, htask⟩ | ⟨result, first, second, rfl, hfirst, hsecond⟩)
    · exact ⟨.error fault, events, [], by simp, htask, trace_done_iff.2 ⟨rfl, rfl⟩⟩
    · exact ⟨.ok result, first, second, rfl, hfirst, hsecond⟩

/-- A trace of a task whose result is changed at the end is one of the task. -/
theorem trace_map_iff {change : α → β} {last : Except Fault β} :
    Trace looks (task >>= fun result => pure (change result)).outcome events last ↔
      ∃ result, last = result.map change ∧ Trace looks task.outcome events result := by
  simp only [Trace, path_map_done_iff]
  constructor
  · rintro ⟨path, ⟨result, rfl, hpath⟩, rfl⟩
    exact ⟨result, rfl, path, hpath, rfl⟩
  · rintro ⟨result, rfl, path, hpath, rfl⟩
    exact ⟨path, ⟨result, rfl, hpath⟩, rfl⟩

end MonitorOperator.Task
