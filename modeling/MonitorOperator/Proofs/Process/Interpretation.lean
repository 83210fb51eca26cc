import MonitorOperator.Proofs.Process.Path

/-!
# Paths through interpreted processes

When a process is interpreted, each of its requests becomes a process of its own. A path through the
whole is therefore one through the process, whose events are each served by a path of their own
(`Path.interpret_done_iff`).
-/

namespace MonitorOperator.Process

variable {interface below : Interface} {α : Type}

/-- An event of a process with the events below by which the request was answered. -/
structure Served (serve : (request : interface.Request) → Process below (interface.Reply request))
    where
  event : Event interface
  events : List (Event below)
  path : Path (serve event.request) events (done event.reply)

variable {serve : (request : interface.Request) → Process below (interface.Reply request)}

/-- A path through an interpreted process is one through the process, with each event served. -/
theorem Path.interpret_done_iff {process : Process interface α} {events : List (Event below)}
    {result : α} :
    Path (process.interpret serve) events (done result) ↔
      ∃ served : List (Served serve), events = served.flatMap (·.events) ∧
        Path process (served.map (·.event)) (done result) := by
  constructor
  · intro h
    induction process generalizing events with
    | done last =>
        obtain ⟨rfl, hresult⟩ := done_iff.1 h
        cases hresult
        exact ⟨[], rfl, .nil _⟩
    | call request next ih =>
        obtain ⟨reply, first, second, rfl, hfirst, hsecond⟩ := bind_done_iff.1 h
        obtain ⟨served, rfl, hpath⟩ := ih reply hsecond
        exact ⟨⟨⟨request, reply⟩, first, hfirst⟩ :: served, by simp, .cons hpath⟩
  · intro h
    obtain ⟨served, rfl, hpath⟩ := h
    induction served generalizing process with
    | nil =>
        cases hpath
        exact .nil _
    | cons first served ih =>
        obtain ⟨⟨request, reply⟩, events, hserved⟩ := first
        cases hpath with
        | cons hlater => exact bind_done_iff.2 ⟨reply, events, _, rfl, hserved, ih hlater⟩

end MonitorOperator.Process
