import Mathlib.Data.List.Induction
import MonitorOperator.Proofs.Process.Path

/-!
# Processes that share their surroundings

Any number of processes run against one state, one request at a time and in any order, while the
state may also change from outside. `Execution` collects the steps of such a run in order. What one
process saw is its `historyOf` the steps, which is always a path of its program
(`Execution.path`), and the steps are linked: each begins where the one before ended
(`Execution.linked`).
-/

namespace MonitorOperator

open Process (Path)

/-- Processes with an index, a relation that says how requests are answered in a state, and one that
says how the state may change from outside. -/
structure SharedSystem (ι : Type) (interface : Interface) (σ α : Type) where
  program : ι → Process interface α
  answers : σ → (request : interface.Request) → interface.Reply request → σ → Prop
  disturbs : σ → σ → Prop

/-- Who takes a step: a process that gets a reply to a request, or someone outside. -/
inductive Actor (ι : Type) (interface : Interface) where
  | process (index : ι) (event : Event interface)
  | outside

/-- A step, with the states around it. -/
structure SharedStep (ι : Type) (interface : Interface) (σ : Type) where
  before : σ
  actor : Actor ι interface
  after : σ

/-- How events that are answered one after the other lead from one state to another. -/
inductive Answered {interface : Interface} {σ : Type}
    (answers : σ → (request : interface.Request) → interface.Reply request → σ → Prop) :
    σ → List (Event interface) → σ → Prop where
  | nil (state : σ) : Answered answers state [] state
  | cons {state middle after : σ} {event : Event interface} {events : List (Event interface)} :
      answers state event.request event.reply middle → Answered answers middle events after →
      Answered answers state (event :: events) after

/-- Events that are answered in one state and others that are in the next can follow each other. -/
theorem Answered.append {interface : Interface} {σ : Type}
    {answers : σ → (request : interface.Request) → interface.Reply request → σ → Prop}
    {state middle after : σ} {first second : List (Event interface)}
    (hfirst : Answered answers state first middle)
    (hsecond : Answered answers middle second after) :
    Answered answers state (first ++ second) after := by
  induction hfirst with
  | nil => exact hsecond
  | cons hanswer _ ih => exact .cons hanswer (ih hsecond)

section Steps

variable {ι : Type} {interface : Interface} {σ α : Type}

/-- The step is one of a process. -/
def SharedStep.IsOf (step : SharedStep ι interface σ) (index : ι)
    (event : Event interface) : Prop :=
  step.actor = .process index event

/-- Each step begins in the state that the one before ended in. -/
inductive Linked : σ → List (SharedStep ι interface σ) → σ → Prop where
  | nil (state : σ) : Linked state [] state
  | cons {before after finish : σ} {actor : Actor ι interface}
      {steps : List (SharedStep ι interface σ)} :
      Linked after steps finish → Linked before (⟨before, actor, after⟩ :: steps) finish

/-- Linked steps begin where their first one does. -/
theorem Linked.cons_iff {start finish : σ} {step : SharedStep ι interface σ}
    {steps : List (SharedStep ι interface σ)} :
    Linked start (step :: steps) finish ↔ start = step.before ∧ Linked step.after steps finish := by
  constructor
  · intro h
    cases h with
    | cons hlater => exact ⟨rfl, hlater⟩
  · rintro ⟨rfl, hlater⟩
    exact .cons hlater

/-- Linked steps can be cut anywhere. -/
theorem Linked.append_iff {start finish : σ} {earlier later : List (SharedStep ι interface σ)} :
    Linked start (earlier ++ later) finish ↔
      ∃ middle, Linked start earlier middle ∧ Linked middle later finish := by
  constructor
  · intro h
    induction earlier generalizing start with
    | nil => exact ⟨start, .nil start, h⟩
    | cons step earlier ih =>
        cases h with
        | cons hlater =>
            obtain ⟨middle, hleft, hright⟩ := ih hlater
            exact ⟨middle, .cons hleft, hright⟩
  · rintro ⟨middle, hleft, hright⟩
    induction hleft with
    | nil => exact hright
    | cons _ ih => exact .cons (ih hright)

/-- Linked steps lead from where they begin to one state. -/
theorem Linked.unique {start left right : σ} {steps : List (SharedStep ι interface σ)}
    (hleft : Linked start steps left) (hright : Linked start steps right) : left = right := by
  induction hleft with
  | nil =>
      cases hright
      rfl
  | cons _ ih => exact ih (cons_iff.1 hright).2

/-- The steps before a linked step end where it begins, and those after it begin where it ends. -/
theorem Linked.around {start finish : σ} {step : SharedStep ι interface σ}
    {earlier later : List (SharedStep ι interface σ)}
    (h : Linked start (earlier ++ step :: later) finish) :
    Linked start earlier step.before ∧ Linked step.after later finish := by
  obtain ⟨_, hearlier, hlater⟩ := append_iff.1 h
  obtain ⟨rfl, hafter⟩ := cons_iff.1 hlater
  exact ⟨hearlier, hafter⟩

/-- What holds at the start and is kept by each step holds before every step and at the end. -/
theorem Linked.invariant {holds : σ → Prop} {start finish : σ}
    {steps : List (SharedStep ι interface σ)} (hlinked : Linked start steps finish)
    (hstart : holds start) (hkept : ∀ step ∈ steps, holds step.before → holds step.after) :
    (∀ step ∈ steps, holds step.before) ∧ holds finish := by
  induction hlinked with
  | nil => exact ⟨by simp, hstart⟩
  | cons _ ih =>
      obtain ⟨hfirst, hlater⟩ := List.forall_mem_cons.1 hkept
      obtain ⟨hbefore, hfinish⟩ := ih (hfirst hstart) hlater
      exact ⟨List.forall_mem_cons.2 ⟨hstart, hbefore⟩, hfinish⟩

variable [DecidableEq ι]

/-- The event of a process in a step, if it is the one that took the step. -/
def SharedStep.eventOf? (index : ι) (step : SharedStep ι interface σ) : Option (Event interface) :=
  match step.actor with
  | .process other event => if other = index then some event else none
  | .outside => none

/-- What a process asked and was told, in order. -/
def historyOf (index : ι) (steps : List (SharedStep ι interface σ)) : List (Event interface) :=
  steps.filterMap (SharedStep.eventOf? index)

/-- A step has an event of a process exactly if it is one of the process. -/
theorem SharedStep.eventOf?_eq_some_iff {index : ι} {step : SharedStep ι interface σ}
    {event : Event interface} : step.eventOf? index = some event ↔ step.IsOf index event := by
  obtain ⟨before, actor, after⟩ := step
  cases actor with
  | process other event =>
      by_cases h : other = index <;> simp [eventOf?, IsOf, h]
  | outside => simp [eventOf?, IsOf]

/-- The event of a process is in its history exactly if a step has it. -/
theorem mem_historyOf {index : ι} {steps : List (SharedStep ι interface σ)}
    {event : Event interface} :
    event ∈ historyOf index steps ↔ ∃ step ∈ steps, step.IsOf index event := by
  simp [historyOf, SharedStep.eventOf?_eq_some_iff]

/-- The history of a process is that of the steps up to anywhere and that of the others. -/
theorem historyOf_append (index : ι) (earlier later : List (SharedStep ι interface σ)) :
    historyOf index (earlier ++ later) = historyOf index earlier ++ historyOf index later :=
  List.filterMap_append

/-- The history of a process ends with its last step. -/
theorem historyOf_append_singleton {index : ι} {earlier : List (SharedStep ι interface σ)}
    {step : SharedStep ι interface σ} {event : Event interface} (h : step.IsOf index event) :
    historyOf index (earlier ++ [step]) = historyOf index earlier ++ [event] := by
  rw [historyOf_append, historyOf, historyOf,
    List.filterMap_cons_some (SharedStep.eventOf?_eq_some_iff.2 h), List.filterMap_nil]

/-- The first event of a process is in a step. -/
theorem exists_of_historyOf_eq_cons {index : ι} {steps : List (SharedStep ι interface σ)}
    {event : Event interface} {events : List (Event interface)}
    (h : historyOf index steps = event :: events) :
    ∃ first step later, steps = first ++ step :: later ∧ step.IsOf index event := by
  obtain ⟨first, step, later, hsteps, -, hstep, -⟩ := List.filterMap_eq_cons_iff.1 h
  exact ⟨first, step, later, hsteps, SharedStep.eventOf?_eq_some_iff.1 hstep⟩

variable (system : SharedSystem ι interface σ α)

/-- The runs of a system from a state: in each step a process gets an answer to the request that it
has come to, or the state changes from outside. -/
inductive Execution (start : σ) : List (SharedStep ι interface σ) → σ → Prop where
  | begin : Execution start [] start
  | answered {steps : List (SharedStep ι interface σ)} {state after : σ} {index : ι}
      {request : interface.Request} {next : interface.Reply request → Process interface α}
      {reply : interface.Reply request} :
      Execution start steps state →
      Path (system.program index) (historyOf index steps) (.call request next) →
      system.answers state request reply after →
      Execution start (steps ++ [⟨state, .process index ⟨request, reply⟩, after⟩]) after
  | disturbed {steps : List (SharedStep ι interface σ)} {state after : σ} :
      Execution start steps state → system.disturbs state after →
      Execution start (steps ++ [⟨state, .outside, after⟩]) after

/-- A step is allowed: a reply is an answer in the state before it, a disturbance is possible. -/
def SharedSystem.Allows (step : SharedStep ι interface σ) : Prop :=
  match step.actor with
  | .process _ event => system.answers step.before event.request event.reply step.after
  | .outside => system.disturbs step.before step.after

namespace Execution

variable {system} {start finish : σ} {steps : List (SharedStep ι interface σ)}

/-- The steps of an execution lead from its start to its end. -/
theorem linked (h : Execution system start steps finish) : Linked start steps finish := by
  induction h with
  | begin => exact .nil start
  | answered _ _ _ ih => exact Linked.append_iff.2 ⟨_, ih, .cons (.nil _)⟩
  | disturbed _ _ ih => exact Linked.append_iff.2 ⟨_, ih, .cons (.nil _)⟩

/-- Every step of an execution is allowed. -/
theorem allowed (h : Execution system start steps finish) : ∀ step ∈ steps, system.Allows step := by
  induction h with
  | begin => simp
  | answered _ _ hanswer ih =>
      intro step hstep
      rcases List.mem_append.1 hstep with hold | hlast
      · exact ih step hold
      · obtain rfl := List.mem_singleton.1 hlast
        exact hanswer
  | disturbed _ hdisturb ih =>
      intro step hstep
      rcases List.mem_append.1 hstep with hold | hlast
      · exact ih step hold
      · obtain rfl := List.mem_singleton.1 hlast
        exact hdisturb

/-- What a process saw is a path of its program. -/
theorem path (h : Execution system start steps finish) (index : ι) :
    ∃ rest, Path (system.program index) (historyOf index steps) rest := by
  induction h with
  | begin => exact ⟨_, .nil _⟩
  | @answered steps state after other request next reply _ hpath _ ih =>
      by_cases hother : other = index
      · subst hother
        refine ⟨next reply, ?_⟩
        have hstep := hpath.append (.cons (.nil (next reply)))
        simpa [historyOf, SharedStep.eventOf?] using hstep
      · obtain ⟨rest, hrest⟩ := ih
        exact ⟨rest, by simpa [historyOf, SharedStep.eventOf?, hother] using hrest⟩
  | disturbed _ _ ih =>
      obtain ⟨rest, hrest⟩ := ih
      refine ⟨rest, ?_⟩
      rwa [historyOf, List.filterMap_append,
        List.filterMap_cons_none (by simp [SharedStep.eventOf?]), List.filterMap_nil,
        List.append_nil]

/-- An execution can go on with what one process does next, if its requests are answered. -/
theorem run {state after : σ} {index : ι} {middle rest : Process interface α}
    {events : List (Event interface)} (h : Execution system start steps state)
    (hmiddle : Path (system.program index) (historyOf index steps) middle)
    (hpath : Path middle events rest) (hanswered : Answered system.answers state events after) :
    ∃ later, Execution system start (steps ++ later) after ∧
      ∀ other, historyOf other later = if other = index then events else [] := by
  induction hpath generalizing steps state with
  | nil process =>
      cases hanswered
      exact ⟨[], by simpa using h, by simp [historyOf]⟩
  | @cons request next reply events rest _ ih =>
      cases hanswered with
      | @cons _ between _ _ _ hanswer hlater =>
          let step : SharedStep ι interface σ := ⟨state, .process index ⟨request, reply⟩, between⟩
          have hstep : Execution system start (steps ++ [step]) between :=
            .answered h hmiddle hanswer
          have hnext : Path (system.program index) (historyOf index (steps ++ [step]))
              (next reply) := by
            have hof : step.IsOf index ⟨request, reply⟩ := rfl
            rw [historyOf_append_singleton hof]
            exact hmiddle.append (.cons (.nil _))
          obtain ⟨later, hexecution, hhistory⟩ := ih hstep hnext hlater
          refine ⟨step :: later, by simpa using hexecution, fun other => ?_⟩
          have hcons : historyOf other (step :: later) =
              (step.eventOf? other).toList ++ historyOf other later := by
            rw [historyOf, historyOf, List.filterMap_cons]
            cases step.eventOf? other <;> rfl
          by_cases hother : other = index
          · subst hother
            simp [hcons, hhistory, step, SharedStep.eventOf?]
          · have hsame : index ≠ other := fun heq => hother heq.symm
            simp [hcons, hhistory, step, SharedStep.eventOf?, hother, hsame]

/-- An execution can be stopped after any of its steps. -/
theorem stop {earlier later : List (SharedStep ι interface σ)}
    (h : Execution system start (earlier ++ later) finish) :
    ∃ state, Execution system start earlier state := by
  induction later using List.reverseRecOn generalizing finish with
  | nil => exact ⟨finish, by simpa using h⟩
  | append_singleton later step ih =>
      rw [← List.append_assoc] at h
      generalize hsteps : earlier ++ later ++ [step] = steps at h
      cases h with
      | begin => simp at hsteps
      | answered hearlier _ _ | disturbed hearlier _ =>
          obtain ⟨rfl, -⟩ := List.append_inj' hsteps rfl
          exact ih hearlier

end Execution

end Steps

end MonitorOperator
