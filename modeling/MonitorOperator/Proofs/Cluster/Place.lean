import MonitorOperator.Cluster.Store
import MonitorOperator.Proofs.Cluster.Versioned
import MonitorOperator.Proofs.Process.Interleaving

/-!
# One object on the API server

A `Place` is what the API server keeps under one namespace and name: an object or none, and the
versions that it has issued there. Every write issues a fresh version. `Serves` says which answers a
call may get and what it leaves behind: a create needs an absent object, and a replace that carries
a version needs this version. `Changes` are the writes and deletes of anyone.

The main lemma is `Place.kept_or_passed`: over any number of steps, either the place is untouched or
the versions issued before are never live again.
-/

namespace MonitorOperator.Cluster

/-- What the server keeps under one namespace and name. -/
structure Place where
  live : Option Document
  /-- The versions that writes have issued so far. -/
  issued : List String

namespace Place

/-- Storing a body leaves it live under a fresh version. -/
inductive Stores (place : Place) (body stored : Document) : Place → Prop where
  | intro {version : String} :
      version ≠ "" → version ∉ place.issued → versioned? body version = some stored →
      Stores place body stored ⟨some stored, version :: place.issued⟩

/-- How the place changes: someone stores a well-formed body or deletes the object. -/
inductive Changes (place : Place) : Place → Prop where
  | stored {body stored : Document} {after : Place} :
      place.Stores body stored after → Changes place after
  | deleted : Changes place { place with live := none }

/-- The namespace and name that a call is about. -/
def addressOf? : ApiCall → Option (Document × Document)
  | .readWorkload name scope => some (scope, name)
  | .createWorkload scope body => (nameOf? body).map (scope, ·)
  | .replaceWorkload name scope _ => some (scope, name)
  | .replaceStatus .. => none
  | .readNamespace _ => none

/-- The answers that a call may get at the place of a namespace and a name, and the place after
them. Calls about anything else may get any answer. -/
inductive Serves (scope name : Document) (place : Place) :
    ApiCall → Except Fault ApiReply → Place → Prop where
  | found {body : Document} {reply : ApiReply} :
      place.live = some body → reply.toObject = .ok body →
      Serves scope name place (.readWorkload name scope) (.ok reply) place
  | missing {reason : Document} :
      place.live = none →
      Serves scope name place (.readWorkload name scope)
        (.error (.refused (.integer 404) reason)) place
  | created {body stored : Document} {reply : ApiReply} {after : Place} :
      place.live = none → nameOf? body = some name → place.Stores body stored after →
      reply.toObject = .ok stored →
      Serves scope name place (.createWorkload scope body) (.ok reply) after
  | existing {body live reason : Document} :
      place.live = some live → nameOf? body = some name →
      Serves scope name place (.createWorkload scope body)
        (.error (.refused (.integer 409) reason)) place
  | replaced {body live stored : Document} {reply : ApiReply} {after : Place} :
      place.live = some live →
      (∀ version, versionOf? body = some version → versionOf? live = some version) →
      place.Stores body stored after → reply.toObject = .ok stored →
      Serves scope name place (.replaceWorkload name scope body) (.ok reply) after
  | gone {body reason : Document} :
      place.live = none →
      Serves scope name place (.replaceWorkload name scope body)
        (.error (.refused (.integer 404) reason)) place
  | outdated {body live version reason : Document} :
      place.live = some live → versionOf? body = some version → versionOf? live ≠ some version →
      Serves scope name place (.replaceWorkload name scope body)
        (.error (.refused (.integer 409) reason)) place
  | elsewhere {call : ApiCall} {reply : Except Fault ApiReply} :
      addressOf? call ≠ some (scope, name) → Serves scope name place call reply place

/-- How requests of an operator are answered: calls as the place serves them, all others without an
effect on it. -/
def Answers (scope name : Document) (place : Place) :
    (request : SystemRequest) → request.Reply → Place → Prop
  | .api call, reply, after => place.Serves scope name call reply after
  | .send _, _, after => after = place
  | .log _, _, after => after = place
  | .count _, _, after => after = place
  | .now, _, after => after = place

/-- The live object, if there is one, carries a version that was issued. -/
def Sound (place : Place) : Prop :=
  ∀ body, place.live = some body →
    ∃ version ∈ place.issued, version ≠ "" ∧ versionOf? body = some (.text version)

/-- The version was issued and is not that of the live object. -/
def Passed (place : Place) (version : String) : Prop :=
  version ∈ place.issued ∧ ∀ body, place.live = some body → versionOf? body ≠ some (.text version)

variable {place after : Place}

/-- An answer that tells what was stored of a workload is read as this workload. -/
theorem Stores.exists_workloadOf {workload : Workload} {stored : Document} {answer : ApiReply}
    (h : place.Stores workload.manifest stored after) (hobject : answer.toObject = .ok stored) :
    ∃ version, Cluster.workloadOf answer = .ok (workload.readBack (.text version)) := by
  cases h with
  | @intro version _ _ hversioned =>
      rw [Cluster.workloadOf, hobject]
      exact ⟨version, ofManifest_versioned? hversioned⟩

/-- A place that a change leaves behind is sound. -/
theorem Changes.sound (h : place.Changes after) : after.Sound := by
  intro body hlive
  cases h with
  | stored hstores =>
      cases hstores with
      | @intro version hnonempty _ hversioned =>
          obtain rfl := Option.some.inj hlive
          exact ⟨version, List.mem_cons_self, hnonempty, versionOf?_versioned? hversioned⟩
  | deleted => cases hlive

/-- A change leaves no version live that was issued before it. -/
theorem Changes.passed {version : String} (h : place.Changes after)
    (hissued : version ∈ place.issued) : after.Passed version := by
  cases h with
  | stored hstores =>
      cases hstores with
      | intro _ hfresh hversioned =>
          refine ⟨List.mem_cons_of_mem _ hissued, fun body hlive hbody => ?_⟩
          obtain rfl := Option.some.inj hlive
          obtain rfl : version = _ := by
            simpa [versionOf?_versioned? hversioned] using hbody.symm
          exact hfresh hissued
  | deleted => exact ⟨hissued, fun body hlive => by cases hlive⟩

/-- A read at the address finds the live object, or that there is none. -/
theorem Serves.of_read {scope name : Document} {reply : Except Fault ApiReply}
    (h : place.Serves scope name (.readWorkload name scope) reply after) :
    after = place ∧
      ((∃ body answer, place.live = some body ∧ reply = .ok answer ∧ answer.toObject = .ok body) ∨
        (place.live = none ∧ ∃ reason, reply = .error (.refused (.integer 404) reason))) := by
  cases h with
  | found hlive hobject => exact ⟨rfl, .inl ⟨_, _, hlive, rfl, hobject⟩⟩
  | missing hlive => exact ⟨rfl, .inr ⟨hlive, _, rfl⟩⟩
  | elsewhere helsewhere => exact absurd rfl helsewhere

/-- A create at the address finds no object and stores the body, or is refused. -/
theorem Serves.of_create {scope name body : Document} {reply : Except Fault ApiReply}
    (hname : nameOf? body = some name)
    (h : place.Serves scope name (.createWorkload scope body) reply after) :
    (∃ answer stored, reply = .ok answer ∧ answer.toObject = .ok stored ∧ place.live = none ∧
        place.Stores body stored after) ∨
      (after = place ∧ ∃ reason, reply =
        .error (.refused (.integer (if place.live.isNone then 404 else 409)) reason)) := by
  cases h with
  | created hlive _ hstores hobject => exact .inl ⟨_, _, rfl, hobject, hlive, hstores⟩
  | existing hlive _ =>
      rw [hlive]
      exact .inr ⟨rfl, _, rfl⟩
  | elsewhere helsewhere => exact absurd (by simp [addressOf?, hname]) helsewhere

/-- A replace at the address finds an object at the version of the body, if the body carries one,
and stores the body, or is refused. -/
theorem Serves.of_replace {scope name body : Document} {reply : Except Fault ApiReply}
    (h : place.Serves scope name (.replaceWorkload name scope body) reply after) :
    (∃ answer live stored, reply = .ok answer ∧ answer.toObject = .ok stored ∧
        place.live = some live ∧
        (∀ version, versionOf? body = some version → versionOf? live = some version) ∧
        place.Stores body stored after) ∨
      (after = place ∧ ∃ reason, reply =
        .error (.refused (.integer (if place.live.isNone then 404 else 409)) reason)) := by
  cases h with
  | replaced hlive hversion hstores hobject =>
      exact .inl ⟨_, _, _, rfl, hobject, hlive, hversion, hstores⟩
  | gone hlive =>
      rw [hlive]
      exact .inr ⟨rfl, _, rfl⟩
  | outdated hlive _ _ =>
      rw [hlive]
      exact .inr ⟨rfl, _, rfl⟩
  | elsewhere helsewhere => exact absurd rfl helsewhere

/-- An answer keeps the place or changes it as anyone may. -/
theorem Serves.kept_or_changes {scope name : Document} {call : ApiCall}
    {reply : Except Fault ApiReply} (h : place.Serves scope name call reply after) :
    after = place ∨ place.Changes after := by
  cases h with
  | created _ _ hstores _ => exact .inr (.stored hstores)
  | replaced _ _ hstores _ => exact .inr (.stored hstores)
  | found | missing | existing | gone | outdated | elsewhere => exact .inl rfl

/-- A reply keeps the place or changes it as anyone may. -/
theorem Answers.kept_or_changes {scope name : Document} {request : SystemRequest}
    {reply : request.Reply} (h : place.Answers scope name request reply after) :
    after = place ∨ place.Changes after := by
  cases request with
  | api call => exact Serves.kept_or_changes h
  | send _ | log _ | count _ | now => exact .inl h

section Steps

variable {ι : Type} {interface : Interface} {steps : List (SharedStep ι interface Place)}

/-- Each step keeps the place or changes it. -/
def Evolves (steps : List (SharedStep ι interface Place)) : Prop :=
  ∀ step ∈ steps, step.after = step.before ∨ step.before.Changes step.after

/-- Steps keep the place or change it if the first does and the others do. -/
theorem evolves_cons {before after : Place} {actor : Actor ι interface} :
    Evolves (⟨before, actor, after⟩ :: steps) ↔
      (after = before ∨ before.Changes after) ∧ Evolves steps :=
  List.forall_mem_cons

/-- A place stays sound over any number of steps. -/
theorem Sound.linked (hsound : place.Sound) (hlinked : Linked place steps after)
    (hsteps : Evolves steps) : after.Sound := by
  refine (hlinked.invariant hsound fun step hstep hbefore => ?_).2
  rcases hsteps step hstep with hsame | hchange
  · rwa [hsame]
  · exact hchange.sound

/-- A version that has passed does not come back. -/
theorem Passed.linked {version : String} (hpassed : place.Passed version)
    (hlinked : Linked place steps after) (hsteps : Evolves steps) : after.Passed version := by
  have hkept : ∀ step ∈ steps, step.before.Passed version → step.after.Passed version := by
    intro step hstep hbefore
    rcases hsteps step hstep with hsame | hchange
    · rwa [hsame]
    · exact hchange.passed hbefore.1
  exact (@Linked.invariant _ _ _ (Passed · version) _ _ _ hlinked hpassed hkept).2

/-- Over any number of steps, either nothing changes or every version issued before has passed. -/
theorem kept_or_passed {version : String} (hissued : version ∈ place.issued)
    (hlinked : Linked place steps after) (hsteps : Evolves steps) :
    (after = place ∧ ∀ step ∈ steps, step.after = step.before) ∨ after.Passed version := by
  induction hlinked with
  | nil => exact .inl ⟨rfl, by simp⟩
  | cons hrest ih =>
      obtain ⟨hstep, hlater⟩ := evolves_cons.1 hsteps
      rcases hstep with rfl | hchange
      · refine (ih hissued hlater).imp_left fun ⟨hkept, hall⟩ => ⟨hkept, ?_⟩
        exact List.forall_mem_cons.2 ⟨rfl, hall⟩
      · exact .inr ((hchange.passed hissued).linked hrest hlater)

end Steps

end Place

end MonitorOperator.Cluster
