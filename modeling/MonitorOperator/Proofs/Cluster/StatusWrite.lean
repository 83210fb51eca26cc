import MonitorOperator.Proofs.Cluster.Place
import MonitorOperator.Proofs.Process.Contract

/-!
# Status writes on the API server

A status write replaces the status of the live object and leaves the rest of it as it is. Like any
replace it is refused if its body carries another version than the live object has. `ServesStatus`
says which answers a call may get, and `WritesStatus` what comes of the status write of a monitor,
which makes one such call (`Place.writesStatus_of_answered`).
-/

namespace MonitorOperator.Cluster

open Process (Path)

/-- The live object with the status of a body. -/
def withStatus : Document → Document → Document
  | .object fields, .object given =>
      .object (Fields.put fields (.text "status") ((Fields.get? given (.text "status")).getD .null))
  | live, _ => live

namespace Place

/-- The answers that a call may get at the place of a monitor, and the place after them. A status
write that is accepted tells the new version. Calls about anything else may get any answer. -/
inductive ServesStatus (scope name : Document) (place : Place) :
    ApiCall → Except Fault ApiReply → Place → Prop where
  | replaced {body live stored version : Document} {reply : ApiReply} {after : Place} :
      place.live = some live →
      (∀ carried, versionOf? body = some carried → versionOf? live = some carried) →
      place.Stores (withStatus live body) stored after → versionOf? stored = some version →
      reply.newVersion = .ok version →
      ServesStatus scope name place (.replaceStatus name scope body) (.ok reply) after
  | outdated {body live carried reason : Document} :
      place.live = some live → versionOf? body = some carried → versionOf? live ≠ some carried →
      ServesStatus scope name place (.replaceStatus name scope body)
        (.error (.refused (.integer 409) reason)) place
  | gone {body reason : Document} :
      place.live = none →
      ServesStatus scope name place (.replaceStatus name scope body)
        (.error (.refused (.integer 404) reason)) place
  | elsewhere {call : ApiCall} {reply : Except Fault ApiReply} :
      (∀ body, call ≠ .replaceStatus name scope body) →
      ServesStatus scope name place call reply place

/-- How requests of the operator are answered: status writes as the place serves them, all others
without an effect on it. -/
def AnswersStatus (scope name : Document) (place : Place) :
    (request : SystemRequest) → request.Reply → Place → Prop
  | .api call, reply, after => place.ServesStatus scope name call reply after
  | .send _, _, after => after = place
  | .log _, _, after => after = place
  | .count _, _, after => after = place
  | .now, _, after => after = place

/-- What comes of the status write of a monitor: it is stored, if the monitor has the version of the
live object or none at all, or it is refused, or it cannot be written down. -/
inductive WritesStatus (place : Place) (monitor : Monitor) :
    Except Fault Document → Place → Prop where
  | stored {live body stored version : Document} {after : Place} :
      statusBody monitor = .ok body → place.live = some live →
      (monitor.resourceVersion.truthy = true → versionOf? live = some monitor.resourceVersion) →
      place.Stores (withStatus live body) stored after → versionOf? stored = some version →
      WritesStatus place monitor (.ok version) after
  | outdated {live : Document} {fault : Fault} :
      place.live = some live → monitor.resourceVersion.truthy = true →
      versionOf? live ≠ some monitor.resourceVersion → fault.kind = .conflict →
      WritesStatus place monitor (.error fault) place
  | gone {fault : Fault} :
      place.live = none → fault.kind ≠ .conflict → WritesStatus place monitor (.error fault) place
  | unwritable {fault : Fault} :
      statusBody monitor = .error fault → fault.kind ≠ .conflict →
      WritesStatus place monitor (.error fault) place

end Place

section StatusBody

variable {monitor : Monitor}

/-- The body of a status write carries the version of the monitor, if it has one. -/
theorem versionOf?_statusBody {body : Document} (h : statusBody monitor = .ok body) :
    versionOf? body =
      if monitor.resourceVersion.truthy then some monitor.resourceVersion else none := by
  obtain ⟨status, -, hbody⟩ := bind_eq_ok_iff.1 h
  obtain rfl := Except.ok.inj hbody
  cases monitor.resourceVersion.truthy <;> rfl

/-- A status that cannot be written down is no conflict. -/
theorem statusBody_faultsIn : FaultsIn (·.kind ≠ .conflict) (statusBody monitor) := by
  refine FaultsIn.bind ?_ fun _ _ => .pure _
  unfold MonitorStatus.manifest
  cases monitor.status.updated with
  | none => exact .pure _
  | some moment =>
      refine FaultsIn.bind (FaultsIn.bind ?_ fun _ _ => .pure _) fun _ _ => .pure _
      simp only [Moment.toUtc]
      split
      · simp [Fault.kind]
      · exact .ok _

/-- What the answer to a status write tells. -/
def statusReply (monitor : Monitor) : Except Fault ApiReply → Except Fault Document
  | .ok reply => reply.newVersion
  | .error fault =>
      .error (explain s!"status of KubeMon {path monitor.scope monitor.name}" .statusPersist fault)

/-- A status write makes one call, if its body can be written down. -/
theorem updateStatus_path {events : List (Event system)} {reply : Except Fault Document}
    (h : Path (updateStatus monitor).outcome events (.done reply)) :
    (∃ fault, statusBody monitor = .error fault ∧ events = [] ∧ reply = .error fault) ∨
      ∃ body answer, statusBody monitor = .ok body ∧
        events = [⟨.api (.replaceStatus monitor.name monitor.scope body), answer⟩] ∧
        reply = statusReply monitor answer := by
  rcases Task.path_bind_done_iff.1 h with
    ⟨fault, rfl, hbody⟩ | ⟨body, first, later, rfl, hbody, hcall⟩
  · obtain ⟨rfl, hfault⟩ := Path.done_iff.1 (Task.outcome_liftM_except _ ▸ hbody)
    exact .inl ⟨fault, (Process.done.inj hfault).symm, rfl, rfl⟩
  · obtain ⟨rfl, hok⟩ := Path.done_iff.1 (Task.outcome_liftM_except _ ▸ hbody)
    obtain ⟨answer, last, rfl, hlast⟩ := Path.call_done_iff.1 hcall
    refine .inr ⟨body, answer, (Process.done.inj hok).symm, ?_⟩
    cases answer with
    | ok answer =>
        obtain ⟨rfl, hreply⟩ := Path.done_iff.1 (Task.outcome_liftM_except _ ▸ hlast)
        exact ⟨rfl, (Process.done.inj hreply)⟩
    | error fault =>
        obtain ⟨rfl, hreply⟩ := Path.done_iff.1 hlast
        exact ⟨rfl, Process.done.inj hreply⟩

/-- A status write whose body can be written down makes its call, and returns what the answer
tells. -/
theorem path_updateStatus {body : Document} (h : statusBody monitor = .ok body)
    (answer : Except Fault ApiReply) :
    Path (updateStatus monitor).outcome
      [⟨.api (.replaceStatus monitor.name monitor.scope body), answer⟩]
      (.done (statusReply monitor answer)) := by
  refine Task.path_bind_done_iff.2 (.inr ⟨body, [], _, rfl, ?_, ?_⟩)
  · rw [Task.outcome_liftM_except, h]
    exact .nil _
  · refine .cons ?_
    cases answer with
    | ok reply => exact Task.outcome_liftM_except reply.newVersion ▸ .nil _
    | error fault => exact .nil _

end StatusBody

namespace Place

variable {scope name : Document} {place after : Place} {monitor : Monitor} {version : String}
  {reply : Except Fault Document}

/-- The live object has this version. -/
def Current (place : Place) (version : String) : Prop :=
  version ∈ place.issued ∧ version ≠ "" ∧
    ∃ body, place.live = some body ∧ versionOf? body = some (.text version)

/-- What is stored is current at its version. -/
theorem Stores.current {body stored version : Document} (h : place.Stores body stored after)
    (hversion : versionOf? stored = some version) :
    ∃ issued, version = .text issued ∧ after.Current issued := by
  cases h with
  | @intro issued hnonempty _ hversioned =>
      have hissued := versionOf?_versioned? hversioned
      exact ⟨issued, Option.some.inj (hversion.symm.trans hissued), List.mem_cons_self, hnonempty,
        stored, rfl, hissued⟩

/-- The live object of a sound place is current at the version that it carries. -/
theorem Sound.current {body version : Document} (h : place.Sound) (hlive : place.live = some body)
    (hversion : versionOf? body = some version) :
    ∃ issued, version = .text issued ∧ place.Current issued := by
  obtain ⟨issued, hissued, hnonempty, hcarried⟩ := h body hlive
  exact ⟨issued, Option.some.inj (hversion.symm.trans hcarried), hissued, hnonempty, body, hlive,
    hcarried⟩

/-- The status write of a monitor is answered in one of the ways that such a write can go. -/
theorem writesStatus_of_answered {events : List (Event system)}
    (haddress : monitor.scope = scope ∧ monitor.name = name)
    (hpath : Path (updateStatus monitor).outcome events (.done reply))
    (hanswered : Answered (AnswersStatus scope name) place events after) :
    place.WritesStatus monitor reply after := by
  obtain ⟨rfl, rfl⟩ := haddress
  rcases updateStatus_path hpath with ⟨fault, hbody, rfl, rfl⟩ | ⟨body, answer, hbody, rfl, rfl⟩
  · cases hanswered
    exact .unwritable hbody (statusBody_faultsIn fault hbody)
  have hcarried := versionOf?_statusBody hbody
  cases hanswered with
  | cons hserved hrest =>
      cases hrest
      cases hserved with
      | replaced hlive hmatches hstores hversion htold =>
          rw [statusReply, htold]
          refine .stored hbody hlive (fun htruthy => hmatches _ ?_) hstores hversion
          rw [hcarried, if_pos htruthy]
      | outdated hlive hversion hother =>
          rw [hcarried] at hversion
          split at hversion
          · next htruthy =>
              obtain rfl := Option.some.inj hversion
              exact .outdated hlive htruthy hother rfl
          · cases hversion
      | gone hlive => exact .gone hlive (nofun : FaultKind.notFound ≠ .conflict)
      | elsewhere helsewhere => exact absurd rfl (helsewhere body)

/-- The status write of a monitor keeps the place or changes it as anyone may. -/
theorem kept_or_changes_of_answered {events : List (Event system)}
    (hpath : Path (updateStatus monitor).outcome events (.done reply))
    (hanswered : Answered (AnswersStatus scope name) place events after) :
    after = place ∨ place.Changes after := by
  rcases updateStatus_path hpath with ⟨_, -, rfl, -⟩ | ⟨_, _, -, rfl, -⟩
  · cases hanswered
    exact .inl rfl
  · cases hanswered with
    | cons hserved hrest =>
        cases hrest
        cases hserved with
        | replaced _ _ hstores _ _ => exact .inr (.stored hstores)
        | outdated | gone | elsewhere => exact .inl rfl

/-- A status write that fails keeps the place. -/
theorem WritesStatus.of_error {fault : Fault} (h : place.WritesStatus monitor (.error fault) after) :
    after = place := by
  cases h <;> rfl

/-- A status write at another version than that of the live object is refused, if it can be written
down and there is an object. -/
theorem WritesStatus.of_outdated (h : place.WritesStatus monitor reply after)
    (hcarried : monitor.resourceVersion = .text version) (hnonempty : version ≠ "")
    (hother : ∀ live, place.live = some live → versionOf? live ≠ some (.text version)) :
    after = place ∧ ∃ fault, reply = .error fault ∧
      (place.live ≠ none → (∃ body, statusBody monitor = .ok body) → fault.kind = .conflict) := by
  cases h with
  | stored _ hlive hmatches =>
      have htruthy : monitor.resourceVersion.truthy = true := by
        simp [hcarried, Document.truthy, Scalar.truthy, hnonempty]
      exact absurd (hcarried ▸ hmatches htruthy) (hother _ hlive)
  | outdated _ _ _ hkind => exact ⟨rfl, _, rfl, fun _ _ => hkind⟩
  | gone hlive => exact ⟨rfl, _, rfl, fun hsome => absurd hlive hsome⟩
  | unwritable hbody =>
      refine ⟨rfl, _, rfl, fun _ hwritten => ?_⟩
      obtain ⟨body, hwritable⟩ := hwritten
      cases hbody.symm.trans hwritable

/-- A status write at the current version is not refused. -/
theorem WritesStatus.of_current {fault : Fault} (h : place.WritesStatus monitor (.error fault) after)
    (hcarried : monitor.resourceVersion = .text version) (hcurrent : place.Current version) :
    fault.kind ≠ .conflict := by
  obtain ⟨-, -, body, hlive, hversion⟩ := hcurrent
  cases h with
  | outdated hother _ hdiffers =>
      obtain rfl := Option.some.inj (hlive.symm.trans hother)
      exact absurd (hcarried ▸ hversion) hdiffers
  | gone _ hkind | unwritable _ hkind => exact hkind

end Place

end MonitorOperator.Cluster
