import MonitorOperator.Proofs.Cluster.Place
import MonitorOperator.Proofs.Cycle.ConvergenceCalls

/-!
# No update is lost

Any number of convergences work on one object of the API server, interleaved call by call with each
other and with writes and deletes of anyone. `convergences_careful` says what each of them does: it
writes at most once, it creates only where there is nothing, and it overwrites only what it has
read, as long as nobody has written since.
-/

namespace MonitorOperator

open Cluster (ApiCall ApiReply Place nameOf? versionOf? versioned?)
open Process (Path)

/-- The call writes a workload. -/
def Cluster.ApiCall.writesWorkload : ApiCall → Bool
  | .createWorkload .. => true
  | .replaceWorkload .. => true
  | .readWorkload .. => false
  | .replaceStatus .. => false
  | .readNamespace _ => false

/-- The event is a write of a workload. -/
def Event.writesWorkload (event : Event system) : Bool :=
  match event.request with
  | .api call => call.writesWorkload
  | .send _ | .log _ | .count _ | .now => false

/-- Events without calls have no write among them. -/
theorem Silent.filter_writesWorkload {events : List (Event system)} (h : Silent events) :
    events.filter Event.writesWorkload = [] := by
  rw [List.filter_eq_nil_iff]
  rintro ⟨request, reply⟩ hmem
  cases request with
  | api call => exact absurd hmem (h call reply)
  | send _ | log _ | count _ | now => simp [Event.writesWorkload]

namespace Cycle

variable {desired : Workload} {events : List (Event system)}
  {rest : Process system (Except Fault Convergence)} {call : ApiCall}
  {convergence : Convergence} {reading : Except Fault Workload}

/-- What a convergence plans is a write. -/
theorem Plans.writesWorkload (h : Plans desired reading call convergence) :
    call.writesWorkload = true := by
  cases h <;> rfl

/-- At every stage of a convergence at most one write was issued. -/
theorem Stage.writes_once (h : Stage desired events rest) :
    (events.filter Event.writesWorkload).length ≤ 1 := by
  have hread : ∀ reply, (readEvent desired reply).writesWorkload = false := fun _ => rfl
  cases h with
  | unread _ => simp
  | unreadable _ => simp [hread]
  | current _ _ hlater _ => simp [hread, hlater.filter_writesWorkload]
  | pending hlater _ => simp [hread, hlater.filter_writesWorkload]
  | @refused _ write _ _ fault _ hplans hbefore =>
      have hwrite : (apiEvent write (.error fault)).writesWorkload = true := hplans.writesWorkload
      simp [hread, hwrite, hbefore.filter_writesWorkload]
  | @accepted _ write _ _ _ answer _ hplans hbefore hlater _ =>
      have hwrite : (apiEvent write (.ok answer)).writesWorkload = true := hplans.writesWorkload
      simp [hread, hwrite, hbefore.filter_writesWorkload, hlater.filter_writesWorkload]

/-- A write of a convergence is the one that it planned after its read. If it is refused the
convergence ends there, and else the answer decides the result. -/
theorem Stage.of_write {reply : Except Fault ApiReply} (h : Stage desired events rest)
    (hwrite : call.writesWorkload = true) (hevent : apiEvent call reply ∈ events) :
    ∃ answer before later convergence,
      events = readEvent desired answer :: (before ++ apiEvent call reply :: later) ∧
      Silent later ∧ Plans desired (readingOf desired answer) call convergence ∧
      (∀ fault, reply = .error fault →
        ∃ what, rest = .done (.error (Cluster.explain what .workload fault))) ∧
      ∀ accepted, reply = .ok accepted → ∀ outcome, rest = .done outcome →
        outcome = (Cluster.workloadOf accepted).map fun _ => convergence := by
  have hread : ∀ answer, apiEvent call reply ≠ readEvent desired answer := by
    intro answer heq
    obtain ⟨rfl, -⟩ := apiEvent_inj.1 heq
    cases hwrite
  cases h with
  | unread _ => cases hevent
  | unreadable _ => exact absurd (List.mem_singleton.1 hevent) (hread _)
  | current _ _ hlater _ | pending hlater _ =>
      rcases List.mem_cons.1 hevent with heq | hmem
      · exact absurd heq (hread _)
      · exact absurd hmem (hlater _ _)
  | @refused answer write convergence before fault what hplans hbefore =>
      have heq : apiEvent call reply = apiEvent write (.error fault) := by
        simpa [hread, hbefore call reply] using hevent
      obtain ⟨rfl, rfl⟩ := apiEvent_inj.1 heq
      refine ⟨answer, before, [], convergence, rfl, silent_nil, hplans, ?_, by simp⟩
      intro kind hfault
      cases hfault
      exact ⟨what, rfl⟩
  | @accepted answer write convergence before later accepted _ hplans hbefore hlater hrest =>
      have heq : apiEvent call reply = apiEvent write (.ok accepted) := by
        simpa [hread, hbefore call reply, hlater call reply] using hevent
      obtain ⟨rfl, rfl⟩ := apiEvent_inj.1 heq
      refine ⟨answer, before, later, convergence, rfl, hlater, hplans, by simp, ?_⟩
      intro found hfound
      cases hfound
      exact hrest

/-- A convergence that ends well has left the workload alone or has written as it planned. -/
theorem Stage.of_done (h : Stage desired events (.done (.ok convergence))) :
    convergence = ⟨.unchanged, desired⟩ ∨
      ∃ call answer reading, apiEvent call (.ok answer) ∈ events ∧
        Plans desired reading call convergence := by
  generalize hrest : Process.done (Except.ok convergence) = rest at h
  cases h with
  | unread hnotdone => exact absurd hrest.symm (hnotdone _)
  | unreadable _ | refused _ _ => cases hrest
  | current _ _ _ houtcome =>
      exact .inl (Except.ok.inj (houtcome _ hrest.symm))
  | pending _ hnotdone => exact absurd hrest.symm (hnotdone _)
  | @accepted _ write planned _ _ answer _ hplans _ _ houtcome =>
      have hresult := houtcome _ hrest.symm
      cases hanswer : Cluster.workloadOf answer with
      | error fault => simp [hanswer, Except.map] at hresult
      | ok workload =>
          obtain rfl : convergence = planned := by simpa [hanswer, Except.map] using hresult
          exact .inr ⟨write, answer, _, by simp, hplans⟩

end Cycle

open MonitorOperator.Cycle

/-- A list that ends with an item is cut there by the last occurrence of the item. -/
theorem eq_of_append_singleton_eq {α : Type} {left right later : List α} {item : α}
    (h : left ++ [item] = right ++ item :: later) (hlater : item ∉ later) : left = right := by
  rcases List.eq_nil_or_concat later with rfl | ⟨others, last, rfl⟩
  · exact (List.append_inj' h rfl).1
  · have hend : left ++ [item] = (right ++ item :: others) ++ [last] := by simpa using h
    obtain ⟨-, hlast⟩ := List.append_inj' hend rfl
    exact absurd (by simp [List.singleton_inj.1 hlast]) hlater

section Convergences

variable {ι : Type}

/-- Convergences of any number of backends on the object of one namespace and name, which anyone
else may write and delete. -/
def convergences (backend : ι → Backend) (desired : ι → Workload) (scope name : Document) :
    SharedSystem ι system Place (Except Fault Convergence) where
  program index := (backend index).converge (desired index)
  answers := Place.Answers scope name
  disturbs := Place.Changes

variable [DecidableEq ι] {backend : ι → Backend} {desired : ι → Workload} {scope name : Document}
  {start finish : Place} {steps : List (SharedStep ι system Place)} {index : ι}

/-- What the steps of an execution tell about one convergence in it. -/
structure Careful (backend : Backend) (desired : Workload) (index : ι)
    (steps : List (SharedStep ι system Place)) : Prop where
  /-- It issues at most one write. -/
  once : ((historyOf index steps).filter Event.writesWorkload).length ≤ 1
  /-- A create that is accepted finds nothing and stores its body. -/
  creates : ∀ step ∈ steps, ∀ scope body answer,
    step.IsOf index (apiEvent (.createWorkload scope body) (.ok answer)) →
    step.before.live = none ∧ ∃ stored, step.before.Stores body stored step.after
  /-- A replace that is accepted overwrites the object that the convergence read, at the version
  that it read, and nobody has written since. -/
  overwrites : ∀ earlier step later, steps = earlier ++ step :: later →
    ∀ name scope body answer,
    step.IsOf index (apiEvent (.replaceWorkload name scope body) (.ok answer)) →
    ∃ first read between found live version,
      earlier = first ++ read :: between ∧ read.IsOf index (readEvent desired (.ok found)) ∧
      found.toObject = .ok live ∧ version ≠ "" ∧ versionOf? live = some (.text version) ∧
      versionOf? body = some (.text version) ∧
      (∀ other ∈ read :: between, other.after = other.before) ∧
      step.before.live = some live ∧ ∃ stored, step.before.Stores body stored step.after
  /-- It reports a create exactly if one was accepted. -/
  reports_create : ∀ outcome,
    Path (backend.converge desired) (historyOf index steps) (.done outcome) →
    ((∃ convergence, outcome = .ok convergence ∧ convergence.action = .created) ↔
      ∃ step ∈ steps, ∃ scope body answer,
        step.IsOf index (apiEvent (.createWorkload scope body) (.ok answer)))
  /-- It reports an update exactly if a replace was accepted. -/
  reports_update : ∀ outcome,
    Path (backend.converge desired) (historyOf index steps) (.done outcome) →
    ((∃ convergence, outcome = .ok convergence ∧ convergence.action = .updated) ↔
      ∃ step ∈ steps, ∃ name scope body answer,
        step.IsOf index (apiEvent (.replaceWorkload name scope body) (.ok answer)))
  /-- A write that is refused changes nothing and ends the convergence: the workload is missing, or
  the write was based on a stale read. -/
  refused : ∀ step ∈ steps, ∀ call fault, call.writesWorkload = true →
    step.IsOf index (apiEvent call (.error fault)) →
    step.after = step.before ∧
      ∃ failure, Path (backend.converge desired) (historyOf index steps) (.done (.error failure)) ∧
        failure.kind = if step.before.live.isNone then .notFound else .conflict

namespace Execution

/-- The steps of convergences keep the place or change it as anyone may. -/
theorem evolves (h : Execution (convergences backend desired scope name) start steps finish) :
    Place.Evolves steps := by
  intro step hstep
  have hallowed := h.allowed step hstep
  obtain ⟨before, actor, after⟩ := step
  cases actor with
  | process index event => exact hallowed.kept_or_changes
  | outside => exact .inr hallowed

/-- A call in a step is answered as the place serves it. -/
theorem serves (h : Execution (convergences backend desired scope name) start steps finish)
    {step : SharedStep ι system Place} (hstep : step ∈ steps) {call : ApiCall}
    {reply : Except Fault ApiReply} (hof : step.IsOf index (apiEvent call reply)) :
    step.before.Serves scope name call reply step.after := by
  have hallowed := h.allowed step hstep
  rwa [SharedSystem.Allows, hof] at hallowed

/-- What a convergence saw is a path of it at one of its stages. -/
theorem stage (h : Execution (convergences backend desired scope name) start steps finish)
    (index : ι) :
    ∃ rest, Path ((backend index).converge (desired index)) (historyOf index steps) rest ∧
      Stage (desired index) (historyOf index steps) rest := by
  obtain ⟨rest, hpath⟩ := h.path index
  exact ⟨rest, hpath, Backend.converge_stage hpath⟩

/-- The write in a step is one that the convergence planned. -/
theorem plans (h : Execution (convergences backend desired scope name) start steps finish)
    {step : SharedStep ι system Place} (hstep : step ∈ steps) {call : ApiCall}
    {reply : Except Fault ApiReply} (hof : step.IsOf index (apiEvent call reply))
    (hwrite : call.writesWorkload = true) :
    ∃ reading convergence, Plans (desired index) reading call convergence := by
  obtain ⟨rest, -, hstage⟩ := h.stage index
  obtain ⟨_, _, _, convergence, -, -, hplans, -⟩ :=
    hstage.of_write hwrite (mem_historyOf.2 ⟨step, hstep, hof⟩)
  exact ⟨_, convergence, hplans⟩

/-- A create that is accepted finds nothing. -/
theorem creates (h : Execution (convergences backend desired scope name) start steps finish)
    (haddress : (desired index).scope = scope ∧ (desired index).name = name)
    {step : SharedStep ι system Place} (hstep : step ∈ steps) {body scope' : Document}
    {answer : ApiReply}
    (hof : step.IsOf index (apiEvent (.createWorkload scope' body) (.ok answer))) :
    ∃ stored, answer.toObject = .ok stored ∧ step.before.live = none ∧
      step.before.Stores body stored step.after := by
  obtain ⟨reading, convergence, hplans⟩ := h.plans hstep hof rfl
  cases hplans with
  | create _ =>
      have hserves := h.serves hstep hof
      rw [haddress.1] at hserves
      rcases hserves.of_create (haddress.2 ▸ Cluster.nameOf?_manifest (desired index)) with
        ⟨_, stored, ⟨⟩, hobject, hlive, hstores⟩ | ⟨-, _, ⟨⟩⟩
      exact ⟨stored, hobject, hlive, hstores⟩

/-- Before a replace, the convergence read a workload that the desired one differs from. -/
theorem read_before_replace
    (h : Execution (convergences backend desired scope name) start steps finish)
    {earlier later : List (SharedStep ι system Place)} {step : SharedStep ι system Place}
    (hsteps : steps = earlier ++ step :: later) {name' scope' body : Document}
    {reply : Except Fault ApiReply}
    (hof : step.IsOf index (apiEvent (.replaceWorkload name' scope' body) reply)) :
    ∃ first read between answer live,
      earlier = first ++ read :: between ∧ read.IsOf index (readEvent (desired index) answer) ∧
      readingOf (desired index) answer = .ok live ∧ name' = (desired index).name ∧
      scope' = (desired index).scope ∧ body = (successor live (desired index)).manifest := by
  rw [hsteps, List.append_cons] at h
  obtain ⟨state, hstopped⟩ := h.stop
  obtain ⟨rest, -, hstage⟩ := hstopped.stage index
  have hhistory : historyOf index (earlier ++ [step]) =
      historyOf index earlier ++ [apiEvent (.replaceWorkload name' scope' body) reply] :=
    historyOf_append_singleton hof
  rw [hhistory] at hstage
  obtain ⟨answer, before, after, _, hevents, hafter, hplans, -⟩ :=
    hstage.of_write rfl List.mem_concat_self
  rw [← List.cons_append] at hevents
  -- The write is the last event, so what was seen before it begins with the read.
  have hearlier := eq_of_append_singleton_eq hevents (hafter _ _)
  obtain ⟨first, read, between, rfl, hread⟩ := exists_of_historyOf_eq_cons hearlier
  generalize hreading : readingOf (desired index) answer = reading at hplans
  cases hplans with
  | overwrite _ => exact ⟨first, read, between, answer, _, rfl, hread, hreading, rfl, rfl, rfl⟩

/-- A read of a convergence that tells a workload found the live object, and changed nothing. -/
theorem reads (h : Execution (convergences backend desired scope name) start steps finish)
    (haddress : (desired index).scope = scope ∧ (desired index).name = name)
    {step : SharedStep ι system Place} (hstep : step ∈ steps) {answer : Except Fault ApiReply}
    (hof : step.IsOf index (readEvent (desired index) answer)) {live : Workload}
    (hread : readingOf (desired index) answer = .ok live) :
    ∃ found body, answer = .ok found ∧ found.toObject = .ok body ∧
      step.before.live = some body ∧ Workload.ofManifest body = .ok live ∧
      step.after = step.before := by
  have hserves := h.serves hstep hof
  rw [haddress.1, haddress.2] at hserves
  obtain ⟨hkept, ⟨body, found, hlive, rfl, hobject⟩ | ⟨-, reason, rfl⟩⟩ := hserves.of_read
  · rw [readingOf, Cluster.workloadOf, hobject] at hread
    exact ⟨found, body, rfl, hobject, hlive, hread, hkept⟩
  · cases hread

/-- A replace that is accepted overwrites the object that the convergence read, at the version that
it read, and nobody has written since. -/
theorem overwrites (h : Execution (convergences backend desired scope name) start steps finish)
    (hsound : start.Sound)
    (haddress : (desired index).scope = scope ∧ (desired index).name = name)
    {earlier later : List (SharedStep ι system Place)} {step : SharedStep ι system Place}
    (hsteps : steps = earlier ++ step :: later) {name' scope' body : Document} {answer : ApiReply}
    (hof : step.IsOf index (apiEvent (.replaceWorkload name' scope' body) (.ok answer))) :
    ∃ first read between found live version stored,
      earlier = first ++ read :: between ∧
      read.IsOf index (readEvent (desired index) (.ok found)) ∧
      found.toObject = .ok live ∧ version ≠ "" ∧ versionOf? live = some (.text version) ∧
      versionOf? body = some (.text version) ∧
      (∀ other ∈ read :: between, other.after = other.before) ∧
      step.before.live = some live ∧ step.before.Stores body stored step.after ∧
      answer.toObject = .ok stored := by
  obtain ⟨first, read, between, _, workload, rfl, hread, hreading, rfl, rfl, rfl⟩ :=
    h.read_before_replace hsteps hof
  have hmem : read ∈ steps ∧ step ∈ steps := by simp [hsteps]
  obtain ⟨found, live, rfl, hobject, hlive, hworkload, hkept⟩ :=
    h.reads haddress hmem.1 hread hreading
  -- The steps up to the read, those between it and the write, and the write.
  have hlinked := h.linked
  have hevolves := h.evolves
  rw [hsteps, List.append_assoc, List.cons_append] at hlinked hevolves
  obtain ⟨_, hfirst, hfrom_read⟩ := Linked.append_iff.1 hlinked
  obtain ⟨rfl, hafter_read⟩ := Linked.cons_iff.1 hfrom_read
  obtain ⟨_, hbetween, hfrom_write⟩ := Linked.append_iff.1 hafter_read
  obtain ⟨rfl, -⟩ := Linked.cons_iff.1 hfrom_write
  have hevolves_first : Place.Evolves first := fun other hother => hevolves other (by simp [hother])
  have hevolves_between : Place.Evolves between :=
    fun other hother => hevolves other (by simp [hother])
  -- The version that was read is the one that the write carries, so it is still live.
  obtain ⟨version, hissued, hnonempty, hversion⟩ := hsound.linked hfirst hevolves_first live hlive
  have hcarried : versionOf? (successor workload (desired index)).manifest =
      some (.text version) := by
    have hsame : workload.resourceVersion = .text version :=
      Cluster.resourceVersion_of_versionOf? hworkload hversion
    simp [Cluster.versionOf?_manifest, successor, hsame, Document.truthy, Scalar.truthy, hnonempty]
  have hserves := h.serves hmem.2 hof
  rw [haddress.1, haddress.2] at hserves
  rcases hserves.of_replace with
    ⟨_, current, stored, ⟨⟩, hstored, hcurrent, hmatches, hstores⟩ | ⟨-, _, ⟨⟩⟩
  rw [← hkept] at hissued
  rcases Place.kept_or_passed hissued hbetween hevolves_between with ⟨hsame, hall⟩ | hpassed
  · refine ⟨first, read, between, found, live, version, stored, rfl, hread, hobject, hnonempty,
      hversion, hcarried, List.forall_mem_cons.2 ⟨hkept, hall⟩, ?_, hstores, hstored⟩
    rw [hsame, hkept, hlive]
  · exact absurd (hmatches _ hcarried) (hpassed.2 current hcurrent)

/-- What a convergence reports on success is what it wrote, and it reports every write that was
accepted. -/
theorem reports (h : Execution (convergences backend desired scope name) start steps finish)
    (hsound : start.Sound)
    (haddress : (desired index).scope = scope ∧ (desired index).name = name)
    {step : SharedStep ι system Place} (hstep : step ∈ steps) {call : ApiCall} {answer : ApiReply}
    (hof : step.IsOf index (apiEvent call (.ok answer))) (hwrite : call.writesWorkload = true)
    {outcome : Except Fault Convergence}
    (hdone : Path ((backend index).converge (desired index)) (historyOf index steps)
      (.done outcome)) :
    ∃ reading convergence, Plans (desired index) reading call convergence ∧
      outcome = .ok convergence := by
  obtain ⟨_, _, _, convergence, -, -, hplans, -, haccepted⟩ :=
    (Backend.converge_stage hdone).of_write hwrite (mem_historyOf.2 ⟨step, hstep, hof⟩)
  refine ⟨_, convergence, hplans, ?_⟩
  rw [haccepted answer rfl outcome rfl]
  generalize readingOf (desired index) _ = reading at hplans
  -- The answer tells what was stored, which is read back.
  have hread : ∃ workload, Cluster.workloadOf answer = .ok workload := by
    cases hplans with
    | create _ =>
        obtain ⟨stored, hobject, -, hstores⟩ := h.creates haddress hstep hof
        exact (hstores.exists_workloadOf hobject).imp' _ fun _ => id
    | overwrite _ =>
        obtain ⟨earlier, later, hsteps⟩ := List.append_of_mem hstep
        obtain ⟨_, _, _, _, _, _, stored, -, -, -, -, -, -, -, -, hstores, hobject⟩ :=
          h.overwrites hsound haddress hsteps hof
        exact (hstores.exists_workloadOf hobject).imp' _ fun _ => id
  obtain ⟨workload, hworkload⟩ := hread
  rw [hworkload]
  rfl

/-- A create is reported exactly if one was accepted. -/
theorem reports_create
    (h : Execution (convergences backend desired scope name) start steps finish)
    (hsound : start.Sound)
    (haddress : (desired index).scope = scope ∧ (desired index).name = name)
    {outcome : Except Fault Convergence}
    (hdone : Path ((backend index).converge (desired index)) (historyOf index steps)
      (.done outcome)) :
    (∃ convergence, outcome = .ok convergence ∧ convergence.action = .created) ↔
      ∃ step ∈ steps, ∃ scope body answer,
        step.IsOf index (apiEvent (.createWorkload scope body) (.ok answer)) := by
  constructor
  · rintro ⟨convergence, rfl, haction⟩
    rcases (Backend.converge_stage hdone).of_done with rfl | ⟨call, answer, _, hevent, hplans⟩
    · cases haction
    obtain ⟨step, hstep, hof⟩ := mem_historyOf.1 hevent
    cases hplans with
    | create _ => exact ⟨step, hstep, _, _, answer, hof⟩
    | overwrite _ => cases haction
  · rintro ⟨step, hstep, scope', body, answer, hof⟩
    obtain ⟨_, convergence, hplans, rfl⟩ := h.reports hsound haddress hstep hof rfl hdone
    cases hplans with
    | create _ => exact ⟨_, rfl, rfl⟩

/-- An update is reported exactly if a replace was accepted. -/
theorem reports_update
    (h : Execution (convergences backend desired scope name) start steps finish)
    (hsound : start.Sound)
    (haddress : (desired index).scope = scope ∧ (desired index).name = name)
    {outcome : Except Fault Convergence}
    (hdone : Path ((backend index).converge (desired index)) (historyOf index steps)
      (.done outcome)) :
    (∃ convergence, outcome = .ok convergence ∧ convergence.action = .updated) ↔
      ∃ step ∈ steps, ∃ name scope body answer,
        step.IsOf index (apiEvent (.replaceWorkload name scope body) (.ok answer)) := by
  constructor
  · rintro ⟨convergence, rfl, haction⟩
    rcases (Backend.converge_stage hdone).of_done with rfl | ⟨call, answer, _, hevent, hplans⟩
    · cases haction
    obtain ⟨step, hstep, hof⟩ := mem_historyOf.1 hevent
    cases hplans with
    | create _ => cases haction
    | overwrite _ => exact ⟨step, hstep, _, _, _, answer, hof⟩
  · rintro ⟨step, hstep, name', scope', body, answer, hof⟩
    obtain ⟨_, convergence, hplans, rfl⟩ := h.reports hsound haddress hstep hof rfl hdone
    cases hplans with
    | overwrite _ => exact ⟨_, rfl, rfl⟩

/-- A write of a convergence that is refused changes nothing. The refusal tells whether there was
no workload or another one than was read. -/
theorem refuses (h : Execution (convergences backend desired scope name) start steps finish)
    (haddress : (desired index).scope = scope ∧ (desired index).name = name)
    {step : SharedStep ι system Place} (hstep : step ∈ steps) {call : ApiCall} {fault : Fault}
    (hof : step.IsOf index (apiEvent call (.error fault))) (hwrite : call.writesWorkload = true) :
    step.after = step.before ∧
      ∃ reason, fault =
        .refused (.integer (if step.before.live.isNone then 404 else 409)) reason := by
  obtain ⟨reading, convergence, hplans⟩ := h.plans hstep hof hwrite
  have hserves := h.serves hstep hof
  cases hplans with
  | create _ =>
      rw [haddress.1] at hserves
      rcases hserves.of_create (haddress.2 ▸ Cluster.nameOf?_manifest (desired index)) with
        ⟨_, _, ⟨⟩, -⟩ | ⟨hkept, reason, ⟨⟩⟩
      exact ⟨hkept, reason, rfl⟩
  | overwrite _ =>
      rw [haddress.1, haddress.2] at hserves
      rcases hserves.of_replace with ⟨_, _, _, ⟨⟩, -⟩ | ⟨hkept, reason, ⟨⟩⟩
      exact ⟨hkept, reason, rfl⟩

end Execution

/-- Every convergence in every execution is careful, whatever the others do: however many there are,
and in whatever order their calls and the writes and deletes of anyone else come. -/
theorem convergences_careful (backend : ι → Backend) (desired : ι → Workload)
    (scope name : Document) (start finish : Place) (steps : List (SharedStep ι system Place))
    (hsound : start.Sound)
    (haddress : ∀ index, (desired index).scope = scope ∧ (desired index).name = name)
    (hexecution : Execution (convergences backend desired scope name) start steps finish)
    (index : ι) : Careful (backend index) (desired index) index steps where
  once := by
    obtain ⟨rest, -, hstage⟩ := hexecution.stage index
    exact hstage.writes_once
  creates := by
    intro step hstep scope' body answer hof
    obtain ⟨stored, -, hlive, hstores⟩ := hexecution.creates (haddress index) hstep hof
    exact ⟨hlive, stored, hstores⟩
  overwrites := by
    intro earlier step later hsteps name' scope' body answer hof
    obtain ⟨first, read, between, found, live, version, stored, hearlier, hread, hobject, hnonempty,
      hversion, hcarried, hkept, hlive, hstores, -⟩ :=
      hexecution.overwrites hsound (haddress index) hsteps hof
    exact ⟨first, read, between, found, live, version, hearlier, hread, hobject, hnonempty,
      hversion, hcarried, hkept, hlive, stored, hstores⟩
  reports_create outcome hdone := hexecution.reports_create hsound (haddress index) hdone
  reports_update outcome hdone := hexecution.reports_update hsound (haddress index) hdone
  refused := by
    intro step hstep call fault hwrite hof
    obtain ⟨hkept, reason, rfl⟩ := hexecution.refuses (haddress index) hstep hof hwrite
    obtain ⟨rest, hpath, hstage⟩ := hexecution.stage index
    obtain ⟨_, _, _, _, -, -, -, hrefused, -⟩ :=
      hstage.of_write hwrite (mem_historyOf.2 ⟨step, hstep, hof⟩)
    obtain ⟨what, rfl⟩ := hrefused _ rfl
    refine ⟨hkept, _, hpath, ?_⟩
    cases step.before.live <;> rfl

/-- Two convergences that have read the same object: the first to write overwrites it, and the other
is refused. -/
theorem convergences_careful_race :
    ∃ (backend : Backend) (desired : Workload) (start finish : Place)
      (steps : List (SharedStep Bool system Place)),
      Execution (convergences (fun _ => backend) (fun _ => desired) desired.scope desired.name)
        start steps finish ∧
      (∃ call answer, apiEvent call (.ok answer) ∈ historyOf false steps ∧ call.writesWorkload) ∧
      (∃ call fault, apiEvent call (.error fault) ∈ historyOf true steps ∧ call.writesWorkload) ∧
      ∀ index, Careful backend desired index steps := by
  let backend : Backend :=
    ⟨fun _ => pure none, fun _ _ => pure (), fun _ _ => throw .noSuchMember, none⟩
  let desired : Workload :=
    { name := .text "mon", scope := .text "prod", spec := .object [], fingerprint := .text "f" }
  let bare : Workload := { desired with fingerprint := .null }
  let live : Document := (versioned? bare.manifest "1").getD .null
  let next : Workload := successor (bare.readBack (.text "1")) desired
  let stored : Document := (versioned? next.manifest "2").getD .null
  let start : Place := ⟨some live, ["1"]⟩
  let finish : Place := ⟨some stored, ["2", "1"]⟩
  have hsound : start.Sound := by
    rintro body ⟨⟩
    exact ⟨"1", by decide, by decide, rfl⟩
  have hserved : start.Serves desired.scope desired.name
      (.readWorkload desired.name desired.scope) (.ok (.document live)) start := .found rfl rfl
  have hstores : start.Stores next.manifest stored finish := .intro (by decide) (by decide) rfl
  have hpassed : versionOf? stored ≠ some (.text "1") := by
    have hversion : versionOf? stored = some (.text "2") := rfl
    simp [hversion]
  -- What one of them does: it reads, announces the write and issues it.
  let read : Event system := readEvent desired (.ok (.document live))
  let announced : Event system := ⟨.log (workloadEvent .info "updating_statefulset" desired
    [("live_fingerprint", .null), ("desired_fingerprint", .text "f")]), ()⟩
  let write : ApiCall := .replaceWorkload desired.name desired.scope next.manifest
  let refusal : Fault := .refused (.integer 409) .null
  have hunread := backend.converge_unread desired
  have hread : Path (backend.converge desired) [read]
      (overwriting (bare.readBack (.text "1")) desired) := backend.converge_read (.nil _)
  have hannounced : Path (backend.converge desired) [read, announced]
      (.call (.api write) _) := backend.converge_read (.cons (.nil _))
  let steps : List (SharedStep Bool system Place) :=
    [⟨start, .process false read, start⟩, ⟨start, .process true read, start⟩,
      ⟨start, .process false announced, start⟩,
      ⟨start, .process false (apiEvent write (.ok (.document stored))), finish⟩,
      ⟨finish, .process true announced, finish⟩,
      ⟨finish, .process true (apiEvent write (.error refusal)), finish⟩]
  let racing (count : Nat) (state : Place) : Prop :=
    Execution (convergences (fun _ => backend) (fun _ => desired) desired.scope desired.name)
      start (steps.take count ++ (steps.drop count).take 1) state
  have hfirst : racing 0 start := .answered .begin hunread hserved
  have hsecond : racing 1 start := .answered hfirst hunread hserved
  have hthird : racing 2 start := .answered hsecond hread rfl
  have hfourth : racing 3 finish :=
    .answered hthird hannounced (.replaced rfl (fun _ h => h) hstores rfl)
  have hfifth : racing 4 finish := .answered hfourth hread rfl
  have hsixth : racing 5 finish :=
    .answered hfifth hannounced (.outdated rfl rfl hpassed)
  refine ⟨backend, desired, start, finish, steps, hsixth, ⟨write, .document stored, ?_, rfl⟩,
    ⟨write, refusal, ?_, rfl⟩,
    convergences_careful (fun _ => backend) (fun _ => desired) desired.scope desired.name start
      finish steps hsound (fun _ => ⟨rfl, rfl⟩) hsixth⟩
  · exact .tail _ (.tail _ (.head _))
  · exact .tail _ (.tail _ (.head _))

end Convergences

end MonitorOperator
