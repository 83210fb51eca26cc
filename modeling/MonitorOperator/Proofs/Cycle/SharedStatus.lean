import MonitorOperator.Proofs.Cluster.StatusWrite
import MonitorOperator.Proofs.Cycle.Succession

/-!
# Copies of one monitor

Any number of copies of a monitor go through cycles at the same time. Each was read from the API
server at some moment, and writes its status at the version that it holds: the one that it was read
at, or the one that its last write was answered with (`tracks_resourceVersion`).
`copies_share_safely` says that no copy overwrites what it has not seen. A write that comes too late
is refused, and with it the cycle fails and all later writes of the copy.
-/

namespace MonitorOperator

open Cluster (Place statusBody versionOf? withStatus)
open Process (Path)

namespace Cycle

/-- The version of the monitor that a call told, if it is a status write that was accepted. -/
def adopted? : Event collaborators → Option Document
  | ⟨.updateStatus _, .ok version⟩ => if version.truthy then some version else none
  | _ => none

/-- Only a status write that was accepted tells a version. -/
theorem exists_of_adopted? {event : Event collaborators} (h : adopted? event ≠ none) :
    ∃ written version, event = ⟨.updateStatus written, .ok version⟩ := by
  obtain ⟨request, reply⟩ := event
  cases request with
  | updateStatus written =>
      cases reply with
      | ok version => exact ⟨written, version, rfl⟩
      | error fault => exact absurd rfl h
  | _ => exact absurd rfl h

/-- The version that a monitor holds is the one that it was told last. -/
theorem CycleRun.tracks_resourceVersion (run : CycleRun) :
    Tracks Monitor.resourceVersion adopted? run.monitor run.calls run.next := by
  refine run.closes.tracks ?_ ?_ ?_
  · intro calls hquiet event hmem
    by_contra hadopted
    obtain ⟨written, version, rfl⟩ := exists_of_adopted? hadopted
    exact hquiet.updateStatus_notMem written (.ok version) hmem
  · intro credentials version lookup record time hversion
    refine Eq.symm (latest_of_silent fun event hmem => ?_)
    by_contra hadopted
    obtain ⟨written, adopted, rfl⟩ := exists_of_adopted? hadopted
    exact hversion.updateStatus_notMem written (.ok adopted) hmem
  · intro written reply
    cases reply with
    | error fault => rfl
    | ok version =>
        show (written.adopting version).resourceVersion = _
        simp only [Monitor.adopting, adopted?]
        split <;> rfl

/-- Cycles do not change the name and the namespace of a monitor. -/
theorem CycleRun.tracks_address (run : CycleRun) :
    Tracks (fun monitor => (monitor.scope, monitor.name)) (fun _ => none) run.monitor run.calls
      run.next := by
  refine run.closes.tracks (fun _ _ _ _ => rfl) ?_ ?_
  · intro credentials version lookup record time hversion
    rw [latest_of_silent fun _ _ => rfl]
    rfl
  · intro written reply
    cases reply with
    | error fault => rfl
    | ok version =>
        show ((written.adopting version).scope, (written.adopting version).name) = _
        unfold Monitor.adopting
        split <;> rfl

/-- A cycle whose status write is refused fails with the conflict, and keeps the version that the
monitor has. -/
theorem CycleRun.of_conflict {run : CycleRun} {written : Monitor} {fault : Fault}
    (hmem : ⟨.updateStatus written, .error fault⟩ ∈ run.calls) (hkind : fault.kind = .conflict) :
    run.outcome = .error fault ∧ run.next.resourceVersion = run.monitor.resourceVersion := by
  obtain ⟨before, after, hcalls⟩ := List.append_of_mem hmem
  have hcloses := run.closes
  rw [hcalls] at hcloses
  obtain ⟨_, _, _, _, _, _, -, -, -, -, hwritten, hnext, houtcome⟩ := hcloses.of_updateStatus
  have hfault : statusFault fault = fault := by simp [statusFault, hkind]
  constructor
  · cases hresult : run.outcome with
    | ok result =>
        rw [hresult] at houtcome
        cases houtcome
    | error other =>
        rw [hresult] at houtcome
        exact congrArg Except.error ((Except.error.inj houtcome).trans hfault)
  · rw [hnext, hwritten]
    rfl

/-- How requests of a cycle are answered: a status write by the API server, and all others without
an effect on the place of the monitor. -/
def AnswersCycle (scope name : Document) (place : Place) :
    (request : CycleRequest) → request.Reply → Place → Prop
  | .updateStatus monitor, reply, after =>
      ∃ events, Path (Cluster.updateStatus monitor).outcome events (.done reply) ∧
        Answered (Place.AnswersStatus scope name) place events after
  | .provisionCredentials _, _, after => after = place
  | .provisionProperties _ _, _, after => after = place
  | .clusterId, _, after => after = place
  | .getWorkload _ _, _, after => after = place
  | .createWorkload _, _, after => after = place
  | .updateWorkload _, _, after => after = place
  | .resolveVersion _ _, _, after => after = place
  | .register _, _, after => after = place
  | .log _, _, after => after = place
  | .count _, _, after => after = place
  | .now, _, after => after = place

end Cycle

open MonitorOperator.Cycle

section Copies

variable {ι : Type}

/-- Copies of a monitor that go through cycles, and whose status is at the place of one namespace and
name, which anyone else may write and delete. -/
def copies (settings : ι → List Settings) (monitor : ι → Monitor) (scope name : Document) :
    SharedSystem ι collaborators Place Monitor where
  program index := cycles (settings index) (monitor index)
  answers := AnswersCycle scope name
  disturbs := Place.Changes

/-- In the step a status write of the copy is accepted. -/
def Saves (index : ι) (step : SharedStep ι collaborators Place) : Prop :=
  ∃ written version, step.IsOf index ⟨.updateStatus written, .ok version⟩

/-- A step in which a write of a copy fails is not one in which it is accepted. -/
theorem not_saves_of_error {index : ι} {step : SharedStep ι collaborators Place}
    {written : Monitor} {fault : Fault} (h : step.IsOf index ⟨.updateStatus written, .error fault⟩) :
    ¬ Saves index step := by
  intro hsaves
  obtain ⟨other, version, hother⟩ := hsaves
  rw [SharedStep.IsOf, h] at hother
  cases hother

variable [DecidableEq ι]

/-- The copy was read after the first steps, in which it does nothing yet, at the version that the
live object had then. -/
structure ReadAfter (monitor : Monitor) (index : ι) (start : Place)
    (first : List (SharedStep ι collaborators Place)) : Prop where
  silent : historyOf index first = []
  current : ∃ place body, Linked start first place ∧ place.live = some body ∧
    versionOf? body = some monitor.resourceVersion

/-- What the steps after a copy was read tell about its status writes. -/
structure SharesSafely (settings : List Settings) (monitor : Monitor) (index : ι)
    (first rest : List (SharedStep ι collaborators Place)) : Prop where
  /-- The copy is on its way through its cycles. -/
  completes : ∃ runs last, Succession monitor runs last ∧ runs.map (·.settings) = settings ∧
    (historyOf index rest).filter (·.request.isCall) <+: callsOf runs
  /-- A write that is accepted replaces the status of the live object, and nobody has written since
  the copy was read, or since its own last write that was accepted. -/
  accepted : ∀ earlier step later, rest = earlier ++ step :: later → ∀ written version,
    step.IsOf index ⟨.updateStatus written, .ok version⟩ →
    (∃ since between, first ++ earlier = since ++ between ∧
      (since = first ∨ ∃ before last, since = before ++ [last] ∧ Saves index last) ∧
      ∀ other ∈ between, other.after = other.before) ∧
    ∃ live body stored, step.before.live = some live ∧ statusBody written = .ok body ∧
      step.before.Stores (withStatus live body) stored step.after
  /-- A write at another version than that of the live object is refused, if it can be written
  down. -/
  outdated : ∀ step ∈ rest, ∀ written reply, step.IsOf index ⟨.updateStatus written, reply⟩ →
    ∀ live body, step.before.live = some live → statusBody written = .ok body →
    versionOf? live ≠ some written.resourceVersion →
    ∃ fault, reply = .error fault ∧ fault.kind = .conflict
  /-- A write that is refused changes nothing, and every later write of the copy fails without an
  effect: it is refused too, if it can be written down and there is an object. -/
  refused : ∀ earlier step later, rest = earlier ++ step :: later → ∀ written fault,
    step.IsOf index ⟨.updateStatus written, .error fault⟩ → fault.kind = .conflict →
    step.after = step.before ∧ ∀ other ∈ later, ∀ written reply,
      other.IsOf index ⟨.updateStatus written, reply⟩ →
      other.after = other.before ∧ ∃ fault, reply = .error fault ∧
        (other.before.live ≠ none → (∃ body, statusBody written = .ok body) →
          fault.kind = .conflict)
  /-- However its cycles go on, the one whose write is refused fails with this conflict, and leaves
  the copy at the version that it had. -/
  raised : ∀ step ∈ rest, ∀ written fault,
    step.IsOf index ⟨.updateStatus written, .error fault⟩ → fault.kind = .conflict →
    ∀ runs last, Succession monitor runs last →
      (historyOf index rest).filter (·.request.isCall) <+: callsOf runs →
      (∃ run ∈ runs, ⟨.updateStatus written, .error fault⟩ ∈ run.calls) ∧
        ∀ run ∈ runs, ⟨.updateStatus written, .error fault⟩ ∈ run.calls →
          run.outcome = .error fault ∧ run.next.resourceVersion = run.monitor.resourceVersion
  /-- If nobody else writes after the copy was read, no write of it is refused. -/
  alone : (∀ step ∈ rest, (∀ event, ¬ step.IsOf index event) → step.after = step.before) →
    ∀ step ∈ rest, ∀ written fault, step.IsOf index ⟨.updateStatus written, .error fault⟩ →
      fault.kind ≠ .conflict

/-- What a copy holds after some steps, and since when: this version was current when it was read,
or when its last write was accepted. -/
structure Holds (monitor : Monitor) (index : ι) (start : Place)
    (first since between : List (SharedStep ι collaborators Place)) (version : String) : Prop where
  begins : first <+: since
  origin : since = first ∨ ∃ before last, since = before ++ [last] ∧ Saves index last
  current : ∃ place, Linked start since place ∧ place.Current version
  quiet : ∀ step ∈ between, ¬ Saves index step
  holds : latest adopted? monitor.resourceVersion (historyOf index (since ++ between)) =
    .text version

variable {settings : ι → List Settings} {monitor : ι → Monitor} {scope name : Document}
  {start finish : Place} {steps first rest earlier later : List (SharedStep ι collaborators Place)}
  {step : SharedStep ι collaborators Place} {index : ι}

/-- Steps in which no write of a copy is accepted tell it no version. -/
theorem latest_of_not_saves {known : Document} (h : ∀ step ∈ steps, ¬ Saves index step) :
    latest adopted? known (historyOf index steps) = known := by
  refine latest_of_silent fun event hmem => ?_
  obtain ⟨step, hstep, hof⟩ := mem_historyOf.1 hmem
  by_contra hadopted
  obtain ⟨written, version, rfl⟩ := exists_of_adopted? hadopted
  exact h step hstep ⟨written, version, hof⟩

/-- Every request of a cycle can get a reply. -/
theorem nonempty_reply : ∀ request : CycleRequest, Nonempty request.Reply := by
  intro request
  cases request with
  | log _ | count _ => exact ⟨()⟩
  | now => exact ⟨default⟩
  | _ => exact ⟨.error (.lower .brokenAssumption)⟩

namespace Execution

/-- A copy is on its way through its cycles. -/
theorem completes (h : Execution (copies settings monitor scope name) start steps finish)
    (index : ι) :
    ∃ runs last, Succession (monitor index) runs last ∧ runs.map (·.settings) = settings index ∧
      (historyOf index steps).filter (·.request.isCall) <+: callsOf runs := by
  obtain ⟨process, hpath⟩ := h.path index
  obtain ⟨events, last, hlast⟩ := Path.exists_done nonempty_reply process
  obtain ⟨runs, hruns, hsettings, hcalls⟩ := cycles_path (hpath.append hlast)
  refine ⟨runs, last, hruns, hsettings, ?_⟩
  rw [hcalls, List.filter_append]
  exact List.prefix_append _ _

/-- A copy writes its status under its name and namespace, and at the version that it was told
last. -/
theorem written (h : Execution (copies settings monitor scope name) start steps finish)
    (hsteps : steps = earlier ++ step :: later) {written : Monitor}
    {reply : Except Fault Document} (hof : step.IsOf index ⟨.updateStatus written, reply⟩) :
    (written.scope, written.name) = ((monitor index).scope, (monitor index).name) ∧
      written.resourceVersion =
        latest adopted? (monitor index).resourceVersion (historyOf index earlier) := by
  rw [hsteps, List.append_cons] at h
  obtain ⟨state, hstopped⟩ := h.stop
  obtain ⟨runs, last, hruns, -, others, hothers⟩ := hstopped.completes index
  have hcalls : callsOf runs = (historyOf index earlier).filter (·.request.isCall) ++
      ⟨.updateStatus written, reply⟩ :: others := by
    rw [← hothers, historyOf_append_singleton hof, List.filter_append]
    simp [CycleRequest.isCall, CycleRequest.call?]
  have haddress := (hruns.tracks fun run _ => run.tracks_address).written _ _ _ _ hcalls
  have hversion := (hruns.tracks fun run _ => run.tracks_resourceVersion).written _ _ _ _ hcalls
  refine ⟨haddress.trans (latest_of_silent fun _ _ => rfl), hversion.trans (latest_filter ?_)⟩
  intro event hlooks
  by_contra hadopted
  obtain ⟨_, _, rfl⟩ := exists_of_adopted? hadopted
  cases hlooks

/-- A status write of a copy is answered in one of the ways that such a write can go. -/
theorem writesStatus (h : Execution (copies settings monitor scope name) start steps finish)
    (haddress : (monitor index).scope = scope ∧ (monitor index).name = name)
    (hstep : step ∈ steps) {written : Monitor} {reply : Except Fault Document}
    (hof : step.IsOf index ⟨.updateStatus written, reply⟩) :
    step.before.WritesStatus written reply step.after := by
  have hallowed := h.allowed step hstep
  rw [SharedSystem.Allows, hof] at hallowed
  obtain ⟨events, hpath, hanswered⟩ := hallowed
  obtain ⟨earlier, later, hsteps⟩ := List.append_of_mem hstep
  obtain ⟨hscope, hname⟩ := Prod.mk.inj (h.written hsteps hof).1
  exact Place.writesStatus_of_answered ⟨hscope.trans haddress.1, hname.trans haddress.2⟩ hpath
    hanswered

/-- A step of a copy in which no write of it is accepted changes nothing. -/
theorem kept_of_not_saves (h : Execution (copies settings monitor scope name) start steps finish)
    (haddress : (monitor index).scope = scope ∧ (monitor index).name = name)
    (hstep : step ∈ steps) {event : Event collaborators} (hof : step.IsOf index event)
    (hsaves : ¬ Saves index step) : step.after = step.before := by
  obtain ⟨request, reply⟩ := event
  cases request with
  | updateStatus written =>
      cases reply with
      | ok version => exact absurd ⟨written, version, hof⟩ hsaves
      | error fault => exact (h.writesStatus haddress hstep hof).of_error
  | _ =>
      have hallowed := h.allowed step hstep
      rw [SharedSystem.Allows, hof] at hallowed
      exact hallowed

/-- The steps of copies keep the place or change it as anyone may. -/
theorem statusEvolves (h : Execution (copies settings monitor scope name) start steps finish) :
    Place.Evolves steps := by
  intro step hstep
  have hallowed := h.allowed step hstep
  obtain ⟨before, actor, after⟩ := step
  cases actor with
  | outside => exact .inr hallowed
  | process index event =>
      obtain ⟨request, reply⟩ := event
      cases request with
      | updateStatus written =>
          obtain ⟨events, hpath, hanswered⟩ := hallowed
          exact Place.kept_or_changes_of_answered hpath hanswered
      | _ => exact .inl hallowed

/-- A write of a copy that is accepted tells it the version that is current then. -/
theorem current_of_saves (h : Execution (copies settings monitor scope name) start steps finish)
    (haddress : (monitor index).scope = scope ∧ (monitor index).name = name)
    (hstep : step ∈ steps) (hsaves : Saves index step) :
    ∃ written issued, step.IsOf index ⟨.updateStatus written, .ok (.text issued)⟩ ∧
      step.after.Current issued := by
  obtain ⟨written, version, hof⟩ := hsaves
  cases h.writesStatus haddress hstep hof with
  | stored _ _ _ hstores hversion =>
      obtain ⟨issued, rfl, hcurrent⟩ := hstores.current hversion
      exact ⟨written, issued, hof, hcurrent⟩

/-- At any time after it was read, a copy holds a version. -/
theorem holds (h : Execution (copies settings monitor scope name) start (first ++ rest) finish)
    (hsound : start.Sound)
    (haddress : (monitor index).scope = scope ∧ (monitor index).name = name)
    (hread : ReadAfter (monitor index) index start first) (hrest : rest = earlier ++ later) :
    ∃ version since between, first ++ earlier = since ++ between ∧
      Holds (monitor index) index start first since between version := by
  -- By induction on the steps so far: a write that is accepted begins a new stretch.
  induction earlier using List.reverseRecOn generalizing later with
  | nil =>
      obtain ⟨place, body, hlinked, hlive, hversion⟩ := hread.current
      have hevolves : Place.Evolves first :=
        fun step hstep => h.statusEvolves step (List.mem_append_left _ hstep)
      obtain ⟨issued, hissued, hcurrent⟩ :=
        (hsound.linked hlinked hevolves).current hlive hversion
      refine ⟨issued, first, [], rfl, List.prefix_refl _, .inl rfl, ⟨place, hlinked, hcurrent⟩,
        by simp, ?_⟩
      rw [List.append_nil, hread.silent]
      exact hissued
  | append_singleton earlier step ih =>
      have hmem : step ∈ first ++ rest := by simp [hrest]
      obtain ⟨version, since, between, hsplit, hholds⟩ := ih (by simpa using hrest)
      by_cases hsaves : Saves index step
      · obtain ⟨written, issued, hof, hcurrent⟩ := h.current_of_saves haddress hmem hsaves
        have hlinked : Linked start ((first ++ earlier) ++ step :: later) finish := by
          simpa [hrest] using h.linked
        obtain ⟨hbefore, -⟩ := hlinked.around
        have htruthy : (Document.text issued).truthy = true := by
          simpa [Document.truthy, Scalar.truthy] using hcurrent.2.1
        refine ⟨issued, first ++ earlier ++ [step], [], by simp, by simp,
          .inr ⟨first ++ earlier, step, rfl, hsaves⟩,
          ⟨step.after, Linked.append_iff.2 ⟨step.before, hbefore, Linked.cons_iff.2 ⟨rfl, .nil _⟩⟩,
            hcurrent⟩, by simp, ?_⟩
        rw [List.append_nil, historyOf_append_singleton hof, latest_append, latest_cons]
        simp [adopted?, htruthy]
      · refine ⟨version, since, between ++ [step], by simp [← List.append_assoc, hsplit],
          hholds.begins, hholds.origin, hholds.current, ?_, ?_⟩
        · exact List.forall_mem_append.2 ⟨hholds.quiet, by simpa using hsaves⟩
        · rw [← List.append_assoc, historyOf_append, latest_append, hholds.holds]
          exact latest_of_not_saves (by simpa using hsaves)

/-- A copy writes its status at the version that it holds. This one is still current if nobody has
written since the copy was told it, and has passed otherwise. -/
theorem of_write (h : Execution (copies settings monitor scope name) start (first ++ rest) finish)
    (hsound : start.Sound)
    (haddress : (monitor index).scope = scope ∧ (monitor index).name = name)
    (hread : ReadAfter (monitor index) index start first) (hrest : rest = earlier ++ step :: later)
    {written : Monitor} {reply : Except Fault Document}
    (hof : step.IsOf index ⟨.updateStatus written, reply⟩) :
    ∃ version since between, first ++ earlier = since ++ between ∧
      Holds (monitor index) index start first since between version ∧ version ≠ "" ∧
      written.resourceVersion = .text version ∧
      ((∀ other ∈ between, other.after = other.before) → step.before.Current version) ∧
      ((∀ other ∈ between, other.after = other.before) ∨ step.before.Passed version) := by
  obtain ⟨version, since, between, hsplit, hholds⟩ := h.holds hsound haddress hread hrest
  have hsteps : first ++ rest = (since ++ between) ++ step :: later := by
    rw [hrest, ← List.append_assoc, hsplit]
  have hversion := (h.written hsteps hof).2
  rw [hholds.holds] at hversion
  obtain ⟨place, hsince, hcurrent⟩ := hholds.current
  -- The stretch from where the version was current to the write.
  have hlinked := h.linked
  rw [hsteps] at hlinked
  obtain ⟨hbefore, -⟩ := hlinked.around
  obtain ⟨middle, hmiddle, hbetween⟩ := Linked.append_iff.1 hbefore
  obtain rfl := hsince.unique hmiddle
  have hevolves : Place.Evolves between := by
    intro other hother
    exact h.statusEvolves other (by simp [hsteps, hother])
  refine ⟨version, since, between, hsplit, hholds, hcurrent.2.1, hversion, ?_, ?_⟩
  · intro hkept
    refine (@Linked.invariant _ _ _ (Place.Current · version) _ _ _ hbetween hcurrent ?_).2
    intro other hother hbefore
    rwa [hkept other hother]
  · exact (Place.kept_or_passed hcurrent.1 hbetween hevolves).imp_left And.right

/-- Once the version that a copy holds has passed, all its writes fail without an effect. -/
theorem refused_of_passed {version : String} {place : Place}
    (h : Execution (copies settings monitor scope name) start (earlier ++ later) finish)
    (haddress : (monitor index).scope = scope ∧ (monitor index).name = name)
    (hholds : latest adopted? (monitor index).resourceVersion (historyOf index earlier) =
      .text version) (hnonempty : version ≠ "") (hlinked : Linked place later finish)
    (hpassed : place.Passed version) :
    ∀ step ∈ later, ∀ written reply, step.IsOf index ⟨.updateStatus written, reply⟩ →
      step.after = step.before ∧ ∃ fault, reply = .error fault ∧
        (step.before.live ≠ none → (∃ body, statusBody written = .ok body) →
          fault.kind = .conflict) := by
  induction later generalizing earlier place with
  | nil => simp
  | cons next later ih =>
      obtain ⟨rfl, hrest⟩ := Linked.cons_iff.1 hlinked
      have hmem : next ∈ earlier ++ next :: later := by simp
      have hnext : ∀ written reply, next.IsOf index ⟨.updateStatus written, reply⟩ →
          next.after = next.before ∧ ∃ fault, reply = .error fault ∧
            (next.before.live ≠ none → (∃ body, statusBody written = .ok body) →
              fault.kind = .conflict) := by
        intro written reply hof
        have hcarried := (h.written rfl hof).2.trans hholds
        exact (h.writesStatus haddress hmem hof).of_outdated hcarried hnonempty hpassed.2
      -- So no write is accepted in this step, and the copy still holds the version.
      have hsaves : ¬ Saves index next := by
        intro hsaves
        obtain ⟨written, version, hof⟩ := hsaves
        obtain ⟨-, fault, hfault, -⟩ := hnext written _ hof
        cases hfault
      have hkept : next.after.Passed version := by
        rcases h.statusEvolves next hmem with hsame | hchange
        · rwa [hsame]
        · exact hchange.passed hpassed.1
      have hstill : latest adopted? (monitor index).resourceVersion
          (historyOf index (earlier ++ [next])) = .text version := by
        rw [historyOf_append, latest_append, hholds]
        exact latest_of_not_saves (by simpa using hsaves)
      rw [List.append_cons] at h
      exact List.forall_mem_cons.2 ⟨hnext, ih h hstill hrest hkept⟩

end Execution

/-- However many copies of a monitor go through cycles, and whatever others write, the status writes
of a copy are safe. -/
theorem copies_share_safely (settings : ι → List Settings) (monitor : ι → Monitor)
    (scope name : Document) (start finish : Place) (index : ι)
    (first rest : List (SharedStep ι collaborators Place)) (hsound : start.Sound)
    (haddress : (monitor index).scope = scope ∧ (monitor index).name = name)
    (hread : ReadAfter (monitor index) index start first)
    (hexecution : Execution (copies settings monitor scope name) start (first ++ rest) finish) :
    SharesSafely (settings index) (monitor index) index first rest where
  completes := by
    have hcompletes := hexecution.completes index
    rwa [historyOf_append, hread.silent, List.nil_append] at hcompletes
  accepted := by
    intro earlier step later hrest written version hof
    obtain ⟨held, since, between, hsplit, hholds, hnonempty, hcarried, -, hkept⟩ :=
      hexecution.of_write hsound haddress hread hrest hof
    have hwrites := hexecution.writesStatus haddress (by simp [hrest]) hof
    refine ⟨⟨since, between, hsplit, hholds.origin, ?_⟩, ?_⟩
    · rcases hkept with hkept | hpassed
      · exact hkept
      · obtain ⟨-, fault, hfault, -⟩ := hwrites.of_outdated hcarried hnonempty hpassed.2
        cases hfault
    · cases hwrites with
      | stored hbody hlive _ hstores _ => exact ⟨_, _, _, hlive, hbody, hstores⟩
  outdated := by
    intro step hstep written reply hof live body hlive hbody hdiffers
    obtain ⟨earlier, later, hrest⟩ := List.append_of_mem hstep
    obtain ⟨version, -, -, -, -, hnonempty, hcarried, -, -⟩ :=
      hexecution.of_write hsound haddress hread hrest hof
    have hwrites := hexecution.writesStatus haddress (by simp [hrest]) hof
    have hother : ∀ other, step.before.live = some other →
        versionOf? other ≠ some (.text version) := by
      intro other hsame
      obtain rfl := Option.some.inj (hlive.symm.trans hsame)
      rwa [← hcarried]
    obtain ⟨-, fault, hfault, hkind⟩ := hwrites.of_outdated hcarried hnonempty hother
    exact ⟨fault, hfault, hkind (by simp [hlive]) ⟨body, hbody⟩⟩
  refused := by
    intro earlier step later hrest written fault hof hkind
    obtain ⟨version, since, between, hsplit, hholds, hnonempty, hcarried, hcurrent, hkept⟩ :=
      hexecution.of_write hsound haddress hread hrest hof
    have hwrites := hexecution.writesStatus haddress (by simp [hrest]) hof
    have hpassed : step.before.Passed version := by
      rcases hkept with hkept | hpassed
      · exact absurd hkind (hwrites.of_current hcarried (hcurrent hkept))
      · exact hpassed
    have hsame := hwrites.of_error
    have hsteps : first ++ rest = (first ++ earlier ++ [step]) ++ later := by simp [hrest]
    have hheld : latest adopted? (monitor index).resourceVersion
        (historyOf index (first ++ earlier ++ [step])) = .text version := by
      rw [historyOf_append, latest_append, hsplit, hholds.holds]
      exact latest_of_not_saves (by simpa using not_saves_of_error hof)
    have hlinked := hexecution.linked
    rw [hrest, ← List.append_assoc] at hlinked
    rw [hsteps] at hexecution
    exact ⟨hsame, hexecution.refused_of_passed haddress hheld hnonempty hlinked.around.2
      (hsame ▸ hpassed)⟩
  raised := by
    intro step hstep written fault hof hkind runs last hruns hprefix
    have hmem : ⟨.updateStatus written, .error fault⟩ ∈ callsOf runs :=
      hprefix.subset (List.mem_filter.2 ⟨mem_historyOf.2 ⟨step, hstep, hof⟩, rfl⟩)
    refine ⟨List.mem_flatMap.1 hmem, fun run hrun hcall => ?_⟩
    exact CycleRun.of_conflict hcall hkind
  alone := by
    intro hothers step hstep written fault hof
    obtain ⟨earlier, later, hrest⟩ := List.append_of_mem hstep
    obtain ⟨version, since, between, hsplit, hholds, -, hcarried, hcurrent, -⟩ :=
      hexecution.of_write hsound haddress hread hrest hof
    refine (hexecution.writesStatus haddress (by simp [hrest]) hof).of_current hcarried
      (hcurrent fun other hother => ?_)
    -- Since the copy was told its version there are only its own steps and such without an effect.
    obtain ⟨gap, rfl⟩ := hholds.begins
    obtain rfl : earlier = gap ++ between := by simpa using hsplit
    have hmem : other ∈ rest := by simp [hrest, hother]
    by_cases hown : ∃ event, other.IsOf index event
    · obtain ⟨event, hother_of⟩ := hown
      exact hexecution.kept_of_not_saves haddress (List.mem_append_right _ hmem) hother_of
        (hholds.quiet other hother)
    · exact hothers other hmem (not_exists.1 hown)

/-- Requests that are not status writes have no effect, whatever the replies are. -/
theorem answered_of_not_status {events : List (Event collaborators)}
    (h : ∀ event ∈ events, event.request.call? ≠ some .status) (place : Place) :
    Answered (AnswersCycle scope name) place events place := by
  induction events with
  | nil => exact .nil place
  | cons event events ih =>
      obtain ⟨hevent, hevents⟩ := List.forall_mem_cons.1 h
      refine .cons ?_ (ih hevents)
      obtain ⟨request, reply⟩ := event
      cases request with
      | updateStatus => exact absurd rfl hevent
      | _ => rfl

/-- A status write whose call is served gets what the answer tells. -/
theorem answersCycle_of_serves {place after : Place} {written : Monitor} {body : Document}
    {answer : Except Fault Cluster.ApiReply} {reply : Except Fault Document}
    (hbody : statusBody written = .ok body)
    (hserves : place.ServesStatus scope name
      (.replaceStatus written.name written.scope body) answer after)
    (hreply : Cluster.statusReply written answer = reply) :
    AnswersCycle scope name place (.updateStatus written) reply after := by
  subst hreply
  exact ⟨_, Cluster.path_updateStatus hbody answer, .cons hserves (.nil after)⟩

/-- A copy of the plain monitor comes to write its status, and gets any reply. -/
theorem exists_path_write {monitor : Monitor} (h : Monitor.plain.Follows monitor)
    (reply : Except Fault Document) :
    ∃ front rest, (∀ event ∈ front, event.request.call? ≠ some .status) ∧
      Path (cycles [{ disableVersionUpdates := true }] monitor)
        (front ++ [⟨.updateStatus (monitor.stamped none default), reply⟩]) rest := by
  obtain ⟨desired, live, hconverged⟩ := exists_path_of_plain h
  let settings : Settings := { disableVersionUpdates := true }
  have hconcluding : Path ((concluding settings monitor (.ok (none, .unchanged))).bind counting)
      [⟨.count (.lookups .disabled), ()⟩, ⟨.now, default⟩,
        ⟨.updateStatus (monitor.stamped none default), reply⟩] _ :=
    .cons (.cons (.cons (.nil _)))
  have hcycle : Path (reconcile settings monitor) _ _ :=
    reconcile_eq settings monitor ▸ hconverged.bind_append hconcluding
  refine ⟨[⟨.provisionCredentials monitor, .ok none⟩, ⟨.clusterId, .ok "c"⟩,
    ⟨.getWorkload desired.name desired.scope, .ok live⟩,
    ⟨.log (workloadEvent .debug "statefulset_current" desired []), ()⟩,
    ⟨.count (.lookups .disabled), ()⟩, ⟨.now, default⟩], _, by simp [CycleRequest.call?],
    hcycle.bind_left _⟩

/-- Two copies that were read at the same version: the first to write stores its status, and the other
is refused. -/
theorem copies_share_safely_race :
    ∃ (settings : List Settings) (monitor : Monitor) (start finish : Place)
      (steps : List (SharedStep Bool collaborators Place)),
      Execution (copies (fun _ => settings) (fun _ => monitor) monitor.scope monitor.name) start
        steps finish ∧
      (∃ step ∈ steps, Saves false step) ∧
      (∃ written fault, ⟨.updateStatus written, .error fault⟩ ∈ historyOf true steps ∧
        fault.kind = .conflict) ∧
      ∀ index, SharesSafely settings monitor index [] steps := by
  let monitor : Monitor := { Monitor.plain with resourceVersion := .text "1" }
  let written : Monitor := monitor.stamped none default
  let settings : List Settings := [{ disableVersionUpdates := true }]
  obtain ⟨given, hbody⟩ : ∃ given, statusBody written = .ok (.object given) := ⟨_, rfl⟩
  let metadata (version : String) : Document :=
    .ofFields [("name", .text "mon"), ("resourceVersion", .text version)]
  let status : Document := (Fields.get? given (.text "status")).getD .null
  let live : Document := .ofFields [("metadata", metadata "1")]
  let stored : Document := .ofFields [("metadata", metadata "2"), ("status", status)]
  let start : Place := ⟨some live, ["1"]⟩
  let finish : Place := ⟨some stored, ["2", "1"]⟩
  let refusal : Fault := .refused (.integer 409) .null
  have hsound : start.Sound := by
    rintro body ⟨⟩
    exact ⟨"1", by decide, by decide, rfl⟩
  have hstores : start.Stores (withStatus live (.object given)) stored finish :=
    .intro (by decide) (by decide) rfl
  have hcarried : versionOf? (.object given) = some (.text "1") := by
    rw [Cluster.versionOf?_statusBody hbody]
    rfl
  have hpassed : versionOf? stored ≠ some (.text "1") := by
    have hversion : versionOf? stored = some (.text "2") := rfl
    simp [hversion]
  -- The first copy to write is told the new version, and the other one that it is too late.
  have hsaved : AnswersCycle monitor.scope monitor.name start (.updateStatus written)
      (.ok (.text "2")) finish :=
    answersCycle_of_serves hbody
      (.replaced rfl (fun _ h => hcarried.symm.trans h) hstores rfl
        (rfl : (Cluster.ApiReply.document stored).newVersion = _)) rfl
  obtain ⟨conflict, hconflict, hkind⟩ : ∃ fault,
      Cluster.statusReply written (.error refusal) = .error fault ∧ fault.kind = .conflict :=
    ⟨_, rfl, rfl⟩
  have hrefused : AnswersCycle monitor.scope monitor.name finish (.updateStatus written)
      (.error conflict) finish :=
    answersCycle_of_serves hbody (.outdated rfl hcarried hpassed) hconflict
  have hfollows : Monitor.plain.Follows monitor := ⟨_, _, rfl⟩
  obtain ⟨front, _, hfront, hwrite⟩ := exists_path_write hfollows (.ok (.text "2"))
  obtain ⟨front', _, hfront', hwrite'⟩ := exists_path_write hfollows (.error conflict)
  let system := copies (fun _ : Bool => settings) (fun _ => monitor) monitor.scope monitor.name
  have hbegin : Execution system start [] start := .begin
  obtain ⟨first, hfirst, hhistory⟩ := hbegin.run (.nil (system.program false)) hwrite
    ((answered_of_not_status hfront start).append (.cons hsaved (.nil finish)))
  obtain ⟨second, hsecond, hhistory'⟩ := hfirst.run
    (by simpa [hhistory] using .nil (system.program true)) hwrite'
    ((answered_of_not_status hfront' finish).append (.cons hrefused (.nil finish)))
  refine ⟨settings, monitor, start, finish, first ++ second, hsecond, ?_, ?_, fun index => ?_⟩
  · have hmem : ⟨.updateStatus written, .ok (.text "2")⟩ ∈ historyOf false first := by
      rw [hhistory false, if_pos rfl]
      exact List.mem_append_right _ List.mem_cons_self
    obtain ⟨step, hstep, hof⟩ := mem_historyOf.1 hmem
    exact ⟨step, List.mem_append_left _ hstep, written, .text "2", hof⟩
  · refine ⟨written, conflict, ?_, hkind⟩
    rw [historyOf_append, hhistory' true, if_pos rfl]
    exact List.mem_append_right _ (List.mem_append_right _ List.mem_cons_self)
  · exact copies_share_safely (fun _ => settings) (fun _ => monitor) monitor.scope monitor.name start
      finish index [] (first ++ second) hsound ⟨rfl, rfl⟩
      ⟨rfl, start, live, .nil start, rfl, rfl⟩ hsecond

end Copies

end MonitorOperator
