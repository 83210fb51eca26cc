import MonitorOperator.Proofs.Cycle.Succession

/-!
# The recorded version

A lookup that fails, or is not made, leaves the version in the status as it is. The version that is
left is the one that the monitor holds, which is the one that was looked up last
(`tracks_recordedVersion`), and not always the one that is stored: if the write after a lookup
fails, the version stays unsaved until a later write stores it. `recorded_versions` says what every
write stores, and that it stores what was stored before as long as nothing is unsaved.
-/

namespace MonitorOperator

/-- The version and the hash in the status of a monitor. -/
def Monitor.recordedVersion (monitor : Monitor) : VersionRecord :=
  ⟨monitor.status.imageVersion, monitor.status.imageHash⟩

namespace Cycle

open Process (Path)

/-- The version that a call looked up, if it looked one up. -/
def resolved? : Event collaborators → Option VersionRecord
  | ⟨.resolveVersion _ _, reply⟩ => reply.toOption
  | _ => none

/-- The version that a call stored, if it is a status write that was accepted. -/
def stored? : Event collaborators → Option VersionRecord
  | ⟨.updateStatus written, .ok _⟩ => some written.recordedVersion
  | _ => none

/-- A version was looked up among the calls. -/
def Resolves (calls : List (Event collaborators)) : Prop :=
  ∃ event ∈ calls, resolved? event ≠ none

/-- The version that was looked up last has not been stored since. -/
def Unsaved (calls : List (Event collaborators)) : Prop :=
  ∃ before event after, calls = before ++ event :: after ∧ resolved? event ≠ none ∧
    ∀ other ∈ after, stored? other = none

/-- What the cycles of a monitor, whose status is stored at first, write and store of the version.
-/
structure RecordsVersions (initial : VersionRecord) (runs : List CycleRun) : Prop where
  /-- A cycle that comes to its end tells whether it looked the version up. -/
  told : ∀ run ∈ runs, ∀ result, run.outcome = .ok result →
    (result.lookup = .resolved ↔ Resolves run.calls)
  /-- A status write carries the version that was looked up last, by this cycle or an earlier one.
  -/
  written : ∀ earlier run later, runs = earlier ++ run :: later → ∀ written reply,
    ⟨.updateStatus written, reply⟩ ∈ run.calls →
    written.recordedVersion = latest resolved? initial (callsOf (earlier ++ [run]))
  /-- As long as nothing is unsaved, a cycle that looks nothing up stores what was stored. -/
  kept : ∀ earlier run later, runs = earlier ++ run :: later → ¬ Unsaved (callsOf earlier) →
    ¬ Resolves run.calls → ∀ written adopted, ⟨.updateStatus written, .ok adopted⟩ ∈ run.calls →
    written.recordedVersion = latest stored? initial (callsOf earlier)
  /-- What is stored changes only in a cycle that looks the version up, or while something is
  unsaved. -/
  changed : ∀ earlier run later, runs = earlier ++ run :: later →
    latest stored? initial (callsOf (earlier ++ [run])) ≠
      latest stored? initial (callsOf earlier) →
    Resolves run.calls ∨ Unsaved (callsOf earlier)

section Tells

variable {calls : List (Event collaborators)}

/-- Quiet calls look no version up. -/
theorem Quiet.resolved?_eq_none (h : Quiet calls) : ∀ event ∈ calls, resolved? event = none := by
  rintro ⟨request, reply⟩ hmem
  cases request with
  | resolveVersion => exact absurd rfl (h _ hmem).1
  | _ => rfl

/-- What is stored was written by an accepted status write. -/
theorem stored?_eq_some {event : Event collaborators} {version : VersionRecord}
    (h : stored? event = some version) :
    ∃ written adopted, event = ⟨.updateStatus written, .ok adopted⟩ ∧
      version = written.recordedVersion := by
  obtain ⟨request, reply⟩ := event
  cases request with
  | updateStatus written =>
      cases reply with
      | ok adopted => exact ⟨written, adopted, rfl, (Option.some.inj h).symm⟩
      | error fault => cases h
  | _ => cases h

/-- A lookup that stores nothing remains unsaved while nothing else is stored. -/
theorem Unsaved.append_singleton {event : Event collaborators} (h : Unsaved calls)
    (hevent : stored? event = none) : Unsaved (calls ++ [event]) := by
  obtain ⟨before, lookup, after, rfl, hlookup, hafter⟩ := h
  refine ⟨before, lookup, after ++ [event], by simp, hlookup, ?_⟩
  exact List.forall_mem_append.2 ⟨hafter, by simpa using hevent⟩

end Tells

section Versions

variable {settings : Settings} {monitor next finish : Monitor} {calls : List (Event collaborators)}
  {initial : VersionRecord} {runs earlier later : List CycleRun} {run : CycleRun}

/-- The version step looks a version up and goes on with it, or goes on without one. -/
theorem VersionCalls.resolved_or {credentials : Option Credentials} {lookup : VersionLookup}
    {record : Option VersionRecord}
    (h : VersionCalls settings monitor credentials calls (lookup, record)) :
    (∃ found, calls = [⟨.resolveVersion monitor.spec.image credentials, .ok found⟩] ∧
        lookup = .resolved ∧ record = some found) ∨
      ((∀ event ∈ calls, resolved? event = none) ∧ lookup ≠ .resolved ∧ record = none) := by
  generalize hresult : (lookup, record) = result at h
  cases h with
  | skipped =>
      cases hresult
      exact .inr ⟨by simp, by simp, rfl⟩
  | asked reply =>
      cases reply with
      | ok found =>
          cases hresult
          exact .inl ⟨found, rfl, rfl, rfl⟩
      | error fault =>
          cases hresult
          refine .inr ⟨?_, by simp, rfl⟩
          intro event hmem
          obtain rfl := List.mem_singleton.1 hmem
          rfl

/-- The reply to a status write changes nothing of the version of the image. -/
theorem recordedVersion_recorded (written : Monitor) (reply : Except Fault Document) :
    (recorded written reply).1.recordedVersion = written.recordedVersion := by
  cases reply with
  | error fault => rfl
  | ok adopted =>
      show (written.adopting adopted).recordedVersion = written.recordedVersion
      unfold Monitor.adopting
      split <;> rfl

/-- The version in a monitor is the one that was looked up last. -/
theorem CycleRun.tracks_recordedVersion (run : CycleRun) :
    Tracks Monitor.recordedVersion resolved? run.monitor run.calls run.next := by
  refine run.closes.tracks (fun _ hquiet => hquiet.resolved?_eq_none) ?_ ?_
  · intro credentials version lookup record time hversion
    rcases hversion.resolved_or with ⟨found, rfl, -, rfl⟩ | ⟨hsilent, -, rfl⟩
    · rfl
    · rw [latest_of_silent hsilent]
      rfl
  · exact fun written reply => recordedVersion_recorded written reply

/-- The version in a monitor is the one that was looked up last, over any number of cycles. -/
theorem Succession.tracks_recordedVersion (h : Succession monitor runs finish) :
    Tracks Monitor.recordedVersion resolved? monitor (callsOf runs) finish :=
  h.tracks fun run _ => run.tracks_recordedVersion

/-- Unless something is unsaved, what is stored is what was looked up last. -/
theorem latest_stored?_eq (hwritten : ∀ before written reply after,
      calls = before ++ ⟨.updateStatus written, reply⟩ :: after →
      written.recordedVersion = latest resolved? initial before)
    (hsaved : ¬ Unsaved calls) :
    latest stored? initial calls = latest resolved? initial calls := by
  induction calls using List.reverseRecOn with
  | nil => rfl
  | append_singleton calls event ih =>
      have hearlier : ∀ before written reply after,
          calls = before ++ ⟨.updateStatus written, reply⟩ :: after →
          written.recordedVersion = latest resolved? initial before := by
        rintro before written reply after rfl
        exact hwritten before written reply (after ++ [event]) (by simp)
      rw [latest_append, latest_append]
      cases hstored : stored? event with
      | some version =>
          -- The call stores what its monitor holds.
          obtain ⟨written, adopted, rfl, rfl⟩ := stored?_eq_some hstored
          exact hwritten calls written (.ok adopted) [] rfl
      | none =>
          have hresolved : resolved? event = none := by
            by_contra hresolved
            exact hsaved ⟨calls, event, [], rfl, hresolved, by simp⟩
          have hcalls := ih hearlier fun hunsaved => hsaved (hunsaved.append_singleton hstored)
          simp [hstored, hresolved, hcalls]

/-- A cycle that comes to its end tells whether it looked the version up. -/
theorem Closes.lookup_eq_resolved_iff {result : Outcome}
    (h : Closes settings monitor calls next (.ok result)) :
    result.lookup = .resolved ↔ Resolves calls := by
  cases h with
  | @written front version after credentials lookup record _ _ reply hfront hversion hafter
      houtcome =>
      obtain rfl : result.lookup = lookup := by
        cases reply with
        | ok adopted => exact Except.ok.inj houtcome
        | error fault => cases houtcome
      rcases hversion.resolved_or with ⟨found, rfl, hlookup, -⟩ | ⟨hsilent, hlookup, -⟩
      · exact iff_of_true hlookup ⟨⟨.resolveVersion monitor.spec.image credentials, .ok found⟩,
          by simp, Option.some_ne_none found⟩
      · refine iff_of_false hlookup ?_
        rintro ⟨event, hmem, hresolved⟩
        simp only [List.mem_append, List.mem_cons] at hmem
        rcases hmem with hmem | hmem | rfl | hmem
        · exact hresolved (hfront.resolved?_eq_none event hmem)
        · exact hresolved (hsilent event hmem)
        · exact hresolved rfl
        · exact hresolved (hafter.resolved?_eq_none event hmem)

/-- A call of a later cycle is one of all the calls. -/
theorem callsOf_eq_of_split {before after : List (Event collaborators)}
    {event : Event collaborators} (hruns : runs = earlier ++ run :: later)
    (hcalls : run.calls = before ++ event :: after) :
    callsOf runs = (callsOf earlier ++ before) ++ event :: (after ++ callsOf later) := by
  simp [hruns, hcalls]

/-- A status write carries the version that was looked up last. -/
theorem Succession.recordedVersion_eq (h : Succession monitor runs finish)
    (hruns : runs = earlier ++ run :: later) {written : Monitor} {reply : Except Fault Document}
    (hmem : ⟨.updateStatus written, reply⟩ ∈ run.calls) :
    written.recordedVersion =
      latest resolved? monitor.recordedVersion (callsOf (earlier ++ [run])) := by
  obtain ⟨before, after, hcalls⟩ := List.append_of_mem hmem
  have hwritten := h.tracks_recordedVersion.written _ written reply _
    (callsOf_eq_of_split hruns hcalls)
  -- After the status write of a cycle nothing is looked up in it.
  have hcloses := run.closes
  rw [hcalls] at hcloses
  obtain ⟨_, _, _, _, _, _, -, -, hafter, -⟩ := hcloses.of_updateStatus
  simp [hwritten, hcalls, latest_of_silent hafter.resolved?_eq_none, resolved?]

/-- Unless something is unsaved, a cycle that looks nothing up stores what was stored. -/
theorem Succession.stored_eq (h : Succession monitor runs finish)
    (hruns : runs = earlier ++ run :: later) (hsaved : ¬ Unsaved (callsOf earlier))
    (hlookup : ¬ Resolves run.calls) {written : Monitor} {adopted : Document}
    (hmem : ⟨.updateStatus written, .ok adopted⟩ ∈ run.calls) :
    written.recordedVersion = latest stored? monitor.recordedVersion (callsOf earlier) := by
  have hsilent : ∀ event ∈ run.calls, resolved? event = none := by
    intro event hevent
    by_contra hresolved
    exact hlookup ⟨event, hevent, hresolved⟩
  subst hruns
  have hearlier := h.split.1.tracks_recordedVersion
  rw [h.recordedVersion_eq rfl hmem, callsOf_append, latest_append, callsOf_cons, callsOf_nil,
    List.append_nil, latest_of_silent hsilent, latest_stored?_eq hearlier.written hsaved]

/-- What is stored changes only in a cycle that looks the version up, or while something is
unsaved. -/
theorem Succession.stored_changed (h : Succession monitor runs finish)
    (hruns : runs = earlier ++ run :: later)
    (hchanged : latest stored? monitor.recordedVersion (callsOf (earlier ++ [run])) ≠
      latest stored? monitor.recordedVersion (callsOf earlier)) :
    Resolves run.calls ∨ Unsaved (callsOf earlier) := by
  by_contra hneither
  obtain ⟨hlookup, hsaved⟩ := not_or.1 hneither
  refine hchanged ?_
  rw [callsOf_append, latest_append, callsOf_cons, callsOf_nil, List.append_nil]
  refine latest_eq_of_forall fun event hmem version hstored => ?_
  obtain ⟨written, adopted, rfl, rfl⟩ := stored?_eq_some hstored
  exact h.stored_eq hruns hsaved hlookup hmem

end Versions

/-- Over any number of cycles, in which any status write may fail, every status write carries the
version that was looked up last. A cycle that looks nothing up stores what was stored before, unless
a version that was looked up is still unsaved. -/
theorem recorded_versions (monitor finish : Monitor) (runs : List CycleRun)
    (h : Succession monitor runs finish) : RecordsVersions monitor.recordedVersion runs where
  told := by
    intro run _ result houtcome
    exact Closes.lookup_eq_resolved_iff (houtcome ▸ run.closes)
  written _ _ _ hruns _ _ hmem := h.recordedVersion_eq hruns hmem
  kept _ _ _ hruns hsaved hlookup _ _ hmem := h.stored_eq hruns hsaved hlookup hmem
  changed _ _ _ hruns hchanged := h.stored_changed hruns hchanged

/-- A version is looked up and cannot be stored. The next cycle, which looks nothing up, stores it.
-/
theorem exists_unsaved_history :
    ∃ (monitor finish written : Monitor) (first second : CycleHistory),
      Succession monitor [first.run, second.run] finish ∧ Unsaved first.run.calls ∧
      ¬ Resolves second.run.calls ∧ ⟨.updateStatus written, .ok .null⟩ ∈ second.run.calls ∧
      latest stored? monitor.recordedVersion first.run.calls =
        ⟨.text "1.0", .text "sha256:old"⟩ ∧
      written.recordedVersion = ⟨.text "2.0", .text "sha256:new"⟩ := by
  let found : VersionRecord := ⟨.text "2.0", .text "sha256:new"⟩
  let lost : Fault := .lower .brokenAssumption
  let time : Moment := default
  let monitor : Monitor :=
    { Monitor.plain with status := ⟨.text "1.0", .text "sha256:old", none⟩ }
  let stamped := monitor.stamped (some found) time
  let written := stamped.stamped none time
  let enabled : Settings := {}
  let disabled : Settings := { disableVersionUpdates := true }
  have hfollows : Monitor.plain.Follows monitor := ⟨_, _, rfl⟩
  have hstamped : Monitor.plain.Follows stamped := hfollows.trans (.stamped _ _ _)
  obtain ⟨desired, live, hconverged⟩ := exists_path_of_plain hfollows
  obtain ⟨desired', live', hconverged'⟩ := exists_path_of_plain hstamped
  have hfailing : Path ((concluding enabled monitor (.ok (none, .unchanged))).bind counting)
      [⟨.resolveVersion monitor.spec.image none, .ok found⟩,
        ⟨.log (updateFoundEvent monitor found), ()⟩, ⟨.count (.lookups .resolved), ()⟩,
        ⟨.now, time⟩, ⟨.updateStatus stamped, .error lost⟩,
        ⟨.log (faultEvent stamped "status_update_failed" [] lost), ()⟩,
        ⟨.count (.cycles .error), ()⟩] (.done (stamped, .error (statusFault lost))) :=
    .cons (.cons (.cons (.cons (.cons (.cons (.cons (.nil _)))))))
  have hstoring : Path ((concluding disabled stamped (.ok (none, .unchanged))).bind counting)
      [⟨.count (.lookups .disabled), ()⟩, ⟨.now, time⟩, ⟨.updateStatus written, .ok .null⟩,
        ⟨.log (recordedEvent written), ()⟩, ⟨.count (.cycles .success), ()⟩]
      (.done (written, .ok { action := .unchanged, lookup := .disabled })) :=
    .cons (.cons (.cons (.cons (.cons (.nil _)))))
  let lookup : Event collaborators := ⟨.resolveVersion monitor.spec.image none, .ok found⟩
  let first : CycleHistory :=
    { settings := enabled
      monitor := monitor
      events := _
      next := stamped
      outcome := .error (statusFault lost)
      path := reconcile_eq enabled monitor ▸
        Path.bind_done_iff.2 ⟨_, _, _, rfl, hconverged, hfailing⟩ }
  let second : CycleHistory :=
    { settings := disabled
      monitor := stamped
      events := _
      next := written
      outcome := .ok { action := .unchanged, lookup := .disabled }
      path := reconcile_eq disabled stamped ▸
        Path.bind_done_iff.2 ⟨_, _, _, rfl, hconverged', hstoring⟩ }
  have hunsaved : Unsaved first.run.calls :=
    ⟨_, lookup, [_], (rfl : _ = [_, _, _] ++ _), Option.some_ne_none found, by simp [stored?]⟩
  have hdisabled : ¬ Resolves second.run.calls := by
    simp [Resolves, second, CycleHistory.run, CycleRequest.isCall, CycleRequest.call?, resolved?]
  have hmem : ⟨.updateStatus written, .ok .null⟩ ∈ second.run.calls := by
    simp [second, CycleHistory.run, CycleRequest.isCall, CycleRequest.call?]
  exact ⟨monitor, written, written, first, second, .cons first.run (.cons second.run (.nil written)),
    hunsaved, hdisabled, hmem, rfl, rfl⟩

/-- A version that cannot be stored stays unsaved until the next cycle stores it. -/
theorem exists_unsaved :
    ∃ (monitor finish written : Monitor) (first second : CycleRun),
      Succession monitor [first, second] finish ∧ Unsaved first.calls ∧ ¬ Resolves second.calls ∧
      ⟨.updateStatus written, .ok .null⟩ ∈ second.calls ∧
      latest stored? monitor.recordedVersion first.calls =
        ⟨.text "1.0", .text "sha256:old"⟩ ∧
      written.recordedVersion = ⟨.text "2.0", .text "sha256:new"⟩ := by
  obtain ⟨monitor, finish, written, first, second, h⟩ := exists_unsaved_history
  exact ⟨monitor, finish, written, first.run, second.run, h⟩

/-- Where a version that was looked up cannot be stored, the next cycle stores it, which looks
nothing up. -/
theorem recorded_versions_unsaved :
    ∃ (monitor finish written : Monitor) (first second : CycleRun),
      Succession monitor [first, second] finish ∧
      RecordsVersions monitor.recordedVersion [first, second] ∧ Unsaved first.calls ∧
      ¬ Resolves second.calls ∧ ⟨.updateStatus written, .ok .null⟩ ∈ second.calls ∧
      written.recordedVersion = ⟨.text "2.0", .text "sha256:new"⟩ := by
  obtain ⟨monitor, finish, written, first, second, hruns, hunsaved, hdisabled, hmem, -, hnew⟩ :=
    exists_unsaved
  exact ⟨monitor, finish, written, first, second, hruns, recorded_versions monitor finish _ hruns,
    hunsaved, hdisabled, hmem, hnew⟩

/-- A cycle that looks nothing up does not always store what was stored before. -/
theorem not_recorded_version_kept :
    ¬ ∀ (monitor finish : Monitor) (runs : List CycleRun), Succession monitor runs finish →
      ∀ earlier run later, runs = earlier ++ run :: later → ¬ Resolves run.calls →
        ∀ written adopted, ⟨.updateStatus written, .ok adopted⟩ ∈ run.calls →
          written.recordedVersion =
            latest stored? monitor.recordedVersion (callsOf earlier) := by
  intro hkept
  obtain ⟨monitor, finish, written, first, second, hruns, -, hdisabled, hmem, hold, hnew⟩ :=
    exists_unsaved
  have hsame := hkept monitor finish _ hruns [first] second [] rfl hdisabled written .null hmem
  rw [callsOf_cons, callsOf_nil, List.append_nil, hold, hnew] at hsame
  simp at hsame

end Cycle

end MonitorOperator
