import MonitorOperator.Proofs.Cycle.RecordedVersion
import MonitorOperator.Proofs.Process.Along

/-!
# Updates are announced before they are stored

A cycle that looks a version up with another hash than the monitor has logs this at once. The status
write may fail, and leaves the monitor ahead of what is stored then, so the update may be announced
in one cycle and stored in a later one. `Prepared` is what all of them preserve: if the monitor has
a hash that is not stored, it was announced since something was stored last.
-/

namespace MonitorOperator.Cycle

open Process (Along)

/-- The log event that announces an update of the image, if the event is one. -/
def announcement? : Event collaborators → Option LogEvent
  | ⟨.log event, _⟩ => if event.event = "image_update_found" then some event else none
  | _ => none

/-- The event announces an update to a hash. -/
def Announces (hash : Document) (event : Event collaborators) : Prop :=
  ∃ announcement, announcement? event = some announcement ∧
    announcement.fields.get? (.text "new_hash") = some hash

/-- Only logging an event announces it, if it has the name. -/
theorem announcement?_log (event : LogEvent) (reply : Unit) :
    announcement? ⟨.log event, reply⟩ =
      if event.event = "image_update_found" then some event else none :=
  rfl

/-- An update to a hash was announced after a version was stored last. -/
def Announced (hash : Document) (events : List (Event collaborators)) : Prop :=
  ∃ before event after, events = before ++ event :: after ∧ Announces hash event ∧
    ∀ other ∈ after, stored? other = none

/-- What the cycles of a monitor, whose status is stored at first, announce. -/
structure AnnouncesUpdates (initial : VersionRecord) (cycles : List CycleHistory) : Prop where
  /-- An update to a hash is announced before it is stored, after the version before was. -/
  announced : ∀ before written adopted after hash,
    eventsOf cycles = before ++ ⟨.updateStatus written, .ok adopted⟩ :: after →
    written.status.imageHash = .text hash →
    (latest stored? initial before).hash ≠ .text hash → Announced (.text hash) before
  /-- A cycle announces an update exactly if it looks a version up whose hash is not the one that
  the monitor had when the cycle began. -/
  exactly : ∀ cycle ∈ cycles,
    (∃ event ∈ cycle.events, announcement? event ≠ none) ↔
      ∃ image credentials record, ⟨.resolveVersion image credentials, .ok record⟩ ∈ cycle.events ∧
        cycle.monitor.status.imageHash.agrees record.hash = false

/-- A lookup is followed by an announcement exactly if the monitor has another hash, and nothing
else is announced. -/
inductive Paired (monitor : Monitor) : List (Event collaborators) → Prop where
  | nil : Paired monitor []
  | hushed {event : Event collaborators} {events : List (Event collaborators)} :
      resolved? event = none → announcement? event = none → Paired monitor events →
      Paired monitor (event :: events)
  | same {image : Document} {credentials : Option Credentials} {record : VersionRecord}
      {events : List (Event collaborators)} :
      monitor.status.imageHash.agrees record.hash = true → Paired monitor events →
      Paired monitor (⟨.resolveVersion image credentials, .ok record⟩ :: events)
  | found {image : Document} {credentials : Option Credentials} {record : VersionRecord}
      {events : List (Event collaborators)} (reply : Unit) :
      monitor.status.imageHash.agrees record.hash = false → Paired monitor events →
      Paired monitor
        (⟨.resolveVersion image credentials, .ok record⟩ ::
          ⟨.log (updateFoundEvent monitor record), reply⟩ :: events)

section Paired

variable {monitor : Monitor} {events : List (Event collaborators)}

/-- Events that follow each other are paired if both are. -/
theorem Paired.append {first second : List (Event collaborators)} (hfirst : Paired monitor first)
    (hsecond : Paired monitor second) : Paired monitor (first ++ second) := by
  induction hfirst with
  | nil => exact hsecond
  | hushed hresolved hannounced _ ih => exact .hushed hresolved hannounced ih
  | same hagrees _ ih => exact .same hagrees ih
  | found reply hagrees _ ih => exact .found reply hagrees ih

/-- Only in the version phase is there something to pair. -/
theorem paired_of_asks {phase : Phase} (hphase : phase ≠ .version)
    (h : ∀ event ∈ events, phase.asks event.request) : Paired monitor events := by
  induction events with
  | nil => exact .nil
  | cons event events ih =>
      obtain ⟨hevent, hevents⟩ := List.forall_mem_cons.1 h
      obtain ⟨request, reply⟩ := event
      refine .hushed ?_ ?_ (ih hevents)
      · cases request with
        | resolveVersion => exact absurd hevent hphase
        | _ => rfl
      · cases request with
        | log event =>
            exact (announcement?_log event reply).trans (if_neg fun hname => hphase (hevent hname))
        | _ => rfl

/-- A process that does not belong to the version phase has only paired events. -/
theorem Asks.along_paired {α : Type} {phase : Phase} {process : Process collaborators α}
    (h : Asks phase process) (hphase : phase ≠ .version) :
    Along (fun events _ => Paired monitor events) process :=
  Along.of_path fun _ _ hpath => paired_of_asks hphase (hpath.only h)

/-- The version step announces what it finds. -/
theorem along_paired_versionStep (settings : Settings) (monitor : Monitor)
    (credentials : Option Credentials) :
    Along (fun events _ => Paired monitor events) (versionStep settings monitor credentials) := by
  unfold versionStep
  split
  · exact fun _ => .hushed rfl rfl .nil
  intro reply
  cases reply with
  | error fault =>
      exact fun _ _ => .hushed rfl rfl
        (.hushed rfl ((announcement?_log _ _).trans (if_neg (by simp [faultEvent, Logger.event])))
          (.hushed rfl rfl .nil))
  | ok record =>
      show Along _ (ite _ _ _)
      split
      · next hagrees =>
          exact fun reply _ => .found reply (by simpa using hagrees) (.hushed rfl rfl .nil)
      · next hagrees => exact fun _ => .same (by simpa using hagrees) (.hushed rfl rfl .nil)

/-- A cycle announces what it finds. -/
theorem along_paired_reconcile (settings : Settings) (monitor : Monitor) :
    Along (fun events _ => Paired monitor events) (reconcile settings monitor) := by
  rw [reconcile_eq]
  refine Along.bind_events (fun _ _ => Paired.append)
    ((asks_provisionAndConverge monitor).along_paired (by decide)) fun converged => ?_
  refine Along.bind_events (fun _ _ => Paired.append) ?_ fun result =>
    (asks_counting .early result).along_paired (by decide)
  match converged with
  | .error fault => exact .nil
  | .ok (credentials, action) =>
      refine Along.bind_events (fun _ _ => Paired.append)
        (along_paired_versionStep settings monitor credentials) fun (lookup, record) => ?_
      refine Along.bind_events (fun _ _ => Paired.append)
        ((asks_statusStep monitor record).along_paired (by decide)) fun written => ?_
      match written with
      | (_, .error fault) => exact .nil
      | (next, .ok ()) =>
          exact Along.bind_events (fun _ _ => Paired.append)
            ((asks_dashboardStep settings next).along_paired (by decide)) fun _ => .nil

/-- The announcement of an update names the new hash. -/
theorem announces_updateFoundEvent (monitor : Monitor) (record : VersionRecord) (reply : Unit) :
    Announces record.hash ⟨.log (updateFoundEvent monitor record), reply⟩ :=
  ⟨updateFoundEvent monitor record, (announcement?_log _ _).trans (if_pos rfl), rfl⟩

/-- Something is announced exactly if a version is found that has another hash. -/
theorem Paired.announces_iff (h : Paired monitor events) :
    (∃ event ∈ events, announcement? event ≠ none) ↔
      ∃ image credentials record, ⟨.resolveVersion image credentials, .ok record⟩ ∈ events ∧
        monitor.status.imageHash.agrees record.hash = false := by
  induction h with
  | nil => simp
  | @hushed event events hresolved hannounced _ ih =>
      -- The event is neither an announcement nor what one is made for.
      have hother (image : Document) (credentials : Option Credentials) (record : VersionRecord) :
          (⟨.resolveVersion image credentials, .ok record⟩ : Event collaborators) ≠ event := by
        rintro rfl
        cases hresolved
      simpa [hannounced, hother] using ih
  | @same image credentials record _ hagrees _ ih =>
      refine Iff.trans (by simp [announcement?]) (ih.trans ⟨?_, ?_⟩)
      · rintro ⟨image, credentials, record, hmem, hdiffers⟩
        exact ⟨image, credentials, record, List.mem_cons_of_mem _ hmem, hdiffers⟩
      · rintro ⟨image, credentials, record, hmem, hdiffers⟩
        rcases List.mem_cons.1 hmem with heq | hmem
        · cases heq
          simp [hagrees] at hdiffers
        · exact ⟨image, credentials, record, hmem, hdiffers⟩
  | @found image credentials record _ reply hagrees _ ih =>
      refine iff_of_true ⟨_, List.mem_cons_of_mem _ List.mem_cons_self, ?_⟩
        ⟨image, credentials, record, List.mem_cons_self, hagrees⟩
      obtain ⟨announcement, hannounced, -⟩ := announces_updateFoundEvent monitor record reply
      simp [hannounced]

/-- A version that is found has the hash of the monitor, or is announced. -/
theorem Paired.agrees_or_announces (h : Paired monitor events) {image : Document}
    {credentials : Option Credentials} {record : VersionRecord}
    (hmem : ⟨.resolveVersion image credentials, .ok record⟩ ∈ events) :
    monitor.status.imageHash.agrees record.hash = true ∨
      ∃ event ∈ events, Announces record.hash event := by
  induction h with
  | nil => simp at hmem
  | hushed hresolved _ _ ih =>
      rcases List.mem_cons.1 hmem with rfl | hmem
      · cases hresolved
      · exact (ih hmem).imp_right fun ⟨event, hevent, hannounces⟩ =>
          ⟨event, List.mem_cons_of_mem _ hevent, hannounces⟩
  | same hagrees _ ih =>
      rcases List.mem_cons.1 hmem with heq | hmem
      · cases heq
        exact .inl hagrees
      · exact (ih hmem).imp_right fun ⟨event, hevent, hannounces⟩ =>
          ⟨event, List.mem_cons_of_mem _ hevent, hannounces⟩
  | found reply hagrees _ ih =>
      rcases List.mem_cons.1 hmem with heq | hmem
      · cases heq
        exact .inr ⟨_, by simp, announces_updateFoundEvent monitor record reply⟩
      · rcases List.mem_cons.1 hmem with heq | hmem
        · cases heq
        · exact (ih hmem).imp_right fun ⟨event, hevent, hannounces⟩ =>
            ⟨event, by simp [hevent], hannounces⟩

/-- Before an event that announces nothing, all is paired. -/
theorem Paired.left {early late : List (Event collaborators)} {event : Event collaborators}
    (h : Paired monitor (early ++ event :: late)) (hevent : announcement? event = none) :
    Paired monitor early := by
  generalize hall : early ++ event :: late = all at h
  induction h generalizing early with
  | nil => simp at hall
  | hushed hresolved hannounced _ ih =>
      rcases List.append_eq_cons_iff.1 hall with ⟨rfl, -⟩ | ⟨rest, rfl, hrest⟩
      · exact .nil
      · exact .hushed hresolved hannounced (ih hrest.symm)
  | same hagrees _ ih =>
      rcases List.append_eq_cons_iff.1 hall with ⟨rfl, -⟩ | ⟨rest, rfl, hrest⟩
      · exact .nil
      · exact .same hagrees (ih hrest.symm)
  | @found image credentials record _ reply hagrees _ ih =>
      rcases List.append_eq_cons_iff.1 hall with ⟨rfl, -⟩ | ⟨rest, rfl, hrest⟩
      · exact .nil
      rcases List.append_eq_cons_iff.1 hrest.symm with ⟨rfl, hlog⟩ | ⟨later, rfl, hlater⟩
      · -- The event would have to be the announcement.
        cases hlog
        obtain ⟨announcement, hannounced, -⟩ := announces_updateFoundEvent monitor record reply
        cases hannounced.symm.trans hevent
      · exact .found reply hagrees (ih hlater.symm)

end Paired

section Announced

variable {hash : Document} {events : List (Event collaborators)}

/-- What was announced stays so while nothing is stored. -/
theorem Announced.append {later : List (Event collaborators)} (h : Announced hash events)
    (hlater : ∀ event ∈ later, stored? event = none) : Announced hash (events ++ later) := by
  obtain ⟨before, event, after, rfl, hannounces, hafter⟩ := h
  exact ⟨before, event, after ++ later, by simp, hannounces,
    List.forall_mem_append.2 ⟨hafter, hlater⟩⟩

/-- An announcement among events that store nothing counts, whatever was before. -/
theorem announced_of_mem {earlier : List (Event collaborators)} {event : Event collaborators}
    (hmem : event ∈ events) (hannounces : Announces hash event)
    (hevents : ∀ event ∈ events, stored? event = none) : Announced hash (earlier ++ events) := by
  obtain ⟨before, after, rfl⟩ := List.append_of_mem hmem
  refine ⟨earlier ++ before, event, after, by simp, hannounces, fun other hother => ?_⟩
  exact hevents other (by simp [hother])

end Announced

/-- How a cycle saves its status: not at all, or once, and then a hash that the monitor did not have
was announced before. -/
inductive Saves (monitor next : Monitor) : List (Event collaborators) → Prop where
  | unwritten {events : List (Event collaborators)} :
      (∀ event ∈ events, stored? event = none) → next = monitor → Saves monitor next events
  | written {early late : List (Event collaborators)} (written : Monitor)
      (reply : Except Fault Document) :
      (∀ event ∈ early, stored? event = none) → (∀ event ∈ late, stored? event = none) →
      next.recordedVersion = written.recordedVersion →
      (∀ hash, written.status.imageHash = .text hash → monitor.status.imageHash ≠ .text hash →
        ∃ event ∈ early, Announces (.text hash) event) →
      Saves monitor next (early ++ ⟨.updateStatus written, reply⟩ :: late)

/-- Events whose calls write no status store nothing. -/
theorem stored?_eq_none_of_calls {events : List (Event collaborators)}
    (h : ∀ written reply, ⟨.updateStatus written, reply⟩ ∉ events.filter (·.request.isCall)) :
    ∀ event ∈ events, stored? event = none := by
  intro event hmem
  cases hstored : stored? event with
  | none => rfl
  | some version =>
      obtain ⟨written, adopted, rfl, -⟩ := stored?_eq_some hstored
      exact absurd (List.mem_filter.2 ⟨hmem, rfl⟩) (h written (.ok adopted))

/-- A cycle saves its status. -/
theorem CycleHistory.saves (cycle : CycleHistory) :
    Saves cycle.monitor cycle.next cycle.events := by
  by_cases hwrites : ∃ written reply, ⟨.updateStatus written, reply⟩ ∈ cycle.events
  · obtain ⟨written, reply, hmem⟩ := hwrites
    obtain ⟨early, late, hevents⟩ := List.append_of_mem hmem
    have hcalls : cycle.run.calls = early.filter (·.request.isCall) ++
        ⟨.updateStatus written, reply⟩ :: late.filter (·.request.isCall) := by
      simp [run, hevents, CycleRequest.isCall, CycleRequest.call?]
    obtain ⟨front, credentials, version, lookup, record, time, hearly, hfront, hlate, hversion,
      rfl, hnext, -⟩ := (hcalls ▸ cycle.run.closes).of_updateStatus
    have hpaired : Paired cycle.monitor early := by
      have hall := cycle.path.along (along_paired_reconcile cycle.settings cycle.monitor)
      rw [hevents] at hall
      exact hall.left rfl
    rw [hevents]
    refine .written _ reply (stored?_eq_none_of_calls fun other otherReply => ?_)
      (stored?_eq_none_of_calls hlate.updateStatus_notMem) ?_ fun hash hwritten hdiffers => ?_
    · simp [hearly, hfront.updateStatus_notMem, hversion.updateStatus_notMem]
    · rw [show cycle.next = _ from hnext, recordedVersion_recorded]
    · rcases hversion.resolved_or with ⟨found, rfl, -, rfl⟩ | ⟨-, -, rfl⟩
      · have hhash : found.hash = .text hash := hwritten
        have hfound : ⟨.resolveVersion cycle.monitor.spec.image credentials, .ok found⟩ ∈ early :=
          List.mem_of_mem_filter (hearly ▸ List.mem_append_right front (List.mem_singleton_self _))
        rcases hpaired.agrees_or_announces hfound with hagrees | hannounced
        · rw [hhash, Document.agrees_text_iff] at hagrees
          exact absurd hagrees hdiffers
        · rwa [hhash] at hannounced
      · exact absurd hwritten hdiffers
  · have hnone : ∀ written reply, ⟨.updateStatus written, reply⟩ ∉ cycle.run.calls :=
      fun written reply hmem => hwrites ⟨written, reply, List.mem_of_mem_filter hmem⟩
    refine .unwritten (stored?_eq_none_of_calls hnone) ?_
    exact cycle.run.closes.next_eq hnone

/-- If the hash that is held is not the one that is stored, an update to it was announced after that
was stored. -/
def Prepared (initial : VersionRecord) (events : List (Event collaborators)) (held : Document) :
    Prop :=
  ∀ hash, held = .text hash → (latest stored? initial events).hash ≠ .text hash →
    Announced (.text hash) events

section Prepared

variable {initial : VersionRecord} {monitor next finish : Monitor} {held : Document}
  {past events : List (Event collaborators)}

/-- Events that store nothing leave everything prepared. -/
theorem Prepared.append (h : Prepared initial past held)
    (hevents : ∀ event ∈ events, stored? event = none) :
    Prepared initial (past ++ events) held := by
  intro hash hheld hdiffers
  rw [latest_append, latest_of_silent hevents] at hdiffers
  exact (h hash hheld hdiffers).append hevents

/-- A hash is prepared if it was held before or has been announced. -/
theorem Prepared.announcing {hash : Document} (h : Prepared initial past held)
    (hevents : ∀ event ∈ events, stored? event = none)
    (hannounced : ∀ text, hash = .text text → held ≠ .text text →
      ∃ event ∈ events, Announces (.text text) event) :
    Prepared initial (past ++ events) hash := by
  intro text hhash hdiffers
  by_cases hheld : held = .text text
  · exact h.append hevents text hheld hdiffers
  · obtain ⟨event, hmem, hannounces⟩ := hannounced text hhash hheld
    exact announced_of_mem hmem hannounces hevents

/-- What a cycle stores is prepared. -/
theorem Saves.prepared_written {before after : List (Event collaborators)} {written : Monitor}
    {adopted : Document}
    (h : Saves monitor next (before ++ ⟨.updateStatus written, .ok adopted⟩ :: after))
    (hpast : Prepared initial past monitor.status.imageHash) :
    Prepared initial (past ++ before) written.status.imageHash := by
  generalize hevents : before ++ ⟨.updateStatus written, .ok adopted⟩ :: after = events at h
  have hstored {others : List (Event collaborators)}
      (hnone : ∀ event ∈ others, stored? event = none) :
      ⟨.updateStatus written, .ok adopted⟩ ∉ others :=
    fun hmem => Option.some_ne_none _ (hnone _ hmem)
  cases h with
  | unwritten hnone => exact absurd (by simp [← hevents]) (hstored hnone)
  | written other reply hearly hlate _ hannounced =>
      -- A cycle stores once, so this is the write.
      obtain ⟨rfl, heq, -⟩ :=
        (List.append_cons_inj_of_notMem (hstored hearly) (hstored hlate)).1 hevents.symm
      cases heq
      exact hpast.announcing hearly hannounced

/-- A cycle leaves the hash of its monitor prepared. -/
theorem Saves.prepared (h : Saves monitor next events)
    (hpast : Prepared initial past monitor.status.imageHash) :
    Prepared initial (past ++ events) next.status.imageHash := by
  cases h with
  | unwritten hnone hnext =>
      rw [hnext]
      exact hpast.append hnone
  | @written early late written reply hearly hlate hnext hannounced =>
      have hhash : next.status.imageHash = written.status.imageHash := congrArg (·.hash) hnext
      rw [hhash]
      cases reply with
      | error fault =>
          have hwritten := hpast.announcing hearly hannounced
          have hnone : ∀ event ∈ ⟨.updateStatus written, .error fault⟩ :: late,
              stored? event = none :=
            List.forall_mem_cons.2 ⟨rfl, hlate⟩
          rw [← List.append_assoc]
          exact hwritten.append hnone
      | ok adopted =>
          -- What is held is stored now.
          intro hash hheld hdiffers
          rw [latest_append, latest_append, latest_cons, latest_of_silent hlate] at hdiffers
          exact absurd hheld hdiffers

/-- Over any number of cycles, what is stored was prepared. -/
theorem Succession.prepared_written {cycles : List CycleHistory}
    (h : Succession monitor (cycles.map CycleHistory.run) finish)
    (hpast : Prepared initial past monitor.status.imageHash)
    {before after : List (Event collaborators)} {written : Monitor} {adopted : Document}
    (hevents : eventsOf cycles = before ++ ⟨.updateStatus written, .ok adopted⟩ :: after) :
    Prepared initial (past ++ before) written.status.imageHash := by
  induction cycles generalizing monitor past before with
  | nil => simp at hevents
  | cons cycle cycles ih =>
      obtain _ | ⟨_, hlater⟩ := h
      rcases append_eq_append_cons hevents with ⟨gap, hfirst⟩ | ⟨gap, rfl, hrest⟩
      · have hsaves := cycle.saves
        rw [hfirst] at hsaves
        exact hsaves.prepared_written hpast
      · -- The write is in a later cycle.
        rw [← List.append_assoc]
        exact ih hlater (cycle.saves.prepared hpast) hrest

end Prepared

/-- Over any number of cycles, in which any status write may fail, an update is announced before it
is stored, and a cycle announces what it looked up if that is an update. -/
theorem updates_announced (monitor finish : Monitor) (cycles : List CycleHistory)
    (h : Succession monitor (cycles.map CycleHistory.run) finish) :
    AnnouncesUpdates monitor.recordedVersion cycles where
  announced := by
    intro before written adopted after hash hevents
    have hfirst : Prepared monitor.recordedVersion [] monitor.status.imageHash :=
      fun hash hheld hdiffers => absurd hheld hdiffers
    exact h.prepared_written hfirst hevents hash
  exactly cycle _ := (cycle.path.along (along_paired_reconcile _ _)).announces_iff

/-- An update that is announced in one cycle may be stored in the next one, which announces nothing.
-/
theorem updates_announced_unsaved :
    ∃ (monitor finish written : Monitor) (first second : CycleHistory),
      Succession monitor ([first, second].map CycleHistory.run) finish ∧
      AnnouncesUpdates monitor.recordedVersion [first, second] ∧
      ⟨.updateStatus written, .ok .null⟩ ∈ second.events ∧
      written.status.imageHash = .text "sha256:new" ∧
      (latest stored? monitor.recordedVersion first.events).hash = .text "sha256:old" ∧
      ∀ event ∈ second.events, announcement? event = none := by
  obtain ⟨monitor, finish, written, first, second, hcycles, -, hdisabled, hmem, hold, hnew⟩ :=
    exists_unsaved_history
  have hannounces := updates_announced monitor finish [first, second] hcycles
  refine ⟨monitor, finish, written, first, second, hcycles, hannounces, List.mem_of_mem_filter hmem,
    congrArg (·.hash) hnew, ?_, fun event hevent => ?_⟩
  · have hcalls : ∀ event : Event collaborators, event.request.isCall = false →
        stored? event = none := by
      intro event hcall
      by_contra hstored
      obtain ⟨version, hversion⟩ := Option.ne_none_iff_exists'.1 hstored
      obtain ⟨written, adopted, rfl, -⟩ := stored?_eq_some hversion
      cases hcall
    rw [← latest_filter hcalls]
    exact congrArg (·.hash) hold
  · by_contra hannounced
    obtain ⟨image, credentials, record, hfound, -⟩ :=
      (hannounces.exactly second (by simp)).1 ⟨event, hevent, hannounced⟩
    exact hdisabled ⟨_, List.mem_filter.2 ⟨hfound, rfl⟩, Option.some_ne_none record⟩

end MonitorOperator.Cycle
