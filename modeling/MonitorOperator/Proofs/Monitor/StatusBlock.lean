import MonitorOperator.Monitor.Manifest
import MonitorOperator.Proofs.Document.Fields
import MonitorOperator.Proofs.Moment.Timestamp

/-!
# Status blocks read back

A status with texts for its version and hash, and with no moment or one whose year has four digits in
UTC, is written into a block that any manifest of a monitor reads back: the version and the hash are
the same, the moment is the second in UTC that it was in, and the block of what was read is the same
again (`MonitorStatus.block_reads_back`). Two moments are written alike exactly if they are in the
same second.
-/

namespace MonitorOperator

namespace MonitorStatus

/-- A status has what another one has, with the moment to the second. -/
structure Recovers (kept status : MonitorStatus) : Prop where
  imageVersion : kept.imageVersion = status.imageVersion
  imageHash : kept.imageHash = status.imageHash
  updated : Option.Rel Moment.IsSecondOf kept.updated status.updated

/-- A status is written with a timestamp. -/
def WritesTimestamp (status : MonitorStatus) (text : String) : Prop :=
  ∃ block, status.manifest = .ok block ∧
    block.under? ["updatedTimestamp"] = some (.text text)

/-- A status is written into a block, and another one is read from it. -/
structure Stores (block : Document) (status kept : MonitorStatus) : Prop where
  manifest : status.manifest = .ok block
  ofManifest : ofManifest block = .ok kept
  truthy : block.truthy = true

/-- The block of a status that is written with a timestamp. -/
def stampedBlock (version hash : Document) (text : String) : Document :=
  .ofFields [("imageVersion", version), ("imageHash", hash), ("updatedTimestamp", .text text)]

section Block

variable {version hash : Document} {moment : Moment} {text : String}

/-- A status is written with the timestamp of its moment. -/
theorem manifest_some (h : moment.timestamp = .ok text) :
    (mk version hash (some moment)).manifest = .ok (stampedBlock version hash text) := by
  unfold manifest
  simp only [h]
  rfl

/-- A status is written with no other timestamp than that of its moment. -/
theorem WritesTimestamp.timestamp_eq {status : MonitorStatus} (hwrites : status.WritesTimestamp text)
    (h : status.updated = some moment) : moment.timestamp = .ok text := by
  obtain ⟨version, hash, updated⟩ := status
  obtain ⟨block, hblock, hunder⟩ := hwrites
  subst h
  cases htimestamp : moment.timestamp with
  | error fault =>
      unfold manifest at hblock
      simp only [htimestamp] at hblock
      cases hblock
  | ok other =>
      rw [manifest_some htimestamp] at hblock
      cases hblock
      cases hunder
      rfl

/-- A status is written with the timestamp of its moment. -/
theorem writesTimestamp_of_updated {status : MonitorStatus} (h : status.updated = some moment)
    (htext : moment.timestamp = .ok text) : status.WritesTimestamp text := by
  obtain ⟨version, hash, updated⟩ := status
  subst h
  exact ⟨_, manifest_some htext, rfl⟩

/-- A block with a timestamp that is read as a moment is read as a status with that. -/
theorem ofManifest_stampedBlock (h : Moment.ofTimestamp text = .ok moment) :
    ofManifest (stampedBlock version hash text) = .ok ⟨version, hash, some moment⟩ := by
  have hpresent : (text != "") = true := by
    rw [bne_iff_ne]
    rintro rfl
    cases h
  have hread : readUpdated (.text text) = .ok (some moment) := by
    unfold readUpdated
    rw [show (Document.text text).truthy = true from hpresent]
    dsimp only [Bool.not_true]
    rw [h]
    rfl
  show (readUpdated (.text text) >>= _) = _
  rw [hread]
  rfl

end Block

/-- A status with a good moment, or none, is stored with the second of its moment. -/
theorem exists_stores (version hash : String) {updated : Option Moment}
    (h : ∀ moment, updated = some moment → moment.HasFourDigitYear) :
    ∃ block kept, Stores block ⟨.text version, .text hash, updated⟩ kept ∧
      Recovers kept ⟨.text version, .text hash, updated⟩ ∧ kept.manifest = .ok block := by
  cases updated with
  | none =>
      exact ⟨_, ⟨.text version, .text hash, none⟩, ⟨rfl, rfl, rfl⟩, ⟨rfl, rfl, .none⟩, rfl⟩
  | some moment =>
      obtain ⟨hstart, text, htext, hread⟩ := Moment.ofTimestamp_timestamp (h moment rfl)
      have hsame : (Moment.ofInstant moment.instant.toNat 0).timestamp = .ok text := by
        rw [← htext]
        apply Moment.timestamp_congr
        rw [Moment.instant_ofInstant, Int.toNat_of_nonneg hstart]
      exact ⟨_, _, ⟨manifest_some htext, ofManifest_stampedBlock hread, rfl⟩,
        ⟨rfl, rfl, .some (Moment.isSecondOf_ofInstant hstart)⟩, manifest_some hsame⟩

/-- Two statuses are written with the same timestamp exactly if their moments are in the same
second. -/
theorem exists_writesTimestamp_iff {left right : MonitorStatus} {moment other : Moment}
    (hleft : left.updated = some moment) (hright : right.updated = some other)
    (hmoment : moment.HasFourDigitYear) (hother : other.HasFourDigitYear) :
    (∃ text, left.WritesTimestamp text ∧ right.WritesTimestamp text) ↔
      moment.instant = other.instant := by
  rw [← Moment.timestamp_eq_iff hmoment hother]
  constructor
  · rintro ⟨text, hwrites, hwrites'⟩
    rw [hwrites.timestamp_eq hleft, hwrites'.timestamp_eq hright]
  · intro heq
    obtain ⟨-, text, htext, -⟩ := Moment.ofTimestamp_timestamp hother
    exact ⟨text, writesTimestamp_of_updated hleft (heq.trans htext),
      writesTimestamp_of_updated hright htext⟩

end MonitorStatus

namespace Monitor

/-- A manifest with another status has the monitor that the rest of it describes, with that status. -/
theorem ofManifest_of_stores {block : Document} {status kept : MonitorStatus} {fields : Fields}
    {monitor : Monitor} (hstores : MonitorStatus.Stores block status kept)
    (hblock : Fields.get? fields (.text "status") = some block)
    (hrest : ofManifest (.object (Fields.remove fields (.text "status"))) = .ok monitor) :
    ofManifest (.object fields) = .ok { monitor with status := kept } := by
  have hkept : ∀ key, "status" ≠ key →
      Fields.get? (Fields.remove fields (.text "status")) (.text key) =
        Fields.get? fields (.text key) :=
    fun key hne => by rw [Fields.get?_remove, if_neg hne]
  have hremoved : Fields.get? (Fields.remove fields (.text "status")) (.text "status") = none := by
    rw [Fields.get?_remove, if_pos rfl]
  have hpresent : block.orElse (.object []) = block := if_pos hstores.truthy
  simp only [ofManifest, Document.lookupOrNull_object, hkept "metadata" (by decide),
    hkept "spec" (by decide), hremoved, hblock, Option.getD_some, bind_eq_ok_iff] at hrest ⊢
  obtain ⟨metadata, hmetadata, raw, hraw, _, -, image, himage, hrest⟩ := hrest
  refine ⟨metadata, hmetadata, raw, hraw, block, rfl, image, himage, ?_⟩
  cases htruthy : (image.orElse (.text "")).truthy with
  | false =>
      simp only [htruthy, Bool.not_false, ↓reduceIte, bind_eq_ok_iff] at hrest
      obtain ⟨_, -, _, hthrow, -⟩ := hrest
      cases hthrow
  | true =>
      simp only [htruthy, Bool.not_true, Bool.false_eq_true, ↓reduceIte, bind_eq_ok_iff] at hrest ⊢
      obtain ⟨spec, hspec, _, -, name, hname, scope, hscope, uid, huid, version, hversion, hread⟩ :=
        hrest
      cases hread
      rw [hpresent]
      exact ⟨spec, hspec, kept, hstores.ofManifest, name, hname, scope, hscope, uid, huid, version,
        hversion, rfl⟩

end Monitor

namespace MonitorStatus

/-- A status with texts and with a moment whose year has four digits in UTC, or no moment, is written
into a block from which any manifest reads it back with the second of its moment. What was read is
written into the same block. Two statuses are written with the same timestamp exactly if their moments
are in the same second. -/
theorem block_reads_back (version hash : String) (updated : Option Moment)
    (h : ∀ moment, updated = some moment → moment.HasFourDigitYear) :
    (∃ block kept, manifest ⟨.text version, .text hash, updated⟩ = .ok block ∧
      Recovers kept ⟨.text version, .text hash, updated⟩ ∧ kept.manifest = .ok block ∧
      ∀ fields monitor, Fields.get? fields (.text "status") = some block →
        Monitor.ofManifest (.object (Fields.remove fields (.text "status"))) = .ok monitor →
        Monitor.ofManifest (.object fields) = .ok { monitor with status := kept }) ∧
    ∀ left right moment other, left.updated = some moment → right.updated = some other →
      moment.HasFourDigitYear → other.HasFourDigitYear →
      ((∃ text, WritesTimestamp left text ∧ WritesTimestamp right text) ↔
        moment.instant = other.instant) := by
  obtain ⟨block, kept, hstores, hrecovers, hagain⟩ := exists_stores version hash h
  refine ⟨⟨block, kept, hstores.manifest, hrecovers, hagain, ?_⟩, ?_⟩
  · intro fields monitor hblock hrest
    exact Monitor.ofManifest_of_stores hstores hblock hrest
  · intro left right moment other hleft hright hmoment hother
    exact exists_writesTimestamp_iff hleft hright hmoment hother

/-- A quarter of a second into the first of March, where clocks are almost a day ahead of UTC. -/
def leapDayInUtc : Moment where
  date := ⟨2024, 3, 1⟩
  hour := 0
  minute := 0
  second := 0
  microsecond := 250000
  offset := 1439
  offsetExcess := 59999999

/-- A status from the leap day of UTC is read back in a small manifest. -/
theorem block_reads_back_leapDay :
    leapDayInUtc.HasFourDigitYear ∧
      ∃ block kept, ∃ monitor : Monitor,
        manifest ⟨.text "1.30.0", .text "sha256:new", some leapDayInUtc⟩ = .ok block ∧
        Recovers kept ⟨.text "1.30.0", .text "sha256:new", some leapDayInUtc⟩ ∧
        Monitor.ofManifest (.object [(.text "spec", .ofFields [("image", .text "agent:1")]),
          (.text "status", block)]) = .ok { monitor with status := kept } := by
  have hgood : leapDayInUtc.HasFourDigitYear := ⟨_, rfl, by decide, by decide⟩
  obtain ⟨⟨block, kept, hblock, hrecovers, -, hread⟩, -⟩ :=
    block_reads_back "1.30.0" "sha256:new" (some leapDayInUtc) (fun _ h => by cases h; exact hgood)
  exact ⟨hgood, block, kept, _, hblock, hrecovers, hread _ _ rfl rfl⟩

end MonitorStatus

end MonitorOperator
