import MonitorOperator.Document.Reader
import MonitorOperator.Proofs.Process.Contract

/-!
# The faults of reading JSON

Bytes that cannot be read as a document are no JSON, are not well-formed in their encoding, have an
integer of too many digits, or are nested too deeply (`Document.readBytes_faultsIn`). The first three
are faults of an invalid value; only the last is not.
-/

namespace MonitorOperator.Document

/-- The faults of reading a document. -/
def Unreadable (fault : Fault) : Prop :=
  fault.kind = .tooDeep ∨ fault.kind.isInvalidValue = true

/-- What is not JSON cannot be read. -/
theorem unreadable_malformed : Unreadable malformed :=
  .inr rfl

/-- What is nested too deeply cannot be read. -/
theorem unreadable_tooDeep : Unreadable (.lower .tooDeep) :=
  .inl rfl

/-- A string can be read with a character in front if it can be read. -/
theorem prepend_faultsIn {character : Char} {read : Except Fault (List Char × List Char)}
    (h : FaultsIn Unreadable read) : FaultsIn Unreadable (prepend character read) :=
  h.map

/-- The faults of reading a string. -/
theorem readString_faultsIn (high : Option Nat) (characters : List Char) :
    FaultsIn Unreadable (readString high characters) := by
  have hplain {character : Char} {rest : List Char}
      (hrest : FaultsIn Unreadable (readString none rest)) :
      FaultsIn Unreadable
        (if character = Text.quotationMark then .ok ([], rest)
        else if character = Text.backslash || character.toNat < 0x20 then .error malformed
        else prepend character (readString none rest)) := by
    split
    · exact .ok _
    split
    · exact FaultsIn.error_iff.2 unreadable_malformed
    · exact prepend_faultsIn hrest
  -- A string ends early in the first group of cases, and goes on after one or two characters in all
  -- the others.
  fun_induction readString high characters with
  | case1 | case2 | case9 | case11 => exact FaultsIn.error_iff.2 unreadable_malformed
  | case3 _ _ _ _ _ _ _ _ _ ih | case4 _ _ _ _ _ _ _ _ _ _ ih | case7 _ _ _ _ _ _ _ _ ih
  | case10 _ _ _ _ _ ih => exact prepend_faultsIn ih
  | case5 _ _ _ _ _ _ _ _ _ _ ih | case8 _ _ _ _ _ _ ih =>
      exact prepend_faultsIn (prepend_faultsIn ih)
  | case6 _ _ _ _ _ _ _ _ ih => exact ih
  | case12 _ _ _ _ _ _ _ ih => exact prepend_faultsIn (hplain ih)
  | case13 _ _ _ _ _ _ ih => exact hplain ih

/-- The faults of reading a number. -/
theorem readNumber_faultsIn (negative : Bool) (characters : List Char) :
    FaultsIn Unreadable (readNumber negative characters) := by
  have hread {isInteger isLong : Prop} [Decidable isInteger] [Decidable isLong] {count : Nat}
      {whole real : Document × List Char} :
      FaultsIn Unreadable
        (if isInteger then
          if isLong then do
            throw (.value (.tooManyDigits count))
            pure whole
          else pure whole
        else pure real) := by
    split
    · split
      · exact FaultsIn.error_bind_iff.2 (.inr rfl)
      · exact .pure _
    · exact .pure _
  unfold readNumber
  dsimp only
  split
  · exact hread
  · split
    · exact FaultsIn.error_bind_iff.2 unreadable_malformed
    · exact hread

section Nested

variable {fuel : Nat}

/-- The faults of reading a value, if those of reading what is nested in it are known. -/
theorem readValue_faultsIn
    (hitems : ∀ depth characters, FaultsIn Unreadable (readItems fuel depth characters))
    (hfields : ∀ depth characters, FaultsIn Unreadable (readFields fuel depth characters))
    (depth : Nat) (characters : List Char) :
    FaultsIn Unreadable (readValue (fuel + 1) depth characters) := by
  unfold readValue
  split
  · exact FaultsIn.error_iff.2 unreadable_malformed
  · split
    · exact FaultsIn.error_iff.2 unreadable_tooDeep
    split
    · exact .ok _
    · exact (hitems _ _).bind fun _ _ => .pure _
  · split
    · exact FaultsIn.error_iff.2 unreadable_tooDeep
    split
    · exact .ok _
    · exact (hfields _ _).bind fun _ _ => .pure _
  · split
    · exact (readString_faultsIn _ _).bind fun _ _ => .pure _
    split
    · exact .ok _
    split <;> exact readNumber_faultsIn _ _

/-- The faults of reading items, if those of reading an item and the items after it are known. -/
theorem readItems_faultsIn
    (hvalue : ∀ depth characters, FaultsIn Unreadable (readValue fuel depth characters))
    (hitems : ∀ depth characters, FaultsIn Unreadable (readItems fuel depth characters))
    (depth : Nat) (characters : List Char) :
    FaultsIn Unreadable (readItems (fuel + 1) depth characters) := by
  unfold readItems
  refine (hvalue _ _).bind fun (item, rest) _ => ?_
  dsimp only
  split
  · exact .pure _
  · exact (hitems _ _).bind fun _ _ => .pure _
  · exact FaultsIn.throw_iff.2 unreadable_malformed

/-- The faults of reading fields, if those of reading a value and the fields after it are known. -/
theorem readFields_faultsIn
    (hvalue : ∀ depth characters, FaultsIn Unreadable (readValue fuel depth characters))
    (hfields : ∀ depth characters, FaultsIn Unreadable (readFields fuel depth characters))
    (depth : Nat) (characters : List Char) :
    FaultsIn Unreadable (readFields (fuel + 1) depth characters) := by
  unfold readFields
  split
  · exact FaultsIn.error_iff.2 unreadable_malformed
  split
  · refine (readString_faultsIn _ _).bind fun (key, rest) _ => ?_
    dsimp only
    split
    · refine (hvalue _ _).bind fun (value, rest) _ => ?_
      dsimp only
      split
      · exact .pure _
      · exact (hfields _ _).bind fun _ _ => .pure _
      · exact FaultsIn.throw_iff.2 unreadable_malformed
    · exact FaultsIn.throw_iff.2 unreadable_malformed
  · exact FaultsIn.error_iff.2 unreadable_malformed

end Nested

/-- The faults of reading a value, the items of a list or the fields of an object. -/
theorem read_faultsIn (fuel : Nat) :
    (∀ depth characters, FaultsIn Unreadable (readValue fuel depth characters)) ∧
      (∀ depth characters, FaultsIn Unreadable (readItems fuel depth characters)) ∧
      ∀ depth characters, FaultsIn Unreadable (readFields fuel depth characters) := by
  -- Each of the three reads the others with less fuel, so they share the induction.
  induction fuel with
  | zero =>
      refine ⟨fun _ _ => ?_, fun _ _ => ?_, fun _ _ => ?_⟩ <;>
        exact FaultsIn.error_iff.2 unreadable_malformed
  | succ fuel ih =>
      obtain ⟨hvalue, hitems, hfields⟩ := ih
      exact ⟨readValue_faultsIn hitems hfields, readItems_faultsIn hvalue hitems,
        readFields_faultsIn hvalue hfields⟩

/-- The faults of reading a document from characters. -/
theorem readCharacters_faultsIn (characters : List Char) :
    FaultsIn Unreadable (readCharacters characters) := by
  refine ((read_faultsIn _).1 _ _).bind fun (document, rest) _ => ?_
  dsimp only
  split
  · exact .pure _
  · exact FaultsIn.throw_iff.2 unreadable_malformed

/-- The faults of reading a document from bytes. -/
theorem readBytes_faultsIn (bytes : Text.Utf8.Bytes) :
    FaultsIn Unreadable (readBytes bytes) := by
  unfold readBytes
  split
  · exact readCharacters_faultsIn _
  · exact FaultsIn.error_iff.2 (.inr rfl)

end MonitorOperator.Document
