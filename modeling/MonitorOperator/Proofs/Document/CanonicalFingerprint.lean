import MonitorOperator.Proofs.Document.CanonicalText
import MonitorOperator.Proofs.Document.LiteralText
import MonitorOperator.Proofs.Document.ReorderedFields
import MonitorOperator.Workload.Fingerprint

/-!
# Fingerprints of documents

A fingerprint is the hash of the bytes of a canonical text, in hexadecimal digits. The digits tell
the hash (`Text.Sha256.hexHash_eq_iff`) and the bytes tell the text (`Text.Utf8.encode_injective`),
so all that a fingerprint can lose is lost by the hash: two JSON documents have one fingerprint
exactly if they are reorderings of each other or their canonical texts collide
(`Document.fingerprint_faithful`).
-/

namespace MonitorOperator

namespace Text

/-- The bytes of a text tell the text. -/
theorem Utf8.encode_injective : Function.Injective Utf8.encode := by
  intro left right h
  have hencoded : ∀ text : String, text.toByteArray = (Utf8.encode text).toByteArray := by
    intro text
    rw [← String.utf8Encode_toList, List.utf8Encode, Utf8.encode]
  rw [← String.toByteArray_inj, hencoded, hencoded, h]

namespace Sha256

/-- The digits of words tell the words. -/
theorem flatMap_hexDigits_injective {words others : List UInt32}
    (h : words.flatMap (fun word => hexDigits 8 word.toNat) =
      others.flatMap fun word => hexDigits 8 word.toNat) : words = others := by
  induction words generalizing others with
  | nil =>
      cases others with
      | nil => rfl
      | cons other others =>
          have hlength := congrArg List.length h
          simp at hlength
          omega
  | cons word words ih =>
      cases others with
      | nil =>
          have hlength := congrArg List.length h
          simp at hlength
      | cons other others =>
          rw [List.flatMap_cons, List.flatMap_cons] at h
          -- A word has eight digits, so the digits of the first words can be told from the rest.
          obtain ⟨hdigits, hrest⟩ := List.append_inj h (by simp)
          have hvalues : word.toNat % 2 ^ 32 = other.toNat % 2 ^ 32 := by
            have hspelled := congrArg ofHexDigits hdigits
            rwa [ofHexDigits_hexDigits, ofHexDigits_hexDigits] at hspelled
          rw [Nat.mod_eq_of_lt word.toNat_lt, Nat.mod_eq_of_lt other.toNat_lt] at hvalues
          rw [UInt32.toNat_inj.1 hvalues, ih hrest]

/-- The hexadecimal digits of a hash tell the hash. -/
theorem hexHash_eq_iff {message other : Utf8.Bytes} :
    hexHash message = hexHash other ↔ hash message = hash other := by
  constructor
  · intro h
    exact flatMap_hexDigits_injective (String.ofList_injective h)
  · intro h
    rw [hexHash, hexHash, h]

/-- The messages are different, and their hashes are not. -/
def Collide (message other : Utf8.Bytes) : Prop :=
  message ≠ other ∧ hash message = hash other

end Sha256

end Text

namespace Document

open Text (Sha256.hexHash Sha256.Collide Utf8.encode)

/-- The fingerprint of JSON is the hash of its canonical text. -/
theorem IsJson.exists_fingerprint {document : Document} (h : document.IsJson) :
    ∃ text, document.canonicalText? = some text ∧
      document.fingerprint = .ok (Sha256.hexHash (Utf8.encode text)) := by
  refine ⟨_, h.canonicalText?_eq, ?_⟩
  rw [fingerprint, h.canonicalText?_eq]

/-- JSON has a canonical text. Two JSON documents have the same one exactly if they are the same up
to the order of fields at any depth, and the same fingerprint exactly if they are so or the bytes of
their canonical texts collide. -/
theorem fingerprint_faithful (left right : Document) (hleft : left.IsJson)
    (hright : right.IsJson) :
    ∃ text other, left.canonicalText? = some text ∧ right.canonicalText? = some other ∧
      (text = other ↔ Reordered left right) ∧
      (∃ fingerprint, left.fingerprint = .ok fingerprint) ∧
      (left.fingerprint = right.fingerprint ↔
        Reordered left right ∨ Sha256.Collide (Utf8.encode text) (Utf8.encode other)) := by
  obtain ⟨text, htext, hfingerprint⟩ := hleft.exists_fingerprint
  obtain ⟨other, hother, hfingerprint'⟩ := hright.exists_fingerprint
  have hsame : text = other ↔ Reordered left right := by
    rw [← hleft.canonicalText?_eq_iff hright, htext, hother, Option.some.injEq]
  refine ⟨text, other, htext, hother, hsame, ⟨_, hfingerprint⟩, ?_⟩
  rw [hfingerprint, hfingerprint', Except.ok.injEq, Text.Sha256.hexHash_eq_iff, ← hsame]
  constructor
  · intro hhash
    by_cases htexts : text = other
    · exact .inl htexts
    · exact .inr ⟨Text.Utf8.encode_injective.ne htexts, hhash⟩
  · rintro (htexts | ⟨-, hhash⟩)
    · rw [htexts]
    · exact hhash

/-- Sorting the fields of an object and of an object in it leaves the fingerprint alone, and another
escaped character moves the canonical text. -/
theorem fingerprint_faithful_nested :
    ∃ left right other : Document, left.IsJson ∧ right.IsJson ∧ other.IsJson ∧
      left = .ofFields [("b", .ofFields [("y", .null), ("x", .text "\x7f")]), ("a", .integer 1)] ∧
      right = .ofFields [("a", .integer 1), ("b", .ofFields [("x", .text "\x7f"), ("y", .null)])] ∧
      other = .ofFields [("a", .integer 1), ("b", .ofFields [("x", .text "\n"), ("y", .null)])] ∧
      left.fingerprint = right.fingerprint ∧ left.canonicalText? ≠ other.canonicalText? := by
  let inner (value : String) : Document := .ofFields [("x", .text value), ("y", .null)]
  let document (value : String) : Document := .ofFields [("a", .integer 1), ("b", inner value)]
  let shuffled : Document :=
    .ofFields [("b", .ofFields [("y", .null), ("x", .text "\x7f")]), ("a", .integer 1)]
  have hdocument : ∀ value, (document value).IsJson := by
    intro value
    simp [document, inner, Scalar.IsJson]
  have hshuffled : shuffled.IsJson := by simp [shuffled, Scalar.IsJson]
  have hinner : Reordered (.ofFields [("y", .null), ("x", .text "\x7f")]) (inner "\x7f") :=
    reordered_ofFields_iff.2
      ⟨_, _, rfl, .swap _ _ _, .cons ⟨rfl, .refl _⟩ (.cons ⟨rfl, .refl _⟩ .nil)⟩
  have hsame : Reordered shuffled (document "\x7f") :=
    reordered_ofFields_iff.2
      ⟨_, _, rfl, .swap _ _ _, .cons ⟨rfl, .refl _⟩ (.cons ⟨rfl, hinner⟩ .nil)⟩
  have hdiffers : ¬ Reordered shuffled (document "\n") := by
    intro h
    have hfields := (reordered_ofFields_iff_get? (by simp) (by simp)).1 h "b"
    simp only [Keyed.get?_cons, ↓reduceIte, String.reduceEq, Option.rel_some_some] at hfields
    have hvalues := (reordered_ofFields_iff_get? (by simp) (by simp)).1 hfields "x"
    simp [Keyed.get?_cons] at hvalues
  obtain ⟨_, _, -, -, -, -, hfingerprints⟩ :=
    fingerprint_faithful shuffled (document "\x7f") hshuffled (hdocument _)
  obtain ⟨text, other, htext, hother, htexts, -, -⟩ :=
    fingerprint_faithful shuffled (document "\n") hshuffled (hdocument _)
  refine ⟨shuffled, document "\x7f", document "\n", hshuffled, hdocument _, hdocument _, rfl, rfl,
    rfl, hfingerprints.2 (.inl hsame), ?_⟩
  rw [htext, hother, ne_eq, Option.some.injEq, htexts]
  exact hdiffers

end Document

end MonitorOperator
