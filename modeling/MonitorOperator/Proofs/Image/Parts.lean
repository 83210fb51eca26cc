import Mathlib.Data.List.TakeWhile
import MonitorOperator.Image

/-!
# The parts of a reference

A reference is written as a registry, a name, a tag and a digest, of which all but the name may be
left out. Every text is written so, with parts that keep the marks between them apart
(`ReferenceParts.exists_readable`), and these parts are what is read from it
(`ReferenceParts.Readable.parse?_text`). So what is read from any text is known from its parts
alone.
-/

namespace MonitorOperator

namespace ImageReference

section Cuts

variable {mark : Char} {characters before after front rest : List Char}

/-- What stands before the first occurrence of a character, and what follows it, one character at a
time. -/
theorem cutFirst_cons (mark first : Char) (rest : List Char) :
    cutFirst mark (first :: rest) =
      if mark = first then ([], some rest)
      else (first :: (cutFirst mark rest).1, (cutFirst mark rest).2) := by
  have hcut : Text.cutAt [mark] (first :: rest) =
      if mark = first then some ([], rest)
      else (Text.cutAt [mark] rest).map fun cut => (first :: cut.1, cut.2) := by
    by_cases h : mark = first
    · simp [Text.cutAt, Text.dropPattern?, h]
    · simp [Text.cutAt, Text.dropPattern?, h]
  unfold cutFirst
  rw [hcut]
  by_cases h : mark = first
  · rw [if_pos h, if_pos h]
  · rw [if_neg h, if_neg h]
    cases Text.cutAt [mark] rest <;> rfl

/-- What comes first and does not hold the character stays in front of the cut. -/
theorem cutFirst_append (h : mark ∉ front) (rest : List Char) :
    cutFirst mark (front ++ rest) =
      (front ++ (cutFirst mark rest).1, (cutFirst mark rest).2) := by
  induction front with
  | nil => rfl
  | cons first front ih =>
      rw [List.mem_cons, not_or] at h
      rw [List.cons_append, cutFirst_cons, if_neg h.1, ih h.2]
      rfl

/-- What does not hold the character is not cut. -/
theorem cutFirst_of_notMem (h : mark ∉ characters) :
    cutFirst mark characters = (characters, none) := by
  have hcut := cutFirst_append h []
  rw [List.append_nil] at hcut
  rw [hcut]
  simp [cutFirst, Text.cutAt, Text.dropPattern?]

/-- A text is cut where the character comes first. -/
theorem cutFirst_append_mark (h : mark ∉ front) (rest : List Char) :
    cutFirst mark (front ++ mark :: rest) = (front, some rest) := by
  rw [cutFirst_append h, cutFirst_cons, if_pos rfl, List.append_nil]

/-- The name has no tag: its last component has no colon. -/
def Untagged (name : List Char) : Prop :=
  ∀ before after, name = before ++ ':' :: after → '/' ∈ after

/-- A tag is cut off a name. -/
theorem cutTag_append_mark {name tag : List Char} (hcolon : ':' ∉ tag) (hslash : '/' ∉ tag) :
    cutTag (name ++ ':' :: tag) = (name, some tag) := by
  have hmarks : ∀ character ∈ tag.reverse,
      (!(character == ':' || character == '/')) = true := by
    intro character hmem
    have hmem := List.mem_reverse.1 hmem
    have hne : character ≠ ':' ∧ character ≠ '/' :=
      ⟨fun heq => hcolon (heq ▸ hmem), fun heq => hslash (heq ▸ hmem)⟩
    simp [hne.1, hne.2]
  unfold cutTag
  simp only [List.reverse_append, List.reverse_cons, List.append_assoc, List.cons_append,
    List.nil_append]
  rw [List.dropWhile_append_of_pos hmarks, List.takeWhile_append_of_pos hmarks]
  simp

/-- A name without a tag is not cut. -/
theorem cutTag_of_untagged {name : List Char} (h : Untagged name) : cutTag name = (name, none) := by
  unfold cutTag
  dsimp only
  split
  · next rest hrest =>
      -- The colon that was found would have no slash after it.
      have hsplit := List.takeWhile_append_dropWhile
        (p := fun character => !(character == ':' || character == '/')) (l := name.reverse)
      rw [hrest] at hsplit
      have hname := congrArg List.reverse hsplit
      rw [List.reverse_reverse, List.reverse_append, List.reverse_cons, List.append_assoc] at hname
      have hslash := h _ _ hname.symm
      have hmark := List.mem_takeWhile_imp (List.mem_reverse.1 hslash)
      simp at hmark
  · rfl

/-- A name has a tag, or none. -/
theorem untagged_or_tagged (name : List Char) :
    Untagged name ∨ ∃ own tag, name = own ++ ':' :: tag ∧ ':' ∉ tag ∧ '/' ∉ tag := by
  by_cases h : Untagged name
  · exact .inl h
  · simp only [Untagged, not_forall] at h
    obtain ⟨before, after, rfl, hslash⟩ := h
    -- The tag follows the last colon, which is the first one backwards.
    have hmem : ':' ∈ (':' :: after).reverse := by
      simp
    obtain ⟨tag, own, hsplit, hcolon⟩ := List.eq_append_cons_of_mem hmem
    have hafter : ':' :: after = own.reverse ++ ':' :: tag.reverse := by
      simpa using congrArg List.reverse hsplit
    refine .inr ⟨before ++ own.reverse, tag.reverse, ?_, by simpa using hcolon, ?_⟩
    · rw [hafter, List.append_assoc]
    · intro htag
      have hback : '/' ∈ ':' :: after := by
        rw [hafter]
        simp [List.mem_reverse.1 htag]
      rcases List.mem_cons.1 hback with heq | hlater
      · exact absurd heq (by decide)
      · exact hslash hlater

/-- What comes before the last component of a name does not matter for its tag. -/
theorem Untagged.append {last : List Char} (h : Untagged last) (front : List Char) :
    Untagged (front ++ '/' :: last) := by
  intro before after hsplit
  rcases List.append_eq_append_iff.1 hsplit with ⟨middle, _, hlast⟩ | ⟨middle, _, hafter⟩
  · cases middle with
    | nil => exact absurd (List.cons.inj hlast).1 (by decide)
    | cons slash middle => exact h middle after (List.cons.inj hlast).2
  · cases middle with
    | nil => exact absurd (List.cons.inj hafter).1 (by decide)
    | cons colon middle =>
        rw [(List.cons.inj hafter).2]
        simp

/-- A name of one component is in the library of the default registry. -/
theorem locate_of_notMem {name : List Char} (h : '/' ∉ name) :
    locate name = (defaultRegistry.toList, "library/".toList ++ name) := by
  unfold locate
  rw [cutFirst_of_notMem h]

/-- A name of several components is in the registry that comes first, or in the default one. -/
theorem locate_append_mark (h : '/' ∉ front) (rest : List Char) :
    locate (front ++ '/' :: rest) =
      if isRegistry front then (front, rest)
      else (defaultRegistry.toList, front ++ '/' :: rest) := by
  unfold locate
  rw [cutFirst_append_mark h]

end Cuts

end ImageReference

/-- The parts that a reference is written with. -/
structure ReferenceParts where
  registry : Option String := none
  name : String
  tag : Option String := none
  digest : Option String := none
  deriving DecidableEq, Repr

namespace ReferenceParts

open ImageReference

/-- A part after its mark, or nothing. -/
def marked (mark : String) : Option String → String
  | some part => mark ++ part
  | none => ""

/-- What a reference is written as before its tag and digest. -/
def place (parts : ReferenceParts) : String :=
  match parts.registry with
  | some registry => registry ++ "/" ++ parts.name
  | none => parts.name

/-- What a reference is written as. -/
def text (parts : ReferenceParts) : String :=
  parts.place ++ marked ":" parts.tag ++ marked "@" parts.digest

/-- The image that a reference names: without a registry, it is in the default one, and there in the
library if its name has one component. -/
def image (parts : ReferenceParts) : ImageReference where
  registry := parts.registry.getD defaultRegistry
  repository :=
    if parts.registry = none ∧ '/' ∉ parts.name.toList then "library/" ++ parts.name else parts.name
  tag := if parts.tag.isNone && parts.digest.isNone then some defaultTag else parts.tag
  digest := parts.digest

/-- Each part of a reference is told from the next by the mark between them. -/
structure Readable (parts : ReferenceParts) : Prop where
  /-- The registry is known as one. -/
  registry : ∀ registry, parts.registry = some registry →
    isRegistry registry.toList = true ∧ '/' ∉ registry.toList
  /-- Without a registry, the name begins with none. -/
  unnamed : parts.registry = none → ∀ first rest, parts.name.toList = first ++ '/' :: rest →
    '/' ∉ first → isRegistry first = false
  /-- The tag is a tag to its end. -/
  tag : ∀ tag, parts.tag = some tag → ':' ∉ tag.toList ∧ '/' ∉ tag.toList
  /-- Without a tag, there is nothing that could be one. -/
  untagged : parts.tag = none → Untagged parts.place.toList
  /-- The digest begins at the first at sign. -/
  digest : '@' ∉ (parts.place ++ marked ":" parts.tag).toList

/-- A registry was named, but nothing in it. -/
def Nameless (parts : ReferenceParts) : Prop :=
  parts.registry ≠ none ∧ parts.name = ""

instance (parts : ReferenceParts) : Decidable parts.Nameless :=
  inferInstanceAs (Decidable (_ ∧ _))

section Reading

variable {parts : ReferenceParts}

/-- The digest is cut off a reference. -/
theorem Readable.cutFirst_text (h : parts.Readable) :
    cutFirst '@' parts.text.toList =
      ((parts.place ++ marked ":" parts.tag).toList, parts.digest.map String.toList) := by
  unfold text
  rw [String.toList_append]
  cases parts.digest with
  | none => simpa [marked] using cutFirst_of_notMem h.digest
  | some digest => simpa [marked] using cutFirst_append_mark h.digest digest.toList

/-- The tag is cut off what comes before the digest. -/
theorem Readable.cutTag_place (h : parts.Readable) :
    cutTag (parts.place ++ marked ":" parts.tag).toList =
      (parts.place.toList, parts.tag.map String.toList) := by
  rw [String.toList_append]
  cases htag : parts.tag with
  | none => simpa [marked] using cutTag_of_untagged (h.untagged htag)
  | some tag =>
      have hmarks := h.tag tag htag
      simpa [marked] using cutTag_append_mark hmarks.1 hmarks.2

/-- The image is located by what comes before the tag. -/
theorem Readable.locate_place (h : parts.Readable) :
    locate parts.place.toList =
      (parts.image.registry.toList, parts.image.repository.toList) := by
  unfold place image
  cases hregistry : parts.registry with
  | none =>
      by_cases hslash : '/' ∈ parts.name.toList
      · obtain ⟨first, rest, hname, hfirst⟩ := List.eq_append_cons_of_mem hslash
        have hnone := h.unnamed hregistry first rest hname hfirst
        simp [hname, locate_append_mark hfirst, hnone]
      · simp [hslash, locate_of_notMem hslash]
  | some registry =>
      obtain ⟨hknown, hfirst⟩ := h.registry registry hregistry
      simp [locate_append_mark hfirst, hknown]

/-- Only a registry without a name gives an empty repository. -/
theorem repository_eq_empty_iff : parts.image.repository = "" ↔ parts.Nameless := by
  unfold image Nameless
  by_cases hregistry : parts.registry = none
  · by_cases hslash : '/' ∈ parts.name.toList
    · have hname : parts.name ≠ "" := by
        intro hempty
        rw [hempty] at hslash
        exact absurd hslash (by decide)
      simp [hregistry, hslash, hname]
    · simp [hregistry, hslash]
  · simp [hregistry]

/-- The parts of a reference are read, if its name is there. -/
theorem Readable.ofCharacters?_text (h : parts.Readable) :
    ofCharacters? parts.text.toList = if parts.Nameless then none else some parts.image := by
  unfold ofCharacters?
  simp only [h.cutFirst_text, h.cutTag_place, h.locate_place]
  by_cases hnameless : parts.Nameless
  · have hempty := repository_eq_empty_iff.2 hnameless
    simp [hempty, hnameless]
  · have hempty : parts.image.repository ≠ "" :=
      fun heq => hnameless (repository_eq_empty_iff.1 heq)
    simp only [List.isEmpty_iff, String.toList_eq_nil_iff, hempty, hnameless, if_false,
      String.ofList_toList, Option.some.injEq]
    unfold image
    cases parts.tag <;> cases parts.digest <;> simp

/-- What is read from a reference: its parts, unless it is empty, has blanks around it, or names a
registry and nothing in it. -/
theorem Readable.parse?_text (h : parts.Readable) :
    parse? parts.text =
      if parts.text = "" ∨ Text.trim parts.text ≠ parts.text ∨ parts.Nameless then none
      else some parts.image := by
  unfold parse?
  rw [h.ofCharacters?_text]
  by_cases hempty : parts.text = ""
  · simp [hempty]
  · by_cases htrim : Text.trim parts.text = parts.text <;> simp [hempty, htrim]

/-- A reference is read as the image of its parts if it is not empty, has no blanks around it and
does not lack a name. -/
theorem Readable.parse?_eq_some_iff (h : parts.Readable) {image : ImageReference} :
    parse? parts.text = some image ↔
      (parts.text ≠ "" ∧ Text.trim parts.text = parts.text ∧ ¬ parts.Nameless) ∧
        parts.image = image := by
  rw [h.parse?_text]
  split
  · next hrejected =>
      refine ⟨nofun, fun haccepted => ?_⟩
      obtain ⟨⟨hne, htrim, hname⟩, _⟩ := haccepted
      exact absurd hrejected (by simp [hne, htrim, hname])
  · next haccepted =>
      simp only [not_or, not_not] at haccepted
      rw [Option.some.injEq, and_iff_right haccepted]

/-- The registry of a reference comes before its digest. -/
theorem Readable.notMem_registry (h : parts.Readable) {registry : String}
    (hregistry : parts.registry = some registry) : '@' ∉ registry.toList := by
  have hdigest := h.digest
  simp only [place, hregistry, String.toList_append, List.mem_append, not_or] at hdigest
  exact hdigest.1.1.1

/-- What comes before the tag of a reference is a name, with a registry or none. -/
theorem exists_place (text : String) : ∃ registry name,
    (∀ known, registry = some known → isRegistry known.toList = true ∧ '/' ∉ known.toList) ∧
      (registry = none → ∀ first rest, name.toList = first ++ '/' :: rest → '/' ∉ first →
        isRegistry first = false) ∧
      ∀ tag digest, place ⟨registry, name, tag, digest⟩ = text := by
  by_cases hslash : '/' ∈ text.toList
  · obtain ⟨first, rest, htext, hfirst⟩ := List.eq_append_cons_of_mem hslash
    by_cases hknown : isRegistry first = true
    · refine ⟨some (String.ofList first), String.ofList rest, ?_, nofun, fun _ _ => ?_⟩
      · rintro _ ⟨⟩
        simpa using ⟨hknown, hfirst⟩
      · rw [← String.toList_inj]
        simp [place, htext]
    · refine ⟨none, text, nofun, fun _ other others hother hnone => ?_, fun _ _ => rfl⟩
      -- There is one first component only.
      have hcut := cutFirst_append_mark hfirst rest
      rw [← htext, hother, cutFirst_append_mark hnone] at hcut
      rw [(Prod.mk.inj hcut).1]
      simpa using hknown
  · refine ⟨none, text, nofun, fun _ first rest htext _ => ?_, fun _ _ => rfl⟩
    rw [htext] at hslash
    simp at hslash

/-- Every text is a reference with parts that are told apart. -/
theorem exists_readable (text : String) :
    ∃ parts : ReferenceParts, parts.Readable ∧ parts.text = text := by
  -- From the end of the text on, the digest is found, then the tag, then the registry.
  obtain ⟨front, digest, hdigest, hfront⟩ : ∃ front digest,
      text = front ++ marked "@" digest ∧ '@' ∉ front.toList := by
    by_cases hmark : '@' ∈ text.toList
    · obtain ⟨front, digest, htext, hfront⟩ := List.eq_append_cons_of_mem hmark
      refine ⟨String.ofList front, some (String.ofList digest), ?_, by simpa using hfront⟩
      rw [← String.toList_inj]
      simp [marked, htext]
    · exact ⟨text, none, by simp [marked], hmark⟩
  obtain ⟨own, tag, htag, huntagged, hmarks⟩ : ∃ own tag, front = own ++ marked ":" tag ∧
      (tag = none → Untagged own.toList) ∧
      ∀ found, tag = some found → ':' ∉ found.toList ∧ '/' ∉ found.toList := by
    rcases untagged_or_tagged front.toList with huntagged | ⟨own, tag, hsplit, hcolon, hslash⟩
    · exact ⟨front, none, by simp [marked], fun _ => huntagged, nofun⟩
    · refine ⟨String.ofList own, some (String.ofList tag), ?_, nofun, ?_⟩
      · rw [← String.toList_inj]
        simp [marked, hsplit]
      · rintro _ ⟨⟩
        simpa using ⟨hcolon, hslash⟩
  obtain ⟨registry, name, hregistry, hunnamed, hplace⟩ := exists_place own
  have hown := hplace tag digest
  refine ⟨⟨registry, name, tag, digest⟩, ⟨hregistry, hunnamed, hmarks, ?_, ?_⟩, ?_⟩
  · rw [hown]
    exact huntagged
  · rw [hown]
    exact htag ▸ hfront
  · unfold ReferenceParts.text
    rw [hown, hdigest, htag]

end Reading

end ReferenceParts

end MonitorOperator
