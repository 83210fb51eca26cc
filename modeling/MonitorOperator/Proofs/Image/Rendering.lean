import MonitorOperator.Proofs.Image.Reading

/-!
# References written out

An image is written out in full with its registry and repository, and with the tag and the digest
that it has (`ImageReference.fullText`). The registry is then recognised as one, because it was read
as one or is the default one, and the tag and digest are found where they were found before. So
whatever reference an image was read from, it is read again from the image written out
(`ImageReference.reads_written_out`).
-/

namespace MonitorOperator

namespace ImageReference

/-- The parts of an image that is written out in full. -/
def fullParts (image : ImageReference) : ReferenceParts where
  registry := some image.registry
  name := image.repository
  tag := image.tag
  digest := image.digest

/-- An image written out in full: its registry and repository, then the tag after a colon and the
digest after an at sign, if there are any. -/
def fullText (image : ImageReference) : String :=
  image.registry ++ "/" ++ image.repository ++ ReferenceParts.marked ":" image.tag ++
    ReferenceParts.marked "@" image.digest

/-- An image is written out with its parts. -/
theorem text_fullParts (image : ImageReference) : image.fullParts.text = image.fullText := rfl

end ImageReference

namespace ReferenceParts

open ImageReference

/-- What a reference lacks before its name. -/
def missingFront (parts : ReferenceParts) : String :=
  if parts.registry ≠ none then ""
  else if '/' ∈ parts.name.toList then "docker.io" ++ "/"
  else "docker.io/library" ++ "/"

/-- What a reference lacks at its end. -/
def missingBack (parts : ReferenceParts) : String :=
  if parts.tag = none ∧ parts.digest = none then ":latest" else ""

variable {parts : ReferenceParts}

/-- What a reference lacks before its name is whole components. -/
theorem missingFront_cases (parts : ReferenceParts) :
    parts.missingFront = "" ∨ ∃ front, parts.missingFront = front ++ "/" ∧ '@' ∉ front.toList ∧
      ∃ first rest, front.toList = first :: rest ∧ Text.isBlank first = false := by
  unfold missingFront
  split
  · exact .inl rfl
  split
  · exact .inr ⟨"docker.io", rfl, by decide, 'd', _, rfl, by decide⟩
  · exact .inr ⟨"docker.io/library", rfl, by decide, 'd', _, rfl, by decide⟩

/-- An image is written out with what its reference lacks before the name. -/
theorem place_fullParts_image :
    parts.image.fullParts.place = parts.missingFront ++ parts.place := by
  unfold place fullParts image missingFront
  cases hregistry : parts.registry with
  | some registry => simp
  | none =>
      by_cases hslash : '/' ∈ parts.name.toList
      · simp [hslash, defaultRegistry]
      · simp only [hslash, not_false_eq_true, and_self, if_true, if_false, Option.getD_none,
          ne_eq, not_true_eq_false, defaultRegistry]
        rw [← String.toList_inj]
        simp

/-- The tag of an image is that of its reference, unless this has neither tag nor digest. -/
theorem tag_image_cases (parts : ReferenceParts) :
    (parts.tag = none ∧ parts.digest = none ∧ parts.image.tag = some "latest") ∨
      (¬ (parts.tag = none ∧ parts.digest = none) ∧ parts.image.tag = parts.tag) := by
  unfold image
  cases parts.tag <;> cases parts.digest <;> simp [defaultTag]

/-- An image is written out with what its reference lacks at both ends. -/
theorem fullText_image :
    parts.image.fullText = parts.missingFront ++ parts.text ++ parts.missingBack := by
  have hend : marked ":" parts.image.tag ++ marked "@" parts.digest =
      marked ":" parts.tag ++ marked "@" parts.digest ++ parts.missingBack := by
    unfold missingBack
    rcases parts.tag_image_cases with ⟨htag, hdigest, hlatest⟩ | ⟨hend, htag⟩
    · simp [htag, hdigest, hlatest, marked]
    · rw [if_neg hend, htag, String.append_empty]
  calc parts.image.fullText
      = parts.image.fullParts.place ++ (marked ":" parts.image.tag ++ marked "@" parts.digest) :=
        String.append_assoc
    _ = parts.missingFront ++ parts.text ++ parts.missingBack := by
        rw [place_fullParts_image, hend]
        simp only [text, String.append_assoc]

/-- The parts of an image that is written out are told apart. -/
theorem Readable.fullParts_image (h : parts.Readable) : parts.image.fullParts.Readable where
  registry := by
    rintro _ ⟨⟩
    change isRegistry (parts.registry.getD defaultRegistry).toList = true ∧
      '/' ∉ (parts.registry.getD defaultRegistry).toList
    cases hregistry : parts.registry with
    | none => decide
    | some registry => exact h.registry registry hregistry
  unnamed := nofun
  tag := by
    intro tag htag
    change parts.image.tag = some tag at htag
    rcases parts.tag_image_cases with ⟨_, _, hlatest⟩ | ⟨_, hown⟩
    · cases hlatest.symm.trans htag
      decide
    · exact h.tag tag (hown.symm.trans htag)
  untagged := by
    intro htag
    change parts.image.tag = none at htag
    have huntagged : Untagged parts.place.toList := by
      rcases parts.tag_image_cases with ⟨_, _, hlatest⟩ | ⟨_, hown⟩
      · cases hlatest.symm.trans htag
      · exact h.untagged (hown.symm.trans htag)
    rw [place_fullParts_image]
    rcases parts.missingFront_cases with hfront | ⟨front, hfront, _⟩
    · simpa [hfront] using huntagged
    · simpa [hfront] using huntagged.append front.toList
  digest := by
    have hdigest := h.digest
    rw [String.toList_append, List.mem_append, not_or] at hdigest ⊢
    constructor
    · rw [place_fullParts_image]
      rcases parts.missingFront_cases with hfront | ⟨front, hfront, hat, _⟩
      · simpa [hfront] using hdigest.1
      · simpa [hfront, hat] using hdigest.1
    · change '@' ∉ (marked ":" parts.image.tag).toList
      rcases parts.tag_image_cases with ⟨_, _, hlatest⟩ | ⟨_, hown⟩
      · rw [hlatest]
        decide
      · rw [hown]
        exact hdigest.2

/-- With a tag or a digest, the parts of an image that is written out are those of the image. -/
theorem image_fullParts {image : ImageReference} (h : ¬ (image.tag = none ∧ image.digest = none)) :
    image.fullParts.image = image := by
  obtain ⟨registry, repository, tag, digest⟩ := image
  unfold fullParts ReferenceParts.image
  cases tag <;> cases digest <;> simp at h ⊢

/-- The image of a reference has a tag or a digest. -/
theorem tagged_image (parts : ReferenceParts) :
    ¬ (parts.image.tag = none ∧ parts.image.digest = none) := by
  rcases parts.tag_image_cases with ⟨_, _, hlatest⟩ | ⟨hend, hown⟩
  · simp [hlatest]
  · rwa [hown]

/-- There are no blanks around an image that is written out. -/
theorem trim_fullText_image (h : Text.trim parts.text = parts.text) (hne : parts.text ≠ "") :
    Text.trim parts.image.fullText = parts.image.fullText := by
  have hfront : Text.trim (parts.missingFront ++ parts.text) = parts.missingFront ++ parts.text := by
    rcases parts.missingFront_cases with hfront | ⟨front, hfront, _, first, rest, hfirst, hblank⟩
    · simpa [hfront] using h
    · have hlist : parts.missingFront.toList = first :: (rest ++ ['/']) := by
        simp [hfront, hfirst]
      exact Text.trim_append hlist hblank h hne
  rw [fullText_image]
  by_cases hback : parts.tag = none ∧ parts.digest = none
  · have hlatest : parts.missingBack.toList = ":lates".toList ++ ['t'] := by
      simp [missingBack, hback]
    exact Text.trim_append_back hlatest (by decide) hfront (by simp [hne])
  · simpa [missingBack, hback] using hfront

end ReferenceParts

namespace ImageReference

/-- The image that is read from a reference is read again when it is written out in full. -/
theorem reads_written_out {text : String} {image : ImageReference} (h : parse? text = some image) :
    parse? image.fullText = some image := by
  obtain ⟨parts, hreadable, rfl⟩ := ReferenceParts.exists_readable text
  obtain ⟨⟨hne, htrim, hname⟩, rfl⟩ := hreadable.parse?_eq_some_iff.1 h
  have hrepository : parts.image.repository ≠ "" := fun hempty =>
    hname (ReferenceParts.repository_eq_empty_iff.1 hempty)
  rw [← text_fullParts]
  refine hreadable.fullParts_image.parse?_eq_some_iff.2 ⟨⟨?_, ?_, ?_⟩, ?_⟩
  · exact ReferenceParts.text_ne_empty hrepository
  · rw [text_fullParts]
    exact ReferenceParts.trim_fullText_image htrim hne
  · exact fun hnameless => hrepository hnameless.2
  · exact ReferenceParts.image_fullParts parts.tagged_image

/-- A reference with two colons in its name and two at signs is read again. -/
theorem reads_written_out_marks :
    parse? "a:b:c@d@e" = some ⟨"docker.io", "library/a:b", some "c", some "d@e"⟩ ∧
      parse? "docker.io/library/a:b:c@d@e" =
        some ⟨"docker.io", "library/a:b", some "c", some "d@e"⟩ := by
  have h : parse? "a:b:c@d@e" = some ⟨"docker.io", "library/a:b", some "c", some "d@e"⟩ := by
    decide
  exact ⟨h, reads_written_out h⟩

end ImageReference

end MonitorOperator
