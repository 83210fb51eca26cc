import Mathlib.Data.List.DropRight
import MonitorOperator.Proofs.Image.Parts

/-!
# Reading references

What a reference means. One that is assembled from well-formed parts names the image that these
describe (`reads_assembled`).

Two things may surprise. Naming the default registry explicitly changes nothing for a name of
several components, but a name of one component is then not sought in the library
(`reads_explicit_default`). And a reference may lack its name, its tag or its digest: it is rejected
only if it is empty, has blanks around it, or names a registry and nothing in it
(`reads_missing_parts`).
-/

namespace MonitorOperator

namespace Text

variable {test : Char → Bool} {characters front back : List Char}

/-- A list is trimmed from its left end, then from its right one. -/
theorem trimWhere_eq_rdropWhile (test : Char → Bool) (characters : List Char) :
    trimWhere test characters = (characters.dropWhile test).rdropWhile test := rfl

/-- Nothing is trimmed where nothing passes the test. -/
theorem trimWhere_of_forall (h : ∀ character ∈ characters, test character = false) :
    trimWhere test characters = characters := by
  have hleft : characters.dropWhile test = characters :=
    List.dropWhile_eq_self_iff.2 fun _ => by simp [h _ (List.getElem_mem _)]
  rw [trimWhere_eq_rdropWhile, hleft, List.rdropWhile_eq_self_iff]
  intro hne
  simp [h _ (List.getLast_mem hne)]

/-- Nothing is trimmed of a list just if its two ends are kept. -/
theorem trimWhere_eq_self_iff (hne : characters ≠ []) :
    trimWhere test characters = characters ↔
      test (characters.head hne) = false ∧ test (characters.getLast hne) = false := by
  constructor
  · intro h
    rw [trimWhere_eq_rdropWhile] at h
    have hleft : characters.dropWhile test = characters := by
      refine (List.dropWhile_suffix test).eq_of_length_le ?_
      calc characters.length
          = ((characters.dropWhile test).rdropWhile test).length := by rw [h]
        _ ≤ (characters.dropWhile test).length := (List.rdropWhile_prefix test _).length_le
    rw [hleft, List.rdropWhile_eq_self_iff] at h
    have hhead := List.dropWhile_eq_self_iff.1 hleft (List.length_pos_iff.2 hne)
    rw [← List.head_eq_getElem hne] at hhead
    exact ⟨Bool.eq_false_iff.2 hhead, Bool.eq_false_iff.2 (h hne)⟩
  · rintro ⟨hhead, hlast⟩
    have hleft : characters.dropWhile test = characters := by
      refine List.dropWhile_eq_self_iff.2 fun _ => ?_
      rw [← List.head_eq_getElem hne, hhead]
      exact Bool.false_ne_true
    rw [trimWhere_eq_rdropWhile, hleft, List.rdropWhile_eq_self_iff]
    intro _
    rw [hlast]
    exact Bool.false_ne_true

/-- Where nothing is trimmed, nothing is with more in front of it that begins with no blank. -/
theorem trimWhere_append {first : Char} (hfirst : test first = false)
    (h : trimWhere test characters = characters) (hne : characters ≠ []) :
    trimWhere test (first :: front ++ characters) = first :: front ++ characters := by
  have hlast := ((trimWhere_eq_self_iff hne).1 h).2
  refine (trimWhere_eq_self_iff (by simp)).2 ⟨hfirst, ?_⟩
  rwa [List.getLast_append_of_ne_nil _ hne]

/-- Where nothing is trimmed, nothing is with more behind it that ends with no blank. -/
theorem trimWhere_append_back {last : Char} (hlast : test last = false)
    (h : trimWhere test characters = characters) (hne : characters ≠ []) :
    trimWhere test (characters ++ (back ++ [last])) = characters ++ (back ++ [last]) := by
  have hhead := ((trimWhere_eq_self_iff hne).1 h).1
  refine (trimWhere_eq_self_iff (by simp)).2 ⟨?_, ?_⟩
  · rwa [List.head_append_of_ne_nil hne]
  · simpa using hlast

/-- A text has no blanks around it just if nothing is trimmed of it. -/
theorem trim_eq_self_iff {text : String} :
    trim text = text ↔ trimWhere isBlank text.toList = text.toList := by
  rw [trim, ← String.toList_inj, String.toList_ofList]

/-- A text without blanks around it has none with more in front of it that begins with no blank. -/
theorem trim_append {text front : String} {first : Char} {rest : List Char}
    (hfront : front.toList = first :: rest) (hfirst : isBlank first = false)
    (h : trim text = text) (hne : text ≠ "") : trim (front ++ text) = front ++ text := by
  rw [trim_eq_self_iff] at h ⊢
  rw [String.toList_append, hfront]
  exact trimWhere_append hfirst h (by simpa using hne)

/-- A text without blanks around it has none with more behind it that ends with no blank. -/
theorem trim_append_back {text back : String} {last : Char} {rest : List Char}
    (hback : back.toList = rest ++ [last]) (hlast : isBlank last = false)
    (h : trim text = text) (hne : text ≠ "") : trim (text ++ back) = text ++ back := by
  rw [trim_eq_self_iff] at h ⊢
  rw [String.toList_append, hback]
  exact trimWhere_append_back hlast h (by simpa using hne)

end Text

namespace ImageReference

/-- A component that may be a registry has a dot or a colon, or is the local host. -/
theorem isRegistry_iff (component : String) :
    isRegistry component.toList = true ↔
      '.' ∈ component.toList ∨ ':' ∈ component.toList ∨ component = "localhost" := by
  unfold isRegistry
  rw [Bool.or_eq_true, Bool.or_eq_true, List.contains_iff_mem, List.contains_iff_mem, beq_iff_eq,
    String.toList_inj, or_assoc]

/-- A digest that is not empty is what an image is asked for by. -/
theorem reference_of_digest {image : ImageReference} {digest : String}
    (h : image.digest = some digest) (hne : digest ≠ "") : image.reference = digest := by
  have hkept : (some digest).filter (fun digest => digest != "") = some digest := by
    simp [Option.filter, hne]
  unfold reference
  rw [h, hkept]

/-- Without a digest, an image is asked for by its tag. -/
theorem reference_of_tag {image : ImageReference} {tag : String} (h : image.digest = none)
    (htag : image.tag = some tag) (hne : tag ≠ "") : image.reference = tag := by
  have hkept : (some tag).filter (fun tag => tag != "") = some tag := by
    simp [Option.filter, hne]
  unfold reference
  rw [h, htag, hkept]
  rfl

end ImageReference

namespace ReferenceParts

open ImageReference

variable {parts : ReferenceParts}

/-- A name that is there is seen in the text. -/
theorem text_ne_empty (h : parts.name ≠ "") : parts.text ≠ "" := by
  have hplace : parts.place ≠ "" := by
    unfold place
    cases parts.registry <;> simp [h]
  simp [text, hplace]

end ReferenceParts

/-- What a reference is assembled from: the name is a path of components. -/
structure AssembledReference where
  registry : Option String := none
  path : List String
  tag : Option String := none
  digest : Option String := none
  deriving DecidableEq, Repr

namespace AssembledReference

open ImageReference

/-- The components of the path, a slash between each two. -/
def name (assembled : AssembledReference) : String :=
  "/".intercalate assembled.path

/-- The parts of the reference. -/
def parts (assembled : AssembledReference) : ReferenceParts where
  registry := assembled.registry
  name := assembled.name
  tag := assembled.tag
  digest := assembled.digest

/-- The reference. -/
def text (assembled : AssembledReference) : String :=
  assembled.parts.text

/-- Each part is of a form that only it may have. -/
structure WellFormed (assembled : AssembledReference) : Prop where
  registry : ∀ registry, assembled.registry = some registry →
    ('.' ∈ registry.toList ∨ ':' ∈ registry.toList ∨ registry = "localhost") ∧
      '/' ∉ registry.toList ∧ '@' ∉ registry.toList ∧ registry ≠ defaultRegistry
  path : assembled.path ≠ []
  component : ∀ component ∈ assembled.path, component ≠ "" ∧ '/' ∉ component.toList ∧
    ':' ∉ component.toList ∧ '@' ∉ component.toList
  first : assembled.registry = none →
    ∀ first second rest, assembled.path = first :: second :: rest →
      '.' ∉ first.toList ∧ first ≠ "localhost"
  tag : ∀ tag, assembled.tag = some tag →
    tag ≠ "" ∧ '/' ∉ tag.toList ∧ ':' ∉ tag.toList ∧ '@' ∉ tag.toList
  digest : ∀ digest, assembled.digest = some digest → digest ≠ ""
  visible : ∀ character ∈ assembled.text.toList, Text.isBlank character = false

/-- The image that the parts describe. -/
def image (assembled : AssembledReference) : ImageReference where
  registry := assembled.registry.getD "docker.io"
  repository :=
    if assembled.registry = none ∧ assembled.path.length = 1 then "library/" ++ assembled.name
    else assembled.name
  tag :=
    match assembled.tag, assembled.digest with
    | some tag, _ => some tag
    | none, none => some "latest"
    | none, some _ => none
  digest := assembled.digest

section WellFormed

variable {assembled : AssembledReference}

/-- A path has the characters of its components, and slashes. -/
theorem notMem_intercalate {mark : Char} {path : List String} (hslash : mark ≠ '/')
    (h : ∀ component ∈ path, mark ∉ component.toList) : mark ∉ ("/".intercalate path).toList := by
  rw [String.toList_intercalate]
  induction path with
  | nil => exact List.not_mem_nil
  | cons first rest ih =>
      obtain ⟨hfirst, hrest⟩ := List.forall_mem_cons.1 h
      cases rest with
      | nil => simpa using hfirst
      | cons second rest => simpa [hslash, hfirst] using ih hrest

/-- A path of several components begins with the first of them. -/
theorem name_eq_append {first second : String} {rest : List String}
    (h : assembled.path = first :: second :: rest) :
    assembled.name.toList = first.toList ++ '/' :: ("/".intercalate (second :: rest)).toList := by
  unfold name
  rw [h]
  simp

/-- A path of one component is this component. -/
theorem name_eq_of_singleton {first : String} (h : assembled.path = [first]) :
    assembled.name = first := by
  unfold name
  rw [h]
  simp

/-- A path has one component or begins with one of several. -/
theorem WellFormed.path_cases (h : assembled.WellFormed) :
    (∃ first, assembled.path = [first]) ∨
      ∃ first second rest, assembled.path = first :: second :: rest := by
  match hpath : assembled.path with
  | [] => exact absurd hpath h.path
  | [first] => exact .inl ⟨first, rfl⟩
  | first :: second :: rest => exact .inr ⟨first, second, rest, rfl⟩

/-- There is a slash in a path of several components. -/
theorem WellFormed.slash_mem_name_iff (h : assembled.WellFormed) :
    '/' ∈ assembled.name.toList ↔ assembled.path.length ≠ 1 := by
  rcases h.path_cases with ⟨first, hpath⟩ | ⟨first, second, rest, hpath⟩
  · have hslash := (h.component first (by simp [hpath])).2.1
    simp [name_eq_of_singleton hpath, hpath, hslash]
  · simp [name_eq_append hpath, hpath]

/-- A path is not empty. -/
theorem WellFormed.name_ne_empty (h : assembled.WellFormed) : assembled.name ≠ "" := by
  rcases h.path_cases with ⟨first, hpath⟩ | ⟨first, second, rest, hpath⟩
  · rw [name_eq_of_singleton hpath]
    exact (h.component first (by simp [hpath])).1
  · intro hempty
    have hname := name_eq_append hpath
    rw [hempty] at hname
    simp at hname

/-- There is no colon in a path. -/
theorem WellFormed.colon_notMem_name (h : assembled.WellFormed) : ':' ∉ assembled.name.toList :=
  notMem_intercalate (by decide) fun component hmem => (h.component component hmem).2.2.1

/-- There is no at sign before the tag. -/
theorem WellFormed.at_notMem_place (h : assembled.WellFormed) :
    '@' ∉ assembled.parts.place.toList := by
  have hname : '@' ∉ assembled.name.toList :=
    notMem_intercalate (by decide) fun component hmem => (h.component component hmem).2.2.2
  unfold ReferenceParts.place
  split
  · next registry hregistry =>
      have hregistry := (h.registry registry hregistry).2.2.1
      simp [parts, hname, hregistry]
  · exact hname

/-- Well-formed parts are told apart. -/
theorem WellFormed.readable (h : assembled.WellFormed) : assembled.parts.Readable where
  registry := by
    intro registry hregistry
    obtain ⟨hknown, hslash, _⟩ := h.registry registry hregistry
    exact ⟨(isRegistry_iff registry).2 hknown, hslash⟩
  unnamed := by
    intro hnone first rest hname hfirst
    change assembled.name.toList = _ at hname
    rcases h.path_cases with ⟨only, hpath⟩ | ⟨head, second, others, hpath⟩
    · -- There is no slash in a single component.
      have hslash := h.slash_mem_name_iff.not.2 (by simp [hpath])
      simp [hname] at hslash
    · obtain ⟨_, hheadslash, hcolon, _⟩ := h.component head (by simp [hpath])
      obtain ⟨hdot, hlocal⟩ := h.first hnone head second others hpath
      have hcut := cutFirst_append_mark hfirst rest
      rw [← hname, name_eq_append hpath, cutFirst_append_mark hheadslash] at hcut
      rw [← (Prod.mk.inj hcut).1, ← Bool.not_eq_true, isRegistry_iff]
      simp [hdot, hcolon, hlocal]
  tag := fun tag htag => ⟨(h.tag tag htag).2.2.1, (h.tag tag htag).2.1⟩
  untagged := by
    intro _
    have huntagged : Untagged assembled.name.toList := by
      intro before after hname
      have hcolon := h.colon_notMem_name
      simp [hname] at hcolon
    unfold ReferenceParts.place
    split
    · next registry _ => simpa [parts] using huntagged.append registry.toList
    · exact huntagged
  digest := by
    rw [String.toList_append, List.mem_append, not_or]
    refine ⟨h.at_notMem_place, ?_⟩
    cases htag : assembled.tag with
    | none => simp [parts, htag, ReferenceParts.marked]
    | some tag => simpa [parts, htag, ReferenceParts.marked] using (h.tag tag htag).2.2.2

/-- The parts of an assembled reference name the image that is described. -/
theorem WellFormed.image_parts (h : assembled.WellFormed) :
    assembled.parts.image = assembled.image := by
  have hslash : '/' ∉ assembled.name.toList ↔ assembled.path.length = 1 := by
    rw [h.slash_mem_name_iff, not_not]
  unfold ReferenceParts.image image parts
  simp only [hslash]
  cases assembled.tag <;> cases assembled.digest <;> simp [defaultTag, defaultRegistry]

/-- A reference that is assembled from well-formed parts is read as the image that they describe. It
is asked for by its digest, else by its tag. -/
theorem reads_assembled (h : assembled.WellFormed) :
    parse? assembled.text = some assembled.image ∧
      assembled.image.reference = assembled.digest.getD (assembled.tag.getD "latest") := by
  have hname := h.name_ne_empty
  constructor
  · rw [← h.image_parts]
    refine h.readable.parse?_eq_some_iff.2 ⟨⟨?_, ?_, fun hnameless => hname hnameless.2⟩, rfl⟩
    · exact ReferenceParts.text_ne_empty hname
    · exact Text.trim_eq_self_iff.2 (Text.trimWhere_of_forall h.visible)
  · cases hdigest : assembled.digest with
    | some digest => exact reference_of_digest hdigest (h.digest digest hdigest)
    | none =>
        cases htag : assembled.tag with
        | some tag => exact reference_of_tag hdigest (by simp [image, htag]) (h.tag tag htag).1
        | none => exact reference_of_tag hdigest (by simp [image, htag, hdigest]) (by decide)

/-- A reference with all its parts, on a local registry with a port, is read. -/
theorem reads_assembled_pinned :
    (⟨some "localhost:5000", ["team", "app"], some "1.2", some "sha256:abc"⟩ :
        AssembledReference).WellFormed ∧
      parse? "localhost:5000/team/app:1.2@sha256:abc" =
        some ⟨"localhost:5000", "team/app", some "1.2", some "sha256:abc"⟩ := by
  have h : (⟨some "localhost:5000", ["team", "app"], some "1.2", some "sha256:abc"⟩ :
      AssembledReference).WellFormed := by
    constructor
    · rintro _ ⟨⟩
      decide
    · decide
    · decide
    · nofun
    · rintro _ ⟨⟩
      decide
    · rintro _ ⟨⟩
      decide
    · have hvisible : "localhost:5000/team/app:1.2@sha256:abc".toList.all
          (fun character => !Text.isBlank character) = true := by
        decide
      exact fun character hmem => by simpa using List.all_eq_true.1 hvisible character hmem
  exact ⟨h, (reads_assembled h).1⟩

end WellFormed

end AssembledReference

namespace ImageReference

/-- A registry comes first in a reference, before a slash. -/
def NamesRegistry (text : String) : Prop :=
  ∃ registry rest, text = registry ++ "/" ++ rest ∧ isRegistry registry.toList = true ∧
    '/' ∉ registry.toList ∧ '@' ∉ registry.toList

/-- There is a slash in a reference, before its digest. -/
def HasSeveralComponents (text : String) : Prop :=
  ∃ first rest, text = first ++ "/" ++ rest ∧ '@' ∉ first.toList

end ImageReference

namespace ReferenceParts

open ImageReference

/-- The reference with the default registry. -/
def explicit (parts : ReferenceParts) : ReferenceParts :=
  { parts with registry := some defaultRegistry }

section DefaultRegistry

variable {parts : ReferenceParts}

/-- A registry that is a part of a reference is named by it. -/
theorem Readable.registry_eq_none (h : parts.Readable) (hnone : ¬ NamesRegistry parts.text) :
    parts.registry = none := by
  cases hregistry : parts.registry with
  | none => rfl
  | some registry =>
      obtain ⟨hknown, hslash⟩ := h.registry registry hregistry
      refine absurd ⟨registry, parts.name ++ marked ":" parts.tag ++ marked "@" parts.digest, ?_,
        hknown, hslash, h.notMem_registry hregistry⟩ hnone
      simp only [text, place, hregistry, String.append_assoc]

/-- Without a registry, the components of a reference are those of its name. -/
theorem Readable.hasSeveralComponents_iff (h : parts.Readable) (hnone : parts.registry = none) :
    HasSeveralComponents parts.text ↔ '/' ∈ parts.name.toList := by
  have hplace : parts.place = parts.name := by
    simp [place, hnone]
  constructor
  · intro hseveral
    obtain ⟨first, rest, htext, hfirst⟩ := hseveral
    have hcut := h.cutFirst_text
    rw [htext, String.append_assoc, String.toList_append, cutFirst_append hfirst, hplace] at hcut
    have hslash : '/' ∈ (parts.name ++ marked ":" parts.tag).toList := by
      rw [← (Prod.mk.inj hcut).1]
      simp [cutFirst_cons]
    rw [String.toList_append, List.mem_append] at hslash
    refine hslash.resolve_right fun hmarked => ?_
    cases htag : parts.tag with
    | none => simp [marked, htag] at hmarked
    | some tag => exact (h.tag tag htag).2 (by simpa [marked, htag] using hmarked)
  · intro hslash
    obtain ⟨first, rest, hname, _⟩ := List.eq_append_cons_of_mem hslash
    have hat : '@' ∉ first := by
      have hdigest := h.digest
      rw [hplace, String.toList_append, hname] at hdigest
      exact fun hmem => hdigest (by simp [hmem])
    refine ⟨String.ofList first,
      String.ofList rest ++ marked ":" parts.tag ++ marked "@" parts.digest, ?_, by simpa using hat⟩
    rw [← String.toList_inj]
    simp [text, hplace, hname]

/-- The default registry is told from the other parts. -/
theorem Readable.explicit (h : parts.Readable) (hnone : parts.registry = none) :
    parts.explicit.Readable where
  registry := by
    rintro _ ⟨⟩
    decide
  unnamed := nofun
  tag := h.tag
  untagged := by
    intro htag
    have huntagged : Untagged parts.name.toList := by
      simpa [place, hnone] using h.untagged htag
    simpa [place, ReferenceParts.explicit] using huntagged.append defaultRegistry.toList
  digest := by
    have hdigest : '@' ∉ (parts.name ++ marked ":" parts.tag).toList := by
      simpa [place, hnone] using h.digest
    have hdefault : '@' ∉ defaultRegistry.toList := by
      decide
    rw [String.toList_append, List.mem_append, not_or] at hdigest
    simpa [place, ReferenceParts.explicit] using ⟨hdefault, hdigest⟩

/-- The default registry is written in front. -/
theorem text_explicit (hnone : parts.registry = none) :
    parts.explicit.text = "docker.io/" ++ parts.text := by
  simp only [text, place, explicit, hnone, String.append_assoc]
  rfl

/-- In the default registry, a reference needs a name. -/
theorem nameless_explicit_iff : parts.explicit.Nameless ↔ parts.name = "" := by
  simp [Nameless, explicit]

end DefaultRegistry

end ReferenceParts

namespace ImageReference

/-- A reference that names no registry, with the default one named in front: nothing changes for a
name of several components. A name of one component is read as it is, and not as one of the library,
so a reference without a name is not read any more. -/
theorem reads_explicit_default {text : String} {image : ImageReference}
    (h : parse? text = some image) (hnone : ¬ NamesRegistry text) :
    (HasSeveralComponents text → parse? ("docker.io/" ++ text) = some image) ∧
      (¬ HasSeveralComponents text → ∃ name, image.repository = "library/" ++ name ∧
        parse? ("docker.io/" ++ text) =
          if name = "" then none else some { image with repository := name }) := by
  obtain ⟨parts, hreadable, rfl⟩ := ReferenceParts.exists_readable text
  obtain ⟨⟨hne, htrim, _⟩, rfl⟩ := hreadable.parse?_eq_some_iff.1 h
  have hregistry := hreadable.registry_eq_none hnone
  have hparse : parse? ("docker.io/" ++ parts.text) =
      if parts.name = "" then none else some parts.explicit.image := by
    have htrimmed : Text.trim ("docker.io/" ++ parts.text) = "docker.io/" ++ parts.text :=
      Text.trim_append rfl (by decide) htrim hne
    rw [← ReferenceParts.text_explicit hregistry] at htrimmed ⊢
    have htext : parts.explicit.text ≠ "" := by
      simp [ReferenceParts.text_explicit hregistry]
    rw [(hreadable.explicit hregistry).parse?_text]
    simp [htrimmed, htext, ReferenceParts.nameless_explicit_iff]
  rw [hreadable.hasSeveralComponents_iff hregistry, hparse]
  constructor
  · intro hslash
    have hname : parts.name ≠ "" := by
      intro hempty
      rw [hempty] at hslash
      exact absurd hslash (by decide)
    rw [if_neg hname]
    simp [ReferenceParts.image, ReferenceParts.explicit, hregistry, hslash]
  · intro hslash
    have himage : parts.explicit.image = { parts.image with repository := parts.name } := by
      simp [ReferenceParts.image, ReferenceParts.explicit, hregistry]
    exact ⟨parts.name, by simp [ReferenceParts.image, hregistry, hslash], by rw [himage]⟩

/-- A reference without a slash names no registry. -/
theorem not_namesRegistry_of_notMem {text : String} (h : '/' ∉ text.toList) :
    ¬ NamesRegistry text := by
  rintro ⟨registry, rest, rfl, _⟩
  simp at h

/-- The image of a name of one component, and what becomes of it when the default registry is named:
it is not in the library any more. -/
theorem reads_explicit_default_nginx :
    parse? "nginx" = some ⟨"docker.io", "library/nginx", some "latest", none⟩ ∧
      ¬ NamesRegistry "nginx" ∧ ¬ HasSeveralComponents "nginx" ∧
      ∃ name, "library/nginx" = "library/" ++ name ∧ parse? "docker.io/nginx" =
        if name = "" then none else some ⟨"docker.io", name, some "latest", none⟩ := by
  have hparse : parse? "nginx" = some ⟨"docker.io", "library/nginx", some "latest", none⟩ := by
    decide
  have hnone : ¬ NamesRegistry "nginx" := not_namesRegistry_of_notMem (by decide)
  have hsingle : ¬ HasSeveralComponents "nginx" := by
    rintro ⟨first, rest, htext, _⟩
    have hslash : '/' ∉ "nginx".toList := by
      decide
    simp [htext] at hslash
  exact ⟨hparse, hnone, hsingle, (reads_explicit_default hparse hnone).2 hsingle⟩

/-- Naming the default registry is not without effect. -/
theorem not_reads_explicit_default_alike :
    ¬ ∀ text image, parse? text = some image → ¬ NamesRegistry text →
      parse? ("docker.io/" ++ text) = some image := by
  intro h
  have hsame := h "nginx" ⟨"docker.io", "library/nginx", some "latest", none⟩ (by decide)
    (not_namesRegistry_of_notMem (by decide))
  exact absurd hsame (by decide)

/-- Every text is a reference with parts that are told apart. It is read if it is not empty, has no
blanks around it, and does not name a registry and nothing in it. So a part of a reference that is
read may be missing: its name, but only in the library of the default registry, and its tag or
digest, which is then read as an empty one. -/
theorem reads_missing_parts (text : String) :
    ∃ parts : ReferenceParts, parts.Readable ∧ parts.text = text ∧
      ((∃ image, parse? text = some image) ↔
        text ≠ "" ∧ Text.trim text = text ∧ (parts.name = "" → parts.registry = none)) ∧
      ∀ image, parse? text = some image →
        (parts.name = "" → image.registry = defaultRegistry ∧ image.repository = "library/") ∧
          (parts.name ≠ "" → image.repository = parts.name ∨
            image.repository = "library/" ++ parts.name) ∧
          (image.tag = some "" ↔ parts.tag = some "") ∧
          (image.digest = some "" ↔ parts.digest = some "") := by
  obtain ⟨parts, hreadable, rfl⟩ := ReferenceParts.exists_readable text
  have hnameless : ¬ parts.Nameless ↔ (parts.name = "" → parts.registry = none) := by
    rw [ReferenceParts.Nameless, not_and', not_not]
  refine ⟨parts, hreadable, rfl, ?_, ?_⟩
  · simp [hreadable.parse?_eq_some_iff, hnameless]
  · intro image himage
    obtain ⟨⟨_, _, hname⟩, rfl⟩ := hreadable.parse?_eq_some_iff.1 himage
    refine ⟨fun hempty => ?_, fun _ => ?_, ?_, Iff.rfl⟩
    · have hregistry := hnameless.1 hname hempty
      simp [ReferenceParts.image, hregistry, hempty]
    · unfold ReferenceParts.image
      split
      · exact .inr rfl
      · exact .inl rfl
    · unfold ReferenceParts.image
      cases parts.tag <;> cases parts.digest <;> simp [defaultTag]

/-- A reference without a name, one with an empty tag and one with an empty digest are read. -/
theorem not_reads_missing_parts_rejected :
    (¬ ∀ (parts : ReferenceParts) (image : ImageReference), parts.Readable →
        parse? parts.text = some image → parts.name ≠ "") ∧
      (¬ ∀ text image, parse? text = some image → image.tag ≠ some "") ∧
      ¬ ∀ text image, parse? text = some image → image.digest ≠ some "" := by
  refine ⟨fun h => ?_, fun h => ?_, fun h => ?_⟩
  · have hreadable : (⟨none, "", some "v1", none⟩ : ReferenceParts).Readable := by
      constructor
      · nofun
      · intro _ first rest hname
        simp at hname
      · rintro _ ⟨⟩
        decide
      · nofun
      · decide
    exact h _ ⟨"docker.io", "library/", some "v1", none⟩ hreadable (by decide) rfl
  · exact h "nginx:" ⟨"docker.io", "library/nginx", some "", none⟩ (by decide) rfl
  · exact h "nginx@" ⟨"docker.io", "library/nginx", none, some ""⟩ (by decide) rfl

end ImageReference

end MonitorOperator
