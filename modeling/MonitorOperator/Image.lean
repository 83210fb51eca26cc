import MonitorOperator.Fault
import MonitorOperator.Text.Blank
import MonitorOperator.Text.Cut

/-!
# Image references

A reference such as `quay.io/team/app:1.2@sha256:…` names an image by a registry, a repository, a tag
and a digest. The first component of the name is the registry if it has a dot or a colon or is
`localhost`; otherwise the image is on Docker Hub, where a name of one component belongs to the
library.
-/

namespace MonitorOperator

/-- A parsed image reference. -/
structure ImageReference where
  registry : String
  repository : String
  tag : Option String
  digest : Option String
  deriving DecidableEq, Repr

namespace ImageReference

/-- The registry of an image that names none. -/
def defaultRegistry : String := "docker.io"

/-- The tag of an image that names neither tag nor digest. -/
def defaultTag : String := "latest"

/-- What a manifest is asked for by: the digest, else the tag, else the default tag. -/
def reference (image : ImageReference) : String :=
  match image.digest.filter (· != ""), image.tag.filter (· != "") with
  | some digest, _ => digest
  | none, some tag => tag
  | none, none => defaultTag

/-- The host that serves the registry's API. -/
def apiHost (image : ImageReference) : String :=
  if image.registry = defaultRegistry then "registry-1.docker.io" else image.registry

/-- What stands before and after the first occurrence of a character, or everything and nothing. -/
def cutFirst (mark : Char) (characters : List Char) : List Char × Option (List Char) :=
  match Text.cutAt [mark] characters with
  | some (before, rest) => (before, some rest)
  | none => (characters, none)

/-- A name and the tag after the last colon of its last component. -/
def cutTag (name : List Char) : List Char × Option (List Char) :=
  let backwards := name.reverse
  let isMark := fun character : Char => character == ':' || character == '/'
  match backwards.dropWhile fun character => !isMark character with
  | ':' :: rest =>
      (rest.reverse, some (backwards.takeWhile fun character => !isMark character).reverse)
  | _ => (name, none)

/-- A component that is a registry when more components follow it. -/
def isRegistry (component : List Char) : Bool :=
  component.contains '.' || component.contains ':' || component == "localhost".toList

/-- The registry and repository of a name without tag and digest. -/
def locate (name : List Char) : List Char × List Char :=
  match cutFirst '/' name with
  | (first, some rest) =>
      if isRegistry first then (first, rest) else (defaultRegistry.toList, name)
  | (_, none) => (defaultRegistry.toList, "library/".toList ++ name)

/-- The parts of a reference, if its name is not empty. -/
def ofCharacters? (characters : List Char) : Option ImageReference :=
  let (name, digest) := cutFirst '@' characters
  let (name, tag) := cutTag name
  let (registry, repository) := locate name
  if repository.isEmpty then none
  else
    some
      { registry := String.ofList registry
        repository := String.ofList repository
        tag :=
          if tag.isNone && digest.isNone then some defaultTag else tag.map String.ofList
        digest := digest.map String.ofList }

/-- The parts of a reference. It must not be empty or have blanks around it. -/
def parse? (text : String) : Option ImageReference :=
  if text = "" || Text.trim text != text then none else ofCharacters? text.toList

/-- The parts of what a manifest gives as reference. -/
def ofDocument (document : Document) : Except Fault ImageReference :=
  match document with
  | .scalar (.text text) =>
      match parse? text with
      | some image => .ok image
      | none => .error (.value (.imageReference document))
  | _ =>
      if document.truthy then .error .noSuchMember
      else .error (.value (.imageReference document))

end ImageReference

end MonitorOperator
